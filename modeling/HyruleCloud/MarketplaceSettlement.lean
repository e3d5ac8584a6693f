import HyruleCloud.MarketplaceLimit

/-!
A registration that is recorded as settled. Success is recorded by a conditional
update, a failure whatever the row says. The records agree with the facilitator in a
run in which it is asked about a registration by one attempt at a time, and not again
after it has collected the payment.
-/

namespace HyruleCloud

open Interaction Function

/-- What is recorded about a settlement stays, and no failure is recorded for a
registration whose payment was collected. -/
structure SettledStays (mid final : Market) : Prop where
  registration : ∀ r row, mid.registrations r = some row → row.settlementState = .settled →
    ∃ later, final.registrations r = some later ∧ later.settlementState = .settled ∧
      later.authorizationHash = row.authorizationHash ∧ later.payerAddress = row.payerAddress
  payment : ∀ r row id order, mid.registrations r = some row → row.settlementState = .settled →
    row.orderId = some id → mid.orders id = some order → order.paymentTx ≠ none →
    ∃ later, final.orders id = some later ∧ later.paymentTx = order.paymentTx ∧
      later.payer = order.payer
  failed : ∀ failure ∈ final.failures, failure.2 = false

/-- The facilitator is asked while no payment for the registration is collected and no
other attempt has an answer that it has not recorded. -/
def AsksAlone (step : MarketStep) (m : Market) : Prop :=
  match step with
  | .settle h _ _ => match m.attempt h with
      | .reserved r _ _ _ => m.collected r = false ∧
          ∀ other ambiguous, m.attempt other ≠ .refused r ambiguous
      | _ => True
  | _ => True

def soloMarket (limit : Nat) : Protocol Market MarketStep where
  step := marketStep limit
  may step m := mayTrade step m ∧ AsksAlone step m

def Attempt.charge : Attempt → Option Charge
  | .charged charge _ | .paid charge => some charge
  | _ => none

def IsCharge (charge : Charge) (m : Market) : Prop :=
  charge ∈ m.ledger ∨ ∃ h, (m.attempt h).charge = some charge

def PaidAs (charge : Charge) (order : DomainOrderRow) : Prop :=
  (order.paymentTx = none ∧ order.payer = none) ∨
    (order.paymentTx = some charge.tx ∧ order.payer = some charge.payer)

variable {order loaded written : DomainOrderRow} {charge : Charge} {attempt : Attempt}

variable {s s' : Store}

variable {id : OrderId}

theorem refunded_payment {next : DomainOrderRow} {code : String}
    (done : refundOrder id order code s = .ok (s', next)) :
    next.paymentTx = order.paymentTx ∧ next.payer = order.payer := by
  unfold refundOrder at done
  split at done
  · cases done
    exact ⟨rfl, rfl⟩
  · dsimp only at done
    split at done
    · cases done
    · cases done
      exact ⟨rfl, rfl⟩

section
variable {id : OrderId} {args : MarkArgs} {now : Time} {operation : OperationId}
  {waiverRevoked : Bool} {s s' : Store}

theorem markPaid_payment (found : s.orders id = some loaded)
    (done : markPaid id args now operation waiverRevoked s = .ok (s', written)) :
    (written.paymentTx = args.txHash ∧ written.payer = some args.payer) ∨ written = loaded := by
  have refund {code : String} {t : Store}
      (refunded : refundOrder id (attributeSettlement loaded args now) code t = .ok (s', written)) :
      (written.paymentTx = args.txHash ∧ written.payer = some args.payer) ∨ written = loaded :=
    Or.inl (refunded_payment refunded)
  simp only [markPaid, found] at done
  split at done
  · cases done
    exact Or.inl ⟨rfl, rfl⟩
  · split at done
    · exact refund done
    split at done
    · cases done
      exact Or.inr rfl
    · split at done
      · exact refund done
      split at done
      · exact refund done
      split at done
      · exact refund done
      split at done
      · exact refund done
      · obtain ⟨_, accepted, _⟩ := queued_order id _ written now operation _ s' done
        rw [accepted]
        exact Or.inl ⟨rfl, rfl⟩

theorem markPaid_others (done : markPaid id args now operation waiverRevoked s = .ok (s', written))
    (other : OrderId) (different : other ≠ id) : s'.orders other = s.orders other := by
  obtain ⟨row, _, outcome⟩ := markPaid_outcome id args now operation waiverRevoked s s' written done
  cases outcome with
  | revoked waived waiting failed stored =>
    rw [stored]
    exact put_other _ _ different
  | refunded code quotes opened refund =>
    rw [(refunded_order refund).2.2]
    exact put_other _ _ different
  | ignored handled same kept => rw [same]
  | queued quotes waiting queue =>
    obtain ⟨_, _, stored⟩ := queued_order id _ written now operation _ s' queue
    rw [stored]
    exact put_other _ _ different

end

theorem flushOrder_payment {current : DomainOrderRow} (sound : PaidAs charge loaded)
    (wrote : (written.paymentTx = some charge.tx ∧ written.payer = some charge.payer) ∨
      written = loaded) (paid : PaidAs charge current) :
    PaidAs charge (flushOrder loaded written current) ∧ (current.paymentTx ≠ none →
      (flushOrder loaded written current).paymentTx = current.paymentTx ∧
        (flushOrder loaded written current).payer = current.payer) := by
  rcases wrote with ⟨tx, payer⟩ | rfl
  · rcases sound with ⟨no_tx, no_payer⟩ | ⟨same_tx, same_payer⟩
    · rcases paid with ⟨nothing, _⟩ | ⟨now_tx, now_payer⟩
      · simp [PaidAs, flushOrder, tx, payer, no_tx, no_payer, nothing]
      · simp [PaidAs, flushOrder, tx, payer, no_tx, no_payer, now_tx, now_payer]
    · have kept : (flushOrder loaded written current).paymentTx = current.paymentTx ∧
          (flushOrder loaded written current).payer = current.payer := by
        simp [flushOrder, tx, payer, same_tx, same_payer]
      exact ⟨by simpa only [PaidAs, kept.1, kept.2] using paid, fun _ => kept⟩
  · have kept : flushOrder written written current = current := by simp [flushOrder]
    rw [kept]
    exact ⟨paid, fun _ => ⟨rfl, rfl⟩⟩

variable {operation : OperationId}

theorem markPaidLoaded_payment {now : Time}
    (sound : PaidAs charge loaded)
    (done : markPaidLoaded loaded charge.order charge.args now operation false s =
      .ok (s', written)) :
    (∀ other, other ≠ charge.order → s'.orders other = s.orders other) ∧
      ∃ current, s.orders charge.order = some current ∧ ∃ later,
        s'.orders charge.order = some later ∧ (PaidAs charge current →
          PaidAs charge later ∧ (current.paymentTx ≠ none →
            later.paymentTx = current.paymentTx ∧ later.payer = current.payer)) := by
  unfold markPaidLoaded at done
  cases found : s.orders charge.order with
  | none => simp [found] at done
  | some current =>
    simp only [found] at done
    cases marked : markPaid charge.order charge.args now operation false
        { s with orders := s.orders.put charge.order loaded } with
    | error error => simp [marked] at done
    | ok result =>
      simp only [marked, Except.ok.injEq, Prod.mk.injEq] at done
      obtain ⟨rfl, rfl⟩ := done
      refine ⟨fun other different => ?_, current, rfl, _, put_same _ _ _, fun paid => ?_⟩
      · exact (put_other _ _ different).trans ((markPaid_others marked other different).trans
          (put_other _ _ different))
      · exact flushOrder_payment sound (markPaid_payment (put_same _ _ _) marked) paid

/-! What a step does to the attempts and to the money. -/

structure SameMoney (m next : Market) : Prop where
  ledger : next.ledger = m.ledger
  collected : next.collected = m.collected

inductive Dealing (m next : Market) : MarketStep → Prop
  | still (step : MarketStep) (attempts : next.attempt = m.attempt) (money : SameMoney m next)
      (failures : next.failures = m.failures) (orders : KeepsPayments m.toStore next.toStore) :
      Dealing m next step
  | moved (step : MarketStep) (h : ProcessId) (attempt : Attempt)
      (attempts : next.attempt = update m.attempt h attempt)
      (known : ∀ charge, attempt.charge = some charge → IsCharge charge m)
      (calm : ∀ r ambiguous, attempt ≠ .refused r ambiguous)
      (loaded : ∀ charge row, attempt = .charged charge (some row) →
        m.orders charge.order = some row)
      (money : SameMoney m next)
      (failures : next.failures = m.failures ∨ ∃ r, m.attempt h = .refused r false ∧
        next.failures = (r, m.collected r) :: m.failures)
      (orders : KeepsPayments m.toStore next.toStore) : Dealing m next step
  | charged (h : ProcessId) (answer : FacilitatorAnswer) (stored : Bool) (charge : Charge)
      (hash : AuthorizationHash)
      (held : m.attempt h = .reserved charge.registration charge.order charge.payer hash)
      (attempts : next.attempt = update m.attempt h (.charged charge none))
      (ledger : next.ledger = m.ledger ∨ next.ledger = charge :: m.ledger)
      (collected : next.collected = update m.collected charge.registration true)
      (failures : next.failures = m.failures) (orders : next.orders = m.orders) :
      Dealing m next (.settle h answer stored)
  | declined (h : ProcessId) (answer : FacilitatorAnswer) (stored : Bool) (r : RegistrationId)
      (order : OrderId) (payer : Wallet) (hash : AuthorizationHash) (ambiguous : Bool)
      (held : m.attempt h = .reserved r order payer hash)
      (attempts : next.attempt = update m.attempt h (.refused r ambiguous))
      (ledger : next.ledger = m.ledger)
      (collected : next.collected = m.collected ∨
        ambiguous = true ∧ next.collected = update m.collected r true)
      (failures : next.failures = m.failures) (orders : next.orders = m.orders) :
      Dealing m next (.settle h answer stored)
  | paid (h : ProcessId) (operation : OperationId) (fate : Fate) (charge : Charge)
      (loaded written : DomainOrderRow) (attempt : Attempt)
      (held : m.attempt h = .charged charge (some loaded))
      (attempts : next.attempt = update m.attempt h attempt)
      (after : attempt = .paid charge ∨ attempt = .charged charge none)
      (money : SameMoney m next) (failures : next.failures = m.failures)
      (done : markPaidLoaded loaded charge.order charge.args m.clock operation false m.toStore =
        .ok (next.toStore, written)) :
      Dealing m next (.pay h operation fate)

section Dealings
variable {limit : Nat} {m : Market}

theorem KeepsPayments.refl (s : Store) : KeepsPayments s s :=
  fun _ order found => ⟨order, found, rfl, rfl⟩

theorem put_keepsPayments {new : DomainOrderRow}
    (found : s.orders id = some order) (orders : s'.orders = s.orders.put id new)
    (tx : new.paymentTx = order.paymentTx) (payer : new.payer = order.payer) :
    KeepsPayments s s' := by
  intro other row there
  rw [orders]
  exact put_relates
    (R := fun row later => later.paymentTx = row.paymentTx ∧ later.payer = row.payer)
    found (fun _ => ⟨rfl, rfl⟩) ⟨tx, payer⟩ there

theorem expire_keepsPayments (now : Time)
    (found : s.orders id = some order)
    (orders : s'.orders = (expireUnpaidOrder id order now s).orders) : KeepsPayments s s' := by
  rcases (expireUnpaidOrder_frame id order now s).2.2 with same | ⟨_, expired⟩
  · rw [same] at orders
    intro other row there
    exact ⟨row, by rw [orders, there], rfl, rfl⟩
  · rw [expired] at orders
    exact put_keepsPayments found orders rfl rfl

theorem paymentGuard_payments {order : OrderId} {swept : Market}
    (refused : paymentGuard order m = .error swept) : KeepsPayments m.toStore swept.toStore := by
  unfold paymentGuard at refused
  split at refused
  · cases refused
    exact .refl _
  · rename_i row found
    split at refused
    · cases refused
      exact .refl _
    · split at refused
      · cases refused
        exact expire_keepsPayments _ found rfl
      · dsimp only at refused
        split at refused
        · cases refused
        cases refused
        refine expire_keepsPayments m.clock found ?_
        split <;> rfl

theorem reserve_dealing (h : ProcessId) (bid : Bid) (fate : Fate) :
    Dealing m (marketStep limit (.reserve h bid fate) m) (.reserve h bid fate) := by
  simp only [marketStep]
  split
  · generalize ran : transact (createMarketplaceOrder limit bid) fate m = result
    obtain ⟨after, reply⟩ := result
    have frame : after.attempt = m.attempt ∧ SameMoney m after ∧ after.failures = m.failures ∧
        KeepsPayments m.toStore after.toStore := by
      rcases transact_ends _ _ _ _ _ ran with ⟨rfl, _⟩ | ⟨order, done, _⟩
      · exact ⟨rfl, ⟨rfl, rfl⟩, rfl, .refl _⟩
      cases createMarketplaceOrder_reservation done with
      | unchanged _ _ _ same | reentered _ _ _ _ _ _ same =>
        subst same
        exact ⟨rfl, ⟨rfl, rfl⟩, rfl, .refl _⟩
      | first row quote found unordered room fresh drawn written =>
        subst written
        refine ⟨rfl, ⟨rfl, rfl⟩, rfl, fun other old there => ⟨old, ?_, rfl, rfl⟩⟩
        have different : other ≠ bid.order := keys_apart there fresh (by simp)
        exact (put_other _ _ different).trans there
    obtain ⟨attempts, money, failures, orders⟩ := frame
    cases reply with
    | ok order =>
      refine .moved _ h (.reserved bid.registration order bid.payer bid.hash) ?_
        (fun _ named => by cases named) (fun _ _ same => by cases same)
        (fun _ _ same => by cases same) ⟨money.1, money.2⟩ (Or.inl failures) orders
      simp only [Market.goOn, attempts]
    | error error => exact .still _ attempts money failures orders
  · exact .still _ rfl ⟨rfl, rfl⟩ rfl (.refl _)

theorem settle_dealing (h : ProcessId) (answer : FacilitatorAnswer) (stored : Bool) :
    Dealing m (settleVerified h answer stored m) (.settle h answer stored) := by
  unfold settleVerified
  split
  · rename_i r order payer hash held
    split
    · rename_i swept refused
      have payments := paymentGuard_payments refused
      obtain ⟨s, rfl⟩ := paymentGuard_books refused
      exact .moved _ h .idle rfl (fun _ named => by cases named) (fun _ _ same => by cases same)
        (fun _ _ same => by cases same) ⟨rfl, rfl⟩ (Or.inl rfl) payments
    · cases answer with
      | success tx =>
        refine .charged h _ stored ⟨r, order, payer, tx⟩ hash held rfl ?_ rfl rfl rfl
        cases stored with
        | false => exact Or.inl rfl
        | true => exact Or.inr rfl
      | failure => exact .declined h _ stored r order payer hash false held rfl rfl (Or.inl rfl) rfl rfl
      | exception moved =>
        cases moved with
        | false =>
          exact .declined h _ stored r order payer hash true held rfl rfl (Or.inl rfl) rfl rfl
        | true =>
          exact .declined h _ stored r order payer hash true held rfl rfl (Or.inr ⟨rfl, rfl⟩) rfl
            rfl
  · exact .still _ rfl ⟨rfl, rfl⟩ rfl (.refl _)

theorem sweep_dealing (h : ProcessId) (charge : Charge) :
    Dealing m (sweepCharge h charge m) (.sweep h charge) := by
  unfold sweepCharge
  split
  · split
    · rename_i listed
      have known : IsCharge charge m := Or.inl listed
      split
      · refine .moved _ h _ rfl (fun _ named => ?_) (fun _ _ same => by cases same)
          (fun _ _ same => by cases same) ⟨rfl, rfl⟩ (Or.inl rfl) (.refl _)
        exact Option.some.inj named ▸ known
      · refine .moved _ h _ rfl (fun _ named => ?_) (fun _ _ same => by cases same)
          (fun _ _ same => by cases same) ⟨rfl, rfl⟩ (Or.inl rfl) (.refl _)
        exact Option.some.inj named ▸ known
    · exact .still _ rfl ⟨rfl, rfl⟩ rfl (.refl _)
  · exact .still _ rfl ⟨rfl, rfl⟩ rfl (.refl _)

theorem held_charge {h : ProcessId} (held : m.attempt h = attempt)
    (named : attempt.charge = some charge) : IsCharge charge m :=
  Or.inr ⟨h, by rw [held, named]⟩

theorem load_dealing (h : ProcessId) : Dealing m (loadOrder h m) (.load h) := by
  unfold loadOrder
  split
  · rename_i charge loaded held
    refine .moved _ h _ rfl (fun _ named => ?_) (fun _ _ same => by cases same) (fun _ row same => ?_)
      ⟨rfl, rfl⟩ (Or.inl rfl) (.refl _)
    · exact Option.some.inj named ▸ held_charge held rfl
    · simp only [Attempt.charged.injEq] at same
      obtain ⟨rfl, found⟩ := same
      exact found
  · exact .still _ rfl ⟨rfl, rfl⟩ rfl (.refl _)

theorem pay_dealing (h : ProcessId) (operation : OperationId) (fate : Fate) :
    Dealing m (markOrderPaid h operation fate m) (.pay h operation fate) := by
  unfold markOrderPaid
  split
  · rename_i charge loaded held
    generalize ran : transact (markPaidLoaded loaded charge.order charge.args m.clock operation false)
      fate m.toStore = result
    obtain ⟨s, reply⟩ := result
    rcases transact_ends _ _ _ _ _ ran with ⟨rfl, error, rfl, _⟩ | ⟨written, done, rfl | rfl⟩
    · refine .moved _ h _ rfl (fun _ named => ?_) (fun _ _ same => by cases same)
        (fun _ _ same => by cases same) ⟨rfl, rfl⟩ (Or.inl rfl) (.refl _)
      exact Option.some.inj named ▸ held_charge held rfl
    · exact .paid h operation fate charge loaded written _ held rfl (Or.inl rfl) ⟨rfl, rfl⟩ rfl done
    · exact .paid h operation fate charge loaded written _ held rfl (Or.inr rfl) ⟨rfl, rfl⟩ rfl done
  · exact .still _ rfl ⟨rfl, rfl⟩ rfl (.refl _)

theorem same_keepsPayments (same : s' = s) : KeepsPayments s s' := same ▸ .refl s

theorem record_dealing (h : ProcessId) (fate : Fate) :
    Dealing m (marketStep limit (.record h fate) m) (.record h fate) := by
  simp only [marketStep]
  split
  · rename_i charge held
    have frame := recordSettled_frame charge.registration fate m
    split
    · rename_i after _ ran
      rw [ran] at frame
      dsimp only at frame
      obtain ⟨attempts, ledger, collected, store, _, failures⟩ := frame
      refine .moved _ h .idle ?_ (fun _ named => by cases named) (fun _ _ same => by cases same)
        (fun _ _ same => by cases same) ⟨ledger, collected⟩ (Or.inl failures)
        (same_keepsPayments store)
      simp only [Market.goOn, attempts]
    · rename_i after _ ran
      rw [ran] at frame
      dsimp only at frame
      obtain ⟨attempts, ledger, collected, store, _, failures⟩ := frame
      refine .moved _ h (.charged charge none) ?_ (fun _ named => ?_) (fun _ _ same => by cases same)
        (fun _ _ same => by cases same) ⟨ledger, collected⟩ (Or.inl failures)
        (same_keepsPayments store)
      · simp only [Market.goOn, attempts]
      · exact Option.some.inj named ▸ held_charge held rfl
  · exact .still _ rfl ⟨rfl, rfl⟩ rfl (.refl _)

theorem refuse_dealing (h : ProcessId) (fate : Fate) :
    Dealing m (marketStep limit (.refuse h fate) m) (.refuse h fate) := by
  simp only [marketStep]
  split
  · rename_i r ambiguous held
    obtain ⟨attempts, ledger, collected, store, _, failures⟩ :=
      recordRefused_frame r ambiguous fate m
    refine .moved _ h .idle ?_ (fun _ named => by cases named) (fun _ _ same => by cases same)
      (fun _ _ same => by cases same) ⟨ledger, collected⟩ ?_ (same_keepsPayments store)
    · simp only [Market.goOn, attempts]
    · rcases failures with same | ⟨certain, listed⟩
      · exact Or.inl same
      · exact Or.inr ⟨r, by rw [held, certain], listed⟩
  · exact .still _ rfl ⟨rfl, rfl⟩ rfl (.refl _)

theorem marketStep_dealing (step : MarketStep) (may : mayTrade step m) :
    Dealing m (marketStep limit step m) step := by
  cases step with
  | wait seconds => exact .still _ rfl ⟨rfl, rfl⟩ rfl (.refl _)
  | prepare r quote =>
    simp only [marketStep, prepareRegistration]
    split
    · exact .still _ rfl ⟨rfl, rfl⟩ rfl (.refl _)
    · split
      · exact .still _ rfl ⟨rfl, rfl⟩ rfl (.refl _)
      · exact .still _ rfl ⟨rfl, rfl⟩ rfl (.refl _)
  | reserve h bid fate => exact reserve_dealing h bid fate
  | settle h answer stored => exact settle_dealing h answer stored
  | sweep h charge => exact sweep_dealing h charge
  | load h => exact load_dealing h
  | pay h operation fate => exact pay_dealing h operation fate
  | record h fate => exact record_dealing h fate
  | refuse h fate => exact refuse_dealing h fate
  | crash h =>
    exact .moved _ h .idle rfl (fun _ named => by cases named) (fun _ _ same => by cases same)
      (fun _ _ same => by cases same) ⟨rfl, rfl⟩ (Or.inl rfl) (.refl _)
  | elsewhere s => exact .still _ rfl ⟨rfl, rfl⟩ rfl may

end Dealings

/-! What the attempts, the charges and the records say of each other. -/

structure OneCharge (m : Market) : Prop where
  orders : ∀ r order, HasOrder r order m → ∃ row, m.orders order = some row ∧
    (m.collected r = false → row.paymentTx = none ∧ row.payer = none)
  distinct : ∀ r other order, HasOrder r order m → HasOrder other order m → r = other
  bound : ∀ charge, IsCharge charge m → HasOrder charge.registration charge.order m
  collected : ∀ charge, IsCharge charge m → m.collected charge.registration = true
  one : ∀ charge other, IsCharge charge m → IsCharge other m →
    charge.registration = other.registration → charge = other
  paid : ∀ charge, IsCharge charge m → ∀ row, m.orders charge.order = some row → PaidAs charge row
  loaded : ∀ h charge row, m.attempt h = .charged charge (some row) → PaidAs charge row
  settled : ∀ r row, m.registrations r = some row → row.settlementState = .settled →
    m.collected r = true
  refused : ∀ h r ambiguous, m.attempt h = .refused r ambiguous →
    (ambiguous = false → m.collected r = false) ∧
    (∀ charge, IsCharge charge m → charge.registration ≠ r) ∧
    ∀ row, m.registrations r = some row → row.settlementState ≠ .settled
  failures : ∀ failure ∈ m.failures, failure.2 = false

structure KeepsRecords (m next : Market) : Prop where
  registration : ∀ r row, m.registrations r = some row → row.settlementState = .settled →
    ∃ later, next.registrations r = some later ∧ later.settlementState = .settled ∧
      later.authorizationHash = row.authorizationHash ∧ later.payerAddress = row.payerAddress ∧
      later.orderId = row.orderId
  bound : ∀ r id, HasOrder r id m → HasOrder r id next
  payment : ∀ r id, HasOrder r id m → ∀ order, m.orders id = some order → order.paymentTx ≠ none →
    ∃ later, next.orders id = some later ∧ later.paymentTx = order.paymentTx ∧
      later.payer = order.payer

section Charges
variable {limit : Nat} {m next : Market} {step : MarketStep}

section
variable (booking : Booking limit m next step)
include booking

theorem settled_registration (attended : WellAttended m)
    (one : OneCharge m) (r : RegistrationId) (row : RegistrationRow)
    (found : m.registrations r = some row) (settled : row.settlementState = .settled) :
    ∃ later, next.registrations r = some later ∧ later.settlementState = .settled ∧
      later.authorizationHash = row.authorizationHash ∧ later.payerAddress = row.payerAddress ∧
      later.orderId = row.orderId := by
  have elsewhere {other : RegistrationId} {before new : RegistrationRow}
      (there : m.registrations other = some before) (unsettled : before.settlementState ≠ .settled)
      (entered : Entered other new m next) : ∃ later, next.registrations r = some later ∧
        later.settlementState = .settled ∧ later.authorizationHash = row.authorizationHash ∧
        later.payerAddress = row.payerAddress ∧ later.orderId = row.orderId := by
    have different : r ≠ other := by
      rintro rfl
      rw [found] at there
      cases there
      exact unsettled settled
    exact ⟨row, by rw [entered.registrations, put_other _ _ different, found], settled, rfl, rfl, rfl⟩
  cases booking with
  | same _ kept => exact ⟨row, by rw [kept.registrations, found], settled, rfl, rfl, rfl⟩
  | waited seconds clock issued registrations =>
    exact ⟨row, by rw [registrations, found], settled, rfl, rfl, rfl⟩
  | prepared other quote fresh clock issued registrations =>
    have different : r ≠ other := keys_apart found fresh nofun
    exact ⟨row, by rw [registrations, put_other _ _ different, found], settled, rfl, rfl, rfl⟩
  | requoted other quote before there unordered entered =>
    obtain ⟨state, _⟩ := attended.unordered other before there unordered
    exact elsewhere there (by simp [state]) entered
  | reentered h bid fate before order there bound payer owner retried entered =>
    refine elsewhere there ?_ entered
    rcases retried with state | state <;> simp [state]
  | first h bid fate before there unordered room fresh entered =>
    obtain ⟨state, _⟩ := attended.unordered _ before there unordered
    exact elsewhere there (by simp [state]) entered
  | settled h fate charge before held there unsettled entered =>
    exact elsewhere there unsettled entered
  | refused h fate other ambiguous before held there entered =>
    exact elsewhere there ((one.refused h other ambiguous held).2.2 before there) entered

theorem settled_source (r : RegistrationId)
    (row : RegistrationRow) (found : next.registrations r = some row)
    (settled : row.settlementState = .settled) :
    (∃ before, m.registrations r = some before ∧ before.settlementState = .settled) ∨
      ∃ charge, IsCharge charge m ∧ charge.registration = r := by
  have entry {other : RegistrationId} {new : RegistrationRow} (entered : Entered other new m next)
      (mine : new.settlementState = .settled →
        (∃ before, m.registrations other = some before ∧ before.settlementState = .settled) ∨
          ∃ charge, IsCharge charge m ∧ charge.registration = other) :
      (∃ before, m.registrations r = some before ∧ before.settlementState = .settled) ∨
        ∃ charge, IsCharge charge m ∧ charge.registration = r := by
    rw [entered.registrations] at found
    rcases update_cases found with ⟨rfl, ⟨⟩⟩ | ⟨_, found⟩
    · exact mine settled
    · exact Or.inl ⟨row, found, settled⟩
  cases booking with
  | same _ kept => exact Or.inl ⟨row, kept.registrations ▸ found, settled⟩
  | waited seconds clock issued registrations => exact Or.inl ⟨row, registrations ▸ found, settled⟩
  | prepared other quote fresh clock issued registrations =>
    rw [registrations] at found
    rcases update_cases found with ⟨rfl, ⟨⟩⟩ | ⟨_, found⟩
    · cases settled
    · exact Or.inl ⟨row, found, settled⟩
  | requoted other quote before there unordered entered =>
    exact entry entered fun state => Or.inl ⟨before, there, state⟩
  | reentered _ _ _ _ _ _ _ _ _ _ entered | first _ _ _ _ _ _ _ _ entered =>
    exact entry entered fun state => by cases state
  | settled h fate charge before held there unsettled entered =>
    exact entry entered fun _ => Or.inr ⟨charge, held_charge held rfl, rfl⟩
  | refused h fate other ambiguous before held there entered =>
    refine entry entered fun state => ?_
    cases ambiguous <;> cases state

theorem settled_collected (one : OneCharge m)
    (r : RegistrationId) (row : RegistrationRow) (found : next.registrations r = some row)
    (settled : row.settlementState = .settled) : m.collected r = true := by
  rcases settled_source booking r row found settled with ⟨before, there, state⟩ | ⟨charge, is, rfl⟩
  · exact one.settled r before there state
  · exact one.collected charge is

theorem hasOrder_source (r : RegistrationId) (order : OrderId)
    (bound : HasOrder r order next) : HasOrder r order m ∨
      m.orders order = none ∧ (∃ row, next.orders order = some row ∧ row.paymentTx = none ∧
        row.payer = none) ∧
      ∀ other, HasOrder other order next → HasOrder other order m ∨ other = r := by
  have entry {other : RegistrationId} {before new : RegistrationRow}
      (there : m.registrations other = some before) (entered : Entered other new m next)
      (same_order : new.orderId = before.orderId) : HasOrder r order m := by
    obtain ⟨row, found, named⟩ := bound
    rw [entered.registrations] at found
    by_cases same : r = other
    · subst same
      rw [put_same] at found
      cases found
      exact ⟨before, there, same_order ▸ named⟩
    · exact ⟨row, by rwa [put_other _ _ same] at found, named⟩
  cases booking with
  | same _ kept => exact Or.inl (by simpa only [HasOrder, kept.registrations] using bound)
  | waited seconds clock issued registrations =>
    exact Or.inl (by simpa only [HasOrder, registrations] using bound)
  | prepared other quote fresh clock issued registrations =>
    obtain ⟨row, found, named⟩ := bound
    rw [registrations] at found
    by_cases same : r = other
    · subst same
      rw [put_same] at found
      cases found
      cases named
    · exact Or.inl ⟨row, by rwa [put_other _ _ same] at found, named⟩
  | requoted _ _ _ there _ entered | reentered _ _ _ _ _ there _ _ _ _ entered
  | settled _ _ _ _ _ there _ entered | refused _ _ _ _ _ _ there entered =>
    exact Or.inl (entry there entered rfl)
  | first h bid fate before there unordered room fresh entered placed =>
    have source {name : RegistrationId} (names : HasOrder name order next) :
        HasOrder name order m ∨ name = bid.registration ∧ order = bid.order := by
      obtain ⟨row, found, named⟩ := names
      rw [entered.registrations] at found
      by_cases same : name = bid.registration
      · subst same
        rw [put_same] at found
        cases found
        exact Or.inr ⟨rfl, (Option.some.inj named).symm⟩
      · exact Or.inl ⟨row, by rwa [put_other _ _ same] at found, named⟩
    rcases source bound with old | ⟨rfl, rfl⟩
    · exact Or.inl old
    · exact Or.inr ⟨fresh, ⟨_, placed, rfl, rfl⟩, fun other names =>
        (source names).imp_right And.left⟩

theorem distinct_kept (one : OneCharge m)
    (r other : RegistrationId) (order : OrderId) (bound : HasOrder r order next)
    (also : HasOrder other order next) : r = other := by
  have absent {name : RegistrationId} (names : HasOrder name order m) (fresh : m.orders order = none) :
      False := by
    obtain ⟨row, found, _⟩ := one.orders name order names
    rw [fresh] at found
    cases found
  rcases hasOrder_source booking r order bound with old | ⟨fresh, _, only⟩
  · rcases hasOrder_source booking other order also with same | ⟨fresh, _, _⟩
    · exact one.distinct r other order old same
    · exact absurd fresh fun none => absent old none
  · rcases only other also with old | same
    · exact absurd fresh fun none => absent old none
    · exact same.symm

/-- What a step owes: the orders of registrations that nobody has paid stay unpaid,
and the charges, the loaded orders and the answers in hand agree with each other. -/
structure Settles (m next : Market) : Prop where
  collected : ∀ r, m.collected r = true → next.collected r = true
  orders : ∀ r id, HasOrder r id m → ∀ row, m.orders id = some row →
    ∃ later, next.orders id = some later ∧ (next.collected r = false → row.paymentTx = none ∧
      row.payer = none → later.paymentTx = none ∧ later.payer = none)
  bound : ∀ charge, IsCharge charge next → HasOrder charge.registration charge.order m
  charged : ∀ charge, IsCharge charge next → next.collected charge.registration = true
  one : ∀ charge other, IsCharge charge next → IsCharge other next →
    charge.registration = other.registration → charge = other
  paid : ∀ charge, IsCharge charge next → ∀ row, next.orders charge.order = some row →
    PaidAs charge row
  loaded : ∀ h charge row, next.attempt h = .charged charge (some row) → PaidAs charge row
  refused : ∀ h r ambiguous, next.attempt h = .refused r ambiguous →
    (ambiguous = false → next.collected r = false) ∧
    (∀ charge, IsCharge charge m ∨ IsCharge charge next → charge.registration ≠ r) ∧
    ∀ row, m.registrations r = some row → row.settlementState ≠ .settled
  failures : ∀ failure ∈ next.failures, failure.2 = false

theorem settles_oneCharge (one : OneCharge m)
    (settles : Settles m next) : OneCharge next where
  orders r order bound := by
    rcases hasOrder_source booking r order bound with old | ⟨_, ⟨row, placed, unpaid⟩, _⟩
    · obtain ⟨row, found, unpaid⟩ := one.orders r order old
      obtain ⟨later, there, still⟩ := settles.orders r order old row found
      refine ⟨later, there, fun uncollected => still uncollected (unpaid ?_)⟩
      by_contra collected
      rw [settles.collected r (by simpa using collected)] at uncollected
      cases uncollected
    · exact ⟨row, placed, fun _ => unpaid⟩
  distinct := distinct_kept booking one
  bound charge is := bound_kept booking _ _ (settles.bound charge is)
  collected := settles.charged
  one := settles.one
  paid := settles.paid
  loaded := settles.loaded
  settled r row found settled := settles.collected r (settled_collected booking one r row found settled)
  refused h r ambiguous held := by
    obtain ⟨certain, none, unsettled⟩ := settles.refused h r ambiguous held
    refine ⟨certain, fun charge is => none charge (Or.inr is), fun row found settled => ?_⟩
    rcases settled_source booking r row found settled with ⟨before, there, state⟩ | ⟨charge, is, same⟩
    · exact unsettled before there state
    · exact none charge (Or.inl is) same
  failures := settles.failures

end

theorem quiet_deals {m next : Market} (one : OneCharge m) (money : SameMoney m next)
    (charges : ∀ charge, IsCharge charge next → IsCharge charge m)
    (attempts : ∀ h, next.attempt h = m.attempt h ∨
      (∀ r ambiguous, next.attempt h ≠ .refused r ambiguous) ∧
        ∀ charge row, next.attempt h = .charged charge (some row) →
          IsCharge charge m ∧ m.orders charge.order = some row)
    (failures : ∀ failure ∈ next.failures, failure.2 = false)
    (orders : KeepsPayments m.toStore next.toStore) : Settles m next where
  collected r collected := by rw [money.collected]; exact collected
  orders r id bound row found := by
    obtain ⟨later, there, tx, payer⟩ := orders id row found
    exact ⟨later, there, fun _ unpaid => ⟨tx.trans unpaid.1, payer.trans unpaid.2⟩⟩
  bound charge is := one.bound charge (charges charge is)
  charged charge is := by rw [money.collected]; exact one.collected charge (charges charge is)
  one charge other is also := one.one charge other (charges charge is) (charges other also)
  paid charge is row found := by
    obtain ⟨before, there, _⟩ := one.orders _ _ (one.bound charge (charges charge is))
    obtain ⟨later, here, tx, payer⟩ := orders _ before there
    rw [found] at here
    cases here
    simpa only [PaidAs, tx, payer] using one.paid charge (charges charge is) before there
  loaded h charge row held := by
    rcases attempts h with same | ⟨_, loaded⟩
    · exact one.loaded h charge row (same ▸ held)
    · obtain ⟨is, found⟩ := loaded charge row held
      exact one.paid charge is row found
  refused h r ambiguous held := by
    rcases attempts h with same | ⟨calm, _⟩
    · rw [same] at held
      obtain ⟨certain, none, unsettled⟩ := one.refused h r ambiguous held
      refine ⟨fun sure => by rw [money.collected]; exact certain sure, fun charge is => ?_, unsettled⟩
      exact none charge (is.elim id (charges charge))
    · exact absurd held (calm r ambiguous)
  failures := failures

section
variable {h : ProcessId}

theorem attempt_source (other : ProcessId)
    (attempts : next.attempt = update m.attempt h attempt) :
    next.attempt other = attempt ∨ next.attempt other = m.attempt other := by
  rw [attempts, update_apply]
  split
  · exact Or.inl rfl
  · exact Or.inr rfl

theorem charge_source (attempts : next.attempt = update m.attempt h attempt)
    (ledger : ∀ charge ∈ next.ledger, charge ∈ m.ledger ∨ attempt.charge = some charge)
    (is : IsCharge charge next) : IsCharge charge m ∨ attempt.charge = some charge := by
  rcases is with listed | ⟨other, named⟩
  · exact (ledger charge listed).imp_left Or.inl
  · rcases attempt_source other attempts with same | same
    · exact Or.inr (same ▸ named)
    · exact Or.inl (Or.inr ⟨other, same ▸ named⟩)

theorem charged_settles {hash : AuthorizationHash} (one : OneCharge m) (attended : WellAttended m)
    (held : m.attempt h = .reserved charge.registration charge.order charge.payer hash)
    (attempts : next.attempt = update m.attempt h (.charged charge none))
    (ledger : next.ledger = m.ledger ∨ next.ledger = charge :: m.ledger)
    (collected : next.collected = update m.collected charge.registration true)
    (failures : next.failures = m.failures) (orders : next.orders = m.orders)
    (first : m.collected charge.registration = false)
    (alone : ∀ other ambiguous, m.attempt other ≠ .refused charge.registration ambiguous) :
    Settles m next := by
  have bound : HasOrder charge.registration charge.order m := by
    have holds := attended.attempts h
    rwa [held] at holds
  have source {c : Charge} (is : IsCharge c next) : IsCharge c m ∨ c = charge := by
    refine (charge_source attempts (fun c listed => ?_) is).imp_right fun named =>
      (Option.some.inj named).symm
    rcases ledger with same | same
    · exact Or.inl (same ▸ listed)
    rw [same] at listed
    rcases List.mem_cons.mp listed with rfl | old
    · exact Or.inr rfl
    · exact Or.inl old
  have other_registration {c : Charge} (is : IsCharge c m) : c.registration ≠ charge.registration := by
    intro same
    have already := one.collected c is
    rw [same, first] at already
    cases already
  have monotone (r : RegistrationId) (yes : m.collected r = true) : next.collected r = true := by
    rw [collected]
    by_cases same : r = charge.registration
    · rw [same, update_self]
    · rw [update_of_ne same, yes]
  refine ⟨monotone, fun r id _ row found => ?_, fun c is => ?_, fun c is => ?_, ?_, ?_, ?_, ?_, ?_⟩
  · exact ⟨row, by rw [orders, found], fun _ unpaid => unpaid⟩
  · rcases source is with old | rfl
    · exact one.bound c old
    · exact bound
  · rcases source is with old | rfl
    · exact monotone _ (one.collected c old)
    · rw [collected, update_self]
  · intro c other is also same
    rcases source is with old | rfl
    · rcases source also with old' | rfl
      · exact one.one c other old old' same
      · exact absurd same (other_registration old)
    · rcases source also with old' | rfl
      · exact absurd same.symm (other_registration old')
      · rfl
  · intro c is row found
    rw [orders] at found
    rcases source is with old | rfl
    · exact one.paid c old row found
    obtain ⟨before, there, unpaid⟩ := one.orders _ _ bound
    rw [found] at there
    cases there
    exact Or.inl (unpaid first)
  · intro other c row now
    rcases attempt_source other attempts with same | same
    · rw [same] at now
      cases now
    · exact one.loaded other c row (same ▸ now)
  · intro other r ambiguous now
    rcases attempt_source other attempts with same | same
    · rw [same] at now
      cases now
    · rw [same] at now
      obtain ⟨certain, none, unsettled⟩ := one.refused other r ambiguous now
      have different : r ≠ charge.registration := by
        rintro rfl
        exact alone other ambiguous now
      refine ⟨fun sure => ?_, fun c is => ?_, unsettled⟩
      · rw [collected, update_of_ne different, certain sure]
      · rcases is with old | new
        · exact none c old
        · rcases source new with old | rfl
          · exact none c old
          · exact different.symm
  · rw [failures]
    exact one.failures

theorem declined_settles {r : RegistrationId} {ambiguous : Bool}
    (one : OneCharge m)
    (attempts : next.attempt = update m.attempt h (.refused r ambiguous))
    (ledger : next.ledger = m.ledger)
    (collected : next.collected = m.collected ∨
      ambiguous = true ∧ next.collected = update m.collected r true)
    (failures : next.failures = m.failures) (orders : next.orders = m.orders)
    (first : m.collected r = false)
    (alone : ∀ other ambiguous, m.attempt other ≠ .refused r ambiguous) : Settles m next := by
  have source {c : Charge} (is : IsCharge c next) : IsCharge c m :=
    (charge_source attempts (fun c listed => Or.inl (ledger ▸ listed)) is).resolve_right
      fun named => by cases named
  have monotone (other : RegistrationId) (yes : m.collected other = true) :
      next.collected other = true := by
    rcases collected with same | ⟨_, same⟩
    · rw [same, yes]
    rw [same]
    by_cases here : other = r
    · rw [here, update_self]
    · rw [update_of_ne here, yes]
  have no_charge (c : Charge) (is : IsCharge c m) : c.registration ≠ r := by
    rintro rfl
    rw [one.collected c is] at first
    cases first
  refine ⟨monotone, fun name id _ row found => ?_, fun c is => one.bound c (source is),
    fun c is => monotone _ (one.collected c (source is)),
    fun c other is also => one.one c other (source is) (source also), ?_, ?_, ?_, ?_⟩
  · exact ⟨row, by rw [orders, found], fun _ unpaid => unpaid⟩
  · intro c is row found
    exact one.paid c (source is) row (orders ▸ found)
  · intro other c row now
    rcases attempt_source other attempts with same | same
    · rw [same] at now
      cases now
    · exact one.loaded other c row (same ▸ now)
  · intro other name certain now
    rcases attempt_source other attempts with same | same
    · rw [same] at now
      cases now
      refine ⟨fun sure => ?_, fun c is => no_charge c (is.elim id source), fun row found settled => ?_⟩
      · rcases collected with kept | ⟨unclear, _⟩
        · rw [kept, first]
        · rw [sure] at unclear
          cases unclear
      · rw [one.settled r row found settled] at first
        cases first
    · rw [same] at now
      obtain ⟨sure, none, unsettled⟩ := one.refused other name certain now
      have different : name ≠ r := by
        rintro rfl
        exact alone other certain now
      refine ⟨fun false => ?_, fun c is => none c (is.elim id source), unsettled⟩
      rcases collected with kept | ⟨_, kept⟩
      · rw [kept, sure false]
      · rw [kept, update_of_ne different, sure false]
  · rw [failures]
    exact one.failures

theorem paid_settles (one : OneCharge m)
    (held : m.attempt h = .charged charge (some loaded))
    (attempts : next.attempt = update m.attempt h attempt)
    (after : attempt = .paid charge ∨ attempt = .charged charge none) (money : SameMoney m next)
    (failures : next.failures = m.failures)
    (done : markPaidLoaded loaded charge.order charge.args m.clock operation false m.toStore =
      .ok (next.toStore, written)) : Settles m next := by
  have is_charge : IsCharge charge m := held_charge held rfl
  have source {c : Charge} (is : IsCharge c next) : IsCharge c m := by
    rcases charge_source attempts (fun c listed => Or.inl (money.ledger ▸ listed)) is with old | named
    · exact old
    have same : c = charge := by
      rcases after with rfl | rfl
      · exact (Option.some.inj named).symm
      · exact (Option.some.inj named).symm
    exact same ▸ is_charge
  obtain ⟨others, current, found, later, there, pays⟩ :=
    markPaidLoaded_payment (one.loaded h charge loaded held) done
  have paid := one.paid charge is_charge current found
  have owner {r : RegistrationId} (bound : HasOrder r charge.order m) : r = charge.registration :=
    one.distinct r charge.registration charge.order bound (one.bound charge is_charge)
  refine ⟨fun r yes => by rw [money.collected, yes], fun r id bound row here => ?_,
    fun c is => one.bound c (source is),
    fun c is => by rw [money.collected]; exact one.collected c (source is),
    fun c other is also => one.one c other (source is) (source also), ?_, ?_, ?_, ?_⟩
  · by_cases mine : id = charge.order
    · subst mine
      refine ⟨later, there, fun uncollected => ?_⟩
      rw [money.collected, owner bound, one.collected charge is_charge] at uncollected
      cases uncollected
    · exact ⟨row, by rw [others id mine, here], fun _ unpaid => unpaid⟩
  · intro c is row here
    by_cases mine : c.order = charge.order
    · have same : c = charge := by
        refine one.one c charge (source is) is_charge (owner ?_)
        rw [← mine]
        exact one.bound c (source is)
      subst same
      rw [there] at here
      cases here
      exact (pays paid).1
    · rw [others _ mine] at here
      exact one.paid c (source is) row here
  · intro other c row now
    rcases attempt_source other attempts with same | same
    · rw [same] at now
      rcases after with rfl | rfl
      · cases now
      · cases now
    · exact one.loaded other c row (same ▸ now)
  · intro other r ambiguous now
    rcases attempt_source other attempts with same | same
    · rw [same] at now
      rcases after with rfl | rfl
      · cases now
      · cases now
    · rw [same] at now
      obtain ⟨certain, none, unsettled⟩ := one.refused other r ambiguous now
      exact ⟨fun sure => by rw [money.collected, certain sure], fun c is => none c (is.elim id source),
        unsettled⟩
  · rw [failures]
    exact one.failures

end

theorem dealing_settles (dealing : Dealing m next step) (one : OneCharge m)
    (attended : WellAttended m) (alone : AsksAlone step m) : Settles m next := by
  cases dealing with
  | still _ attempts money failures orders =>
    have same (h : ProcessId) : next.attempt h = m.attempt h := by rw [attempts]
    refine quiet_deals one money (fun charge is => ?_) (fun h => Or.inl (same h)) ?_ orders
    · exact is.imp (money.ledger ▸ ·) fun ⟨h, named⟩ => ⟨h, same h ▸ named⟩
    · rw [failures]
      exact one.failures
  | moved _ h attempt attempts known calm loaded money failures orders =>
    refine quiet_deals one money (fun charge is => ?_) (fun other => ?_) (fun failure listed => ?_)
      orders
    · exact (charge_source attempts (fun c listed => Or.inl (money.ledger ▸ listed)) is).elim id
        (known charge)
    · rcases attempt_source other attempts with same | same
      · rw [same]
        refine Or.inr ⟨calm, fun charge row held => ⟨known charge ?_, loaded charge row held⟩⟩
        rw [held]
        rfl
      · exact Or.inl same
    · rcases failures with same | ⟨r, held, same⟩
      · exact one.failures failure (same ▸ listed)
      rw [same] at listed
      rcases List.mem_cons.mp listed with rfl | old
      · exact (one.refused h r false held).1 rfl
      · exact one.failures failure old
  | charged h answer stored charge hash held attempts ledger collected failures orders =>
    simp only [AsksAlone, held] at alone
    exact charged_settles one attended held attempts ledger collected failures orders alone.1
      alone.2
  | declined h answer stored r order payer hash ambiguous held attempts ledger collected failures
      orders =>
      simp only [AsksAlone, held] at alone
      exact declined_settles one attempts ledger collected failures orders alone.1 alone.2
  | paid h operation fate charge loaded written attempt held attempts after money failures done =>
    exact paid_settles one held attempts after money failures done

theorem dealing_payment (dealing : Dealing m next step) (one : OneCharge m) (r : RegistrationId)
    (id : OrderId) (bound : HasOrder r id m) (order : DomainOrderRow)
    (found : m.orders id = some order) (paid : order.paymentTx ≠ none) :
    ∃ later, next.orders id = some later ∧ later.paymentTx = order.paymentTx ∧
      later.payer = order.payer := by
  cases dealing with
  | still _ _ _ _ orders | moved _ _ _ _ _ _ _ _ _ orders => exact orders id order found
  | charged _ _ _ _ _ _ _ _ _ _ orders | declined _ _ _ _ _ _ _ _ _ _ _ _ _ orders =>
    exact ⟨order, by rw [orders, found], rfl, rfl⟩
  | paid h operation fate charge loaded written attempt held attempts after money failures done =>
    have is_charge : IsCharge charge m := held_charge held rfl
    obtain ⟨others, current, here, later, there, pays⟩ :=
      markPaidLoaded_payment (one.loaded h charge loaded held) done
    by_cases mine : id = charge.order
    · subst mine
      rw [found] at here
      cases here
      exact ⟨later, there, (pays (one.paid charge is_charge order found)).2 paid⟩
    · exact ⟨order, by rw [others id mine, found], rfl, rfl⟩

end Charges

theorem KeepsRecords.refl (m : Market) : KeepsRecords m m :=
  ⟨fun _ row found state => ⟨row, found, state, rfl, rfl, rfl⟩, fun _ _ bound => bound,
    fun _ _ _ order found _ => ⟨order, found, rfl, rfl⟩⟩

theorem KeepsRecords.trans {a b c : Market} (first : KeepsRecords a b) (second : KeepsRecords b c) :
    KeepsRecords a c where
  registration r row found state := by
    obtain ⟨later, there, settled, hash, payer, order⟩ := first.registration r row found state
    obtain ⟨last, here, still, hash', payer', order'⟩ := second.registration r later there settled
    exact ⟨last, here, still, hash'.trans hash, payer'.trans payer, order'.trans order⟩
  bound r id bound := second.bound r id (first.bound r id bound)
  payment r id bound order found paid := by
    obtain ⟨later, there, tx, payer⟩ := first.payment r id bound order found paid
    obtain ⟨last, here, tx', payer'⟩ :=
      second.payment r id (first.bound r id bound) later there (by rw [tx]; exact paid)
    exact ⟨last, here, tx'.trans tx, payer'.trans payer⟩

structure SoundMarket (m : Market) : Prop where
  attended : WellAttended m
  one : OneCharge m

theorem step_sound {limit : Nat} (step : MarketStep) (m : Market) (sound : SoundMarket m)
    (may : (soloMarket limit).may step m) :
    SoundMarket ((soloMarket limit).step step m) ∧
      KeepsRecords m ((soloMarket limit).step step m) := by
  have booking : Booking limit m (marketStep limit step m) step := marketStep_booking step
  have dealing : Dealing m (marketStep limit step m) step := marketStep_dealing step may.1
  refine ⟨⟨marketStep_attended step sound.attended, ?_⟩, ?_, bound_kept booking, ?_⟩
  · exact settles_oneCharge booking sound.one
      (dealing_settles dealing sound.one sound.attended may.2)
  · exact settled_registration booking sound.attended sound.one
  · exact dealing_payment dealing sound.one

theorem nothing_sound {m : Market} (nothing : NothingRegistered m) : SoundMarket m := by
  have unbound {r : RegistrationId} {order : OrderId} : ¬ HasOrder r order m := by
    rintro ⟨row, found, _⟩
    rw [nothing.registrations r] at found
    cases found
  have uncharged {charge : Charge} : ¬ IsCharge charge m := by
    rintro (listed | ⟨h, named⟩)
    · rw [nothing.ledger] at listed
      cases listed
    · rw [nothing.attempts h] at named
      cases named
  refine ⟨nothing_attended nothing, ⟨fun _ _ bound => absurd bound unbound,
    fun _ _ _ bound => absurd bound unbound, fun _ is => absurd is uncharged,
    fun _ is => absurd is uncharged, fun _ _ is => absurd is uncharged,
    fun _ is => absurd is uncharged, ?_, ?_, ?_, ?_⟩⟩
  · intro h charge row held
    rw [nothing.attempts h] at held
    cases held
  · intro r row found
    rw [nothing.registrations r] at found
    cases found
  · intro h r ambiguous held
    rw [nothing.attempts h] at held
    cases held
  · intro failure listed
    rw [nothing.failures] at listed
    cases listed

/-- In every run in which the facilitator is asked by one attempt at a time. -/
theorem settlement_stays (limit : Nat) (m : Market) (nothing : NothingRegistered m)
    (first rest : List MarketStep) (admitted : (soloMarket limit).admits m (first ++ rest)) :
    SettledStays ((soloMarket limit).run m first) ((soloMarket limit).run m (first ++ rest)) := by
  obtain ⟨before, after⟩ := ((soloMarket limit).admits_append m first rest).mp admitted
  have sound : SoundMarket ((soloMarket limit).run m first) :=
    (soloMarket limit).run_keeps (fun step m sound may => (step_sound step m sound may).1) first m
      (nothing_sound nothing) before
  have final : SoundMarket ((soloMarket limit).run m (first ++ rest)) :=
    (soloMarket limit).run_keeps (fun step m sound may => (step_sound step m sound may).1)
      (first ++ rest) m (nothing_sound nothing) admitted
  have kept : KeepsRecords ((soloMarket limit).run m first)
      ((soloMarket limit).run m (first ++ rest)) := by
    rw [Protocol.run_append]
    exact (soloMarket limit).run_related KeepsRecords.refl (fun _ _ _ => KeepsRecords.trans)
      (fun step m sound may => step_sound step m sound may) rest _ sound after
  refine ⟨fun r row found state => ?_, fun r row id order found state named there paid => ?_,
    final.one.failures⟩
  · obtain ⟨later, here, settled, hash, payer, _⟩ := kept.registration r row found state
    exact ⟨later, here, settled, hash, payer⟩
  · exact kept.payment r id ⟨row, found, named⟩ order there paid

theorem first_settlement_stays :
    SettledStays ((soloMarket 1).run emptyMarket (bids 0 0 ++ succeeds 0))
      ((soloMarket 1).run emptyMarket (bids 0 0 ++ succeeds 0 ++ [.wait 60])) := by
  have reserved : ((soloMarket 1).run emptyMarket (bids 0 0)).attempt =
      update (fun _ => .idle) 0 (.reserved 0 0 (.evm 7) 0) := rfl
  refine settlement_stays 1 emptyMarket emptyMarket_nothing (bids 0 0 ++ succeeds 0) [.wait 60]
    ⟨⟨trivial, trivial⟩, ⟨Nat.le_refl 0, trivial⟩, ⟨fun _ _ => rfl, rfl, fun other ambiguous => ?_⟩,
      ⟨trivial, trivial⟩, ⟨trivial, trivial⟩, ⟨trivial, trivial⟩, ⟨trivial, trivial⟩, trivial⟩
  change ((soloMarket 1).run emptyMarket (bids 0 0)).attempt other ≠ _
  rw [reserved]
  by_cases same : other = 0
  · rw [same, update_self]
    nofun
  · rw [update_of_ne same]
    nofun

/-- Handler `h` replays an authorization for registration 0 that handler 0 has reserved. -/
def replays (h : ProcessId) : List MarketStep :=
  [.reserve h {
    registration := 0
    payer := .evm 7
    owner := 0
    hash := 0
    order := 0
    fqdn := 0
    totalUsd := 20
    began := 0 } .done]

/-- The second request fails at the facilitator because the first has succeeded. -/
theorem settlement_overwritten :
    ¬ ∀ (limit : Nat) (m : Market) (first rest : List MarketStep), NothingRegistered m →
      (market limit).admits m (first ++ rest) →
      SettledStays ((market limit).run m first) ((market limit).run m (first ++ rest)) := by
  intro always
  have stays := always 1 emptyMarket
    (bids 0 0 ++ replays 1 ++ [.settle 0 (.success (.chain 0)) true, .settle 1 .failure true,
      .load 0, .pay 0 0 .done, .record 0 .done]) [.refuse 1 .done] emptyMarket_nothing
    ((market 1).passes_admits trades (fun _ _ => trades_may) _ _ (by decide +kernel))
  exact absurd (stays.failed (0, true)) (by decide +kernel)

end HyruleCloud
