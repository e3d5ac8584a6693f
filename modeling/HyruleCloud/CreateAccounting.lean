import HyruleCloud.Frames

/-!
A charge through POST /v1/vm/create. Between the charge and its answer a payment
moves from `untouched` to `bound`, or to `refunded`; the steps below are the only
ones. `Careful` excludes the exits at which the source drops a charge.
-/

namespace HyruleCloud

open Interaction

def Careful {β : Type} (request : CheckoutReq β) (choice : CheckoutChoice) (w : World) : Prop :=
  match request with
  -- the guard's session ends cleanly once the money has moved
  | .leaveAccountGuard account (.request handler) =>
    account.isSome → w.charged handler = true → choice = .commit .done
  -- a charged create wins its quote, and learns it
  | .claimQuote process quote (.request handler) => w.charged handler = true →
      w.claimed process quote = false ∧
      (∃ row, w.vmQuotes quote = some row ∧ row.status = .created) ∧ choice = .commit .done
  -- the refund paths can read and write the ledger
  | .settledEvent _ => choice = .commit .done
  | .recordOwed _ => choice ≠ .commit .failed
  -- the fallback row is either acknowledged or absent
  | .insertVm _ _ _ => choice ≠ .commit .lost
  -- a paid row is failed when its charge has been refunded
  | .markVmFailed vm =>
    (∃ row, w.vms vm = some row ∧ row.ownerWallet.isSome = true) → choice ≠ .commit .failed
  -- the last resort of a native handoff works, and its worker starts at all
  | .recordNativeIntentRefund _ reason _ =>
    reason = "provisioning_failed" → ∃ now, choice = .clocked now .done
  | .triggerHandoff _ _ => ∀ now, choice ≠ .clocked now .lost
  | _ => True

def checkoutSetting : Setting CheckoutReq Err World CheckoutChoice where
  exec := CheckoutReq.exec
  permits := Careful
  mayCrash _ _ := True

abbrev CheckoutTriple {α : Type} (worker : Nat) (pre : World → Prop) (p : Checkout α)
    (post : Except Err α → World → Prop) : Prop :=
  Triple checkoutSetting (checkoutDuty worker) pre p post

/-- The payment is this thread's business, its charge is on record, and it
stands at `position`. -/
structure Held (worker : Nat) (payment : Payment) (position : Position) (w : World) : Prop where
  owns : Owns worker payment.party w
  charged : ∀ handler, payment = .x402 handler → w.charged handler = true
  holds : position.holds payment w

def Closed (worker : Nat) (payment : Payment) (w : World) : Prop :=
  Held worker payment .refunded w ∨ ∃ vm, Held worker payment (.bound vm) w

variable {assertion : World → Prop}

variable {β : Type}

section Rules
variable {worker : Nat} {payment : Payment} {position : Position}

theorem held_kept {a b : World} (held : Held worker payment position a)
    (same : SameView payment.party a b) : Held worker payment position b where
  owns := owns_kept held.owns same
  charged handler paid := by
    have owner : payment.party = .request handler := by rw [paid]; rfl
    exact (same.charged handler owner).trans (held.charged handler paid)
  holds := position_kept position same held.holds

structure OwnView (worker : Nat) (payment : Payment) (assertion : World → Prop) : Prop where
  owns : ∀ w, assertion w → Owns worker payment.party w
  kept : ∀ a b, assertion a → SameView payment.party a b → assertion b

theorem ownView_stable (view : OwnView worker payment assertion) :
    Stable (checkoutDuty worker) assertion :=
  fun a b holds moved _ => view.kept a b holds (moved.views _ (view.owns a holds))

theorem held_view : OwnView worker payment (Held worker payment position) :=
  ⟨fun _ held => held.owns, fun _ _ held same => held_kept held same⟩

theorem held_stable : Stable (checkoutDuty worker) (Held worker payment position) :=
  ownView_stable held_view

theorem closed_stable : Stable (checkoutDuty worker) (Closed worker payment) := by
  rintro a b (refunded | ⟨vm, bound⟩) moved kept
  · exact Or.inl (held_stable a b refunded moved kept)
  · exact Or.inr ⟨vm, held_stable a b bound moved kept⟩

theorem held_touched {a b : World} {next : Position} (held : Held worker payment position a)
    (touches : Touches payment.party a b) (holds : next.holds payment b) :
    Held worker payment next b where
  owns := by
    have owns := held.owns
    revert owns
    cases payment.party with
    | request | order => exact fun owns => owns
    | intent intent => exact fun owns => (congrFun touches.handedBy intent).trans owns
  charged handler paid := by rw [touches.charged]; exact held.charged handler paid
  holds := holds

theorem triple_own {post : Except Err β → World → Prop}
    (view : OwnView worker payment assertion) (request : CheckoutReq β)
    (acts : Acts payment.party request)
    (effect : ∀ w choice w' reply, Sound w → assertion w →
      Careful request choice w → request.exec choice w = some (w', reply) →
      Touches payment.party w w' → post reply w') :
    CheckoutTriple worker assertion (ask request) post := by
  refine triple_perform request (ownView_stable view) (fun _ _ _ _ => trivial) ?_
  intro w choice w' reply sound holds careful ran
  have touches := acts_touches worker payment.party request choice w w' reply acts sound
    (view.owns w holds) ran
  exact ⟨touches.sound, touches_guar worker payment.party w w' (view.owns w holds) touches,
    effect w choice w' reply sound holds careful ran touches⟩

theorem triple_calm (view : OwnView worker payment assertion)
    (request : CheckoutReq β) (quiet : Quiet request) :
    CheckoutTriple worker assertion (ask request) (fun _ => assertion) := by
  refine triple_perform request (ownView_stable view) (fun _ _ _ _ => trivial) ?_
  intro w choice w' reply sound holds _ ran
  have unseen := quiet_unseen request choice w w' reply quiet sound ran
  exact ⟨unseen.sound, unseen_guar worker w w' unseen, view.kept w w' holds (unseen.views _)⟩

theorem triple_act {post : Except Err β → World → Prop} (request : CheckoutReq β)
    (acts : Acts payment.party request)
    (effect : ∀ w choice w' reply, Sound w → Held worker payment position w →
      Careful request choice w → request.exec choice w = some (w', reply) →
      Touches payment.party w w' → post reply w') :
    CheckoutTriple worker (Held worker payment position)
      (ask request) post := triple_own held_view request acts effect

theorem triple_quiet (request : CheckoutReq β) (quiet : Quiet request) :
    CheckoutTriple worker (Held worker payment position)
      (ask request) (fun _ => Held worker payment position) :=
  triple_calm held_view request quiet

end Rules

section Effects
variable {payment : Payment} {w w' : World} {vm : VmId}

theorem position_columns (position : Position) (rows : w'.vms = w.vms)
    (events : w'.events = w.events) (holds : position.holds payment w) :
    position.holds payment w' := by
  cases position <;> simpa [Position.holds, BoundAt, rowsOf, owed, rows, events] using holds

theorem rowsOf_put (row : VMRow) (own : vm.drawer = payment.party)
    (rows : w'.vms = w.vms.put vm row) :
    (w'.vms vm = some row) ∧ ∀ serial, serial ≠ vm.serial →
      rowsOf payment w' serial = rowsOf payment w serial := by
  refine ⟨by rw [rows, put_same], fun serial different => ?_⟩
  have other : (⟨payment.party, serial⟩ : VmId) ≠ vm := by
    rintro rfl
    exact different rfl
  simp only [rowsOf, rows, put_other _ _ other]

theorem rowsOf_self (own : vm.drawer = payment.party) : rowsOf payment w vm.serial = w.vms vm := by
  simp only [rowsOf, ← own]

theorem rows_put {fits : VMRow → Prop} (row : VMRow) (own : vm.drawer = payment.party)
    (rows : w'.vms = w.vms.put vm row) (fit : fits row)
    (others : ∀ serial found, serial ≠ vm.serial → rowsOf payment w serial = some found →
      fits found) (serial : Nat) (found : VMRow) (present : rowsOf payment w' serial = some found) :
    fits found := by
  obtain ⟨here, elsewhere⟩ := rowsOf_put row own rows
  by_cases same : serial = vm.serial
  · rw [same, rowsOf_self own, here] at present
    cases present
    exact fit
  · exact others serial found same ((elsewhere serial same).symm.trans present)

theorem untouched_put (row : VMRow) (own : vm.drawer = payment.party) (unpaid : Unpaid row)
    (rows : w'.vms = w.vms.put vm row) (events : w'.events = w.events)
    (holds : Position.untouched.holds payment w) : Position.untouched.holds payment w' :=
  ⟨by simpa only [owed, events] using holds.1,
    rows_put row own rows unpaid fun serial found _ => holds.2 serial found⟩

theorem bound_put (row : VMRow) (own : vm.drawer = payment.party)
    (paid : row.paidBy payment = true) (active : row.status = .provisioning)
    (owner : row.ownerWallet.isSome = true)
    (rows : w'.vms = w.vms.put vm row) (events : w'.events = w.events)
    (holds : Position.untouched.holds payment w) : (Position.bound vm).holds payment w' := by
  obtain ⟨here, elsewhere⟩ := rowsOf_put row own rows
  refine ⟨⟨own, ⟨row, here, paid, active, owner⟩, fun serial found different present => ?_⟩,
    by simpa only [owed, events] using holds.1⟩
  exact holds.2 serial found ((elsewhere serial different).symm.trans present)

theorem bound_rewritten (row next : VMRow) (present : w.vms vm = some row)
    (charge : next.paymentTx = row.paymentTx) (owner : next.ownerWallet = row.ownerWallet)
    (status : next.status = row.status) (rows : w'.vms = w.vms.put vm next)
    (events : w'.events = w.events) (holds : (Position.bound vm).holds payment w) :
    (Position.bound vm).holds payment w' := by
  obtain ⟨⟨own, ⟨old, was, paid, active, owned⟩, rest⟩, free⟩ := holds
  rw [present] at was
  cases was
  obtain ⟨here, elsewhere⟩ := rowsOf_put next own rows
  refine ⟨⟨own, ⟨next, here, ?_, status.trans active, by rw [owner]; exact owned⟩,
    fun serial found different present => ?_⟩, by simpa only [owed, events] using free⟩
  · cases payment <;> simpa [VMRow.paidBy, charge, owner] using paid
  · exact rest serial found different ((elsewhere serial different).symm.trans present)

/-- The position of a payment whose refund has just been recorded. -/
def Position.owe : Position → Position
  | .untouched => .refunded
  | .bound vm => .boundOwed vm
  | other => other

theorem owe_holds (position : Position) (rows : w'.vms = w.vms) (count : owed w'.toStore payment = 1)
    (holds : position.holds payment w) : position.owe.holds payment w' := by
  cases position with
  | untouched =>
    refine ⟨count, fun serial row present => Or.inl (holds.2 serial row ?_)⟩
    simpa only [rowsOf, rows] using present
  | bound | boundOwed => exact ⟨by simpa only [BoundAt, rowsOf, rows] using holds.1, count⟩
  | refunded =>
    refine ⟨count, fun serial row present => holds.2 serial row ?_⟩
    simpa only [rowsOf, rows] using present

theorem boundOwed_failed (row : VMRow) (rows : w'.vms = w.vms.put vm { row with
    status := .failed, hasPrefix := false }) (events : w'.events = w.events)
    (holds : (Position.boundOwed vm).holds payment w) : Position.refunded.holds payment w' := by
  obtain ⟨⟨own, _, rest⟩, count⟩ := holds
  exact ⟨by simpa only [owed, events] using count, rows_put _ own rows (Or.inr rfl)
    fun serial found apart present => Or.inl (rest serial found apart present)⟩

theorem refunded_failed (row : VMRow) (own : vm.drawer = payment.party)
    (rows : w'.vms = w.vms.put vm { row with status := .failed, hasPrefix := false })
    (events : w'.events = w.events) (holds : Position.refunded.holds payment w) :
    Position.refunded.holds payment w' :=
  ⟨by simpa only [owed, events] using holds.1,
    rows_put _ own rows (Or.inr rfl) fun serial found _ => holds.2 serial found⟩

end Effects

section Sessions
variable {worker : Nat} {payment : Payment} {position : Position}

theorem triple_markVmFailed (vm : VmId) (own : vm.drawer = payment.party)
    (covered : position = .refunded ∨ position = .boundOwed vm) :
    CheckoutTriple worker (Held worker payment position)
      (ask (.markVmFailed vm)) (fun _ => Held worker payment .refunded) := by
  refine triple_act _ own ?_
  intro w choice w' reply sound held careful ran touches
  refine held_touched held touches ?_
  rcases covered with rfl | rfl
  · rcases committed_ends _ _ _ _ _ ran with ⟨rfl, _⟩ | ⟨value, done, _⟩
    · exact held.holds
    obtain ⟨inner, _⟩ := onStore_ok _ _ _ _ done
    rcases failed_vm vm inner with ⟨same, _⟩ | ⟨row, _, written⟩
    · exact position_columns _ (by rw [same]) (by rw [same]) held.holds
    · exact refunded_failed row own (by rw [written]) (by rw [written]) held.holds
  · obtain ⟨⟨_, ⟨row, present, _, active, owner⟩, _⟩, _⟩ := held.holds
    rcases committed_applied _ _ _ _ _ ran (careful ⟨row, present, owner⟩) with
      ⟨value, done⟩ | ⟨_, error, aborted⟩
    · obtain ⟨inner, _⟩ := onStore_ok _ _ _ _ done
      rcases failed_vm vm inner with ⟨_, terminal⟩ | ⟨found, _, written⟩
      · rcases terminal row present with gone | gone <;> simp [active] at gone
      · exact boundOwed_failed found (by rw [written]) (by rw [written]) held.holds
    · have aborted := onStore_error _ _ _ aborted
      simp [markVmFailed, present, active] at aborted

theorem triple_startProvisioning (vm : VmId) (own : vm.drawer = payment.party) :
    CheckoutTriple worker (Held worker payment (.bound vm))
      (ask (.startProvisioning vm)) (outcome (fun _ => Held worker payment (.bound vm))
        (fun error w => error = .database ∧ Held worker payment (.bound vm) w)) := by
  refine triple_act _ own ?_
  intro w choice w' reply sound held _ ran touches
  rcases committed_ends _ _ _ _ _ ran with ⟨rfl, error, rfl, cause⟩ | ⟨value, done, cause⟩
  · refine ⟨?_, held⟩
    rcases cause with failed | aborted
    · exact failed
    have aborted := onStore_error _ _ _ aborted
    simp only [startProvisioning] at aborted
    split at aborted
    · cases aborted
    · split at aborted <;> cases aborted
  · have moved : Held worker payment (.bound vm) w' := by
      refine held_touched held touches ?_
      obtain ⟨inner, _⟩ := onStore_ok _ _ _ _ done
      rcases started vm inner with same | ⟨row, present, written⟩
      · exact position_columns _ (by rw [same]) (by rw [same]) held.holds
      · exact bound_rewritten row (setHandoff row true) present (by simp) (by simp) (by simp)
          (by rw [written]) (by rw [written]) held.holds
    rcases cause with rfl | rfl
    · exact moved
    · exact ⟨rfl, moved⟩

theorem triple_persistChargedAmount (vm : VmId) (amount : Usd) (own : vm.drawer = payment.party) :
    CheckoutTriple worker (Held worker payment (.bound vm))
      (ask (.persistChargedAmount vm amount)) (fun _ => Held worker payment (.bound vm)) := by
  refine triple_act _ own ?_
  intro w choice w' reply sound held _ ran touches
  refine held_touched held touches ?_
  rcases committed_ends _ _ _ _ _ ran with ⟨rfl, _⟩ | ⟨value, done, _⟩
  · exact held.holds
  obtain ⟨inner, _⟩ := onStore_ok _ _ _ _ done
  rcases repriced vm amount inner with same | ⟨row, present, written⟩
  · exact position_columns _ (by rw [same]) (by rw [same]) held.holds
  · exact bound_rewritten row { row with costTotal := amount } present rfl rfl rfl
      (by rw [written]) (by rw [written]) held.holds

def PaysAs (payment : Payment) (wallet : Wallet) (tx : Option Tx) : Prop :=
  ∀ row : VMRow, row.ownerWallet = some wallet → row.paymentTx = tx → row.paidBy payment = true

theorem activated_pays (row : VMRow) (args : ActivateArgs) (unpaid : Unpaid row)
    (pays : PaysAs payment args.ownerWallet args.paymentTx) :
    (activatedRow row args).paidBy payment = true :=
  pays _ (by simp) (by simp [unpaid.2.1])

def Refused (error : Err) : Prop := error ≠ .handoffFenced ∧ ∀ status, error ≠ .http status

theorem refusal_refused (refusal : Refusal) : Refused refusal.err := by
  cases refusal <;> exact ⟨by simp [Refusal.err], by simp [Refusal.err]⟩

theorem activate_refused (vm : VmId) (args : ActivateArgs) (s : Store) (error : Err)
    (aborted : activateVmReservation vm args s = .error error) : Refused error := by
  simp only [activateVmReservation] at aborted
  split at aborted
  · cases aborted
  · split at aborted <;> cases aborted
    exact ⟨by simp, by simp⟩

theorem insert_refused (vm : VmId) (args : InsertArgs) (s : Store) (error : Err)
    (aborted : insertVmRow vm args s = .error error) : Refused error := by
  simp only [insertVmRow] at aborted
  split at aborted
  · cases aborted
    exact ⟨by simp, by simp⟩
  · split at aborted <;> cases aborted
    exact ⟨by simp, by simp⟩

theorem triple_activate (vm : VmId) (args : ActivateArgs) (own : vm.drawer = payment.party)
    (safe : Attributable payment.party (some args.ownerWallet) args.paymentTx)
    (pays : PaysAs payment args.ownerWallet args.paymentTx) :
    CheckoutTriple worker (Held worker payment .untouched)
      (ask (.activateVmReservation vm args false))
      (outcome
        (fun taken w => if taken then Held worker payment (.bound vm) w
          else Held worker payment .untouched w)
        (fun error w => Refused error ∧
          (Held worker payment .untouched w ∨
            error = .database ∧ Held worker payment (.bound vm) w))) := by
  refine triple_act _ ⟨own, safe⟩ ?_
  intro w choice w' reply sound held _ ran touches
  rcases waivable_ends _ _ _ _ _ _ ran with ⟨absurd, _⟩ | ⟨rfl, refusal, rfl⟩ | ends
  · cases absurd
  · exact ⟨refusal_refused refusal, Or.inl held⟩
  · rcases ends with ⟨rfl, error, rfl, cause⟩ | ⟨value, done, cause⟩
    · refine ⟨?_, Or.inl held⟩
      rcases cause with rfl | aborted
      · exact ⟨by simp, by simp⟩
      · exact activate_refused vm args _ error (onStore_error _ _ _ aborted)
    · obtain ⟨inner, _⟩ := onStore_ok _ _ _ _ done
      have result : if value = true then Held worker payment (.bound vm) w'
          else Held worker payment .untouched w' := by
        rcases activated vm args value inner with ⟨rfl, same, _⟩ | ⟨rfl, row, present, written⟩
        · exact held_touched held touches
            (position_columns _ (by rw [same]) (by rw [same]) held.holds)
        · have unpaid := held.holds.2 vm.serial row (by rw [rowsOf_self own]; exact present)
          refine held_touched held touches (bound_put (activatedRow row args) own
            (activated_pays row args unpaid pays) (by simp [unpaid.2.2]) (by simp)
            (by rw [written]) (by rw [written]) held.holds)
      rcases cause with rfl | rfl
      · exact result
      refine ⟨⟨by simp, by simp⟩, ?_⟩
      cases value
      · exact Or.inl result
      · exact Or.inr ⟨rfl, result⟩

theorem triple_insertVm (vm : VmId) (args : InsertArgs) (wallet : Wallet)
    (own : vm.drawer = payment.party) (owner : args.ownerWallet = some wallet)
    (safe : Attributable payment.party args.ownerWallet args.paymentTx)
    (pays : PaysAs payment wallet args.paymentTx) :
    CheckoutTriple worker (Held worker payment .untouched) (ask (.insertVm vm args false))
      (outcome (fun _ => Held worker payment (.bound vm))
        (fun error w => Refused error ∧ Held worker payment .untouched w)) := by
  refine triple_act _ ⟨own, safe⟩ ?_
  intro w choice w' reply sound held careful ran touches
  rcases waivable_ends _ _ _ _ _ _ ran with ⟨absurd, _⟩ | ⟨rfl, refusal, rfl⟩ | ends
  · cases absurd
  · exact ⟨refusal_refused refusal, held⟩
  · rcases ends with ⟨rfl, error, rfl, cause⟩ | ⟨value, done, cause⟩
    · refine ⟨?_, held⟩
      rcases cause with rfl | aborted
      · exact ⟨by simp, by simp⟩
      · exact insert_refused vm args _ error (onStore_error _ _ _ aborted)
    · obtain ⟨inner, _⟩ := onStore_ok _ _ _ _ done
      obtain ⟨_, written⟩ := inserted vm args inner
      have moved : Held worker payment (.bound vm) w' :=
        held_touched held touches (bound_put (newVmRow args) own
          (pays _ (by simp [owner]) (by simp)) (by simp) (by simp [owner]) (by rw [written])
          (by rw [written]) held.holds)
      rcases cause with rfl | rfl
      · exact moved
      · exact ⟨⟨by simp, by simp⟩, waivable_failed _ _ _ _ _ _ ran careful ▸ held⟩

def Position.owing : Position → Prop
  | .untouched | .bound _ => True
  | _ => False

theorem owing_free (w : World) (owing : position.owing) (holds : position.holds payment w) :
    owed w.toStore payment = 0 := by
  cases position with
  | untouched => exact holds.1
  | bound vm => exact holds.2
  | boundOwed | refunded => exact owing.elim

theorem triple_recordOwed (args : OwedArgs) (event : PaymentEventRow)
    (built : buildOwedEvent args = some event) (refunds : event.refunds payment = true)
    (safe : Attributable payment.party args.payer args.originalTx) (owing : position.owing) :
    CheckoutTriple worker (Held worker payment position) (ask (.recordOwed args))
      (outcome (fun _ => Held worker payment position.owe) (fun _ _ => False)) := by
  refine triple_act _ safe ?_
  intro w choice w' reply sound held careful ran touches
  simp only [CheckoutReq.exec, recordOwedIn] at ran
  split at ran
  · exact absurd rfl careful
  · cases ran
    have free := owing_free w owing held.holds
    refine held_touched held touches (owe_holds position ?_ ?_ held.holds)
    · simp [recordOwed, built, addEvent]
    · simp [recordOwed, built, free, refunds]
  · cases ran

end Sessions

section Create
variable {handler : Nat} {position : Position}

/-- What is known of a charge once `check_payment` has returned it. -/
structure Charged (settled : Settled) : Prop where
  payer : ∃ payer, settled.wallet = payerWallet payer
  tx : settled.paymentTx = some (.chain settled.handler)
  real : settled.adminWaived = false
  positive : 0 < settled.quote.amountUsd
  reservation : settled.reservation = none ∨ settled.reservation = some (reservationId settled.handler)

theorem payer_not_intent (payer : Option Nat) (intent : IntentId) :
    payerWallet payer ≠ .intent intent := by
  cases payer <;> simp [payerWallet]

theorem charge_attributable (payer : Option Nat) (handler : Nat) :
    Attributable (.request handler) (some (payerWallet payer)) (some (.chain handler)) := by
  constructor
  · intro intent same
    exact absurd (Option.some.inj same) (payer_not_intent payer intent)
  · intro settlement same
    cases same
    rfl

theorem chain_pays (handler : Nat) (wallet : Wallet) :
    PaysAs (.x402 handler) wallet (some (.chain handler)) := by
  intro row _ charge
  simp [VMRow.paidBy, charge]

theorem triple_recordCreateFailureRefund (wallet : Wallet) (charged : Usd) (reason : String)
    (vm : Option VmId) (payer : ∃ payer, wallet = payerWallet payer) (positive : 0 < charged)
    (owing : position.owing) :
    CheckoutTriple handler (Held handler (.x402 handler) position)
      (recordCreateFailureRefund wallet (some (.chain handler)) charged reason vm)
      (outcome (fun _ => Held handler (.x402 handler) position.owe) (fun _ _ => False)) := by
  obtain ⟨payer, rfl⟩ := payer
  have read : CheckoutTriple handler (Held handler (.x402 handler) position)
      (ask (.settledEvent (.chain handler)))
      (outcome
        (fun found w => (∀ event, found = some event →
          (∀ intent, event.payerWallet ≠ some (.intent intent)) ∧
            ∃ amount, event.amountUsd = some amount ∧ 0 < amount) ∧
          Held handler (.x402 handler) position w)
        (fun _ _ => False)) := by
    refine triple_act (.settledEvent (.chain handler)) trivial ?_
    intro w choice w' reply sound held careful ran _
    obtain rfl : choice = .commit .done := careful
    simp only [CheckoutReq.exec, committed, transact, readOnly, Option.some.injEq,
      Prod.mk.injEq] at ran
    obtain ⟨rfl, rfl⟩ := ran
    refine ⟨fun event found => ?_, held⟩
    have member := List.mem_of_find?_eq_some found
    have matched := List.find?_some found
    simp only [Bool.and_eq_true, beq_iff_eq] at matched
    exact sound.settled event member handler matched.1 matched.2
  refine triple_then read fun found => triple_fact fun known => ?_
  cases found with
  | none =>
    obtain ⟨event, built, owed, _, _, charge, _⟩ := built_owed
      { resourcePath := "/v1/vm/create", payer := some (payerWallet payer),
        amount := some charged, originalTx := some (.chain handler), reason := reason,
        vmId := vm } _ _ rfl rfl positive
    exact triple_recordOwed _ event built (by simp [PaymentEventRow.refunds, owed, charge])
      (charge_attributable payer handler) owing
  | some found =>
    obtain ⟨foreign, amount, priced, positive⟩ := known found rfl
    obtain ⟨wallet, paid⟩ : ∃ wallet,
        (found.payerWallet <|> some (payerWallet payer)) = some wallet := by
      cases found.payerWallet <;> exact ⟨_, rfl⟩
    obtain ⟨event, built, owed, _, _, charge, _⟩ := built_owed
      { resourcePath := "/v1/vm/create",
        payer := found.payerWallet <|> some (payerWallet payer),
        amount := found.amountUsd, originalTx := some (.chain handler), reason := reason,
        network := found.network, asset := found.asset, vmId := vm } wallet amount paid priced
      positive
    refine triple_recordOwed _ event built (by simp [PaymentEventRow.refunds, owed, charge])
      ⟨fun intent same => ?_, fun settlement same => by cases same; rfl⟩ owing
    cases payers : found.payerWallet with
    | some other => exact absurd (by simpa [payers] using same) (payers ▸ foreign intent)
    | none => exact absurd (by simpa [payers] using same) (payer_not_intent payer intent)

section
variable (settled : Settled)
variable (charged : Charged settled)
include charged

theorem triple_recordAndFail (reason : String)
    (vm : Option VmId) (status : Nat)
    (covered : position = .untouched ∧ (∀ row, vm = some row → row.drawer = .request settled.handler)
      ∨ ∃ row, row.drawer = .request settled.handler ∧ position = .bound row ∧ vm = some row) :
    CheckoutTriple settled.handler (Held settled.handler (.x402 settled.handler) position)
      (recordAndFail settled reason vm status)
      (fun _ => Closed settled.handler (.x402 settled.handler)) := by
  have owing : position.owing := by
    rcases covered with ⟨rfl, _⟩ | ⟨row, _, rfl, _⟩ <;> trivial
  simp only [recordAndFail, charged.tx]
  refine triple_bind (triple_recordCreateFailureRefund settled.wallet settled.quote.amountUsd
    reason vm charged.payer charged.positive owing) (fun _ => ?_) (fun _ _ _ absurd => absurd.elim)
  have failing : CheckoutTriple settled.handler
      (Held settled.handler (.x402 settled.handler) position.owe) (failRow vm)
      (fun _ => Held settled.handler (.x402 settled.handler) .refunded) := by
    rcases covered with ⟨rfl, drawn⟩ | ⟨row, own, rfl, rfl⟩
    · cases vm with
      | none => exact triple_ret _ fun _ _ held => held
      | some row => exact triple_markVmFailed row (drawn row rfl) (Or.inl rfl)
    · exact triple_markVmFailed row own (Or.inr rfl)
  refine triple_bind failing (fun _ => triple_raise _ fun _ _ held => Or.inl held)
    (fun _ _ _ held => Or.inl held)

theorem triple_postChargeFailure (row : Option VmId) (error : Err) (refused : Refused error)
    (covered : position = .untouched ∧ row = none
      ∨ ∃ vm, vm.drawer = .request settled.handler ∧ position = .bound vm ∧
        (row <|> settled.reservation) = some vm ∧
        (error = .accountDisabled → settled.reservation = some vm)) :
    CheckoutTriple settled.handler (Held settled.handler (.x402 settled.handler) position)
      (postChargeFailure settled row error)
      (fun _ => Closed settled.handler (.x402 settled.handler)) := by
  have drawn : ∀ vm, settled.reservation = some vm → vm.drawer = .request settled.handler := by
    intro vm held
    rcases charged.reservation with none | some
    · simp [none] at held
    · rw [some] at held
      cases held
      rfl
  have general : CheckoutTriple settled.handler
      (Held settled.handler (.x402 settled.handler) position)
      (recordAndFail settled "vm_create_failed" (row <|> settled.reservation) 500)
      (fun _ => Closed settled.handler (.x402 settled.handler)) := by
    refine triple_recordAndFail settled charged _ _ _ ?_
    rcases covered with ⟨rfl, rfl⟩ | ⟨vm, own, rfl, found, _⟩
    · exact Or.inl ⟨rfl, fun vm held => drawn vm (by simpa using held)⟩
    · exact Or.inr ⟨vm, own, rfl, found⟩
  cases error with
  | http status => exact absurd rfl (refused.2 status)
  | accountDisabled =>
    refine triple_recordAndFail settled charged _ _ _ ?_
    rcases covered with ⟨rfl, rfl⟩ | ⟨vm, own, rfl, _, found⟩
    · exact Or.inl ⟨rfl, fun vm held => drawn vm (by simpa using held)⟩
    · exact Or.inr ⟨vm, own, rfl, found rfl⟩
  | _ => exact general

abbrev Acquired (settled : Settled) : Except Err VmId → World → Prop :=
  outcome
    (fun vm w => vm.drawer = .request settled.handler ∧
      Held settled.handler (.x402 settled.handler) (.bound vm) w)
    (fun error w => Refused error ∧
      (Held settled.handler (.x402 settled.handler) .untouched w ∨
        ∃ vm, settled.reservation = some vm ∧ vm.drawer = .request settled.handler ∧
          Held settled.handler (.x402 settled.handler) (.bound vm) w))

theorem triple_acquireRow : CheckoutTriple settled.handler
      (Held settled.handler (.x402 settled.handler) .untouched) (acquireRow settled)
      (Acquired settled) := by
  obtain ⟨payer, paid⟩ := charged.payer
  have fallback : CheckoutTriple settled.handler
      (Held settled.handler (.x402 settled.handler) .untouched) (createFallback settled)
      (Acquired settled) := by
    simp only [createFallback, charged.real]
    refine triple_bind (triple_insertVm (fallbackId settled.handler) settled.insertArgs
      settled.wallet rfl rfl ?_ ?_) (fun _ => triple_ret _ fun _ _ held => ⟨rfl, held⟩)
      (fun _ _ _ failed => ⟨failed.1, Or.inl failed.2⟩)
    · simpa only [Settled.insertArgs, charged.tx, paid, Payment.party] using
        charge_attributable payer settled.handler
    · simpa only [Settled.insertArgs, charged.tx] using chain_pays settled.handler settled.wallet
  rcases charged.reservation with none | some
  · simpa only [acquireRow, none] using fallback
  simp only [acquireRow, some, charged.real] at fallback ⊢
  refine triple_bind (triple_activate (reservationId settled.handler) settled.activateArgs rfl
    ?_ ?_) (fun taken => ?_) (fun error w _ failed => ⟨failed.1, ?_⟩)
  · simpa only [Settled.activateArgs, charged.tx, paid, Payment.party] using
      charge_attributable payer settled.handler
  · simpa only [Settled.activateArgs, charged.tx] using chain_pays settled.handler settled.wallet
  · cases taken with
    | true => exact triple_ret _ fun _ _ held => ⟨rfl, held⟩
    | false =>
      simp only [Bool.false_eq_true, ↓reduceIte]
      split
      · exact triple_raise _ fun _ _ held => ⟨⟨by simp, by simp⟩, Or.inl held⟩
      · exact fallback
  · rcases failed.2 with untouched | ⟨_, bound⟩
    · exact Or.inl untouched
    · exact Or.inr ⟨reservationId settled.handler, some, rfl, bound⟩

omit charged in
theorem triple_dispatch (vm : VmId)
    (own : vm.drawer = .request settled.handler) :
    CheckoutTriple settled.handler
      (Held settled.handler (.x402 settled.handler) (.bound vm)) (dispatch settled vm)
      (outcome (fun _ => Held settled.handler (.x402 settled.handler) (.bound vm))
        (fun error w => error = .database ∧
          Held settled.handler (.x402 settled.handler) (.bound vm) w)) := by
  refine triple_bind (triple_retry_keeps 3
      (triple_quiet (.linkQuoteVm settled.request.quoteId vm) trivial))
    (fun _ => triple_startProvisioning vm own) (fun _ _ _ absurd => absurd.elim)

theorem triple_acceptPayment : CheckoutTriple settled.handler
      (Held settled.handler (.x402 settled.handler) .untouched) (acceptPayment settled)
      (fun _ => Closed settled.handler (.x402 settled.handler)) := by
  have claim : CheckoutTriple settled.handler
      (Held settled.handler (.x402 settled.handler) .untouched)
      (ask (.claimQuote settled.request.process settled.request.quoteId
        (.request settled.handler)))
      (outcome
        (fun won w => won = true ∧ Held settled.handler (.x402 settled.handler) .untouched w)
        (fun _ _ => False)) := by
    refine triple_act (.claimQuote settled.request.process settled.request.quoteId
      (.request settled.handler)) trivial ?_
    intro w choice w' reply sound held careful ran touches
    have unseen := quiet_unseen _ choice w w' reply (by exact trivial) sound ran
    obtain ⟨fresh, ⟨row, present, created⟩, rfl⟩ := careful (held.charged _ rfl)
    simp only [CheckoutReq.exec, claimQuoteIn, fresh, Bool.false_eq_true, ↓reduceIte, committed,
      transact, onStore, claimQuote, present, created, Option.some.injEq, Prod.mk.injEq] at ran
    obtain ⟨_, rfl⟩ := ran
    exact ⟨rfl, held_kept held (unseen.views _)⟩
  refine triple_bind claim (fun won => triple_fact fun taken => ?_)
    (fun _ _ _ absurd => absurd.elim)
  subst taken
  refine triple_bind (triple_attempt (triple_acquireRow settled charged)) (fun acquired => ?_)
    (fun _ _ _ absurd => by obtain ⟨_, same, _⟩ := absurd; cases same)
  cases acquired with
  | ok vm =>
    intro w sound reached
    obtain ⟨inner, same, reached⟩ := reached
    obtain rfl := Except.ok.inj same
    obtain ⟨own, held⟩ := reached
    have delivered : CheckoutTriple settled.handler
        (Held settled.handler (.x402 settled.handler) (.bound vm))
        (do dispatch settled vm; pure (.created vm) : Checkout CreateReply)
        (outcome (fun _ => Held settled.handler (.x402 settled.handler) (.bound vm))
          (fun error w => error = .database ∧
            Held settled.handler (.x402 settled.handler) (.bound vm) w)) :=
      triple_then (triple_dispatch settled vm own)
        fun _ => triple_ret _ fun _ _ held => held
    refine triple_rescue delivered (fun _ _ _ bound => Or.inr ⟨vm, bound⟩) (fun error => ?_)
      w sound held
    rintro w sound ⟨rfl, bound⟩
    exact triple_postChargeFailure settled charged (some vm) .database ⟨by simp, by simp⟩
      (Or.inr ⟨vm, own, rfl, rfl, by simp⟩) w sound bound
  | error error =>
    intro w sound reached
    obtain ⟨inner, same, reached⟩ := reached
    obtain rfl := Except.ok.inj same
    obtain ⟨refused, position⟩ := reached
    rcases position with untouched | ⟨vm, found, own, bound⟩
    · exact triple_postChargeFailure settled charged none error refused
        (Or.inl ⟨rfl, rfl⟩) w sound untouched
    · exact triple_postChargeFailure settled charged none error refused
        (Or.inr ⟨vm, own, rfl, by simpa using found, fun _ => found⟩) w sound bound

end

end Create

section Opening
variable {handler : Nat} {α : Type}

/-- Nothing has been charged yet, and at most a reservation stands. -/
def Fresh (handler : Nat) (w : World) : Prop :=
  w.charged handler = false ∧ Position.untouched.holds (.x402 handler) w

def Uncharged (handler : Nat) (w : World) : Prop := w.charged handler = false

theorem fresh_stable : Stable (checkoutDuty handler) (Fresh handler) := by
  rintro a b ⟨free, holds⟩ moved _
  have same := moved.views (.request handler) rfl
  exact ⟨(same.charged handler rfl).trans free, position_kept .untouched same holds⟩

theorem uncharged_stable : Stable (checkoutDuty handler) (Uncharged handler) := by
  intro a b free moved _
  exact ((moved.views (.request handler) rfl).charged handler rfl).trans free

def Opens (handler : Nat) {β : Type} : CheckoutReq β → Prop
  | .reserveVm vm args =>
    vm.drawer = .request handler ∧ args.ownerWallet = none ∧ args.paymentTx = none
  | request => Quiet request

theorem reserved_untouched (payment : Payment) (vm : VmId) (args : InsertArgs)
    (own : vm.drawer = payment.party) (unpaid : args.ownerWallet = none ∧ args.paymentTx = none)
    (choice : CheckoutChoice) (w w' : World) (reply : Except Err Unit)
    (ran : (CheckoutReq.reserveVm vm args).exec choice w = some (w', reply))
    (holds : Position.untouched.holds payment w) : Position.untouched.holds payment w' := by
  rcases refusable_ends _ _ _ _ _ ran with ⟨rfl, _⟩ | ⟨rfl, _⟩ | ⟨value, done, _⟩
  · exact holds
  · exact holds
  · obtain ⟨inner, _⟩ := onStore_ok _ _ _ _ done
    rcases reserved vm args inner with same | insert
    · exact position_columns .untouched (by rw [same]) (by rw [same]) holds
    · obtain ⟨_, written⟩ := inserted vm args insert
      exact untouched_put (newVmRow args) own ⟨by simp [unpaid], by simp [unpaid], by simp⟩
        (by rw [written]) (by rw [written]) holds

theorem triple_opens (p : Checkout α) (opens : Within (Opens handler) p) :
    CheckoutTriple handler (Fresh handler) p (fun _ => Fresh handler) := by
  refine triple_within p opens fresh_stable (fun _ _ _ _ _ _ => trivial) ?_
  intro β request choice w w' reply allowed sound fresh _ ran
  simp only [checkoutSetting] at ran
  cases request with
  | reserveVm vm args =>
    obtain ⟨own, unpaid⟩ := allowed
    have touches := acts_touches handler (.request handler) (.reserveVm vm args) choice w w' reply
      ⟨own, by rw [unpaid.1, unpaid.2]; exact attributable_none _⟩ sound rfl ran
    exact ⟨touches.sound, touches_guar handler (.request handler) w w' rfl touches,
      by rw [touches.charged]; exact fresh.1,
      reserved_untouched (.x402 handler) vm args own unpaid choice w w' reply ran fresh.2⟩
  | _ =>
    have unseen := quiet_unseen _ choice w w' reply (by exact allowed) sound ran
    have same := unseen.views (.request handler)
    exact ⟨unseen.sound, unseen_guar handler w w' unseen, (same.charged handler rfl).trans fresh.1,
      position_kept .untouched same fresh.2⟩

theorem triple_uncharged (p : Checkout α) (acts : Within (Acts (.request handler)) p) :
    CheckoutTriple handler (Uncharged handler) p
      (fun _ => Uncharged handler) := by
  refine triple_within p acts uncharged_stable (fun _ _ _ _ _ _ => trivial) ?_
  intro β request choice w w' reply allowed sound free _ ran
  have touches := acts_touches handler (.request handler) request choice w w' reply allowed sound
    rfl ran
  exact ⟨touches.sound, touches_guar handler (.request handler) w w' rfl touches,
    by rw [Uncharged, touches.charged]; exact free⟩

theorem opens_lookupQuote (request : CreateRequest) :
    Within (Opens handler) (lookupQuote request) := by
  refine within_bind ((within_perform _).mpr trivial) fun found => ?_
  cases found with
  | none => trivial
  | some quote =>
    have replay : Within (Opens handler) (replayConsumed quote.vmId) := by
      cases quote.vmId with
      | none => trivial
      | some vm =>
        refine within_bind ((within_perform _).mpr trivial) fun row => ?_
        cases row <;> trivial
    dsimp only
    split
    · trivial
    split
    · exact within_bind replay fun _ => trivial
    refine within_bind ((within_perform _).mpr trivial) fun now => ?_
    split
    · trivial
    · split
      · trivial
      · split <;> trivial

theorem opens_claimOrderedDomain (request : CreateRequest) (order : VMCreateRequest) (vm : VmId) :
    Within (Opens handler) (claimOrderedDomain request order vm) := by
  simp only [claimOrderedDomain]
  split
  · refine within_rescue ?_ fun error => ?_
    · cases request.account with
      | none => trivial
      | some owner => exact (within_perform _).mpr trivial
    · refine within_bind ((within_perform _).mpr trivial) fun _ => ?_
      cases error <;> trivial
  · trivial

theorem acts_releaseReservation (reservation : Option VmId) :
    Within (Acts (.request handler)) (releaseReservation reservation) := by
  cases reservation with
  | none => trivial
  | some vm => exact (within_perform _).mpr trivial

def OwnReservation (handler : Nat) (reservation : Option VmId) : Prop :=
  reservation = none ∨ reservation = some (reservationId handler)

theorem triple_reserve (request : CreateRequest) (quote : VMQuoteRow) :
    CheckoutTriple handler (Fresh handler) (reserve handler request quote)
      (outcome (fun reservation w => OwnReservation handler reservation ∧ Fresh handler w)
        (fun _ => Fresh handler)) := by
  simp only [reserve]
  split
  · exact triple_bind (triple_opens (ask .admission) ((within_perform _).mpr trivial))
      (fun _ => triple_ret _ fun _ _ fresh => ⟨Or.inl rfl, fresh⟩) (fun _ _ _ fresh => fresh)
  · have taking (handle : Err → Checkout Unit) (raises : ∀ error, Within (Opens handler) (handle error)) :
        Within (Opens handler)
          ((ask (.reserveVm (reservationId handler) (reservationArgs request quote))).rescue handle) :=
      within_rescue ((within_perform _).mpr ⟨rfl, rfl, rfl⟩) raises
    refine triple_bind (triple_opens _ (taking _ fun error => by cases error <;> trivial))
      (fun _ => ?_) (fun _ _ _ fresh => fresh)
    refine triple_bind (triple_opens _ (opens_claimOrderedDomain request quote.orderPayload _))
      (fun _ => triple_ret _ fun _ _ fresh => ⟨Or.inr rfl, fresh⟩) (fun _ _ _ fresh => fresh)

def Waived (handler : Nat) (wallet : Wallet) (paymentTx : Option Tx) : Prop :=
  Attributable (.request handler) (some wallet) paymentTx ∧
    ∃ tx, paymentTx = some tx ∧ tx.isBypass = true

/-- The answer of `check_payment`: a charge, or something that cost nothing. -/
def Answered (handler : Nat) (amount : Usd) (result : PaymentResult) (w : World) : Prop :=
  match result with
  | .paid wallet paymentTx adminWaived =>
    ((∃ payer, wallet = payerWallet payer) ∧ paymentTx = some (.chain handler) ∧
      adminWaived = false ∧ 0 < amount ∧ Held handler (.x402 handler) .untouched w) ∨
    (Waived handler wallet paymentTx ∧ Uncharged handler w)
  | .response => Uncharged handler w

theorem charge_holds (payer : Option Nat) (amount : Usd) (written : Bool) (w : World)
    (sound : Sound w) (fresh : Fresh handler w) (positive : 0 < amount) :
    Sound (chargeHandler handler payer amount written w) ∧
      Guar handler w (chargeHandler handler payer amount written w) ∧
      Held handler (.x402 handler) .untouched (chargeHandler handler payer amount written w) := by
  have count : ∀ payment, owed (chargeHandler handler payer amount written w).toStore payment =
      owed w.toStore payment := by
    intro payment
    cases written with
    | false => rfl
    | true =>
      have settles : (settlementEvent handler payer amount).refunds payment = false := by
        cases payment <;> simp [PaymentEventRow.refunds, settlementEvent]
      simp [chargeHandler, settles]
  have rows : (chargeHandler handler payer amount written w).vms = w.vms := by
    cases written <;> rfl
  have intents : (chargeHandler handler payer amount written w).intents = w.intents := by
    cases written <;> rfl
  have others : ∀ party, party ≠ .request handler →
      SameView party w (chargeHandler handler payer amount written w) := by
    intro party different
    refine ⟨fun _ => Or.inl (by rw [rows]), fun payment _ => count payment, ?_, ?_⟩
    · rintro other rfl
      have distinct : other ≠ handler := fun same => different (by rw [same])
      simp [chargeHandler, distinct]
    · exact fun intent _ => ⟨by rw [intents], rfl⟩
  refine ⟨⟨?_, ?_, ?_, ?_, ?_⟩, ⟨?_, ?_, ?_⟩, ⟨rfl, ?_, ?_⟩⟩
  · rw [rows]; exact sound.payers
  · rw [intents]; exact sound.intents
  · intro intent idle
    have same := others (Payment.native intent).party (by simp [Payment.party])
    exact position_kept .untouched same (sound.idle intent idle)
  · rw [intents]; exact sound.handed
  · intro event member
    cases written with
    | false => exact sound.settled event member
    | true =>
      rcases List.mem_append.mp member with old | new
      · exact sound.settled event old
      obtain rfl := List.mem_singleton.mp new
      intro settlement _ _
      refine ⟨fun intent => ?_, amount, rfl, positive⟩
      cases payer <;> simp [settlementEvent]
  · intro party foreign
    refine others party ?_
    rintro rfl
    exact foreign rfl
  · exact fun _ _ held => held
  · exact fun _ _ held => Or.inl held
  · rintro other same
    cases same
    simp [chargeHandler]
  · exact ⟨(count _).trans fresh.2.1, by simpa only [rowsOf, rows] using fresh.2.2⟩

theorem triple_checkPayment (credential : Credential) (amount : Usd) :
    CheckoutTriple handler (Fresh handler) (ask (.checkPayment handler credential amount))
      (outcome (Answered handler amount) (fun _ => Uncharged handler)) := by
  refine triple_perform _ fresh_stable (fun _ _ _ _ => trivial) ?_
  intro w choice w' reply sound fresh _ ran
  have idle : Sound w ∧ Guar handler w w :=
    ⟨sound, unseen_guar handler w w (unseen_refl w sound)⟩
  simp only [checkoutSetting, CheckoutReq.exec, checkPayment] at ran
  split at ran
  · rename_i payer written _
    split at ran
    · cases ran
    rename_i positive
    obtain ⟨rfl, rfl⟩ := Prod.mk.inj (Option.some.inj ran)
    obtain ⟨sound', guar, held⟩ :=
      charge_holds payer amount written w sound fresh (Rat.not_le.mp positive)
    exact ⟨sound', guar, Or.inl ⟨⟨payer, rfl⟩, rfl, rfl, Rat.not_le.mp positive, held⟩⟩
  · cases ran
    refine ⟨idle.1, idle.2, Or.inr ⟨⟨⟨by simp, by simp⟩, _, rfl, rfl⟩, fresh.1⟩⟩
  · cases ran
    exact ⟨idle.1, idle.2, fresh.1⟩
  · cases ran
    refine ⟨idle.1, idle.2, Or.inr ⟨⟨⟨by simp, by simp⟩, _, rfl, rfl⟩, fresh.1⟩⟩
  · cases ran
    exact ⟨idle.1, idle.2, fresh.1⟩
  · cases ran

theorem triple_settle (request : CreateRequest) (quote : VMQuoteRow) (reservation : Option VmId) :
    CheckoutTriple handler (Fresh handler) (settle handler request quote reservation)
      (outcome (Answered handler quote.amountUsd) (fun _ => Uncharged handler)) := by
  have enter : CheckoutTriple handler (Fresh handler)
      (ask (.enterAccountGuard request.account)) (fun _ => Fresh handler) :=
    triple_opens _ ((within_perform _).mpr trivial)
  have leave : ∀ result, CheckoutTriple handler (Answered handler quote.amountUsd result)
      (ask (.leaveAccountGuard request.account (.request handler)))
      (outcome (fun _ => Answered handler quote.amountUsd result)
        (fun _ => Uncharged handler)) := by
    intro result
    have free : CheckoutTriple handler (Uncharged handler)
        (ask (.leaveAccountGuard request.account (.request handler)))
        (fun _ => Uncharged handler) :=
      triple_uncharged _ ((within_perform _).mpr trivial)
    cases result with
    | response =>
      refine triple_weaken free (fun _ _ held => held) (fun reply _ _ held => ?_)
      cases reply <;> exact held
    | paid wallet paymentTx adminWaived =>
      refine triple_or ?_ ?_
      · rintro w sound ⟨payer, tx, real, positive, held⟩
        refine triple_act (.leaveAccountGuard request.account (.request handler)) trivial ?_
          w sound held
        intro w choice w' reply sound held careful ran _
        have ended : reply = .ok () ∧ w' = w := by
          cases account : request.account with
          | none =>
            simp only [CheckoutReq.exec, leaveGuard, account, Option.some.injEq,
              Prod.mk.injEq] at ran
            exact ⟨ran.2.symm, ran.1.symm⟩
          | some owner =>
            obtain rfl := careful (by simp [account]) (held.charged handler rfl)
            simp only [CheckoutReq.exec, leaveGuard, account, committed, transact, readOnly,
              Option.some.injEq, Prod.mk.injEq] at ran
            exact ⟨ran.2.symm, ran.1.symm⟩
        obtain ⟨rfl, rfl⟩ := ended
        exact Or.inl ⟨payer, tx, real, positive, held⟩
      · rintro w sound ⟨waived, held⟩
        refine triple_weaken free (fun _ _ held => held) (fun reply _ _ held => ?_) w sound held
        cases reply with
        | ok value => exact Or.inr ⟨waived, held⟩
        | error error => exact held
  have guarded : CheckoutTriple handler (Fresh handler)
      (do ask (.enterAccountGuard request.account)
          let result ← ask (.checkPayment handler request.credential quote.amountUsd)
          ask (.leaveAccountGuard request.account (.request handler))
          pure result : Checkout PaymentResult)
      (outcome (Answered handler quote.amountUsd) (fun _ => Uncharged handler)) := by
    refine triple_bind enter (fun _ => ?_) (fun _ _ _ fresh => fresh.1)
    refine triple_then (triple_checkPayment request.credential quote.amountUsd)
      fun result => ?_
    exact triple_then (leave result) fun _ => triple_ret _ fun _ _ answered => answered
  refine triple_rescue guarded (fun _ _ _ answered => answered) (fun error => ?_)
  exact triple_bind (triple_uncharged _ (acts_releaseReservation reservation))
    (fun _ => triple_raise _ fun _ _ free => free) (fun _ _ _ free => free)

theorem acts_recordCreateFailureRefund (wallet : Wallet) (paymentTx : Option Tx) (charged : Usd)
    (reason : String) (vm : Option VmId) (waived : Waived handler wallet paymentTx) :
    Within (Acts (.request handler))
      (recordCreateFailureRefund wallet paymentTx charged reason vm) := by
  obtain ⟨_, tx, rfl, bypass⟩ := waived
  simp [recordCreateFailureRefund, bypass]

theorem acts_failRow (vm : Option VmId)
    (own : ∀ row, vm = some row → row.drawer = .request handler) :
    Within (Acts (.request handler)) (failRow vm) := by
  cases vm with
  | none => trivial
  | some row => exact (within_perform _).mpr (own row rfl)

theorem acts_acceptPayment (settled : Settled)
    (waived : Waived settled.handler settled.wallet settled.paymentTx)
    (reservation : OwnReservation settled.handler settled.reservation) :
    Within (Acts (.request settled.handler)) (acceptPayment settled) := by
  have drawn : ∀ vm, settled.reservation = some vm → vm.drawer = .request settled.handler := by
    intro vm held
    rcases reservation with none | some
    · simp [none] at held
    · rw [some] at held
      cases held
      rfl
  have replay : ∀ linked, Within (Acts (.request settled.handler)) (replayConsumed linked) := by
    intro linked
    cases linked with
    | none => trivial
    | some vm =>
      refine within_bind ((within_perform _).mpr trivial) fun row => ?_
      cases row <;> trivial
  let Own : VmId → Prop := fun vm => vm.drawer = .request settled.handler
  have fallback : Performs (Acts (.request settled.handler)) Own (createFallback settled) :=
    performs_bind ((within_perform _).mpr ⟨rfl, waived.1⟩) fun _ _ => rfl
  have failing : ∀ reason vm status,
      (∀ row, vm = some row → row.drawer = .request settled.handler) →
      Within (Acts (.request settled.handler)) (recordAndFail settled reason vm status) :=
    fun reason vm status own => within_bind
      (acts_recordCreateFailureRefund _ _ _ _ _ waived)
      fun _ => within_bind (acts_failRow vm own) fun _ => trivial
  have postCharge : ∀ row error, (∀ vm, row = some vm → vm.drawer = .request settled.handler) →
      Within (Acts (.request settled.handler)) (postChargeFailure settled row error) := by
    intro row error own
    have covered : ∀ vm, (row <|> settled.reservation) = some vm →
        vm.drawer = .request settled.handler := by
      intro vm found
      cases row with
      | none => exact drawn vm (by simpa using found)
      | some other => exact own vm (by simpa using found)
    cases error with
    | http status =>
      cases row with
      | some vm => trivial
      | none =>
        refine within_bind (within_attempt (within_bind ((within_perform _).mpr trivial)
          fun released => ?_)) fun reopened => within_bind
            (acts_releaseReservation settled.reservation) fun _ => ?_
        · cases released <;> trivial
        · cases reopened <;> trivial
    | accountDisabled => exact failing _ _ _ drawn
    | _ => exact failing _ _ _ covered
  have acquire : Performs (Acts (.request settled.handler)) Own (acquireRow settled) := by
    cases held : settled.reservation with
    | none => simpa only [acquireRow, held] using fallback
    | some vm =>
      simp only [acquireRow, held]
      refine performs_bind ((within_perform _).mpr ⟨drawn vm held, waived.1⟩) fun taken _ => ?_
      cases taken with
      | true => exact drawn vm held
      | false =>
        simp only [Bool.false_eq_true, ↓reduceIte]
        split
        · trivial
        · exact fallback
  refine within_bind ((within_perform _).mpr trivial) fun won => ?_
  cases won with
  | true =>
    refine performs_bind (performs_attempt acquire) fun acquired own => ?_
    cases acquired with
    | error error => exact postCharge none error (by simp)
    | ok vm =>
      have own : Own vm := own vm rfl
      refine within_rescue (within_bind (within_bind (within_retry
        ((within_perform _).mpr trivial) 3) fun _ => (within_perform _).mpr own)
        fun _ => trivial) fun error => postCharge (some vm) error fun row found => ?_
      cases found
      exact own
  | false =>
    refine within_bind (acts_releaseReservation _) fun _ =>
      within_bind ((within_perform _).mpr trivial) fun latest => ?_
    cases latest with
    | none => trivial
    | some quote => exact replay quote.vmId

theorem triple_bindPayerAccount (request : CreateRequest) (wallet : Wallet) :
    CheckoutTriple handler (Held handler (.x402 handler) .untouched)
      (bindPayerAccount request wallet)
      (outcome (fun _ => Held handler (.x402 handler) .untouched) (fun _ _ => False)) := by
  simp only [bindPayerAccount]
  split
  · refine triple_act (.bindPayerAccount wallet request.account) trivial ?_
    intro w choice w' reply _ held _ ran _
    simp only [CheckoutReq.exec] at ran
    split at ran
    · cases ran
      exact held
    · cases ran
  · exact triple_ret _ fun _ _ held => held

theorem triple_createVm (handler : Nat) (request : CreateRequest) :
    CheckoutTriple handler (Fresh handler) (createVm handler request)
      (fun _ w => w.charged handler = true → Closed handler (.x402 handler) w) := by
  have unpaid : ∀ w, Uncharged handler w →
      w.charged handler = true → Closed handler (.x402 handler) w := by
    intro w free paid
    rw [Uncharged, paid] at free
    cases free
  simp only [createVm]
  refine triple_bind (triple_opens _ (opens_lookupQuote request)) (fun found => ?_)
    (fun _ w _ fresh => unpaid w fresh.1)
  cases found with
  | inl reply => exact triple_ret _ fun w _ fresh => unpaid w fresh.1
  | inr quote =>
    refine triple_bind (triple_opens (ask .admission) ((within_perform _).mpr trivial))
      (fun _ => ?_) (fun _ w _ fresh => unpaid w fresh.1)
    refine triple_bind (triple_reserve request quote) (fun reservation => ?_)
      (fun _ w _ fresh => unpaid w fresh.1)
    refine triple_fact fun own => ?_
    refine triple_bind (triple_settle request quote reservation) (fun result => ?_)
      (fun _ w _ free => unpaid w free)
    cases result with
    | response =>
      exact triple_bind (triple_uncharged _ (acts_releaseReservation reservation))
        (fun _ => triple_ret _ fun w _ free => unpaid w free) (fun _ w _ free => unpaid w free)
    | paid wallet paymentTx adminWaived =>
      refine triple_or ?_ ?_
      · rintro w sound ⟨payer, tx, real, positive, held⟩
        refine triple_bind (triple_bindPayerAccount request wallet) (fun owner => ?_)
          (fun _ _ _ absurd => absurd.elim) w sound held
        exact triple_weaken (triple_acceptPayment ⟨handler, request, quote, reservation, wallet,
            paymentTx, adminWaived, owner⟩ ⟨payer, tx, real, positive, own⟩)
          (fun _ _ held => held) (fun _ _ _ closed _ => closed)
      · rintro w sound ⟨waived, free⟩
        refine triple_weaken (triple_uncharged _ (within_bind ?_ fun owner =>
            acts_acceptPayment ⟨handler, request, quote, reservation, wallet, paymentTx,
              adminWaived, owner⟩ waived own))
          (fun _ _ held => held) (fun _ w _ free => unpaid w free) w sound free
        simp only [bindPayerAccount]
        split
        · exact (within_perform _).mpr trivial
        · trivial

end Opening

end HyruleCloud
