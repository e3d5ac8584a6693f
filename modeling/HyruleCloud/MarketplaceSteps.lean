import HyruleCloud.Marketplace

/-!
What a step of the checkout does to the registrations: each step leaves them alone,
or makes one of five entries. A registration without an order is new, and whatever a
process holds concerns a registration with its order.
-/

namespace HyruleCloud

open Interaction Function

/-- The ways in which `create_marketplace_order` commits. -/
inductive OrderReservation (limit : Nat) (bid : Bid) (m next : Market) (order : OrderId) : Prop
  | unchanged (row : RegistrationRow) (found : m.registrations bid.registration = some row)
      (bound : row.orderId = some order) (same : next = m)
  | reentered (row : RegistrationRow) (found : m.registrations bid.registration = some row)
      (bound : row.orderId = some order)
      (payer : ∀ wallet ∈ row.payerAddress, wallet = bid.payer)
      (owner : ∀ account ∈ row.ownerAccountId, account = bid.owner)
      (retried : row.settlementState = .awaitingPayment ∨ row.settlementState = .settlementFailed)
      (written : next = m.putRegistration bid.registration (bid.reserve row))
  | first (row : RegistrationRow) (quote : DomainQuoteRow)
      (found : m.registrations bid.registration = some row) (unordered : row.orderId = none)
      (room : bid.room limit m = true) (fresh : m.orders bid.order = none)
      (drawn : order = bid.order)
      (written : next = { m with
        domainQuotes := m.domainQuotes.put row.quoteId { quote with status := .reserved }
        orders := m.orders.put bid.order (bid.orderRow row.quoteId)
        registrations := m.registrations.put bid.registration { bid.reserve row with
          orderId := some bid.order
          ownerAccountId := some bid.owner
          payerAddress := some bid.payer } })

variable {order : OrderId} {step : MarketStep} {r : RegistrationId}

variable {next : Market}

theorem createMarketplaceOrder_reservation {limit : Nat} {bid : Bid} {m : Market}
    (done : createMarketplaceOrder limit bid m = .ok (next, order)) :
    OrderReservation limit bid m next order := by
  unfold createMarketplaceOrder at done
  split at done
  · cases done
  rename_i row found
  split at done
  · cases done
  rename_i payer
  split at done
  · cases done
  rename_i owner
  split at done
  · rename_i bound_order bound
    have payers : ∀ wallet ∈ row.payerAddress, wallet = bid.payer := by
      intro wallet named
      rw [Option.mem_def] at named
      simpa [named] using payer
    have owners : ∀ account ∈ row.ownerAccountId, account = bid.owner := by
      intro account named
      rw [Option.mem_def] at named
      simpa [named] using owner
    unfold reenterOrder at done
    split at done
    · cases done
    split at done
    · split at done
      · cases done
      · cases done
        exact .unchanged row found bound rfl
    · split at done
      · cases done
      · cases done
        exact .unchanged row found bound rfl
    · rename_i state
      cases done
      exact .reentered row found bound payers owners (Or.inl state) rfl
    · rename_i state
      cases done
      exact .reentered row found bound payers owners (Or.inr state) rfl
    · cases done
      exact .unchanged row found bound rfl
  · rename_i unordered
    unfold firstOrder at done
    split at done
    · cases done
    rename_i quote _
    split at done
    · cases done
    split at done
    · cases done
    split at done
    · cases done
    rename_i room
    split at done
    · cases done
    rename_i fresh
    cases done
    exact .first row quote found unordered (by simpa using room)
      (by simpa using fresh) rfl rfl

theorem recordSettled_frame (r : RegistrationId) (fate : Fate) (m : Market) :
    let after := (transact (recordSettled r) fate m).1
    after.attempt = m.attempt ∧ after.ledger = m.ledger ∧ after.collected = m.collected ∧
      after.toStore = m.toStore ∧ after.spent = m.spent ∧ after.failures = m.failures := by
  generalize ran : transact (recordSettled r) fate m = result
  obtain ⟨after, reply⟩ := result
  rcases transact_ends _ _ _ _ _ ran with ⟨rfl, _⟩ | ⟨_, done, _⟩
  · exact ⟨rfl, rfl, rfl, rfl, rfl, rfl⟩
  unfold recordSettled at done
  split at done
  · cases done
    exact ⟨rfl, rfl, rfl, rfl, rfl, rfl⟩
  · split at done
    · cases done
      exact ⟨rfl, rfl, rfl, rfl, rfl, rfl⟩
    · cases done
      exact ⟨rfl, rfl, rfl, rfl, rfl, rfl⟩

theorem recordRefused_frame (r : RegistrationId) (ambiguous : Bool) (fate : Fate) (m : Market) :
    let after := (transact (recordRefused r ambiguous) fate m).1
    after.attempt = m.attempt ∧ after.ledger = m.ledger ∧ after.collected = m.collected ∧
      after.toStore = m.toStore ∧ after.spent = m.spent ∧
      (after.failures = m.failures ∨
        ambiguous = false ∧ after.failures = (r, m.collected r) :: m.failures) := by
  generalize ran : transact (recordRefused r ambiguous) fate m = result
  obtain ⟨after, reply⟩ := result
  rcases transact_ends _ _ _ _ _ ran with ⟨rfl, _⟩ | ⟨_, done, _⟩
  · exact ⟨rfl, rfl, rfl, rfl, rfl, Or.inl rfl⟩
  unfold recordRefused at done
  split at done
  · cases done
    exact ⟨rfl, rfl, rfl, rfl, rfl, Or.inl rfl⟩
  · cases done
    cases ambiguous with
    | true => exact ⟨rfl, rfl, rfl, rfl, rfl, Or.inl rfl⟩
    | false => exact ⟨rfl, rfl, rfl, rfl, rfl, Or.inr ⟨rfl, rfl⟩⟩

structure SameRegistrations (m next : Market) : Prop where
  clock : next.clock = m.clock
  issued : next.issued = m.issued
  registrations : next.registrations = m.registrations

theorem SameRegistrations.refl (m : Market) : SameRegistrations m m := ⟨rfl, rfl, rfl⟩

structure Entered (r : RegistrationId) (row : RegistrationRow) (m next : Market) : Prop where
  clock : next.clock = m.clock
  issued : next.issued = m.issued
  registrations : next.registrations = m.registrations.put r row

def Bid.first (bid : Bid) (row : RegistrationRow) : RegistrationRow :=
  { bid.reserve row with
    orderId := some bid.order
    ownerAccountId := some bid.owner
    payerAddress := some bid.payer }

def RegistrationRow.settle (row : RegistrationRow) (now : Time) : RegistrationRow :=
  { row with
    settlementState := .settled
    settledAt := row.settledAt <|> some now
    updatedAt := now }

def RegistrationRow.refuse (row : RegistrationRow) (ambiguous : Bool) (now : Time) :
    RegistrationRow :=
  { row with
    settlementState := if ambiguous then .settlementUncertain else .settlementFailed
    authorizationHash := if ambiguous then row.authorizationHash else none
    updatedAt := now }

inductive Booking (limit : Nat) (m next : Market) : MarketStep → Prop
  | same (step : MarketStep) (kept : SameRegistrations m next) : Booking limit m next step
  | waited (seconds : Nat) (clock : next.clock = m.clock + seconds) (issued : next.issued = m.issued)
      (registrations : next.registrations = m.registrations) : Booking limit m next (.wait seconds)
  | prepared (r : RegistrationId) (quote : QuoteId) (fresh : m.registrations r = none)
      (clock : next.clock = m.clock) (issued : next.issued = insert r m.issued)
      (registrations : next.registrations =
        m.registrations.put r { quoteId := quote, updatedAt := m.clock }) :
      Booking limit m next (.prepare r quote)
  | requoted (r : RegistrationId) (quote : QuoteId) (row : RegistrationRow)
      (found : m.registrations r = some row) (unordered : row.orderId = none)
      (entered : Entered r { row with quoteId := quote, updatedAt := m.clock } m next) :
      Booking limit m next (.prepare r quote)
  | reentered (h : ProcessId) (bid : Bid) (fate : Fate) (row : RegistrationRow) (order : OrderId)
      (found : m.registrations bid.registration = some row) (bound : row.orderId = some order)
      (payer : ∀ wallet ∈ row.payerAddress, wallet = bid.payer)
      (owner : ∀ account ∈ row.ownerAccountId, account = bid.owner)
      (retried : row.settlementState = .awaitingPayment ∨ row.settlementState = .settlementFailed)
      (entered : Entered bid.registration (bid.reserve row) m next) :
      Booking limit m next (.reserve h bid fate)
  | first (h : ProcessId) (bid : Bid) (fate : Fate) (row : RegistrationRow)
      (found : m.registrations bid.registration = some row) (unordered : row.orderId = none)
      (room : bid.room limit m = true) (fresh : m.orders bid.order = none)
      (entered : Entered bid.registration (bid.first row) m next)
      (placed : next.orders bid.order = some (bid.orderRow row.quoteId)) :
      Booking limit m next (.reserve h bid fate)
  | settled (h : ProcessId) (fate : Fate) (charge : Charge) (row : RegistrationRow)
      (attempt : m.attempt h = .paid charge)
      (found : m.registrations charge.registration = some row)
      (unsettled : row.settlementState ≠ .settled)
      (entered : Entered charge.registration (row.settle m.clock) m next) :
      Booking limit m next (.record h fate)
  | refused (h : ProcessId) (fate : Fate) (r : RegistrationId) (ambiguous : Bool)
      (row : RegistrationRow) (attempt : m.attempt h = .refused r ambiguous)
      (found : m.registrations r = some row)
      (entered : Entered r (row.refuse ambiguous m.clock) m next) :
      Booking limit m next (.refuse h fate)

section Steps
variable {limit : Nat} {m : Market}

theorem goOn_books (h : ProcessId) (attempt : Attempt)
    (kept : SameRegistrations m next) :
    SameRegistrations m (next.goOn h attempt) := { kept with }

theorem goOn_booking (h : ProcessId) (attempt : Attempt)
    (booking : Booking limit m next step) : Booking limit m (next.goOn h attempt) step := by
  cases booking with
  | same _ kept => exact .same _ (goOn_books h attempt kept)
  | waited seconds clock issued registrations => exact .waited seconds clock issued registrations
  | prepared r quote fresh clock issued registrations =>
    exact .prepared r quote fresh clock issued registrations
  | requoted r quote row found unordered entered =>
    exact .requoted r quote row found unordered ⟨entered.1, entered.2, entered.3⟩
  | reentered _ bid fate row order found bound payer owner retried entered =>
    exact .reentered _ bid fate row order found bound payer owner retried
      ⟨entered.1, entered.2, entered.3⟩
  | first _ bid fate row found unordered room fresh entered placed =>
    exact .first _ bid fate row found unordered room fresh ⟨entered.1, entered.2, entered.3⟩ placed
  | settled _ fate charge row held found unsettled entered =>
    exact .settled _ fate charge row held found unsettled ⟨entered.1, entered.2, entered.3⟩
  | refused _ fate r ambiguous row held found entered =>
    exact .refused _ fate r ambiguous row held found ⟨entered.1, entered.2, entered.3⟩

theorem paymentGuard_books {swept : Market} (refused : paymentGuard order m = .error swept) :
    ∃ s, swept = { m with toStore := s } := by
  unfold paymentGuard at refused
  split at refused
  · cases refused
    exact ⟨m.toStore, rfl⟩
  · split at refused
    · cases refused
      exact ⟨m.toStore, rfl⟩
    · split at refused
      · cases refused
        exact ⟨_, rfl⟩
      · split at refused
        · cases refused
        · cases refused
          exact ⟨_, rfl⟩

section
variable (h : ProcessId)

theorem settleVerified_books (answer : FacilitatorAnswer) (stored : Bool) :
    SameRegistrations m (settleVerified h answer stored m) := by
  unfold settleVerified
  split
  · split
    · rename_i swept refused
      obtain ⟨s, rfl⟩ := paymentGuard_books refused
      exact ⟨rfl, rfl, rfl⟩
    · cases answer with
      | success | failure => exact ⟨rfl, rfl, rfl⟩
      | exception moved => cases moved <;> exact ⟨rfl, rfl, rfl⟩
  · exact .refl m

theorem markOrderPaid_books (operation : OperationId) (fate : Fate) :
    SameRegistrations m (markOrderPaid h operation fate m) := by
  unfold markOrderPaid
  split
  · split <;> exact ⟨rfl, rfl, rfl⟩
  · exact .refl m

theorem sweepCharge_books (charge : Charge) :
    SameRegistrations m (sweepCharge h charge m) := by
  unfold sweepCharge
  split
  · split
    · exact ⟨rfl, rfl, rfl⟩
    · exact .refl m
  · exact .refl m

theorem loadOrder_books : SameRegistrations m (loadOrder h m) := by
  unfold loadOrder
  split
  · exact ⟨rfl, rfl, rfl⟩
  · exact .refl m

theorem reserve_booking (bid : Bid) (fate : Fate) :
    Booking limit m (marketStep limit (.reserve h bid fate) m) (.reserve h bid fate) := by
  simp only [marketStep]
  split
  · generalize ran : transact (createMarketplaceOrder limit bid) fate m = result
    obtain ⟨after, reply⟩ := result
    have booked : Booking limit m after (.reserve h bid fate) := by
      rcases transact_ends _ _ _ _ _ ran with ⟨rfl, _⟩ | ⟨order, done, _⟩
      · exact .same _ (.refl _)
      cases createMarketplaceOrder_reservation done with
      | unchanged row found bound same =>
        subst same
        exact .same _ (.refl _)
      | reentered row found bound payer owner retried written =>
        subst written
        exact .reentered h bid fate row order found bound payer owner retried ⟨rfl, rfl, rfl⟩
      | first row quote found unordered room fresh drawn written =>
        subst written
        exact .first h bid fate row found unordered room fresh ⟨rfl, rfl, rfl⟩ (put_same _ _ _)
    cases reply with
    | ok order => exact goOn_booking _ _ booked
    | error error => exact booked
  · exact .same _ (.refl m)

theorem record_booking (fate : Fate) :
    Booking limit m (marketStep limit (.record h fate) m) (.record h fate) := by
  simp only [marketStep]
  split
  · rename_i charge held
    generalize ran : transact (recordSettled charge.registration) fate m = result
    obtain ⟨after, reply⟩ := result
    have booked : Booking limit m after (.record h fate) := by
      rcases transact_ends _ _ _ _ _ ran with ⟨rfl, _⟩ | ⟨_, done, _⟩
      · exact .same _ (.refl _)
      unfold recordSettled at done
      split at done
      · cases done
        exact .same _ (.refl _)
      · rename_i row found
        split at done
        · cases done
          exact .same _ (.refl _)
        · rename_i unsettled
          cases done
          exact .settled h fate charge row held found unsettled ⟨rfl, rfl, rfl⟩
    cases reply with
    | ok | error => exact goOn_booking _ _ booked
  · exact .same _ (.refl m)

theorem refuse_booking (fate : Fate) :
    Booking limit m (marketStep limit (.refuse h fate) m) (.refuse h fate) := by
  simp only [marketStep]
  split
  · rename_i r ambiguous held
    apply goOn_booking
    generalize ran : transact (recordRefused r ambiguous) fate m = result
    obtain ⟨after, reply⟩ := result
    rcases transact_ends _ _ _ _ _ ran with ⟨rfl, _⟩ | ⟨_, done, _⟩
    · exact .same _ (.refl _)
    unfold recordRefused at done
    split at done
    · cases done
      exact .same _ (.refl _)
    · rename_i row found
      cases done
      cases ambiguous <;> exact .refused h fate r _ row held found ⟨rfl, rfl, rfl⟩
  · exact .same _ (.refl m)

end

theorem prepare_booking (r : RegistrationId) (quote : QuoteId) :
    Booking limit m (prepareRegistration r quote m) (.prepare r quote) := by
  unfold prepareRegistration
  split
  · rename_i fresh
    exact .prepared r quote fresh rfl rfl rfl
  · rename_i row found
    split
    · rename_i unordered
      exact .requoted r quote row found unordered ⟨rfl, rfl, rfl⟩
    · exact .same _ (.refl m)

theorem marketStep_booking (step : MarketStep) :
    Booking limit m (marketStep limit step m) step := by
  cases step with
  | wait seconds => exact .waited seconds rfl rfl rfl
  | prepare r quote => exact prepare_booking r quote
  | reserve h bid fate => exact reserve_booking h bid fate
  | settle h answer stored => exact .same _ (settleVerified_books h answer stored)
  | sweep h charge => exact .same _ (sweepCharge_books h charge)
  | load h => exact .same _ (loadOrder_books h)
  | pay h operation fate => exact .same _ (markOrderPaid_books h operation fate)
  | record h fate => exact record_booking h fate
  | refuse h fate => exact refuse_booking h fate
  | crash | elsewhere => exact .same _ ⟨rfl, rfl, rfl⟩

end Steps

/-! Whatever a process holds concerns a registration with its order. -/

def HasOrder (r : RegistrationId) (order : OrderId) (m : Market) : Prop :=
  ∃ row, m.registrations r = some row ∧ row.orderId = some order

def Attempt.holds (attempt : Attempt) (m : Market) : Prop :=
  match attempt with
  | .idle => True
  | .reserved r order _ _ => HasOrder r order m
  | .charged charge _ | .paid charge => HasOrder charge.registration charge.order m
  | .refused r _ => ∃ order, HasOrder r order m

structure WellAttended (m : Market) : Prop where
  attempts : ∀ h, (m.attempt h).holds m
  ledger : ∀ charge ∈ m.ledger, HasOrder charge.registration charge.order m
  unordered : ∀ r row, m.registrations r = some row → row.orderId = none →
    row.settlementState = .awaitingPayment ∧ row.settledAt = none ∧ row.payerAddress = none ∧
      row.ownerAccountId = none

theorem Attempt.holds_moved {a b : Market} (moved : ∀ r order, HasOrder r order a → HasOrder r order b)
    (attempt : Attempt) (holds : attempt.holds a) : attempt.holds b := by
  cases attempt with
  | idle => trivial
  | reserved r order payer hash => exact moved r order holds
  | charged | paid => exact moved _ _ holds
  | refused r ambiguous =>
    obtain ⟨order, bound⟩ := holds
    exact ⟨order, moved r order bound⟩

variable {row new : RegistrationRow} {h : ProcessId}

section Attended
variable {limit : Nat} {m next : Market}

theorem entered_bound (found : m.registrations r = some row)
    (entered : Entered r new m next)
    (kept : ∀ order, row.orderId = some order → new.orderId = some order) {other : RegistrationId}
    (bound : HasOrder other order m) : HasOrder other order next := by
  obtain ⟨here, there, named⟩ := bound
  obtain ⟨later, stands, still⟩ := put_relates
    (R := fun row later => row.orderId = some order → later.orderId = some order)
    found (fun _ named => named) (kept order) there
  exact ⟨later, by rw [entered.registrations, stands], still named⟩

theorem bound_kept (booking : Booking limit m next step) (r : RegistrationId) (order : OrderId)
    (bound : HasOrder r order m) : HasOrder r order next := by
  cases booking with
  | same _ kept => simpa only [HasOrder, kept.registrations] using bound
  | waited seconds clock issued registrations => simpa only [HasOrder, registrations] using bound
  | prepared other quote fresh clock issued registrations =>
    obtain ⟨row, found, named⟩ := bound
    have different : r ≠ other := keys_apart found fresh nofun
    exact ⟨row, by rw [registrations, put_other _ _ different, found], named⟩
  | requoted _ _ _ found _ entered | reentered _ _ _ _ _ found _ _ _ _ entered
  | settled _ _ _ _ _ found _ entered | refused _ _ _ _ _ _ found entered =>
    exact entered_bound found entered (fun _ named => named) bound
  | first h bid fate row found unordered room fresh entered =>
    refine entered_bound found entered (fun _ named => ?_) bound
    rw [unordered] at named
    cases named

theorem entered_unordered (entered : Entered r new m next)
    (attended : WellAttended m)
    (kept : new.orderId = none → new.settlementState = .awaitingPayment ∧ new.settledAt = none ∧
      new.payerAddress = none ∧ new.ownerAccountId = none) (other : RegistrationId)
    (row : RegistrationRow) (found : next.registrations other = some row)
    (none : row.orderId = none) : row.settlementState = .awaitingPayment ∧ row.settledAt = .none ∧
      row.payerAddress = .none ∧ row.ownerAccountId = .none := by
  rw [entered.registrations] at found
  rcases update_cases found with ⟨rfl, ⟨⟩⟩ | ⟨_, found⟩
  · exact kept none
  · exact attended.unordered other row found none

theorem attended_ordered (bound : HasOrder r order m)
    (found : m.registrations r = some row) : row.orderId = some order := by
  obtain ⟨here, there, named⟩ := bound
  rw [found] at there
  cases there
  exact named

theorem unordered_kept (booking : Booking limit m next step) (attended : WellAttended m)
    (r : RegistrationId) (row : RegistrationRow) (found : next.registrations r = some row)
    (none : row.orderId = none) :
    row.settlementState = .awaitingPayment ∧ row.settledAt = .none ∧ row.payerAddress = .none ∧
      row.ownerAccountId = .none := by
  cases booking with
  | same _ kept => exact attended.unordered r row (kept.registrations ▸ found) none
  | waited seconds clock issued registrations =>
    exact attended.unordered r row (registrations ▸ found) none
  | prepared other quote fresh clock issued registrations =>
    rw [registrations] at found
    rcases update_cases found with ⟨rfl, ⟨⟩⟩ | ⟨_, found⟩
    · exact ⟨rfl, rfl, rfl, rfl⟩
    · exact attended.unordered r row found none
  | requoted other quote before there unordered entered =>
    exact entered_unordered entered attended (fun _ => attended.unordered other before there
      unordered) r row found none
  | reentered h bid fate before order there bound payer owner retried entered =>
    refine entered_unordered entered attended (fun absent => ?_) r row found none
    rw [show (bid.reserve before).orderId = before.orderId from rfl, bound] at absent
    cases absent
  | first h bid fate before there unordered room fresh entered =>
    exact entered_unordered entered attended (fun absent => by cases absent) r row found none
  | settled h fate charge before held there unsettled entered =>
    refine entered_unordered entered attended (fun absent => ?_) r row found none
    have holds := attended.attempts h
    rw [held] at holds
    rw [show (before.settle m.clock).orderId = before.orderId from rfl,
      attended_ordered holds there] at absent
    cases absent
  | refused h fate other ambiguous before held there entered =>
    refine entered_unordered entered attended (fun absent => ?_) r row found none
    have holds := attended.attempts h
    rw [held] at holds
    obtain ⟨order, holds⟩ := holds
    rw [show (before.refuse ambiguous m.clock).orderId = before.orderId from rfl,
      attended_ordered holds there] at absent
    cases absent

/-- The attempts and the ledger after a step, for all but the process that makes it. -/
structure Unattended (h : ProcessId) (m next : Market) : Prop where
  others : ∀ other, other ≠ h → next.attempt other = m.attempt other
  own : (next.attempt h).holds m ∨ (next.attempt h).holds next
  ledger : ∀ charge ∈ next.ledger, charge ∈ m.ledger ∨
    HasOrder charge.registration charge.order m

theorem attended_after (booking : Booking limit m next step)
    (attended : WellAttended m) (unattended : Unattended h m next) : WellAttended next where
  attempts other := by
    have moved := bound_kept booking
    by_cases same : other = h
    · subst same
      exact unattended.own.elim (Attempt.holds_moved moved _) id
    · rw [unattended.others other same]
      exact (m.attempt other).holds_moved moved (attended.attempts other)
  ledger charge listed := by
    refine bound_kept booking _ _ ?_
    exact (unattended.ledger charge listed).elim (attended.ledger charge) id
  unordered := unordered_kept booking attended

theorem goOn_unattended {attempt : Attempt} (attempts : next.attempt = m.attempt)
    (ledger : next.ledger = m.ledger)
    (own : attempt.holds m ∨ attempt.holds (next.goOn h attempt)) :
    Unattended h m (next.goOn h attempt) where
  others other different := by
    rw [← attempts]
    exact update_of_ne different _ _
  own := by
    rw [show (next.goOn h attempt).attempt h = attempt from update_self _ _ _]
    exact own
  ledger charge listed := Or.inl (ledger ▸ listed)

theorem still_unattended (attended : WellAttended m)
    (attempts : next.attempt = m.attempt) (ledger : next.ledger = m.ledger) :
    Unattended h m next where
  others other _ := by rw [attempts]
  own := Or.inl (by rw [attempts]; exact attended.attempts h)
  ledger charge listed := Or.inl (ledger ▸ listed)

section
variable (h : ProcessId)

theorem reserve_attended (bid : Bid) (fate : Fate) (attended : WellAttended m) :
    WellAttended (marketStep limit (.reserve h bid fate) m) := by
  refine attended_after (marketStep_booking (.reserve h bid fate)) attended (h := h) ?_
  simp only [marketStep]
  split
  · generalize ran : transact (createMarketplaceOrder limit bid) fate m = result
    obtain ⟨after, reply⟩ := result
    rcases transact_ends _ _ _ _ _ ran with ⟨rfl, error, rfl, _⟩ | ⟨order, done, reply_is⟩
    · exact still_unattended attended rfl rfl
    have reserved := createMarketplaceOrder_reservation done
    have frame : after.attempt = m.attempt ∧ after.ledger = m.ledger ∧
        HasOrder bid.registration order after := by
      cases reserved with
      | unchanged row found bound same =>
        subst same
        exact ⟨rfl, rfl, row, found, bound⟩
      | reentered row found bound payer owner retried written =>
        subst written
        exact ⟨rfl, rfl, bid.reserve row, put_same _ _ _, bound⟩
      | first row quote found unordered room fresh drawn written =>
        subst written drawn
        exact ⟨rfl, rfl, bid.first row, put_same _ _ _, rfl⟩
    rcases reply_is with rfl | rfl
    · exact goOn_unattended frame.1 frame.2.1 (Or.inr frame.2.2)
    · exact still_unattended attended frame.1 frame.2.1
  · exact still_unattended attended rfl rfl

theorem settle_attended (answer : FacilitatorAnswer) (stored : Bool)
    (attended : WellAttended m) : WellAttended (settleVerified h answer stored m) := by
  have booking : Booking 0 m (settleVerified h answer stored m) (.settle h answer stored) :=
    .same _ (settleVerified_books h answer stored)
  refine attended_after booking attended (h := h) ?_
  unfold settleVerified
  split
  · rename_i r order payer hash held
    have bound : HasOrder r order m := by
      have holds := attended.attempts h
      rw [held] at holds
      exact holds
    split
    · rename_i swept refused
      obtain ⟨s, rfl⟩ := paymentGuard_books refused
      exact goOn_unattended rfl rfl (Or.inl trivial)
    · cases answer with
      | success tx =>
        refine ⟨fun other different => update_of_ne different _ _, ?_, ?_⟩
        · simp only [Market.goOn, update_self]
          exact Or.inl bound
        · intro charge listed
          simp only [Market.goOn, Market.collect] at listed
          split at listed
          · rcases List.mem_cons.mp listed with rfl | listed
            · exact Or.inr bound
            · exact Or.inl listed
          · exact Or.inl listed
      | failure => exact goOn_unattended rfl rfl (Or.inl ⟨order, bound⟩)
      | exception moved =>
        cases moved <;> exact goOn_unattended rfl rfl (Or.inl ⟨order, bound⟩)
  · exact still_unattended attended rfl rfl

theorem sweep_attended (charge : Charge) (attended : WellAttended m) :
    WellAttended (sweepCharge h charge m) := by
  have booking : Booking 0 m (sweepCharge h charge m) (.sweep h charge) :=
    .same _ (sweepCharge_books h charge)
  refine attended_after booking attended (h := h) ?_
  unfold sweepCharge
  split
  · split
    · rename_i listed
      have bound := attended.ledger charge listed
      split
      · exact goOn_unattended rfl rfl (Or.inl bound)
      · exact goOn_unattended rfl rfl (Or.inl bound)
    · exact still_unattended attended rfl rfl
  · exact still_unattended attended rfl rfl

theorem load_attended (attended : WellAttended m) :
    WellAttended (loadOrder h m) := by
  have booking : Booking 0 m (loadOrder h m) (.load h) := .same _ (loadOrder_books h)
  refine attended_after booking attended (h := h) ?_
  have holds := attended.attempts h
  unfold loadOrder
  split
  · rename_i charge loaded held
    rw [held] at holds
    exact goOn_unattended rfl rfl (Or.inl holds)
  · exact still_unattended attended rfl rfl

theorem pay_attended (operation : OperationId) (fate : Fate)
    (attended : WellAttended m) : WellAttended (markOrderPaid h operation fate m) := by
  have booking : Booking 0 m (markOrderPaid h operation fate m) (.pay h operation fate) :=
    .same _ (markOrderPaid_books h operation fate)
  refine attended_after booking attended (h := h) ?_
  have holds := attended.attempts h
  unfold markOrderPaid
  split
  · rename_i charge loaded held
    rw [held] at holds
    split
    · exact goOn_unattended rfl rfl (Or.inl holds)
    · exact goOn_unattended rfl rfl (Or.inl holds)
  · exact still_unattended attended rfl rfl

theorem record_attended (fate : Fate) (attended : WellAttended m) :
    WellAttended (marketStep limit (.record h fate) m) := by
  refine attended_after (marketStep_booking (.record h fate)) attended (h := h) ?_
  have holds := attended.attempts h
  simp only [marketStep]
  split
  · rename_i charge held
    rw [held] at holds
    have frame := recordSettled_frame charge.registration fate m
    split
    · rename_i after _ ran
      rw [ran] at frame
      exact goOn_unattended frame.1 frame.2.1 (Or.inl trivial)
    · rename_i after _ ran
      rw [ran] at frame
      exact goOn_unattended frame.1 frame.2.1 (Or.inl holds)
  · exact still_unattended attended rfl rfl

theorem refuse_attended (fate : Fate) (attended : WellAttended m) :
    WellAttended (marketStep limit (.refuse h fate) m) := by
  refine attended_after (marketStep_booking (.refuse h fate)) attended (h := h) ?_
  simp only [marketStep]
  split
  · rename_i r ambiguous held
    have frame := recordRefused_frame r ambiguous fate m
    exact goOn_unattended frame.1 frame.2.1 (Or.inl trivial)
  · exact still_unattended attended rfl rfl

end

theorem marketStep_attended (step : MarketStep) (attended : WellAttended m) :
    WellAttended (marketStep limit step m) := by
  have still {other : Market} (attempts : other.attempt = m.attempt) (ledger : other.ledger = m.ledger)
      (booking : Booking limit m other step) : WellAttended other :=
    attended_after (h := 0) booking attended (still_unattended attended attempts ledger)
  cases step with
  | wait | elsewhere => exact still rfl rfl (marketStep_booking _)
  | prepare r quote =>
    refine still ?_ ?_ (marketStep_booking (.prepare r quote))
    all_goals
      simp only [marketStep, prepareRegistration]
      split
      · rfl
      · split <;> rfl
  | reserve h bid fate => exact reserve_attended h bid fate attended
  | settle h answer stored => exact settle_attended h answer stored attended
  | sweep h charge => exact sweep_attended h charge attended
  | load h => exact load_attended h attended
  | pay h operation fate => exact pay_attended h operation fate attended
  | record h fate => exact record_attended h fate attended
  | refuse h fate => exact refuse_attended h fate attended
  | crash h =>
    exact attended_after (marketStep_booking (.crash h)) attended
      (goOn_unattended rfl rfl (Or.inl trivial))

end Attended

end HyruleCloud
