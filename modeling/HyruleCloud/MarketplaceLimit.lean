import HyruleCloud.MarketplaceSteps

/-!
The registrations of a wallet and of an account within 24 hours. The limit is checked
when a registration gets its order. It holds in a run in which the branches that do
not check it find room, and it fails when registrations are tried again after a
settlement that failed.
-/

namespace HyruleCloud

open Interaction

/-- The registrations of a holder that settled within the 24 hours from `since` on. -/
def Market.settledIn (m : Market) (holder : Holder) (since : Time) : Finset RegistrationId :=
  m.issued.filter fun r => (m.registrations r).any fun row => row.isOf holder &&
    row.settledAt.any fun settled => decide (since ≤ settled ∧ settled ≤ since + day)

def LimitKept (limit : Nat) (m : Market) : Prop :=
  ∀ holder since, (m.settledIn holder since).card ≤ limit

/-- The steps that take a slot of the window, or keep one, find it. -/
def HasRoom (limit : Nat) (step : MarketStep) (m : Market) : Prop :=
  match step with
  | .reserve _ bid _ => ∀ row ∈ m.registrations bid.registration, row.orderId.isSome →
      row.settlementState = .awaitingPayment ∨ row.settlementState = .settlementFailed →
      bid.room limit m = true
  | .record h _ => match m.attempt h with
      | .paid charge => ∀ row ∈ m.registrations charge.registration,
          row.settlementState = .settled ∨ row.inWindow m.clock = true
      | _ => True
  | .refuse h _ => match m.attempt h with
      | .refused r ambiguous => ∀ row ∈ m.registrations r,
          row.settlementState ≠ .settled ∧ (ambiguous = true → row.inWindow m.clock = true)
      | _ => True
  | _ => True

def roomyMarket (limit : Nat) : Protocol Market MarketStep where
  step := marketStep limit
  may step m := mayTrade step m ∧ HasRoom limit step m

structure NothingRegistered (m : Market) : Prop where
  issued : m.issued = ∅
  registrations : ∀ r, m.registrations r = none
  attempts : ∀ h, m.attempt h = .idle
  ledger : m.ledger = []
  collected : ∀ r, m.collected r = false
  failures : m.failures = []

structure WithinLimit (limit : Nat) (m : Market) : Prop where
  marked : ∀ r row, m.registrations r = some row →
    (row.settledAt.isSome ↔ row.settlementState = .settled)
  window : ∀ holder, (m.window holder m.clock).card ≤ limit
  history : LimitKept limit m

variable {since : Time} {row : RegistrationRow} {step : MarketStep}

variable {r : RegistrationId} {new : RegistrationRow}

section Windows
variable {limit : Nat} {m next : Market} {holder : Holder} {now : Time}

theorem mem_window : r ∈ m.window holder now ↔ r ∈ m.issued ∧
    ∃ row, m.registrations r = some row ∧ row.isOf holder = true ∧ row.inWindow now = true := by
  simp [Market.window, Option.any_eq_true]

theorem mem_settledIn :
    r ∈ m.settledIn holder since ↔ r ∈ m.issued ∧ ∃ row, m.registrations r = some row ∧
      row.isOf holder = true ∧ ∃ settled, row.settledAt = some settled ∧ since ≤ settled ∧
        settled ≤ since + day := by
  simp [Market.settledIn, Option.any_eq_true]

theorem inWindow_earlier {later : Time} (order : now ≤ later) (counted : row.inWindow later = true) :
    row.inWindow now = true := by
  unfold RegistrationRow.inWindow at counted ⊢
  split at counted
  · exact decide_eq_true (order.trans (of_decide_eq_true counted))
  · exact decide_eq_true (order.trans (of_decide_eq_true counted))
  · obtain ⟨settled, marked, fresh⟩ := (Option.any_eq_true _ _).mp counted
    rw [marked]
    exact decide_eq_true (order.trans (of_decide_eq_true fresh))
  · exact counted
  · exact counted

theorem window_earlier {later : Time} (order : now ≤ later) :
    m.window holder later ⊆ m.window holder now := by
  intro r counted
  obtain ⟨issued, row, found, his, fresh⟩ := mem_window.mp counted
  exact mem_window.mpr ⟨issued, row, found, his, inWindow_earlier order fresh⟩

theorem same_window (kept : SameRegistrations m next) :
    next.window holder now = m.window holder now := by
  simp only [Market.window, kept.issued, kept.registrations]

theorem same_settledIn (issued : next.issued = m.issued)
    (registrations : next.registrations = m.registrations) :
    next.settledIn holder since = m.settledIn holder since := by
  simp only [Market.settledIn, issued, registrations]

section
variable {r : RegistrationId} {new : RegistrationRow}

variable (entered : Entered r new m next)
include entered

theorem window_entered : next.window holder now ⊆ insert r (m.window holder now) := by
  intro other counted
  obtain ⟨issued, row, found, his, fresh⟩ := mem_window.mp counted
  rw [entered.issued] at issued
  rw [entered.registrations] at found
  by_cases same : other = r
  · exact same ▸ Finset.mem_insert_self _ _
  · rw [put_other _ _ same] at found
    exact Finset.mem_insert_of_mem (mem_window.mpr ⟨issued, row, found, his, fresh⟩)

theorem window_unmoved (before : r ∈ m.issued → new.isOf holder = true → new.inWindow now = true →
      r ∈ m.window holder now) :
    next.window holder now ⊆ m.window holder now := by
  intro other counted
  by_cases same : other = r
  · subst same
    obtain ⟨issued, row, found, his, fresh⟩ := mem_window.mp counted
    rw [entered.issued] at issued
    rw [entered.registrations, put_same] at found
    cases found
    exact before issued his fresh
  · exact (Finset.mem_insert.mp (window_entered entered counted)).resolve_left same

theorem settledIn_unmoved
    (before : ∀ settled, new.settledAt = some settled → since ≤ settled → settled ≤ since + day →
      new.isOf holder = true → r ∈ m.settledIn holder since) :
    next.settledIn holder since ⊆ m.settledIn holder since := by
  intro other counted
  obtain ⟨issued, row, found, his, settled, marked, after, soon⟩ := mem_settledIn.mp counted
  rw [entered.issued] at issued
  rw [entered.registrations] at found
  rcases update_cases found with ⟨rfl, ⟨⟩⟩ | ⟨_, found⟩
  · exact before settled marked after soon his
  · exact mem_settledIn.mpr ⟨issued, row, found, his, settled, marked, after, soon⟩

omit entered

theorem marked_entered (within : WithinLimit limit m)
    (entered : Entered r new m next)
    (mark : new.settledAt.isSome ↔ new.settlementState = .settled) (other : RegistrationId)
    (row : RegistrationRow) (found : next.registrations other = some row) :
    row.settledAt.isSome ↔ row.settlementState = .settled := by
  rw [entered.registrations] at found
  rcases update_cases found with ⟨rfl, ⟨⟩⟩ | ⟨_, found⟩
  · exact mark
  · exact within.marked other row found

end

variable (within : WithinLimit limit m)
include within

theorem unmarked
    (found : m.registrations r = some row) (unsettled : row.settlementState ≠ .settled) :
    row.settledAt = none := by
  by_contra some
  exact unsettled ((within.marked r row found).mp (Option.isSome_iff_ne_none.mpr some))

theorem history_unmarked (entered : Entered r new m next) (unsettled : new.settledAt = none)
    (holder : Holder) (since : Time) : (next.settledIn holder since).card ≤ limit := by
  have kept : next.settledIn holder since ⊆ m.settledIn holder since :=
    settledIn_unmoved entered fun settled marked => by
      rw [unsettled] at marked
      cases marked
  exact (Finset.card_le_card kept).trans (within.history holder since)

theorem reserved_within {bid : Bid}
    (began : bid.began ≤ m.clock) (room : bid.room limit m = true)
    (entered : Entered bid.registration new m next)
    (payer : ∀ wallet ∈ new.payerAddress, wallet = bid.payer)
    (owner : ∀ account ∈ new.ownerAccountId, account = bid.owner)
    (state : new.settlementState = .settlementPending) (unsettled : new.settledAt = none) :
    WithinLimit limit next where
  marked := by
    refine marked_entered within entered ?_
    rw [state, unsettled]
    simp
  window holder := by
    rw [entered.clock]
    simp only [Bid.room, Bool.and_eq_true, decide_eq_true_eq] at room
    by_cases his : new.isOf holder = true
    · have free : (m.window holder bid.began).card < limit := by
        cases holder with
        | payer wallet =>
          simp only [RegistrationRow.isOf, beq_iff_eq] at his
          rw [payer wallet his]
          exact room.1
        | owner account =>
          simp only [RegistrationRow.isOf, beq_iff_eq] at his
          rw [owner account his]
          exact room.2
      calc (next.window holder m.clock).card
          ≤ (insert bid.registration (m.window holder m.clock)).card :=
            Finset.card_le_card (window_entered entered)
        _ ≤ (m.window holder m.clock).card + 1 := Finset.card_insert_le _ _
        _ ≤ (m.window holder bid.began).card + 1 :=
            Nat.add_le_add_right (Finset.card_le_card (window_earlier began)) 1
        _ ≤ limit := free
    · have kept : next.window holder m.clock ⊆ m.window holder m.clock :=
        window_unmoved entered fun _ mine => absurd mine his
      exact (Finset.card_le_card kept).trans (within.window holder)
  history := history_unmarked within entered unsettled

theorem entry_within (entered : Entered r new m next) (state : new.settlementState ≠ .settled)
    (unsettled : new.settledAt = none)
    (slot : ∀ holder, r ∈ m.issued → new.isOf holder = true → new.inWindow m.clock = true →
      r ∈ m.window holder m.clock) : WithinLimit limit next where
  marked := by
    refine marked_entered within entered ?_
    rw [unsettled]
    simp [state]
  window holder := by
    rw [entered.clock]
    have kept : next.window holder m.clock ⊆ m.window holder m.clock :=
      window_unmoved entered (slot holder)
    exact (Finset.card_le_card kept).trans (within.window holder)
  history := history_unmarked within entered unsettled

/-- A counted registration settles: it keeps its slot, and every other settlement of
the last 24 hours has one too. -/
theorem settled_within
    (found : m.registrations r = some row) (unsettled : row.settlementState ≠ .settled)
    (counted : row.inWindow m.clock = true) (entered : Entered r (row.settle m.clock) m next) :
    WithinLimit limit next := by
  have mark : row.settledAt = none := unmarked within found unsettled
  have settled : (row.settle m.clock).settledAt = some m.clock := by
    simp [RegistrationRow.settle, mark]
  have marked : ∀ other row, next.registrations other = some row →
      (row.settledAt.isSome ↔ row.settlementState = .settled) := by
    refine marked_entered within entered ?_
    simp [RegistrationRow.settle]
  have window (holder : Holder) : (next.window holder next.clock).card ≤ limit := by
    rw [entered.clock]
    have kept : next.window holder m.clock ⊆ m.window holder m.clock :=
      window_unmoved entered fun issued his _ => mem_window.mpr ⟨issued, row, found, his, counted⟩
    exact (Finset.card_le_card kept).trans (within.window holder)
  refine ⟨marked, window, fun holder since => ?_⟩
  by_cases now : since ≤ m.clock ∧ m.clock ≤ since + day
  · refine (Finset.card_le_card fun other listed => ?_).trans (window holder)
    obtain ⟨issued, here, there, his, time, at_time, after, soon⟩ := mem_settledIn.mp listed
    refine mem_window.mpr ⟨issued, here, there, his, ?_⟩
    have state : here.settlementState = .settled := (marked other here there).mp (by simp [at_time])
    simp only [RegistrationRow.inWindow, state, at_time, Option.any_some, entered.clock]
    exact decide_eq_true (now.2.trans (Nat.add_le_add_right after day))
  · have kept : next.settledIn holder since ⊆ m.settledIn holder since := by
      refine settledIn_unmoved entered fun time at_time after soon _ => ?_
      rw [settled] at at_time
      cases at_time
      exact absurd ⟨after, soon⟩ now
    exact (Finset.card_le_card kept).trans (within.history holder since)

omit within

end Windows

variable {m : Market}

variable {limit : Nat} {next : Market}

theorem prepared_within
    (within : WithinLimit limit m) (fresh : m.registrations r = none) (clock : next.clock = m.clock)
    (issued : next.issued = insert r m.issued)
    (registrations : next.registrations = m.registrations.put r new)
    (state : new.settlementState = .awaitingPayment) (unsettled : new.settledAt = none) :
    WithinLimit limit next := by
  have before {other : RegistrationId} {row : RegistrationRow}
      (found : next.registrations other = some row) :
      (other = r ∧ row = new) ∨ (other ≠ r ∧ m.registrations other = some row) := by
    rw [registrations] at found
    by_cases same : other = r
    · subst same
      rw [put_same] at found
      exact Or.inl ⟨rfl, (Option.some.inj found).symm⟩
    · rw [put_other _ _ same] at found
      exact Or.inr ⟨same, found⟩
  refine ⟨fun other row found => ?_, fun holder => ?_, fun holder since => ?_⟩
  · rcases before found with ⟨_, rfl⟩ | ⟨_, there⟩
    · simp [state, unsettled]
    · exact within.marked other row there
  · rw [clock]
    refine (Finset.card_le_card fun other counted => ?_).trans (within.window holder)
    obtain ⟨listed, row, found, his, counts⟩ := mem_window.mp counted
    rcases before found with ⟨_, rfl⟩ | ⟨different, there⟩
    · simp [RegistrationRow.inWindow, state] at counts
    · rw [issued] at listed
      exact mem_window.mpr ⟨(Finset.mem_insert.mp listed).resolve_left different, row, there, his,
        counts⟩
  · refine (Finset.card_le_card fun other counted => ?_).trans (within.history holder since)
    obtain ⟨listed, row, found, his, settled, marked, bounds⟩ := mem_settledIn.mp counted
    rcases before found with ⟨_, rfl⟩ | ⟨different, there⟩
    · rw [unsettled] at marked
      cases marked
    · rw [issued] at listed
      exact mem_settledIn.mpr ⟨(Finset.mem_insert.mp listed).resolve_left different, row, there, his,
        settled, marked, bounds⟩

theorem booking_within (booking : Booking limit m next step)
    (within : WithinLimit limit m) (attended : WellAttended m) (may : mayTrade step m)
    (room : HasRoom limit step m) : WithinLimit limit next := by
  cases booking with
  | same _ kept =>
    refine ⟨fun r row found => within.marked r row (kept.registrations ▸ found), fun holder => ?_,
      fun holder since => ?_⟩
    · rw [kept.clock, same_window kept]
      exact within.window holder
    · rw [same_settledIn kept.issued kept.registrations]
      exact within.history holder since
  | waited seconds clock issued registrations =>
    refine ⟨fun r row found => within.marked r row (registrations ▸ found), fun holder => ?_,
      fun holder since => ?_⟩
    · have shrinks : next.window holder next.clock ⊆ m.window holder m.clock := by
        have unmoved : next.window holder next.clock = m.window holder next.clock := by
          simp only [Market.window, issued, registrations]
        rw [unmoved, clock]
        exact window_earlier (Nat.le_add_right m.clock seconds)
      exact (Finset.card_le_card shrinks).trans (within.window holder)
    · rw [same_settledIn issued registrations]
      exact within.history holder since
  | prepared r quote fresh clock issued registrations =>
    exact prepared_within within fresh clock issued registrations rfl rfl
  | requoted r quote row found unordered entered =>
    obtain ⟨state, unsettled, _⟩ := attended.unordered r row found unordered
    refine entry_within within entered (by simp [state]) unsettled fun holder _ _ counted => ?_
    simp [RegistrationRow.inWindow, state] at counted
  | reentered h bid fate row order found bound payer owner retried entered =>
    have free := room row found (by simp [bound]) retried
    have unsettled : row.settlementState ≠ .settled := by
      rcases retried with state | state <;> simp [state]
    have mark : row.settledAt = none := unmarked within found unsettled
    exact reserved_within within may free entered payer owner rfl mark
  | first h bid fate row found unordered free fresh entered =>
    obtain ⟨state, unsettled, _⟩ := attended.unordered _ row found unordered
    refine reserved_within within may free entered ?_ ?_ rfl unsettled
    · intro wallet named
      exact (Option.some.inj named).symm
    · intro account named
      exact (Option.some.inj named).symm
  | settled h fate charge row held found unsettled entered =>
    simp only [HasRoom, held] at room
    exact settled_within within found unsettled ((room row found).resolve_left unsettled) entered
  | refused h fate r ambiguous row held found entered =>
    simp only [HasRoom, held] at room
    obtain ⟨unsettled, counted⟩ := room row found
    have mark : row.settledAt = none := unmarked within found unsettled
    refine entry_within within entered ?_ mark ?_
    · cases ambiguous <;> simp [RegistrationRow.refuse]
    · intro holder issued his fresh
      cases ambiguous with
      | false => simp [RegistrationRow.refuse, RegistrationRow.inWindow] at fresh
      | true => exact mem_window.mpr ⟨issued, row, found, his, counted rfl⟩

theorem nothing_attended (nothing : NothingRegistered m) : WellAttended m where
  attempts h := by
    rw [nothing.attempts h]
    trivial
  ledger charge listed := by
    rw [nothing.ledger] at listed
    cases listed
  unordered r row found := by
    rw [nothing.registrations r] at found
    cases found

theorem nothing_within (limit : Nat) (nothing : NothingRegistered m) :
    WithinLimit limit m where
  marked r row found := by
    rw [nothing.registrations r] at found
    cases found
  window holder := by simp [Market.window, nothing.issued]
  history holder since := by simp [Market.settledIn, nothing.issued]

/-- In every run in which the limit is not passed by a branch that does not check it. -/
theorem registration_limit_kept (limit : Nat) (m : Market) (nothing : NothingRegistered m)
    (steps : List MarketStep) (admitted : (roomyMarket limit).admits m steps) :
    LimitKept limit ((roomyMarket limit).run m steps) := by
  have step (step : MarketStep) (m : Market) (both : WellAttended m ∧ WithinLimit limit m)
      (may : (roomyMarket limit).may step m) :
      WellAttended ((roomyMarket limit).step step m) ∧
        WithinLimit limit ((roomyMarket limit).step step m) :=
    ⟨marketStep_attended step both.1,
      booking_within (marketStep_booking step) both.2 both.1 may.1 may.2⟩
  have start : WellAttended m ∧ WithinLimit limit m :=
    ⟨nothing_attended nothing, nothing_within limit nothing⟩
  exact ((roomyMarket limit).run_keeps step steps m start admitted).2.history

/-- What `mayTrade` asks of the steps of the checkout itself. -/
def trades (step : MarketStep) (m : Market) : Bool :=
  match step with
  | .reserve _ bid _ => decide (bid.began ≤ m.clock)
  | .settle h answer _ => match m.attempt h with
      | .reserved _ _ _ hash => answer == .failure || answer == .exception false || !m.spent hash
      | _ => true
  | .elsewhere _ => false
  | _ => true

theorem trades_may (trade : trades step m = true) : mayTrade step m := by
  cases step with
  | reserve h bid fate => simpa [trades, mayTrade] using trade
  | settle h answer stored =>
    simp only [trades] at trade
    simp only [mayTrade]
    split
    · rename_i held
      rw [held] at trade
      intro succeeds moves
      simpa [succeeds, moves] using trade
    · trivial
  | elsewhere s => cases trade
  | _ => trivial

def hasRoomTest (limit : Nat) (step : MarketStep) (m : Market) : Bool :=
  match step with
  | .reserve _ bid _ => (m.registrations bid.registration).all fun row =>
    row.orderId.isNone || bid.room limit m
  | .record h _ => match m.attempt h with
      | .paid charge => (m.registrations charge.registration).all fun row => row.inWindow m.clock
      | _ => true
  | .refuse h _ => match m.attempt h with
      | .refused _ _ => false
      | _ => true
  | _ => true

theorem hasRoomTest_enough (passed : hasRoomTest limit step m = true) :
    HasRoom limit step m := by
  cases step with
  | reserve h bid fate =>
    intro row found ordered _
    rw [Option.mem_def] at found
    rcases ordered_is : row.orderId with _ | order
    · simp [ordered_is] at ordered
    · simpa [hasRoomTest, found, ordered_is] using passed
  | record h fate =>
    simp only [hasRoomTest] at passed
    simp only [HasRoom]
    split
    · rename_i held
      rw [held] at passed
      intro row found
      rw [Option.mem_def] at found
      exact Or.inr (by simpa [found] using passed)
    · trivial
  | refuse h fate =>
    simp only [hasRoomTest] at passed
    simp only [HasRoom]
    split
    · rename_i held
      rw [held] at passed
      cases passed
    · trivial
  | _ => trivial

def emptyMarket : Market where
  vmQuotes _ := none
  vms _ := none
  intents _ := none
  domainQuotes _ := some ⟨.active, 1000⟩
  orders _ := none
  domains _ := none
  operations _ := none
  jobs _ := none
  events := []
  disabled _ := false
  clock := 0
  issued := ∅
  registrations _ := none
  ledger := []
  attempt _ := .idle
  spent _ := false
  collected _ := false
  failures := []

theorem emptyMarket_nothing : NothingRegistered emptyMarket where
  issued := rfl
  registrations _ := rfl
  attempts _ := rfl
  ledger := rfl
  collected _ := rfl
  failures := rfl

/-- Handler `h` brings a new authorization of the one customer for registration `r`. -/
def bids (h : ProcessId) (r : RegistrationId) : List MarketStep :=
  [.prepare r r, .reserve h {
    registration := r
    payer := .evm 7
    owner := 0
    hash := h
    order := r
    fqdn := r
    totalUsd := 20
    began := 0 } .done]

def succeeds (h : ProcessId) : List MarketStep :=
  [.settle h (.success (.chain h)) true, .load h, .pay h h .done, .record h .done]

def fails (h : ProcessId) : List MarketStep := [.settle h .failure true, .refuse h .done]

theorem one_registration_kept :
    LimitKept 1 ((roomyMarket 1).run emptyMarket (bids 0 0 ++ succeeds 0)) := by
  refine registration_limit_kept 1 emptyMarket emptyMarket_nothing _ ?_
  refine (roomyMarket 1).passes_admits (fun step m => trades step m && hasRoomTest 1 step m)
    (fun step m passed => ?_) _ _ (by decide +kernel)
  rw [Bool.and_eq_true] at passed
  exact ⟨trades_may passed.1, hasRoomTest_enough passed.2⟩

/-- A registration whose settlement failed is tried again after another has taken its
slot. -/
theorem limit_passed_by_retry :
    ¬ ∀ (limit : Nat) (m : Market) (steps : List MarketStep), NothingRegistered m →
      (market limit).admits m steps → LimitKept limit ((market limit).run m steps) := by
  intro always
  have kept := always 1 emptyMarket (bids 0 0 ++ fails 0 ++ bids 1 1 ++ succeeds 1 ++ bids 2 0 ++
      succeeds 2) emptyMarket_nothing
    ((market 1).passes_admits trades (fun _ _ => trades_may) _ _ (by decide +kernel))
  exact absurd (kept (.payer (.evm 7)) 0) (by decide +kernel)

end HyruleCloud
