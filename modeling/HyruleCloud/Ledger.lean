import HyruleCloud.NativeSettlement

/-!
Who may change what during a checkout. A charge has a party: the handler or the
intent whose money it is. The rows drawn for a party and the obligations towards
it are its view; only the thread that owns the party changes its view, apart
from the sweeper, which deletes reservations that nobody paid for.
-/

namespace HyruleCloud

open Interaction

def Payment.party : Payment → Drawer
  | .x402 settlement => .request settlement
  | .native intent => .intent intent

/-- A row of the party that nobody has paid for: an open reservation. -/
def Unpaid (row : VMRow) : Prop :=
  row.ownerWallet = none ∧ row.paymentTx = none ∧ row.status = .provisioning

def LiveRow (payment : Payment) (w : World) (vm : VmId) : Prop :=
  ∃ row, w.vms vm = some row ∧ row.paidBy payment = true ∧
    row.status ≠ .failed ∧ row.status ≠ .destroyed

/-- A settled charge is bound to exactly one VM row, or owed back exactly once. -/
def Accounted (payment : Payment) (w : World) : Prop :=
  (∃ vm, LiveRow payment w vm ∧ (∀ other, LiveRow payment w other → other = vm) ∧
    owed w.toStore payment = 0) ∨
  ((∀ vm, ¬ LiveRow payment w vm) ∧ owed w.toStore payment = 1)

abbrev Rows := Nat → Option VMRow

def rowsOf (payment : Payment) (w : World) : Rows := fun serial => w.vms ⟨payment.party, serial⟩

/-- The paid row stands at `vm`; every other row of the party is unpaid. -/
def BoundAt (payment : Payment) (w : World) (vm : VmId) : Prop :=
  vm.drawer = payment.party ∧
  (∃ row, w.vms vm = some row ∧ row.paidBy payment = true ∧ row.status = .provisioning ∧
    row.ownerWallet.isSome = true) ∧
  ∀ serial row, serial ≠ vm.serial → rowsOf payment w serial = some row → Unpaid row

/-- How far a payment has come. It starts `untouched`; a handler may return once
it is `bound` to a row, or `refunded` with no live row left. -/
inductive Position where
  | untouched
  | bound (vm : VmId)
  | boundOwed (vm : VmId)
  | refunded

def Position.holds (payment : Payment) (w : World) : Position → Prop
  | .untouched => owed w.toStore payment = 0 ∧
      ∀ serial row, rowsOf payment w serial = some row → Unpaid row
  | .bound vm => BoundAt payment w vm ∧ owed w.toStore payment = 0
  | .boundOwed vm => BoundAt payment w vm ∧ owed w.toStore payment = 1
  | .refunded => owed w.toStore payment = 1 ∧
      ∀ serial row, rowsOf payment w serial = some row → Unpaid row ∨ row.status = .failed

theorem unpaid_not_paid (row : VMRow) (payment : Payment) (unpaid : Unpaid row) :
    row.paidBy payment = false := by
  cases payment <;> simp [VMRow.paidBy, unpaid.1, unpaid.2.1]

def RowKept (before after : Option VMRow) : Prop :=
  after = before ∨ (after = none ∧ ∃ row, before = some row ∧ isReservation row = true)

theorem rowKept_trans {a b c : Option VMRow} (first : RowKept a b) (second : RowKept b c) :
    RowKept a c := by
  rcases first with rfl | ⟨rfl, reserved⟩
  · exact second
  · rcases second with rfl | ⟨rfl, row, gone, _⟩
    · exact Or.inr ⟨rfl, reserved⟩
    · cases gone

structure SameView (party : Drawer) (a b : World) : Prop where
  rows : ∀ serial, RowKept (a.vms ⟨party, serial⟩) (b.vms ⟨party, serial⟩)
  owed : ∀ payment : Payment, payment.party = party →
    owed b.toStore payment = owed a.toStore payment
  charged : ∀ handler, party = .request handler → b.charged handler = a.charged handler
  intents : ∀ intent, party = .intent intent →
    b.intents intent = a.intents intent ∧ b.handedBy intent = a.handedBy intent

theorem sameView_refl (party : Drawer) (w : World) : SameView party w w :=
  ⟨fun _ => Or.inl rfl, fun _ _ => rfl, fun _ _ => rfl, fun _ _ => ⟨rfl, rfl⟩⟩

theorem sameView_trans {party : Drawer} {a b c : World} (first : SameView party a b)
    (second : SameView party b c) : SameView party a c where
  rows serial := rowKept_trans (first.rows serial) (second.rows serial)
  owed payment own := (second.owed payment own).trans (first.owed payment own)
  charged handler own := (second.charged handler own).trans (first.charged handler own)
  intents intent own :=
    ⟨(second.intents intent own).1.trans (first.intents intent own).1,
      (second.intents intent own).2.trans (first.intents intent own).2⟩

def Owns (worker : Nat) (party : Drawer) (w : World) : Prop :=
  match party with
  | .request handler => handler = worker
  | .intent intent => w.handedBy intent = some worker
  | .order _ => False

structure IntentSound (intent : IntentId) (row : CryptoIntentRow) : Prop where
  planned : ∀ vm, row.vmId = some vm → vm.drawer = .intent intent
  priced : ∃ amount, row.amountUsd = some amount ∧ 0 < amount
  ordered : row.orderPayload.isSome = true

def SettledSound (event : PaymentEventRow) : Prop :=
  ∀ settlement, event.eventType = .settled → event.txHash = some (.chain settlement) →
    (∀ intent, event.payerWallet ≠ some (.intent intent)) ∧
    ∃ amount, event.amountUsd = some amount ∧ 0 < amount

structure Sound (w : World) : Prop where
  payers : ∀ vm row payment, w.vms vm = some row → row.paidBy payment = true →
    payment.party = vm.drawer
  intents : ∀ intent row, w.intents intent = some row → IntentSound intent row
  idle : ∀ intent, w.handedBy intent = none → Position.untouched.holds (.native intent) w
  handed : ∀ intent worker, w.handedBy intent = some worker →
    ∃ row, w.intents intent = some row ∧ row.provisioningTriggeredAt.isSome = true
  settled : ∀ event ∈ w.events, SettledSound event

structure Rely (worker : Nat) (a b : World) : Prop where
  views : ∀ party, Owns worker party a → SameView party a b
  owners : ∀ intent, b.handedBy intent = some worker → a.handedBy intent = some worker

structure Guar (worker : Nat) (a b : World) : Prop where
  others : ∀ party, ¬ Owns worker party b → SameView party a b
  kept : ∀ intent other, a.handedBy intent = some other → b.handedBy intent = some other
  taken : ∀ intent other, b.handedBy intent = some other →
    a.handedBy intent = some other ∨ other = worker

theorem owns_kept {worker : Nat} {party : Drawer} {a b : World} (owns : Owns worker party a)
    (same : SameView party a b) : Owns worker party b := by
  cases party with
  | request | order => exact owns
  | intent intent => exact (same.intents intent rfl).2.trans owns

def checkoutDuty (worker : Nat) : Duty World where
  inv := Sound
  rely := Rely worker
  guar := Guar worker
  crash _ := True
  rely_refl w := ⟨fun party _ => sameView_refl party w, fun _ held => held⟩
  rely_trans first second :=
    ⟨fun party owns => sameView_trans (first.views party owns)
        (second.views party (owns_kept owns (first.views party owns))),
      fun intent held => first.owners intent (second.owners intent held)⟩

theorem guar_rely (worker other : Nat) (a b : World) (different : worker ≠ other)
    (guar : Guar worker a b) : Rely other a b := by
  refine ⟨fun party owns => guar.others party ?_, fun intent held => ?_⟩
  · cases party with
    | request handler => exact fun same => different (same.symm.trans owns)
    | intent intent =>
      intro same
      have kept := guar.kept intent other owns
      exact different (Option.some.inj (same.symm.trans kept))
    | order id => exact fun absurd => absurd
  · rcases guar.taken intent other held with old | mine
    · exact old
    · exact absurd mine.symm different

section Stability
variable {payment : Payment} {a b : World}

theorem unpaid_rows_kept (same : SameView payment.party a b) (serial : Nat) (row : VMRow)
    (present : rowsOf payment b serial = some row) : rowsOf payment a serial = some row := by
  rcases same.rows serial with kept | ⟨gone, _⟩
  · exact kept.symm.trans present
  · exact absurd (gone.symm.trans present) (by simp)

theorem boundAt_kept (vm : VmId) (same : SameView payment.party a b)
    (bound : BoundAt payment a vm) : BoundAt payment b vm := by
  obtain ⟨own, ⟨row, present, paid, active, owner⟩, rest⟩ := bound
  refine ⟨own, ⟨row, ?_, paid, active, owner⟩, fun serial other different here =>
    rest serial other different (unpaid_rows_kept same serial other here)⟩
  have place : vm = ⟨payment.party, vm.serial⟩ := by rw [← own]
  rw [place] at present ⊢
  rcases same.rows vm.serial with kept | ⟨_, gone, was, reserved⟩
  · exact kept.trans present
  rw [present] at was
  cases was
  simp [isReservation, Option.isNone_iff_eq_none] at reserved
  simp [reserved.1] at owner

theorem position_kept (position : Position) (same : SameView payment.party a b)
    (holds : position.holds payment a) : position.holds payment b := by
  have count := same.owed payment rfl
  cases position with
  | untouched | refunded =>
    exact ⟨count.trans holds.1, fun serial row present =>
      holds.2 serial row (unpaid_rows_kept same serial row present)⟩
  | bound vm | boundOwed vm => exact ⟨boundAt_kept vm same holds.1, count.trans holds.2⟩

end Stability

theorem bound_accounted (payment : Payment) (w : World) (vm : VmId) (sound : Sound w)
    (bound : (Position.bound vm).holds payment w) : Accounted payment w := by
  obtain ⟨⟨own, ⟨row, present, paid, active, _⟩, rest⟩, free⟩ := bound
  refine Or.inl ⟨vm, ⟨row, present, paid, by simp [active], by simp [active]⟩, ?_, free⟩
  rintro other ⟨found, here, pays, _, _⟩
  have drawn := sound.payers other found payment here pays
  by_cases same : other.serial = vm.serial
  · cases other
    cases vm
    simp_all
  · have unpaid := rest other.serial found same (by simpa [rowsOf, drawn] using here)
    simp [unpaid_not_paid found payment unpaid] at pays

theorem refunded_accounted (payment : Payment) (w : World) (sound : Sound w)
    (refunded : Position.refunded.holds payment w) : Accounted payment w := by
  refine Or.inr ⟨?_, refunded.1⟩
  rintro vm ⟨row, present, paid, active, _⟩
  have drawn := sound.payers vm row payment present paid
  rcases refunded.2 vm.serial row (by simpa [rowsOf, drawn] using present) with unpaid | failed
  · simp [unpaid_not_paid row payment unpaid] at paid
  · exact active failed

end HyruleCloud
