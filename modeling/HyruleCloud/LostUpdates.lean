import HyruleCloud.Fulfilment

/-!
The worker writes orders and domain rows without asking what has become of them
since it looked. These are the facts that hold as long as no such write loses an
update: what the tables satisfy in every state (`Orderly`), and what the steps of
others leave to an execution that looked at an order or a row (`Spares`). Each
primitive of a session has one lemma for each of the two.
-/

namespace HyruleCloud

open Interaction

def DomainOrderRow.terms (order : DomainOrderRow) : DomainOrderRow :=
  { order with
    status := .queued
    errorCode := none
    vmId := none
    providerDomainId := none
    renewalBaseline := none }

def Due (status : OrderStatus) : Prop := status = .refundDue ∨ status = .refunded

instance (status : OrderStatus) : Decidable (Due status) := inferInstanceAs (Decidable (_ ∨ _))

/-- The order is delivered, waits for the registrar, or is refunded; a waived one
has nothing to be refunded. -/
def Concluded (order : DomainOrderRow) : Prop :=
  order.billingMode.isWaived = true ∨ order.status = .active ∨ order.status = .providerPending ∨
    Due order.status

def Seated (status : OrderStatus) : Prop :=
  status = .submitting ∨ status = .providerPending ∨ status = .active

def isRefundOf (id : OrderId) (event : PaymentEventRow) : Bool :=
  event.eventType == .refundOwed && event.orderId == some id

def refundsOwed (id : OrderId) (d : Registry) : Nat := d.events.countP (isRefundOf id)

structure Ledger (id : OrderId) (order : DomainOrderRow) (d : Registry) : Prop where
  once : refundsOwed id d ≤ 1
  due : Due order.status → refundsOwed id d = 1
  kept : refundsOwed id d ≠ 0 → Due order.status ∨ (order.status = .active ∧ order.vmQuoteId ≠ none)

/-- A paid order can be refunded, and only a bundle pays for a VM. -/
structure Payable (order : DomainOrderRow) : Prop where
  amount : 0 < order.amountUsd
  domain : 0 < order.domainAmountUsd
  payer : order.paymentMethod.isNative = true ∨ order.payer.isSome
  single : order.vmQuoteId = none → order.vmAmountUsd = 0

def Stale (row : DomainRow) : Prop := row.openproviderId = none ∧ row.status = .failed

instance (row : DomainRow) : Decidable (Stale row) := inferInstanceAs (Decidable (_ ∧ _))

structure Seats (id : OrderId) (status : OrderStatus) (row : DomainRow) : Prop where
  bound : row.clientOrderId = some id
  current : ¬ Stale row
  delivered : status = .active → row.openproviderId ≠ none

structure Ledgers (d : Registry) : Prop where
  balanced : ∀ id order, d.orders id = some order → Ledger id order d
  payable : ∀ id order, d.orders id = some order → Payable order
  unknown : ∀ id, d.orders id = none → refundsOwed id d = 0

structure Bindings (d : Registry) : Prop where
  seated : ∀ id order, d.orders id = some order → order.action = .register →
    Seated order.status → ∃ row, d.domains order.fqdn = some row ∧ Seats id order.status row
  named : ∀ fqdn row id, d.domains fqdn = some row → row.clientOrderId = some id →
    ∃ order, d.orders id = some order ∧ order.fqdn = fqdn ∧ order.action = .register ∧
      order.ownerAccountId = row.ownerAccountId
  marker : ∀ fqdn row id, d.domains fqdn = some row → row.providerOperationId = some id →
    row.clientOrderId = some id

def Fits (key : JobKey) (kind : JobKind) (resource : Nat) : Prop :=
  (kind = .fulfillOrder ↔ key = .order resource) ∧ ∀ id, key = .order id → resource = id

def JobStatus.hasEnded (status : JobStatus) : Prop := status = .completed ∨ status = .failed

structure Ends (d : Registry) : Prop where
  fits : ∀ key job, d.jobs key = some job → Fits key job.kind job.resource
  present : ∀ id job, d.jobs (.order id) = some job → ∃ order, d.orders id = some order
  ended : ∀ id job order, d.jobs (.order id) = some job → d.orders id = some order →
    job.status.hasEnded → Concluded order ∨ ∃ w, d.owing w = some id

/-- Submissions and results went to the row that named their order. -/
structure Traces (d : Registry) : Prop where
  submissions : ∀ mark ∈ d.submissions, ∃ id, mark = some ⟨id, some id⟩
  entries : ∀ entry ∈ d.entries, entry.written = entry.obtained

structure Seemly (d : Registry) : Prop where
  bindings : Bindings d
  ends : Ends d
  traces : Traces d

structure Orderly (d : Registry) : Prop extends Seemly d where
  ledgers : Ledgers d

structure Proceeds (order later : DomainOrderRow) : Prop where
  terms : later.terms = order.terms
  concluded : Concluded order → Concluded later
  due : Due order.status → Due later.status
  active : order.vmQuoteId = none → order.status = .active → later.status = .active

theorem Proceeds.refl (order : DomainOrderRow) : Proceeds order order :=
  ⟨rfl, id, id, fun _ => id⟩

section Terms
variable {order later : DomainOrderRow} (same : later.terms = order.terms)
include same

theorem terms_fqdn : later.fqdn = order.fqdn :=
  show later.terms.fqdn = order.terms.fqdn by rw [same]

theorem terms_action : later.action = order.action :=
  show later.terms.action = order.terms.action by rw [same]

theorem terms_owner : later.ownerAccountId = order.ownerAccountId :=
  show later.terms.ownerAccountId = order.terms.ownerAccountId by rw [same]

theorem terms_quote : later.vmQuoteId = order.vmQuoteId :=
  show later.terms.vmQuoteId = order.terms.vmQuoteId by rw [same]

theorem terms_billing : later.billingMode = order.billingMode :=
  show later.terms.billingMode = order.terms.billingMode by rw [same]

theorem terms_payable (payable : Payable order) : Payable later where
  amount := by
    have amounts : later.amountUsd = order.amountUsd :=
      show later.terms.amountUsd = order.terms.amountUsd by rw [same]
    rw [amounts]
    exact payable.amount
  domain := by
    have amounts : later.domainAmountUsd = order.domainAmountUsd :=
      show later.terms.domainAmountUsd = order.terms.domainAmountUsd by rw [same]
    rw [amounts]
    exact payable.domain
  payer := by
    have methods : later.paymentMethod = order.paymentMethod :=
      show later.terms.paymentMethod = order.terms.paymentMethod by rw [same]
    have payers : later.payer = order.payer :=
      show later.terms.payer = order.terms.payer by rw [same]
    rw [methods, payers]
    exact payable.payer
  single := by
    have amounts : later.vmAmountUsd = order.vmAmountUsd :=
      show later.terms.vmAmountUsd = order.terms.vmAmountUsd by rw [same]
    rw [terms_quote same, amounts]
    exact payable.single

end Terms

variable {order later : DomainOrderRow}

theorem Proceeds.trans {last : DomainOrderRow} (first : Proceeds order later)
    (second : Proceeds later last) : Proceeds order last where
  terms := second.terms.trans first.terms
  concluded holds := second.concluded (first.concluded holds)
  due holds := second.due (first.due holds)
  active single holds :=
    second.active ((terms_quote first.terms).trans single) (first.active single holds)

def Confirmed (row later : DomainRow) : Prop :=
  row.openproviderId ≠ none →
    later.clientOrderId = row.clientOrderId ∧ later.openproviderId ≠ none

/-- The columns that an execution relies on once it knows a row. -/
structure SameSeat (row later : DomainRow) : Prop where
  client : later.clientOrderId = row.clientOrderId
  provider : later.openproviderId = row.openproviderId
  marker : later.providerOperationId = row.providerOperationId
  owner : later.ownerAccountId = row.ownerAccountId

variable {row : DomainRow} {key : JobKey}

theorem SameSeat.trans {later last : DomainRow} (first : SameSeat row later)
    (second : SameSeat later last) : SameSeat row last :=
  ⟨second.client.trans first.client, second.provider.trans first.provider,
    second.marker.trans first.marker, second.owner.trans first.owner⟩

theorem SameSeat.confirmed {later : DomainRow} (same : SameSeat row later) : Confirmed row later :=
  fun known => ⟨same.client, by rw [same.provider]; exact known⟩

structure Lasts (a b : Registry) : Prop where
  orders : ∀ id order, a.orders id = some order →
    ∃ later, b.orders id = some later ∧ Proceeds order later
  rows : ∀ fqdn row, a.domains fqdn = some row →
    ∃ later, b.domains fqdn = some later ∧ Confirmed row later

theorem Lasts.trans {a b c : Registry} (first : Lasts a b) (second : Lasts b c) : Lasts a c where
  orders id order found := by
    obtain ⟨later, there, proceeds⟩ := first.orders id order found
    obtain ⟨last, last_there, continues⟩ := second.orders id later there
    exact ⟨last, last_there, proceeds.trans continues⟩
  rows fqdn row found := by
    obtain ⟨later, there, confirmed⟩ := first.rows fqdn row found
    obtain ⟨last, last_there, stays⟩ := second.rows fqdn later there
    refine ⟨last, last_there, fun known => ?_⟩
    obtain ⟨bound, kept⟩ := confirmed known
    obtain ⟨still, last_kept⟩ := stays kept
    exact ⟨still.trans bound, last_kept⟩

/-- What a step of anybody else leaves to execution `w`. -/
structure Spares (w : ProcessId) (a b : Registry) : Prop where
  orders : ∀ id order, a.orders id = some order →
    ∃ later, b.orders id = some later ∧ Proceeds order later
  rows : ∀ fqdn row, a.domains fqdn = some row →
    ∃ later, b.domains fqdn = some later ∧ Confirmed row later
  order : ∀ id, b.known w (.order id) = true → a.known w (.order id) = true ∧
    refundsOwed id b = refundsOwed id a ∧
    ∀ order later, a.orders id = some order → b.orders id = some later →
      later.status = order.status
  row : ∀ fqdn, b.known w (.row fqdn) = true → a.known w (.row fqdn) = true ∧
    ∀ row, a.domains fqdn = some row → ∃ later, b.domains fqdn = some later ∧ SameSeat row later
  failing : ∀ fqdn later id, b.domains fqdn = some later → Stale later →
    later.clientOrderId = some id → b.known w (.order id) = true →
    ∃ row, a.domains fqdn = some row ∧ Stale row ∧ row.clientOrderId = some id
  marked : b.marked w = a.marked w
  owing : b.owing w = a.owing w

theorem Spares.refl (w : ProcessId) (d : Registry) : Spares w d d where
  orders _ order found := ⟨order, found, Proceeds.refl order⟩
  rows _ row found := ⟨row, found, fun known => ⟨rfl, known⟩⟩
  order _ known := ⟨known, rfl, fun _ _ found there => by
    rw [found] at there
    cases there
    rfl⟩
  row _ known := ⟨known, fun row found => ⟨row, found, rfl, rfl, rfl, rfl⟩⟩
  failing _ later _ found stale bound _ := ⟨later, found, stale, bound⟩
  marked := rfl
  owing := rfl

theorem Spares.lasts {w : ProcessId} {a b : Registry} (spares : Spares w a b) : Lasts a b :=
  ⟨spares.orders, spares.rows⟩

theorem Spares.trans {w : ProcessId} {a b c : Registry} (first : Spares w a b)
    (second : Spares w b c) : Spares w a c where
  orders := (first.lasts.trans second.lasts).orders
  rows := (first.lasts.trans second.lasts).rows
  order id known := by
    obtain ⟨before, counts, later_status⟩ := second.order id known
    obtain ⟨start, counted, status⟩ := first.order id before
    refine ⟨start, counts.trans counted, fun order last found there => ?_⟩
    obtain ⟨later, present, _⟩ := first.orders id order found
    exact (later_status later last present there).trans (status order later found present)
  row fqdn known := by
    obtain ⟨before, later_row⟩ := second.row fqdn known
    obtain ⟨start, row⟩ := first.row fqdn before
    refine ⟨start, fun here found => ?_⟩
    obtain ⟨later, there, same⟩ := row here found
    obtain ⟨last, last_there, still⟩ := later_row later there
    exact ⟨last, last_there, same.trans still⟩
  failing fqdn last id found stale bound known := by
    obtain ⟨later, there, later_stale, later_bound⟩ :=
      second.failing fqdn last id found stale bound known
    exact first.failing fqdn later id there later_stale later_bound (second.order id known).1
  marked := second.marked.trans first.marked
  owing := second.owing.trans first.owing

/-! Writes to columns on which nothing here depends. -/

structure SameOrder (order later : DomainOrderRow) : Prop where
  terms : later.terms = order.terms
  status : later.status = order.status

structure SameRow (row later : DomainRow) : Prop where
  seat : SameSeat row later
  stale : Stale later → Stale row

structure Beside (a b : Registry) : Prop where
  orders : ∀ id order, a.orders id = some order →
    ∃ later, b.orders id = some later ∧ SameOrder order later
  noOrder : ∀ id, a.orders id = none → b.orders id = none
  rows : ∀ fqdn row, a.domains fqdn = some row →
    ∃ later, b.domains fqdn = some later ∧ SameRow row later
  noRow : ∀ fqdn, a.domains fqdn = none → b.domains fqdn = none
  events : ∀ id, refundsOwed id b = refundsOwed id a
  jobs : b.jobs = a.jobs
  owing : b.owing = a.owing
  submissions : b.submissions = a.submissions
  entries : b.entries = a.entries

theorem SameOrder.refl (order : DomainOrderRow) : SameOrder order order := ⟨rfl, rfl⟩

theorem SameRow.refl (row : DomainRow) : SameRow row row := ⟨⟨rfl, rfl, rfl, rfl⟩, id⟩

theorem SameOrder.proceeds (same : SameOrder order later) :
    Proceeds order later where
  terms := same.terms
  concluded holds := by
    rw [Concluded, terms_billing same.terms, same.status]
    exact holds
  due holds := by
    rw [same.status]
    exact holds
  active _ holds := same.status.trans holds

variable {id : OrderId}

variable {fqdn : Fqdn}

section Beside
variable {a b : Registry} (beside : Beside a b)
include beside

theorem beside_order (found : b.orders id = some later) :
    ∃ order, a.orders id = some order ∧ SameOrder order later := by
  cases before : a.orders id with
  | none =>
    rw [beside.noOrder id before] at found
    cases found
  | some order =>
    obtain ⟨last, there, same⟩ := beside.orders id order before
    rw [there] at found
    cases found
    exact ⟨order, rfl, same⟩

theorem beside_row {later : DomainRow} (found : b.domains fqdn = some later) :
    ∃ row, a.domains fqdn = some row ∧ SameRow row later := by
  cases before : a.domains fqdn with
  | none =>
    rw [beside.noRow fqdn before] at found
    cases found
  | some row =>
    obtain ⟨last, there, same⟩ := beside.rows fqdn row before
    rw [there] at found
    cases found
    exact ⟨row, rfl, same⟩

theorem beside_spares {w : ProcessId}
    (known : ∀ item, b.known w item = true → a.known w item = true)
    (marked : b.marked w = a.marked w) : Spares w a b where
  orders id order found := by
    obtain ⟨later, there, same⟩ := beside.orders id order found
    exact ⟨later, there, same.proceeds⟩
  rows fqdn row found := by
    obtain ⟨later, there, same⟩ := beside.rows fqdn row found
    exact ⟨later, there, same.seat.confirmed⟩
  order id now := by
    refine ⟨known _ now, beside.events id, fun order later found there => ?_⟩
    obtain ⟨last, present, same⟩ := beside.orders id order found
    rw [present] at there
    cases there
    exact same.status
  row fqdn now := by
    refine ⟨known _ now, fun row found => ?_⟩
    obtain ⟨later, there, same⟩ := beside.rows fqdn row found
    exact ⟨later, there, same.seat⟩
  failing fqdn later id found stale bound _ := by
    obtain ⟨row, before, same⟩ := beside_row beside found
    exact ⟨row, before, same.stale stale, same.seat.client.symm.trans bound⟩
  marked := marked
  owing := by rw [beside.owing]

theorem beside_ledgers (ledgers : Ledgers a) : Ledgers b where
  balanced id later found := by
    obtain ⟨order, before, same⟩ := beside_order beside found
    obtain ⟨once, due, kept⟩ := ledgers.balanced id order before
    refine ⟨?_, ?_, ?_⟩
    · rw [beside.events]
      exact once
    · rw [beside.events, same.status]
      exact due
    · rw [beside.events, same.status, terms_quote same.terms]
      exact kept
  payable id later found := by
    obtain ⟨order, before, same⟩ := beside_order beside found
    exact terms_payable same.terms (ledgers.payable id order before)
  unknown id absent := by
    rw [beside.events]
    cases before : a.orders id with
    | none => exact ledgers.unknown id before
    | some order =>
      obtain ⟨later, there, _⟩ := beside.orders id order before
      rw [absent] at there
      cases there

theorem beside_bindings (bindings : Bindings a) : Bindings b where
  seated id later found registers submitted := by
    obtain ⟨order, before, same⟩ := beside_order beside found
    rw [terms_action same.terms] at registers
    rw [same.status] at submitted
    obtain ⟨row, present, bound, current, delivered⟩ :=
      bindings.seated id order before registers submitted
    obtain ⟨next, there, kept⟩ := beside.rows _ row present
    refine ⟨next, by rw [terms_fqdn same.terms]; exact there, ?_, ?_, ?_⟩
    · rw [kept.seat.client]
      exact bound
    · exact fun stale => current (kept.stale stale)
    · rw [same.status, kept.seat.provider]
      exact delivered
  named fqdn later id found bound := by
    obtain ⟨row, before, same⟩ := beside_row beside found
    rw [same.seat.client] at bound
    obtain ⟨order, present, name, registers, owner⟩ := bindings.named fqdn row id before bound
    obtain ⟨next, there, kept⟩ := beside.orders id order present
    refine ⟨next, there, (terms_fqdn kept.terms).trans name,
      (terms_action kept.terms).trans registers, ?_⟩
    rw [terms_owner kept.terms, same.seat.owner]
    exact owner
  marker fqdn later id found marked := by
    obtain ⟨row, before, same⟩ := beside_row beside found
    rw [same.seat.marker] at marked
    rw [same.seat.client]
    exact bindings.marker fqdn row id before marked

theorem beside_seemly (seemly : Seemly a) : Seemly b where
  bindings := beside_bindings beside seemly.bindings
  ends := by
    constructor
    · rw [beside.jobs]
      exact seemly.ends.fits
    · intro id job listed
      rw [beside.jobs] at listed
      obtain ⟨order, found⟩ := seemly.ends.present id job listed
      obtain ⟨later, there, _⟩ := beside.orders id order found
      exact ⟨later, there⟩
    · intro id job later listed found past
      rw [beside.jobs] at listed
      obtain ⟨order, before, same⟩ := beside_order beside found
      rw [beside.owing]
      exact (seemly.ends.ended id job order listed before past).imp_left same.proceeds.concluded
  traces := by
    constructor
    · rw [beside.submissions]
      exact seemly.traces.submissions
    · rw [beside.entries]
      exact seemly.traces.entries

theorem beside_orderly (orderly : Orderly a) : Orderly b where
  toSeemly := beside_seemly beside orderly.toSeemly
  ledgers := beside_ledgers beside orderly.ledgers

end Beside

theorem Beside.refl (d : Registry) : Beside d d where
  orders _ order found := ⟨order, found, .refl order⟩
  noOrder _ := id
  rows _ row found := ⟨row, found, .refl row⟩
  noRow _ := id
  events _ := rfl
  jobs := rfl
  owing := rfl
  submissions := rfl
  entries := rfl

variable {P : Registry → Prop}

/-! The primitives of a session. `w` runs it, and `other` is another execution. -/

section Primitives
variable {w other : ProcessId} {d : Registry}

theorem look_beside (item : Item) : Beside d (look w item d) := { Beside.refl d with }

theorem look_spares (different : other ≠ w) (item : Item) : Spares other d (look w item d) :=
  beside_spares (look_beside item) (fun it known => by simpa [look, different] using known) rfl

theorem noteOrder_beside {change : DomainOrderRow → DomainOrderRow}
    (same : ∀ order, d.orders id = some order → SameOrder order (change order)) :
    Beside d (noteOrder id change d) := by
  unfold noteOrder
  cases found : d.orders id with
  | none => exact .refl d
  | some order =>
    exact { Beside.refl d with
      orders := fun other here => put_relates found .refl (same order found)
      noOrder := fun other => put_absent found }

theorem noteRow_beside {change : DomainRow → DomainRow}
    (same : ∀ row, d.domains fqdn = some row → SameRow row (change row)) :
    Beside d (noteRow fqdn change d) := by
  unfold noteRow
  cases found : d.domains fqdn with
  | none => exact .refl d
  | some row =>
    exact { Beside.refl d with
      rows := fun other here => put_relates found .refl (same row found)
      noRow := fun other => put_absent found }

section
variable (id : OrderId) (change : DomainOperationRow → DomainOperationRow)

theorem changeOperation_beside :
    Beside d (changeOperation id change d) := by
  unfold changeOperation
  split
  · exact .refl d
  · split
    · exact .refl d
    · exact { Beside.refl d with }

theorem changeOperation_known :
    (changeOperation id change d).known = d.known ∧
      (changeOperation id change d).marked = d.marked := by
  unfold changeOperation
  split
  · exact ⟨rfl, rfl⟩
  · split <;> exact ⟨rfl, rfl⟩

end

theorem failVm_beside (vm : VmId) : Beside d (failVm vm d) := by
  unfold failVm
  split
  · exact .refl d
  · exact { Beside.refl d with }

def Sits (id : OrderId) (order : DomainOrderRow) (status : OrderStatus) (d : Registry) : Prop :=
  order.action = .register → Seated status →
    ∃ row, d.domains order.fqdn = some row ∧ Seats id status row

section
variable {id : OrderId} {change : DomainOrderRow → DomainOrderRow}

theorem changeOrder_at (found : d.orders id = some order) :
    changeOrder w id change d =
      touch w (.order id) { d with orders := d.orders.put id (change order) } := by
  simp [changeOrder, found]

theorem changeOrder_rule (before : P d)
    (written : ∀ order, d.orders id = some order →
      P (touch w (.order id) { d with orders := d.orders.put id (change order) })) :
    P (changeOrder w id change d) := by
  cases found : d.orders id with
  | none => simpa [changeOrder, found] using before
  | some order => simpa only [changeOrder_at found] using written order found

theorem changeOrder_spares (different : other ≠ w)
    (proceeds : ∀ order, d.orders id = some order → Proceeds order (change order)) :
    Spares other d (changeOrder w id change d) := by
  refine changeOrder_rule (.refl other d) fun order found => ?_
  refine { Spares.refl other d with orders := ?_, order := ?_, row := ?_, failing := ?_ }
  · exact fun here before => put_relates found .refl (proceeds order found)
  · intro here known
    have elsewhere : here ≠ id := by
      rintro rfl
      simp [touch, different] at known
    have still : d.known other (.order here) = true := by
      simpa [touch, elsewhere] using known
    refine ⟨still, rfl, fun before later present there => ?_⟩
    have unchanged : d.orders here = some later := by simpa [touch, elsewhere] using there
    rw [present] at unchanged
    cases unchanged
    rfl
  · intro fqdn known
    exact ⟨by simpa [touch] using known, fun row present => ⟨row, present, (SameRow.refl row).seat⟩⟩
  · exact fun fqdn later _ present stale bound _ => ⟨later, present, stale, bound⟩

end

section ChangeOrder
variable {id : OrderId} {change : DomainOrderRow → DomainOrderRow}

theorem changeOrder_bindings (bindings : Bindings d)
    (terms : ∀ order, d.orders id = some order → (change order).terms = order.terms)
    (sits : ∀ order, d.orders id = some order → Sits id order (change order).status d) :
    Bindings (changeOrder w id change d) := by
  refine changeOrder_rule bindings fun order found => ?_
  have kept := terms order found
  refine ⟨?_, ?_, bindings.marker⟩
  · intro here later present registers submitted
    by_cases same : here = id
    · subst same
      have written : change order = later := by simpa [touch] using present
      subst written
      rw [terms_action kept] at registers
      rw [terms_fqdn kept]
      exact sits order found registers submitted
    · exact bindings.seated here later (by simpa [touch, same] using present) registers submitted
  · intro fqdn row here present bound
    obtain ⟨before, exist, name, registers, owner⟩ := bindings.named fqdn row here present bound
    by_cases same : here = id
    · subst same
      rw [found] at exist
      cases exist
      exact ⟨_, put_same _ _ _, (terms_fqdn kept).trans name,
        (terms_action kept).trans registers, (terms_owner kept).trans owner⟩
    · exact ⟨before, by simpa [touch, same] using exist, name, registers, owner⟩

theorem changeOrder_ends (ends : Ends d)
    (concluded : ∀ order, d.orders id = some order → Concluded order → Concluded (change order)) :
    Ends (changeOrder w id change d) := by
  refine changeOrder_rule ends fun order found => ?_
  refine ⟨ends.fits, fun here job listed => ?_, fun here job later listed present past => ?_⟩
  · by_cases same : here = id
    · subst same
      exact ⟨_, put_same _ _ _⟩
    · obtain ⟨before, exist⟩ := ends.present here job listed
      exact ⟨before, by simpa [touch, same] using exist⟩
  by_cases same : here = id
  · subst same
    have written : change order = later := by simpa [touch] using present
    subst written
    exact (ends.ended here job order listed found past).imp_left (concluded order found)
  · exact ends.ended here job later listed (by simpa [touch, same] using present) past

theorem changeOrder_traces (traces : Traces d) : Traces (changeOrder w id change d) := by
  refine changeOrder_rule traces fun order found => ?_
  exact ⟨traces.1, traces.2⟩

theorem changeOrder_seemly (seemly : Seemly d)
    (proceeds : ∀ order, d.orders id = some order → Proceeds order (change order))
    (sits : ∀ order, d.orders id = some order → Sits id order (change order).status d) :
    Seemly (changeOrder w id change d) where
  bindings := changeOrder_bindings seemly.bindings
    (fun order found => (proceeds order found).terms) sits
  ends := changeOrder_ends seemly.ends fun order found => (proceeds order found).concluded
  traces := changeOrder_traces seemly.traces

theorem changeOrder_ledgers (ledgers : Ledgers d)
    (terms : ∀ order, d.orders id = some order → (change order).terms = order.terms)
    (ledger : ∀ order, d.orders id = some order → Ledger id (change order) d) :
    Ledgers (changeOrder w id change d) := by
  refine changeOrder_rule ledgers fun order found => ?_
  refine ⟨?_, ?_, ?_⟩
  · intro here later present
    by_cases same : here = id
    · subst same
      have written : change order = later := by simpa [touch] using present
      obtain ⟨once, due, kept⟩ := ledger order found
      exact written ▸ ⟨once, due, kept⟩
    · obtain ⟨once, due, kept⟩ := ledgers.balanced here later
        (by simpa [touch, same] using present)
      exact ⟨once, due, kept⟩
  · intro here later present
    by_cases same : here = id
    · subst same
      have written : change order = later := by simpa [touch] using present
      exact written ▸ terms_payable (terms order found) (ledgers.payable here order found)
    · exact ledgers.payable here later (by simpa [touch, same] using present)
  · intro here absent
    have elsewhere : here ≠ id := by
      rintro rfl
      simp [touch] at absent
    exact ledgers.unknown here (by simpa [touch, elsewhere] using absent)

end ChangeOrder

theorem ledger_unpaid (unpaid : refundsOwed id d = 0)
    (still : ¬ Due order.status) : Ledger id order d where
  once := by omega
  due due := absurd due still
  kept recorded := absurd unpaid recorded

structure Rewrites (row later : DomainRow) : Prop where
  client : later.clientOrderId = row.clientOrderId
  owner : later.ownerAccountId = row.ownerAccountId
  provider : row.openproviderId ≠ none → later.openproviderId ≠ none
  marker : ∀ id, later.providerOperationId = some id →
    row.providerOperationId = some id ∨ row.clientOrderId = some id

section
variable {fqdn : Fqdn} {change : DomainRow → DomainRow}

theorem changeRow_at (found : d.domains fqdn = some row) :
    changeRow w fqdn change d =
      touch w (.row fqdn) { d with domains := d.domains.put fqdn (change row) } := by
  simp [changeRow, found]

theorem changeRow_rule (before : P d)
    (written : ∀ row, d.domains fqdn = some row →
      P (touch w (.row fqdn) { d with domains := d.domains.put fqdn (change row) })) :
    P (changeRow w fqdn change d) := by
  cases found : d.domains fqdn with
  | none => simpa [changeRow, found] using before
  | some row => simpa only [changeRow_at found] using written row found

theorem changeRow_spares (different : other ≠ w)
    (rewrites : ∀ row, d.domains fqdn = some row → Rewrites row (change row))
    (failing : ∀ row id, d.domains fqdn = some row → Stale (change row) →
      row.clientOrderId = some id → Stale row ∨ d.known other (.order id) = false) :
    Spares other d (changeRow w fqdn change d) := by
  refine changeRow_rule (.refl other d) fun row found => ?_
  obtain ⟨client, owner, provider, marker⟩ := rewrites row found
  refine { Spares.refl other d with rows := ?_, order := ?_, row := ?_, failing := ?_ }
  · exact fun here before => put_relates found (fun _ known => ⟨rfl, known⟩)
      fun confirmed => ⟨client, provider confirmed⟩
  · intro id known
    refine ⟨by simpa [touch] using known, rfl, fun before later present there => ?_⟩
    rw [show d.orders id = some later from there] at present
    cases present
    rfl
  · intro here known
    have elsewhere : here ≠ fqdn := by
      rintro rfl
      simp [touch, different] at known
    exact ⟨by simpa [touch, elsewhere] using known, fun before present =>
      ⟨before, by simpa [touch, elsewhere] using present, (SameRow.refl before).seat⟩⟩
  · intro here later id present stale bound known
    by_cases same : here = fqdn
    · subst same
      have written : change row = later := by simpa [touch] using present
      subst written
      rw [client] at bound
      have still : d.known other (.order id) = true := by simpa [touch] using known
      rcases failing row id found stale bound with before | unknown
      · exact ⟨row, found, before, bound⟩
      · rw [unknown] at still
        cases still
    · exact ⟨later, by simpa [touch, same] using present, stale, bound⟩

end

section ChangeRow
variable {fqdn : Fqdn} {change : DomainRow → DomainRow}

theorem changeRow_ledgers (ledgers : Ledgers d) : Ledgers (changeRow w fqdn change d) := by
  refine changeRow_rule ledgers fun row found => ?_
  refine ⟨fun id order present => ?_, ledgers.payable, ledgers.unknown⟩
  obtain ⟨once, due, kept⟩ := ledgers.balanced id order present
  exact ⟨once, due, kept⟩

theorem changeRow_bindings (bindings : Bindings d)
    (rewrites : ∀ row, d.domains fqdn = some row → Rewrites row (change row))
    (vacant : ∀ row id order, d.domains fqdn = some row → Stale (change row) →
      d.orders id = some order → row.clientOrderId = some id →
      Stale row ∨ ¬ Seated order.status) :
    Bindings (changeRow w fqdn change d) := by
  refine changeRow_rule bindings fun row found => ?_
  obtain ⟨client, owner, provider, marker⟩ := rewrites row found
  refine ⟨?_, ?_, ?_⟩
  · intro id order present registers submitted
    obtain ⟨before, exist, bound, current, delivered⟩ :=
      bindings.seated id order present registers submitted
    by_cases same : order.fqdn = fqdn
    · rw [same, found] at exist
      cases exist
      refine ⟨change row, by simp [touch, same], client.trans bound, fun stale => ?_,
        fun active => provider (delivered active)⟩
      rcases vacant row id order found stale present bound with before | idle
      · exact current before
      · exact idle submitted
    · exact ⟨before, by simpa [touch, same] using exist, bound, current, delivered⟩
  · intro here later id present bound
    by_cases same : here = fqdn
    · subst same
      have written : change row = later := by simpa [touch] using present
      subst written
      rw [owner]
      exact bindings.named here row id found (client.symm.trans bound)
    · exact bindings.named here later id (by simpa [touch, same] using present) bound
  · intro here later id present marked
    by_cases same : here = fqdn
    · subst same
      have written : change row = later := by simpa [touch] using present
      subst written
      rcases marker id marked with before | bound
      · exact client.trans (bindings.marker here row id found before)
      · exact client.trans bound
    · exact bindings.marker here later id (by simpa [touch, same] using present) marked

theorem changeRow_seemly (seemly : Seemly d)
    (rewrites : ∀ row, d.domains fqdn = some row → Rewrites row (change row))
    (vacant : ∀ row id order, d.domains fqdn = some row → Stale (change row) →
      d.orders id = some order → row.clientOrderId = some id →
      Stale row ∨ ¬ Seated order.status) :
    Seemly (changeRow w fqdn change d) where
  bindings := changeRow_bindings seemly.bindings rewrites vacant
  ends := by
    refine changeRow_rule seemly.ends fun row found => ?_
    exact { seemly.ends with }
  traces := by
    refine changeRow_rule seemly.traces fun row found => ?_
    exact ⟨seemly.traces.1, seemly.traces.2⟩

end ChangeRow

theorem bindRow_spares (different : other ≠ w)
    (vacant : ∀ before, d.domains fqdn = some before → Stale before) (fresh : ¬ Stale row) :
    Spares other d (bindRow w fqdn row d) := by
  refine { Spares.refl other d with rows := ?_, order := ?_, row := ?_, failing := ?_ }
  · intro here before present
    by_cases same : here = fqdn
    · subst same
      exact ⟨row, put_same _ _ _, fun confirmed => absurd (vacant before present).1 confirmed⟩
    · exact ⟨before, by simpa [bindRow, touch, same] using present, fun known => ⟨rfl, known⟩⟩
  · intro id known
    refine ⟨by simpa [bindRow, touch] using known, rfl, fun before later present there => ?_⟩
    rw [show d.orders id = some later from there] at present
    cases present
    rfl
  · intro here known
    have elsewhere : here ≠ fqdn := by
      rintro rfl
      simp [bindRow, touch, different] at known
    exact ⟨by simpa [bindRow, touch, elsewhere] using known, fun before present =>
      ⟨before, by simpa [bindRow, touch, elsewhere] using present, (SameRow.refl before).seat⟩⟩
  · intro here later id present stale bound _
    by_cases same : here = fqdn
    · subst same
      have written : row = later := by simpa [bindRow, touch] using present
      exact absurd (written ▸ stale) fresh
    · exact ⟨later, by simpa [bindRow, touch, same] using present, stale, bound⟩

theorem bindRow_orderly {snapshot : DomainOrderRow} (orderly : Orderly d)
    (found : d.orders id = some order) (same : order.terms = snapshot.terms)
    (registers : order.action = .register)
    (vacant : ∀ before, d.domains snapshot.fqdn = some before → Stale before) :
    Orderly (bindRow w snapshot.fqdn (reservedRow id snapshot) d) := by
  have name := terms_fqdn same
  refine ⟨⟨⟨?_, ?_, ?_⟩, { orderly.ends with },
    ⟨orderly.traces.1, orderly.traces.2⟩⟩, ⟨fun here other present => ?_, orderly.ledgers.payable,
    orderly.ledgers.unknown⟩⟩
  · intro here other present other_registers submitted
    obtain ⟨before, exist, bound, current, delivered⟩ :=
      orderly.bindings.seated here other present other_registers submitted
    by_cases here_name : other.fqdn = snapshot.fqdn
    · rw [here_name] at exist
      exact absurd (vacant before exist) current
    · exact ⟨before, by simpa [bindRow, touch, here_name] using exist, bound, current, delivered⟩
  · intro fqdn later here present bound
    by_cases here_name : fqdn = snapshot.fqdn
    · subst here_name
      have written : reservedRow id snapshot = later := by simpa [bindRow, touch] using present
      subst written
      have named : id = here := by simpa [reservedRow] using bound
      subst named
      exact ⟨order, found, name, registers, terms_owner same⟩
    · exact orderly.bindings.named fqdn later here
        (by simpa [bindRow, touch, here_name] using present) bound
  · intro fqdn later here present marked
    by_cases here_name : fqdn = snapshot.fqdn
    · subst here_name
      have written : reservedRow id snapshot = later := by simpa [bindRow, touch] using present
      subst written
      simp [reservedRow] at marked
    · exact orderly.bindings.marker fqdn later here
        (by simpa [bindRow, touch, here_name] using present) marked
  · obtain ⟨once, due, kept⟩ := orderly.ledgers.balanced here other present
    exact ⟨once, due, kept⟩

theorem changeJob_spares {change : DomainJobRow → DomainJobRow} :
    Spares other d (changeJob key change d) := by
  unfold changeJob
  split
  · exact .refl other d
  · exact { Spares.refl other d with }

theorem changeJob_orderly {change : DomainJobRow → DomainJobRow} (orderly : Orderly d)
    (same : ∀ job, (change job).kind = job.kind ∧ (change job).resource = job.resource)
    (ended : ∀ id job order, key = .order id → d.jobs key = some job → d.orders id = some order →
      (change job).status.hasEnded → Concluded order ∨ ∃ w, d.owing w = some id) :
    Orderly (changeJob key change d) := by
  unfold changeJob
  cases found : d.jobs key with
  | none => exact orderly
  | some job =>
    refine ⟨⟨⟨orderly.bindings.1, orderly.bindings.2, orderly.bindings.3⟩, ⟨?_, ?_, ?_⟩,
      ⟨orderly.traces.1, orderly.traces.2⟩⟩, ⟨fun id order present => ?_,
      orderly.ledgers.payable, orderly.ledgers.unknown⟩⟩
    · intro here later present
      by_cases here_key : here = key
      · subst here_key
        have written : change job = later := by simpa using present
        subst written
        rw [(same job).1, (same job).2]
        exact orderly.ends.fits here job found
      · exact orderly.ends.fits here later (by simpa [here_key] using present)
    · intro id later listed
      by_cases here_key : JobKey.order id = key
      · subst here_key
        exact orderly.ends.present id job found
      · exact orderly.ends.present id later (by simpa [here_key] using listed)
    · intro id later order listed present past
      by_cases here_key : JobKey.order id = key
      · subst here_key
        have written : change job = later := by simpa using listed
        subst written
        exact ended id job order rfl found present past
      · exact orderly.ends.ended id later order (by simpa [here_key] using listed) present past
    · obtain ⟨once, due, kept⟩ := orderly.ledgers.balanced id order present
      exact ⟨once, due, kept⟩

theorem addReconcile_kept {availableAt : Time} {next : Registry} (orderly : Orderly d)
    (pending : ∀ id, key ≠ .order id) (added : addReconcile key fqdn availableAt d = .ok next) :
    Orderly next ∧ ∀ w, Spares w d next := by
  unfold addReconcile at added
  split at added
  · cases added
  cases added
  refine ⟨⟨⟨⟨orderly.bindings.1, orderly.bindings.2, orderly.bindings.3⟩, ⟨?_, ?_, ?_⟩,
    ⟨orderly.traces.1, orderly.traces.2⟩⟩, ⟨fun id order present => ?_,
    orderly.ledgers.payable, orderly.ledgers.unknown⟩⟩, fun w => { Spares.refl w d with }⟩
  · intro here later present
    by_cases here_key : here = key
    · subst here_key
      have written := Option.some.inj ((put_same _ _ _).symm.trans present)
      subst written
      exact ⟨iff_of_false nofun (pending _), fun id same => absurd same (pending id)⟩
    · exact orderly.ends.fits here later (by simpa [here_key] using present)
  · intro id later listed
    have different : JobKey.order id ≠ key := fun same => pending id same.symm
    exact orderly.ends.present id later (by simpa [different] using listed)
  · intro id later order listed present past
    have different : JobKey.order id ≠ key := fun same => pending id same.symm
    exact orderly.ends.ended id later order (by simpa [different] using listed) present past
  · obtain ⟨once, due, kept⟩ := orderly.ledgers.balanced id order present
    exact ⟨once, due, kept⟩

end Primitives

end HyruleCloud
