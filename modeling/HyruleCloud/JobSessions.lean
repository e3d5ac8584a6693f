import HyruleCloud.LostUpdates

/-!
What each session of the domain worker does while it loses no update. An execution
relies on an order or a row only as long as nobody else has written it
(`Stands`, `HoldsRow`), and each session keeps the tables orderly, spares the other
executions, and says what it leaves to its own.
-/

namespace HyruleCloud

open Interaction

/-- One step of execution `w`. -/
structure Keeping (w : ProcessId) (a b : Registry) : Prop where
  orderly : Orderly b
  spares : ∀ other, other ≠ w → Spares other a b

/-- As far as `w` knows the order, its refund is not recorded and its status is in `stage`. -/
def Stands (w : ProcessId) (id : OrderId) (stage : OrderStatus → Prop) (d : Registry) : Prop :=
  d.known w (.order id) = true →
    refundsOwed id d = 0 ∧ ∃ order, d.orders id = some order ∧ stage order.status

/-- As far as `w` knows the row, it names the order. -/
def HoldsRow (w : ProcessId) (id : OrderId) (fqdn : Fqdn) (d : Registry) : Prop :=
  d.known w (.row fqdn) = true →
    ∃ row, d.domains fqdn = some row ∧ row.clientOrderId = some id

/-- As far as `w` knows the order, no failure of it has given its row away. -/
def Unfailed (w : ProcessId) (id : OrderId) (fqdn : Fqdn) (d : Registry) : Prop :=
  d.known w (.order id) = true →
    ∀ row, d.domains fqdn = some row → row.clientOrderId = some id → ¬ Stale row

/-- The row as `w` knows it. -/
def Sees (w : ProcessId) (fqdn : Fqdn) (row : DomainRow) (d : Registry) : Prop :=
  d.known w (.row fqdn) = true → ∃ later, d.domains fqdn = some later ∧ SameSeat row later

def Exists (id : OrderId) (order : DomainOrderRow) (d : Registry) : Prop :=
  ∃ later, d.orders id = some later ∧ later.terms = order.terms

def Registered (id : OrderId) (fqdn : Fqdn) (d : Registry) : Prop :=
  ∃ row, d.domains fqdn = some row ∧ row.clientOrderId = some id ∧ row.openproviderId ≠ none

def Provided (fqdn : Fqdn) (d : Registry) : Prop :=
  ∃ row, d.domains fqdn = some row ∧ row.openproviderId ≠ none

def Concludes (id : OrderId) (d : Registry) : Prop :=
  ∀ order, d.orders id = some order → Concluded order

variable {stage : OrderStatus → Prop} {row : DomainRow} {order : DomainOrderRow} {next : Registry}

variable {id : OrderId} {fqdn : Fqdn}

section Stability
variable {w : ProcessId} {a b : Registry} (spares : Spares w a b)
include spares

theorem stands_spared (stands : Stands w id stage a) : Stands w id stage b := by
  intro known
  obtain ⟨before, counts, status⟩ := spares.order id known
  obtain ⟨unpaid, order, found, stage_of⟩ := stands before
  obtain ⟨later, there, _⟩ := spares.orders id order found
  exact ⟨counts.trans unpaid, later, there, by rw [status order later found there]; exact stage_of⟩

theorem holds_spared (holds : HoldsRow w id fqdn a) :
    HoldsRow w id fqdn b := by
  intro known
  obtain ⟨before, row_of⟩ := spares.row fqdn known
  obtain ⟨row, found, bound⟩ := holds before
  obtain ⟨later, there, same⟩ := row_of row found
  exact ⟨later, there, same.client.trans bound⟩

theorem unfailed_spared (unfailed : Unfailed w id fqdn a) :
    Unfailed w id fqdn b := by
  intro known later there bound stale
  obtain ⟨row, found, before, named⟩ := spares.failing fqdn later id there stale bound known
  exact unfailed (spares.order id known).1 row found named before

theorem sees_spared (sees : Sees w fqdn row a) : Sees w fqdn row b := by
  intro known
  obtain ⟨before, row_of⟩ := spares.row fqdn known
  obtain ⟨middle, found, same⟩ := sees before
  obtain ⟨later, there, still⟩ := row_of middle found
  exact ⟨later, there, same.trans still⟩

theorem exists_spared (present : Exists id order a) : Exists id order b := by
  obtain ⟨middle, found, same⟩ := present
  obtain ⟨later, there, proceeds⟩ := spares.orders id middle found
  exact ⟨later, there, proceeds.terms.trans same⟩

theorem registered_spared (registered : Registered id fqdn a) :
    Registered id fqdn b := by
  obtain ⟨row, found, bound, known⟩ := registered
  obtain ⟨later, there, confirmed⟩ := spares.rows fqdn row found
  obtain ⟨same, still⟩ := confirmed known
  exact ⟨later, there, same.trans bound, still⟩

theorem provided_spared (provided : Provided fqdn a) : Provided fqdn b := by
  obtain ⟨row, found, known⟩ := provided
  obtain ⟨later, there, confirmed⟩ := spares.rows fqdn row found
  exact ⟨later, there, (confirmed known).2⟩

theorem concludes_spared {id : OrderId} {order : DomainOrderRow} (present : Exists id order a)
    (concludes : Concludes id a) : Concludes id b := by
  obtain ⟨middle, found, _⟩ := present
  obtain ⟨later, there, proceeds⟩ := spares.orders id middle found
  intro last last_found
  rw [there] at last_found
  cases last_found
  exact proceeds.concluded (concludes middle found)

end Stability

section Keeping
variable {w : ProcessId} {a b c : Registry}

theorem Keeping.refl (orderly : Orderly a) : Keeping w a a := ⟨orderly, fun other _ => .refl other a⟩

theorem Keeping.trans (first : Keeping w a b) (second : Keeping w b c) : Keeping w a c :=
  ⟨second.orderly, fun other different =>
    (first.spares other different).trans (second.spares other different)⟩

theorem beside_keeping (orderly : Orderly a) (beside : Beside a b) (known : b.known = a.known)
    (marked : b.marked = a.marked) : Keeping w a b :=
  ⟨beside_orderly beside orderly, fun _ _ =>
    beside_spares beside (fun item now => by rwa [known] at now) (by rw [marked])⟩

end Keeping

variable {β : Type}

variable {later : DomainOrderRow} {config : DomainConfig}

section Sessions
variable {w : ProcessId} {d : Registry}

theorem look_keeping (orderly : Orderly d) (item : Item) : Keeping w d (look w item d) :=
  ⟨beside_orderly (look_beside item) orderly, fun _ different => look_spares different item⟩

theorem changeOperation_keeping (orderly : Orderly d) (id : OrderId)
    (change : DomainOperationRow → DomainOperationRow) :
    Keeping w d (changeOperation id change d) :=
  beside_keeping orderly (changeOperation_beside id change) (changeOperation_known id change).1
    (changeOperation_known id change).2

theorem changeOperation_spares (id : OrderId) (change : DomainOperationRow → DomainOperationRow) :
    Spares w d (changeOperation id change d) :=
  beside_spares (changeOperation_beside id change)
    (fun item now => by rwa [(changeOperation_known id change).1] at now)
    (by rw [(changeOperation_known id change).2])

theorem noteRow_known (fqdn : Fqdn) (change : DomainRow → DomainRow) :
    (noteRow fqdn change d).known = d.known ∧ (noteRow fqdn change d).marked = d.marked := by
  unfold noteRow
  split <;> exact ⟨rfl, rfl⟩

theorem noteOrder_known (id : OrderId) (change : DomainOrderRow → DomainOrderRow) :
    (noteOrder id change d).known = d.known ∧ (noteOrder id change d).marked = d.marked := by
  unfold noteOrder
  split <;> exact ⟨rfl, rfl⟩

theorem changeOrder_keeping {change : DomainOrderRow → DomainOrderRow}
    (orderly : Orderly d) (stands : Stands w id stage d) (known : d.known w (.order id) = true)
    (advances : ∀ order, d.orders id = some order → stage order.status → ¬ Due order.status →
      Proceeds order (change order) ∧ ¬ Due (change order).status ∧
        Sits id order (change order).status d) : Keeping w d (changeOrder w id change d) := by
  obtain ⟨unpaid, order, found, stage_of⟩ := stands known
  have still : ¬ Due order.status := fun due => by
    have once := (orderly.ledgers.balanced id order found).due due
    omega
  obtain ⟨proceeds, unrefunded, sits⟩ := advances order found stage_of still
  have one {P : DomainOrderRow → Prop} (holds : P order) :
      ∀ here, d.orders id = some here → P here := by
    intro here present
    rw [found] at present
    cases present
    exact holds
  exact ⟨⟨changeOrder_seemly orderly.toSeemly (one proceeds)
      (one (P := fun order => Sits id order (change order).status d) sits),
    changeOrder_ledgers orderly.ledgers (one (P := fun order => (change order).terms = order.terms)
      proceeds.terms) (one (P := fun order => Ledger id (change order) d)
      (ledger_unpaid unpaid unrefunded))⟩, fun other different =>
      changeOrder_spares different (one proceeds)⟩

theorem changeOrder_stands {change : DomainOrderRow → DomainOrderRow}
    {next : OrderStatus → Prop} (stands : Stands w id stage d)
    (known : d.known w (.order id) = true)
    (becomes : ∀ order, d.orders id = some order → stage order.status → next (change order).status)
    :
    Stands w id next (changeOrder w id change d) := by
  intro _
  obtain ⟨unpaid, order, found, stage_of⟩ := stands known
  rw [changeOrder_at found]
  exact ⟨unpaid, change order, put_same _ _ _, becomes order found stage_of⟩

section ChangeOrder
variable {id : OrderId} {change : DomainOrderRow → DomainOrderRow}

@[simp] theorem changeOrder_order :
    (changeOrder w id change d).orders id = (d.orders id).map change := by
  cases found : d.orders id <;> simp [changeOrder, found, touch]

@[simp] theorem changeOrder_domains : (changeOrder w id change d).domains = d.domains := by
  unfold changeOrder
  split <;> rfl

@[simp] theorem changeOrder_events : (changeOrder w id change d).events = d.events := by
  unfold changeOrder
  split <;> rfl

@[simp] theorem changeOrder_owing : (changeOrder w id change d).owing = d.owing := by
  unfold changeOrder
  split <;> rfl

@[simp] theorem changeOrder_knows_row (fqdn : Fqdn) :
    (changeOrder w id change d).known w (.row fqdn) = d.known w (.row fqdn) := by
  unfold changeOrder
  split
  · rfl
  · simp [touch]

end ChangeOrder

section ChangeOperation
variable {id : OrderId} {change : DomainOperationRow → DomainOperationRow}

@[simp] theorem changeOperation_orders : (changeOperation id change d).orders = d.orders := by
  unfold changeOperation
  split
  · rfl
  · split <;> rfl

@[simp] theorem changeOperation_domains : (changeOperation id change d).domains = d.domains := by
  unfold changeOperation
  split
  · rfl
  · split <;> rfl

@[simp] theorem changeOperation_events : (changeOperation id change d).events = d.events := by
  unfold changeOperation
  split
  · rfl
  · split <;> rfl

@[simp] theorem changeOperation_owing : (changeOperation id change d).owing = d.owing := by
  unfold changeOperation
  split
  · rfl
  · split <;> rfl

@[simp] theorem changeOperation_knows : (changeOperation id change d).known = d.known :=
  (changeOperation_known id change).1

end ChangeOperation

theorem changeRow_keeping {change : DomainRow → DomainRow} (orderly : Orderly d)
    (rewrites : ∀ row, d.domains fqdn = some row → Rewrites row (change row))
    (current : ∀ row, d.domains fqdn = some row → Stale (change row) → Stale row) :
    Keeping w d (changeRow w fqdn change d) where
  orderly := ⟨changeRow_seemly orderly.toSeemly rewrites fun row _ _ found stale _ _ =>
    Or.inl (current row found stale), changeRow_ledgers orderly.ledgers⟩
  spares _ different := changeRow_spares different rewrites fun row _ found stale _ =>
    Or.inl (current row found stale)

section ChangeRow
variable {fqdn : Fqdn} {change : DomainRow → DomainRow}

@[simp] theorem changeRow_orders : (changeRow w fqdn change d).orders = d.orders := by
  unfold changeRow
  split <;> rfl

@[simp] theorem changeRow_events : (changeRow w fqdn change d).events = d.events := by
  unfold changeRow
  split <;> rfl

@[simp] theorem changeRow_owing : (changeRow w fqdn change d).owing = d.owing := by
  unfold changeRow
  split <;> rfl

@[simp] theorem changeRow_knows_order (other : ProcessId) (id : OrderId) :
    (changeRow w fqdn change d).known other (.order id) = d.known other (.order id) := by
  unfold changeRow
  split
  · rfl
  · simp [touch]

@[simp] theorem changeRow_row :
    (changeRow w fqdn change d).domains fqdn = (d.domains fqdn).map change := by
  cases found : d.domains fqdn <;> simp [changeRow, found, touch]

theorem changeRow_stands (stands : Stands w id stage d) :
    Stands w id stage (changeRow w fqdn change d) := by
  intro known
  simp only [changeRow_knows_order] at known
  simpa [refundsOwed] using stands known

end ChangeRow

theorem addEntry_keeping (orderly : Orderly d) {entry : Entry}
    (same : entry.written = entry.obtained) : Keeping w d (addEntry entry d) := by
  refine ⟨⟨⟨⟨orderly.bindings.1, orderly.bindings.2, orderly.bindings.3⟩,
    { orderly.ends with }, ⟨orderly.traces.1, ?_⟩⟩,
    ⟨fun id order found => ?_, orderly.ledgers.payable, orderly.ledgers.unknown⟩⟩,
    fun other _ => { Spares.refl other d with }⟩
  · intro here member
    rcases List.mem_cons.mp member with rfl | before
    · exact same
    · exact orderly.traces.entries here before
  · obtain ⟨once, due, kept⟩ := orderly.ledgers.balanced id order found
    exact ⟨once, due, kept⟩

theorem addEntry_spares (entry : Entry) (other : ProcessId) : Spares other d (addEntry entry d) :=
  { Spares.refl other d with }

theorem proceeds_idle (terms : later.terms = order.terms)
    (open' : order.status ≠ .active) (waiting : order.status ≠ .providerPending)
    (unpaid : ¬ Due order.status) : Proceeds order later where
  terms := terms
  concluded := by
    rintro (waived | active | pending | due)
    · exact Or.inl (by rw [terms_billing terms]; exact waived)
    · exact absurd active open'
    · exact absurd pending waiting
    · exact absurd due unpaid
  due due := absurd due unpaid
  active _ active := absurd active open'

theorem proceeds_concluding (terms : later.terms = order.terms)
    (concluded : Concluded later) (unpaid : ¬ Due order.status)
    (active : order.vmQuoteId = none → order.status = .active → later.status = .active) :
    Proceeds order later where
  terms := terms
  concluded _ := concluded
  due due := absurd due unpaid
  active := active

/-- The order has been claimed for fulfilment and not submitted. -/
def Checking (status : OrderStatus) : Prop := status = .checking

def Underway (status : OrderStatus) : Prop := status = .checking ∨ status = .submitting

def Awaiting (status : OrderStatus) : Prop := status = .submitting ∨ status = .providerPending

theorem startChecking_keeps (orderly : Orderly d)
    (stands : Stands w id (fun status => status ≠ .active ∧ status ≠ .providerPending) d)
    (known : d.known w (.order id) = true) (done : startChecking w id d = .ok (next, ())) :
    Keeping w d next ∧ Stands w id Checking next := by
  cases done
  have wrote : Keeping w d (changeOrder w id (fun order => { order with status := .checking }) d) :=
    changeOrder_keeping orderly stands known fun order _ idle unpaid =>
      ⟨proceeds_idle rfl idle.1 idle.2 unpaid, by simp [Due], by simp [Sits, Seated]⟩
  refine ⟨wrote.trans (changeOperation_keeping wrote.orderly id _), ?_⟩
  exact stands_spared (changeOperation_spares id _)
    (changeOrder_stands stands known fun _ _ _ => rfl)

theorem reserved_fresh (id : OrderId) (order : DomainOrderRow) : ¬ Stale (reservedRow id order) := by
  simp [Stale, reservedRow]

theorem bindRow_keeping (orderly : Orderly d) (present : Exists id order d)
    (registers : order.action = .register)
    (vacant : ∀ before, d.domains order.fqdn = some before → Stale before) :
    Keeping w d (bindRow w order.fqdn (reservedRow id order) d) := by
  obtain ⟨current, found, same⟩ := present
  exact ⟨bindRow_orderly orderly found same ((terms_action same).trans registers) vacant,
    fun _ different => bindRow_spares different vacant (reserved_fresh id order)⟩

theorem bindRow_unfailed :
    Unfailed w id order.fqdn (bindRow w order.fqdn (reservedRow id order) d) := by
  intro _ row found _
  have written : reservedRow id order = row := by simpa [bindRow, touch] using found
  exact written ▸ reserved_fresh id order

theorem bindRow_stands {other : OrderId} (stands : Stands w other stage d) :
    Stands w other stage (bindRow w fqdn row d) := by
  intro known
  have before : d.known w (.order other) = true := by simpa [bindRow, touch] using known
  exact stands before

theorem look_stands (stands : Stands w id stage d) :
    Stands w id stage (look w (.row fqdn) d) := by
  intro known
  have before : d.known w (.order id) = true := by simpa [look] using known
  exact stands before

theorem look_unfailed {name : Fqdn} (unfailed : Unfailed w id fqdn d) :
    Unfailed w id fqdn (look w (.row name) d) := by
  intro known
  have before : d.known w (.order id) = true := by simpa [look] using known
  exact unfailed before

theorem look_sees (found : d.domains fqdn = some row) :
    Sees w fqdn row (look w (.row fqdn) d) :=
  fun _ => ⟨row, found, (SameRow.refl row).seat⟩

theorem sees_holds (sees : Sees w fqdn row d)
    (bound : row.clientOrderId = some id) : HoldsRow w id fqdn d := by
  intro known
  obtain ⟨later, found, same⟩ := sees known
  exact ⟨later, found, same.client.trans bound⟩

theorem reserveDomain_keeps {reply : Reserved} (orderly : Orderly d)
    (present : Exists id order d) (registers : order.action = .register)
    (stands : Stands w id stage d) (done : reserveDomain w id order d = .ok (next, reply)) :
    Keeping w d next ∧ Stands w id stage next ∧ Unfailed w id order.fqdn next ∧
      ∀ row, reply = .found row → Sees w order.fqdn row next := by
  unfold reserveDomain at done
  cases found : d.domains order.fqdn with
  | none =>
    simp only [found] at done
    cases done
    refine ⟨.refl orderly, stands, fun _ row there => ?_, fun _ same => by cases same⟩
    rw [found] at there
    cases there
  | some row =>
    simp only [found] at done
    split at done
    · rename_i stale
      cases done
      refine ⟨bindRow_keeping orderly present registers fun before there => ?_,
        bindRow_stands stands, bindRow_unfailed, fun _ same => by cases same⟩
      rw [found] at there
      cases there
      exact stale
    · rename_i current
      cases done
      refine ⟨look_keeping orderly _, look_stands stands, look_unfailed fun _ here there _ => ?_,
        fun seen same => ?_⟩
      · rw [found] at there
        cases there
        exact current
      · cases same
        exact look_sees found

theorem insertDomain_keeps {reply : Bool} (orderly : Orderly d)
    (present : Exists id order d) (registers : order.action = .register)
    (stands : Stands w id stage d) (unfailed : Unfailed w id order.fqdn d)
    (done : insertDomain w id order d = .ok (next, reply)) :
    Keeping w d next ∧ Stands w id stage next ∧ Unfailed w id order.fqdn next := by
  unfold insertDomain at done
  cases found : d.domains order.fqdn with
  | some row =>
    simp only [found] at done
    cases done
    exact ⟨.refl orderly, stands, unfailed⟩
  | none =>
    simp only [found] at done
    cases done
    refine ⟨bindRow_keeping orderly present registers fun before there => ?_,
      bindRow_stands stands, bindRow_unfailed⟩
    rw [found] at there
    cases there

theorem mark_keeping (orderly : Orderly d) (mark : Option Mark) :
    Keeping w d { d with marked := Function.update d.marked w mark } := by
  have beside : Beside d { d with marked := Function.update d.marked w mark } :=
    { Beside.refl d with }
  exact ⟨beside_orderly beside orderly, fun other different =>
    beside_spares beside (fun _ now => now) (Function.update_of_ne different _ _)⟩

theorem writes_keeping (fqdn : Fqdn) (mark : DomainRow → DomainRow)
    (state : DomainOrderRow → DomainOrderRow) (orderly : Orderly d) (stands : Stands w id stage d)
    (known : d.known w (.order id) = true)
    (rewrites : ∀ row, d.domains fqdn = some row → Rewrites row (mark row))
    (current : ∀ row, d.domains fqdn = some row → Stale (mark row) → Stale row)
    (advances : ∀ order, d.orders id = some order → stage order.status → ¬ Due order.status →
      Proceeds order (state order) ∧ ¬ Due (state order).status ∧
        Sits id order (state order).status (changeRow w fqdn mark d)) :
    Keeping w d (changeOrder w id state (changeRow w fqdn mark d)) := by
  have first : Keeping w d (changeRow w fqdn mark d) := changeRow_keeping orderly rewrites current
  exact first.trans (changeOrder_keeping first.orderly (changeRow_stands stands)
    (by simpa using known) (by simpa using advances))

theorem writes_sits {snapshot : DomainOrderRow} {status : OrderStatus}
    {mark : DomainRow → DomainRow} (same : order.terms = snapshot.terms)
    (found : d.domains snapshot.fqdn = some row) (seats : Seats id status (mark row)) :
    Sits id order status (changeRow w snapshot.fqdn mark d) := by
  intro _ _
  exact ⟨mark row, by rw [terms_fqdn same]; simp [found], seats⟩

theorem markSubmitted_keeps (orderly : Orderly d) (present : Exists id order d)
    (stands : Stands w id Checking d) (holds : HoldsRow w id order.fqdn d)
    (unfailed : Unfailed w id order.fqdn d) (known : d.known w (.order id) = true)
    (knows : d.known w (.row order.fqdn) = true)
    (done : markSubmitted w id order.fqdn d = .ok (next, ())) :
    Keeping w d next ∧ Stands w id Underway next ∧ HoldsRow w id order.fqdn next ∧
      next.marked w = some ⟨id, some id⟩ := by
  obtain ⟨row, found, bound⟩ := holds knows
  have current := unfailed known row found bound
  obtain ⟨later, exist, same⟩ := present
  obtain ⟨unpaid, _, _, _⟩ := stands known
  cases done
  have wrote := writes_keeping order.fqdn (fun row => { row with providerOperationId := some id })
    (fun order => { order with status := .submitting }) orderly stands known
    (fun here there => by
      rw [found] at there
      cases there
      refine ⟨rfl, rfl, fun known => known, fun other marked => Or.inr ?_⟩
      cases marked
      exact bound)
    (fun _ _ stale => stale)
    (fun here there checking unpaid => by
      rw [exist] at there
      cases there
      have now : later.status = .checking := checking
      exact ⟨proceeds_idle rfl (by simp [now]) (by simp [now]) unpaid, by simp [Due],
        writes_sits same found ⟨bound, current, nofun⟩⟩)
  refine ⟨wrote.trans (mark_keeping wrote.orderly _), fun _ => ?_, fun _ => ?_, by simp [found, bound]⟩
  · exact ⟨by simpa [refundsOwed] using unpaid, { later with status := .submitting }, by simp [exist],
      Or.inr rfl⟩
  · exact ⟨{ row with providerOperationId := some id }, by simp [found], bound⟩

theorem addPending_keeps {active : Bool}
    {now : Time} {d : Registry} (orderly : Orderly d)
    (done : addPending config id fqdn active now d = .ok next) :
    Keeping w d next ∧ Spares w d next := by
  unfold addPending at done
  split at done
  · cases done
    exact ⟨.refl orderly, .refl w _⟩
  · obtain ⟨after, spares⟩ := addReconcile_kept orderly (fun _ same => by cases same) done
    exact ⟨⟨after, fun other _ => spares other⟩, spares w⟩

theorem except_map {α : Type} {f : α → β} {result : Except Err α} {value : β}
    (mapped : result.map f = .ok value) : ∃ before, result = .ok before ∧ f before = value := by
  cases result with
  | error error => cases mapped
  | ok before =>
    cases mapped
    exact ⟨before, rfl, rfl⟩

theorem recordRegistration_keeps {provider : ProviderId}
    {result : ProviderResult} {now : Time} (orderly : Orderly d) (present : Exists id order d)
    (stands : Stands w id Underway d) (holds : HoldsRow w id order.fqdn d)
    (known : d.known w (.order id) = true) (knows : d.known w (.row order.fqdn) = true)
    (done : recordRegistration config w id order.fqdn provider result now d = .ok (next, ())) :
    Keeping w d next ∧ Registered id order.fqdn next ∧
      (result.status.isActive = true → Stands w id (· = .submitting) next) ∧
      (result.status.isActive = false → Concludes id next) := by
  obtain ⟨row, found, bound⟩ := holds knows
  obtain ⟨later, exist, same⟩ := present
  obtain ⟨unpaid, _, _, _⟩ := stands known
  simp only [recordRegistration, found] at done
  obtain ⟨last, added, finished⟩ := except_map done
  cases finished
  have zeroth : Keeping w d (addEntry ⟨some id, row.clientOrderId⟩ d) :=
    addEntry_keeping orderly bound
  have wrote := writes_keeping order.fqdn (registeredRow provider result)
    (registeredOrder provider result) zeroth.orderly (stands_spared (addEntry_spares _ w) stands) known
    (fun _ _ => ⟨rfl, rfl, fun _ => by simp [registeredRow], fun _ marked => Or.inl marked⟩)
    (fun _ _ stale => by simp [Stale, registeredRow] at stale)
    (fun here there underway unpaid => by
      have now : here.status ≠ .active ∧ here.status ≠ .providerPending := by
        rcases underway with now | now <;> simp [now]
      have same_order := Option.some.inj (exist.symm.trans there)
      subst same_order
      refine ⟨proceeds_idle rfl now.1 now.2 unpaid, ?_,
        writes_sits same found ⟨bound, by simp [Stale, registeredRow], by simp [registeredRow]⟩⟩
      simp only [registeredOrder]
      split <;> simp [Due])
  have noted := changeOperation_keeping (w := w) wrote.orderly id
    (.is (if result.status.isActive then .running else .waitingProvider))
  obtain ⟨pending, spared⟩ := addPending_keeps (w := w) noted.orderly added
  refine ⟨((zeroth.trans wrote).trans noted).trans pending, registered_spared spared ?_,
    fun active => stands_spared spared fun _ => ?_, fun inactive => ?_⟩
  · exact ⟨registeredRow provider result row, by simp [addEntry, found], bound,
      by simp [registeredRow]⟩
  · exact ⟨by simpa [refundsOwed, addEntry] using unpaid, registeredOrder provider result later,
      by simp [addEntry, exist], by simp [registeredOrder, active]⟩
  · refine @concludes_spared w _ _ spared id order
      ⟨registeredOrder provider result later, by simp [addEntry, exist], same⟩ fun here there => ?_
    have written : registeredOrder provider result later = here := by
      simpa [addEntry, exist] using there
    subst written
    exact Or.inr (Or.inr (Or.inl (by simp [registeredOrder, inactive])))

/-! Sessions that write nothing anybody relies on. -/

def Unobtrusive {β : Type} (tx : Transaction Registry β) : Prop :=
  ∀ d next value, tx d = .ok (next, value) →
    Beside d next ∧ next.known = d.known ∧ next.marked = d.marked

theorem unobtrusive_keeps {tx : Transaction Registry β} {value : β}
    (unobtrusive : Unobtrusive tx) (orderly : Orderly d) (done : tx d = .ok (next, value)) :
    Keeping w d next ∧ Spares w d next := by
  obtain ⟨beside, known, marked⟩ := unobtrusive d next value done
  exact ⟨beside_keeping orderly beside known marked,
    beside_spares beside (fun item now => by rwa [known] at now) (by rw [marked])⟩

theorem noteRow_unobtrusive (fqdn : Fqdn) (change : DomainRow → DomainRow)
    (seat : ∀ row, SameSeat row (change row))
    (status : ∀ row, (change row).status = row.status ∨ (change row).status ≠ .failed) :
    Unobtrusive fun d => .ok (noteRow fqdn change d, ()) := by
  intro d next value done
  cases done
  refine ⟨noteRow_beside fun row _ => ⟨seat row, fun stale => ?_⟩, noteRow_known fqdn change⟩
  rcases status row with same | other
  · exact ⟨(seat row).provider.symm.trans stale.1, same.symm.trans stale.2⟩
  · exact absurd stale.2 other

theorem noteOrder_unobtrusive (id : OrderId) (change : DomainOrderRow → DomainOrderRow)
    (same : ∀ order, SameOrder order (change order)) :
    Unobtrusive fun d => .ok (noteOrder id change d, ()) := by
  intro d next value done
  cases done
  exact ⟨noteOrder_beside fun order _ => same order, noteOrder_known id change⟩

theorem recordZone_unobtrusive (fqdn : Fqdn) : Unobtrusive (recordZone fqdn) :=
  noteRow_unobtrusive fqdn _ (fun _ => ⟨rfl, rfl, rfl, rfl⟩) fun _ => Or.inl rfl

theorem recordZoneError_unobtrusive (fqdn : Fqdn) : Unobtrusive (recordZoneError fqdn) :=
  noteRow_unobtrusive fqdn _ (fun _ => ⟨rfl, rfl, rfl, rfl⟩) fun _ => Or.inl rfl

theorem activateDomain_unobtrusive (fqdn : Fqdn) : Unobtrusive (activateDomain fqdn) := by
  refine noteRow_unobtrusive fqdn _ (fun row => ?_) fun row => ?_
  · split <;> exact ⟨rfl, rfl, rfl, rfl⟩
  · split
    · exact Or.inl rfl
    · exact Or.inr nofun

theorem onTables_unobtrusive {tx : Transaction Store β}
    (tables : ∀ s next value, tx s = .ok (next, value) →
      next.orders = s.orders ∧ next.jobs = s.jobs ∧ next.events = s.events ∧
        ∀ fqdn, next.domains fqdn = s.domains fqdn ∨ ∃ row vm, s.domains fqdn = some row ∧
          next.domains fqdn = some { row with vmId := vm, vmIpv6 := false }) :
    Unobtrusive (onTables tx) := by
  intro d next value done
  unfold onTables at done
  split at done
  · rename_i s _ ran
    cases done
    obtain ⟨orders, jobs, events, domains⟩ := tables d.toStore s _ ran
    refine ⟨⟨?_, ?_, ?_, ?_, fun id => ?_, jobs, rfl, rfl, rfl⟩, rfl, rfl⟩
    · exact fun id order found => ⟨order, by simpa [orders] using found, .refl order⟩
    · exact fun id absent => by simpa [orders] using absent
    · intro fqdn row found
      rcases domains fqdn with same | ⟨before, vm, there, written⟩
      · exact ⟨row, same.trans found, .refl row⟩
      · have same := Option.some.inj (there.symm.trans found)
        subst same
        exact ⟨_, written, ⟨rfl, rfl, rfl, rfl⟩, fun stale => stale⟩
    · intro fqdn absent
      rcases domains fqdn with same | ⟨before, vm, there, _⟩
      · exact same.trans absent
      · rw [absent] at there
        cases there
    · simp [refundsOwed, events]
  · cases done

theorem detached_rows (vm : VmId) (s : Store) (fqdn : Fqdn) :
    (s.domains fqdn).map (detachPlanned vm) = s.domains fqdn ∨
      ∃ row vmId, s.domains fqdn = some row ∧
        (s.domains fqdn).map (detachPlanned vm) = some { row with vmId := vmId, vmIpv6 := false } := by
  cases found : s.domains fqdn with
  | none => exact Or.inl rfl
  | some row =>
    by_cases planned : row.vmId = some vm ∧ row.vmIpv6 = false
    · refine Or.inr ⟨row, none, rfl, ?_⟩
      simp [detachPlanned, planned]
    · exact Or.inl (by simp [detachPlanned, planned])

theorem vms_unobtrusive {tx : Transaction Store β}
    (tables : ∀ s next value, tx s = .ok (next, value) →
      next.orders = s.orders ∧ next.jobs = s.jobs ∧ next.events = s.events ∧
        next.domains = s.domains) : Unobtrusive (onTables tx) :=
  onTables_unobtrusive fun s next value done => by
    obtain ⟨orders, jobs, events, domains⟩ := tables s next value done
    exact ⟨orders, jobs, events, fun fqdn => Or.inl (by rw [domains])⟩

theorem reservePlannedVm_tables (vm : VmId) (args : InsertArgs) (s next : Store) (value : Unit)
    (done : reservePlannedVm vm args s = .ok (next, value)) :
    next.orders = s.orders ∧ next.jobs = s.jobs ∧ next.events = s.events ∧
      next.domains = s.domains := by
  simp only [reservePlannedVm, insertVmRow] at done
  split at done
  · split at done <;> cases done
    exact ⟨rfl, rfl, rfl, rfl⟩
  · split at done
    · cases done
    · split at done <;> cases done
      exact ⟨rfl, rfl, rfl, rfl⟩

theorem activateVmReservation_tables (vm : VmId) (args : ActivateArgs) (s next : Store)
    (value : Bool) (done : activateVmReservation vm args s = .ok (next, value)) :
    next.orders = s.orders ∧ next.jobs = s.jobs ∧ next.events = s.events ∧
      next.domains = s.domains := by
  simp only [activateVmReservation] at done
  split at done
  · cases done
    exact ⟨rfl, rfl, rfl, rfl⟩
  · split at done <;> cases done
    exact ⟨rfl, rfl, rfl, rfl⟩

theorem claimVmAttachment_unobtrusive (owner : Option AccountId) (fqdn : Fqdn) (vm : VmId)
    (apexInUse : Bool) : Unobtrusive (onTables (claimVmAttachment owner fqdn vm apexInUse)) := by
  refine onTables_unobtrusive fun s next value done => ?_
  simp only [claimVmAttachment] at done
  repeat' split at done
  all_goals cases done
  · exact ⟨rfl, rfl, rfl, fun _ => Or.inl rfl⟩
  · rename_i row found _ _ _ _ _ _
    refine ⟨rfl, rfl, rfl, fun other => ?_⟩
    by_cases same : other = fqdn
    · subst same
      exact Or.inr ⟨row, some vm, found, put_same _ _ _⟩
    · exact Or.inl (put_other _ _ same)

theorem releaseVmReservation_unobtrusive (vm : VmId) :
    Unobtrusive (onTables (releaseVmReservation vm)) := by
  refine onTables_unobtrusive fun s next value done => ?_
  simp only [releaseVmReservation] at done
  split at done
  · cases done
    exact ⟨rfl, rfl, rfl, fun _ => Or.inl rfl⟩
  · split at done <;> cases done
    · exact ⟨rfl, rfl, rfl, detached_rows vm s⟩
    · exact ⟨rfl, rfl, rfl, fun _ => Or.inl rfl⟩

theorem releaseVmAttachmentClaim_unobtrusive (vm : VmId) :
    Unobtrusive (onTables (releaseVmAttachmentClaim vm)) := by
  refine onTables_unobtrusive fun s next value done => ?_
  cases done
  exact ⟨rfl, rfl, rfl, detached_rows vm s⟩

theorem bundle_unobtrusive (request : BundleReq β) (choice : JobChoice) :
    Unobtrusive (bundleTransaction request choice) := by
  cases request with
  | planBundle id =>
    intro d next value done
    simp only [bundleTransaction, planBundle] at done
    split at done
    · cases done
      exact ⟨.refl d, rfl, rfl⟩
    · split at done
      · cases done
        exact ⟨.refl d, rfl, rfl⟩
      · split at done <;> cases done
        exact ⟨noteOrder_beside fun _ _ => ⟨rfl, rfl⟩, noteOrder_known id _⟩
  | claimVmAttachment owner fqdn vm => exact claimVmAttachment_unobtrusive owner fqdn vm _
  | reserveVm vm account domain =>
    refine vms_unobtrusive fun s next value done => ?_
    simp only [reserveBundle] at done
    split at done
    · cases done
    · exact reservePlannedVm_tables vm _ s next value done
  | activateVm vm args =>
    refine vms_unobtrusive fun s next value done => ?_
    simp only [activateBundle] at done
    split at done
    · cases done
    · rename_i result activated ran
      cases done
      exact activateVmReservation_tables vm args s _ activated ran
  | releaseVmReservation vm => exact releaseVmReservation_unobtrusive vm
  | releaseVmAttachmentClaim vm => exact releaseVmAttachmentClaim_unobtrusive vm
  | linkQuoteVm quote vm =>
    refine vms_unobtrusive fun s next value done => ?_
    simp only [linkQuoteVm] at done
    split at done <;> cases done <;> exact ⟨rfl, rfl, rfl, rfl⟩
  | storeOrderVm id vm => exact noteOrder_unobtrusive id _ fun _ => ⟨rfl, rfl⟩
  | startProvisioning vm =>
    refine vms_unobtrusive fun s next value done => ?_
    simp only [startProvisioning] at done
    split at done
    · cases done
      exact ⟨rfl, rfl, rfl, rfl⟩
    · split at done <;> cases done <;> exact ⟨rfl, rfl, rfl, rfl⟩

end Sessions

end HyruleCloud
