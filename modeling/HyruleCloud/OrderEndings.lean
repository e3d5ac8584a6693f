import HyruleCloud.JobSessions

/-!
The sessions that end an order: it becomes active, it waits for the registrar, or
it is refunded. A refund is recorded in the commit that ends the order, so an order
owes at most one.
-/

namespace HyruleCloud

open Interaction

variable {fqdn : Fqdn} {next b : Registry}

section Endings
variable {w : ProcessId} {d : Registry}

theorem registered_provided {id : OrderId} (registered : Registered id fqdn d) :
    Provided fqdn d := by
  obtain ⟨row, found, _, known⟩ := registered
  exact ⟨row, found, known⟩

theorem concluding_keeps {id : OrderId} {stage : OrderStatus → Prop}
    (change : DomainOrderRow → DomainOrderRow) (next : OrderStatus → Prop)
    (operation : DomainOperationRow → DomainOperationRow) (orderly : Orderly d)
    (stands : Stands w id stage d) (known : d.known w (.order id) = true)
    (becomes : ∀ order, next (change order).status)
    (advances : ∀ order, d.orders id = some order → stage order.status → ¬ Due order.status →
      (change order).terms = order.terms ∧ Concluded (change order) ∧
        ¬ Due (change order).status ∧
        (order.vmQuoteId = none → order.status = .active → (change order).status = .active) ∧
        Sits id order (change order).status d) :
    Keeping w d (changeOperation id operation (changeOrder w id change d)) ∧
      Concludes id (changeOperation id operation (changeOrder w id change d)) ∧
      Stands w id next (changeOperation id operation (changeOrder w id change d)) := by
  have wrote : Keeping w d (changeOrder w id change d) :=
    changeOrder_keeping orderly stands known fun order found stage_of unpaid => by
      obtain ⟨terms, concluded, open', active, sits⟩ := advances order found stage_of unpaid
      exact ⟨proceeds_concluding terms concluded unpaid active, open', sits⟩
  obtain ⟨unpaid, order, found, stage_of⟩ := stands known
  have still : ¬ Due order.status := fun due => by
    have once := (orderly.ledgers.balanced id order found).due due
    omega
  have concluded := (advances order found stage_of still).2.1
  refine ⟨wrote.trans (changeOperation_keeping wrote.orderly id _), fun later present => ?_,
    stands_spared (changeOperation_spares id _)
      (changeOrder_stands stands known fun order _ _ => becomes order)⟩
  have written : change order = later := by simpa [found] using present
  exact written ▸ concluded

theorem finishActiveOrder_keeps {id : OrderId} {order : DomainOrderRow} (orderly : Orderly d)
    (present : Exists id order d) (stands : Stands w id Awaiting d)
    (provided : order.action = .register → Provided order.fqdn d)
    (known : d.known w (.order id) = true)
    (done : finishActiveOrder w id order.fqdn d = .ok (next, ())) :
    Keeping w d next ∧ Concludes id next ∧ Stands w id (· = .active) next := by
  have noted : Unobtrusive fun d => .ok
      (noteRow order.fqdn (fun row => { row with status := .active }) d, ()) :=
    noteRow_unobtrusive order.fqdn _ (fun _ => ⟨rfl, rfl, rfl, rfl⟩) fun _ => Or.inr nofun
  obtain ⟨first, spared⟩ := unobtrusive_keeps (w := w) noted orderly rfl
  have knows : (noteRow order.fqdn (fun row => { row with status := .active }) d).known w
      (.order id) = true := by
    rw [(noteRow_known _ _).1]
    exact known
  cases done
  generalize noteRow order.fqdn (fun row => { row with status := .active }) d = d₁
    at first spared knows
  obtain ⟨kept, concludes, active⟩ := concluding_keeps
    (fun order => { order with status := .active, errorCode := none }) (· = .active)
    (.ends .succeeded none) first.orderly (stands_spared spared stands) knows (fun _ => rfl)
    (fun here there awaiting unpaid => by
      refine ⟨rfl, Or.inr (Or.inl rfl), by simp [Due], fun _ _ => rfl, fun registers _ => ?_⟩
      obtain ⟨row, found, bound, current, _⟩ := first.orderly.bindings.seated id here there registers
        (awaiting.elim Or.inl fun pending => Or.inr (Or.inl pending))
      obtain ⟨later, exist, same⟩ := exists_spared spared present
      have same_order := Option.some.inj (exist.symm.trans there)
      subst same_order
      obtain ⟨known_row, row_found, confirmed⟩ := provided_spared spared
        (provided ((terms_action same).symm.trans registers))
      rw [terms_fqdn same] at found
      have same_row := Option.some.inj (row_found.symm.trans found)
      subst same_row
      exact ⟨known_row, by rw [terms_fqdn same]; exact row_found, bound, current,
        fun _ => confirmed⟩)
  exact ⟨first.trans kept, concludes, active⟩

theorem markRenewal_keeps {id : OrderId} {order : DomainOrderRow} {baseline : Time}
    (orderly : Orderly d) (present : Exists id order d) (renews : order.action = .renew)
    (stands : Stands w id Checking d) (known : d.known w (.order id) = true)
    (done : markRenewal w id order.fqdn baseline d = .ok (next, ())) :
    Keeping w d next ∧ Stands w id Underway next := by
  have noted : Unobtrusive fun d => .ok (noteRow order.fqdn
      (fun row => { row with expiresAt := row.expiresAt <|> some baseline }) d, ()) :=
    noteRow_unobtrusive order.fqdn _ (fun _ => ⟨rfl, rfl, rfl, rfl⟩) fun _ => Or.inl rfl
  obtain ⟨first, spared⟩ := unobtrusive_keeps (w := w) noted orderly rfl
  have knows : (noteRow order.fqdn
      (fun row => { row with expiresAt := row.expiresAt <|> some baseline }) d).known w
        (.order id) = true := by
    rw [(noteRow_known _ _).1]
    exact known
  cases done
  generalize noteRow order.fqdn
    (fun row => { row with expiresAt := row.expiresAt <|> some baseline }) d = d₁
    at first spared knows
  refine ⟨first.trans (changeOrder_keeping first.orderly (stands_spared spared stands) knows
    fun here there checking unpaid => ?_), changeOrder_stands (stands_spared spared stands) knows
    fun _ _ _ => Or.inr rfl⟩
  have now : here.status = .checking := checking
  obtain ⟨later, exist, same⟩ := exists_spared spared present
  have same_order := Option.some.inj (exist.symm.trans there)
  subst same_order
  refine ⟨proceeds_idle rfl (by simp [now]) (by simp [now]) unpaid, by simp [Due], ?_⟩
  intro registers
  rw [terms_action same, renews] at registers
  cases registers

theorem recordRenewal_keeps {config : DomainConfig} {id : OrderId} {order : DomainOrderRow}
    {result : ProviderResult} {baseline now : Time} (orderly : Orderly d)
    (present : Exists id order d) (renews : order.action = .renew) (stands : Stands w id Underway d)
    (known : d.known w (.order id) = true)
    (done : recordRenewal config w id order.fqdn result baseline now d = .ok (next, ())) :
    Keeping w d next ∧ Concludes id next := by
  have noted : Unobtrusive fun d => .ok (noteRow order.fqdn (renewedRow result) d, ()) := by
    refine noteRow_unobtrusive order.fqdn _ (fun _ => ⟨rfl, rfl, rfl, rfl⟩) fun _ => Or.inr ?_
    simp only [renewedRow]
    split <;> exact nofun
  obtain ⟨first, spared⟩ := unobtrusive_keeps (w := w) noted orderly rfl
  have knows : (noteRow order.fqdn (renewedRow result) d).known w (.order id) = true := by
    rw [(noteRow_known _ _).1]
    exact known
  obtain ⟨last, added, finished⟩ := except_map done
  cases finished
  generalize noteRow order.fqdn (renewedRow result) d = d₁ at first spared knows added
  obtain ⟨kept, concludes, _⟩ := concluding_keeps (renewedOrder result baseline) (fun _ => True)
    (.is (if result.status.isRenewed then .succeeded else .waitingProvider)) first.orderly
    (stands_spared spared stands) knows (fun _ => trivial)
    (fun here there underway unpaid => by
      have still : here.status ≠ .active := by
        rcases underway with now | now <;> simp [now]
      obtain ⟨later, exist, same⟩ := exists_spared spared present
      have same_order := Option.some.inj (exist.symm.trans there)
      subst same_order
      refine ⟨rfl, ?_, ?_, fun _ active => absurd active still, fun registers => ?_⟩
      · by_cases renewed : result.status.isRenewed = true
        · exact Or.inr (Or.inl (by simp [renewedOrder, renewed]))
        · exact Or.inr (Or.inr (Or.inl (by simp [renewedOrder, renewed])))
      · simp only [renewedOrder]
        split <;> simp [Due]
      · rw [terms_action same, renews] at registers
        cases registers)
  obtain ⟨pending, last_spared⟩ := addPending_keeps (w := w) kept.orderly added
  refine ⟨(first.trans kept).trans pending, ?_⟩
  obtain ⟨later, exist, same⟩ := exists_spared spared present
  exact @concludes_spared w _ _ last_spared id order
    ⟨renewedOrder result baseline later, by simp [exist], same⟩ concludes

theorem reconciledRow_seat (reading : Reading) (current : DomainStatus) (provider : ProviderId)
    (result : ProviderResult) (row : DomainRow) :
    (reconciledRow reading current provider result row).clientOrderId = row.clientOrderId ∧
      (reconciledRow reading current provider result row).ownerAccountId = row.ownerAccountId ∧
      (reconciledRow reading current provider result row).openproviderId = some provider ∧
      (reconciledRow reading current provider result row).providerOperationId =
        row.providerOperationId := by
  unfold reconciledRow
  split
  · exact ⟨rfl, rfl, rfl, rfl⟩
  · split
    · exact ⟨rfl, rfl, rfl, rfl⟩
    · split <;> exact ⟨rfl, rfl, rfl, rfl⟩

theorem recordOrder_keeps (order : Option OrderId) (reading : Reading) (provider : ProviderId)
    (orderly : Orderly d)
    (waits : ∀ id, order = some id → reading.active = false → reading.expired = false →
      Stands w id Awaiting d ∧ d.known w (.order id) = true) :
    Keeping w d (recordOrder w order reading provider d) ∧
      (∀ id, order = some id → Stands w id Awaiting d →
        Stands w id Awaiting (recordOrder w order reading provider d)) ∧
      (recordOrder w order reading provider d).domains = d.domains := by
  unfold recordOrder
  cases order with
  | none => exact ⟨.refl orderly, fun _ _ stands => stands, rfl⟩
  | some id =>
    dsimp only
    split
    · rename_i settled
      have noted : Unobtrusive fun d => .ok
          (noteOrder id (reconciledOrder reading provider) d, ()) :=
        noteOrder_unobtrusive id _ fun order => by
          unfold reconciledOrder
          simp only [settled, if_true]
          exact ⟨rfl, rfl⟩
      obtain ⟨kept, spared⟩ := unobtrusive_keeps (w := w) noted orderly rfl
      refine ⟨kept, fun _ same stands => ?_, ?_⟩
      · cases same
        exact stands_spared spared stands
      · unfold noteOrder
        split <;> rfl
    · rename_i open'
      simp only [Bool.or_eq_true, not_or, Bool.not_eq_true] at open'
      obtain ⟨stands, known⟩ := waits id rfl open'.1 open'.2
      have pending (order : DomainOrderRow) :
          (reconciledOrder reading provider order).status = .providerPending ∧
            (reconciledOrder reading provider order).terms = order.terms := by
        unfold reconciledOrder
        simp only [open'.1, open'.2, Bool.or_self]
        exact ⟨rfl, rfl⟩
      obtain ⟨kept, _, after⟩ := concluding_keeps (reconciledOrder reading provider) Awaiting
        (.is .waitingProvider) orderly stands known (fun order => Or.inr (pending order).1)
        (fun order found awaiting unpaid => by
          refine ⟨(pending order).2, Or.inr (Or.inr (Or.inl (pending order).1)), ?_, ?_, ?_⟩
          · rw [(pending order).1]
            simp [Due]
          · intro _ active
            rcases awaiting with now | now <;> rw [active] at now <;> cases now
          · intro registers _
            obtain ⟨row, there, bound, current, _⟩ := orderly.bindings.seated id order found
              registers (awaiting.elim Or.inl fun now => Or.inr (Or.inl now))
            refine ⟨row, there, bound, current, fun active => ?_⟩
            rw [(pending order).1] at active
            cases active)
      exact ⟨kept, fun _ same _ => by cases same; exact after, by simp⟩

theorem recordReconcile_keeps {asked : DomainRow} {order : Option OrderId} {reading : Reading}
    {current : DomainStatus} {provider : ProviderId} {result : ProviderResult} (orderly : Orderly d)
    (sees : Sees w fqdn asked d) (knows : d.known w (.row fqdn) = true)
    (waits : ∀ id, order = some id → reading.active = false → reading.expired = false →
      Stands w id Awaiting d ∧ d.known w (.order id) = true)
    (done : recordReconcile w fqdn asked.clientOrderId order reading current provider result d =
      .ok (next, ())) :
    Keeping w d next ∧ Provided fqdn next ∧
      ∀ id, order = some id → Stands w id Awaiting d → Stands w id Awaiting next := by
  obtain ⟨row, found, same⟩ := sees knows
  simp only [recordReconcile, found] at done
  cases done
  have zeroth : Keeping w d (addEntry ⟨asked.clientOrderId, row.clientOrderId⟩ d) :=
    addEntry_keeping orderly same.client
  have seat := reconciledRow_seat reading current provider result
  have first : Keeping w (addEntry ⟨asked.clientOrderId, row.clientOrderId⟩ d)
      (changeRow w fqdn (reconciledRow reading current provider result)
        (addEntry ⟨asked.clientOrderId, row.clientOrderId⟩ d)) :=
    changeRow_keeping zeroth.orderly
      (fun here _ => ⟨(seat here).1, (seat here).2.1, fun _ => by simp [(seat here).2.2.1],
        fun id marked => Or.inl ((seat here).2.2.2.symm.trans marked)⟩)
      (fun here _ stale => by simp [Stale, (seat here).2.2.1] at stale)
  obtain ⟨second, stands, domains⟩ := recordOrder_keeps order reading provider first.orderly
    fun id same_order inactive current => by
      obtain ⟨stands, known⟩ := waits id same_order inactive current
      exact ⟨changeRow_stands (stands_spared (addEntry_spares _ w) stands), by
        simpa [addEntry] using known⟩
  refine ⟨(zeroth.trans first).trans second, ?_, fun id same_order before =>
    stands id same_order (changeRow_stands (stands_spared (addEntry_spares _ w) before))⟩
  exact ⟨reconciledRow reading current provider result row, by rw [domains]; simp [addEntry, found],
    by simp [(seat row).2.2.1]⟩

/-- The refund of the order can still be recorded, as far as `w` knows: an active
order is refunded only for the VM of its bundle. -/
def Refundable (w : ProcessId) (id : OrderId) (d : Registry) : Prop :=
  d.known w (.order id) = true → refundsOwed id d = 0 ∧
    ∃ order, d.orders id = some order ∧ (order.vmQuoteId = none → order.status ≠ .active)

/-- The unconfirmed row of an order that is about to fail, as `w` knows it. -/
def HoldsUnconfirmed (w : ProcessId) (id : OrderId) (fqdn : Fqdn) (d : Registry) : Prop :=
  d.known w (.row fqdn) = true → ∃ row, d.domains fqdn = some row ∧
    row.clientOrderId = some id ∧ row.openproviderId = none

theorem refundable_spared {id : OrderId} {a : Registry} (spares : Spares w a b)
    (refundable : Refundable w id a) : Refundable w id b := by
  intro known
  obtain ⟨before, counts, status⟩ := spares.order id known
  obtain ⟨unpaid, order, found, inactive⟩ := refundable before
  obtain ⟨later, there, proceeds⟩ := spares.orders id order found
  refine ⟨counts.trans unpaid, later, there, fun single => ?_⟩
  rw [status order later found there]
  exact inactive ((terms_quote proceeds.terms).symm.trans single)

theorem unconfirmed_spared {id : OrderId} {a : Registry} (spares : Spares w a b)
    (holds : HoldsUnconfirmed w id fqdn a) : HoldsUnconfirmed w id fqdn b := by
  intro known
  obtain ⟨before, row_of⟩ := spares.row fqdn known
  obtain ⟨row, found, bound, unconfirmed⟩ := holds before
  obtain ⟨later, there, same⟩ := row_of row found
  exact ⟨later, there, same.client.trans bound, same.provider.trans unconfirmed⟩

theorem stands_refundable {id : OrderId} {stage : OrderStatus → Prop}
    (inactive : ∀ status, stage status → status ≠ .active) (stands : Stands w id stage d) :
    Refundable w id d := by
  intro known
  obtain ⟨unpaid, order, found, stage_of⟩ := stands known
  exact ⟨unpaid, order, found, fun _ => inactive _ stage_of⟩

theorem owedEvent_order {args : OwedArgs} {event : PaymentEventRow}
    (built : buildOwedEvent args = some event) :
    event.eventType = .refundOwed ∧ event.orderId = args.orderId := by
  unfold buildOwedEvent at built
  split at built
  · split at built
    · cases built
    · cases built
      exact ⟨rfl, rfl⟩
  · cases built

section
variable {id : OrderId} {order : DomainOrderRow} {reason : String} {amount : Option Usd}
  {event : PaymentEventRow} (built : buildRefundEvent id order reason amount = .ok event)
  (other : OrderId)
include order reason amount built

theorem refundEvent_owed :
    isRefundOf other event = decide (other = id) := by
  unfold buildRefundEvent at built
  dsimp only at built
  split at built
  · rename_i owed
    cases built
    obtain ⟨refund, order⟩ := owedEvent_order owed
    by_cases same : other = id
    · simp [isRefundOf, refund, order, same]
    · simp [isRefundOf, refund, order, same, Ne.symm same]
  · cases built

theorem refundsOwed_added :
    refundsOwed other (addRefund event d) =
      refundsOwed other d + if other = id then 1 else 0 := by
  simp [refundsOwed, addRefund, List.countP_append, refundEvent_owed built other]

end

theorem ledgers_written {a : Registry} {id : OrderId} {order closed : DomainOrderRow}
    (ledgers : Ledgers a) (found : a.orders id = some order) (here : b.orders id = some closed)
    (elsewhere : ∀ other, other ≠ id → b.orders other = a.orders other)
    (terms : closed.terms = order.terms) (ledger : Ledger id closed b)
    (others : ∀ other, other ≠ id → refundsOwed other b = refundsOwed other a) : Ledgers b where
  balanced other later present := by
    by_cases same : other = id
    · subst same
      rw [here] at present
      cases present
      exact ledger
    · rw [elsewhere other same] at present
      obtain ⟨once, due, kept⟩ := ledgers.balanced other later present
      rw [← others other same] at once due kept
      exact ⟨once, due, kept⟩
  payable other later present := by
    by_cases same : other = id
    · subst same
      rw [here] at present
      cases present
      exact terms_payable terms (ledgers.payable other order found)
    · rw [elsewhere other same] at present
      exact ledgers.payable other later present
  unknown other absent := by
    by_cases same : other = id
    · subst same
      rw [here] at absent
      cases absent
    · rw [others other same]
      rw [elsewhere other same] at absent
      exact ledgers.unknown other absent

theorem addRefund_seemly {event : PaymentEventRow} (seemly : Seemly d) :
    Seemly (addRefund event d) :=
  ⟨⟨seemly.bindings.1, seemly.bindings.2, seemly.bindings.3⟩,
    { seemly.ends with }, ⟨seemly.traces.1, seemly.traces.2⟩⟩

theorem addRefund_spares {id : OrderId} {order : DomainOrderRow} {reason : String}
    {amount : Option Usd} {event : PaymentEventRow} {other : ProcessId}
    (built : buildRefundEvent id order reason amount = .ok event)
    (unknown : d.known other (.order id) = false) : Spares other d (addRefund event d) := by
  refine { Spares.refl other d with order := fun here known => ?_ }
  have elsewhere : here ≠ id := by
    rintro rfl
    have still : d.known other (.order here) = true := known
    rw [unknown] at still
    cases still
  refine ⟨known, by simp [refundsOwed_added built, elsewhere], fun before later found there => ?_⟩
  rw [show d.orders here = some later from there] at found
  cases found
  rfl

theorem settleOwing_fields (w : ProcessId) (id : OrderId) (d : Registry) :
    (settleOwing w id d).toStore = d.toStore ∧ (settleOwing w id d).known = d.known ∧
      (settleOwing w id d).marked = d.marked ∧
      (settleOwing w id d).submissions = d.submissions ∧
      (settleOwing w id d).entries = d.entries ∧
      (settleOwing w id d).owing =
        if d.owing w = some id then Function.update d.owing w none else d.owing := by
  unfold settleOwing
  split <;> exact ⟨rfl, rfl, rfl, rfl, rfl, rfl⟩

theorem settleOwing_seemly {id : OrderId} (seemly : Seemly d) (concludes : Concludes id d) :
    Seemly (settleOwing w id d) := by
  unfold settleOwing
  split
  · rename_i owes
    refine ⟨⟨seemly.bindings.1, seemly.bindings.2, seemly.bindings.3⟩,
      ⟨seemly.ends.fits, seemly.ends.present, fun other job order listed found past => ?_⟩,
      ⟨seemly.traces.1, seemly.traces.2⟩⟩
    rcases seemly.ends.ended other job order listed found past with concluded | ⟨v, owing⟩
    · exact Or.inl concluded
    by_cases same : other = id
    · subst same
      exact Or.inl (concludes order found)
    · refine Or.inr ⟨v, ?_⟩
      have different : v ≠ w := by
        rintro rfl
        rw [owes] at owing
        exact same (Option.some.inj owing).symm
      simpa [different] using owing
  · exact seemly

theorem settleOwing_spares {id : OrderId} {other : ProcessId} (different : other ≠ w) :
    Spares other d (settleOwing w id d) := by
  unfold settleOwing
  split
  · exact { Spares.refl other d with owing := Function.update_of_ne different _ _ }
  · exact .refl other d

/-- A session in which `w` has ended the order as `closed`, before its refund. -/
structure Closing (w : ProcessId) (id : OrderId) (closed : DomainOrderRow) (a b : Registry) :
    Prop where
  seemly : Seemly b
  spares : ∀ other, other ≠ w → Spares other a b
  unknown : ∀ other, other ≠ w → b.known other (.order id) = false
  here : b.orders id = some closed
  elsewhere : ∀ other, other ≠ id → b.orders other = a.orders other
  events : b.events = a.events

theorem closing_order {id : OrderId} {order : DomainOrderRow}
    {change : DomainOrderRow → DomainOrderRow} (seemly : Seemly d)
    (found : d.orders id = some order) (proceeds : Proceeds order (change order))
    (sits : Sits id order (change order).status d) :
    Closing w id (change order) d (changeOrder w id change d) := by
  have one {P : DomainOrderRow → Prop} (holds : P order) :
      ∀ here, d.orders id = some here → P here := by
    intro here present
    rw [found] at present
    cases present
    exact holds
  refine ⟨changeOrder_seemly seemly (one proceeds)
      (one (P := fun order => Sits id order (change order).status d) sits),
    fun other different => changeOrder_spares different (one proceeds), fun other different => ?_,
    by simp [found], fun other different => ?_, by simp⟩
  · simp [changeOrder_at found, touch, different]
  · simp [changeOrder_at found, touch, different]

section Closing
variable {id : OrderId} {closed : DomainOrderRow} {a : Registry}
  (closing : Closing w id closed a d)
include closing

theorem closing_operation (change : DomainOperationRow → DomainOperationRow) :
    Closing w id closed a (changeOperation id change d) where
  seemly := beside_seemly (changeOperation_beside id change) closing.seemly
  spares other different :=
    (closing.spares other different).trans (changeOperation_spares id change)
  unknown other different := by simpa using closing.unknown other different
  here := by simpa using closing.here
  elsewhere other different := by simpa using closing.elsewhere other different
  events := by simpa using closing.events

theorem closing_row {row : DomainRow} (unseated : ¬ Seated closed.status)
    (found : d.domains fqdn = some row) (bound : row.clientOrderId = some id) :
    Closing w id closed a
      (changeRow w fqdn (fun row => { row with status := .failed }) d) where
  seemly := by
    refine changeRow_seemly closing.seemly (fun here _ => ⟨rfl, rfl, fun known => known,
      fun _ marked => Or.inl marked⟩) fun here other order there _ present named => Or.inr ?_
    have same_row := Option.some.inj (found.symm.trans there)
    subst same_row
    have same : other = id := Option.some.inj (named.symm.trans bound)
    subst same
    have ended := Option.some.inj (closing.here.symm.trans present)
    exact ended ▸ unseated
  spares other different := by
    refine (closing.spares other different).trans (changeRow_spares different
      (fun here _ => ⟨rfl, rfl, fun known => known, fun _ marked => Or.inl marked⟩)
      fun here named there _ is_named => Or.inr ?_)
    have same_row := Option.some.inj (found.symm.trans there)
    subst same_row
    have same : named = id := Option.some.inj (is_named.symm.trans bound)
    exact same ▸ closing.unknown other different
  unknown other different := by simpa using closing.unknown other different
  here := by simpa using closing.here
  elsewhere other different := by simpa using closing.elsewhere other different
  events := by simpa using closing.events

theorem closing_owing (concluded : Concluded closed) :
    Closing w id closed a (settleOwing w id d) := by
  obtain ⟨store, known, _, _, _, _⟩ := settleOwing_fields w id d
  refine ⟨settleOwing_seemly closing.seemly fun order found => ?_, fun other different =>
    (closing.spares other different).trans (settleOwing_spares different), ?_, ?_, ?_, ?_⟩
  · have ended := Option.some.inj (closing.here.symm.trans found)
    exact ended ▸ concluded
  · rw [known]
    exact closing.unknown
  · rw [store]
    exact closing.here
  · rw [store]
    exact closing.elsewhere
  · rw [store]
    exact closing.events

theorem closing_free {order : DomainOrderRow} (ledgers : Ledgers a)
    (found : a.orders id = some order) (terms : closed.terms = order.terms)
    (unpaid : refundsOwed id a = 0) (undue : ¬ Due closed.status) : Keeping w a d := by
  have counts (other : OrderId) : refundsOwed other d = refundsOwed other a := by
    simp [refundsOwed, closing.events]
  exact ⟨⟨closing.seemly, ledgers_written ledgers found closing.here closing.elsewhere terms
    (ledger_unpaid ((counts id).trans unpaid) undue) fun other _ => counts other⟩, closing.spares⟩

theorem closing_refund {order billed : DomainOrderRow} {reason : String} {amount : Option Usd}
    {event : PaymentEventRow} (ledgers : Ledgers a) (found : a.orders id = some order)
    (terms : closed.terms = order.terms) (unpaid : refundsOwed id a = 0)
    (due : Due closed.status ∨ (closed.status = .active ∧ closed.vmQuoteId ≠ none))
    (built : buildRefundEvent id billed reason amount = .ok event) :
    Keeping w a (addRefund event d) := by
  have counts (other : OrderId) : refundsOwed other (addRefund event d) =
      refundsOwed other a + if other = id then 1 else 0 := by
    rw [refundsOwed_added built]
    simp [refundsOwed, closing.events]
  have once : refundsOwed id (addRefund event d) = 1 := by
    rw [counts, unpaid]
    simp
  refine ⟨⟨addRefund_seemly closing.seemly, ledgers_written ledgers found closing.here
    closing.elsewhere terms ⟨by omega, fun _ => once, fun _ => due⟩ fun other different => ?_⟩,
    fun other different => (closing.spares other different).trans
      (addRefund_spares built (closing.unknown other different))⟩
  rw [counts, if_neg different, Nat.add_zero]

end Closing

theorem commitFailure_keeps {id : OrderId} {code : String} {amount : Usd} {held : Bool}
    (orderly : Orderly d) (refundable : Refundable w id d) (known : d.known w (.order id) = true)
    (unconfirmed : held = true → ∀ order, d.orders id = some order →
      HoldsUnconfirmed w id order.fqdn d) (knows : held = true → ∀ order, d.orders id = some order →
      d.known w (.row order.fqdn) = true)
    (done : commitFailure w id code amount held d = .ok (next, ())) :
    Keeping w d next ∧ Concludes id next ∧
      (d.owing w = none ∨ d.owing w = some id → next.owing w = none) := by
  obtain ⟨unpaid, order, found, inactive⟩ := refundable known
  have undue : ¬ Due order.status := fun due => by
    have once := (orderly.ledgers.balanced id order found).due due
    omega
  simp only [commitFailure, found] at done
  generalize closing_as : (fun here : DomainOrderRow => { here with
    status := if order.billingMode.isWaived then OrderStatus.failed else .refundDue
    errorCode := some code }) = close at done
  have terms : (close order).terms = order.terms := by
    subst closing_as
    rfl
  have concluded : Concluded (close order) := by
    subst closing_as
    by_cases waived : order.billingMode.isWaived = true
    · exact Or.inl waived
    · exact Or.inr (Or.inr (Or.inr (Or.inl (by simp [waived]))))
  have unseated : ¬ Seated (close order).status := by
    subst closing_as
    split <;> simp [Seated]
  have first : Closing w id (close order) d (changeOrder w id close d) :=
    closing_order orderly.toSeemly found (proceeds_concluding terms concluded undue
      fun single active => absurd active (inactive single)) fun _ seated => absurd seated unseated
  have second := closing_operation first (.ends .failed (some code))
  have third : Closing w id (close order) d (if held then
      changeRow w order.fqdn (fun row => { row with status := .failed })
        (changeOperation id (.ends .failed (some code)) (changeOrder w id close d))
      else changeOperation id (.ends .failed (some code)) (changeOrder w id close d)) := by
    cases given_up : held with
    | false => simpa using second
    | true =>
      obtain ⟨row, there, bound, _⟩ := unconfirmed given_up order found (knows given_up order found)
      simpa using closing_row second unseated (by simpa using there) bound
  have owing : (if held then
      changeRow w order.fqdn (fun row => { row with status := .failed })
        (changeOperation id (.ends .failed (some code)) (changeOrder w id close d))
      else changeOperation id (.ends .failed (some code)) (changeOrder w id close d)).owing =
        d.owing := by
    split <;> simp
  generalize (if held then _ else _ : Registry) = d₁ at third owing done
  have fourth := closing_owing third concluded
  have settled : d.owing w = none ∨ d.owing w = some id → (settleOwing w id d₁).owing w = none := by
    rw [(settleOwing_fields w id d₁).2.2.2.2.2, owing]
    rintro (none | mine)
    · simp [none]
    · simp [mine]
  have concludes : Concludes id (settleOwing w id d₁) := fun here there => by
    have ended := Option.some.inj (fourth.here.symm.trans there)
    exact ended ▸ concluded
  split at done
  · rename_i waived
    cases done
    exact ⟨closing_free fourth orderly.ledgers found terms unpaid (by
      subst closing_as
      simp [Due, waived]), concludes, settled⟩
  · rename_i waived
    split at done
    · cases done
    rename_i built
    cases done
    exact ⟨closing_refund fourth orderly.ledgers found terms unpaid (Or.inl (by
      subst closing_as
      simp [Due, waived])) built, concludes, settled⟩

end Endings

end HyruleCloud
