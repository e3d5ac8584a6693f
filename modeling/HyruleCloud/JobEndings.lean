import HyruleCloud.OrderEndings

/-!
The sessions around a fulfilment: a job is claimed, completed, queued again, or
failed for good. A job that fails for good ends its order in one of five ways, and
only the last of them leaves a refund to be recorded in a later session.
-/

namespace HyruleCloud

open Interaction

variable {next : Registry} {claim : JobClaim} {fqdn : Fqdn}

variable {id : OrderId} {order : DomainOrderRow} {view : FinalView}

section JobEndings
variable {w : ProcessId} {d : Registry}

def Present (id : OrderId) (d : Registry) : Prop := ∃ order, d.orders id = some order

theorem exists_present (present : Exists id order d) :
    Present id d :=
  present.imp fun _ found => found.1

@[simp] theorem changeJob_orders (key : JobKey) (change : DomainJobRow → DomainJobRow) :
    (changeJob key change d).orders = d.orders := by
  unfold changeJob
  split <;> rfl

@[simp] theorem changeJob_owing (key : JobKey) (change : DomainJobRow → DomainJobRow) :
    (changeJob key change d).owing = d.owing := by
  unfold changeJob
  split <;> rfl

theorem changeJob_keeping {key : JobKey} {change : DomainJobRow → DomainJobRow}
    (orderly : Orderly d)
    (same : ∀ job, (change job).kind = job.kind ∧ (change job).resource = job.resource)
    (ended : ∀ id job order, key = .order id → d.jobs key = some job → d.orders id = some order →
      (change job).status.hasEnded → Concluded order ∨ ∃ w, d.owing w = some id) :
    Keeping w d (changeJob key change d) ∧ Spares w d (changeJob key change d) :=
  ⟨⟨changeJob_orderly orderly same ended, fun _ _ => changeJob_spares⟩, changeJob_spares⟩

variable (orderly : Orderly d)
include orderly

theorem beginJob_keeping : Keeping w d (beginJob w d) := by
  have beside : Beside d (beginJob w d) := { Beside.refl d with }
  refine ⟨beside_orderly beside orderly, fun other different => beside_spares beside ?_ rfl⟩
  intro item known
  simpa [beginJob, different] using known

theorem claimJob_keeps {config : DomainConfig} {found : Option JobKey} {now : Time}
    {reply : Option JobClaim}
    (done : claimJob config w found now d = .ok (next, reply)) :
    Keeping w d next ∧ next.owing = d.owing ∧ ∀ claim, reply = some claim →
      Fits claim.key claim.kind claim.resource ∧
        (claim.kind = .fulfillOrder → Present claim.resource next) := by
  unfold claimJob at done
  split at done
  · cases done
    exact ⟨.refl orderly, rfl, fun _ same => by cases same⟩
  · rename_i key
    split at done
    · cases done
      exact ⟨.refl orderly, rfl, fun _ same => by cases same⟩
    · rename_i job listed
      split at done
      · cases done
        have fits := orderly.ends.fits key job listed
        have begun := beginJob_keeping (w := w) orderly
        have kept := (@changeJob_keeping w (beginJob w d) key (fun job => { job with
            status := .running
            attempts := job.attempts + 1
            lockedAt := some now
            lockedBy := some w }) begun.orderly (fun _ => ⟨rfl, rfl⟩) fun _ _ _ _ _ _ past => by
          rcases past with past | past <;> cases past).1
        refine ⟨begun.trans kept, by simp [beginJob], fun claim same => ?_⟩
        cases same
        refine ⟨fits, fun fulfils => ?_⟩
        have named := fits.1.mp fulfils
        obtain ⟨order, present⟩ := orderly.ends.present job.resource job (named ▸ listed)
        exact ⟨order, by simpa [beginJob] using present⟩
      · cases done
        exact ⟨.refl orderly, rfl, fun _ same => by cases same⟩

omit orderly

theorem fits_order (fits : Fits claim.key claim.kind claim.resource)
    (named : claim.key = .order id) : claim.kind = .fulfillOrder ∧ claim.resource = id := by
  have resource := fits.2 id named
  exact ⟨fits.1.mpr (by rw [named, resource]), resource⟩

include orderly

theorem completeJob_keeps (fits : Fits claim.key claim.kind claim.resource)
    (concludes : claim.kind = .fulfillOrder → Concludes claim.resource d)
    (done : completeJob claim.key d = .ok (next, ())) : Keeping w d next ∧ Spares w d next := by
  cases done
  refine changeJob_keeping orderly (fun _ => ⟨rfl, rfl⟩) fun id job order named _ found _ => ?_
  obtain ⟨fulfils, resource⟩ := fits_order fits named
  subst resource
  exact Or.inl (concludes fulfils order found)

theorem requeueJob_keeps {key : JobKey} {attempts : Nat} {now : Time}
    (done : requeueJob key attempts now d = .ok (next, ())) :
    Keeping w d next ∧ Spares w d next := by
  cases done
  exact changeJob_keeping orderly (fun _ => ⟨rfl, rfl⟩) fun _ _ _ _ _ _ past => by
    rcases past with past | past <;> cases past

theorem unrefunded (found : d.orders id = some order) (undue : ¬ Due order.status)
    (inactive : order.status ≠ .active) : refundsOwed id d = 0 := by
  by_contra recorded
  rcases (orderly.ledgers.balanced id order found).kept recorded with due | active
  · exact undue due
  · exact inactive active.1

omit orderly

variable (w) in
theorem lookOrder_keeps (id : OrderId) (orderly : Orderly d) :
    Keeping w d (look w (.order id) d) ∧ ∀ order, d.orders id = some order →
      (¬ Due order.status → order.status ≠ .active →
        Stands w id (· = order.status) (look w (.order id) d)) ∧
      (Concluded order → Concludes id (look w (.order id) d)) := by
  refine ⟨look_keeping orderly _, fun order found => ⟨fun undue inactive _ => ?_, ?_⟩⟩
  · exact ⟨unrefunded (look_keeping orderly _).orderly found undue inactive, order, found, rfl⟩
  · intro concluded later there
    have same : d.orders id = some later := there
    rw [found] at same
    cases same
    exact concluded

theorem waiting_stands {id : OrderId} {order : DomainOrderRow} {fqdn : Fqdn} (orderly : Orderly d)
    (found : d.orders id = some order) (waits : awaitsProvider fqdn order = true) :
    Stands w id Awaiting (look w (.order id) d) ∧ order.fqdn = fqdn := by
  simp only [awaitsProvider, Bool.and_eq_true, Bool.or_eq_true, beq_iff_eq] at waits
  have awaiting : Awaiting order.status := waits.2.elim Or.inr Or.inl
  refine ⟨fun _ => ⟨unrefunded (look_keeping orderly _).orderly found ?_ ?_, order, found, awaiting⟩,
    waits.1⟩
  · rcases awaiting with now | now <;> simp [Due, now]
  · rcases awaiting with now | now <;> simp [now]

theorem waitingOrder_found (waiting : waitingOrder fqdn d = some id) :
    ∃ order, d.orders id = some order ∧ awaitsProvider fqdn order = true := by
  have passed := List.find?_some waiting
  simpa [Option.any_eq_true] using passed

include orderly

theorem lookWaiting_keeps {reply : Option OrderId}
    (looked : lookWaiting w fqdn d = (next, reply)) :
    Keeping w d next ∧ next.orders = d.orders ∧ next.domains = d.domains ∧
      ∀ id, reply = some id → Stands w id Awaiting next ∧
        ∃ order, d.orders id = some order ∧ order.fqdn = fqdn := by
  unfold lookWaiting at looked
  split at looked
  · cases looked
    exact ⟨.refl orderly, rfl, rfl, fun _ same => by cases same⟩
  · rename_i id waiting
    cases looked
    refine ⟨look_keeping orderly _, rfl, rfl, fun _ same => ?_⟩
    cases same
    obtain ⟨order, found, waits⟩ := waitingOrder_found waiting
    obtain ⟨stands, name⟩ := @waiting_stands w d id order fqdn orderly found waits
    exact ⟨stands, order, found, name⟩

theorem lookReconcile_keeps {terminal : Option OrderId}
    {reply : Option (DomainRow × Option (OrderId × DomainOrderRow))}
    (looked : lookReconcile w fqdn terminal d = (next, reply)) :
    Keeping w d next ∧ ∀ row id order, reply = some (row, some (id, order)) →
      Exists id order next ∧ (terminal = none → Stands w id Awaiting next ∧ order.fqdn = fqdn) := by
  unfold lookReconcile at looked
  split at looked
  · cases looked
    exact ⟨.refl orderly, fun _ _ _ same => by cases same⟩
  · cases waiting : lookWaiting w fqdn d with
    | mk after found =>
      rw [waiting] at looked
      cases looked
      obtain ⟨kept, orders, _, stands⟩ := lookWaiting_keeps orderly waiting
      refine ⟨kept, fun row id order same => ?_⟩
      simp only [Option.some.injEq, Prod.mk.injEq] at same
      obtain ⟨here, chosen, mapped⟩ := Option.bind_eq_some_iff.mp same.2
      obtain ⟨listed, present, pair⟩ := Option.map_eq_some_iff.mp mapped
      cases pair
      refine ⟨⟨order, by rw [orders]; exact present, rfl⟩, fun untouched => ?_⟩
      subst untouched
      obtain ⟨known, before, exist, name⟩ := stands id (by simpa using chosen)
      rw [present] at exist
      cases exist
      exact ⟨known, name⟩

omit orderly

theorem lookHeld_holds (held : lookHeld id fqdn d = true) :
    HoldsUnconfirmed w id fqdn d := by
  intro _
  simp only [lookHeld, Option.any_eq_true, Bool.and_eq_true, beq_iff_eq] at held
  obtain ⟨row, found, bound, unconfirmed⟩ := held
  exact ⟨row, found, bound, Option.isNone_iff_eq_none.mp unconfirmed⟩

/-- What `w` has seen of an order and its row. -/
def Viewed (w : ProcessId) (id : OrderId) (view : FinalView) (d : Registry) : Prop :=
  ∀ order, view.order = some order →
    Exists id order d ∧ ∀ row, view.domain = some row → Sees w order.fqdn row d

theorem viewed_spared {a b : Registry} (spares : Spares w a b)
    (viewed : Viewed w id view a) : Viewed w id view b := by
  intro order same
  obtain ⟨present, sees⟩ := viewed order same
  exact ⟨exists_spared spares present, fun row domain => sees_spared spares (sees row domain)⟩

theorem lookFinal_keeps (orderly : Orderly d)
    (looked : lookFinal w id d = (next, view)) : Keeping w d next ∧ Viewed w id view next := by
  unfold lookFinal at looked
  split at looked
  · cases looked
    exact ⟨.refl orderly, fun _ same => by cases same⟩
  · rename_i order found
    cases looked
    have first := look_keeping (w := w) orderly (.order id)
    refine ⟨first.trans (look_keeping first.orderly _), fun here same => ?_⟩
    cases same
    refine ⟨⟨order, found, rfl⟩, fun row domain => ?_⟩
    exact look_sees (d := look w (.order id) d) domain

inductive Verdicts (id : OrderId) (view : FinalView) : Terminal → Prop where
  | refund : Verdicts id view .fullRefund
  | ambiguous (order : DomainOrderRow) (row : DomainRow) (seen : view.order = some order)
      (domain : view.domain = some row) (registers : order.action = .register)
      (marker : row.providerOperationId = some id) : Verdicts id view .ambiguous
  | renewal (order : DomainOrderRow) (row : DomainRow) (seen : view.order = some order)
      (domain : view.domain = some row) (renews : order.action = .renew) :
      Verdicts id view .renewalPending
  | registered (order : DomainOrderRow) (row : DomainRow) (ending : Terminal)
      (seen : view.order = some order) (domain : view.domain = some row)
      (provided : row.openproviderId ≠ none) (ends : ending = .delivered ∨ ending = .dnsFailed) :
      Verdicts id view ending

theorem terminal_verdict (id : OrderId) (view : FinalView) :
    Verdicts id view (terminalOf id view) := by
  unfold terminalOf
  split
  · rename_i order row seen domain
    split
    · rename_i unconfirmed
      exact .ambiguous order row seen domain unconfirmed.1 unconfirmed.2.2
    · split
      · exact .refund
      rename_i provided
      split
      · rename_i renews
        exact .renewal order row seen domain renews
      · split
        · exact .registered order row _ seen domain provided (Or.inl rfl)
        · exact .registered order row _ seen domain provided (Or.inr rfl)
  · exact .refund

/-- A failure may end its order: no refund of it is recorded, a delivered order is
only left without its VM, and a confirmed row is its own. -/
structure MayEnd (id : OrderId) (view : FinalView) (order : DomainOrderRow) (d : Registry) :
    Prop where
  unpaid : refundsOwed id d = 0
  delivered : order.status = .active → terminalOf id view = .delivered
  own : order.action = .register → ∀ row, d.domains order.fqdn = some row →
    row.openproviderId ≠ none → row.clientOrderId = some id

variable (w) in
theorem endOrder_closes {status : OrderStatus}
    (code : String) (change : DomainRow → DomainRow) (seemly : Seemly d)
    (found : d.orders id = some order)
    (rewrites : ∀ row, Rewrites row (change row) ∧ ¬ Stale (change row))
    (proceeds : Proceeds order { order with status := status, errorCode := some code })
    (seats : order.action = .register → ∃ row, d.domains order.fqdn = some row ∧
      Seats id status (change row)) :
    Closing w id { order with status := status, errorCode := some code } d
      (endOrder w id order.fqdn status code change d) := by
  have first : Seemly (changeRow w order.fqdn change d) :=
    changeRow_seemly seemly (fun row _ => (rewrites row).1) fun row _ _ _ stale _ _ =>
      absurd stale (rewrites row).2
  have closing := @closing_order w _ id order
    (fun order => { order with status := status, errorCode := some code }) first
    (by simpa using found) proceeds fun registers _ => by
      obtain ⟨row, there, seated⟩ := seats registers
      exact ⟨change row, by simp [there], seated⟩
  refine ⟨closing.seemly, fun other different => ?_, closing.unknown, closing.here,
    fun other different => ?_, ?_⟩
  · exact (changeRow_spares different (fun row _ => (rewrites row).1) fun row _ _ stale _ =>
      absurd stale (rewrites row).2).trans (closing.spares other different)
  · rw [endOrder, closing.elsewhere other different, changeRow_orders]
  · rw [endOrder, closing.events, changeRow_events]

theorem fail_keeping {a : Registry} (kept : Keeping w a d)
    (fits : Fits claim.key claim.kind claim.resource)
    (ended : claim.kind = .fulfillOrder → Concludes claim.resource d ∨
      d.owing w = some claim.resource) :
    Keeping w a (changeJob claim.key (fun job => { job with status := .failed }) d) := by
  refine kept.trans (@changeJob_keeping w d claim.key (fun job => { job with status := .failed })
    kept.orderly (fun _ => ⟨rfl, rfl⟩) fun id job order named _ found _ => ?_).1
  obtain ⟨fulfils, resource⟩ := fits_order fits named
  subst resource
  rcases ended fulfils with concludes | owing
  · exact Or.inl (concludes order found)
  · exact Or.inr ⟨w, owing⟩

theorem mayEnd_undue
    (orderly : Orderly d) (found : d.orders id = some order) (may : MayEnd id view order d) :
    ¬ Due order.status := fun due => by
  have once := (orderly.ledgers.balanced id order found).due due
  have unpaid := may.unpaid
  omega

section Ending
variable {id : OrderId} {order : DomainOrderRow} {view : FinalView}

theorem viewed_row {seen : DomainOrderRow} {row : DomainRow} (viewed : Viewed w id view d)
    (found : d.orders id = some order) (knows : d.known w (.row order.fqdn) = true)
    (shown : view.order = some seen) (domain : view.domain = some row) :
    order.terms = seen.terms ∧ ∃ later, d.domains order.fqdn = some later ∧ SameSeat row later := by
  obtain ⟨⟨here, there, same⟩, sees⟩ := viewed seen shown
  have same_order := Option.some.inj (there.symm.trans found)
  subst same_order
  refine ⟨same, ?_⟩
  rw [terms_fqdn same] at knows ⊢
  exact sees row domain knows

variable (w) in
theorem endPending_keeps (code : String) (operation : DomainOperationRow → DomainOperationRow)
    (change : DomainRow → DomainRow) (orderly : Orderly d)
    (found : d.orders id = some order) (may : MayEnd id view order d)
    (waits : terminalOf id view ≠ .delivered)
    (rewrites : ∀ row, Rewrites row (change row) ∧ ¬ Stale (change row))
    (bound : order.action = .register → ∃ row, d.domains order.fqdn = some row ∧
      row.clientOrderId = some id) :
    Keeping w d (changeOperation id operation
        (endOrder w id order.fqdn .providerPending code change d)) ∧
      Concludes id (changeOperation id operation
        (endOrder w id order.fqdn .providerPending code change d)) := by
  have undue := mayEnd_undue orderly found may
  have concluded : Concluded { order with status := .providerPending, errorCode := some code } :=
    Or.inr (Or.inr (Or.inl rfl))
  have closing := closing_operation (endOrder_closes w code change orderly.toSeemly found
    rewrites
    (proceeds_concluding rfl concluded undue fun _ active => absurd (may.delivered active) waits)
    fun registers => by
      obtain ⟨row, there, named⟩ := bound registers
      exact ⟨row, there, (rewrites row).1.client.trans named, (rewrites row).2, nofun⟩) operation
  refine ⟨closing_free closing orderly.ledgers found rfl may.unpaid (by simp [Due]),
    fun later there => ?_⟩
  have ended := Option.some.inj (closing.here.symm.trans there)
  exact ended ▸ concluded

include orderly

theorem delivered_keeps {change : DomainRow → DomainRow}
    (found : d.orders id = some order) (unpaid : refundsOwed id d = 0) (undue : ¬ Due order.status)
    (rewrites : ∀ row, Rewrites row (change row) ∧ ¬ Stale (change row))
    (confirmed : order.action = .register → ∃ row, d.domains order.fqdn = some row ∧
      row.clientOrderId = some id ∧ row.openproviderId ≠ none)
    (done : (if 0 < order.vmAmountUsd ∧ order.billingMode.isWaived = false then
        match buildRefundEvent id order "bundle_vm_failed" (some order.vmAmountUsd) with
        | .error error => .error error
        | .ok event => .ok (addRefund event (changeOperation id (.is .succeeded)
            (endOrder w id order.fqdn .active "bundle_vm_failed" change d)))
      else .ok (changeOperation id (.is .succeeded)
        (endOrder w id order.fqdn .active "bundle_vm_failed" change d)) : Except Err Registry) =
      .ok next) : Keeping w d next ∧ Concludes id next ∧ next.owing = d.owing := by
  have concluded : Concluded
      { order with status := .active, errorCode := some "bundle_vm_failed" } := Or.inr (Or.inl rfl)
  have closing := closing_operation (endOrder_closes w "bundle_vm_failed" change
    orderly.toSeemly found rewrites
    (proceeds_concluding rfl concluded undue fun _ _ => rfl)
    fun registers => by
      obtain ⟨row, present, bound, provided⟩ := confirmed registers
      exact ⟨row, present, (rewrites row).1.client.trans bound, (rewrites row).2,
        fun _ => (rewrites row).1.provider provided⟩) (.is .succeeded)
  have owing : (changeOperation id (.is .succeeded) (endOrder w id order.fqdn .active
      "bundle_vm_failed" change d)).owing = d.owing := by simp [endOrder]
  generalize changeOperation id (.is .succeeded) (endOrder w id order.fqdn .active
    "bundle_vm_failed" change d) = a at closing owing done
  have concludes : Concludes id a := fun later present => by
    have ended := Option.some.inj (closing.here.symm.trans present)
    exact ended ▸ concluded
  split at done
  · rename_i charged
    split at done
    · cases done
    rename_i built
    cases done
    have bundle : order.vmQuoteId ≠ none := fun single => by
      have nothing := (orderly.ledgers.payable id order found).single single
      rw [nothing] at charged
      exact lt_irrefl _ charged.1
    exact ⟨closing_refund closing orderly.ledgers found rfl unpaid (Or.inr ⟨rfl, bundle⟩) built,
      concludes, owing⟩
  · cases done
    exact ⟨closing_free closing orderly.ledgers found rfl unpaid (by simp [Due]), concludes, owing⟩

theorem failVm_keeping (vm : VmId) :
    Keeping w d (failVm vm d) ∧ (failVm vm d).orders = d.orders ∧
      (failVm vm d).domains = d.domains := by
  refine ⟨beside_keeping orderly (failVm_beside vm) ?_ ?_, ?_, ?_⟩ <;> unfold failVm <;> split <;> rfl

theorem endDelivered_keeps (found : d.orders id = some order)
    (may : MayEnd id view order d)
    (confirmed : order.action = .register → ∃ row, d.domains order.fqdn = some row ∧
      row.clientOrderId = some id ∧ row.openproviderId ≠ none)
    (done : endDelivered w id order view d = .ok next) :
    Keeping w d next ∧ Concludes id next ∧ next.owing = d.owing := by
  have undue := mayEnd_undue orderly found may
  have rewrites (vmId : DomainRow → Option VmId) (row : DomainRow) :
      Rewrites row { row with status := .active, vmId := vmId row } ∧
        ¬ Stale { row with status := .active, vmId := vmId row } :=
    ⟨⟨rfl, rfl, fun known => known, fun _ marked => Or.inl marked⟩, by simp [Stale]⟩
  unfold endDelivered at done
  cases abandoned : abandonsVm view with
  | none =>
    simp only [abandoned] at done
    exact delivered_keeps orderly found may.unpaid undue (rewrites _) confirmed done
  | some vm =>
    simp only [abandoned] at done
    obtain ⟨kept, orders, domains⟩ := failVm_keeping (w := w) orderly vm
    obtain ⟨later, concludes, owing⟩ := delivered_keeps (w := w) kept.orderly
      (by rw [orders]; exact found) (((failVm_beside vm).events id).trans may.unpaid) undue
      (rewrites _) (by rw [domains]; exact confirmed) done
    exact ⟨kept.trans later, concludes, owing.trans (failVm_beside vm).owing⟩

theorem owe_keeping (idle : d.owing w = none) (id : OrderId) :
    Keeping w d { d with owing := Function.update d.owing w (some id) } := by
  refine ⟨⟨⟨⟨orderly.bindings.1, orderly.bindings.2, orderly.bindings.3⟩,
    ⟨orderly.ends.fits, orderly.ends.present, fun other job order listed found past => ?_⟩,
    ⟨orderly.traces.1, orderly.traces.2⟩⟩, ⟨fun other order found => ?_, orderly.ledgers.payable,
    orderly.ledgers.unknown⟩⟩, fun other different =>
      { Spares.refl other d with owing := Function.update_of_ne different _ _ }⟩
  · refine (orderly.ends.ended other job order listed found past).imp_right fun owed => ?_
    obtain ⟨v, owing⟩ := owed
    have different : v ≠ w := keys_apart owing idle nofun
    exact ⟨v, by simpa [different] using owing⟩
  · obtain ⟨once, due, kept⟩ := orderly.ledgers.balanced other order found
    exact ⟨once, due, kept⟩

theorem endFulfilment_keeps {error : Err} (idle : d.owing w = none)
    (viewed : Viewed w id view d) (found : d.orders id = some order)
    (knows : d.known w (.row order.fqdn) = true) (may : MayEnd id view order d)
    (done : endFulfilment w id order view error d = .ok next) :
    Keeping w d next ∧
      (terminalOf id view = .fullRefund → next.owing w = some id ∧ Refundable w id next) ∧
      (terminalOf id view ≠ .fullRefund → next.owing w = none ∧ Concludes id next) := by
  have verdict := terminal_verdict id view
  unfold endFulfilment at done
  generalize terminal : terminalOf id view = ending at verdict done
  cases verdict with
  | ambiguous seen row shown domain registers marker =>
    cases done
    obtain ⟨same, later, present, seat⟩ := viewed_row viewed found knows shown domain
    have bound := orderly.bindings.marker order.fqdn later id present (seat.marker.trans marker)
    obtain ⟨kept, concludes⟩ := endPending_keeps w
      "registration_reconciliation_required"
      (.ends .waitingProvider (some "registration_reconciliation_required"))
      (fun row => { row with status := .providerPending })
      orderly found may (by simp [terminal])
      (fun row => ⟨⟨rfl, rfl, fun known => known, fun _ marked => Or.inl marked⟩, by simp [Stale]⟩)
      fun _ => ⟨later, present, bound⟩
    exact ⟨kept, by simp, fun _ => ⟨by simpa [endOrder] using idle, concludes⟩⟩
  | renewal seen row shown domain renews =>
    cases done
    obtain ⟨same, later, present, seat⟩ := viewed_row viewed found knows shown domain
    have undue := mayEnd_undue orderly found may
    have concluded : Concluded { order with
        status := .providerPending
        errorCode := some "renewal_reconciliation_required" } := Or.inr (Or.inr (Or.inl rfl))
    have closing := closing_operation (@closing_order w d id order (fun order => { order with
        status := .providerPending
        errorCode := some "renewal_reconciliation_required" }) orderly.toSeemly found
      (proceeds_concluding rfl concluded undue fun _ active => by
        have delivered := may.delivered active
        rw [terminal] at delivered
        cases delivered)
      fun registers => by
        rw [terms_action same, renews] at registers
        cases registers) (.is .failed)
    refine ⟨closing_free closing orderly.ledgers found rfl may.unpaid (by simp [Due]),
      by simp, fun _ => ⟨by simpa using idle, fun here there => ?_⟩⟩
    have ended := Option.some.inj (closing.here.symm.trans there)
    exact ended ▸ concluded
  | registered seen row _ shown domain provided ends =>
    obtain ⟨same, later, present, seat⟩ := viewed_row viewed found knows shown domain
    have confirmed : order.action = .register → ∃ row, d.domains order.fqdn = some row ∧
        row.clientOrderId = some id ∧ row.openproviderId ≠ none := fun registers => by
      have known : later.openproviderId ≠ none := by
        rw [seat.provider]
        exact provided
      exact ⟨later, present, may.own registers later present known, known⟩
    rcases ends with rfl | rfl
    · obtain ⟨kept, concludes, owing⟩ := endDelivered_keeps orderly found may confirmed done
      exact ⟨kept, by simp, fun _ => ⟨by rw [owing]; exact idle, concludes⟩⟩
    · simp only at done
      cases done
      obtain ⟨kept, concludes⟩ := endPending_keeps w "managed_dns_failed" (.is .failed)
        (fun row => { row with status := .providerPending, dnssecStatus := .error })
        orderly found may (by simp [terminal])
        (fun row => ⟨⟨rfl, rfl, fun known => known, fun _ marked => Or.inl marked⟩,
          by simp [Stale]⟩)
        fun registers => (confirmed registers).imp fun _ row => ⟨row.1, row.2.1⟩
      exact ⟨kept, by simp, fun _ => ⟨by simpa [endOrder] using idle, concludes⟩⟩
  | refund =>
    cases done
    have first := changeOperation_keeping (w := w) orderly id
      (.ends .failed (some (error.codeOr "operation_failed")))
    refine ⟨first.trans (owe_keeping first.orderly (by simpa using idle) id), fun _ => ?_,
      fun other => absurd rfl other⟩
    refine ⟨by simp, fun _ => ⟨?_, order, by simpa using found, fun _ active => ?_⟩⟩
    · have unpaid := may.unpaid
      simpa [refundsOwed] using unpaid
    · have delivered := may.delivered active
      rw [terminal] at delivered
      cases delivered

omit orderly

end Ending

theorem failJob_keeps {error : Err} {reply : Bool} (orderly : Orderly d)
    (fits : Fits claim.key claim.kind claim.resource) (idle : d.owing w = none)
    (viewed : claim.kind = .fulfillOrder →
      Present claim.resource d ∧ Viewed w claim.resource view d)
    (may : claim.kind = .fulfillOrder → ∀ order, d.orders claim.resource = some order →
      d.known w (.row order.fqdn) = true ∧ MayEnd claim.resource view order d)
    (done : failJob w claim view error d = .ok (next, reply)) :
    Keeping w d next ∧
      (reply = true → claim.kind = .fulfillOrder ∧ next.owing w = some claim.resource ∧
        Refundable w claim.resource next) ∧
      (reply = false → next.owing w = none) := by
  obtain ⟨key, kind, resource⟩ := claim
  cases kind with
  | reconcileDomain =>
    cases done
    exact ⟨fail_keeping (.refl orderly) fits nofun, nofun, fun _ => by simpa using idle⟩
  | fulfillOrder =>
    obtain ⟨⟨order, found⟩, seen⟩ := viewed rfl
    obtain ⟨knows, may_end⟩ := may rfl order found
    simp only [failJob, found] at done
    split at done
    · cases done
    rename_i ended ran
    cases done
    obtain ⟨kept, refund, settled⟩ :=
      endFulfilment_keeps orderly idle seen found knows may_end ran
    by_cases full : terminalOf resource view = .fullRefund
    · obtain ⟨owing, refundable⟩ := refund full
      refine ⟨fail_keeping kept fits fun _ => Or.inr owing,
        fun _ => ⟨rfl, by simpa using owing, ?_⟩, fun same => by simp [full] at same⟩
      exact refundable_spared changeJob_spares refundable
    · obtain ⟨none, concludes⟩ := settled full
      exact ⟨fail_keeping kept fits fun _ => Or.inl concludes, fun same => by simp [full] at same,
        fun _ => by simpa using none⟩

end JobEndings

end HyruleCloud
