import HyruleCloud.WorkerRules

/-!
Any number of executions of `process_jobs`, and whatever else happens to the orders:
payments, webhooks and sweeps that ask for a reconciliation, administrators, the
customer's own operations, and everything that concerns neither orders nor domains.
-/

namespace HyruleCloud

open Interaction

structure Issued (β : Type) where
  worker : ProcessId
  request : JobReq β

inductive Happening where
  | paid (id : OrderId) (order : DomainOrderRow) (now : Time) (operation : OperationId)
      (newer : Nat)
  | reconcile (fqdn : Fqdn) (serial : Nat) (now : Time)
  | retryJob (key : JobKey) (now : Time)
  | resolveRefund (id : OrderId)
  | manage (fqdn : Fqdn) (row : DomainRow)
  | elsewhere (s : Store)

def disturb (item : Item) (d : Registry) : Registry :=
  { d with known := fun other it => if it = item then false else d.known other it }

/-- `retry_job`, api/admin.py. -/
def retryJob (key : JobKey) (now : Time) (d : Registry) : Registry :=
  let queue := changeJob key (fun job => { job with
    status := .queued
    availableAt := now
    lockedAt := none
    lockedBy := none }) d
  match d.jobs key with
  | none => d
  | some job =>
    if job.status ≠ .failed then d
    else match job.kind with
      | .reconcileDomain => queue
      | .fulfillOrder => match d.orders job.resource with
          | none => d
          | some order => match order.status with
              | .refundDue | .refunded | .cancelled | .expired => d
              | _ => queue

/-- The order of a refund that an administrator resolves, api/admin.py. -/
def resolveRefund (id : OrderId) (d : Registry) : Registry :=
  disturb (.order id) (changeOrder 0 id (fun order => { order with status := .refunded }) d)

def happen : Happening → Registry → Registry
  | .paid id order now operation newer, d => match queueOrder id order now operation d.toStore with
      | .ok (s, _) => disturb (.order id)
          { d with toStore := s, listed := d.listed.insertIdx newer id }
      | .error _ => d
  | .reconcile fqdn serial now, d => match addReconcile (.reconcile fqdn serial) fqdn now d with
      | .ok next => next
      | .error _ => d
  | .retryJob key now, d => retryJob key now d
  | .resolveRefund id, d => resolveRefund id d
  | .manage fqdn row, d => { d with domains := d.domains.put fqdn row }
  | .elsewhere s, d => { d with toStore := s }

/-- What may happen: an order is paid for once, a refund is resolved that is owed,
and the customer's operations leave the registration as it is. -/
def mayHappen (event : Happening) (d : Registry) : Prop :=
  match event with
  | .paid id order _ _ _ => d.orders id = none ∧ Payable order
  | .resolveRefund id => refundsOwed id d ≠ 0
  | .manage fqdn row => ∃ before, d.domains fqdn = some before ∧ SameRow before row
  | .elsewhere s => s.orders = d.orders ∧ s.jobs = d.jobs ∧ s.domains = d.domains ∧
      ∀ id, s.events.countP (isRefundOf id) = refundsOwed id d
  | .reconcile _ _ _ | .retryJob _ _ => True

def workers (config : DomainConfig) (setting : Setting Issued Err Registry JobChoice) :
    Workload Issued Err Registry JobChoice Happening ProcessId where
  setting := setting
  prog w := (processJob config).embed (Issued.mk w)
  env := happen
  mayTick := mayHappen

def openWorkers (config : DomainConfig) : Setting Issued Err Registry JobChoice where
  exec issued choice d := some (jobExec config issued.worker issued.request choice d)
  permits _ _ _ := True
  mayCrash _ _ := True

def diligentWorkers (config : DomainConfig) (prompt : Prop) :
    Setting Issued Err Registry JobChoice where
  exec issued choice d := some (jobExec config issued.worker issued.request choice d)
  permits issued choice d := Diligent prompt issued.worker issued.request choice d
  mayCrash issued d := prompt → d.owing issued.worker = none

structure Opening (d : Registry) : Prop where
  orders : ∀ id, d.orders id = none
  jobs : ∀ key, d.jobs key = none
  rows : ∀ fqdn row, d.domains fqdn = some row →
    row.clientOrderId = none ∧ row.providerOperationId = none
  refunds : ∀ id, refundsOwed id d = 0
  idle : ∀ w, d.owing w = none
  submissions : d.submissions = []
  entries : d.entries = []

theorem opening_orderly {d : Registry} (opening : Opening d) : Orderly d := by
  refine ⟨⟨⟨?_, ?_, ?_⟩, ⟨?_, ?_, ?_⟩, ⟨?_, ?_⟩⟩, ⟨?_, ?_, ?_⟩⟩
  · intro id order found
    rw [opening.orders] at found
    cases found
  · intro fqdn row id found bound
    rw [(opening.rows fqdn row found).1] at bound
    cases bound
  · intro fqdn row id found marked
    rw [(opening.rows fqdn row found).2] at marked
    cases marked
  · intro key job listed
    rw [opening.jobs] at listed
    cases listed
  · intro id job listed
    rw [opening.jobs] at listed
    cases listed
  · intro id job order listed
    rw [opening.jobs] at listed
    cases listed
  · simp [opening.submissions]
  · simp [opening.entries]
  · intro id order found
    rw [opening.orders] at found
    cases found
  · intro id order found
    rw [opening.orders] at found
    cases found
  · exact fun id _ => opening.refunds id

variable {id : OrderId} {now : Time}

section Events
variable {d : Registry}

theorem disturb_beside (item : Item) : Beside d (disturb item d) := { Beside.refl d with }

theorem disturb_spares (w : ProcessId) (item : Item) : Spares w d (disturb item d) :=
  beside_spares (disturb_beside item) (fun it known => by
    simp only [disturb] at known
    split at known
    · cases known
    · exact known) rfl

theorem disturb_changeOrder (v w : ProcessId) (id : OrderId)
    (change : DomainOrderRow → DomainOrderRow) :
    disturb (.order id) (changeOrder v id change d) =
      disturb (.order id) (changeOrder w id change d) := by
  unfold changeOrder
  split
  · rfl
  unfold disturb touch
  congr 1
  funext other it
  by_cases same : it = .order id <;> simp [same]

variable (orderly : Orderly d)
include orderly

theorem resolveRefund_kept (owed : refundsOwed id d ≠ 0) :
    Orderly (resolveRefund id d) ∧ ∀ w, Spares w d (resolveRefund id d) := by
  have proceeds (order : DomainOrderRow) (found : d.orders id = some order) :
      Proceeds order { order with status := .refunded } := by
    refine ⟨rfl, fun _ => Or.inr (Or.inr (Or.inr (Or.inr rfl))), fun _ => Or.inr rfl, ?_⟩
    intro single active
    rcases (orderly.ledgers.balanced id order found).kept owed with due | bundle
    · rcases due with due | due <;> rw [active] at due <;> cases due
    · exact absurd single bundle.2
  have sits (order : DomainOrderRow) (_ : d.orders id = some order) :
      Sits id order OrderStatus.refunded d := by
    intro _ seated
    rcases seated with seated | seated | seated <;> cases seated
  have ledger (order : DomainOrderRow) (found : d.orders id = some order) :
      Ledger id { order with status := .refunded } d := by
    have once := (orderly.ledgers.balanced id order found).once
    exact ⟨once, fun _ => by omega, fun _ => Or.inl (Or.inr rfl)⟩
  have wrote : Orderly (changeOrder 0 id (fun order => { order with status := .refunded }) d) :=
    ⟨changeOrder_seemly orderly.toSeemly proceeds sits,
      changeOrder_ledgers orderly.ledgers (fun order found => (proceeds order found).terms) ledger⟩
  refine ⟨beside_orderly (disturb_beside _) wrote, fun w => ?_⟩
  unfold resolveRefund
  rw [disturb_changeOrder 0 (w + 1)]
  exact (changeOrder_spares (Nat.succ_ne_self w).symm proceeds).trans (disturb_spares w _)

theorem retryJob_kept {key : JobKey} :
    Orderly (retryJob key now d) ∧ ∀ w, Spares w d (retryJob key now d) := by
  have queue : Orderly (changeJob key (fun job => { job with
      status := .queued
      availableAt := now
      lockedAt := none
      lockedBy := none }) d) ∧ ∀ w, Spares w d (changeJob key (fun job => { job with
      status := .queued
      availableAt := now
      lockedAt := none
      lockedBy := none }) d) := by
    refine ⟨changeJob_orderly orderly (fun _ => ⟨rfl, rfl⟩) fun _ _ _ _ _ _ past => ?_,
      fun _ => changeJob_spares⟩
    rcases past with past | past <;> cases past
  have still : Orderly d ∧ ∀ w, Spares w d d := ⟨orderly, fun w => .refl w d⟩
  unfold retryJob
  split
  · exact still
  split
  · exact still
  split
  · exact queue
  split
  · exact still
  · split
    all_goals first | exact still | exact queue

theorem newOrder_kept {queued : DomainOrderRow} {s : Store}
    {listed : List OrderId} (fresh : d.orders id = none)
    (waits : queued.status = .queued) (payable : Payable queued)
    (orders : s.orders = d.orders.put id queued)
    (jobs : s.jobs = d.jobs.put (.order id)
      { kind := .fulfillOrder, resource := id, availableAt := now })
    (domains : s.domains = d.domains) (events : s.events = d.events) :
    Orderly { d with toStore := s, listed := listed } ∧
      ∀ w, Spares w d { d with toStore := s, listed := listed } := by
  have counts (other : OrderId) :
      refundsOwed other { d with toStore := s, listed := listed } = refundsOwed other d := by
    simp [refundsOwed, events]
  have keeps {other : OrderId} {order : DomainOrderRow} (found : d.orders other = some order) :
      s.orders other = some order := by
    have different : other ≠ id := keys_apart found fresh (by simp)
    rw [orders]
    simpa [different] using found
  have cases_of {other : OrderId} {order : DomainOrderRow} (found : s.orders other = some order) :
      (other = id ∧ order = queued) ∨ d.orders other = some order := by
    rw [orders] at found
    by_cases same : other = id
    · subst same
      exact Or.inl ⟨rfl, by simpa using found.symm⟩
    · exact Or.inr (by simpa [same] using found)
  refine ⟨⟨⟨⟨?_, ?_, ?_⟩, ⟨?_, ?_, ?_⟩, ⟨orderly.traces.1, orderly.traces.2⟩⟩, ⟨?_, ?_, ?_⟩⟩, ?_⟩
  · intro other order found registers seated
    rcases cases_of found with ⟨rfl, rfl⟩ | before
    · rw [waits] at seated
      rcases seated with seated | seated | seated <;> cases seated
    · simpa [domains] using orderly.bindings.seated other order before registers seated
  · intro fqdn row other found bound
    obtain ⟨order, exist, rest⟩ := orderly.bindings.named fqdn row other
      (by simpa [domains] using found) bound
    exact ⟨order, keeps exist, rest⟩
  · intro fqdn row other found marked
    exact orderly.bindings.marker fqdn row other (by simpa [domains] using found) marked
  · intro key job present
    have there : s.jobs key = some job := present
    rw [jobs] at there
    by_cases same : key = .order id
    · subst same
      have written := Option.some.inj ((put_same _ _ _).symm.trans there)
      subst written
      exact ⟨iff_of_true rfl rfl, fun other named => by cases named; rfl⟩
    · exact orderly.ends.fits key job (by simpa [same] using there)
  · intro other job present
    have there : s.jobs (.order other) = some job := present
    rw [jobs] at there
    by_cases same : other = id
    · subst same
      exact ⟨queued, by simp [orders]⟩
    · obtain ⟨order, exist⟩ := orderly.ends.present other job (by simpa [same] using there)
      exact ⟨order, keeps exist⟩
  · intro other job order present found past
    have there : s.jobs (.order other) = some job := present
    rw [jobs] at there
    by_cases same : other = id
    · subst same
      have written := Option.some.inj ((put_same _ _ _).symm.trans there)
      subst written
      rcases past with past | past <;> cases past
    · refine orderly.ends.ended other job order (by simpa [same] using there) ?_ past
      exact (cases_of found).resolve_left fun new => same new.1
  · intro other order found
    rcases cases_of found with ⟨rfl, rfl⟩ | before
    · exact ledger_unpaid ((counts other).trans (orderly.ledgers.unknown other fresh))
        (by rw [waits]; simp [Due])
    · obtain ⟨once, due, kept⟩ := orderly.ledgers.balanced other order before
      rw [← counts other] at once due kept
      exact ⟨once, due, kept⟩
  · intro other order found
    rcases cases_of found with ⟨rfl, rfl⟩ | before
    · exact payable
    · exact orderly.ledgers.payable other order before
  · intro other absent
    rw [counts]
    refine orderly.ledgers.unknown other ?_
    cases before : d.orders other with
    | none => rfl
    | some order =>
      have there : s.orders other = none := absent
      rw [keeps before] at there
      cases there
  · intro w
    refine { Spares.refl w d with orders := ?_, rows := ?_, order := ?_, row := ?_, failing := ?_ }
    · exact fun other order found => ⟨order, keeps found, .refl order⟩
    · exact fun fqdn row found => ⟨row, by simpa [domains] using found, fun known => ⟨rfl, known⟩⟩
    · refine fun other known => ⟨known, counts other, fun order later found there => ?_⟩
      have same : s.orders other = some later := there
      rw [keeps found] at same
      cases same
      rfl
    · exact fun fqdn known => ⟨known, fun row found =>
        ⟨row, by simpa [domains] using found, (SameRow.refl row).seat⟩⟩
    · exact fun fqdn later other found stale bound _ =>
        ⟨later, by simpa [domains] using found, stale, bound⟩

theorem paid_kept {order : DomainOrderRow} {operation : OperationId}
    {newer : Nat} (fresh : d.orders id = none) (payable : Payable order) :
    Orderly (happen (.paid id order now operation newer) d) ∧
      ∀ w, Spares w d (happen (.paid id order now operation newer) d) := by
  simp only [happen]
  split
  · rename_i s queued done
    obtain ⟨listed, order_is, store_is⟩ := queued_order id order queued now operation d.toStore s done
    have kept : Orderly { d with toStore := s, listed := d.listed.insertIdx newer id } ∧
        ∀ w, Spares w d { d with toStore := s, listed := d.listed.insertIdx newer id } := by
      have orders : s.orders = d.orders.put id queued := by rw [store_is]
      have jobs : s.jobs = d.jobs.put (.order id)
          { kind := .fulfillOrder, resource := id, availableAt := now } := by rw [store_is]
      have domains : s.domains = d.domains := by rw [store_is]
      have events : s.events = d.events := by rw [store_is]
      exact newOrder_kept orderly fresh (by rw [order_is]) (by
        rw [order_is]
        exact { payable with }) orders jobs domains
        events
    refine ⟨beside_orderly (disturb_beside _) kept.1, fun w => (kept.2 w).trans (disturb_spares w _)⟩
  · exact ⟨orderly, fun w => .refl w d⟩

omit orderly

theorem manage_beside {fqdn : Fqdn} {before row : DomainRow} (found : d.domains fqdn = some before)
    (same : SameRow before row) : Beside d { d with domains := d.domains.put fqdn row } := by
  exact { Beside.refl d with
    rows := fun name here => put_relates found .refl same
    noRow := fun name => put_absent found }

theorem elsewhere_beside {s : Store} (orders : s.orders = d.orders) (jobs : s.jobs = d.jobs)
    (domains : s.domains = d.domains)
    (refunds : ∀ id, s.events.countP (isRefundOf id) = refundsOwed id d) :
    Beside d { d with toStore := s } where
  orders id order found := ⟨order, by simpa [orders] using found, .refl order⟩
  noOrder id absent := by simpa [orders] using absent
  rows fqdn row found := ⟨row, by simpa [domains] using found, .refl row⟩
  noRow fqdn absent := by simpa [domains] using absent
  events := refunds
  jobs := jobs
  owing := rfl
  submissions := rfl
  entries := rfl

theorem happen_kept (event : Happening) (orderly : Orderly d) (may : mayHappen event d) :
    Orderly (happen event d) ∧ ∀ w, Spares w d (happen event d) := by
  cases event with
  | paid id order now operation newer => exact paid_kept orderly may.1 may.2
  | reconcile fqdn serial now =>
    simp only [happen]
    split
    · rename_i added
      exact addReconcile_kept orderly (fun _ same => by cases same) added
    · exact ⟨orderly, fun w => .refl w d⟩
  | retryJob key now => exact retryJob_kept orderly
  | resolveRefund id => exact resolveRefund_kept orderly may
  | manage fqdn row =>
    obtain ⟨before, found, same⟩ := may
    have beside := manage_beside found same
    exact ⟨beside_orderly beside orderly, fun w => beside_spares beside (fun _ known => known) rfl⟩
  | elsewhere s =>
    have beside := elsewhere_beside may.1 may.2.1 may.2.2.1 may.2.2.2
    exact ⟨beside_orderly beside orderly, fun w => beside_spares beside (fun _ known => known) rfl⟩

end Events

theorem workers_composable (config : DomainConfig) (prompt : Prop) :
    Composable (W := workers config (diligentWorkers config prompt)) Orderly (jobDuty prompt)
      (fun w d => d.owing w = none) (fun w _ => Released prompt w) where
  shared _ _ := Iff.rfl
  starts w := triple_embed (Issued.mk w) processJob_rule
  idle _ := durable_stable (durable_owing none)
  done _ _ := durable_stable fun a b spares released prompted =>
    durable_owing none a b spares (released prompted)
  dead _ := durable_stable fun a b spares released prompted =>
    durable_owing none a b spares (released prompted)
  compatible _ other _ _ different _ _ stepped := stepped other (Ne.symm different)
  ticks event _ orderly may := happen_kept event orderly may

end HyruleCloud
