import HyruleCloud.Fulfilment
import HyruleCloud.Protocol

/-!
The leases of the job queue, domains/service.py: `_claim_job` writes a timestamp and an
owner, and the sessions that complete, requeue or fail a job read the row by its id
alone. The jobs are those of every kind, with their operations; what else a job does
is left to `work`.
-/

namespace HyruleCloud

open Interaction Function

abbrev JobId := Nat

inductive WorkKind where
  | fulfillOrder | nameservers | dnssec | transferOut | reconcileDomain | attachVm | detachVm
  deriving DecidableEq

structure LeasedJob where
  kind : WorkKind
  resource : Nat
  status : JobStatus := .queued
  attempts : Nat := 0
  availableAt : Time := 0
  lockedAt : Option Time := none
  lockedBy : Option ProcessId := none

/-- `running w` is the job that execution `w` is at work on, `holder` the execution that
has claimed a job last, and `refunds` the orders for which a failed job has asked
`_fail_paid_order` to refund the whole amount. -/
structure JobDesk where
  jobs : Table JobId LeasedJob
  operations : Table OperationId DomainOperationRow
  running : ProcessId → Option JobId
  holder : JobId → Option ProcessId
  refunds : List OrderId := []

def LeasedJob.claimable (job : LeasedJob) (timeout now : Time) : Bool :=
  match job.status with
  | .queued => decide (job.availableAt ≤ now)
  | .running => match job.lockedAt with
      | some since => decide (since + timeout < now)
      | none => false
  | _ => false

/-- `_claim_job`, by a process that calls itself `name`. -/
def claimWork (timeout : Time) (w : ProcessId) (job : JobId) (name : ProcessId) (now : Time) :
    Transaction JobDesk Bool := fun desk =>
  match desk.jobs job with
  | none => .ok (desk, false)
  | some row =>
    if row.claimable timeout now then
      let claimed := { row with
        status := .running
        lockedAt := some now
        lockedBy := some name
        attempts := row.attempts + 1 }
      .ok ({ desk with
        jobs := desk.jobs.put job claimed
        running := update desk.running w (some job)
        holder := update desk.holder job (some w) }, true)
    else .ok (desk, false)

/-- What a session writes into a job that it has read by its id. -/
def JobDesk.write (desk : JobDesk) (job : JobId) (change : LeasedJob → LeasedJob) : JobDesk :=
  match desk.jobs job with
  | none => desk
  | some row => { desk with jobs := desk.jobs.put job (change row) }

def JobDesk.writeOperation (desk : JobDesk) (operation : Option OperationId)
    (change : DomainOperationRow → DomainOperationRow) : JobDesk :=
  match operation with
  | none => desk
  | some id => match desk.operations id with
      | none => desk
      | some row => { desk with operations := desk.operations.put id (change row) }

/-- The end of `process_jobs` after a dispatch that returned. -/
def completeWork (job : JobId) : Transaction JobDesk (Option OrderId) := fun desk =>
  .ok (desk.write job fun row => { row with status := .completed }, none)

/-- The rows that `_retry_or_fail_job` has read when it writes. -/
structure FailureView where
  attempts : Nat
  final : FinalView
  operation : Option OperationId

/-- What a terminal failure of a fulfilment means for its operation. -/
def Terminal.operation (terminal : Terminal) (error : Err) :
    DomainOperationRow → DomainOperationRow :=
  match terminal with
  | .ambiguous => .ends .waitingProvider (some "registration_reconciliation_required")
  | .renewalPending | .dnsFailed => .is .failed
  | .delivered => .is .succeeded
  | .fullRefund => .ends .failed (some (error.codeOr "operation_failed"))

def failOperation (row : LeasedJob) (error : Err) (view : FailureView) (desk : JobDesk) : JobDesk :=
  match row.kind with
  | .fulfillOrder =>
    desk.writeOperation view.operation ((terminalOf row.resource view.final).operation error)
  | .nameservers | .dnssec | .transferOut =>
    desk.writeOperation (some row.resource)
      (.ends .failed (some (error.codeOr "operation_failed")))
  | .reconcileDomain | .attachVm | .detachVm => desk

/-- The session of `_retry_or_fail_job`; its result is the order to refund, if any. -/
def retryOrFailWork (job : JobId) (error : Err) (view : FailureView) (now : Time) :
    Transaction JobDesk (Option OrderId) := fun desk =>
  match desk.jobs job with
  | none => .ok (desk, none)
  | some row =>
    if error.isRetryable && decide (view.attempts < 10) then
      .ok (desk.write job fun row => { row with
        status := .queued
        availableAt := now + min 3600 (2 ^ view.attempts * 5)
        lockedAt := none
        lockedBy := none }, none)
    else
      .ok (failOperation row error view (desk.write job fun row => { row with status := .failed }),
        if row.kind = .fulfillOrder ∧ terminalOf row.resource view.final = .fullRefund
          then some row.resource else none)

inductive JobEnding where
  | returned
  | raised (error : Err) (view : FailureView) (now : Time)

def JobEnding.commit (ending : JobEnding) (job : JobId) : Transaction JobDesk (Option OrderId) :=
  match ending with
  | .returned => completeWork job
  | .raised error view now => retryOrFailWork job error view now

/-- `retry_job`, api/admin.py; `refused` iff the order is terminal. -/
def retryFailedJob (job : JobId) (refused : Bool) (now : Time) (desk : JobDesk) : JobDesk :=
  match desk.jobs job with
  | none => desk
  | some row =>
    let queued := desk.write job fun row => { row with
      status := .queued
      availableAt := now
      lockedAt := none
      lockedBy := none }
    if row.status ≠ .failed then desk
    else match row.kind with
      | .fulfillOrder => if refused then desk else queued
      | .nameservers | .dnssec | .transferOut => match desk.operations row.resource with
          | none => desk
          | some _ => queued.writeOperation (some row.resource) (.ends .queued none)
      | .reconcileDomain | .attachVm | .detachVm => queued

inductive JobStep where
  | enqueue (job : JobId) (kind : WorkKind) (resource : Nat) (availableAt : Time)
  | claim (w : ProcessId) (job : JobId) (name : ProcessId) (now : Time) (fate : Fate)
  | finish (w : ProcessId) (ending : JobEnding) (fate : Fate)
  | crash (w : ProcessId)
  | retry (job : JobId) (refused : Bool) (now : Time)
  | work (operations : Table OperationId DomainOperationRow)

def jobStep (timeout : Time) (step : JobStep) (desk : JobDesk) : JobDesk :=
  match step with
  | .enqueue job kind resource availableAt => match desk.jobs job with
      | none =>
        let row := { kind := kind, resource := resource, availableAt := availableAt }
        { desk with jobs := desk.jobs.put job row }
      | some _ => desk
  | .claim w job name now fate => match desk.running w with
      | none => match transact (claimWork timeout w job name now) fate desk with
          | (after, .ok _) => after
          -- the process never learns that it has claimed the job
          | (after, .error _) => { after with running := desk.running }
      | some _ => desk
  | .finish w ending fate => match desk.running w with
      | none => desk
      | some job =>
        let (after, reply) := transact (ending.commit job) fate desk
        let refunds := match reply with
          | .ok (some order) => order :: after.refunds
          | _ => after.refunds
        { after with running := update after.running w none, refunds := refunds }
  | .crash w => { desk with running := update desk.running w none }
  | .retry job refused now => retryFailedJob job refused now desk
  | .work operations => { desk with operations := operations }

def jobQueue (timeout : Time) : Protocol JobDesk JobStep := ⟨jobStep timeout, fun _ _ => True⟩

/-- A job is claimed when no other execution is at work on it any more. -/
def FromNobody (step : JobStep) (desk : JobDesk) : Prop :=
  match step with
  | .claim _ job _ _ _ => ∀ v, desk.running v ≠ some job
  | _ => True

def exclusiveQueue (timeout : Time) : Protocol JobDesk JobStep := ⟨jobStep timeout, FromNobody⟩

def CompletedStays (mid final : JobDesk) : Prop :=
  ∀ job row, mid.jobs job = some row → row.status = .completed →
    ∃ later, final.jobs job = some later ∧ later.status = .completed

/-- An execution whose job somebody else has claimed since ends without a trace. -/
def HonoursLease (timeout : Time) (step : JobStep) (desk : JobDesk) : Prop :=
  match step with
  | .finish w _ _ => ∀ job, desk.running w = some job → desk.holder job ≠ some w →
      (jobStep timeout step desk).jobs = desk.jobs ∧
        (jobStep timeout step desk).operations = desk.operations ∧
        (jobStep timeout step desk).refunds = desk.refunds
  | _ => True

/-- Between any two states of a run, and in the step after the first. -/
structure LeasesKept (timeout : Time) (mid final : JobDesk) (rest : List JobStep) : Prop where
  completed : CompletedStays mid final
  overrun : ∀ step later, rest = step :: later → HonoursLease timeout step mid

def NobodyRuns (desk : JobDesk) : Prop := ∀ w, desk.running w = none

/-- The last claim of the job is the one of `w`, and its row says that it runs. -/
def HoldsLease (w : ProcessId) (job : JobId) (desk : JobDesk) : Prop :=
  desk.holder job = some w ∧ ∃ row, desk.jobs job = some row ∧ row.status = .running

def LeasesHeld (desk : JobDesk) : Prop := ∀ w job, desk.running w = some job → HoldsLease w job desk

/-- Only the row of `job` differs, and nobody has begun or ended. -/
structure WritesJob (job : JobId) (before after : JobDesk) : Prop where
  others : ∀ other, other ≠ job → after.jobs other = before.jobs other
  running : after.running = before.running
  holder : after.holder = before.holder

section Writes
variable {desk after : JobDesk} {job : JobId}

theorem WritesJob.refl : WritesJob job desk desk := ⟨fun _ _ => rfl, rfl, rfl⟩

theorem put_writes (row : LeasedJob) :
    WritesJob job desk { desk with jobs := desk.jobs.put job row } :=
  ⟨fun _ apart => put_other _ _ apart, rfl, rfl⟩

theorem write_writes (change : LeasedJob → LeasedJob) :
    WritesJob job desk (desk.write job change) := by
  unfold JobDesk.write
  split
  · exact WritesJob.refl
  · exact put_writes _

theorem writes_writeOperation (operation : Option OperationId)
    (change : DomainOperationRow → DomainOperationRow) (writes : WritesJob job desk after) :
    WritesJob job desk (after.writeOperation operation change) := by
  unfold JobDesk.writeOperation
  split
  · exact writes
  · split
    · exact writes
    · exact { writes with }

theorem writes_failOperation (row : LeasedJob) (error : Err) (view : FailureView)
    (writes : WritesJob job desk after) :
    WritesJob job desk (failOperation row error view after) := by
  unfold failOperation
  split
  · exact writes_writeOperation _ _ writes
  · exact writes_writeOperation _ _ writes
  · exact writes_writeOperation _ _ writes
  · exact writes_writeOperation _ _ writes
  · exact writes
  · exact writes
  · exact writes

theorem commit_writes (ending : JobEnding) {refund : Option OrderId}
    (done : ending.commit job desk = .ok (after, refund)) : WritesJob job desk after := by
  cases ending with
  | returned =>
    cases done
    exact write_writes _
  | raised error view now =>
    simp only [JobEnding.commit, retryOrFailWork] at done
    split at done
    · cases done
      exact WritesJob.refl
    · split at done
      · cases done
        exact write_writes _
      · cases done
        exact writes_failOperation _ _ _ (write_writes _)

variable (desk job) in
theorem retryFailedJob_writes (refused : Bool) (now : Time) :
    retryFailedJob job refused now desk = desk ∨
      (∃ row, desk.jobs job = some row ∧ row.status = .failed) ∧
        WritesJob job desk (retryFailedJob job refused now desk) := by
  unfold retryFailedJob
  split
  · exact Or.inl rfl
  rename_i row found
  by_cases failed : row.status = .failed
  · refine Or.inr ⟨⟨row, found, failed⟩, ?_⟩
    rw [if_neg (not_not.mpr failed)]
    split
    · split
      · exact WritesJob.refl
      · exact write_writes _
    all_goals first
      | exact write_writes _
      | (split
         · exact WritesJob.refl
         · exact writes_writeOperation _ _ (write_writes _))
  · exact Or.inl (if_pos failed)

end Writes

section Steps
variable {timeout : Time} {desk after : JobDesk} {job : JobId}

theorem CompletedStays.refl : CompletedStays desk desk := fun _ row found completed =>
  ⟨row, found, completed⟩

theorem writes_completed (others : ∀ other, other ≠ job → after.jobs other = desk.jobs other)
    (pending : ∀ row, desk.jobs job = some row → row.status ≠ .completed) :
    CompletedStays desk after := by
  intro other row found completed
  have apart : other ≠ job := by
    rintro rfl
    exact pending row found completed
  exact ⟨row, (others other apart).trans found, completed⟩

theorem holdsLease_written {w : ProcessId} {other : JobId} (holds : HoldsLease w other desk)
    (row : after.jobs other = desk.jobs other) (holder : after.holder other = desk.holder other) :
    HoldsLease w other after := by
  obtain ⟨last, running, found, status⟩ := holds
  exact ⟨holder.trans last, running, row.trans found, status⟩

theorem writes_held (held : LeasesHeld desk) (writes : WritesJob job desk after)
    (nobody : ∀ w, desk.running w ≠ some job) : LeasesHeld after := by
  intro w other running
  rw [writes.running] at running
  have apart : other ≠ job := by
    rintro rfl
    exact nobody w running
  exact holdsLease_written (held w other running) (writes.others other apart) (by rw [writes.holder])

theorem claimable_pending {row : LeasedJob} {now : Time}
    (claimable : row.claimable timeout now = true) : row.status ≠ .completed := by
  intro completed
  simp [LeasedJob.claimable, completed] at claimable

/-- What a claim has committed, and whether the process knows of it. -/
structure Claims (w : ProcessId) (job : JobId) (before after : JobDesk) : Prop where
  pending : ∀ row, before.jobs job = some row → row.status ≠ .completed
  others : ∀ other, other ≠ job → after.jobs other = before.jobs other
  holders : ∀ other, other ≠ job → after.holder other = before.holder other
  holds : HoldsLease w job after
  running : after.running = before.running ∨
    after.running = update before.running w (some job)

theorem claimWork_claims {w name : ProcessId} {now : Time} {granted : Bool}
    (done : claimWork timeout w job name now desk = .ok (after, granted)) :
    after = desk ∨ Claims w job desk after := by
  unfold claimWork at done
  split at done
  · cases done
    exact Or.inl rfl
  · rename_i row found
    split at done
    · rename_i claimable
      cases done
      refine Or.inr ⟨fun other there => ?_, fun other apart => put_other _ _ apart,
        fun other apart => update_of_ne apart _ _, ?_, Or.inr rfl⟩
      · rw [found] at there
        cases there
        exact claimable_pending claimable
      · exact ⟨update_self _ _ _, _, put_same _ _ _, rfl⟩
    · cases done
      exact Or.inl rfl

variable (timeout desk job) in
theorem claim_claims (w name : ProcessId) (now : Time) (fate : Fate) :
    jobStep timeout (.claim w job name now fate) desk = desk ∨
      Claims w job desk (jobStep timeout (.claim w job name now fate) desk) := by
  simp only [jobStep]
  split
  · split
    · rename_i after granted ran
      rcases transact_cases _ _ _ _ _ ran with ⟨rfl, _⟩ | ⟨value, done, _⟩ | ⟨value, done, _⟩
      · exact Or.inl rfl
      · exact claimWork_claims done
      · exact claimWork_claims done
    · rename_i after error ran
      rcases transact_cases _ _ _ _ _ ran with ⟨rfl, _⟩ | ⟨value, _, _, unknown⟩ | ⟨value, done, _⟩
      · exact Or.inl rfl
      · cases unknown
      · rcases claimWork_claims done with rfl | claims
        · exact Or.inl rfl
        · exact Or.inr { claims with running := Or.inl rfl }
  · exact Or.inl rfl

variable (timeout) in
theorem finish_writes {w : ProcessId} (ending : JobEnding) (fate : Fate)
    (running : desk.running w = some job) :
    let after := jobStep timeout (.finish w ending fate) desk
    (∀ other, other ≠ job → after.jobs other = desk.jobs other) ∧ after.holder = desk.holder ∧
      after.running = update desk.running w none := by
  simp only [jobStep, running]
  generalize ran : transact (ending.commit job) fate desk = result
  obtain ⟨after, reply⟩ := result
  have writes : WritesJob job desk after := by
    rcases transact_cases _ _ _ _ _ ran with ⟨rfl, _⟩ | ⟨value, done, _⟩ | ⟨value, done, _⟩
    · exact WritesJob.refl
    · exact commit_writes ending done
    · exact commit_writes ending done
  refine ⟨writes.others, writes.holder, ?_⟩
  rw [writes.running]

theorem jobStep_kept (step : JobStep) (held : LeasesHeld desk) (alone : FromNobody step desk) :
    LeasesHeld (jobStep timeout step desk) ∧ CompletedStays desk (jobStep timeout step desk) := by
  cases step with
  | enqueue job kind resource availableAt =>
    simp only [jobStep]
    split
    · rename_i absent
      refine ⟨writes_held held (put_writes _) fun w running => ?_,
        writes_completed (put_writes _).others fun row found => ?_⟩
      · obtain ⟨_, row, found, _⟩ := held w job running
        rw [absent] at found
        cases found
      · rw [absent] at found
        cases found
    · exact ⟨held, CompletedStays.refl⟩
  | claim w job name now fate =>
    rcases claim_claims timeout desk job w name now fate with same | claims
    · rw [same]
      exact ⟨held, CompletedStays.refl⟩
    · refine ⟨fun v other running => ?_, writes_completed claims.others claims.pending⟩
      have before : desk.running v = some other ∨ v = w ∧ other = job := by
        rcases claims.running with same | begun
        · rw [same] at running
          exact Or.inl running
        · rw [begun] at running
          rcases update_cases running with ⟨rfl, ⟨⟩⟩ | ⟨_, running⟩
          · exact Or.inr ⟨rfl, rfl⟩
          · exact Or.inl running
      rcases before with before | ⟨rfl, rfl⟩
      · have apart : other ≠ job := by
          intro same
          exact alone v (same ▸ before)
        exact holdsLease_written (held v other before) (claims.others other apart)
          (claims.holders other apart)
      · exact claims.holds
  | finish w ending fate =>
    cases running : desk.running w with
    | none =>
      simp only [jobStep, running]
      exact ⟨held, CompletedStays.refl⟩
    | some job =>
      obtain ⟨others, holder, idle⟩ := finish_writes timeout ending fate running
      obtain ⟨mine, row, found, runs⟩ := held w job running
      refine ⟨fun v other still => ?_, writes_completed others fun row' there => ?_⟩
      · rw [idle] at still
        have apart : v ≠ w := by
          rintro rfl
          rw [update_self] at still
          cases still
        rw [update_of_ne apart] at still
        have elsewhere : other ≠ job := by
          rintro rfl
          have theirs := (held v other still).1
          rw [mine] at theirs
          exact apart (Option.some.inj theirs).symm
        exact holdsLease_written (held v other still) (others other elsewhere) (by rw [holder])
      · rw [found] at there
        cases there
        rw [runs]
        intro waits
        cases waits
  | crash w =>
    refine ⟨fun v other still => ?_, CompletedStays.refl⟩
    rcases update_cases still with ⟨rfl, ⟨⟩⟩ | ⟨_, still⟩
    exact holdsLease_written (held v other still) rfl rfl
  | retry job refused now =>
    simp only [jobStep]
    rcases retryFailedJob_writes desk job refused now with
      same | ⟨⟨row, found, failed⟩, writes⟩
    · rw [same]
      exact ⟨held, CompletedStays.refl⟩
    · refine ⟨writes_held held writes fun w running => ?_,
        writes_completed writes.others fun row' there => ?_⟩
      · obtain ⟨_, row', there, runs⟩ := held w job running
        rw [found] at there
        cases there
        rw [failed] at runs
        cases runs
      · rw [found] at there
        cases there
        rw [failed]
        intro waits
        cases waits
  | work operations => exact ⟨fun w job running => held w job running, CompletedStays.refl⟩

end Steps

theorem CompletedStays.trans {a b c : JobDesk} (first : CompletedStays a b)
    (rest : CompletedStays b c) : CompletedStays a c := by
  intro job row found completed
  obtain ⟨later, there, still⟩ := first job row found completed
  exact rest job later there still

/-- In every run in which a job is claimed only when nobody is at work on it any more,
its completion stays and no execution overruns its lease. -/
theorem completed_job_stays (timeout : Time) (desk : JobDesk) (first rest : List JobStep)
    (start : NobodyRuns desk) (admitted : (exclusiveQueue timeout).admits desk (first ++ rest)) :
    LeasesKept timeout ((exclusiveQueue timeout).run desk first)
      ((exclusiveQueue timeout).run desk (first ++ rest)) rest := by
  rw [Protocol.admits_append] at admitted
  rw [Protocol.run_append]
  have held : LeasesHeld ((exclusiveQueue timeout).run desk first) := by
    refine @Protocol.run_keeps _ _ (exclusiveQueue timeout) LeasesHeld
      (fun step _ held alone => (jobStep_kept step held alone).1) first desk
      (fun w job running => ?_) admitted.1
    rw [start w] at running
    cases running
  constructor
  · exact @Protocol.run_related _ _ (exclusiveQueue timeout) LeasesHeld CompletedStays
      (fun _ => CompletedStays.refl) (fun _ _ _ => CompletedStays.trans)
      (fun step _ held alone => jobStep_kept step held alone) rest _ held admitted.2
  · intro step later next
    cases step with
    | finish w ending fate =>
      intro job running lost
      exact absurd (held w job running).1 lost
    | _ => trivial

def emptyQueue : JobDesk where
  jobs _ := none
  operations _ := none
  running _ := none
  holder _ := none

/-- A worker dies, and the next one takes its job over and completes it. -/
theorem abandoned_job_completed :
    LeasesKept 900
      ((exclusiveQueue 900).run emptyQueue
        [.enqueue 0 .attachVm 7 0, .claim 0 0 0 0 .done, .crash 0, .claim 1 0 1 1000 .done])
      ((exclusiveQueue 900).run emptyQueue
        ([.enqueue 0 .attachVm 7 0, .claim 0 0 0 0 .done, .crash 0, .claim 1 0 1 1000 .done] ++
          [.finish 1 .returned .done]))
      [.finish 1 .returned .done] := by
  refine completed_job_stays 900 emptyQueue _ _ (fun _ => rfl)
    ⟨trivial, fun _ => nofun, trivial, fun v running => ?_, trivial, trivial⟩
  simp [jobStep, exclusiveQueue, transact, claimWork, emptyQueue, LeasedJob.claimable] at running

def staleFailure : JobEnding := .raised .timeout ⟨2, ⟨none, none, none⟩, none⟩ 1010

/-- A worker that is slower than its lease requeues what its successor has completed. -/
theorem completed_job_requeued :
    ¬ ∀ (timeout : Time) (desk : JobDesk) (first rest : List JobStep), NobodyRuns desk →
      (jobQueue timeout).admits desk (first ++ rest) →
      LeasesKept timeout ((jobQueue timeout).run desk first)
        ((jobQueue timeout).run desk (first ++ rest)) rest := by
  intro always
  have kept := always 900 emptyQueue
    [.enqueue 0 .attachVm 7 0, .claim 0 0 0 0 .done, .claim 1 0 1 1000 .done,
      .finish 1 .returned .done]
    [.finish 0 staleFailure .done] (fun _ => rfl)
    ⟨trivial, trivial, trivial, trivial, trivial, trivial⟩
  obtain ⟨later, found, completed⟩ := kept.completed 0 _ rfl (by decide +kernel)
  have queued : later.status = .queued := by
    cases found
    decide +kernel
  rw [queued] at completed
  cases completed

end HyruleCloud
