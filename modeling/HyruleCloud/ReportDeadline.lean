import HyruleCloud.GuestReceipts
import HyruleCloud.Interleaving

/-!
The deadline of a guest's report: the poll of the receipt, the handler of a
failed attempt, a resume that renews the deadline, and the report itself, on one
VM. A session that holds the lock of the receipt is one step. It reads the clock
while it holds the lock, so not before `serial`, the time at which the lock was
last released. `pastDue`, `seen`, `missing` and `ignored` only record what has
happened: whose locked poll found the deadline past with no renewal since, the
deadline a poller has read last, a failure for a missing report, and whether such
a failure was committed against a deadline that its poller had not seen.
-/

namespace HyruleCloud

open Interaction Function

structure Countdown where
  status : VMStatus := .provisioning
  uuid : Option Uuid
  suspension : Option Suspension := none
  receipt : Option ReceiptRow
  clock : Time := 0
  serial : Time := 0
  pastDue : Nat → Bool := fun _ => false
  seen : Nat → Option Time := fun _ => none
  missing : Bool := false
  refunded : Bool := false
  ignored : Bool := false

inductive CountdownReq : Type → Type where
  | readReceipt (poller : Nat) : CountdownReq (Option ReceiptRow)
  | now : CountdownReq Time
  | lockedPoll (poller : Nat) : CountdownReq (Option ReceiptRow × Time)
  | finish (generation : Generation) : CountdownReq Unit
  | fail (poller : Nat) (reason : String) : CountdownReq Bool
  | recordRefund (reason : String) : CountdownReq Unit
  | resume (window : Time) : CountdownReq Unit
  | report (generation : Generation) (token : Secret) (result : GuestResult) : CountdownReq Unit

/-- The time that a session reads under its lock, the fate of its commit, and
whether the guest of a failed attempt could be stopped. -/
inductive CountdownChoice where
  | commit (fate : Fate)
  | clocked (now : Time) (fate : Fate)
  | stop (stopped : Bool) (fate : Fate)

section Sessions
variable (c : Countdown)

def deadlineOf : Option Time := c.receipt.map (·.deadline)

def lookedAt (poller : Nat) : Countdown :=
  { c with seen := update c.seen poller (deadlineOf c) }

/-- The locked look of a poll at the time `now`. -/
def lockedPoll (poller : Nat) (now : Time) : Transaction Countdown (Option ReceiptRow × Time) :=
  fun c => .ok ({ lookedAt c poller with
    serial := c.clock
    pastDue := update c.pastDue poller
      (c.receipt.any fun row => row.report.isNone && decide (row.deadline < now)) },
    (c.receipt, now))

def finishReported (generation : Generation) : Transaction Countdown Unit := fun c =>
  let restricted := c.suspension = some .accountDisabled ∨ c.suspension = some .manualAdmin
  if c.status ≠ .provisioning ∧ ¬ (restricted ∧ c.status = .suspended) then .ok (c, ())
  else match c.receipt with
    | none => .error .generationChanged
    | some row =>
      if row.generation ≠ generation then .error .generationChanged
      else if row.outcome ≠ some .succeeded then .error (.provisioningFailed "guest_report")
      else .ok ({ c with
        status := if c.suspension.isSome then .suspended else .ready }, ())

/-- The session of the failure handler, which does not look at the receipt.
`false`: there is nothing to fail, or the guest could not be stopped. -/
def failReported (poller : Nat) (reason : String) (stopped : Bool) :
    Transaction Countdown Bool := fun c =>
  if c.status ≠ .provisioning ∨ (c.uuid.isSome ∧ stopped = false) then .ok (c, false)
  else .ok ({ c with
    status := .failed
    missing := c.missing || decide (reason = "guest_report")
    ignored := c.ignored || (decide (reason = "guest_report") &&
      c.receipt.any fun row => c.seen poller != some row.deadline) }, true)

/-- The session of a resume, with `renew_provisioning_report_deadline`. -/
def resumeReported (window now : Time) : Transaction Countdown Unit := fun c =>
  if c.status ≠ .provisioning ∨ c.uuid = none then .error (.value "not resumable")
  else .ok ({ c with
    receipt := c.receipt.map fun row => renewedReceipt row (now + window)
    suspension := none
    serial := c.clock
    pastDue := fun _ => false }, ())

def reportResult (generation : Generation) (token : Secret) (result : GuestResult) (now : Time) :
    Transaction Countdown Unit := fun c =>
  match acceptedReceipt c.receipt generation token result now with
  | .ok row => .ok ({ c with receipt := some row, serial := c.clock }, ())
  | .error error => .error error

end Sessions

def underLock {β : Type} (tx : Time → Transaction Countdown β) (choice : CountdownChoice)
    (c : Countdown) : Option (Countdown × Except Err β) :=
  match choice with
  | .clocked now fate =>
    if c.serial ≤ now ∧ now ≤ c.clock then some (transact (tx now) fate c) else none
  | _ => none

def countdownExec {β : Type} (request : CountdownReq β) (choice : CountdownChoice)
    (c : Countdown) : Option (Countdown × Except Err β) :=
  match request with
  | .readReceipt poller => match choice with
      | .commit .failed => some (c, .error .database)
      | .commit _ => some (lookedAt c poller, .ok c.receipt)
      | _ => none
  | .now => match choice with
      | .commit _ => some (c, .ok c.clock)
      | _ => none
  | .lockedPoll poller => underLock (lockedPoll poller) choice c
  | .finish generation => match choice with
      | .commit fate => some (transact (finishReported generation) fate c)
      | _ => none
  | .fail poller reason => match choice with
      | .stop stopped fate => some (transact (failReported poller reason stopped) fate c)
      | _ => none
  | .recordRefund _ => match choice with
      | .commit .failed => some (c, .ok ())
      | .commit _ => some ({ c with refunded := true }, .ok ())
      | _ => none
  | .resume window => underLock (resumeReported window) choice c
  | .report generation token result => underLock (reportResult generation token result) choice c

abbrev Countdowns (α : Type) := Proc CountdownReq Err α

def poll {β : Type} (request : CountdownReq β) : Countdowns β := Proc.perform request

/-- `_poll_guest_result`: only a deadline that is past at the first look is
looked at again under the lock. -/
def pollGuestResult (poller : Nat) (generation : Generation) : Countdowns (Option Time) := do
  let found ← poll (.readReceipt poller)
  let first ← poll .now
  if found.any fun row => row.report.isNone && decide (row.deadline ≤ first) then do
    let (fresh, now) ← poll (.lockedPoll poller)
    Proc.ofReply (pollVerdict fresh generation now)
  else do
    let now ← poll .now
    Proc.ofReply (pollVerdict found generation now)

/-- `_wait_for_guest_result`, for as many polls as the process lives. -/
def waitForGuestResult (poller : Nat) (generation : Generation) : Nat → Countdowns Bool
  | 0 => pure false
  | polls + 1 => do
    match ← pollGuestResult poller generation with
    | none => pure true
    | some _ => waitForGuestResult poller generation polls

def awaitReport (poller polls : Nat) : Countdowns Unit :=
  ((do
    match ← poll (.readReceipt poller) with
    | none => .raise (.provisioningFailed "guest_report")
    | some row => do
      if ← waitForGuestResult poller row.generation polls then poll (.finish row.generation)
      else pure ()) : Countdowns Unit).rescue fun error => match error with
    | .generationChanged | .recoveryPending => pure ()
    | other => do
      if ← poll (.fail poller (failureDetail other)) then
        poll (.recordRefund (failureDetail other))
      else pure ()

inductive CountdownJob where
  | await (polls : Nat)
  | resume (window : Time)
  | report (generation : Generation) (token : Secret) (outcome : ReportOutcome)
      (stage : ReportStage) (exitCode : Nat)

def CountdownJob.program (thread : Nat) : CountdownJob → Countdowns Unit
  | .await polls => awaitReport thread polls
  | .resume window => poll (.resume window)
  | .report generation token outcome stage exitCode =>
    match GuestResult.validate outcome stage exitCode with
    | none => .raise (.http 400)
    | some result => poll (.report generation token result)

inductive CountdownEvent where
  | pass (elapsed : Time)
  | suspend (reason : Suspension)

def CountdownEvent.run (event : CountdownEvent) (c : Countdown) : Countdown :=
  match event with
  | .pass elapsed => { c with clock := c.clock + elapsed }
  | .suspend reason => { c with suspension := some reason }

def countdown (setting : Setting CountdownReq Err Countdown CountdownChoice)
    (jobs : Nat → CountdownJob) :
    Workload CountdownReq Err Countdown CountdownChoice CountdownEvent Nat where
  setting := setting
  prog thread := (jobs thread).program thread
  env := CountdownEvent.run
  mayTick _ _ := True

/-- A report is only declared missing on the word of a locked poll that no resume
has overtaken. -/
def Overdue {β : Type} (request : CountdownReq β) (choice : CountdownChoice) (c : Countdown) :
    Prop :=
  match request with
  | .fail poller reason => reason = "guest_report" → c.receipt.isSome →
      c.pastDue poller = true ∨ ∃ stopped, choice = .stop stopped .failed
  | _ => True

def countdownSetting : Setting CountdownReq Err Countdown CountdownChoice where
  exec := countdownExec
  permits := Overdue
  mayCrash _ _ := True

/-- A failure for a missing report has no success beside it, and was committed
against the deadline that its poller had seen. -/
structure Declared (c : Countdown) : Prop where
  single : c.missing = true → ∀ row, c.receipt = some row → row.outcome ≠ some .succeeded
  heeded : c.ignored = false

def BeyondReport (c : Countdown) (row : ReceiptRow) : Prop :=
  row.report = none ∧ row.deadline < c.serial

structure Timely (c : Countdown) : Prop where
  order : c.serial ≤ c.clock
  overdue : ∀ poller, c.pastDue poller = true → ∃ row, c.receipt = some row ∧
    BeyondReport c row ∧ c.seen poller = some row.deadline
  closed : c.missing = true → c.status ≠ .provisioning ∧
    ∀ row, c.receipt = some row → BeyondReport c row
  heeded : c.ignored = false

section Steps
variable {c c' : Countdown}

theorem timely_aside (timely : Timely c) (receipt : c'.receipt = c.receipt)
    (serial : c'.serial = c.serial) (clock : c'.clock = c.clock) (past : c'.pastDue = c.pastDue)
    (seen : c'.seen = c.seen) (missing : c'.missing = c.missing) (ignored : c'.ignored = c.ignored)
    (status : c.status ≠ .provisioning → c'.status ≠ .provisioning) : Timely c' where
  order := by rw [serial, clock]; exact timely.order
  overdue poller due := by
    simp only [past, receipt, seen, BeyondReport, serial] at due ⊢
    exact timely.overdue poller due
  closed lost := by
    simp only [missing, receipt, BeyondReport, serial] at lost ⊢
    exact ⟨status (timely.closed lost).1, (timely.closed lost).2⟩
  heeded := ignored.trans timely.heeded

theorem beyond_later {row : ReceiptRow} (timely : Timely c) (beyond : BeyondReport c row)
    (serial : c'.serial = c.clock) : BeyondReport c' row := by
  refine ⟨beyond.1, ?_⟩
  rw [serial]
  exact Nat.lt_of_lt_of_le beyond.2 timely.order

theorem timely_lookedAt (poller : Nat) (timely : Timely c) : Timely (lookedAt c poller) := by
  refine { timely with overdue := fun other due => ?_ }
  obtain ⟨row, found, beyond, seen⟩ := timely.overdue other due
  refine ⟨row, found, beyond, ?_⟩
  by_cases same : other = poller
  · subst same
    simp [lookedAt, deadlineOf, found]
  · simpa [lookedAt, update_of_ne same] using seen

theorem timely_lockedPoll (poller : Nat) (now : Time) (within : now ≤ c.clock)
    (value : Option ReceiptRow × Time) (timely : Timely c)
    (done : lockedPoll poller now c = .ok (c', value)) : Timely c' := by
  obtain ⟨rfl, _⟩ := done
  have looked := timely_lookedAt poller timely
  refine ⟨Nat.le_refl _, fun other due => ?_, fun lost => ?_, timely.heeded⟩
  · by_cases same : other = poller
    · subst same
      obtain ⟨row, found, late⟩ : ∃ row, c.receipt = some row ∧
          row.report = none ∧ row.deadline < now := by
        simpa [Option.any_eq_true] using due
      exact ⟨row, found, ⟨late.1, Nat.lt_of_lt_of_le late.2 within⟩, by
        simp [lookedAt, deadlineOf, found]⟩
    · have before : c.pastDue other = true := by
        simpa [update_of_ne same] using due
      obtain ⟨row, found, beyond, seen⟩ := looked.overdue other before
      exact ⟨row, found, beyond_later timely beyond rfl, seen⟩
  · obtain ⟨past, all⟩ := timely.closed lost
    exact ⟨past, fun row found => beyond_later timely (all row found) rfl⟩

theorem timely_finish (generation : Generation) (value : Unit) (timely : Timely c)
    (done : finishReported generation c = .ok (c', value)) : Timely c' := by
  simp only [finishReported] at done
  repeat' split at done
  all_goals cases done
  · exact timely
  all_goals exact timely_aside timely rfl rfl rfl rfl rfl rfl rfl fun _ absurd => by cases absurd

theorem timely_fail (poller : Nat) (reason : String) (stopped : Bool) (value : Bool)
    (overdue : reason = "guest_report" → c.receipt.isSome → c.pastDue poller = true)
    (timely : Timely c) (done : failReported poller reason stopped c = .ok (c', value)) :
    Timely c' := by
  simp only [failReported] at done
  split at done
  · cases done
    exact timely
  · cases done
    refine ⟨timely.order, timely.overdue, fun lost => ?_, ?_⟩
    · refine ⟨(fun absurd => by cases absurd), fun row found => ?_⟩
      rcases Bool.or_eq_true _ _ ▸ lost with before | now
      · exact (timely.closed before).2 row found
      obtain ⟨same, found', beyond, _⟩ := timely.overdue poller
        (overdue (of_decide_eq_true now) (by
          rw [show c.receipt = some row from found]
          rfl))
      rw [show c.receipt = some row from found] at found'
      cases found'
      exact beyond
    · cases present : c.receipt with
      | none => simp [timely.heeded]
      | some row =>
        by_cases absent : reason = "guest_report"
        · obtain ⟨same, found, _, seen⟩ := timely.overdue poller (overdue absent (by simp [present]))
          rw [present] at found
          cases found
          simp [seen, timely.heeded]
        · simp [absent, timely.heeded]

theorem timely_resume (window now : Time) (value : Unit) (timely : Timely c)
    (done : resumeReported window now c = .ok (c', value)) : Timely c' := by
  simp only [resumeReported] at done
  split at done
  · cases done
  rename_i open_
  simp only [not_or, not_not] at open_
  cases done
  exact ⟨Nat.le_refl _, (fun _ absurd => by cases absurd),
    fun lost => absurd open_.1 (timely.closed lost).1, timely.heeded⟩

theorem timely_report (generation : Generation) (token : Secret) (result : GuestResult)
    (now : Time) (value : Unit) (late : c.serial ≤ now) (timely : Timely c)
    (done : reportResult generation token result now c = .ok (c', value)) : Timely c' := by
  simp only [reportResult] at done
  split at done
  · rename_i next accepted
    cases done
    have shut (row : ReceiptRow) (found : c.receipt = some row) (beyond : BeyondReport c row) :
        False := by
      rw [found] at accepted
      exact late_refused row generation token result now beyond.1
        (Nat.lt_of_lt_of_le beyond.2 late) next accepted
    obtain ⟨row, found, _⟩ := accepted_cases accepted
    refine ⟨Nat.le_refl _, fun poller due => ?_, fun lost => ?_, timely.heeded⟩
    · obtain ⟨same, present, beyond, _⟩ := timely.overdue poller due
      exact absurd (shut same present beyond) id
    · exact absurd (shut row found ((timely.closed lost).2 row found)) id
  · cases done

theorem session_timely {β : Type} {tx : Transaction Countdown β} {fate : Fate}
    {reply : Except Err β} (timely : Timely c) (ran : transact tx fate c = (c', reply))
    (keeps : ∀ next value, fate ≠ .failed → tx c = .ok (next, value) → Timely next) :
    Timely c' := by
  rcases transact_cases tx fate c c' reply ran with
    ⟨rfl, _⟩ | ⟨value, done, applied, _⟩ | ⟨value, done, applied, _⟩
  · exact timely
  · exact keeps c' value (by simp [applied]) done
  · exact keeps c' value (by simp [applied]) done

theorem locked_timely {β : Type} {tx : Time → Transaction Countdown β} {choice : CountdownChoice}
    {reply : Except Err β} (timely : Timely c) (ran : underLock tx choice c = some (c', reply))
    (keeps : ∀ now next value, c.serial ≤ now → now ≤ c.clock → tx now c = .ok (next, value) →
      Timely next) : Timely c' := by
  cases choice with
  | clocked now fate =>
    simp only [underLock] at ran
    split at ran
    · rename_i window
      exact session_timely timely (Option.some.inj ran)
        fun next value _ done => keeps now next value window.1 window.2 done
    · cases ran
  | _ => cases ran

theorem timely_step {β : Type} (request : CountdownReq β) (choice : CountdownChoice)
    (reply : Except Err β) (timely : Timely c) (overdue : Overdue request choice c)
    (ran : countdownExec request choice c = some (c', reply)) : Timely c' := by
  cases request with
  | readReceipt poller =>
    simp only [countdownExec] at ran
    split at ran <;> cases ran
    · exact timely
    · exact timely_lookedAt poller timely
  | now =>
    simp only [countdownExec] at ran
    split at ran <;> cases ran
    exact timely
  | lockedPoll poller =>
    exact locked_timely timely ran fun now next value _ within done =>
      timely_lockedPoll poller now within value timely done
  | finish generation =>
    simp only [countdownExec] at ran
    split at ran
    · exact session_timely timely (Option.some.inj ran)
        fun next value _ done => timely_finish generation value timely done
    · cases ran
  | fail poller reason =>
    simp only [countdownExec] at ran
    split at ran
    · rename_i stopped fate
      refine session_timely timely (Option.some.inj ran) fun next value applied done => ?_
      refine timely_fail poller reason stopped value (fun absent present => ?_) timely done
      rcases overdue absent present with due | ⟨_, failed⟩
      · exact due
      · cases failed
        exact absurd rfl applied
    · cases ran
  | recordRefund reason =>
    simp only [countdownExec] at ran
    split at ran <;> cases ran
    · exact timely
    · exact timely_aside timely rfl rfl rfl rfl rfl rfl rfl fun past => past
  | resume window =>
    exact locked_timely timely ran fun now next value _ _ done =>
      timely_resume window now value timely done
  | report generation token result =>
    exact locked_timely timely ran fun now next value late _ done =>
      timely_report generation token result now value late timely done

end Steps

theorem timely_event (event : CountdownEvent) (c : Countdown) (timely : Timely c) :
    Timely (event.run c) := by
  cases event with
  | pass elapsed =>
    exact { timely with order := Nat.le_trans timely.order (Nat.le_add_right _ _) }
  | suspend reason => exact { timely with }

theorem act_timely (jobs : Nat → CountdownJob) (pool : Pool CountdownReq Err Countdown Nat)
    (action : Action Nat CountdownChoice CountdownEvent) (timely : Timely pool.shared)
    (admitted : admits (countdown countdownSetting jobs) pool action) :
    Timely (act (countdown countdownSetting jobs) pool action).shared := by
  have step := act_case (countdown countdownSetting jobs) pool action
  generalize act (countdown countdownSetting jobs) pool action = after at step
  cases step with
  | still | started | crashed => exact timely
  | ticked event => exact timely_event event pool.shared timely
  | stepped t choice request next c reply live ran =>
    simp only [admits, live] at admitted
    exact timely_step request choice reply timely admitted ran

theorem timely_declared (c : Countdown) (timely : Timely c) : Declared c := by
  refine ⟨fun lost row found => ?_, timely.heeded⟩
  simp [ReceiptRow.outcome, ((timely.closed lost).2 row found).1]

structure Unexpired (c : Countdown) : Prop where
  order : c.serial ≤ c.clock
  undecided : c.pastDue = fun _ => false
  unmissed : c.missing = false ∧ c.ignored = false

/-- In every run in which a report is declared missing only on the word of a
locked poll past the deadline that no resume has overtaken. -/
theorem missing_reports_stand (jobs : Nat → CountdownJob) (c : Countdown)
    (schedule : List (Action Nat CountdownChoice CountdownEvent)) (unexpired : Unexpired c)
    (admitted : runAdmitted (countdown countdownSetting jobs) ⟨c, fun _ => .idle⟩ schedule) :
    Declared (run (countdown countdownSetting jobs) ⟨c, fun _ => .idle⟩ schedule).shared := by
  have start : Timely c :=
    ⟨unexpired.order, by simp [unexpired.undecided], by simp [unexpired.unmissed.1],
      unexpired.unmissed.2⟩
  exact timely_declared _ (run_keeps _ (fun pool => Timely pool.shared) (act_timely jobs)
    schedule ⟨c, fun _ => .idle⟩ start admitted)

def trackedGuestReport : Countdown :=
  { uuid := some 0, receipt := some { generation := 1, token := 7, deadline := 900 } }

theorem trackedGuestReport_unexpired : Unexpired trackedGuestReport :=
  ⟨Nat.le_refl _, rfl, rfl, rfl⟩

def resumedGuest : Nat → CountdownJob
  | 0 => .await 1
  | 1 => .resume 900
  | _ => .report 1 7 .succeeded .cloudInit 0

def expiringPoll : List (Action Nat CountdownChoice CountdownEvent) :=
  [.start 0, .step 0 (.commit .done), .step 0 (.commit .done), .tick (.pass 901),
    .step 0 (.commit .done), .step 0 (.clocked 901 .done)]

def lateReport : List (Action Nat CountdownChoice CountdownEvent) :=
  expiringPoll ++ [.start 2, .step 2 (.clocked 901 .done), .step 0 (.stop true .done)]

theorem late_report_refused :
    let final := (run (countdown countdownSetting resumedGuest)
      ⟨trackedGuestReport, fun _ => .idle⟩ lateReport).shared
    final.missing = true ∧ Declared final := by
  have admitted : runAdmitted (countdown countdownSetting resumedGuest)
      ⟨trackedGuestReport, fun _ => .idle⟩ lateReport :=
    ⟨trivial, trivial, trivial, trivial, trivial, trivial, trivial, trivial,
      fun _ _ => Or.inl (by decide +kernel), trivial⟩
  exact ⟨by decide +kernel, missing_reports_stand resumedGuest trackedGuestReport lateReport
    trackedGuestReport_unexpired admitted⟩

def openCountdown : Setting CountdownReq Err Countdown CountdownChoice :=
  { countdownSetting with permits := fun _ _ _ => True }

/-- The guest is resumed and reports in time, and then the poll has its VM failed. -/
def overtakenPoll : List (Action Nat CountdownChoice CountdownEvent) :=
  expiringPoll ++ [.start 1, .step 1 (.clocked 901 .done), .start 2, .step 2 (.clocked 901 .done),
    .step 0 (.stop true .done)]

theorem overtaken_poll_fails :
    ¬ ∀ (jobs : Nat → CountdownJob) (c : Countdown)
      (schedule : List (Action Nat CountdownChoice CountdownEvent)), Unexpired c →
      runAdmitted (countdown openCountdown jobs) ⟨c, fun _ => .idle⟩ schedule →
      Declared (run (countdown openCountdown jobs) ⟨c, fun _ => .idle⟩ schedule).shared := by
  intro claim
  let final := (run (countdown openCountdown resumedGuest) ⟨trackedGuestReport, fun _ => .idle⟩
    overtakenPoll).shared
  have lost : final.status = .failed ∧ final.missing = true := by decide +kernel
  have succeeded : final.receipt.map (·.outcome) = some (some .succeeded) := by decide +kernel
  have admitted : runAdmitted (countdown openCountdown resumedGuest)
      ⟨trackedGuestReport, fun _ => .idle⟩ overtakenPoll :=
    runAdmitted_free _ (fun _ _ _ => trivial) (fun _ _ => trivial) _ (fun _ _ _ => trivial) _
  have declared := claim resumedGuest trackedGuestReport overtakenPoll
    trackedGuestReport_unexpired admitted
  cases present : final.receipt with
  | none => simp [present] at succeeded
  | some row =>
    simp only [present, Option.map_some, Option.some.injEq] at succeeded
    exact declared.single lost.2 row present succeeded

end HyruleCloud
