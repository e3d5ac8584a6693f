import HyruleCloud.Protocol
import HyruleCloud.Store

/-!
The BGP jobs of api/internal_bgp.py. Every handler reads its row in a statement without a lock,
and its commit writes the columns that differ from what it has read.
-/

namespace HyruleCloud.BgpJobs

open Interaction

abbrev BgpJobId := Nat
abbrev Worker := Nat

structure BgpJobRow where
  status : String := "queued"
  claimedBy : Option String := none
  claimedAt : Option Time := none
  heartbeatAt : Option Time := none
  completedAt : Option Time := none
  artifactSnapshotId : Option String := none
  error : Option String := none

structure BgpJobHeartbeat where
  claimedBy : Option String := none
  status : Option String := none
  error : Option String := none
  artifactSnapshotId : Option String := none

inductive JobCall where
  | claim (body : Option BgpJobHeartbeat)
  | heartbeat (body : BgpJobHeartbeat)
  | complete (body : BgpJobHeartbeat)
  | fail (body : BgpJobHeartbeat)

def given (text : Option String) : Option String := text.filter (· ≠ "")

/-- The assignments of a handler to the row that it has read. -/
def JobCall.assign (call : JobCall) (now : Time) (row : BgpJobRow) : BgpJobRow :=
  match call with
  | .claim body => { row with
      status := "claimed"
      claimedBy := body.elim (some "extmon") (·.claimedBy)
      claimedAt := some now
      heartbeatAt := some now }
  | .heartbeat body => { row with
      heartbeatAt := some now
      status := (given body.status).getD row.status
      error := given body.error <|> row.error }
  | .complete body => { row with
      status := "completed"
      artifactSnapshotId := body.artifactSnapshotId
      completedAt := some now }
  | .fail body => { row with
      status := "failed"
      error := body.error
      completedAt := some now }

def column {α : Type} [DecidableEq α] (seen written current : α) : α :=
  if written = seen then current else written

def flush (seen written current : BgpJobRow) : BgpJobRow where
  status := column seen.status written.status current.status
  claimedBy := column seen.claimedBy written.claimedBy current.claimedBy
  claimedAt := column seen.claimedAt written.claimedAt current.claimedAt
  heartbeatAt := column seen.heartbeatAt written.heartbeatAt current.heartbeatAt
  completedAt := column seen.completedAt written.completedAt current.completedAt
  artifactSnapshotId :=
    column seen.artifactSnapshotId written.artifactSnapshotId current.artifactSnapshotId
  error := column seen.error written.error current.error

/-- A handler between its read and its commit, for the worker that has called it. -/
structure Loaded where
  worker : Worker
  call : JobCall
  job : BgpJobId
  seen : BgpJobRow

/-- `handed` are the jobs that claims have returned, `results` the jobs whose status, artifact
or completion time a call was made to set; each with the worker of the call. -/
structure JobBoard where
  jobs : Table BgpJobId BgpJobRow
  handlers : ProcessId → Option Loaded := fun _ => none
  handed : List (BgpJobId × Worker) := []
  results : List (BgpJobId × Worker) := []

def JobCall.claims : JobCall → Bool
  | .claim _ => true
  | _ => false

def JobCall.setsResult : JobCall → Bool
  | .claim _ => false
  | .heartbeat body => (given body.status).isSome
  | .complete _ | .fail _ => true

inductive JobAction where
  | select (process : ProcessId) (worker : Worker) (body : Option BgpJobHeartbeat) (job : BgpJobId)
  | get (process : ProcessId) (worker : Worker) (call : JobCall) (job : BgpJobId)
  | commit (process : ProcessId) (now : Time)
  | abandoned (process : ProcessId)

def JobBoard.hold (board : JobBoard) (process : ProcessId) (loaded : Option Loaded) : JobBoard :=
  { board with handlers := Function.update board.handlers process loaded }

def JobBoard.commit (board : JobBoard) (process : ProcessId) (loaded : Loaded) (now : Time) :
    JobBoard :=
  match board.jobs loaded.job with
  | none => board.hold process none
  | some row =>
    let made := (loaded.job, loaded.worker)
    { board.hold process none with
      jobs := board.jobs.put loaded.job
        (flush loaded.seen (loaded.call.assign now loaded.seen) row)
      handed := if loaded.call.claims then made :: board.handed else board.handed
      results := if loaded.call.setsResult then made :: board.results else board.results }

def jobStep (action : JobAction) (board : JobBoard) : JobBoard :=
  match action with
  | .select process worker body job => match board.jobs job with
      | none => board
      | some row =>
        if row.status = "queued" then board.hold process (some ⟨worker, .claim body, job, row⟩)
        else board
  | .get process worker call job => match board.jobs job with
      | none => board
      | some row =>
        if call.claims then board else board.hold process (some ⟨worker, call, job, row⟩)
  | .commit process now => match board.handlers process with
      | none => board
      | some loaded => board.commit process loaded now
  | .abandoned process => board.hold process none

def BgpJobRow.finished (row : BgpJobRow) : Bool :=
  row.status = "completed" || row.status = "failed"

/-- A claim commits while its job is still queued; a result is set for a worker that was handed
the job, while it is unfinished, and the job is not queued again. -/
def Orderly (loaded : Loaded) (board : JobBoard) : Prop :=
  ∀ row, board.jobs loaded.job = some row →
    (loaded.call.claims = true → row.status = "queued") ∧
    (loaded.call.setsResult = true → (loaded.job, loaded.worker) ∈ board.handed ∧
      row.finished = false ∧ ∀ now, (loaded.call.assign now loaded.seen).status ≠ "queued")

def bgpJobs : Protocol JobBoard JobAction where
  step := jobStep
  may action board := match action with
    | .commit process _ => ∀ loaded, board.handlers process = some loaded → Orderly loaded board
    | _ => True

structure JobsKept (before after : JobBoard) : Prop where
  once : (after.handed.map Prod.fst).Nodup
  holders : after.results ⊆ after.handed
  final : ∀ job row, before.jobs job = some row → row.finished = true →
    ∃ later, after.jobs job = some later ∧ later.status = row.status ∧
      later.artifactSnapshotId = row.artifactSnapshotId ∧ later.completedAt = row.completedAt

structure BoardSound (board : JobBoard) : Prop where
  once : (board.handed.map Prod.fst).Nodup
  holders : board.results ⊆ board.handed
  waiting : ∀ job row, board.jobs job = some row → row.status = "queued" →
    ∀ worker, (job, worker) ∉ board.handed
  selected : ∀ process loaded, board.handlers process = some loaded →
    loaded.call.claims = true → loaded.seen.status = "queued"

variable {board : JobBoard} {process : ProcessId} {loaded : Loaded} {row : BgpJobRow} {job : BgpJobId}

theorem hold_sound (sound : BoardSound board) {next : Option Loaded}
    (fits : ∀ loaded, next = some loaded → loaded.call.claims = true →
      loaded.seen.status = "queued") : BoardSound (board.hold process next) where
  once := sound.once
  holders := sound.holders
  waiting := sound.waiting
  selected other loaded holds := by
    simp only [JobBoard.hold, Function.update_apply] at holds
    split at holds
    · exact fits loaded holds
    · exact sound.selected other loaded holds

theorem idle_sound (sound : BoardSound board) : BoardSound (board.hold process none) :=
  hold_sound sound fun _ held => by cases held

theorem assign_columns (now : Time) (quiet : loaded.call.setsResult = false)
    (seen : loaded.call.claims = true → loaded.seen.status = "queued") (row : BgpJobRow) :
    let next := flush loaded.seen (loaded.call.assign now loaded.seen) row
    next.artifactSnapshotId = row.artifactSnapshotId ∧ next.completedAt = row.completedAt ∧
      next.status = if loaded.call.claims then "claimed" else row.status := by
  cases named : loaded.call with
  | claim body =>
    rw [named] at seen
    simp [flush, column, JobCall.assign, JobCall.claims, seen rfl]
  | heartbeat body =>
    rw [named, JobCall.setsResult, Option.isSome_eq_false_iff, Option.isNone_iff_eq_none] at quiet
    simp [flush, column, JobCall.assign, JobCall.claims, quiet]
  | complete | fail => simp [named, JobCall.setsResult] at quiet

theorem flush_status {seen written current : BgpJobRow} (writes : written.status ≠ "queued")
    (taken : current.status ≠ "queued") : (flush seen written current).status ≠ "queued" := by
  unfold flush column
  split
  · exact taken
  · exact writes

section
variable (sound : BoardSound board) (held : board.handlers process = some loaded)
  (orderly : Orderly loaded board)
include sound held orderly

theorem commit_status (found : board.jobs loaded.job = some row) (now : Time)
    (queued : (flush loaded.seen (loaded.call.assign now loaded.seen) row).status = "queued") :
    row.status = "queued" ∧ loaded.call.claims = false := by
  obtain ⟨claiming, setting⟩ := orderly row found
  cases sets : loaded.call.setsResult with
  | true =>
    obtain ⟨among, -, writes⟩ := setting sets
    refine absurd queued (flush_status (writes now) fun waits => ?_)
    exact sound.waiting _ row found waits _ among
  | false =>
    have status := (assign_columns now sets (sound.selected _ _ held) row).2.2
    rw [status] at queued
    cases claims : loaded.call.claims with
    | true => simp [claims] at queued
    | false => exact ⟨by simpa [claims] using queued, rfl⟩

theorem commit_sound (now : Time) :
    BoardSound (board.commit process loaded now) := by
  unfold JobBoard.commit
  split
  · exact idle_sound sound
  rename_i current found
  obtain ⟨claiming, setting⟩ := orderly current found
  constructor
  · dsimp only
    split
    · rename_i claims
      refine List.nodup_cons.mpr ⟨fun among => ?_, sound.once⟩
      obtain ⟨⟨_, worker⟩, before, same⟩ := List.mem_map.mp among
      cases same
      exact sound.waiting _ current found (claiming claims) worker before
    · exact sound.once
  · intro result among
    have known : result ∈ board.handed := by
      dsimp only at among
      split at among
      · rename_i sets
        rcases List.mem_cons.mp among with rfl | before
        · exact (setting sets).1
        · exact sound.holders before
      · exact sound.holders among
    split
    · exact List.mem_cons_of_mem _ known
    · exact known
  · intro job row written queued worker
    dsimp only at written ⊢
    rcases update_cases written with ⟨rfl, ⟨⟩⟩ | ⟨same, written⟩
    · obtain ⟨waits, free⟩ := commit_status sound held orderly found now queued
      rw [if_neg (by simp [free])]
      exact sound.waiting _ current found waits worker
    · have before := sound.waiting job row written queued worker
      split
      · simpa [same] using before
      · exact before
  · exact (idle_sound sound).selected

end

def Lasts (before after : JobBoard) : Prop :=
  ∀ job row, before.jobs job = some row → row.finished = true →
    ∃ later, after.jobs job = some later ∧ later.status = row.status ∧
      later.artifactSnapshotId = row.artifactSnapshotId ∧ later.completedAt = row.completedAt

theorem lasts_refl (board : JobBoard) : Lasts board board :=
  fun _ row found _ => ⟨row, found, rfl, rfl, rfl⟩

theorem lasts_trans (a b c : JobBoard) (first : Lasts a b) (second : Lasts b c) : Lasts a c := by
  intro job row found finished
  obtain ⟨middle, there, status, artifact, completed⟩ := first job row found finished
  have ended : middle.finished = true := by simpa [BgpJobRow.finished, status] using finished
  obtain ⟨last, stands, status', artifact', completed'⟩ := second job middle there ended
  exact ⟨last, stands, status'.trans status, artifact'.trans artifact, completed'.trans completed⟩

theorem commit_lasts (sound : BoardSound board) (held : board.handlers process = some loaded)
    (orderly : Orderly loaded board) (now : Time) :
    Lasts board (board.commit process loaded now) := by
  intro job row found finished
  unfold JobBoard.commit
  cases present : board.jobs loaded.job with
  | none => exact ⟨row, found, rfl, rfl, rfl⟩
  | some current =>
    dsimp only
    by_cases same : job = loaded.job
    · subst same
      obtain rfl : current = row := Option.some.inj (present.symm.trans found)
      obtain ⟨claiming, setting⟩ := orderly current present
      have quiet : loaded.call.setsResult = false := by
        by_contra sets
        rw [(setting (by simpa using sets)).2.1] at finished
        cases finished
      have free : loaded.call.claims = false := by
        by_contra claims
        have queued := claiming (by simpa using claims)
        simp [BgpJobRow.finished, queued] at finished
      obtain ⟨artifact, completed, status⟩ :=
        assign_columns now quiet (sound.selected _ _ held) current
      exact ⟨_, put_same _ _ _, by rw [status, free]; rfl, artifact, completed⟩
    · exact ⟨row, by rw [put_other _ _ same]; exact found, rfl, rfl, rfl⟩

theorem step_kept (action : JobAction) (board : JobBoard) (sound : BoardSound board)
    (may : bgpJobs.may action board) :
    BoardSound (jobStep action board) ∧ Lasts board (jobStep action board) := by
  have same := lasts_refl board
  unfold jobStep
  cases action with
  | select process worker body job =>
    dsimp only
    split
    · exact ⟨sound, same⟩
    split
    · rename_i queued
      refine ⟨hold_sound sound fun loaded held _ => ?_, same⟩
      cases held
      exact queued
    · exact ⟨sound, same⟩
  | get process worker call job =>
    dsimp only
    split
    · exact ⟨sound, same⟩
    split
    · exact ⟨sound, same⟩
    rename_i other
    refine ⟨hold_sound sound fun loaded held claims => ?_, same⟩
    cases held
    exact absurd claims other
  | commit process now =>
    dsimp only
    split
    · exact ⟨sound, same⟩
    · rename_i loaded held
      have orderly := may loaded held
      exact ⟨commit_sound sound held orderly now, commit_lasts sound held orderly now⟩
  | abandoned process => exact ⟨idle_sound sound, same⟩

theorem start_sound (jobs : Table BgpJobId BgpJobRow) : BoardSound { jobs } where
  once := List.nodup_nil
  holders := List.Subset.refl _
  waiting _ _ _ _ _ := List.not_mem_nil
  selected _ _ held := by cases held

def soleJob : Table BgpJobId BgpJobRow := fun job => if job = 0 then some {} else none

def lawfulCalls : List JobAction :=
  [.select 0 7 none 0, .commit 0 1, .get 1 7 (.complete { artifactSnapshotId := some "rib" }) 0,
    .commit 1 2]

end HyruleCloud.BgpJobs
