import HyruleCloud.ReadCommitted
import HyruleCloud.Protocol
import HyruleCloud.Store
import Mathlib.Data.List.Sort

/-!
The administrators of api/admin.py under concurrent requests, statement by statement: an
account is disabled, enabled or given another role, and an owner deletes his own account,
api/auth.py. A locking query takes the rows of its snapshot one after the other, waits for
each, and reads the row again when it has it.
-/

namespace HyruleCloud.Admins

open Interaction ReadCommitted Function

structure AdminAccount where
  isAdmin : Bool
  enabled : Bool

def isEnabledAdmin (row : AdminAccount) : Bool :=
  row.isAdmin && row.enabled

inductive Change where
  | disable | enable | setRole (isAdmin : Bool)

structure AdminRequest where
  actor : AccountId
  target : AccountId
  change : Change

def Change.demotes : Change → Bool
  | .disable => true
  | .enable => false
  | .setRole isAdmin => !isAdmin

def Change.apply (row : AdminAccount) : Change → AdminAccount
  | .disable => { row with enabled := false }
  | .enable => { row with enabled := true }
  | .setRole isAdmin => { row with isAdmin := isAdmin }

def isRefused (request : AdminRequest) : Bool :=
  request.actor = request.target && request.change.demotes

/-- `counted <= 1` for the last one. -/
def isLast (row : AdminAccount) (counted : Option Nat) : Bool :=
  match counted with
  | none => false
  | some counted => isEnabledAdmin row && decide (counted ≤ 1)

/-- Where a request stands: before the statement of its name, with the rows `rest` of a
locking query still to be taken. -/
inductive AdminPhase where
  | fence (request : AdminRequest)
  | fencing (request : AdminRequest) (rest : List AccountId)
  | actor (request : AdminRequest)
  | count (request : AdminRequest)
  | counting (request : AdminRequest) (rest : List AccountId) (counted : Nat)
  | target (request : AdminRequest) (counted : Option Nat)
  | changed (request : AdminRequest)
  -- of `delete_me`
  | snapshot (account : AccountId)
  | removable (account : AccountId)
  | removed (account : AccountId)

structure AdminDesk where
  accounts : LockedTable ProcessId AccountId AdminAccount
  phases : ProcessId → Option AdminPhase

def goOn (w : ProcessId) (phase : Option AdminPhase) (desk : AdminDesk) : AdminDesk :=
  { desk with phases := update desk.phases w phase }

def rollback (w : ProcessId) (desk : AdminDesk) : AdminDesk :=
  { goOn w none desk with accounts := desk.accounts.rollback w }

/-- `with_for_update` on one row: a row that is gone is not locked. -/
def lockRow (w : ProcessId) (key : AccountId) (desk : AdminDesk) : AdminDesk :=
  if (desk.accounts.view w key).isSome then
    { desk with accounts := desk.accounts.write w [key] (desk.accounts.view w) }
  else desk

def lockSet (w : ProcessId) (desk : AdminDesk) : List AccountId :=
  (desk.accounts.select w isEnabledAdmin).insertionSort (· ≤ ·)

def changeTarget (w : ProcessId) (request : AdminRequest) (counted : Option Nat)
    (desk : AdminDesk) : AdminDesk :=
  match desk.accounts.view w request.target with
  | none => rollback w desk
  | some row =>
    if isLast row counted then rollback w desk
    else goOn w (some (.changed request)) { desk with
      accounts := desk.accounts.write w [request.target]
        fun _ => some (request.change.apply row) }

/-- `_account_deletion_snapshot` -/
def checkDeletion (w : ProcessId) (account : AccountId) (desk : AdminDesk) : AdminDesk :=
  match desk.accounts.view w account with
  | none => rollback w desk
  | some row =>
    if !row.enabled || row.isAdmin then rollback w desk
    else goOn w (some (.removable account)) desk

/-- A statement that locks the row `key` waits for it. -/
def afterLock (w : ProcessId) (key : AccountId) (next : AdminDesk → AdminDesk)
    (desk : AdminDesk) : AdminDesk :=
  if desk.accounts.waits w [key] then desk else next (lockRow w key desk)

/-- The next statement of `w`. -/
def nextStatement (w : ProcessId) (desk : AdminDesk) : AdminDesk :=
  match desk.phases w with
  | none => desk
  | some (.fence request) => goOn w (some (.fencing request (lockSet w desk))) desk
  | some (.fencing request []) => goOn w (some (.actor request)) desk
  | some (.fencing request (key :: rest)) =>
    afterLock w key (goOn w (some (.fencing request rest))) desk
  | some (.actor request) => afterLock w request.actor (fun locked =>
    if (locked.accounts.view w request.actor).any isEnabledAdmin then
      goOn w (some (if request.change.demotes then .count request else .target request none))
        locked
    else rollback w locked) desk
  | some (.count request) => goOn w (some (.counting request (lockSet w desk) 0)) desk
  | some (.counting request [] counted) => goOn w (some (.target request (some counted))) desk
  | some (.counting request (key :: rest) counted) => afterLock w key (fun locked =>
    goOn w (some (.counting request rest
      (if (locked.accounts.view w key).any isEnabledAdmin then counted + 1 else counted)))
      locked) desk
  | some (.target request counted) =>
    afterLock w request.target (changeTarget w request counted) desk
  | some (.changed _) => desk
  | some (.snapshot account) => afterLock w account (checkDeletion w account) desk
  | some (.removable account) => goOn w (some (.removed account)) { desk with
      accounts := desk.accounts.write w [account] fun _ => none }
  | some (.removed _) => desk

def commit (w : ProcessId) (desk : AdminDesk) : AdminDesk :=
  match desk.phases w with
  | some (.changed _) | some (.removed _) =>
    { goOn w none desk with accounts := desk.accounts.commit w }
  | _ => desk

inductive AdminStep where
  | ask (w : ProcessId) (request : AdminRequest)
  | askDeletion (w : ProcessId) (account : AccountId)
  | next (w : ProcessId)
  -- the VMs are destroyed between two snapshots
  | release (w : ProcessId)
  | commit (w : ProcessId)
  -- an exception, a deadlock or a crash
  | abort (w : ProcessId)

def adminStep (step : AdminStep) (desk : AdminDesk) : AdminDesk :=
  match step with
  | .ask w request =>
    if (desk.phases w).isSome || isRefused request then desk
    else goOn w (some (.fence request)) desk
  | .askDeletion w account =>
    if (desk.phases w).isSome then desk else goOn w (some (.snapshot account)) desk
  | .next w => nextStatement w desk
  | .release w => match desk.phases w with
      | some (.removable account) => goOn w (some (.snapshot account)) (rollback w desk)
      | _ => desk
  | .commit w => commit w desk
  | .abort w => rollback w desk

def admins : Protocol AdminDesk AdminStep := ⟨adminStep, fun _ _ => True⟩

def HasEnabledAdmin (desk : AdminDesk) : Prop :=
  ∃ key row, desk.accounts.committed key = some row ∧ isEnabledAdmin row = true

structure AdminsStart (desk : AdminDesk) : Prop where
  enabled : HasEnabledAdmin desk
  phases : ∀ w, desk.phases w = none
  drafts : ∀ key, desk.accounts.drafts key = none

/-! The invariant: a request that changes another account holds the row of its actor, who
is an enabled administrator; a deletion holds the row of an account that is none. -/

section Invariant
variable (accounts : LockedTable ProcessId AccountId AdminAccount) (w : ProcessId)

def HoldsNothing : Prop := ∀ key draft, accounts.drafts key ≠ some (w, draft)

def HoldsActor (actor : AccountId) : Prop :=
  ∃ row, accounts.drafts actor = some (w, some row) ∧ isEnabledAdmin row = true

structure HoldsOwner (account : AccountId) : Prop where
  own : ∃ draft, accounts.drafts account = some (w, draft)
  only : ∀ key draft, accounts.drafts key = some (w, draft) → key = account
  other : ∀ row, accounts.committed account = some row → row.isAdmin = false

def PhaseSafe : Option AdminPhase → Prop
  | none | some (.snapshot _) => HoldsNothing accounts w
  | some (.fence request) | some (.fencing request _) | some (.actor request) =>
    isRefused request = false
  | some (.count request) | some (.counting request _ _) | some (.target request _) =>
    isRefused request = false ∧ HoldsActor accounts w request.actor
  | some (.changed request) => HoldsActor accounts w request.actor
  | some (.removable account) | some (.removed account) => HoldsOwner accounts w account

end Invariant

structure AdminsSafe (desk : AdminDesk) : Prop where
  enabled : HasEnabledAdmin desk
  phases : ∀ w, PhaseSafe desk.accounts w (desk.phases w)

/-- What the statements of others leave to `w`: the rows that it holds. -/
structure Leaves (w : ProcessId) (before after : LockedTable ProcessId AccountId AdminAccount) :
    Prop where
  drafts : ∀ key draft, after.drafts key = some (w, draft) ↔ before.drafts key = some (w, draft)
  committed : ∀ key draft, before.drafts key = some (w, draft) →
    after.committed key = before.committed key

variable {phase : Option AdminPhase}

section Tables
variable {accounts after : LockedTable ProcessId AccountId AdminAccount} {w other : ProcessId}
  {key actor : AccountId}

theorem leaves_refl : Leaves w accounts accounts := ⟨fun _ _ => Iff.rfl, fun _ _ _ => rfl⟩

theorem leaves_write {row : AccountId → Option AdminAccount} (apart : w ≠ other)
    (free : accounts.waits other [key] = false) :
    Leaves w accounts (accounts.write other [key] row) :=
  ⟨fun _ _ => LockedTable.write_other apart free, fun _ _ _ => rfl⟩

theorem leaves_rollback (apart : w ≠ other) : Leaves w accounts (accounts.rollback other) := by
  refine ⟨fun key draft => ?_, fun _ _ _ => rfl⟩
  rw [LockedTable.rollback_drafts]
  exact and_iff_right apart

theorem leaves_commit (apart : w ≠ other) : Leaves w accounts (accounts.commit other) :=
  ⟨(leaves_rollback apart).drafts, fun _ _ held => LockedTable.commit_other apart held⟩

theorem leaves_trans {later : LockedTable ProcessId AccountId AdminAccount}
    (once : Leaves w accounts after) (again : Leaves w after later) : Leaves w accounts later := by
  refine ⟨fun key draft => (again.drafts key draft).trans (once.drafts key draft),
    fun key draft held => ?_⟩
  rw [again.committed key draft ((once.drafts key draft).mpr held), once.committed key draft held]

theorem phaseSafe_left (left : Leaves w accounts after)
    (safe : PhaseSafe accounts w phase) : PhaseSafe after w phase := by
  have nothing : HoldsNothing accounts w → HoldsNothing after w :=
    fun free key draft held => free key draft ((left.drafts key draft).mp held)
  have holds : ∀ actor, HoldsActor accounts w actor → HoldsActor after w actor := by
    rintro actor ⟨row, held, enabled⟩
    exact ⟨row, (left.drafts actor _).mpr held, enabled⟩
  have owner : ∀ account, HoldsOwner accounts w account → HoldsOwner after w account := by
    rintro account ⟨⟨draft, held⟩, only, demoted⟩
    refine ⟨⟨draft, (left.drafts account _).mpr held⟩, fun key own taken => ?_, fun row there => ?_⟩
    · exact only key own ((left.drafts key own).mp taken)
    · rw [left.committed account draft held] at there
      exact demoted row there
  unfold PhaseSafe at *
  split at safe
  · exact nothing safe
  · exact nothing safe
  · exact safe
  · exact safe
  · exact safe
  · exact ⟨safe.1, holds _ safe.2⟩
  · exact ⟨safe.1, holds _ safe.2⟩
  · exact ⟨safe.1, holds _ safe.2⟩
  · exact holds _ safe
  · exact owner _ safe
  · exact owner _ safe

theorem rollback_nothing : HoldsNothing (accounts.rollback w) w :=
  fun _ _ held => (LockedTable.rollback_drafts.mp held).1 rfl

end Tables

variable {request : AdminRequest}

section Statements
variable {desk after : AdminDesk} {w : ProcessId} {key actor : AccountId}

/-- A step of `w` alone. -/
structure OwnStep (w : ProcessId) (desk after : AdminDesk) : Prop where
  enabled : HasEnabledAdmin after
  phases : ∀ other, other ≠ w → after.phases other = desk.phases other
  leaves : ∀ other, other ≠ w → Leaves other desk.accounts after.accounts
  own : PhaseSafe after.accounts w (after.phases w)

variable (safe : AdminsSafe desk)
include safe

theorem own_safe (own : OwnStep w desk after) : AdminsSafe after where
  enabled := own.enabled
  phases other := by
    by_cases mine : other = w
    · subst mine
      exact own.own
    · rw [own.phases other mine]
      exact phaseSafe_left (own.leaves other mine) (safe.phases other)

theorem own_refl : OwnStep w desk desk :=
  ⟨safe.enabled, fun _ _ => rfl, fun _ _ => leaves_refl, safe.phases w⟩

theorem goOn_own (phases : after.phases = desk.phases)
    (committed : after.accounts.committed = desk.accounts.committed)
    (leaves : ∀ other, other ≠ w → Leaves other desk.accounts after.accounts)
    (own : PhaseSafe after.accounts w phase) : OwnStep w desk (goOn w phase after) where
  enabled := by
    unfold HasEnabledAdmin
    simp only [goOn, committed]
    exact safe.enabled
  phases other apart := by
    simp only [goOn, update_of_ne apart, phases]
  leaves := leaves
  own := by
    simp only [goOn, update_self]
    exact own

theorem rollback_own (phases : after.phases = desk.phases)
    (committed : after.accounts.committed = desk.accounts.committed)
    (leaves : ∀ other, other ≠ w → Leaves other desk.accounts after.accounts) :
    OwnStep w desk (rollback w after) where
  enabled := by
    simp only [rollback, LockedTable.rollback, committed]
    exact safe.enabled
  phases other apart := by
    simp only [rollback, goOn, update_of_ne apart, phases]
  leaves other apart := leaves_trans (leaves other apart) (leaves_rollback apart)
  own := by
    simp only [rollback, goOn, update_self]
    exact rollback_nothing

omit safe

theorem lockRow_phases : (lockRow w key desk).phases = desk.phases := by
  unfold lockRow
  split <;> rfl

theorem lockRow_committed : (lockRow w key desk).accounts.committed = desk.accounts.committed := by
  unfold lockRow
  split <;> rfl

theorem lockRow_leaves (free : desk.accounts.waits w [key] = false) (other : ProcessId)
    (apart : other ≠ w) : Leaves other desk.accounts (lockRow w key desk).accounts := by
  unfold lockRow
  split
  · exact leaves_write apart free
  · exact leaves_refl

theorem lockRow_free (free : desk.accounts.waits w [key] = false) :
    (lockRow w key desk).accounts.waits w [key] = false := by
  unfold lockRow
  split
  · simp [LockedTable.waits, LockedTable.holds, LockedTable.write]
  · exact free

theorem lockRow_view : (lockRow w key desk).accounts.view w = desk.accounts.view w := by
  unfold lockRow
  split
  · funext row
    by_cases same : row = key
    · subst same
      exact LockedTable.view_held (by simp [LockedTable.write])
    · simp [LockedTable.view, LockedTable.write, same]
  · rfl

theorem lockRow_holds (holds : HoldsActor desk.accounts w actor) :
    HoldsActor (lockRow w key desk).accounts w actor := by
  obtain ⟨row, held, enabled⟩ := holds
  unfold lockRow
  split
  · refine ⟨row, ?_, enabled⟩
    simp only [LockedTable.write]
    split
    · rw [LockedTable.view_held held]
    · exact held
  · exact ⟨row, held, enabled⟩

theorem lockRow_actor
    (enabled : ((lockRow w key desk).accounts.view w key).any isEnabledAdmin = true) :
    HoldsActor (lockRow w key desk).accounts w key := by
  rw [lockRow_view] at enabled
  obtain ⟨row, there, admin⟩ := (Option.any_eq_true _ _).mp enabled
  refine ⟨row, ?_, admin⟩
  unfold lockRow
  simp [LockedTable.write, there]

theorem afterLock_own {next : AdminDesk → AdminDesk} (safe : AdminsSafe desk)
    (locked : desk.accounts.waits w [key] = false → OwnStep w desk (next (lockRow w key desk))) :
    OwnStep w desk (afterLock w key next desk) := by
  unfold afterLock
  split
  · exact own_refl safe
  · rename_i free
    exact locked (by simpa using free)

theorem apply_own {row : AdminAccount}
    (allowed : isRefused request = false) (self : request.actor = request.target)
    (enabled : isEnabledAdmin row = true) : isEnabledAdmin (request.change.apply row) = true := by
  simp only [isRefused, self, decide_true, Bool.true_and] at allowed
  simp only [isEnabledAdmin, Bool.and_eq_true] at enabled ⊢
  obtain ⟨admin, open_⟩ := enabled
  cases change : request.change with
  | disable =>
    rw [change] at allowed
    cases allowed
  | enable => exact ⟨admin, rfl⟩
  | setRole isAdmin =>
    rw [change] at allowed
    have kept : isAdmin = true := by simpa [Change.demotes] using allowed
    exact ⟨kept, open_⟩

include safe

theorem changeTarget_own {counted : Option Nat}
    (free : desk.accounts.waits w [request.target] = false) (allowed : isRefused request = false)
    (holds : HoldsActor desk.accounts w request.actor) :
    OwnStep w desk (changeTarget w request counted (lockRow w request.target desk)) := by
  have leaves := lockRow_leaves free
  unfold changeTarget
  split
  · exact rollback_own safe lockRow_phases lockRow_committed leaves
  rename_i row there
  split
  · exact rollback_own safe lockRow_phases lockRow_committed leaves
  have kept : HoldsActor (lockRow w request.target desk).accounts w request.actor :=
    lockRow_holds holds
  obtain ⟨own, held, enabled⟩ := kept
  refine goOn_own safe lockRow_phases lockRow_committed (fun other apart => ?_) ?_
  · exact leaves_trans (leaves other apart) (leaves_write apart (lockRow_free free))
  · by_cases self : request.actor = request.target
    · refine ⟨request.change.apply row, by simp [LockedTable.write, self], ?_⟩
      apply apply_own allowed self
      rw [self] at held
      rw [LockedTable.view_held held] at there
      cases there
      exact enabled
    · exact ⟨own, by simpa [LockedTable.write, self] using held, enabled⟩

theorem checkDeletion_own {account : AccountId}
    (free : desk.accounts.waits w [account] = false) (nothing : HoldsNothing desk.accounts w) :
    OwnStep w desk (checkDeletion w account (lockRow w account desk)) := by
  have leaves := lockRow_leaves free
  unfold checkDeletion
  split
  · exact rollback_own safe lockRow_phases lockRow_committed leaves
  rename_i row there
  split
  · exact rollback_own safe lockRow_phases lockRow_committed leaves
  rename_i allowed
  refine goOn_own safe lockRow_phases lockRow_committed leaves ?_
  rw [lockRow_view] at there
  have committed := there
  rw [LockedTable.view_free (nothing account)] at committed
  unfold lockRow
  rw [if_pos (by rw [there]; rfl)]
  refine ⟨⟨some row, by simp [LockedTable.write, there]⟩, fun key draft held => ?_, fun other found => ?_⟩
  · rcases LockedTable.write_own held with ⟨listed, _⟩ | before
    · exact List.mem_singleton.mp listed
    · exact absurd before (nothing key draft)
  · have same : desk.accounts.committed account = some other := found
    rw [committed] at same
    cases same
    simp only [Bool.or_eq_true, not_or, Bool.not_eq_true] at allowed
    exact allowed.2

omit safe

theorem nextStatement_own (w : ProcessId) (safe : AdminsSafe desk) :
    OwnStep w desk (nextStatement w desk) := by
  have own := safe.phases w
  have stays : ∀ other, other ≠ w → Leaves other desk.accounts desk.accounts :=
    fun _ _ => leaves_refl
  unfold nextStatement
  split
  · exact own_refl safe
  · rename_i request phase
    rw [phase] at own
    exact goOn_own safe rfl rfl stays own
  · rename_i request phase
    rw [phase] at own
    exact goOn_own safe rfl rfl stays own
  · rename_i request key rest phase
    rw [phase] at own
    exact afterLock_own safe fun free =>
      goOn_own safe lockRow_phases lockRow_committed (lockRow_leaves free) own
  · rename_i request phase
    rw [phase] at own
    refine afterLock_own safe fun free => ?_
    split
    · rename_i enabled
      refine goOn_own safe lockRow_phases lockRow_committed (lockRow_leaves free) ?_
      have holds := lockRow_actor enabled
      split <;> exact ⟨own, holds⟩
    · exact rollback_own safe lockRow_phases lockRow_committed (lockRow_leaves free)
  · rename_i request phase
    rw [phase] at own
    exact goOn_own safe rfl rfl stays own
  · rename_i request counted phase
    rw [phase] at own
    exact goOn_own safe rfl rfl stays own
  · rename_i request key rest counted phase
    rw [phase] at own
    exact afterLock_own safe fun free =>
      goOn_own safe lockRow_phases lockRow_committed (lockRow_leaves free)
        ⟨own.1, lockRow_holds own.2⟩
  · rename_i request counted phase
    rw [phase] at own
    exact afterLock_own safe fun free => changeTarget_own safe free own.1 own.2
  · exact own_refl safe
  · rename_i account phase
    rw [phase] at own
    exact afterLock_own safe fun free => checkDeletion_own safe free own
  · rename_i account phase
    rw [phase] at own
    obtain ⟨⟨draft, held⟩, only, demoted⟩ := own
    have free : desk.accounts.waits w [account] = false := by
      simp [LockedTable.waits, LockedTable.holds, held]
    refine goOn_own safe rfl rfl (fun other apart => leaves_write apart free) ?_
    refine ⟨⟨none, by simp [LockedTable.write]⟩, fun key own taken => ?_, demoted⟩
    rcases LockedTable.write_own taken with ⟨listed, _⟩ | before
    · exact List.mem_singleton.mp listed
    · exact only key own before
  · exact own_refl safe

theorem commit_own (w : ProcessId) (safe : AdminsSafe desk) : OwnStep w desk (commit w desk) := by
  have own := safe.phases w
  have ends : HasEnabledAdmin { desk with accounts := desk.accounts.commit w } →
      OwnStep w desk { goOn w none desk with accounts := desk.accounts.commit w } := by
    intro enabled
    refine ⟨enabled, fun other apart => ?_, fun other apart => leaves_commit apart, ?_⟩
    · simp only [goOn, update_of_ne apart]
    · simp only [goOn, update_self]
      exact rollback_nothing
  unfold commit
  split
  · rename_i request phase
    rw [phase] at own
    obtain ⟨row, held, enabled⟩ := own
    exact ends ⟨request.actor, row, LockedTable.commit_held held, enabled⟩
  · rename_i account phase
    rw [phase] at own
    obtain ⟨key, row, there, enabled⟩ := safe.enabled
    refine ends ⟨key, row, ?_, enabled⟩
    rw [← there]
    refine LockedTable.commit_free fun draft held => ?_
    have mine := own.only key draft held
    subst mine
    have demoted := own.other row there
    simp [isEnabledAdmin, demoted] at enabled
  · exact own_refl safe

end Statements

theorem adminStep_safe (step : AdminStep) (desk : AdminDesk) (safe : AdminsSafe desk)
    (_ : admins.may step desk) : AdminsSafe (adminStep step desk) := by
  have stays : ∀ w other, other ≠ w → Leaves other desk.accounts desk.accounts :=
    fun _ _ _ => leaves_refl
  cases step with
  | ask w request =>
    simp only [adminStep]
    split
    · exact safe
    · rename_i allowed
      simp only [Bool.or_eq_true, not_or, Bool.not_eq_true] at allowed
      exact own_safe safe (goOn_own safe rfl rfl (stays w) allowed.2)
  | askDeletion w account =>
    have own := safe.phases w
    simp only [adminStep]
    split
    · exact safe
    rename_i idle
    simp only [Bool.not_eq_true, Option.isSome_eq_false_iff, Option.isNone_iff_eq_none] at idle
    rw [idle] at own
    exact own_safe safe (goOn_own safe rfl rfl (stays w) own)
  | next w => exact own_safe safe (nextStatement_own w safe)
  | release w =>
    simp only [adminStep]
    split
    · rename_i account _
      have rolled := own_safe safe (rollback_own safe rfl rfl (stays w))
      exact own_safe rolled (goOn_own rolled rfl rfl (fun _ _ => leaves_refl) rollback_nothing)
    · exact safe
  | commit w => exact own_safe safe (commit_own w safe)
  | abort w => exact own_safe safe (rollback_own safe rfl rfl (stays w))

theorem admins_start {desk : AdminDesk} (start : AdminsStart desk) : AdminsSafe desk where
  enabled := start.enabled
  phases w := by
    rw [start.phases w]
    intro key draft held
    rw [start.drafts key] at held
    cases held

/-- Whatever the administrators do to one another, one of them stays. -/
theorem enabled_admin_stays (desk : AdminDesk) (steps : List AdminStep) (start : AdminsStart desk) :
    HasEnabledAdmin (admins.run desk steps) := by
  have admitted := admins.admits_all (fun _ _ => trivial) desk steps
  exact (admins.run_keeps adminStep_safe steps desk (admins_start start) admitted).enabled

def adminDesk : AdminDesk where
  accounts :=
    { keys := [1, 2, 3]
      committed := fun account =>
        if account = 1 ∨ account = 2 then some ⟨true, true⟩
        else if account = 3 then some ⟨false, true⟩
        else none
      drafts := fun _ => none }
  phases := fun _ => none

theorem adminDesk_starts : AdminsStart adminDesk :=
  ⟨⟨1, ⟨true, true⟩, rfl, rfl⟩, fun _ => rfl, fun _ => rfl⟩

/-- The two disable one another: the second waits, and is no administrator any more when it
gets its own row. -/
def mutualRun : List AdminStep :=
  [.ask 0 ⟨1, 2, .disable⟩, .ask 1 ⟨2, 1, .disable⟩, .next 0, .next 1, .next 0, .next 1] ++
    List.replicate 8 (.next 0) ++ [.commit 0] ++ List.replicate 4 (.next 1)

theorem mutual_disabling_stays : HasEnabledAdmin (admins.run adminDesk mutualRun) :=
  enabled_admin_stays adminDesk mutualRun adminDesk_starts

example : ((admins.run adminDesk mutualRun).accounts.committed 2).any isEnabledAdmin = false ∧
    (admins.run adminDesk mutualRun).phases 1 = none := by decide +kernel

end HyruleCloud.Admins
