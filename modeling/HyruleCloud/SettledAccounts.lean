import HyruleCloud.AccountOperations

/-!
Once every operation of an account is completed its VMs are as the account is: stopped if
it is disabled, free of the disabling if it is enabled. A worker does not touch a VM that
was suspended for another reason.
-/

namespace HyruleCloud.Lifecycle

open Interaction Expiry
open Function (update update_of_ne update_self update_eq_self)

def IsSettled (desk : OperationDesk) : Prop :=
  ∀ operation ∈ desk.operations, operation.status = .completed

def Fenced (account : AccountId) (vm : AccountVm) : Prop :=
  ∀ row, vm.desk.vm = some row → row.owner.1 = some account → row.xcpngUuid.isSome →
    row.status ≠ .destroyed → vm.powered = false ∧ isRunning row = false

def Freed (account : AccountId) (vm : AccountVm) : Prop :=
  ∀ row, vm.desk.vm = some row → row.owner.1 = some account →
    row.suspension ≠ some .accountDisabled

def Settles (account : AccountId) (kind : OperationKind) (vm : AccountVm) : Prop :=
  match kind with
  | .suspend => Fenced account vm
  | .resume => Freed account vm

/-- The deletion of the VM is not claimed, it has not ended and it is not retained. -/
structure IsResumable (guest : ResumedGuest) : Prop where
  unclaimed : guest.vm.deletionStartedAt = none
  alive : guest.vm.status ≠ .destroyed ∧ guest.vm.status ≠ .failed
  unretained : guest.retention = none

structure OperationsKept (desk : OperationDesk) : Prop where
  settled : IsSettled desk → ∀ v ∈ desk.ids, Settles desk.account (wanted desk.enabled) (desk.vms v)
  independent : ∀ v reason, desk.independent v = some reason → ∃ row,
    (desk.vms v).desk.vm = some row ∧ row.status = .suspended ∧ row.suspension = some reason
  resumed : ∀ guest ∈ desk.resumed, IsResumable guest

/-- `start_vm` is not called for a VM that is claimed for its deletion: suspended for its
account, not expired, with a guest that is halted. -/
def mayOperate (step : OperationStep) (desk : OperationDesk) : Prop :=
  match step with
  | .worker w (.visit answer _) =>
    ∀ id now v rest row, desk.workers w = some (.working id .resume now (v :: rest)) →
      (desk.vms v).desk.vm = some row → row.owner.1 = some desk.account →
      row.suspension = some .accountDisabled → row.status ≠ .destroyed → row.status ≠ .failed →
      isPast row.expiresAt now = false → row.xcpngUuid.isSome →
      observe answer (desk.vms v) = .halted → row.deletionStartedAt = none
  | _ => True

def operations (config : ExpiryConfig) : Protocol OperationDesk OperationStep :=
  ⟨operationStep config, mayOperate⟩

/-- An enabled account without operations, whose VMs nobody is deleting. -/
structure OperationsStart (desk : OperationDesk) : Prop where
  enabled : desk.enabled = true
  operations : desk.operations = []
  workers : ∀ w, desk.workers w = none
  lease : desk.lease = none
  resumed : desk.resumed = []
  freed : ∀ v, Freed desk.account (desk.vms v)
  independent : ∀ v, desk.independent v = independentReason (desk.vms v).desk.vm
  ended : ∀ v row, (desk.vms v).desk.vm = some row → row.status = .destroyed →
    row.deletionStartedAt.isSome
  retention : ∀ v, (desk.vms v).desk.retention = none
  deletions : ∀ v w, (desk.vms v).desk.deletions w = none

structure VmSafe (desk : LifecycleDesk) : Prop where
  deleting : DeletionsHeld desk
  claimed : RetentionClaimed desk
  alive : desk.retention.isSome → ∀ row, desk.vm = some row → row.status ≠ .destroyed
  ended : ∀ row, desk.vm = some row → row.status = .destroyed → row.deletionStartedAt.isSome

def IsPending (desk : OperationDesk) : Prop :=
  ∃ (id : OperationId) (operation : AdminOperation), desk.operations[id]? = some operation ∧
    operation.kind = wanted desk.enabled ∧ operation.status ≠ .completed

def AllSettled (desk : OperationDesk) : Prop :=
  ∀ v ∈ desk.ids, Settles desk.account (wanted desk.enabled) (desk.vms v)

def Progresses (desk : OperationDesk) (w : ProcessId) : WorkerPhase → Prop
  | .working _ kind _ rest => desk.lease = some w ∧ kind = wanted desk.enabled ∧
      ∀ v ∈ desk.ids, v ∉ rest → Settles desk.account kind (desk.vms v)
  | .failing _ => desk.lease = some w
  | _ => True

structure OperationsSafe (desk : OperationDesk) : Prop where
  vms : ∀ v, VmSafe (desk.vms v).desk
  settled : IsPending desk ∨ AllSettled desk
  workers : ∀ w phase, desk.workers w = some phase → Progresses desk w phase
  independent : ∀ v reason, desk.independent v = some reason → ∃ row,
    (desk.vms v).desk.vm = some row ∧ row.status = .suspended ∧
      (row.suspension = some .manualAdmin ∨ row.suspension = some .expired) ∧
      row.suspension = some reason
  resumed : ∀ guest ∈ desk.resumed, IsResumable guest

variable {written : ExpiringVm × Option TransferHandoff} {step : ExpiryStep} {action : PowerAction}
  {works : Bool} {v : VmId} {phase : WorkerPhase}

variable {power : PowerState}

section Visits
variable {kind : OperationKind} {now : Time} {answer : ProviderAnswer} {vm : AccountVm}
  {row : ExpiringVm} {account : AccountId}

theorem suspendAccount_writes {stops : Bool} {written : ExpiringVm}
    (done : suspendAccount power stops row = some written) :
    written = { row with
      status := if row.status = .provisioning ∨ row.status = .failed then row.status else .suspended
      suspension := some .accountDisabled } ∧
    ¬(row.status = .suspended ∧
      (row.suspension = some .manualAdmin ∨ row.suspension = some .expired)) := by
  unfold suspendAccount at done
  split at done
  · cases done
  split at done
  · cases done
  split at done
  · cases done
  split at done
  · cases done
  rename_i other
  cases done
  exact ⟨rfl, other⟩

theorem suspend_fences (now : Time) (alive : row.status ≠ .destroyed)
    (off : ¬(row.xcpngUuid.isSome && !turnsOff (observe answer vm) answer.returns) = true)
    (guest : row.xcpngUuid.isSome) : visitedPower .suspend now answer vm row = false := by
  have turned : turnsOff (observe answer vm) answer.returns = true := by
    simpa [guest] using off
  unfold observe at turned
  simp only [visitedPower, ne_eq, alive, not_false_eq_true, guest, true_and]
  cases tells : answer.tells with
  | false => simp [tells, turnsOff] at turned
  | true =>
    cases on : vm.powered with
    | false => simp
    | true =>
      simp only [tells, on, turnsOff] at turned
      simp at turned
      simp [turned]

/-- A resume calls `start_vm` for a halted guest that was suspended for its account. -/
structure ResumeCalls (now : Time) (power : PowerState) (row : ExpiringVm) : Prop where
  reason : row.suspension = some .accountDisabled
  alive : row.status ≠ .destroyed ∧ row.status ≠ .failed
  unexpired : isPast row.expiresAt now = false
  guest : row.xcpngUuid.isSome
  halted : power = .halted

theorem withPower_halted {caller : Resumer} {starts : Bool}
    {resumed : ExpiringVm × Option TransferHandoff}
    (calls : (withPower caller power starts resumed).starts.isSome) : power = .halted := by
  cases power with
  | halted => rfl
  | running | other | unreachable => cases calls

section
variable {power : PowerState} {starts : Bool} {transfer : Option TransferHandoff}

theorem resumeAccount_calls (calls : (resumeAccount now power starts row transfer).starts.isSome) :
    ResumeCalls now power row := by
  unfold resumeAccount at calls
  split at calls
  · cases calls
  rename_i disabled
  split at calls
  · cases calls
  rename_i alive
  push Not at alive
  split at calls
  · cases calls
  rename_i unexpired
  split at calls
  all_goals split at calls
  · rename_i uuid guest
    exact ⟨not_not.mp disabled, alive, by simpa using unexpired, by rw [guest]; rfl,
      withPower_halted calls⟩
  · cases calls
  · rename_i uuid guest
    exact ⟨not_not.mp disabled, alive, by simpa using unexpired, by rw [guest]; rfl,
      withPower_halted calls⟩
  · cases calls

structure ResumeWrites (row : ExpiringVm) (written : ExpiringVm × Option TransferHandoff) :
    Prop where
  was : row.suspension = some .accountDisabled
  freed : written.1.suspension ≠ some .accountDisabled
  ends : written.1.status = .destroyed → row.status = .destroyed

theorem resumeAccount_writes
    (done : (resumeAccount now power starts row transfer).row = some written) :
    ResumeWrites row written := by
  unfold resumeAccount at done
  split at done
  · cases done
  rename_i disabled
  have was := not_not.mp disabled
  split at done
  · cases done
    exact ⟨was, nofun, fun gone => gone⟩
  split at done
  · cases done
    exact ⟨was, nofun, fun gone => gone⟩
  split at done
  all_goals split at done
  · rw [withPower_row done]
    exact ⟨was, nofun, fun gone => gone⟩
  · cases done
    exact ⟨was, nofun, fun gone => gone⟩
  · rw [withPower_row done]
    exact ⟨was, nofun, nofun⟩
  · cases done
    exact ⟨was, nofun, nofun⟩

end

structure VisitWrites (kind : OperationKind) (row : ExpiringVm)
    (written : ExpiringVm × Option TransferHandoff) : Prop where
  claim : written.1.deletionStartedAt = row.deletionStartedAt
  ends : written.1.status = .destroyed → row.status = .destroyed
  other : ¬(row.status = .suspended ∧
    (row.suspension = some .manualAdmin ∨ row.suspension = some .expired))

theorem visitVm_writes (done : visitVm kind now answer vm row = .commits written) :
    VisitWrites kind row written := by
  cases kind with
  | suspend =>
    simp only [visitVm] at done
    split at done
    · cases done
    split at done
    · cases done
    split at done
    · cases done
    rename_i stopped decided
    cases done
    obtain ⟨rfl, other⟩ := suspendAccount_writes decided
    refine ⟨rfl, fun gone => ?_, other⟩
    split at gone
    · exact gone
    · cases gone
  | resume =>
    simp only [visitVm] at done
    split at done
    · cases done
    split at done
    · cases done
    rename_i resumed decided
    cases done
    have writes := resumeAccount_writes decided
    refine ⟨(resumeAccount_tended decided).claim, writes.ends, fun suspended => ?_⟩
    rw [writes.was] at suspended
    rcases suspended.2 with manual | expired
    · cases manual
    · cases expired

theorem skips_settles (found : vm.desk.vm = some row)
    (skips : visitVm kind now answer vm row = .skips) :
    Settles account kind ⟨vm.desk, visitedPower kind now answer vm row⟩ := by
  cases kind with
  | suspend =>
    intro other there owns guest alive
    rw [found] at there
    cases there
    simp only [visitVm, if_neg alive] at skips
    split at skips
    · cases skips
    rename_i off
    refine ⟨suspend_fences now alive off guest, ?_⟩
    split at skips
    · rename_i decided
      simp only [suspendAccount, if_neg alive] at decided
      split at decided
      · rename_i failed
        simp [isRunning, failed.1]
      · split at decided
        · rename_i kept
          simp [isRunning, kept.1]
        · cases decided
    · cases skips
  | resume =>
    intro other there owns
    rw [found] at there
    cases there
    simp only [visitVm] at skips
    split at skips
    · rename_i free
      exact free
    · split at skips <;> cases skips

theorem commits_settles (commits : visitVm kind now answer vm row = .commits written) :
    Settles account kind ⟨{ vm.desk with vm := some written.1, transfer := written.2 },
      visitedPower kind now answer vm row⟩ := by
  cases kind with
  | suspend =>
    intro other there owns guest _
    cases there
    simp only [visitVm] at commits
    split at commits
    · cases commits
    rename_i alive
    split at commits
    · cases commits
    rename_i off
    split at commits
    · cases commits
    rename_i stopped decided
    cases commits
    obtain ⟨rfl, _⟩ := suspendAccount_writes decided
    refine ⟨suspend_fences now alive off guest, ?_⟩
    simp only [isRunning, Bool.or_eq_false_iff, decide_eq_false_iff_not]
    split
    · rename_i ended
      rcases ended with provisioning | failed
      · simp [provisioning]
      · simp [failed]
    · simp
  | resume =>
    intro other there owns
    cases there
    simp only [visitVm] at commits
    split at commits
    · cases commits
    split at commits
    · cases commits
    rename_i resumed decided
    cases commits
    exact (resumeAccount_writes decided).freed

theorem unwritten_settles (settled : Settles account kind vm) :
    Settles account kind ⟨vm.desk, visitedPower kind now answer vm row⟩ := by
  cases kind with
  | suspend =>
    intro other there owns guest alive
    obtain ⟨off, stopped⟩ := settled other there owns guest alive
    refine ⟨?_, stopped⟩
    simp only [visitedPower, off, Bool.false_and, ite_self]
  | resume => exact settled

theorem written_safe {desk : LifecycleDesk} (safe : VmSafe desk) (found : desk.vm = some row)
    (claim : written.1.deletionStartedAt = row.deletionStartedAt)
    (ends : written.1.status = .destroyed → row.status = .destroyed) :
    VmSafe { desk with vm := some written.1, transfer := written.2 } where
  deleting := held_same safe.deleting rfl rfl fun claimed => written_claimed found rfl claim claimed
  claimed retained := written_claimed found rfl claim (safe.claimed retained)
  alive retained other there destroyed := by
    cases there
    exact safe.alive retained row found (ends destroyed)
  ended other there destroyed := by
    cases there
    exact claim ▸ safe.ended row found (ends destroyed)

theorem calls_resumable (safe : VmSafe vm.desk) (found : vm.desk.vm = some row)
    (calls : ResumeCalls now (observe answer vm) row) (unclaimed : row.deletionStartedAt = none) :
    IsResumable ⟨row, vm.desk.retention⟩ where
  unclaimed := unclaimed
  alive := calls.alive
  unretained := by
    cases retained : vm.desk.retention with
    | none => rfl
    | some record =>
      obtain ⟨other, there, started⟩ := safe.claimed (by rw [retained]; rfl)
      rw [found] at there
      cases there
      rw [unclaimed] at started
      cases started

end Visits

variable {kind : OperationKind} {now : Time}

variable {vm : AccountVm} {fate : Fate} {answer : ProviderAnswer}

/-! One VM, left by another than the workers. -/

section Others
variable {config : ExpiryConfig} {desk : LifecycleDesk} {account : AccountId} {row : ExpiringVm}

structure RowKept (before after : ExpiringVm) : Prop where
  owner : after.owner = before.owner
  guest : after.xcpngUuid = before.xcpngUuid
  running : isRunning after = true → isRunning before = true
  disabled : after.suspension = some .accountDisabled → before.suspension = some .accountDisabled

theorem rowKept_refl (row : ExpiringVm) : RowKept row row := ⟨rfl, rfl, id, id⟩

theorem expired_disabled {suspension : Option Suspension}
    (disabled : suspendedForExpiry suspension = some .accountDisabled) :
    suspension = some .accountDisabled := by
  unfold suspendedForExpiry at disabled
  split at disabled
  · exact disabled
  · cases disabled

theorem reconciled_kept {checked : ExpiringVm} (reconciled : Reconciled row checked) :
    RowKept row checked := by
  rcases reconciled with rfl | ⟨_, _, rfl⟩
  · exact rowKept_refl _
  · refine ⟨rfl, rfl, fun running => ?_, expired_disabled⟩
    simp [isRunning] at running

theorem move_kept {final : ExpiryDesk}
    (ended : ∀ row, desk.vm = some row → row.status = .destroyed → row.deletionStartedAt.isSome)
    (move : ExpiryMove config step (expiryDesk desk) final) {after : ExpiringVm}
    (now : final.vm = some after) :
    (∃ before, desk.vm = some before ∧ RowKept before after ∧
      (before.status = .destroyed → after.status = .destroyed ∨ desk.retention.isSome)) ∨
    (after.xcpngUuid = none ∧ after.suspension = none ∧ after.status = .provisioning) := by
  cases move.row with
  | rests same _ _ =>
    have there : desk.vm = some after := same.symm.trans now
    exact Or.inl ⟨after, there, rowKept_refl after, Or.inl⟩
  | created owner expiresAt _ vm _ _ =>
    rw [vm] at now
    cases now
    exact Or.inr ⟨rfl, rfl, rfl⟩
  | extended request fate row receipt _ done vm _ _ =>
    rw [vm] at now
    cases now
    obtain ⟨before, found, writes⟩ := extendRequest_writes done
    obtain ⟨checked, reconciled, can, status, suspension, guest, owner, _⟩ := writes.base
    have kept := reconciled_kept reconciled
    refine Or.inl ⟨before, found, ⟨owner.trans kept.owner, guest.trans kept.guest, ?_, ?_⟩, ?_⟩
    · intro running
      apply kept.running
      simpa only [isRunning, status] using running
    · intro disabled
      exact kept.disabled (suspension ▸ disabled)
    · intro destroyed
      have ended : checked.status ≠ .destroyed := (canExtend_unclaimed can).2
      rcases reconciled with rfl | ⟨_, _, rfl⟩
      · exact absurd destroyed ended
      · exact absurd done (extendRequest_ended found (by simp [hasEnded, destroyed]))
  | suspended row written suspends found decided vm _ _ =>
    rw [vm] at now
    cases now
    obtain ⟨unclaimed, _, _, rfl⟩ := sweepVm_writes decided
    refine Or.inl ⟨row, found, ⟨rfl, rfl, fun running => ?_, expired_disabled⟩, fun destroyed => ?_⟩
    · exfalso
      dsimp only [isRunning] at running
      split at running <;> simp at running
    · have claimed := ended row found destroyed
      rw [unclaimed] at claimed
      cases claimed
  | claimed row cutoff captures claim found _ decided vm _ _ =>
    rw [vm] at now
    cases now
    rw [(claimDeletion_writes decided).vm]
    exact Or.inl ⟨row, found, ⟨rfl, rfl, id, id⟩, Or.inl⟩
  | protected_ row record found retained _ _ vm _ _ _ =>
    rw [vm] at now
    cases now
    refine Or.inl ⟨row, found, ⟨rfl, rfl, fun running => ?_, expired_disabled⟩, fun _ => ?_⟩
    · simp [isRunning] at running
    · have there : desk.retention = some record := retained
      rw [there]
      exact Or.inr rfl
  | destroyed row written w deletion found _ _ vm status same _ _ =>
    rw [vm] at now
    cases now
    obtain ⟨_, suspension, owner, _, guest⟩ := same
    refine Or.inl ⟨row, found, ⟨owner, guest, fun running => ?_, fun disabled => ?_⟩, fun _ => ?_⟩
    · simp [isRunning, status] at running
    · exact suspension ▸ disabled
    · exact Or.inl status

theorem outside_settles {halts : Bool} (safe : VmSafe desk)
    (same : desk.vm = vm.desk.vm) (own : isOwnStep step = true) (settled : Settles account kind vm)
    :
    Settles account kind ⟨act config (.expiry step) desk, vm.powered && !halts⟩ := by
  have move := expiryStep_moves config (expiryDesk desk) step own
  rw [← act_expiry own] at move
  cases kind with
  | suspend =>
    intro after now owns guest alive
    rcases move_kept safe.ended move now with ⟨before, there, kept, ends⟩ | ⟨absent, _, _⟩
    · have lives : before.status ≠ .destroyed := by
        intro destroyed
        rcases ends destroyed with gone | retained
        · exact alive gone
        · exact safe.alive retained before there destroyed
      rw [same] at there
      obtain ⟨off, stopped⟩ := settled before there (kept.owner ▸ owns) (kept.guest ▸ guest) lives
      refine ⟨by simp [off], ?_⟩
      cases runs : isRunning after with
      | false => rfl
      | true =>
        rw [kept.running runs] at stopped
        cases stopped
    · rw [absent] at guest
      cases guest
  | resume =>
    intro after now owns
    rcases move_kept safe.ended move now with ⟨before, there, kept, _⟩ | ⟨_, free, _⟩
    · rw [same] at there
      exact fun disabled => settled before there (kept.owner ▸ owns) (kept.disabled disabled)
    · rw [free]
      nofun

theorem claimDeletion_destroyed {cutoff : Option Time} {captures : Bool}
    {claim : Claim} (destroyed : row.status = .destroyed)
    (done : claimDeletion config cutoff captures now row none = .ok (some claim)) :
    claim.retention = none := by
  rcases (claimDeletion_writes done).retention with same | ⟨_, _, ⟨uuid, guest, _⟩, _⟩
  · exact same
  simp only [claimDeletion, destroyed, guest] at done
  split at done
  · cases done
  split at done
  · cases done
  split at done
  · rename_i wanted
    exact absurd rfl wanted.1
  · cases done
    rfl

theorem outside_safe (safe : VmSafe desk) (own : isOwnStep step = true) :
    VmSafe (act config (.expiry step) desk) := by
  have move := expiryStep_moves config (expiryDesk desk) step own
  rw [← act_expiry own] at move
  have ends : ∀ after, (act config (.expiry step) desk).vm = some after →
      after.status = .destroyed →
      (act config (.expiry step) desk).retention = none ∧ after.deletionStartedAt.isSome := by
    intro after now destroyed
    have unretained : ∀ row, desk.vm = some row → row.status = .destroyed →
        desk.retention = none := by
      intro row found gone
      cases retained : desk.retention with
      | none => rfl
      | some record => exact absurd gone (safe.alive (by rw [retained]; rfl) row found)
    cases move.row with
    | rests same retention _ =>
      have there : desk.vm = some after := same.symm.trans now
      exact ⟨retention.trans (unretained after there destroyed), safe.ended after there destroyed⟩
    | created _ _ _ vm | protected_ _ _ _ _ _ _ vm =>
      rw [vm] at now
      cases now
      cases destroyed
    | extended request fate row receipt _ done vm _ _ =>
      rw [vm] at now
      cases now
      obtain ⟨_, _, extends_⟩ := extendRequest_extends done
      exact absurd destroyed extends_.alive
    | suspended row written suspends _ decided vm _ _ =>
      rw [vm] at now
      cases now
      obtain ⟨_, _, _, rfl⟩ := sweepVm_writes decided
      split at destroyed <;> cases destroyed
    | claimed row cutoff captures claim found _ decided vm retention _ =>
      rw [vm] at now
      cases now
      have writes := claimDeletion_writes decided
      rw [writes.vm] at destroyed ⊢
      have gone : row.status = .destroyed := destroyed
      have free : (expiryDesk desk).retention = none := unretained row found gone
      rw [free] at decided
      exact ⟨retention.trans (claimDeletion_destroyed gone decided), rfl⟩
    | destroyed row written w deletion found runs unmanifest vm _ same retention _ =>
      rw [vm] at now
      cases now
      obtain ⟨free, other, there, started⟩ := safe.deleting w deletion runs unmanifest
      have here : desk.vm = some row := found
      rw [here] at there
      cases there
      exact ⟨retention.trans free, same.1 ▸ started⟩
  refine ⟨act_held config _ safe.deleting, act_claimed _ safe.claimed, ?_, ?_⟩
  · intro retained after now destroyed
    rw [(ends after now destroyed).1] at retained
    cases retained
  · exact fun after now destroyed => (ends after now destroyed).2

theorem power_row {after : ExpiringVm}
    (now : (act config (.actor (.power action power works) fate) desk).vm = some after) :
    desk.vm = some after ∨ ∃ before, desk.vm = some before ∧
      vmAction action (vmOwnerEnabled desk.accounts before) desk.now power works before =
        some after := by
  simp only [act] at now
  split at now
  · exact Or.inl now
  rename_i vm found
  rcases actOn_result desk (.power action power works) fate vm with same | ⟨row, written, same⟩
  · rw [same] at now
    exact Or.inl now
  · rw [same] at now
    cases now
    obtain ⟨acted, decided, rfl⟩ := written_row written
    exact Or.inr ⟨vm, found, decided⟩

theorem vmAction_disabled {written : ExpiringVm}
    (powersOn : action = .start ∨ action = .reboot) :
    vmAction action false now power works row ≠ some written := by
  intro done
  unfold vmAction at done
  rw [if_pos ⟨powersOn, rfl⟩] at done
  cases done

structure ActedRow (before after : ExpiringVm) : Prop where
  owner : after.owner = before.owner
  guest : after.xcpngUuid = before.xcpngUuid
  alive : before.status ≠ .destroyed ∧ after.status ≠ .destroyed
  disabled : after.suspension = some .accountDisabled → before.suspension = some .accountDisabled

theorem vmAction_row {enabled : Bool} {written : ExpiringVm}
    (done : vmAction action enabled now power works row = some written) : ActedRow row written := by
  have writes := vmAction_writes done
  rcases writes.row with ⟨_, rfl⟩ | ⟨_, rfl⟩ | ⟨_, rfl⟩
  · exact ⟨rfl, rfl, ⟨writes.alive.1, by simp⟩, by simp⟩
  · exact ⟨rfl, rfl, ⟨writes.alive.1, writes.alive.1⟩, id⟩
  · refine ⟨rfl, rfl, ⟨writes.alive.1, ?_⟩, ?_⟩
    · simp only [stoppedRow]
      split <;> simp
    · intro disabled
      simp only [stoppedRow] at disabled
      split at disabled
      · exact disabled
      · cases disabled

theorem power_safe (config : ExpiryConfig) (safe : VmSafe desk) :
    VmSafe (act config (.actor (.power action power works) fate) desk) := by
  have same : (act config (.actor (.power action power works) fate) desk).retention =
      desk.retention := by
    simp only [act]
    split
    · rfl
    · rename_i vm _
      rcases actOn_result desk (.power action power works) fate vm with left | ⟨row, _, left⟩ <;>
        rw [left] <;> rfl
  refine ⟨act_held config _ safe.deleting, act_claimed _ safe.claimed, ?_, ?_⟩
  · intro retained after now destroyed
    rw [same] at retained
    rcases power_row now with there | ⟨before, _, acted⟩
    · exact safe.alive retained after there destroyed
    · exact (vmAction_row acted).alive.2 destroyed
  · intro after now destroyed
    rcases power_row now with there | ⟨before, _, acted⟩
    · exact safe.ended after there destroyed
    · exact absurd destroyed (vmAction_row acted).alive.2

theorem disabled_unreached {desk : OperationDesk} {row : ExpiringVm}
    (disabled : desk.enabled = false) (found : (desk.vms v).desk.vm = some row)
    (owns : row.owner.1 = some desk.account) (powersOn : action = .start ∨ action = .reboot) :
    reachesProvider action (vmDesk v desk) = false := by
  have there : (vmDesk v desk).vm = some row := found
  have enabled : vmOwnerEnabled (vmDesk v desk).accounts row = false := by
    simp only [vmOwnerEnabled, owns, vmDesk, update_self, disabled]
    rfl
  simp only [reachesProvider, there, enabled, Option.isSome_eq_false_iff,
    Option.isNone_iff_eq_none]
  cases acted : vmAction action false (vmDesk v desk).now .halted true row with
  | none => rfl
  | some written => exact absurd acted (vmAction_disabled powersOn)

theorem power_settles {desk : OperationDesk}
    (settled : Settles desk.account (wanted desk.enabled) (desk.vms v)) :
    Settles desk.account (wanted desk.enabled)
      ⟨act config (.actor (.power action (observe answer (desk.vms v)) answer.returns) fate)
          (vmDesk v desk),
        actedPower action answer (desk.vms v) (reachesProvider action (vmDesk v desk))⟩ := by
  cases enabled : desk.enabled with
  | true =>
    rw [enabled] at settled
    intro after now owns
    dsimp only at now
    rcases power_row now with there | ⟨before, there, acted⟩
    · exact settled after there owns
    · have kept := vmAction_row acted
      exact fun disabled => settled before there (kept.owner ▸ owns) (kept.disabled disabled)
  | false =>
    rw [enabled] at settled
    -- the VM before, whose power the action can only cut
    have held : ∀ before, (desk.vms v).desk.vm = some before → before.owner.1 = some desk.account →
        (desk.vms v).powered = false →
        actedPower action answer (desk.vms v) (reachesProvider action (vmDesk v desk)) = false := by
      intro before found owns off
      cases action with
      | start =>
        simp [actedPower, off, disabled_unreached enabled found owns (Or.inl rfl)]
      | reboot => exact off
      | shutdown | suspend => simp [actedPower, off]
    intro after now owns guest alive
    dsimp only at now
    rcases power_row now with there | ⟨before, there, acted⟩
    · obtain ⟨off, stopped⟩ := settled after there owns guest alive
      exact ⟨held after there owns off, stopped⟩
    · have kept := vmAction_row acted
      have mine : before.owner.1 = some desk.account := kept.owner ▸ owns
      obtain ⟨off, stopped⟩ := settled before there mine (kept.guest ▸ guest) kept.alive.1
      refine ⟨held before there mine off, ?_⟩
      rcases (vmAction_writes acted).row with ⟨start, _⟩ | ⟨_, rfl⟩ | ⟨_, rfl⟩
      · have refused : vmOwnerEnabled (vmDesk v desk).accounts before = false := by
          simp only [vmOwnerEnabled, mine, vmDesk, update_self, enabled]
          rfl
        rw [refused] at acted
        exact absurd acted (vmAction_disabled (Or.inl start))
      · exact stopped
      · simp only [isRunning, stoppedRow]
        split <;> simp

end Others

variable {change : AdminOperation → AdminOperation}

section Queue
variable {desk after : OperationDesk} {id : OperationId} {w : ProcessId}

theorem modify_pending (pending : IsPending desk)
    (kind : ∀ operation, (change operation).kind = operation.kind)
    (opened : ∀ operation, operation.status ≠ .completed → (change operation).status ≠ .completed)
    (enabled : after.enabled = desk.enabled)
    (written : after.operations = desk.operations.modify id change) : IsPending after := by
  obtain ⟨place, operation, there, matched, unfinished⟩ := pending
  refine ⟨place, if id = place then change operation else operation, ?_, ?_, ?_⟩
  · rw [written, List.getElem?_modify, there]
    rfl
  · rw [enabled]
    split
    · rw [kind]
      exact matched
    · exact matched
  · split
    · exact opened operation unfinished
    · exact unfinished

theorem finished_pending {operation : AdminOperation} (pending : IsPending desk)
    (found : desk.operations[id]? = some operation) (other : operation.kind ≠ wanted desk.enabled) :
    IsPending (setStatus id .completed desk) := by
  obtain ⟨place, expected, there, matched, unfinished⟩ := pending
  have apart : id ≠ place := by
    intro same
    subst same
    rw [found] at there
    cases there
    exact other matched
  refine ⟨place, expected, ?_, matched, unfinished⟩
  simp only [setStatus, List.getElem?_modify, there, if_neg apart]
  rfl

theorem pending_settled (pending : IsPending desk ∨ AllSettled desk) (settled : IsSettled desk) :
    AllSettled desk := by
  rcases pending with ⟨place, operation, there, _, unfinished⟩ | all
  · exact absurd (settled operation (List.mem_of_getElem? there)) unfinished
  · exact all

/-- A step that changes the queue and the workers only, and not the lock. -/
structure QueueStep (desk after : OperationDesk) : Prop where
  account : after.account = desk.account
  enabled : after.enabled = desk.enabled
  ids : after.ids = desk.ids
  vms : after.vms = desk.vms
  lease : after.lease = desk.lease
  independent : after.independent = desk.independent
  resumed : after.resumed = desk.resumed

theorem progresses_same (same : QueueStep desk after) (progresses : Progresses desk w phase) :
    Progresses after w phase := by
  cases phase with
  | working id kind now rest =>
    obtain ⟨holds, matched, done⟩ := progresses
    refine ⟨same.lease.trans holds, same.enabled ▸ matched, fun v listed visited => ?_⟩
    rw [same.account, same.vms]
    exact done v (same.ids ▸ listed) visited
  | failing id => exact same.lease.trans progresses
  | selected | claimed | raised => trivial

theorem queue_safe (safe : OperationsSafe desk) (same : QueueStep desk after)
    (settled : IsPending desk → IsPending after)
    (workers : ∀ v phase, after.workers v = some phase → Progresses after v phase) :
    OperationsSafe after where
  vms := by
    rw [same.vms]
    exact safe.vms
  settled := by
    rcases safe.settled with pending | all
    · exact Or.inl (settled pending)
    · refine Or.inr fun v listed => ?_
      rw [same.account, same.enabled, same.vms]
      exact all v (same.ids ▸ listed)
  workers := workers
  independent := by
    rw [same.independent, same.vms]
    exact safe.independent
  resumed := by
    rw [same.resumed]
    exact safe.resumed

theorem moved_workers {phase : Option WorkerPhase} (safe : OperationsSafe desk)
    (same : QueueStep desk after) (now : after.workers = update desk.workers w phase)
    (own : ∀ next, phase = some next → Progresses after w next) :
    ∀ v next, after.workers v = some next → Progresses after v next := by
  intro v next runs
  rw [now] at runs
  by_cases mine : v = w
  · subst mine
    rw [update_self] at runs
    exact own next runs
  · rw [update_of_ne mine] at runs
    exact progresses_same same (safe.workers v next runs)

def IsUnlocked : WorkerPhase → Prop
  | .working _ _ _ _ | .failing _ => False
  | _ => True

theorem unlocked_progresses (unlocked : IsUnlocked phase) : Progresses desk w phase := by
  cases phase with
  | working | failing => exact unlocked.elim
  | selected | claimed | raised => trivial

theorem free_unlocked (safe : OperationsSafe desk) (free : desk.lease = none)
    (runs : desk.workers w = some phase) : IsUnlocked phase := by
  have progresses := safe.workers w phase runs
  cases phase with
  | working id kind now rest =>
    have holds := progresses.1
    rw [free] at holds
    cases holds
  | failing id =>
    have holds : desk.lease = some w := progresses
    rw [free] at holds
    cases holds
  | selected | claimed | raised => trivial

theorem failed_pending (id : OperationId) (pending : IsPending desk) :
    IsPending (setStatus id .failed desk) := by
  refine modify_pending pending ?_ ?_ rfl rfl
  · exact fun _ => rfl
  · exact fun _ _ => nofun

theorem others_unlocked {v : ProcessId} (safe : OperationsSafe desk) (lease : desk.lease = some w)
    (other : v ≠ w) (runs : desk.workers v = some phase) : IsUnlocked phase := by
  have progresses := safe.workers v phase runs
  cases phase with
  | working id kind now rest =>
    have holds := progresses.1
    rw [lease] at holds
    cases holds
    exact absurd rfl other
  | failing id =>
    have holds : desk.lease = some v := progresses
    rw [lease] at holds
    cases holds
    exact absurd rfl other
  | selected | claimed | raised => trivial

theorem setPhase_safe {phase : Option WorkerPhase} (safe : OperationsSafe desk)
    (unlocked : ∀ next, phase = some next → IsUnlocked next) :
    OperationsSafe (setPhase w phase desk) := by
  have same : QueueStep desk (setPhase w phase desk) := ⟨rfl, rfl, rfl, rfl, rfl, rfl, rfl⟩
  exact queue_safe safe same id (moved_workers safe same rfl
    fun next now => unlocked_progresses (unlocked next now))

theorem modify_safe (safe : OperationsSafe desk)
    (kind : ∀ operation, (change operation).kind = operation.kind)
    (opened : ∀ operation, operation.status ≠ .completed → (change operation).status ≠ .completed) :
    OperationsSafe { desk with operations := desk.operations.modify id change } :=
  queue_safe safe ⟨rfl, rfl, rfl, rfl, rfl, rfl, rfl⟩
    (fun pending => modify_pending pending kind opened rfl rfl) safe.workers

theorem release_safe {phase : Option WorkerPhase} {operations : List AdminOperation}
    (safe : OperationsSafe desk) (lease : desk.lease = some w)
    (unlocked : ∀ next, phase = some next → IsUnlocked next)
    (settled : IsPending { desk with operations := operations } ∨ AllSettled desk) :
    OperationsSafe { setPhase w phase { desk with operations := operations } with
      lease := none } := by
  refine { safe with settled := settled, workers := fun v next runs => ?_ }
  apply unlocked_progresses
  by_cases mine : v = w
  · subst mine
    simp only [setPhase, update_self] at runs
    exact unlocked next runs
  · simp only [setPhase, update_of_ne mine] at runs
    exact others_unlocked safe lease mine runs

section
variable (fate : Fate) (safe : OperationsSafe desk)
include safe

theorem finishStep_safe :
    OperationsSafe (finishStep w fate desk) := by
  unfold finishStep
  split
  · rename_i id kind now runs
    obtain ⟨lease, matched, done⟩ := safe.workers w _ runs
    have all : AllSettled desk := fun v listed => matched ▸ done v listed List.not_mem_nil
    generalize ran : transact (finishOperation id .completed) fate desk = outcome
    obtain ⟨left, reply⟩ := outcome
    rcases transact_ends _ _ _ _ _ ran with ⟨rfl, error, rfl, _⟩ | ⟨value, ended, rfl | rfl⟩
    · exact release_safe safe lease (by rintro next ⟨⟩; trivial) (Or.inr all)
    · cases ended
      exact release_safe safe lease (by nofun) (Or.inr all)
    · cases ended
      exact release_safe safe lease (by rintro next ⟨⟩; trivial) (Or.inr all)
  · rename_i id runs
    have lease : desk.lease = some w := safe.workers w _ runs
    rcases transact_result (finishOperation id .failed) fate desk with
      same | ⟨after, value, ended, now⟩
    · rw [same]
      exact release_safe safe lease (by rintro next ⟨⟩; trivial) safe.settled
    · rw [now]
      cases ended
      refine release_safe safe lease (by rintro next ⟨⟩; trivial) ?_
      rcases safe.settled with pending | all
      · exact Or.inl (failed_pending id pending)
      · exact Or.inr all
  · exact safe

theorem markStep_safe :
    OperationsSafe (markStep w id fate desk) := by
  unfold markStep
  split
  · exact setPhase_safe safe (by nofun)
  split
  · rcases transact_result (finishOperation id .failed) fate desk with
      same | ⟨after, value, ended, now⟩
    · rw [same]
      exact setPhase_safe safe (by nofun)
    · rw [now]
      cases ended
      refine setPhase_safe ?_ (by nofun)
      exact queue_safe safe ⟨rfl, rfl, rfl, rfl, rfl, rfl, rfl⟩ (failed_pending id) safe.workers
  · exact setPhase_safe safe (by nofun)

theorem leaseStep_safe :
    OperationsSafe (leaseStep w id fate desk) := by
  unfold leaseStep
  split
  · exact safe
  · exact setPhase_safe safe (by rintro next ⟨⟩; trivial)
  · rename_i operation free found
    split
    · rename_i other
      have ended : OperationsSafe (setStatus id .completed desk) :=
        queue_safe safe ⟨rfl, rfl, rfl, rfl, rfl, rfl, rfl⟩
          (fun pending => finished_pending pending found other) safe.workers
      generalize ran : transact (finishOperation id .completed) fate desk = outcome
      obtain ⟨left, reply⟩ := outcome
      rcases transact_ends _ _ _ _ _ ran with ⟨rfl, error, rfl, _⟩ | ⟨value, done, rfl | rfl⟩
      · exact setPhase_safe safe (by rintro next ⟨⟩; trivial)
      · cases done
        exact setPhase_safe ended (by nofun)
      · cases done
        exact setPhase_safe ended (by rintro next ⟨⟩; trivial)
    · rename_i matched
      refine { safe with workers := fun v next runs => ?_ }
      rcases update_cases runs with ⟨rfl, ⟨⟩⟩ | ⟨_, runs⟩
      · refine ⟨rfl, not_not.mp matched, fun vm listed skipped => ?_⟩
        -- the list was taken under the lock
        have foreign : ∀ row, (desk.vms vm).desk.vm = some row →
            row.owner.1 ≠ some desk.account := by
          intro row there owns
          refine skipped (List.mem_filter.mpr ⟨listed, ?_⟩)
          simp only [there, owns, decide_true]
        cases kind : operation.kind with
        | suspend | resume => exact fun row there owns => absurd owns (foreign row there)
      · exact unlocked_progresses (free_unlocked safe free runs)

end

theorem visited_safe {rest : List VmId}
    {resumed : List ResumedGuest} (safe : OperationsSafe desk)
    (runs : desk.workers w = some (.working id kind now (v :: rest))) (left : VmSafe vm.desk)
    (keeps : Settles desk.account kind (desk.vms v) → Settles desk.account kind vm)
    (next : phase = .failing id ∨
      (phase = .working id kind now rest ∧ Settles desk.account kind vm))
    (untouched : ∀ row, (desk.vms v).desk.vm = some row → row.status = .suspended →
      (row.suspension = some .manualAdmin ∨ row.suspension = some .expired) →
      vm.desk.vm = some row) (sound : ∀ guest ∈ resumed, IsResumable guest) :
    OperationsSafe (setPhase w (some phase) (setVm v vm { desk with resumed := resumed })) := by
  obtain ⟨lease, matched, done⟩ := safe.workers w _ runs
  have settled : ∀ u ∈ desk.ids, Settles desk.account kind (desk.vms u) →
      Settles desk.account kind (update desk.vms v vm u) := by
    intro u _ before
    by_cases same : u = v
    · subst same
      rw [update_self]
      exact keeps before
    · rw [update_of_ne same]
      exact before
  constructor
  · intro u
    simp only [setPhase, setVm]
    by_cases same : u = v
    · subst same
      rw [update_self]
      exact left
    · rw [update_of_ne same]
      exact safe.vms u
  · rcases safe.settled with pending | all
    · exact Or.inl pending
    refine Or.inr fun u listed => ?_
    have before := all u listed
    rw [← matched] at before
    have after := settled u listed before
    rw [matched] at after
    exact after
  · intro u other runs'
    rcases update_cases runs' with ⟨rfl, ⟨⟩⟩ | ⟨mine, runs'⟩
    · rcases next with rfl | ⟨rfl, settles⟩
      · exact lease
      refine ⟨lease, matched, fun u listed visited => ?_⟩
      by_cases same : u = v
      · subst same
        simp only [setPhase, setVm, update_self]
        exact settles
      · exact settled u listed (done u listed (by simp [same, visited]))
    · exact unlocked_progresses (others_unlocked safe lease mine runs')
  · intro u reason noted
    obtain ⟨row, there, suspended, other, same⟩ := safe.independent u reason noted
    refine ⟨row, ?_, suspended, other, same⟩
    simp only [setPhase, setVm]
    by_cases mine : u = v
    · subst mine
      rw [update_self]
      exact untouched row there suspended other
    · rw [update_of_ne mine]
      exact there
  · exact sound

theorem setVm_self (v : VmId) (desk : OperationDesk) : setVm v (desk.vms v) desk = desk := by
  simp only [setVm, update_eq_self]

theorem visitStep_safe {rest : List VmId}
    (fate : Fate) (safe : OperationsSafe desk)
    (runs : desk.workers w = some (.working id kind now (v :: rest)))
    (may : mayOperate (.worker w (.visit answer fate)) desk) :
    OperationsSafe (visitStep w id kind now v rest answer fate desk) := by
  have skipped : (∀ row, (desk.vms v).desk.vm = some row → row.owner.1 ≠ some desk.account) →
      OperationsSafe (setPhase w (some (.working id kind now rest)) desk) := by
    intro foreign
    have settles : Settles desk.account kind (desk.vms v) := by
      cases kind with
      | suspend | resume => exact fun row there owns => absurd owns (foreign row there)
    have result : OperationsSafe (setPhase w (some (.working id kind now rest))
        (setVm v (desk.vms v) desk)) :=
      visited_safe safe runs (safe.vms v) (fun before => before) (Or.inr ⟨rfl, settles⟩)
        (fun row there _ _ => there) safe.resumed
    rwa [setVm_self] at result
  unfold visitStep
  dsimp only
  split
  · rename_i absent
    apply skipped
    intro row there
    rw [absent] at there
    cases there
  rename_i row found
  split
  · rename_i foreign
    apply skipped
    intro other there
    rw [found] at there
    cases there
    exact foreign
  rename_i owns
  have mine := not_not.mp owns
  have sound : ∀ guest ∈ (if startsGuest kind now answer (desk.vms v) row then
      ⟨row, (desk.vms v).desk.retention⟩ :: desk.resumed else desk.resumed), IsResumable guest := by
    split
    · rename_i starts
      simp only [startsGuest, Bool.and_eq_true, decide_eq_true_eq] at starts
      obtain ⟨rfl, called⟩ := starts
      have calls := resumeAccount_calls called
      have unclaimed := may id now v rest row runs found mine calls.reason calls.alive.1
        calls.alive.2 calls.unexpired calls.guest calls.halted
      intro guest listed
      rcases List.mem_cons.mp listed with rfl | before
      · exact calls_resumable (safe.vms v) found calls unclaimed
      · exact safe.resumed guest before
    · exact safe.resumed
  have unwritten : ∀ row, (desk.vms v).desk.vm = some row → row.status = .suspended →
      (row.suspension = some .manualAdmin ∨ row.suspension = some .expired) →
      (desk.vms v).desk.vm = some row := fun _ there _ _ => there
  split
  · rename_i skips
    exact visited_safe safe runs (safe.vms v) unwritten_settles
      (Or.inr ⟨rfl, skips_settles found skips⟩) unwritten sound
  · exact visited_safe safe runs (safe.vms v) unwritten_settles (Or.inl rfl) unwritten sound
  · rename_i written commits
    have writes := visitVm_writes commits
    have left := written_safe (safe.vms v) found writes.claim writes.ends
    have settles : Settles desk.account kind
        ⟨{ (desk.vms v).desk with vm := some written.1, transfer := written.2 },
          visitedPower kind now answer (desk.vms v) row⟩ := commits_settles commits
    have untouched : ∀ other, (desk.vms v).desk.vm = some other → other.status = .suspended →
        (other.suspension = some .manualAdmin ∨ other.suspension = some .expired) →
        some written.1 = some other := by
      intro other there suspended reason
      rw [found] at there
      cases there
      exact absurd ⟨suspended, reason⟩ writes.other
    generalize ran : transact (commitRow written) fate (desk.vms v).desk = outcome
    obtain ⟨after, reply⟩ := outcome
    rcases transact_ends _ _ _ _ _ ran with ⟨rfl, error, rfl, _⟩ | ⟨value, ended, rfl | rfl⟩
    · exact visited_safe safe runs (safe.vms v) unwritten_settles (Or.inl rfl) unwritten sound
    · cases ended
      exact visited_safe safe runs left (fun _ => settles) (Or.inr ⟨rfl, settles⟩) untouched sound
    · cases ended
      exact visited_safe safe runs left (fun _ => settles) (Or.inl rfl) untouched sound

theorem workerStep_safe (step : WorkerStep) (safe : OperationsSafe desk)
    (may : mayOperate (.worker w step) desk) : OperationsSafe (workerStep w step desk) := by
  unfold workerStep
  split
  · split
    · exact setPhase_safe safe (by rintro next ⟨⟩; trivial)
    · exact safe
  · rename_i id fate runs
    split
    · exact setPhase_safe safe (by nofun)
    have claimed : OperationsSafe { desk with
        operations := desk.operations.modify id fun operation =>
          { operation with status := .running, startedAt := some desk.now } } := by
      refine modify_safe safe ?_ ?_
      · exact fun _ => rfl
      · exact fun _ _ => nofun
    generalize ran : transact (claimOperation id) fate desk = outcome
    obtain ⟨after, reply⟩ := outcome
    rcases transact_ends _ _ _ _ _ ran with ⟨rfl, error, rfl, _⟩ | ⟨value, ended, rfl | rfl⟩
    · exact setPhase_safe safe (by nofun)
    · cases ended
      exact setPhase_safe claimed (by rintro next ⟨⟩; trivial)
    · cases ended
      exact setPhase_safe claimed (by nofun)
  · exact leaseStep_safe _ safe
  · rename_i runs
    exact visitStep_safe _ safe runs may
  · exact finishStep_safe _ safe
  · exact markStep_safe _ safe
  · split
    · rename_i lease
      exact release_safe safe lease (by nofun) safe.settled
    · exact setPhase_safe safe (by nofun)
  · exact safe

theorem leaveVm_safe (safe : OperationsSafe desk) (left : VmSafe vm.desk)
    (keeps : ∀ kind, kind = wanted desk.enabled → Settles desk.account kind (desk.vms v) →
      Settles desk.account kind vm) : OperationsSafe (leaveVm v vm desk) := by
  have settled : ∀ kind, kind = wanted desk.enabled → ∀ u, Settles desk.account kind (desk.vms u) →
      Settles desk.account kind (update desk.vms v vm u) := by
    intro kind matched u before
    by_cases same : u = v
    · subst same
      rw [update_self]
      exact keeps kind matched before
    · rw [update_of_ne same]
      exact before
  constructor
  · intro u
    simp only [leaveVm, setVm]
    by_cases same : u = v
    · subst same
      rw [update_self]
      exact left
    · rw [update_of_ne same]
      exact safe.vms u
  · rcases safe.settled with pending | all
    · exact Or.inl pending
    · exact Or.inr fun u listed => settled _ rfl u (all u listed)
  · intro w phase runs
    have progresses := safe.workers w phase runs
    cases phase with
    | working id kind now rest =>
      obtain ⟨lease, matched, done⟩ := progresses
      exact ⟨lease, matched, fun u listed visited =>
        settled kind matched u (done u listed visited)⟩
    | failing id => exact progresses
    | selected | claimed | raised => trivial
  · intro u reason noted
    simp only [leaveVm, setVm] at noted ⊢
    by_cases same : u = v
    · subst same
      simp only [update_self] at noted ⊢
      unfold independentReason at noted
      split at noted
      · cases noted
      rename_i row there
      split at noted
      · rename_i other
        exact ⟨row, there, other.1, other.2, noted⟩
      · cases noted
    · simp only [update_of_ne same] at noted ⊢
      exact safe.independent u reason noted
  · exact safe.resumed

theorem vmDesk_safe (safe : VmSafe (desk.vms v).desk) : VmSafe (vmDesk v desk) :=
  { safe with }

theorem requestState_safe {enabled : Bool} (fate : Fate) (safe : OperationsSafe desk)
    (free : desk.lease = none) :
    OperationsSafe (transact (requestState enabled) fate desk).1 := by
  rcases transact_result (requestState enabled) fate desk with same | ⟨after, value, done, now⟩
  · rw [same]
    exact safe
  · rw [now]
    cases done
    refine { safe with settled := Or.inl ?_, workers := fun w phase runs => ?_ }
    · -- the new operation is the last one
      refine ⟨desk.operations.length, { kind := wanted enabled, createdAt := desk.now }, ?_, rfl,
        nofun⟩
      have length : (supersede (wanted !enabled) desk.operations).length =
          desk.operations.length := List.length_map _
      rw [← length]
      exact List.getElem?_concat_length
    · exact unlocked_progresses (free_unlocked safe free runs)

theorem retryOperation_safe (fate : Fate) (safe : OperationsSafe desk) :
    OperationsSafe (transact (retryOperation id) fate desk).1 := by
  rcases transact_result (retryOperation id) fate desk with same | ⟨after, value, done, now⟩
  · rw [same]
    exact safe
  · rw [now]
    unfold retryOperation at done
    split at done
    · cases done
    split at done
    · cases done
    split at done
    · cases done
    cases done
    refine modify_safe safe ?_ ?_
    · exact fun _ => rfl
    · exact fun _ _ => nofun

theorem operationStep_safe {config : ExpiryConfig} (step : OperationStep) (desk : OperationDesk)
    (safe : OperationsSafe desk) (may : mayOperate step desk) :
    OperationsSafe (operationStep config step desk) := by
  cases step with
  | wait elapsed =>
    exact queue_safe safe ⟨rfl, rfl, rfl, rfl, rfl, rfl, rfl⟩ id
      fun w phase runs => progresses_same ⟨rfl, rfl, rfl, rfl, rfl, rfl, rfl⟩
        (safe.workers w phase runs)
  | request enabled fate =>
    simp only [operationStep]
    split
    · exact safe
    · rename_i free
      exact requestState_safe fate safe (by simpa using free)
  | retry id fate => exact retryOperation_safe fate safe
  | worker w step => exact workerStep_safe step safe may
  | outside v step halts =>
    simp only [operationStep]
    split
    · rename_i outside
      have own : isOwnStep step = true := by
        cases step <;> first
          | exact outside
          | cases outside
      exact leaveVm_safe safe (outside_safe (vmDesk_safe (safe.vms v)) own)
        fun kind _ settled => outside_settles (vmDesk_safe (safe.vms v)) rfl own settled
    · exact safe
  | power v action answer fate =>
    simp only [operationStep]
    split
    · exact safe
    · refine leaveVm_safe safe (power_safe config (vmDesk_safe (safe.vms v))) fun kind matched settled => ?_
      subst matched
      exact power_settles settled

end Queue

theorem operations_start {desk : OperationDesk} (start : OperationsStart desk) :
    OperationsSafe desk where
  vms v := by
    refine ⟨fun w deletion runs => ?_, fun retained => ?_, fun retained => ?_, start.ended v⟩
    · rw [start.deletions v w] at runs
      cases runs
    · rw [start.retention v] at retained
      cases retained
    · rw [start.retention v] at retained
      cases retained
  settled := by
    refine Or.inr fun v _ => ?_
    rw [start.enabled]
    exact start.freed v
  workers w phase runs := by
    rw [start.workers w] at runs
    cases runs
  independent v reason noted := by
    rw [start.independent v] at noted
    unfold independentReason at noted
    split at noted
    · cases noted
    rename_i row there
    split at noted
    · rename_i other
      exact ⟨row, there, other.1, other.2, noted⟩
    · cases noted
  resumed guest listed := by
    rw [start.resumed] at listed
    cases listed

/-- The account operations, over every run of requests, workers, sweeps, deletions and
administrators. -/
theorem account_operations_kept (config : ExpiryConfig) (desk : OperationDesk)
    (steps : List OperationStep) (start : OperationsStart desk)
    (admitted : (operations config).admits desk steps) :
    OperationsKept ((operations config).run desk steps) := by
  have safe := (operations config).run_keeps operationStep_safe steps desk (operations_start start)
    admitted
  refine ⟨fun settled => pending_settled safe.settled settled, fun v reason noted => ?_,
    safe.resumed⟩
  obtain ⟨row, there, suspended, _, same⟩ := safe.independent v reason noted
  exact ⟨row, there, suspended, same⟩

/-- `mayOperate` as a test. -/
def operateTest (step : OperationStep) (desk : OperationDesk) : Bool :=
  match step with
  | .worker w (.visit answer _) => match desk.workers w with
      | some (.working _ .resume now (v :: _)) => match (desk.vms v).desk.vm with
          | some row => row.owner.1 ≠ some desk.account || row.suspension ≠ some .accountDisabled ||
              row.status = .destroyed || row.status = .failed || isPast row.expiresAt now ||
              row.xcpngUuid.isNone || observe answer (desk.vms v) ≠ .halted ||
              row.deletionStartedAt.isNone
          | none => true
      | _ => true
  | _ => true

theorem operateTest_may (step : OperationStep) (desk : OperationDesk)
    (passed : operateTest step desk = true) : mayOperate step desk := by
  unfold mayOperate
  split
  · intro id now v rest row runs found owns reason alive built unexpired guest halted
    have uuid : row.xcpngUuid.isNone = false := by
      cases there : row.xcpngUuid with
      | none =>
        rw [there] at guest
        cases guest
      | some uuid => rfl
    simp only [operateTest, runs, found, owns, reason, alive, built, unexpired, uuid, halted] at passed
    simpa using passed
  · trivial

def vmOf (handler : Nat) : VmId := ⟨.request handler, 0⟩

def runningRow (uuid : Nat) : ExpiringVm where
  owner := (some 1, none)
  status := .running
  expiresAt := some 5000
  xcpngUuid := some uuid

def operationDesk : OperationDesk where
  now := 0
  account := 1
  enabled := true
  operations := []
  ids := [vmOf 0, vmOf 1]
  vms := fun v =>
    if v = vmOf 0 then ⟨{ bareDesk with vm := some (runningRow 7) }, true⟩
    else if v = vmOf 1 then ⟨{ bareDesk with vm := some (runningRow 8) }, true⟩
    else ⟨bareDesk, false⟩
  workers := fun _ => none
  lease := none
  independent := fun _ => none
  resumed := []

theorem operationDesk_starts : OperationsStart operationDesk := by
  have cases_vms : ∀ v, operationDesk.vms v = ⟨{ bareDesk with vm := some (runningRow 7) }, true⟩ ∨
      operationDesk.vms v = ⟨{ bareDesk with vm := some (runningRow 8) }, true⟩ ∨
      operationDesk.vms v = ⟨bareDesk, false⟩ := by
    intro v
    simp only [operationDesk]
    split
    · exact Or.inl rfl
    · split
      · exact Or.inr (Or.inl rfl)
      · exact Or.inr (Or.inr rfl)
  refine ⟨rfl, rfl, fun _ => rfl, rfl, rfl, fun v => ?_, fun v => ?_, fun v row found => ?_,
    fun v => ?_, fun v w => ?_⟩
  · rcases cases_vms v with same | same | same <;> rw [same] <;> rintro row ⟨⟩ _ <;> nofun
  · rcases cases_vms v with same | same | same <;> rw [same] <;> rfl
  · rcases cases_vms v with same | same | same <;> rw [same] at found <;> cases found <;> nofun
  · rcases cases_vms v with same | same | same <;> rw [same] <;> rfl
  · rcases cases_vms v with same | same | same <;> rw [same] <;> rfl

def answered : ProviderAnswer := ⟨true, true, false⟩

/-- One worker takes the operation `id` and visits both VMs. -/
def worked (w : ProcessId) (id : OperationId) : List OperationStep :=
  [.worker w .select, .worker w (.claim id .done), .worker w (.lease .done),
    .worker w (.visit answered .done), .worker w (.visit answered .done),
    .worker w (.finish .done)]

/-- An administrator stops one VM, a worker dies with the other half done, another takes its
operation after a quarter of an hour, and the account is enabled again. -/
def reclaimedRun : List OperationStep :=
  [.power (vmOf 1) .suspend answered .done, .request false .done,
    .worker 0 .select, .worker 0 (.claim 0 .done), .worker 0 (.lease .done),
    .worker 0 (.visit answered .lost), .worker 0 .crash, .wait 1000] ++
  worked 1 0 ++ [.request true .lost] ++ worked 2 1

theorem reclaimed_operations_kept :
    OperationsKept ((operations ⟨10, true⟩).run operationDesk reclaimedRun) := by
  apply account_operations_kept ⟨10, true⟩ operationDesk reclaimedRun operationDesk_starts
  exact (operations _).passes_admits operateTest operateTest_may _ _ (by decide +kernel)

/-- The deletion of a VM is claimed while its account is disabled. -/
def enabledAgainRun : List OperationStep :=
  [.request false .done] ++ worked 0 0 ++
    [.outside (vmOf 0) (.destroy 5 false .done) false, .request true .done] ++ worked 0 1

/-- Enabling the account starts the guest of that VM. -/
theorem claimed_guest_started :
    ¬ OperationsKept ((operations ⟨10, true⟩).run operationDesk enabledAgainRun) := by
  intro kept
  have started : ⟨{ runningRow 7 with
      status := .suspended
      suspension := some .accountDisabled
      deletionStartedAt := some 0 }, none⟩ ∈
      ((operations ⟨10, true⟩).run operationDesk enabledAgainRun).resumed := by decide +kernel
  have unclaimed := (kept.resumed _ started).unclaimed
  cases unclaimed

end HyruleCloud.Lifecycle
