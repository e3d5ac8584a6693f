import HyruleCloud.LifecycleMoves
import Mathlib.Data.List.Nodup

/-!
A retained guest is kept until its restore is completed: the provider is not asked to
destroy it, one restore at a time goes from its request to its end, and nothing but an
administrator's start powers it on again.
-/

namespace HyruleCloud.Lifecycle

open Interaction Expiry

def RestoreState.rank : RestoreState → Nat
  | .pending => 0
  | .authorized => 1
  | .completed => 2

def Advances (restore next : VmRestore) : Prop :=
  next = restore ∨
  (restore.state = .pending ∧ next = { restore with state := .authorized }) ∨
  (restore.state = .authorized ∧ next = { restore with state := .completed })

def Continues (restore later : VmRestore) : Prop :=
  later = { restore with state := later.state } ∧ restore.state.rank ≤ later.state.rank

def Replays (request : RestoreRequest) (restore : VmRestore) : Prop :=
  request.id = restore.id ∧ request.days = restore.days ∧ request.reason = restore.reason

/-- A step that removes the retention row, or clears the claim of the deletion. -/
def Releases (before after : LifecycleDesk) : Prop :=
  (before.retention.isSome ∧ after.retention = none) ∨ (IsClaimed before ∧ ¬ IsClaimed after)

def Completes (step : LifecycleStep) (before after : LifecycleDesk) : Prop :=
  ∃ id finalize restores fate restore, step = .visit id finalize restores fate ∧
    findRestore id before = some restore ∧ restore.state = .authorized ∧
    { restore with state := .completed } ∈ after.restores

/-- `mid` and `final` are two states of a run. -/
structure RetentionKept (config : ExpiryConfig) (mid final : LifecycleDesk) : Prop where
  undestroyed : ∀ erasure ∈ final.erasures, ∀ record, erasure.retention = some record →
    record.sourceVmUuid ≠ erasure.xcpngUuid
  one_open : ∀ restore ∈ final.restores, ∀ other ∈ final.restores,
    restore.state ≠ .completed → other.state ≠ .completed → restore = other
  continues : ∀ restore ∈ mid.restores, ∃ later ∈ final.restores, Continues restore later
  advances : ∀ step, ∀ restore ∈ final.restores,
    ∃ next ∈ (lifecycleStep config step final).restores, Advances restore next
  replays : ∀ restore ∈ final.restores, ∀ request fate, Replays request restore →
    lifecycleStep config (.restore request fate) final = final
  replays_end : ∀ restore ∈ final.restores, restore.state = .completed →
    ∀ finalize restores fate,
      lifecycleStep config (.visit restore.id finalize restores fate) final = final
  released : ∀ step, Releases final (lifecycleStep config step final) →
    Completes step final (lifecycleStep config step final)
  unstarted : ∀ start ∈ final.starts, start.kept = false

def mayTransfer (step : LifecycleStep) (desk : LifecycleDesk) : Prop :=
  match step with
  | .actor (.resumeTransfer _ _) _ => ∀ vm, desk.vm = some vm →
      desk.transfer.isSome → vm.suspension ≠ some .manualAdmin
  | _ => True

def retentions (config : ExpiryConfig) : Protocol LifecycleDesk LifecycleStep :=
  ⟨lifecycleStep config, mayTransfer⟩

/-- Nothing has been retained or restored, and nobody is deleting the VM. -/
structure RetentionStart (desk : LifecycleDesk) : Prop where
  retention : desk.retention = none
  restores : desk.restores = []
  erasures : desk.erasures = []
  starts : desk.starts = []
  kept : desk.kept = false
  sweeps : ∀ w, desk.sweeps w = none
  deletions : ∀ w, desk.deletions w = none

/-- Since its retention the guest has been claimed and is past its expiry, or it has been
stopped for its restore. -/
inductive Withheld (vm : ExpiringVm) (retention : Option VmRetention) (now : Time) : Prop where
  | retained (claim : vm.deletionStartedAt.isSome) (record : retention.isSome)
      (expired : isPast vm.expiresAt now = true)
  | stopped (reason : vm.suspension = some .manualAdmin)
      (status : vm.status = .suspended ∨ (vm.status = .destroyed ∧ vm.deletionStartedAt.isSome))

def RestoreCurrent (desk : LifecycleDesk) (restore : VmRestore) : Prop :=
  (∃ record, desk.retention = some record ∧ record.state = .restoring) ∧
    desk.evidence.restore = some restore.id

structure RetentionSafe (config : ExpiryConfig) (desk : LifecycleDesk) : Prop where
  deleting : DeletionsHeld desk
  erasures : ∀ erasure ∈ desk.erasures, erasure.retention = none
  unique : (desk.restores.map VmRestore.id).Nodup
  current : ∀ restore ∈ desk.restores, restore.state ≠ .completed → RestoreCurrent desk restore
  kept : desk.kept = true → ∃ vm, desk.vm = some vm ∧
    Withheld vm desk.retention desk.now
  starts : ∀ start ∈ desk.starts, start.kept = false
  due : ∀ w expiredBefore, desk.sweeps w = some (.due expiredBefore) →
    expiredBefore ≤ desk.now - config.grace

/-! Each actor, on a guest that is withheld. -/

variable {transfer : Option TransferHandoff} {power : PowerState} {stops starts : Bool}

variable {desk : LifecycleDesk}

variable {enabled retained : Bool}

section Rows
variable {vm written : ExpiringVm} {retention : Option VmRetention} {now : Time}

structure Withholds (decision : Decision) (retention : Option VmRetention) (now : Time) :
    Prop where
  starts : decision.starts = none
  row : ∀ row, decision.row = some row → Withheld row.1 retention now

theorem withholds_nothing : Withholds {} retention now where
  starts := rfl
  row row done := by cases done

theorem withholds_written {decided : Option ExpiringVm}
    (withheld : ∀ written, decided = some written → Withheld written retention now) :
    Withholds { row := decided.map fun vm => (vm, transfer) } retention now where
  starts := rfl
  row row done := by
    obtain ⟨written, same, rfl⟩ := written_row done
    exact withheld written same

variable (withheld : Withheld vm retention now)
include withheld

theorem suspendAccount_withholds
    (done : suspendAccount power stops vm = some written) : Withheld written retention now := by
  cases withheld with
  | retained claim record expired =>
    unfold suspendAccount at done
    repeat' split at done
    all_goals cases done
    all_goals exact .retained claim record expired
  | stopped reason status =>
    rcases status with suspended | ⟨destroyed, _⟩
    · simp [suspendAccount, suspended, reason] at done
    · simp [suspendAccount, destroyed] at done

theorem resumeAccount_withholds :
    Withholds (resumeAccount now power starts vm transfer) retention now := by
  unfold resumeAccount
  cases withheld with
  | retained claim record expired =>
    split
    · exact withholds_nothing
    split
    · refine ⟨rfl, fun row done => ?_⟩
      cases done
      exact .retained claim record expired
    · refine ⟨rfl, fun row done => ?_⟩
      cases done
      exact .retained claim record expired
  | stopped reason status =>
    rw [if_pos (by rw [reason]; nofun)]
    exact withholds_nothing

theorem resumeExtension_withholds :
    Withholds (resumeExtension enabled power starts vm transfer) retention now := by
  unfold resumeExtension
  split
  · exact withholds_nothing
  rename_i handoff marker
  have stale : vm.status ≠ .suspended ∨ vm.deletionStartedAt.isSome ∨
      vm.xcpngUuid ≠ some handoff.xcpngUuid ∨ vm.owner ≠ handoff.owner ∨
      isRestricted vm.suspension := by
    cases withheld with
    | retained claim record expired => exact Or.inr (Or.inl claim)
    | stopped reason status =>
      refine Or.inr (Or.inr (Or.inr (Or.inr ?_)))
      simp [isRestricted, reason]
  rw [if_pos stale]
  refine ⟨rfl, fun row done => ?_⟩
  cases done
  cases withheld with
  | retained claim record expired => exact .retained claim record expired
  | stopped reason status => exact .stopped reason status

omit withheld

theorem resumeTransfer_withholds {accounts : AccountId → Option Bool}
    (unstopped : transfer.isSome → vm.suspension ≠ some .manualAdmin)
    (withheld : Withheld vm retention now) :
    Withholds (resumeTransfer accounts now power starts vm transfer) retention now := by
  cases withheld with
  | retained claim record expired =>
    have kept : Withholds { row := some (vm, none) } retention now := by
      refine ⟨rfl, fun row done => ?_⟩
      cases done
      exact .retained claim record expired
    unfold resumeTransfer
    split
    · exact withholds_nothing
    · exact withholds_nothing
    split
    · exact kept
    split
    · exact withholds_nothing
    · exact kept
  | stopped reason status =>
    unfold resumeTransfer
    split
    · exact withholds_nothing
    · exact withholds_nothing
    · exact absurd reason (unstopped rfl)

theorem vmAction_withholds {action : PowerAction} {works : Bool}
    (other : action ≠ .start) (withheld : Withheld vm retention now)
    (done : vmAction action enabled now power works vm = some written) :
    Withheld written retention now := by
  have writes := vmAction_writes done
  cases withheld with
  | retained claim record expired =>
    rw [writes.unclaimed] at claim
    cases claim
  | stopped reason status =>
    have suspended : vm.status = .suspended := by
      rcases status with suspended | ⟨destroyed, _⟩
      · exact suspended
      · exact absurd destroyed writes.alive.1
    rcases writes.row with ⟨start, _⟩ | ⟨_, rfl⟩ | ⟨_, rfl⟩
    · exact absurd start other
    · exact .stopped reason status
    · apply Withheld.stopped
      · simp [stoppedRow, reason]
      · exact Or.inl (by simp [stoppedRow, suspended])

include withheld

theorem extendVmExpiry_withholds {days : Nat}
    (done : extendVmExpiry days now vm = some written) : Withheld written retention now := by
  unfold extendVmExpiry at done
  split at done
  · cases done
  split at done
  · cases done
  rename_i open_
  cases done
  cases withheld with
  | retained claim record expired => simp [claim] at open_
  | stopped reason status => exact .stopped reason status

theorem transferVm_withholds {target : AccountId} {wallet : Option Wallet}
    {row : ExpiringVm × Option TransferHandoff}
    (done : transferVm target wallet vm transfer = some row) : Withheld row.1 retention now := by
  unfold transferVm at done
  split at done
  · cases done
  rename_i free
  push Not at free
  cases withheld with
  | retained claim record expired => exact absurd claim free.1
  | stopped reason status =>
    simp only [reason] at done
    repeat' split at done
    all_goals cases done
    · rename_i disabled _
      cases disabled
    · rename_i disabled _
      cases disabled
    · exact .stopped rfl status

theorem claimVm_withholds {account : AccountId}
    (done : claimVm account retained vm = some written) :
    Withheld written retention now := by
  unfold claimVm at done
  split at done
  · cases done
  split at done
  · cases done
  cases done
  cases withheld with
  | retained claim record expired => exact .retained claim record expired
  | stopped reason status => exact .stopped reason status

theorem detachVm_withholds
    (done : detachVm retained vm = some written) : Withheld written retention now := by
  unfold detachVm at done
  split at done
  · cases done
  split at done
  · cases done
  cases done
  cases withheld with
  | retained claim record expired => exact .retained claim record expired
  | stopped reason status => exact .stopped reason status

theorem deliverVm_withholds {uuid : Nat}
    (done : deliverVm uuid power stops vm = some written) : Withheld written retention now := by
  unfold deliverVm at done
  split at done
  · cases done
  rename_i free
  cases withheld with
  | retained claim record expired => exact absurd claim free
  | stopped reason status =>
    simp only [reason] at done
    repeat' split at done
    all_goals cases done
    · exact .stopped rfl (Or.inl rfl)
    · rename_i unset
      exact absurd rfl unset

theorem failVm_withholds
    (done : failVm power stops vm = some written) : Withheld written retention now := by
  unfold failVm at done
  split at done
  · cases done
  rename_i provisioning
  split at done
  · cases done
  cases done
  cases withheld with
  | retained claim record expired => exact .retained claim record expired
  | stopped reason status =>
    rw [not_not.mp provisioning] at status
    simp at status

omit withheld

theorem decideRow_withholds {actor : Actor} {fate : Fate}
    (found : desk.vm = some vm) (may : mayTransfer (.actor actor fate) desk)
    (other : ∀ power works, actor ≠ .power .start power works)
    (withheld : Withheld vm retention desk.now) :
    Withholds (decideRow actor vm desk) retention desk.now := by
  cases actor with
  | suspendResources account power stops =>
    simp only [decideRow]
    split
    · exact withholds_written fun _ done => suspendAccount_withholds withheld done
    · exact withholds_nothing
  | resumeResources account power starts =>
    simp only [decideRow]
    split
    · exact resumeAccount_withholds withheld
    · exact withholds_nothing
  | resumeExtension power starts => exact resumeExtension_withholds withheld
  | resumeTransfer power starts => exact resumeTransfer_withholds (may vm found) withheld
  | power action power works =>
    apply withholds_written fun _ done => vmAction_withholds ?_ withheld done
    intro start
    subst start
    exact other power works rfl
  | grant days => exact withholds_written fun _ done => extendVmExpiry_withholds withheld done
  | transfer target wallet =>
    simp only [decideRow]
    split
    · exact ⟨rfl, fun row done => transferVm_withholds withheld done⟩
    · exact withholds_nothing
  | claim account =>
    simp only [decideRow]
    split
    · exact withholds_written fun _ done => claimVm_withholds withheld done
    · exact withholds_nothing
  | guest uuid =>
    simp only [decideRow]
    split
    · refine withholds_written fun written done => ?_
      cases done
      cases withheld with
      | retained claim record expired => exact .retained claim record expired
      | stopped reason status => exact .stopped reason status
    · exact withholds_nothing
  | deliver uuid power stops =>
    exact withholds_written fun _ done => deliverVm_withholds withheld done
  | fail power stops => exact withholds_written fun _ done => failVm_withholds withheld done

end Rows

variable {restore : VmRestore}

variable {id : OperationId}

theorem mem_found (found : findRestore id desk = some restore) : restore ∈ desk.restores :=
  List.mem_of_find?_eq_some found

theorem found_of_mem
    (unique : (desk.restores.map VmRestore.id).Nodup) (listed : restore ∈ desk.restores) :
    findRestore restore.id desk = some restore := by
  cases found : findRestore restore.id desk with
  | none =>
    have absent := List.find?_eq_none.mp found restore listed
    simp at absent
  | some other =>
    have same := List.inj_on_of_nodup_map unique (mem_found found) listed (findRestore_id found)
    rw [same]

theorem writeRestore_ids (id : OperationId) (state : RestoreState) (restores : List VmRestore) :
    (writeRestore id state restores).map VmRestore.id = restores.map VmRestore.id := by
  unfold writeRestore
  rw [List.map_map]
  apply List.map_congr_left
  intro restore _
  simp only [Function.comp]
  split <;> rfl

section
variable {id : OperationId} {state : RestoreState} {restores : List VmRestore} {restore : VmRestore}

theorem mem_writeRestore (listed : restore ∈ writeRestore id state restores) :
    ∃ before ∈ restores, restore = if before.id = id then { before with state := state } else before := by
  obtain ⟨before, there, same⟩ := List.mem_map.mp listed
  exact ⟨before, there, same.symm⟩

theorem writeRestore_mem (listed : restore ∈ restores) :
    (if restore.id = id then { restore with state := state } else restore) ∈
      writeRestore id state restores :=
  List.mem_map.mpr ⟨restore, listed, rfl⟩

end

def RestoresAdvance (before after : List VmRestore) : Prop :=
  ∀ restore ∈ before, ∃ next ∈ after, Advances restore next

theorem advance_refl (restores : List VmRestore) : RestoresAdvance restores restores :=
  fun restore listed => ⟨restore, listed, Or.inl rfl⟩

theorem restore_advances {after : LifecycleDesk}
    (unique : (desk.restores.map VmRestore.id).Nodup) (move : RestoreMove id desk after) :
    RestoresAdvance desk.restores after.restores := by
  intro restore listed
  cases move with
  | rests same =>
    subst same
    exact ⟨restore, listed, Or.inl rfl⟩
  | prepared request record expiry _ _ _ same =>
    subst same
    exact ⟨restore, List.mem_cons_of_mem _ listed, Or.inl rfl⟩
  | authorized moved vm record found _ _ state _ _ _ same =>
    subst same
    refine ⟨_, writeRestore_mem listed, ?_⟩
    split
    · rename_i named
      have this := List.inj_on_of_nodup_map unique listed (mem_found found) named
      subst this
      exact Or.inr (Or.inl ⟨state, rfl⟩)
    · exact Or.inl rfl
  | completed moved vm record found _ _ state _ _ _ same =>
    subst same
    refine ⟨_, writeRestore_mem listed, ?_⟩
    split
    · rename_i named
      have this := List.inj_on_of_nodup_map unique listed (mem_found found) named
      subst this
      exact Or.inr (Or.inr ⟨state, rfl⟩)
    · exact Or.inl rfl

theorem continues_refl (restore : VmRestore) : Continues restore restore := ⟨rfl, le_refl _⟩

theorem continues_trans {first second third : VmRestore} (once : Continues first second)
    (again : Continues second third) : Continues first third := by
  obtain ⟨same, le⟩ := once
  obtain ⟨later, le'⟩ := again
  refine ⟨?_, le.trans le'⟩
  rw [later, same]

theorem advances_continues {next : VmRestore} (advances : Advances restore next) :
    Continues restore next := by
  rcases advances with rfl | ⟨state, rfl⟩ | ⟨state, rfl⟩
  · exact continues_refl _
  · refine ⟨rfl, ?_⟩
    rw [state]
    exact Nat.zero_le _
  · refine ⟨rfl, ?_⟩
    rw [state]
    exact Nat.le_succ 1

variable {step : ExpiryStep}

section Steps
variable {config : ExpiryConfig} {desk after : LifecycleDesk}

/-- What is left of the invariant when a step has written the row of the VM. -/
structure RowSafe (desk after : LifecycleDesk) : Prop where
  retention : after.retention = desk.retention
  evidence : after.evidence = desk.evidence
  restores : after.restores = desk.restores
  erasures : after.erasures = desk.erasures
  sweeps : after.sweeps = desk.sweeps
  now : after.now = desk.now

theorem row_safe (safe : RetentionSafe config desk) (same : RowSafe desk after)
    (held : DeletionsHeld after)
    (kept : after.kept = true → ∃ vm, after.vm = some vm ∧ Withheld vm after.retention after.now)
    (starts : ∀ start ∈ after.starts, start.kept = false) : RetentionSafe config after where
  deleting := held
  erasures := by
    rw [same.erasures]
    exact safe.erasures
  unique := by
    rw [same.restores]
    exact safe.unique
  current := by
    rw [same.restores]
    intro restore listed opened
    unfold RestoreCurrent
    rw [same.retention, same.evidence]
    exact safe.current restore listed opened
  kept := kept
  starts := starts
  due := by
    rw [same.sweeps, same.now]
    exact safe.due

theorem noted_safe (before : LifecycleDesk) (safe : RetentionSafe config after) :
    RetentionSafe config (noteOwed before after) := { safe with }

section
variable {actor : Actor} {fate : Fate} {vm : ExpiringVm} (safe : RetentionSafe config desk)
  (found : desk.vm = some vm) (may : mayTransfer (.actor actor fate) desk)
include actor fate vm safe found may

theorem noteStart_safe : let noted := noteStart actor vm (decideRow actor vm desk) desk
    (∀ start ∈ noted.starts, start.kept = false) ∧
      (noted.kept = true → Withheld vm desk.retention desk.now ∧
        ∀ row, (decideRow actor vm desk).row = some row →
          Withheld row.1 desk.retention desk.now) := by
  intro noted
  have withheld : desk.kept = true → Withheld vm desk.retention desk.now := by
    intro kept
    obtain ⟨held, there, withheld⟩ := safe.kept kept
    rw [found] at there
    cases there
    exact withheld
  by_cases starts : ∃ power works, actor = .power .start power works
  · obtain ⟨power, works, rfl⟩ := starts
    refine ⟨safe.starts, fun kept => ?_⟩
    simp only [noted, noteStart, Bool.and_eq_true, Option.isNone_iff_eq_none] at kept
    refine ⟨withheld kept.1, fun row done => ?_⟩
    rw [kept.2] at done
    cases done
  · have other : ∀ power works, actor ≠ .power .start power works :=
      fun power works same => starts ⟨power, works, same⟩
    have same : noted.kept = desk.kept := by
      simp only [noted, noteStart]
    constructor
    · intro start listed
      simp only [noted, noteStart] at listed
      split at listed
      · exact safe.starts start listed
      rename_i caller calls
      rcases List.mem_cons.mp listed with rfl | before
      · cases kept : desk.kept with
        | false => rfl
        | true =>
          have none := (decideRow_withholds found may other (withheld kept)).starts
          rw [none] at calls
          cases calls
      · exact safe.starts start before
    · intro kept
      rw [same] at kept
      exact ⟨withheld kept, (decideRow_withholds found may other (withheld kept)).row⟩

theorem actor_safe : RetentionSafe config (actOn actor fate vm desk) := by
  have held := actor_held actor fate safe.deleting found
  obtain ⟨starts, kept⟩ := noteStart_safe safe found may
  rcases actOn_result desk actor fate vm with same | ⟨row, written, same⟩
  · rw [same] at held ⊢
    exact row_safe safe ⟨rfl, rfl, rfl, rfl, rfl, rfl⟩ held
      (fun stays => ⟨vm, found, (kept stays).1⟩) starts
  · rw [same] at held ⊢
    exact row_safe safe ⟨rfl, rfl, rfl, rfl, rfl, rfl⟩ held
      (fun stays => ⟨row.1, rfl, (kept stays).2 row written⟩) starts

end

variable (safe : RetentionSafe config desk)
include safe

theorem current_restore {record : VmRetention}
    (retained : desk.retention = some record)
    (listed : restore ∈ desk.restores) (opened : restore.state ≠ .completed) :
    record.state = .restoring ∧ desk.evidence.restore = some restore.id := by
  obtain ⟨⟨other, there, restoring⟩, current⟩ := safe.current restore listed opened
  rw [retained] at there
  cases there
  exact ⟨restoring, current⟩

theorem restore_safe
    (held : DeletionsHeld after) (move : RestoreMove id desk after) : RetentionSafe config after := by
  cases move with
  | rests same =>
    subst same
    exact safe
  | prepared request record expiry fresh retained state same =>
    subst same
    refine ⟨held, safe.erasures, ?_, ?_, fun stays => ?_, safe.starts, safe.due⟩
    · refine List.nodup_cons.mpr ⟨fun listed => ?_, safe.unique⟩
      obtain ⟨restore, there, named⟩ := List.mem_map.mp listed
      have absent := List.find?_eq_none.mp fresh restore there
      simp at absent
      exact absent named
    · intro restore listed opened
      rcases List.mem_cons.mp listed with rfl | before
      · exact ⟨⟨_, rfl, rfl⟩, rfl⟩
      -- no other restore is open while the row is `retained`
      have restoring := (current_restore safe retained before opened).1
      rw [state] at restoring
      cases restoring
    · obtain ⟨vm, found, withheld⟩ := safe.kept stays
      refine ⟨vm, found, ?_⟩
      cases withheld with
      | retained claim _ expired => exact .retained claim rfl expired
      | stopped reason status => exact .stopped reason status
  | authorized moved vm record found there retained state stopped claimed _ same =>
    subst same
    refine ⟨held, safe.erasures, ?_, ?_, fun _ => ?_, safe.starts, safe.due⟩
    · dsimp only
      rw [writeRestore_ids]
      exact safe.unique
    · intro restore listed opened
      obtain ⟨before, listed', same⟩ := mem_writeRestore listed
      have unfinished : before.state ≠ .completed := by
        by_cases named : before.id = moved.id
        · have this := List.inj_on_of_nodup_map safe.unique listed' (mem_found found) named
          rw [this, state]
          nofun
        · rw [if_neg named] at same
          rw [← same]
          exact opened
      obtain ⟨holds, current⟩ := safe.current before listed' unfinished
      refine ⟨holds, ?_⟩
      rw [same]
      split <;> exact current
    · exact ⟨_, rfl, .stopped rfl (Or.inl stopped)⟩
  | completed moved vm record found there retained state current stopped _ same =>
    subst same
    refine ⟨held, safe.erasures, ?_, ?_, fun _ => ?_, safe.starts, safe.due⟩
    · dsimp only
      rw [writeRestore_ids]
      exact safe.unique
    · intro restore listed opened
      obtain ⟨before, listed', same⟩ := mem_writeRestore listed
      exfalso
      by_cases named : before.id = moved.id
      · rw [if_pos named] at same
        rw [same] at opened
        exact opened rfl
      · -- an open restore would be the current one
        rw [if_neg named] at same
        subst same
        have own := (current_restore safe retained listed' opened).2
        rw [current, Option.some.injEq] at own
        exact named own.symm
    · exact ⟨_, rfl, .stopped rfl (Or.inl stopped)⟩

omit safe

theorem isPast_later {expiresAt : Option Time} {now later : Time} (le : now ≤ later)
    (expired : isPast expiresAt now = true) : isPast expiresAt later = true := by
  unfold isPast at *
  split at expired
  · cases expired
  · simp only [decide_eq_true_eq] at *
    exact expired.trans le

theorem fresh_expired {row : ExpiringVm} {cutoff : Option Time} {claim : Claim}
    (safe : RetentionSafe config desk)
    (due : ∀ expiredBefore, cutoff = some expiredBefore →
      ∃ w, desk.sweeps w = some (.due expiredBefore))
    (expired : ∃ expiredBefore expiry, cutoff = some expiredBefore ∧
      row.expiresAt = some expiry ∧ expiry < expiredBefore)
    (same : claim.vm = { row with deletionStartedAt := some (row.deletionStartedAt.getD desk.now) }) :
    isPast claim.vm.expiresAt desk.now = true := by
  obtain ⟨expiredBefore, expiry, cut, there, before⟩ := expired
  obtain ⟨w, runs⟩ := due expiredBefore cut
  have le := safe.due w expiredBefore runs
  rw [same]
  simp only [isPast, there, decide_eq_true_eq]
  exact (Nat.le_of_lt before).trans (le.trans (Nat.sub_le _ _))

theorem withheld_later {vm : ExpiringVm} {retention : Option VmRetention} {now later : Time}
    (le : now ≤ later) (withheld : Withheld vm retention now) : Withheld vm retention later := by
  cases withheld with
  | retained claim record expired => exact .retained claim record (isPast_later le expired)
  | stopped reason status => exact .stopped reason status

structure Stopped (vm : ExpiringVm) : Prop where
  reason : vm.suspension = some .manualAdmin
  status : vm.status = .suspended ∨ (vm.status = .destroyed ∧ vm.deletionStartedAt.isSome)

section
variable {step : ExpiryStep} {final : ExpiryDesk}

theorem move_stopped {vm : ExpiringVm}
    (deleting : DeletionsHeld desk) (found : desk.vm = some vm) (stopped : Stopped vm)
    (move : ExpiryMove config step (expiryDesk desk) final) :
    ∃ row, final.vm = some row ∧ Stopped row := by
  have here : (expiryDesk desk).vm = some vm := found
  have reason := stopped.reason
  cases move.row with
  | rests same _ _ => exact ⟨vm, same.trans here, stopped⟩
  | created owner expiresAt absent _ _ _ =>
    rw [here] at absent
    cases absent
  | extended request fate row receipt _ done _ _ _ =>
    obtain ⟨other, there, writes⟩ := extendRequest_writes done
    rw [here] at there
    cases there
    obtain ⟨checked, reconciled, can, _⟩ := writes.base
    simp only [vmCanExtend, Bool.and_eq_true, Bool.not_eq_true'] at can
    obtain ⟨_, unrestricted⟩ := can
    rcases reconciled with rfl | ⟨_, _, rfl⟩
    · simp [isRestricted, reason] at unrestricted
    · simp [suspendedForExpiry, isRestricted, reason] at unrestricted
  | suspended row written suspends there decided _ _ _ =>
    rw [here] at there
    cases there
    obtain ⟨unclaimed, running, _⟩ := sweepVm_writes decided
    rcases stopped.status with suspended | ⟨_, claim⟩
    · exact absurd suspended running
    · rw [unclaimed] at claim
      cases claim
  | claimed row cutoff captures claim there due decided now _ _ =>
    rw [here] at there
    cases there
    refine ⟨claim.vm, now, ?_⟩
    rw [(claimDeletion_writes decided).vm]
    refine ⟨reason, ?_⟩
    rcases stopped.status with suspended | ⟨destroyed, _⟩
    · exact Or.inl suspended
    · exact Or.inr ⟨destroyed, rfl⟩
  | protected_ row record there _ started _ now _ _ _ =>
    rw [here] at there
    cases there
    exact ⟨_, now, by simp [suspendedForExpiry, isRestricted, reason], Or.inl rfl⟩
  | destroyed row written w deletion there runs unmanifest now status same _ _ =>
    rw [here] at there
    cases there
    obtain ⟨_, _, here', started⟩ := deleting w deletion runs unmanifest
    rw [found] at here'
    cases here'
    exact ⟨written, now, same.2.1.trans reason, Or.inr ⟨status, same.1 ▸ started⟩⟩

theorem move_withholds {vm : ExpiringVm}
    (deleting : DeletionsHeld desk) (found : desk.vm = some vm)
    (before : Withheld vm desk.retention desk.now)
    (move : ExpiryMove config step (expiryDesk desk) final) :
    ∃ row, final.vm = some row ∧ Withheld row final.retention final.now := by
  have here : (expiryDesk desk).vm = some vm := found
  rcases withheld_later move.now before with ⟨claim, record, expired⟩ | ⟨reason, status⟩
  · cases move.row with
    | rests same retention _ =>
      rw [retention]
      exact ⟨vm, same.trans here, .retained claim record expired⟩
    | created owner expiresAt absent _ _ _ =>
      rw [here] at absent
      cases absent
    | extended request fate row receipt _ done _ _ _ =>
      obtain ⟨other, there, extends_⟩ := extendRequest_extends done
      rw [here] at there
      cases there
      rw [extends_.unclaimed] at claim
      cases claim
    | suspended row written suspends there decided _ _ _ =>
      rw [here] at there
      cases there
      rw [(sweepVm_writes decided).1] at claim
      cases claim
    | claimed row cutoff captures claimed there due decided now retention _ =>
      rw [here] at there
      cases there
      have writes := claimDeletion_writes decided
      refine ⟨claimed.vm, now, ?_⟩
      rw [retention, writes.vm]
      refine .retained rfl ?_ expired
      rcases writes.retention with same | ⟨_, _, ⟨_, _, fresh⟩, _⟩
      · rw [same]
        exact record
      · rw [fresh]
        rfl
    | protected_ row other there _ started _ now retention _ _ =>
      rw [here] at there
      cases there
      refine ⟨_, now, ?_⟩
      rw [retention]
      exact .retained claim rfl expired
    | destroyed row written w deletion there runs unmanifest now status same retention _ =>
      have unretained := (deleting w deletion runs unmanifest).1
      rw [unretained] at record
      cases record
  · obtain ⟨row, now, stopped⟩ := move_stopped deleting found ⟨reason, status⟩ move
    exact ⟨row, now, .stopped stopped.reason stopped.status⟩

include safe

theorem move_current (move : ExpiryMove config step (expiryDesk desk) final)
    (listed : restore ∈ desk.restores) (opened : restore.state ≠ .completed) :
    final.retention = desk.retention := by
  obtain ⟨⟨record, retained, restoring⟩, _⟩ := safe.current restore listed opened
  cases move.row with
  | rests _ retention | created _ _ _ _ retention | extended _ _ _ _ _ _ _ retention
  | suspended _ _ _ _ _ _ retention | destroyed _ _ _ _ _ _ _ _ _ _ retention => exact retention
  | claimed row cutoff captures claim there due decided now retention _ =>
    rcases (claimDeletion_writes decided).retention with same | ⟨none, _⟩
    · exact retention.trans same
    · have unretained : desk.retention = Option.none := none
      rw [retained] at unretained
      cases unretained
  | protected_ row other _ there _ halted _ _ _ _ =>
    have same : desk.retention = some other := there
    rw [retained] at same
    cases same
    exact absurd restoring halted

theorem move_due (move : ExpiryMove config step (expiryDesk desk) final) :
    ∀ w expiredBefore, final.sweeps w = some (.due expiredBefore) →
      expiredBefore ≤ final.now - config.grace := by
  intro w expiredBefore runs
  have le : desk.now - config.grace ≤ final.now - config.grace :=
    Nat.sub_le_sub_right move.now _
  rcases move.due w expiredBefore runs with before | rfl
  · exact (safe.due w expiredBefore before).trans le
  · exact le

omit safe

end

theorem noteRetention_cases (before desk : LifecycleDesk) :
    noteRetention before desk = desk ∨
      ∃ vm record, before.retention = none ∧ desk.retention = some record ∧ desk.vm = some vm ∧
        noteRetention before desk = { desk with evidence := ⟨vm.owner, none⟩, kept := true } := by
  unfold noteRetention
  split
  · rename_i record vm free retained found
    exact Or.inr ⟨vm, record, free, retained, found, rfl⟩
  · exact Or.inl rfl

theorem expiry_safe (safe : RetentionSafe config desk)
    (own : isOwnStep step = true) : RetentionSafe config (act config (.expiry step) desk) := by
  have held := act_held config (.expiry step) safe.deleting
  have move := expiryStep_moves config (expiryDesk desk) step own
  have stays : desk.kept = true → ∃ row, (expiryStep config step (expiryDesk desk)).vm = some row ∧
      Withheld row (expiryStep config step (expiryDesk desk)).retention
        (expiryStep config step (expiryDesk desk)).now := by
    intro kept
    obtain ⟨vm, found, withheld⟩ := safe.kept kept
    exact move_withholds safe.deleting found withheld move
  have limits := move_due safe move
  simp only [act, own, if_true] at held ⊢
  rcases noteRetention_cases desk { desk with
      toExpiryDesk := expiryStep config step (expiryDesk desk) } with
    same | ⟨vm, record, free, retained, found, same⟩
  · rw [same] at held ⊢
    refine ⟨held, safe.erasures, safe.unique, ?_, stays, safe.starts, limits⟩
    intro restore listed opened
    unfold RestoreCurrent
    rw [move_current safe move listed opened]
    exact safe.current restore listed opened
  · rw [same] at held ⊢
    refine ⟨held, safe.erasures, safe.unique, ?_, fun _ => ⟨vm, found, ?_⟩, safe.starts, limits⟩
    · intro restore listed opened
      obtain ⟨⟨other, there, _⟩, _⟩ := safe.current restore listed opened
      rw [free] at there
      cases there
    · -- a retention row is new only if the claim is, and it is for the expiry
      have fresh : (expiryStep config step (expiryDesk desk)).retention ≠
          (expiryDesk desk).retention := by
        rw [retained]
        exact fun same => by
          rw [show (expiryDesk desk).retention = none from free] at same
          cases same
      cases move.row with
      | rests _ retention | created _ _ _ _ retention | extended _ _ _ _ _ _ _ retention
      | suspended _ _ _ _ _ _ retention | destroyed _ _ _ _ _ _ _ _ _ _ retention =>
        exact absurd retention fresh
      | protected_ row other _ there _ _ _ _ _ _ =>
        rw [show (expiryDesk desk).retention = none from free] at there
        cases there
      | claimed row cutoff captures claim there due decided now retention _ =>
        rw [found] at now
        cases now
        have writes := claimDeletion_writes decided
        rcases writes.retention with same | ⟨_, _, _, expired⟩
        · exact absurd (retention.trans same) fresh
        refine .retained ?_ (by rw [retained]; rfl)
          (isPast_later move.now (fresh_expired safe due expired writes.vm))
        rw [writes.vm]
        rfl

theorem lifecycleStep_safe (step : LifecycleStep) (safe : RetentionSafe config desk)
    (may : mayTransfer step desk) : RetentionSafe config (lifecycleStep config step desk) := by
  apply noted_safe
  have held := act_held config step safe.deleting
  have move := act_cases config step desk
  generalize act config step desk = after at move held ⊢
  cases move with
  | aside => exact row_safe safe ⟨rfl, rfl, rfl, rfl, rfl, rfl⟩ held safe.kept safe.starts
  | expired own => exact expiry_safe safe own
  | erased runs guest bare =>
    refine { safe with deleting := held, erasures := ?_ }
    intro erasure listed
    rcases List.mem_cons.mp listed with rfl | before
    · refine (safe.deleting _ _ runs fun both => ?_).1
      rw [bare] at both
      cases both.2
    · exact safe.erasures erasure before
  | @closed _ _ vm row found detached =>
    refine row_safe safe ⟨rfl, rfl, rfl, rfl, rfl, rfl⟩ held (fun stays => ?_) safe.starts
    obtain ⟨other, there, withheld⟩ := safe.kept stays
    rw [found] at there
    cases there
    exact ⟨row, rfl, detachVm_withholds withheld detached⟩
  | acted found => exact actor_safe safe found may
  | prepared done => exact restore_safe safe held (prepareRestore_moves done)
  | visited done => exact restore_safe safe held (visitRestore_moves done)

/-! What any step does to the restores, the retention row and the claim. -/

theorem act_advances (unique : (desk.restores.map VmRestore.id).Nodup) (step : LifecycleStep) :
    RestoresAdvance desk.restores (act config step desk).restores := by
  have move := act_cases config step desk
  generalize act config step desk = after at move ⊢
  cases move with
  | aside | erased | closed => exact advance_refl _
  | @expired step own =>
    simp only [act, own, if_true]
    rcases noteRetention_cases desk { desk with
      toExpiryDesk := expiryStep config step (expiryDesk desk) } with
      unnoted | ⟨vm, record, _, _, _, noted⟩
    · rw [unnoted]
      exact advance_refl _
    · rw [noted]
      exact advance_refl _
  | @acted actor fate vm found =>
    rcases actOn_result desk actor fate vm with kept | ⟨row, _, kept⟩ <;> rw [kept] <;>
      exact advance_refl _
  | prepared done => exact restore_advances unique (prepareRestore_moves done)
  | visited done => exact restore_advances unique (visitRestore_moves done)

theorem kept_unreleased {P : Prop} (released : Releases desk after)
    (retention : desk.retention.isSome → after.retention.isSome)
    (claim : IsClaimed desk → IsClaimed after) : P := by
  rcases released with ⟨some, none⟩ | ⟨claimed, unclaimed⟩
  · have kept := retention some
    rw [none] at kept
    cases kept
  · exact absurd (claim claimed) unclaimed

theorem move_unreleased {final : ExpiryDesk}
    (move : ExpiryMove config step (expiryDesk desk) final)
    (retention : after.retention = final.retention) (vm : after.vm = final.vm) :
    (desk.retention.isSome → after.retention.isSome) ∧ (IsClaimed desk → IsClaimed after) := by
  unfold IsClaimed
  rw [retention, vm]
  have claims : ∀ row, desk.vm = some row → (∀ written, final.vm = some written →
      row.deletionStartedAt.isSome → written.deletionStartedAt.isSome) →
      ∀ written, final.vm = some written → (∃ vm, desk.vm = some vm ∧ vm.deletionStartedAt.isSome) →
      ∃ vm, final.vm = some vm ∧ vm.deletionStartedAt.isSome := by
    intro row found keeps written now claimed
    obtain ⟨other, there, started⟩ := claimed
    rw [found] at there
    cases there
    exact ⟨written, now, keeps written now started⟩
  cases move.row with
  | rests same retention _ =>
    rw [retention, same]
    exact ⟨fun some => some, fun claimed => claimed⟩
  | created owner expiresAt absent _ retention _ =>
    rw [retention]
    refine ⟨fun some => some, fun claimed => ?_⟩
    obtain ⟨vm, found, _⟩ := claimed
    have none : desk.vm = none := absent
    rw [none] at found
    cases found
  | extended request fate row receipt _ done now retention _ =>
    rw [retention]
    refine ⟨fun some => some, fun claimed => ?_⟩
    obtain ⟨other, there, extends_⟩ := extendRequest_extends done
    obtain ⟨vm, found, started⟩ := claimed
    have here : (expiryDesk desk).vm = some vm := found
    rw [here] at there
    cases there
    rw [extends_.unclaimed] at started
    cases started
  | suspended row written suspends there decided now retention _ =>
    rw [retention]
    refine ⟨fun some => some, claims row there (fun other now' started => ?_) written now⟩
    rw [(sweepVm_writes decided).1] at started
    cases started
  | claimed row cutoff captures claim there due decided now retention _ =>
    have writes := claimDeletion_writes decided
    constructor
    · intro some
      rw [retention]
      rcases writes.retention with same | ⟨_, _, ⟨_, _, fresh⟩, _⟩
      · rw [same]
        exact some
      · rw [fresh]
        rfl
    · refine claims row there (fun written now' _ => ?_) claim.vm now
      rw [now] at now'
      cases now'
      rw [writes.vm]
      rfl
  | protected_ row record there _ started _ now retention _ _ =>
    rw [retention]
    refine ⟨fun _ => rfl, claims row there (fun written now' started => ?_) _ now⟩
    rw [now] at now'
    cases now'
    exact started
  | destroyed row written w deletion there _ _ now _ same retention _ =>
    rw [retention]
    refine ⟨fun some => some, claims row there (fun other now' started => ?_) written now⟩
    rw [now] at now'
    cases now'
    exact same.1 ▸ started

theorem act_released (step : LifecycleStep) (released : Releases desk (act config step desk)) :
    Completes step desk (act config step desk) := by
  have move := act_cases config step desk
  generalize act config step desk = after at move released ⊢
  cases move with
  | aside | erased => exact kept_unreleased released id id
  | @expired step own =>
    have move := expiryStep_moves config (expiryDesk desk) step own
    rw [← act_expiry own] at move
    obtain ⟨retention, claim⟩ := move_unreleased move rfl rfl
    exact kept_unreleased released retention claim
  | closed found detached =>
    exact kept_unreleased released id (written_claimed found rfl (detachVm_tended detached).1.claim)
  | @acted actor fate vm found =>
    rcases actOn_result desk actor fate vm with kept | ⟨row, written, kept⟩
    · rw [kept] at released
      exact kept_unreleased released id id
    · rw [kept] at released
      exact kept_unreleased released id
        (written_claimed found rfl (decideRow_tended written).claim)
  | prepared done =>
    unfold prepareRestore at done
    repeat' split at done
    all_goals cases done
    · exact kept_unreleased released id id
    · exact kept_unreleased released (fun _ => rfl) id
  | @visited id finalize restores fate _ done =>
    cases visitRestore_moves done with
    | rests same =>
      subst same
      exact kept_unreleased released (fun some => some) (fun claimed => claimed)
    | prepared request record expiry _ _ _ same =>
      subst same
      exact kept_unreleased released (fun _ => rfl) (fun claimed => claimed)
    | authorized restore vm record _ found _ _ _ started _ same =>
      subst same
      exact kept_unreleased released (fun some => some)
        (fun _ => ⟨_, rfl, started⟩)
    | completed restore vm record listed found _ state _ _ _ same =>
      subst same
      refine ⟨id, finalize, restores, fate, restore, rfl, listed, state, ?_⟩
      have moved : (if restore.id = restore.id then { restore with state := .completed }
          else restore) ∈ writeRestore restore.id .completed desk.restores :=
        writeRestore_mem (mem_found listed)
      rwa [if_pos rfl] at moved

theorem noteOwed_self (desk : LifecycleDesk) : noteOwed desk desk = desk := by
  have runs : hasStopped desk desk = false := by
    unfold hasStopped
    split
    · rfl
    · simp
  have paid : hasPaid desk desk = false := by simp [hasPaid]
  simp only [noteOwed, runs, paid, Bool.not_false, Bool.and_true, Bool.or_false]

theorem unmoved {tx : Transaction LifecycleDesk Unit} {fate : Fate}
    (answer : tx desk = .ok (desk, ())) : (transact tx fate desk).1 = desk := by
  rcases transact_result tx fate desk with same | ⟨after, value, done, now⟩
  · exact same
  · rw [answer] at done
    cases done
    exact now

theorem replay_unmoved {request : RestoreRequest} {fate : Fate}
    (unique : (desk.restores.map VmRestore.id).Nodup) (listed : restore ∈ desk.restores)
    (replays : Replays request restore) :
    lifecycleStep config (.restore request fate) desk = desk := by
  obtain ⟨named, days, reason⟩ := replays
  have found : findRestore request.id desk = some restore := by
    rw [named]
    exact found_of_mem unique listed
  have answer : prepareRestore request desk = .ok (desk, ()) := by
    simp only [prepareRestore, found, days, reason, and_self, if_true]
  simp only [lifecycleStep, act, unmoved answer]
  exact noteOwed_self desk

theorem completed_unmoved {finalize restores : Bool} {fate : Fate}
    (unique : (desk.restores.map VmRestore.id).Nodup) (listed : restore ∈ desk.restores)
    (state : restore.state = .completed) :
    lifecycleStep config (.visit restore.id finalize restores fate) desk = desk := by
  have answer : visitRestore restore.id finalize restores desk = .ok (desk, ()) := by
    simp only [visitRestore, found_of_mem unique listed, state, if_true]
  simp only [lifecycleStep, act, unmoved answer]
  exact noteOwed_self desk

end Steps

def RestoresContinue (before after : LifecycleDesk) : Prop :=
  ∀ restore ∈ before.restores, ∃ later ∈ after.restores, Continues restore later

theorem restoresContinue_refl (desk : LifecycleDesk) : RestoresContinue desk desk :=
  fun restore listed => ⟨restore, listed, continues_refl restore⟩

theorem restoresContinue_trans (first second third : LifecycleDesk)
    (once : RestoresContinue first second) (again : RestoresContinue second third) :
    RestoresContinue first third := by
  intro restore listed
  obtain ⟨middle, there, continues⟩ := once restore listed
  obtain ⟨later, listed', continues'⟩ := again middle there
  exact ⟨later, listed', continues_trans continues continues'⟩

theorem step_continues {config : ExpiryConfig} (step : LifecycleStep) (desk : LifecycleDesk)
    (safe : RetentionSafe config desk) (may : mayTransfer step desk) :
    RetentionSafe config ((retentions config).step step desk) ∧
      RestoresContinue desk ((retentions config).step step desk) := by
  refine ⟨lifecycleStep_safe step safe may, fun restore listed => ?_⟩
  obtain ⟨next, there, advances⟩ := act_advances safe.unique step restore listed
  exact ⟨next, there, advances_continues advances⟩

theorem start_safe {config : ExpiryConfig} (start : RetentionStart desk) :
    RetentionSafe config desk where
  deleting w deletion runs := by
    rw [start.deletions w] at runs
    cases runs
  erasures erasure listed := by
    rw [start.erasures] at listed
    cases listed
  unique := by
    rw [start.restores]
    exact List.nodup_nil
  current restore listed := by
    rw [start.restores] at listed
    cases listed
  kept stays := by
    rw [start.kept] at stays
    cases stays
  starts noted listed := by
    rw [start.starts] at listed
    cases listed
  due w expiredBefore runs := by
    rw [start.sweeps w] at runs
    cases runs

/-- Whatever the passes, the deletions, the restores and the administrators do, a retained
guest is kept: two states of a run, and what every step may do in the second. -/
theorem retained_guests_kept (config : ExpiryConfig) (desk : LifecycleDesk)
    (first rest : List LifecycleStep) (start : RetentionStart desk)
    (admitted : (retentions config).admits desk (first ++ rest)) :
    RetentionKept config ((retentions config).run desk first)
      ((retentions config).run ((retentions config).run desk first) rest) := by
  rw [(retentions config).admits_append] at admitted
  have middle := (retentions config).run_keeps
    (fun step desk safe may => (step_continues step desk safe may).1) first desk
    (start_safe start) admitted.1
  have final := (retentions config).run_keeps
    (fun step desk safe may => (step_continues step desk safe may).1) rest _ middle admitted.2
  constructor
  · intro erasure listed record retained
    rw [final.erasures erasure listed] at retained
    cases retained
  · intro restore listed other there opened opened'
    obtain ⟨_, current⟩ := final.current restore listed opened
    obtain ⟨_, current'⟩ := final.current other there opened'
    rw [current, Option.some.injEq] at current'
    exact List.inj_on_of_nodup_map final.unique listed there current'
  · exact (retentions config).run_related restoresContinue_refl restoresContinue_trans
      step_continues rest _ middle admitted.2
  · intro action restore listed
    exact act_advances final.unique action restore listed
  · intro restore listed request fate replays
    exact replay_unmoved final.unique listed replays
  · intro restore listed state finalize restores fate
    exact completed_unmoved final.unique listed state
  · intro action released
    exact act_released action released
  · exact final.starts

/-- `mayTransfer` as a test. -/
def transferTest (step : LifecycleStep) (desk : LifecycleDesk) : Bool :=
  match step, desk.vm with
  | .actor (.resumeTransfer _ _) _, some vm =>
    desk.transfer.isNone || vm.suspension ≠ some .manualAdmin
  | _, _ => true

theorem transferTest_may (step : LifecycleStep) (desk : LifecycleDesk)
    (passed : transferTest step desk = true) : mayTransfer step desk := by
  unfold mayTransfer
  split
  · intro vm found
    simp only [transferTest, found] at passed
    simp_all [imp_iff_not_or]
  · trivial

def bareDesk : LifecycleDesk where
  now := 0
  ownerEnabled := true
  vm := none
  retention := none
  receipts := []
  expiryClaims := []
  sweeps := fun _ => none
  deletions := fun _ => none
  accounts := fun account => if account ≤ 2 then some true else none
  transfer := none
  evidence := ⟨(none, none), none⟩
  restores := []
  usedElsewhere := fun _ => false
  owed := false
  kept := false
  starts := []
  erasures := []

theorem bareDesk_starts : RetentionStart bareDesk :=
  ⟨rfl, rfl, rfl, rfl, rfl, fun _ => rfl, fun _ => rfl⟩

def deliveredTo (account : AccountId) : List LifecycleStep :=
  [.expiry (.create (some account, some (.evm 5)) 100), .actor (.guest 7) .done,
    .actor (.deliver 7 .running true) .done]

/-- The VM expires, its grace period passes and its guest is retained. -/
def retainedRun : List LifecycleStep :=
  [.expiry (.tick 200), .expiry (.scan 0), .expiry (.look 0 true .done),
    .expiry (.expire 0 true .done), .expiry (.retain 0 true .done)]

def restoreOf (id : OperationId) : RestoreRequest where
  id := id
  actor := 1
  days := 3
  reason := "customer paid"
  blank := false

def restoredRun : List LifecycleStep :=
  [.restore (restoreOf 9) .done, .visit 9 false true .lost, .restore (restoreOf 9) .done,
    .visit 9 true true .done]

theorem restored_guest_kept :
    RetentionKept ⟨10, true⟩ ((retentions ⟨10, true⟩).run bareDesk (deliveredTo 1 ++ retainedRun))
      ((retentions ⟨10, true⟩).run
        ((retentions ⟨10, true⟩).run bareDesk (deliveredTo 1 ++ retainedRun)) restoredRun) := by
  apply retained_guests_kept ⟨10, true⟩ bareDesk _ _ bareDesk_starts
  exact (retentions _).passes_admits transferTest transferTest_may _ _ (by decide +kernel)

/-- The marker of a transfer outlives the retention, while its recipient is disabled. -/
def transferredRun : List LifecycleStep :=
  deliveredTo 1 ++
    [.account 1 false, .actor (.suspendResources 1 .running true) .done,
      .actor (.transfer 2 (some (.evm 6))) .done,
      .actor (.resumeTransfer .unreachable false) .done, .account 2 false] ++
    retainedRun ++ [.account 2 true] ++ restoredRun ++
    [.actor (.resumeTransfer .halted true) .done]

/-- The restored guest is started by the resume of that transfer. -/
theorem restored_guest_started :
    ¬ RetentionKept ⟨10, true⟩ bareDesk ((retentions ⟨10, true⟩).run bareDesk transferredRun) := by
  intro kept
  have unkept := kept.unstarted ⟨.transfer, true,
    { owner := (some 2, some (.evm 6))
      status := .suspended
      expiresAt := some 259400
      suspension := some .manualAdmin
      xcpngUuid := some 7 }, true⟩ (by decide +kernel)
  cases unkept

end HyruleCloud.Lifecycle
