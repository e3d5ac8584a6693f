import HyruleCloud.StatusRules

/-!
`DESTROYED` and `FAILED` are absorbing, a provisioned VM does not fail, and a VM that is
being deleted does not come up, in every run whose unlocked and unchecked writers find the
row as they expect it.
-/

namespace HyruleCloud.Statuses

open Interaction Expiry Lifecycle

structure StatusSafe (desk : StatusDesk) : Prop where
  deleting : DeletionsHeld desk.lifecycle
  buried : ∀ vm, desk.lifecycle.vm = some vm → Buried vm desk.lifecycle.retention
  provisioned : desk.provisionedAt.isSome → ∀ vm, desk.lifecycle.vm = some vm →
    vm.status ≠ .failed

variable {provisionedAt : Option Time}

section Steps
variable {config : ExpiryConfig} {desk after : StatusDesk} {vm row : ExpiringVm}

/-- Everything that a step can do to the row and to `provisioned_at`. -/
inductive StatusMove (config : ExpiryConfig) (step : StatusStep) (desk after : StatusDesk) :
    Prop where
  | rests (lifecycle : after.lifecycle = desk.lifecycle)
      (provisionedAt : after.provisionedAt = desk.provisionedAt)
  | lives (action : LifecycleStep) (asked : step = .lifecycle action)
      (lifecycle : after.lifecycle = lifecycleStep config action desk.lifecycle)
      (provisionedAt : after.provisionedAt =
        if delivers action desk.lifecycle then some desk.lifecycle.now else desk.provisionedAt)
  | simulated (w : ProcessId) (fate : Fate) (vm : ExpiringVm) (asked : step = .simulate w fate)
      (ends : desk.attempts w = some .simulating) (found : desk.lifecycle.vm = some vm)
      (lifecycle : after.lifecycle = { desk.lifecycle with vm := some (simulatedVm vm) })
      (provisionedAt : after.provisionedAt = some desk.lifecycle.now)
  | failed (w : ProcessId) (fate : Fate) (read : VMStatus) (vm : ExpiringVm)
      (asked : step = .failVm w fate) (noted : desk.failures w = some read)
      (found : desk.lifecycle.vm = some vm)
      (lifecycle : after.lifecycle = { desk.lifecycle with vm := some (failedVm read vm) })
      (provisionedAt : after.provisionedAt = desk.provisionedAt)

theorem statusStep_does (config : ExpiryConfig) (step : StatusStep) (desk : StatusDesk) :
    StatusMove config step desk (statusStep config step desk) := by
  cases step with
  | lifecycle action => exact .lives action rfl rfl rfl
  | report => exact .rests rfl rfl
  | begin_ | readVm =>
    simp only [statusStep]
    split
    · exact .rests rfl rfl
    · split <;> exact .rests rfl rfl
  | inspect w =>
    simp only [statusStep]
    split
    · split <;> exact .rests rfl rfl
    · exact .rests rfl rfl
  | simulate w fate =>
    simp only [statusStep]
    split
    · rename_i ends
      rcases transact_result simulateProvisioning fate desk with same | ⟨after, value, done, now⟩
      · rw [same]
        exact .rests rfl rfl
      · rw [now]
        unfold simulateProvisioning at done
        split at done
        · cases done
          exact .rests rfl rfl
        · rename_i vm found
          cases done
          exact .simulated w fate vm rfl ends found rfl rfl
    · exact .rests rfl rfl
  | failVm w fate =>
    simp only [statusStep]
    split
    · exact .rests rfl rfl
    rename_i read noted
    rcases transact_result (writeFailure read) fate desk with same | ⟨after, value, done, now⟩
    · rw [same]
      exact .rests rfl rfl
    · rw [now]
      unfold writeFailure at done
      split at done
      · cases done
        exact .rests rfl rfl
      · rename_i vm found
        cases done
        exact .failed w fate read vm rfl noted found rfl rfl

theorem simulated_spares (alive : vm.status ≠ .destroyed ∧ vm.status ≠ .failed)
    (stays : vm.deletionStartedAt.isSome → isRestricted vm.suspension = true ∨ vm.status = .ready)
    : Spares provisionedAt vm (simulatedVm vm) := by
  by_cases restricted : isRestricted vm.suspension = true
  · exact stopped_spares alive (Or.inl (if_pos restricted))
  have ready : (simulatedVm vm).status = .ready := if_neg restricted
  cases claim : vm.deletionStartedAt with
  | none => exact started_spares alive claim (Or.inr ready)
  | some started =>
    have there : vm.status = .ready := by
      rcases stays (by rw [claim]; rfl) with restrains | there
      · exact absurd restrains restricted
      · exact there
    exact same_spares (ready.trans there.symm)

theorem simulated_unfailed (vm : ExpiringVm) : (simulatedVm vm).status ≠ .failed := by
  dsimp only [simulatedVm]
  split <;> nofun

theorem failedVm_spares {read : VMStatus}
    (fits : read ≠ .failed → vm.status ≠ .destroyed ∧ provisionedAt = none) :
    Spares provisionedAt vm (failedVm read vm) := by
  by_cases before : read = .failed
  · exact same_spares (if_pos before)
  · exact failed_spares (fits before).1 (fits before).2 (if_neg before)

theorem statusStep_moves (config : ExpiryConfig) (step : StatusStep) (safe : StatusSafe desk)
    (may : mayWrite step desk) (found : desk.lifecycle.vm = some vm) :
    ∃ row, (statusStep config step desk).lifecycle.vm = some row ∧
      MovesTo desk.provisionedAt vm row (statusStep config step desk).lifecycle.retention := by
  have buried := safe.buried vm found
  have allowed := may vm found
  cases statusStep_does config step desk with
  | rests lifecycle _ =>
    rw [lifecycle]
    exact ⟨vm, found, moves_refl buried⟩
  | lives action asked lifecycle _ =>
    subst asked
    exact act_moves action safe.deleting buried may found
  | simulated w fate row asked ends there lifecycle _ =>
    subst asked
    rw [found] at there
    cases there
    obtain ⟨alive, unfailed, stays⟩ := allowed ends
    rw [lifecycle]
    exact ⟨_, rfl, written_moves (simulated_spares ⟨alive, unfailed⟩ stays) rfl buried⟩
  | failed w fate read row asked noted there lifecycle _ =>
    subst asked
    rw [found] at there
    cases there
    rw [lifecycle]
    exact ⟨_, rfl, written_moves (failedVm_spares (allowed read noted)) rfl buried⟩

theorem deliverVm_unfailed {uuid : Nat} {power : PowerState} {stops : Bool}
    (done : Lifecycle.deliverVm uuid power stops vm = some row) : row.status ≠ .failed := by
  unfold deliverVm at done
  repeat' split at done
  all_goals cases done
  all_goals nofun

theorem delivers_unfailed {step : LifecycleStep} {desk : LifecycleDesk}
    (delivered : delivers step desk = true)
    (now : (lifecycleStep config step desk).vm = some row) : row.status ≠ .failed := by
  unfold delivers at delivered
  split at delivered
  · rename_i uuid power stops fate vm found
    simp only [Bool.and_eq_true, decide_eq_true_eq, Option.isSome_iff_exists] at delivered
    obtain ⟨⟨written, decided⟩, commits⟩ := delivered
    have committed : actOn (.deliver uuid power stops) fate vm desk =
        { noteStart (.deliver uuid power stops) vm
            (decideRow (.deliver uuid power stops) vm desk) desk with
          vm := some written } := by
      simp only [actOn, decideRow, decided, Option.map_some]
      cases fate with
      | done => rfl
      | failed => exact absurd rfl commits
      | lost => rfl
    simp only [lifecycleStep, noteOwed, Lifecycle.act, found, committed, Option.some.injEq] at now
    subst now
    exact deliverVm_unfailed decided
  · cases delivered

section
variable (step : StatusStep)

theorem statusStep_deleting (deleting : DeletionsHeld desk.lifecycle) :
    DeletionsHeld (statusStep config step desk).lifecycle := by
  cases statusStep_does config step desk with
  | rests lifecycle _ =>
    rw [lifecycle]
    exact deleting
  | lives action _ lifecycle _ =>
    rw [lifecycle]
    exact act_held config action deleting
  | simulated _ _ _ _ _ found lifecycle | failed _ _ _ _ _ _ found lifecycle =>
    rw [lifecycle]
    exact held_same deleting rfl rfl fun claimed => written_claimed found rfl rfl claimed

theorem statusStep_fresh (absent : desk.lifecycle.vm = none) :
    Fresh (statusStep config step desk).lifecycle := by
  cases statusStep_does config step desk with
  | rests lifecycle _ =>
    rw [lifecycle]
    exact absent_fresh absent
  | lives action _ lifecycle _ =>
    rw [lifecycle]
    exact act_fresh action absent
  | simulated _ _ _ _ _ found | failed _ _ _ _ _ _ found =>
    rw [absent] at found
    cases found

theorem provisioned_unfailed (set_ : (statusStep config step desk).provisionedAt.isSome)
    (now : (statusStep config step desk).lifecycle.vm = some row) :
    desk.provisionedAt.isSome ∨ row.status ≠ .failed := by
  cases statusStep_does config step desk with
  | rests _ same | failed _ _ _ _ _ _ _ _ same =>
    rw [same] at set_
    exact Or.inl set_
  | lives action _ lifecycle written =>
    rw [written] at set_
    rw [lifecycle] at now
    split at set_
    · rename_i delivered
      exact Or.inr (delivers_unfailed delivered now)
    · exact Or.inl set_
  | simulated w fate vm _ _ _ lifecycle _ =>
    rw [lifecycle] at now
    cases now
    exact Or.inr (simulated_unfailed vm)

theorem provisioned_stays (set_ : desk.provisionedAt.isSome) :
    (statusStep config step desk).provisionedAt.isSome := by
  cases statusStep_does config step desk with
  | rests _ same | failed _ _ _ _ _ _ _ _ same =>
    rw [same]
    exact set_
  | lives action _ _ written =>
    rw [written]
    split
    · rfl
    · exact set_
  | simulated w fate vm _ _ _ _ written =>
    rw [written]
    rfl

theorem statusStep_safe (safe : StatusSafe desk) (may : mayWrite step desk) :
    StatusSafe (statusStep config step desk) where
  deleting := statusStep_deleting step safe.deleting
  buried row now := by
    cases found : desk.lifecycle.vm with
    | none =>
      intro ended
      rw [statusStep_fresh step found row now] at ended
      cases ended
    | some vm =>
      obtain ⟨written, there, moves⟩ := statusStep_moves config step safe may found
      rw [there] at now
      cases now
      exact moves.buried
  provisioned set_ row now := by
    cases found : desk.lifecycle.vm with
    | none =>
      rw [statusStep_fresh step found row now]
      nofun
    | some vm =>
      obtain ⟨written, there, moves⟩ := statusStep_moves config step safe may found
      rcases provisioned_unfailed step set_ now with before | unfailed
      · rw [there] at now
        cases now
        intro ended
        rcases moves.follows.fails ended with failed | unset
        · exact safe.provisioned before vm found failed
        · rw [unset] at before
          cases before
      · exact unfailed

end

end Steps

variable {desk : StatusDesk}

theorem status_start (start : StatusStart desk) : StatusSafe desk where
  deleting w deletion runs := by
    rw [start.deletions w] at runs
    cases runs
  buried vm found := by
    rw [start.vm] at found
    cases found
  provisioned set_ := by
    rw [start.provisionedAt] at set_
    cases set_

/-- A VM that was destroyed still is, and one that failed has failed or is destroyed. -/
structure Ends (before after : StatusDesk) : Prop where
  destroyed : ∀ vm, before.lifecycle.vm = some vm → vm.status = .destroyed →
    ∃ row, after.lifecycle.vm = some row ∧ row.status = .destroyed
  failed : ∀ vm, before.lifecycle.vm = some vm → vm.status = .failed →
    ∃ row, after.lifecycle.vm = some row ∧ (row.status = .failed ∨ row.status = .destroyed)

theorem ends_refl (desk : StatusDesk) : Ends desk desk where
  destroyed vm found ended := ⟨vm, found, ended⟩
  failed vm found ended := ⟨vm, found, Or.inl ended⟩

theorem ends_trans (first second third : StatusDesk) (once : Ends first second)
    (again : Ends second third) : Ends first third where
  destroyed vm found ended := by
    obtain ⟨row, there, destroyed⟩ := once.destroyed vm found ended
    exact again.destroyed row there destroyed
  failed vm found ended := by
    obtain ⟨row, there, failed | destroyed⟩ := once.failed vm found ended
    · exact again.failed row there failed
    · obtain ⟨final, now, buried⟩ := again.destroyed row there destroyed
      exact ⟨final, now, Or.inr buried⟩

section Runs
variable {config : ExpiryConfig}

theorem statusStep_ends (step : StatusStep) (desk : StatusDesk) (safe : StatusSafe desk)
    (may : mayWrite step desk) : StatusSafe (statusStep config step desk) ∧
      Ends desk (statusStep config step desk) := by
  refine ⟨statusStep_safe step safe may, ?_, ?_⟩
  · intro vm found ended
    obtain ⟨row, now, moves⟩ := statusStep_moves config step safe may found
    exact ⟨row, now, moves.follows.destroyed ended⟩
  · intro vm found ended
    obtain ⟨row, now, moves⟩ := statusStep_moves config step safe may found
    exact ⟨row, now, moves.follows.failed ended⟩

theorem claimHeld_rest {step : StatusStep} {rest : List StatusStep}
    (held : ClaimHeld config desk (step :: rest)) :
    ClaimHeld config (statusStep config step desk) rest := by
  intro done front
  exact held (step :: done) (List.cons_prefix_cons.mpr ⟨rfl, front⟩)

theorem claimed_unmoved (steps : List StatusStep) (desk : StatusDesk) (safe : StatusSafe desk)
    (admitted : (statuses config).admits desk steps) (held : ClaimHeld config desk steps)
    {vm row : ExpiringVm} (found : desk.lifecycle.vm = some vm)
    (now : ((statuses config).run desk steps).lifecycle.vm = some row)
    (up : isRunning row = true) : row.status = vm.status := by
  induction steps generalizing desk vm with
  | nil =>
    have same : some vm = some row := found.symm.trans now
    cases same
    rfl
  | cons step rest ih =>
    obtain ⟨next, there, moves⟩ := statusStep_moves config step safe admitted.1 found
    have later := ih _ (statusStep_safe step safe admitted.1) admitted.2 (claimHeld_rest held)
      there now
    obtain ⟨claimedVm, here, claimed⟩ := held [] List.nil_prefix
    have same : some vm = some claimedVm := found.symm.trans here
    cases same
    rw [later]
    apply moves.follows.claimed claimed
    simpa [isRunning, later] using up

/-- Whatever the order of the writers, a VM that was destroyed stays so, one that failed is at
most destroyed, one that was provisioned does not fail, and none comes up while it is being
deleted. -/
theorem statuses_absorb (config : ExpiryConfig) (desk : StatusDesk)
    (first rest : List StatusStep) (start : StatusStart desk)
    (admitted : (statuses config).admits desk (first ++ rest)) :
    StatusesKept config ((statuses config).run desk first) rest := by
  rw [(statuses config).admits_append] at admitted
  have middle := (statuses config).run_keeps
    (fun step desk safe may => (statusStep_ends step desk safe may).1) first desk
    (status_start start) admitted.1
  have ends := (statuses config).run_related ends_refl ends_trans
    (fun step desk safe may => statusStep_ends step desk safe may) rest _ middle admitted.2
  have final := (statuses config).run_keeps
    (fun step desk safe may => (statusStep_ends step desk safe may).1) rest _ middle admitted.2
  constructor
  · exact ends.destroyed
  · exact ends.failed
  · intro set_
    have stays : ∀ step desk, desk.provisionedAt.isSome = true → (statuses config).may step desk →
        ((statuses config).step step desk).provisionedAt.isSome = true :=
      fun step _ before _ => provisioned_stays step before
    exact final.provisioned ((statuses config).run_keeps stays rest _ set_ admitted.2)
  · intro held vm found row now up
    exact claimed_unmoved rest _ middle admitted.2 held found now up

end Runs

/-- Enough of `mayWrite`, as a test. -/
def writeTest (step : StatusStep) (desk : StatusDesk) : Bool :=
  match step, desk.lifecycle.vm with
  | .simulate _ _, some vm => vm.status = .provisioning && vm.deletionStartedAt.isNone
  | .failVm _ _, some vm => vm.status ≠ .destroyed && desk.provisionedAt.isNone
  | .lifecycle (.actor (.fail _ _) _), _ => desk.provisionedAt.isNone
  | .lifecycle (.actor (.resumeResources _ _ _) _), some vm => vm.deletionStartedAt.isNone
  | .lifecycle (.expiry (.retain _ _ _)), some vm => vm.status ≠ .failed
  | _, _ => true

theorem writeTest_may (step : StatusStep) (desk : StatusDesk)
    (passed : writeTest step desk = true) : mayWrite step desk := by
  intro vm found
  split <;> simp_all [writeTest]

def statusDesk : StatusDesk where
  lifecycle := bareDesk
  provisionedAt := none
  receipt := false
  attempts := fun _ => none
  failures := fun _ => none

theorem statusDesk_starts : StatusStart statusDesk := ⟨rfl, rfl, fun _ => rfl⟩

def ordered : List StatusStep :=
  [.lifecycle (.expiry (.create (some 1, some (.evm 5)) 100)), .begin_ 0, .inspect 0]

def deletedBy (w : ProcessId) : List StatusStep :=
  [.lifecycle (.expiry (.destroy w true .done)), .lifecycle (.expiry (.finish w true .done))]

/-- A simulated VM is delivered, and deleted while an administrator's stop comes too late. -/
theorem simulated_vm_kept :
    StatusesKept ⟨10, true⟩
      ((statuses ⟨10, true⟩).run statusDesk (ordered ++ [.simulate 0 .lost] ++ deletedBy 1))
      [.lifecycle (.actor (.power .suspend .running true) .done)] := by
  apply statuses_absorb ⟨10, true⟩ statusDesk _ _ statusDesk_starts
  exact (statuses ⟨10, true⟩).passes_admits writeTest writeTest_may _ _ (by decide +kernel)

def statusOf (desk : StatusDesk) : Option VMStatus := desk.lifecycle.vm.map ExpiringVm.status

section Readings
variable {config : ExpiryConfig} {desk : StatusDesk} {steps : List StatusStep}

section
variable (kept : StatusesKept config desk steps)
include kept

theorem kept_destroyed (ended : statusOf desk = some .destroyed) :
    statusOf ((statuses config).run desk steps) = some .destroyed := by
  obtain ⟨vm, found, status⟩ := Option.map_eq_some_iff.mp ended
  obtain ⟨row, now, destroyed⟩ := kept.destroyed vm found status
  exact Option.map_eq_some_iff.mpr ⟨row, now, destroyed⟩

theorem kept_failed (ended : statusOf desk = some .failed) :
    statusOf ((statuses config).run desk steps) = some .failed ∨
      statusOf ((statuses config).run desk steps) = some .destroyed := by
  obtain ⟨vm, found, status⟩ := Option.map_eq_some_iff.mp ended
  obtain ⟨row, now, failed | destroyed⟩ := kept.failed vm found status
  · exact Or.inl (Option.map_eq_some_iff.mpr ⟨row, now, failed⟩)
  · exact Or.inr (Option.map_eq_some_iff.mpr ⟨row, now, destroyed⟩)

theorem kept_provisioned (set_ : desk.provisionedAt.isSome) :
    statusOf ((statuses config).run desk steps) ≠ some .failed := by
  intro ended
  obtain ⟨row, now, failed⟩ := Option.map_eq_some_iff.mp ended
  exact kept.provisioned set_ row now failed

theorem kept_claimed (held : ClaimHeld config desk steps)
    (up : statusOf ((statuses config).run desk steps) = some .running) :
    statusOf desk = some .running := by
  obtain ⟨row, now, running⟩ := Option.map_eq_some_iff.mp up
  obtain ⟨vm, found, _⟩ := held [] List.nil_prefix
  have same := kept.claimed held vm found row now (by simp [isRunning, running])
  exact Option.map_eq_some_iff.mpr ⟨vm, found, same.symm.trans running⟩

end

end Readings

def isClaimed (desk : StatusDesk) : Bool :=
  match desk.lifecycle.vm with
  | none => false
  | some vm => vm.deletionStartedAt.isSome

theorem isClaimed_claimed (claimed : isClaimed desk = true) :
    IsClaimed desk.lifecycle := by
  unfold isClaimed at claimed
  split at claimed
  · cases claimed
  · rename_i vm found
    exact ⟨vm, found, claimed⟩

def claimedSteps : List LifecycleStep :=
  deliveredTo 1 ++ [.account 1 false, .actor (.suspendResources 1 .running true) .done,
    .account 1 true, .expiry (.destroy 1 true .done)]

def resumedSteps : List StatusStep :=
  [.lifecycle (.actor (.resumeResources 1 .halted true) .done)]

theorem resumed_held : ClaimHeld ⟨10, true⟩
    ((statuses ⟨10, true⟩).run statusDesk (claimedSteps.map .lifecycle)) resumedSteps := by
  intro done front
  rcases List.prefix_cons_iff.mp front with rfl | ⟨rest, rfl, nothing⟩
  · exact isClaimed_claimed (by decide +kernel)
  · rw [List.prefix_nil.mp nothing]
    exact isClaimed_claimed (by decide +kernel)

/-- A VM that was deleted or has failed is delivered by a simulation, a provisioned one is
failed by `mark_vm_failed`, and one that is being deleted is started with its account. -/
theorem statuses_not_kept :
    ¬ StatusesKept ⟨10, true⟩ ((statuses ⟨10, true⟩).run statusDesk (ordered ++ deletedBy 1))
      [.simulate 0 .done] ∧
    ¬ StatusesKept ⟨10, true⟩ ((statuses ⟨10, true⟩).run statusDesk
      (ordered ++ [.readVm .markVmFailed 1, .failVm 1 .done])) [.simulate 0 .done] ∧
    ¬ StatusesKept ⟨10, true⟩ ((statuses ⟨10, true⟩).run statusDesk
      (ordered ++ [.readVm .markVmFailed 1, .simulate 0 .done])) [.failVm 1 .done] ∧
    ¬ StatusesKept ⟨10, true⟩
      ((statuses ⟨10, true⟩).run statusDesk (claimedSteps.map .lifecycle)) resumedSteps := by
  refine ⟨fun kept => ?_, fun kept => ?_, fun kept => ?_, fun kept => ?_⟩
  · have destroyed := kept_destroyed kept (by decide +kernel)
    revert destroyed
    decide +kernel
  · have ended := kept_failed kept (by decide +kernel)
    revert ended
    decide +kernel
  · have unfailed := kept_provisioned kept (by decide +kernel)
    exact unfailed (by decide +kernel)
  · have running := kept_claimed kept resumed_held (by decide +kernel)
    revert running
    decide +kernel

end HyruleCloud.Statuses
