import HyruleCloud.AdminWaivers

/-!
When the counts of the waiver windows are right. A count is drafted by one call at a time;
what is committed is the number of the granted waivers and of the pending calls.
-/

namespace HyruleCloud.AdminWaivers

open Interaction ReadCommitted

/-- The clocks of two calls do not differ by the retention, an audit row that is saved is
saved in time, a consumption that is committed is acknowledged, a restoration is committed,
and no call ends between the two. -/
def Timely (step : WaiverStep) (desk : WaiverDesk) : Prop :=
  match step with
  | .begin w now => match desk.stages w with
      | .live context => desk.horizon ≤ context.operationClass.windowStart now
      | _ => True
  | .prune w => match desk.stages w with
      | .begun _ cutoff => ∀ v key, (desk.stages v).window = some key →
          cutoff ≤ key.windowStartedAt
      | _ => True
  | .commit w fate => match desk.stages w with
      | .counted _ true => fate ≠ .lost
      | .uncounted _ => fate ≠ .failed
      | _ => True
  | .audit w outcome => match desk.stages w with
      | .consumed _ => outcome ≠ .timedOut true
      | _ => True
  | .crash w => (desk.stages w).holds = none
  | _ => True

def timelyWaivers (config : WaiverConfig) : Protocol WaiverDesk WaiverStep where
  step := waiverStep config
  may := Timely

def DraftSafe (config : WaiverConfig) (desk : WaiverDesk) (key : UsageKey) (count : Nat) :
    Stage → Prop
  | .counted window true => window = key ∧ count = desk.stored key + 1 ∧
      count ≤ config.limit key.operationClass
  | .counted window false | .locked window _ => window = key ∧ count = desk.stored key
  | .uncounted window => window = key ∧ count + 1 = desk.stored key
  | _ => False

def StageSafe (desk : WaiverDesk) (w : ProcessId) : Stage → Prop
  | .counted key true | .uncounted key => ∃ count, desk.usage.drafts key = some (w, some count)
  | .locked key count => desk.usage.drafts key = some (w, some count)
  | _ => True

structure AuditsSafe (desk : WaiverDesk) : Prop where
  audited : desk.audits.Perm (desk.waivers.map Waiver.audit)
  apart : (desk.audits.map (·.txHash)).Nodup
  drawn : ∀ row ∈ desk.audits, row.txHash < desk.drawn

structure WaiversSafe (config : WaiverConfig) (desk : WaiverDesk) : Prop where
  counted : ∀ key, desk.pruned key = false →
    desk.stored key = desk.granted key + desk.pending key
  limited : ∀ key, desk.stored key ≤ config.limit key.operationClass
  windows : ∀ w key, (desk.stages w).window = some key → desk.horizon ≤ key.windowStartedAt
  pruned : ∀ key, desk.pruned key = true → key.windowStartedAt < desk.horizon
  deletions : ∀ key w, desk.usage.drafts key = some (w, none) →
    key.windowStartedAt < desk.horizon
  drafts : ∀ key w count, desk.usage.drafts key = some (w, some count) →
    DraftSafe config desk key count (desk.stages w)
  stages : ∀ w, StageSafe desk w (desk.stages w)
  entered : ∀ w, w ∉ desk.entered → desk.stages w = .idle
  audits : AuditsSafe desk

variable {error : WaiverError} {context : BypassContext}

section Safety

variable {config : WaiverConfig} {desk after : WaiverDesk} {w : ProcessId} {key : UsageKey}
  {stage : Stage} {count : Nat}

/-! What a step of one call leaves to the others. -/

structure Acts (w : ProcessId) (desk after : WaiverDesk) : Prop where
  others : ∀ v, v ≠ w → after.stages v = desk.stages v
  drafts : ∀ key v draft, v ≠ w → (after.usage.drafts key = some (v, draft) ↔
    desk.usage.drafts key = some (v, draft))
  stored : ∀ key v draft, v ≠ w → desk.usage.drafts key = some (v, draft) →
    after.stored key = desk.stored key
  horizon : desk.horizon ≤ after.horizon

theorem draftSafe_stored (same : after.stored key = desk.stored key)
    (safe : DraftSafe config desk key count stage) : DraftSafe config after key count stage := by
  unfold DraftSafe at safe ⊢
  rw [same]
  exact safe

theorem goOn_stage (v : ProcessId) : (desk.goOn w stage).stages v =
    if v = w then stage else desk.stages v := by
  simp only [WaiverDesk.goOn, Function.update_apply]

theorem pending_eq (key : UsageKey) : desk.pending key =
    ∑ v ∈ desk.entered, if (desk.stages v).holds = some key then 1 else 0 :=
  Finset.card_filter _ _

theorem pending_goOn (entered : w ∈ desk.entered) (stage : Stage) (key : UsageKey) :
    (desk.goOn w stage).pending key + (if (desk.stages w).holds = some key then 1 else 0) =
      desk.pending key + (if stage.holds = some key then 1 else 0) := by
  have rest : ∑ v ∈ desk.entered.erase w,
      (if ((desk.goOn w stage).stages v).holds = some key then 1 else 0) =
      ∑ v ∈ desk.entered.erase w, if (desk.stages v).holds = some key then 1 else 0 := by
    apply Finset.sum_congr rfl
    intro v listed
    rw [goOn_stage, if_neg (Finset.ne_of_mem_erase listed)]
  have before := Finset.add_sum_erase desk.entered
    (fun v => if (desk.stages v).holds = some key then 1 else 0) entered
  have later := Finset.add_sum_erase desk.entered
    (fun v => if ((desk.goOn w stage).stages v).holds = some key then 1 else 0) entered
  rw [goOn_stage, if_pos rfl] at later
  rw [pending_eq, pending_eq, ← before, show (desk.goOn w stage).entered = desk.entered from rfl,
    ← later, rest]
  omega

theorem pending_same (same : stage.holds = (desk.stages w).holds) (key : UsageKey) :
    (desk.goOn w stage).pending key = desk.pending key := by
  rw [pending_eq, pending_eq]
  apply Finset.sum_congr rfl
  intro v _
  rw [goOn_stage]
  split
  · rename_i is
    rw [is, same]
  · rfl

theorem holds_pending (entered : w ∈ desk.entered) (holds : (desk.stages w).holds = some key) :
    0 < desk.pending key := by
  apply Finset.card_pos.mpr
  exact ⟨w, Finset.mem_filter.mpr ⟨entered, holds⟩⟩

variable (safe : WaiversSafe config desk)
include safe

theorem runs_entered (runs : desk.stages w = stage)
    (busy : stage ≠ .idle) : w ∈ desk.entered := by
  by_contra absent
  exact busy (runs.symm.trans (safe.entered w absent))

theorem works_entered (works : (desk.stages w).window = some key) : w ∈ desk.entered := by
  refine runs_entered safe rfl fun idle => ?_
  rw [idle] at works
  cases works

theorem errors_safe {errors : List WaiverError} :
    WaiversSafe config { desk with errors := errors } :=
  { safe with audits := { safe.audits with } }

omit safe

theorem goOn_others (v : ProcessId) (other : v ≠ w) :
    (desk.goOn w stage).stages v = desk.stages v := by
  rw [goOn_stage, if_neg other]

theorem goOn_own : (desk.goOn w stage).stages w = stage := by
  rw [goOn_stage, if_pos rfl]

theorem goOn_windows
    (before : ∀ v key, (desk.stages v).window = some key → desk.horizon ≤ key.windowStartedAt)
    (window : ∀ key, stage.window = some key → desk.horizon ≤ key.windowStartedAt)
    (v : ProcessId) (key : UsageKey) (works : ((desk.goOn w stage).stages v).window = some key) :
    desk.horizon ≤ key.windowStartedAt := by
  rw [goOn_stage] at works
  split at works
  · exact window key works
  · exact before v key works

section
variable (safe : WaiversSafe config desk)
include safe

theorem goOn_counted (holds : stage.holds = (desk.stages w).holds)
    (key : UsageKey) (kept : desk.pruned key = false) :
    desk.stored key = desk.granted key + (desk.goOn w stage).pending key := by
  rw [pending_same holds]
  exact safe.counted key kept

theorem acted_safe (acts : Acts w desk (after.goOn w stage))
    (counted : ∀ key, after.pruned key = false →
      after.stored key = after.granted key + (after.goOn w stage).pending key)
    (limited : ∀ key, after.stored key ≤ config.limit key.operationClass)
    (windows : ∀ v key, ((after.goOn w stage).stages v).window = some key →
      after.horizon ≤ key.windowStartedAt)
    (pruned : ∀ key, after.pruned key = true → key.windowStartedAt < after.horizon)
    (deletions : ∀ key, after.usage.drafts key = some (w, none) →
      key.windowStartedAt < after.horizon)
    (drafts : ∀ key count, after.usage.drafts key = some (w, some count) →
      DraftSafe config after key count stage)
    (own : StageSafe after w stage)
    (same : after.entered = desk.entered) (joined : stage = .idle ∨ w ∈ desk.entered)
    (audits : AuditsSafe (after.goOn w stage)) : WaiversSafe config (after.goOn w stage) := by
  refine ⟨counted, limited, windows, pruned, fun key v held => ?_, fun key v count held => ?_,
    fun v => ?_, fun v absent => ?_, audits⟩
  · by_cases same : v = w
    · subst same
      exact deletions key held
    · have before := (acts.drafts key v _ same).mp held
      exact Nat.lt_of_lt_of_le (safe.deletions key v before) acts.horizon
  · by_cases same : v = w
    · subst same
      rw [goOn_own]
      exact drafts key count held
    · have before := (acts.drafts key v _ same).mp held
      rw [acts.others v same]
      exact draftSafe_stored (acts.stored key v _ same before) (safe.drafts key v count before)
  · by_cases same : v = w
    · subst same
      rw [goOn_own]
      exact own
    · have before := safe.stages v
      have drafts := fun key draft => (acts.drafts key v draft same).mpr
      rw [acts.others v same]
      cases runs : desk.stages v with
      | counted key consumed =>
        rw [runs] at before
        cases consumed with
        | false => trivial
        | true =>
          obtain ⟨count, held⟩ := before
          exact ⟨count, drafts key _ held⟩
      | locked key count =>
        rw [runs] at before
        exact drafts key _ before
      | uncounted key =>
        rw [runs] at before
        obtain ⟨count, held⟩ := before
        exact ⟨count, drafts key _ held⟩
      | _ => trivial
  · rw [show (after.goOn w stage).entered = _ from same] at absent
    by_cases same : v = w
    · subst same
      rw [goOn_own]
      exact joined.resolve_right absent
    · rw [acts.others v same]
      exact safe.entered v absent

theorem goOn_safe (holds : stage.holds = (desk.stages w).holds)
    (window : ∀ key, stage.window = some key → desk.horizon ≤ key.windowStartedAt)
    (drafts : ∀ key count, desk.usage.drafts key = some (w, some count) →
      DraftSafe config desk key count stage)
    (own : StageSafe desk w stage) (joined : stage = .idle ∨ w ∈ desk.entered) :
    WaiversSafe config (desk.goOn w stage) := by
  have acts : Acts w desk (desk.goOn w stage) :=
    ⟨goOn_others, fun _ _ _ _ => Iff.rfl, fun _ _ _ _ _ => rfl, Nat.le_refl _⟩
  exact acted_safe safe acts (goOn_counted safe holds) safe.limited
    (goOn_windows safe.windows window) safe.pruned (fun key => safe.deletions key w) drafts own
    rfl joined { safe.audits with }

theorem undrafted
    (none : ∀ key count, ¬ DraftSafe config desk key count (desk.stages w)) (key : UsageKey)
    (count : Nat) (held : desk.usage.drafts key = some (w, some count)) : False :=
  none key count (safe.drafts key w count held)

theorem set_safe (free : desk.usage.waits w [key] = false)
    (drafted : ∀ other count, DraftSafe config desk other count (desk.stages w) → other = key)
    (holds : stage.holds = (desk.stages w).holds)
    (window : ∀ key, stage.window = some key → desk.horizon ≤ key.windowStartedAt)
    (draft : DraftSafe config desk key count stage)
    (own : StageSafe (desk.set w key count) w stage) (joined : w ∈ desk.entered) :
    WaiversSafe config ((desk.set w key count).goOn w stage) := by
  have acts : Acts w desk ((desk.set w key count).goOn w stage) := by
    refine ⟨goOn_others, ?_, fun _ _ _ _ _ => rfl, Nat.le_refl _⟩
    intro other v written apart
    exact LockedTable.write_other apart free
  have drafts : ∀ other written, (desk.set w key count).usage.drafts other = some (w, written) →
      (other = key ∧ written = some count) ∨ desk.usage.drafts other = some (w, written) := by
    intro other written held
    rcases LockedTable.write_own held with ⟨listed, is⟩ | before
    · exact Or.inl ⟨List.mem_singleton.mp listed, is⟩
    · exact Or.inr before
  have fresh : (desk.set w key count).usage.drafts key = some (w, some count) := by
    simp [WaiverDesk.set, LockedTable.write]
  have counted := goOn_counted safe holds
  refine acted_safe safe acts counted safe.limited
    (goOn_windows safe.windows window) safe.pruned ?_ ?_ own rfl (Or.inr joined)
    { safe.audits with }
  · intro other held
    rcases drafts other none held with ⟨_, is⟩ | before
    · cases is
    · exact safe.deletions other w before
  · intro other written held
    have same : other = key := by
      rcases drafts other (some written) held with ⟨same, _⟩ | before
      · exact same
      · exact drafted other written (safe.drafts other w written before)
    subst same
    cases fresh.symm.trans held
    exact draftSafe_stored rfl draft

theorem rollback_safe (free : (desk.stages w).holds = none) :
    WaiversSafe config ({ desk with usage := desk.usage.rollback w }.goOn w .idle) := by
  have acts : Acts w desk ({ desk with usage := desk.usage.rollback w }.goOn w .idle) := by
    refine ⟨goOn_others, ?_, fun _ _ _ _ _ => rfl, Nat.le_refl _⟩
    intro other v written apart
    exact LockedTable.rollback_drafts.trans (and_iff_right apart)
  have ended : ∀ other written, (desk.usage.rollback w).drafts other ≠ some (w, written) :=
    fun other written held => (LockedTable.rollback_drafts.mp held).1 rfl
  have counted := @goOn_counted _ desk w .idle safe free.symm
  exact acted_safe safe acts counted safe.limited
    (goOn_windows safe.windows nofun) safe.pruned (fun other held => absurd held (ended other _))
    (fun other _ held => absurd held (ended other _)) trivial rfl (Or.inl rfl)
    { safe.audits with }

end

theorem fail_safe (safe : WaiversSafe config desk)
    (free : (desk.stages w).holds = none) : WaiversSafe config (desk.fail w error) :=
  errors_safe (rollback_safe safe free)

/-! The end of a transaction that commits. -/

theorem commit_stored_own (held : desk.usage.drafts key = some (w, some count)) :
    (desk.commit w).stored key = count := by
  unfold WaiverDesk.stored WaiverDesk.commit
  rw [LockedTable.commit_held held]
  rfl

theorem commit_stored_same (kept : (desk.commit w).pruned key = false)
    (undrafted : ∀ count, desk.usage.drafts key ≠ some (w, some count)) :
    (desk.commit w).stored key = desk.stored key := by
  simp only [WaiverDesk.commit, Bool.or_eq_false_iff, decide_eq_false_iff_not] at kept
  unfold WaiverDesk.stored WaiverDesk.commit
  rw [LockedTable.commit_free]
  intro draft held
  cases draft with
  | none => exact kept.2 held
  | some count => exact undrafted count held

theorem commit_stored_pruned (gone : desk.usage.drafts key = some (w, none)) :
    (desk.commit w).stored key = 0 := by
  unfold WaiverDesk.stored WaiverDesk.commit
  rw [LockedTable.commit_held gone]
  rfl

theorem commit_acts : Acts w desk ((desk.commit w).goOn w stage) := by
  refine ⟨goOn_others, ?_, ?_, Nat.le_refl _⟩
  · intro other v written apart
    exact LockedTable.rollback_drafts.trans (and_iff_right apart)
  · intro other v written apart held
    show ((desk.usage.commit w).committed other).getD 0 = _
    rw [LockedTable.commit_other apart held]
    rfl

theorem commit_safe (safe : WaiversSafe config desk)
    (window : ∀ key, stage.window = some key → desk.horizon ≤ key.windowStartedAt)
    (idle : StageSafe (desk.commit w) w stage) (joined : w ∈ desk.entered)
    (drafted : ∀ key count, desk.usage.drafts key = some (w, some count) →
      desk.pruned key = false → count = desk.granted key + (desk.goOn w stage).pending key)
    (bounded : ∀ key count, desk.usage.drafts key = some (w, some count) →
      count ≤ config.limit key.operationClass)
    (kept : ∀ key, (∀ count, desk.usage.drafts key ≠ some (w, some count)) →
      desk.pruned key = false → (desk.goOn w stage).pending key = desk.pending key) :
    WaiversSafe config ((desk.commit w).goOn w stage) := by
  have acts := @commit_acts desk w stage
  have ended : ∀ other written, (desk.usage.commit w).drafts other ≠ some (w, written) :=
    fun other written held => (LockedTable.rollback_drafts.mp held).1 rfl
  refine acted_safe safe acts ?_ ?_ (goOn_windows safe.windows window) ?_
    (fun other held => absurd held (ended other _))
    (fun other _ held => absurd held (ended other _)) idle rfl (Or.inr joined)
    { safe.audits with }
  · intro key unpruned
    have before : desk.pruned key = false := (Bool.or_eq_false_iff.mp unpruned).1
    show (desk.commit w).stored key = desk.granted key + (desk.goOn w stage).pending key
    by_cases held : ∃ count, desk.usage.drafts key = some (w, some count)
    · obtain ⟨count, held⟩ := held
      rw [commit_stored_own held]
      exact drafted key count held before
    · have undrafted : ∀ count, desk.usage.drafts key ≠ some (w, some count) :=
        fun count drafts => held ⟨count, drafts⟩
      rw [commit_stored_same unpruned undrafted, kept key undrafted before]
      exact safe.counted key before
  · intro key
    by_cases held : ∃ count, desk.usage.drafts key = some (w, some count)
    · obtain ⟨count, held⟩ := held
      rw [commit_stored_own held]
      exact bounded key count held
    · by_cases gone : desk.usage.drafts key = some (w, none)
      · rw [commit_stored_pruned gone]
        exact Nat.zero_le _
      · have free : (desk.usage.commit w).committed key = desk.usage.committed key := by
          apply LockedTable.commit_free
          intro draft drafts
          cases draft with
          | none => exact gone drafts
          | some count => exact held ⟨count, drafts⟩
        have limited := safe.limited key
        unfold WaiverDesk.stored at limited ⊢
        rw [show (desk.commit w).usage = desk.usage.commit w from rfl, free]
        exact limited
  · intro key gone
    rcases Bool.or_eq_true_iff.mp gone with before | now
    · exact safe.pruned key before
    · exact safe.deletions key w (of_decide_eq_true now)

theorem fail_commit (safe : WaiversSafe config ((desk.commit w).goOn w .idle)) :
    WaiversSafe config ((desk.commit w).fail w error) := by
  have ended : (desk.commit w).usage.rollback w = (desk.commit w).usage :=
    LockedTable.commit_rollback
  unfold WaiverDesk.fail
  rw [ended]
  exact errors_safe safe

include safe

theorem works_unpruned (works : (desk.stages w).window = some key) : desk.pruned key = false := by
  rw [Bool.eq_false_iff]
  intro gone
  have late := safe.windows w key works
  have early := safe.pruned key gone
  omega

theorem view_committed (works : (desk.stages w).window = some key)
    (none : ∀ key count, ¬ DraftSafe config desk key count (desk.stages w)) :
    desk.usage.view w key = desk.usage.committed key := by
  apply LockedTable.view_free
  intro draft held
  cases draft with
  | none =>
    have late := safe.windows w key works
    have early := safe.deletions key w held
    omega
  | some count => exact undrafted safe none key count held

theorem window_read (runs : desk.stages w = stage)
    (window : stage.window = some key) (none : ∀ key count, ¬ DraftSafe config desk key count stage) :
    (desk.stages w).window = some key ∧
      (∀ key count, ¬ DraftSafe config desk key count (desk.stages w)) ∧
        desk.stored key = (desk.usage.view w key).getD 0 := by
  subst runs
  refine ⟨window, none, ?_⟩
  rw [view_committed safe window none]
  rfl

theorem enter_safe (runs : desk.stages w = .idle) :
    WaiversSafe config ({ desk with entered := insert w desk.entered }.goOn w
      (.entered context)) := by
  have joined : WaiversSafe config { desk with entered := insert w desk.entered } := by
    constructor
    · intro key kept
      have same : (insert w desk.entered).filter (fun v => (desk.stages v).holds = some key) =
          desk.entered.filter fun v => (desk.stages v).holds = some key := by
        rw [Finset.filter_insert, if_neg]
        rw [runs]
        exact nofun
      have counted := safe.counted key kept
      unfold WaiverDesk.pending at counted ⊢
      rw [same]
      exact counted
    · exact safe.limited
    · exact safe.windows
    · exact safe.pruned
    · exact safe.deletions
    · exact safe.drafts
    · exact safe.stages
    · intro v absent
      exact safe.entered v fun listed => absent (Finset.mem_insert_of_mem listed)
    · exact { safe.audits with }
  apply goOn_safe joined
  · rw [show _ = Stage.idle from runs]
    rfl
  · exact nofun
  · intro key count held
    have none := safe.drafts key w count held
    rw [runs] at none
    exact none.elim
  · trivial
  · exact Or.inr (Finset.mem_insert_self w desk.entered)

theorem beginConsume_safe {now : Nat}
    (runs : desk.stages w = .live context)
    (timely : desk.horizon ≤ context.operationClass.windowStart now) :
    WaiversSafe config (beginConsume w context now desk) := by
  apply goOn_safe safe
  · rw [runs]
    rfl
  · intro key works
    cases works
    exact timely
  · intro key count held
    have none := safe.drafts key w count held
    rw [runs] at none
    exact none.elim
  · trivial
  · exact Or.inr (runs_entered safe runs nofun)

theorem prune_safe {cutoff : Nat}
    (runs : desk.stages w = .begun key cutoff)
    (timely : ∀ v key, (desk.stages v).window = some key → cutoff ≤ key.windowStartedAt) :
    WaiversSafe config (prune w key cutoff desk) := by
  have works : (desk.stages w).window = some key := congrArg Stage.window runs
  unfold prune
  dsimp only
  split
  · exact safe
  rename_i waits
  generalize listed : (desk.usage.keys.filter fun row =>
    decide (row.windowStartedAt < cutoff) && (desk.usage.view w row).isSome) = old at waits ⊢
  have free : desk.usage.waits w old = false := Bool.not_eq_true _ ▸ waits
  have early : ∀ row ∈ old, row.windowStartedAt < cutoff := by
    intro row member
    rw [← listed, List.mem_filter, Bool.and_eq_true, decide_eq_true_eq] at member
    exact member.2.1
  have acts : Acts w desk ({ desk with
      usage := desk.usage.write w old fun _ => none
      horizon := max desk.horizon cutoff }.goOn w (.pruned key)) := by
    refine ⟨goOn_others, ?_, fun _ _ _ _ _ => rfl, Nat.le_max_left _ _⟩
    intro other v written apart
    exact LockedTable.write_other apart free
  have windows : ∀ v key, (desk.stages v).window = some key →
      max desk.horizon cutoff ≤ key.windowStartedAt :=
    fun v key at_ => Nat.max_le.mpr ⟨safe.windows v key at_, timely v key at_⟩
  have counted : ∀ row, desk.pruned row = false →
      desk.stored row = desk.granted row + (desk.goOn w (.pruned key)).pending row :=
    goOn_counted safe (by rw [runs]; rfl)
  refine acted_safe safe acts counted safe.limited ?_ ?_ ?_ ?_ trivial rfl (Or.inr (runs_entered safe runs nofun))
    { safe.audits with }
  · apply goOn_windows windows
    intro other is
    cases is
    exact windows w key works
  · intro other gone
    exact Nat.lt_of_lt_of_le (safe.pruned other gone) (Nat.le_max_left _ _)
  · intro other held
    rcases LockedTable.write_own held with ⟨member, _⟩ | before
    · exact Nat.lt_of_lt_of_le (early other member) (Nat.le_max_right _ _)
    · exact Nat.lt_of_lt_of_le (safe.deletions other w before) (Nat.le_max_left _ _)
  · intro other written held
    rcases LockedTable.write_own held with ⟨_, is⟩ | before
    · cases is
    · have none := safe.drafts other w written before
      rw [runs] at none
      exact none.elim

omit safe

theorem set_drafted : (desk.set w key count).usage.drafts key = some (w, some count) := by
  simp [WaiverDesk.set, LockedTable.write]

include safe

theorem first_set_safe
    (free : ¬ desk.usage.waits w [key] = true) (works : (desk.stages w).window = some key)
    (none : ∀ key count, ¬ DraftSafe config desk key count (desk.stages w))
    (holds : stage.holds = (desk.stages w).holds) (window : stage.window = some key)
    (draft : DraftSafe config desk key count stage)
    (own : StageSafe (desk.set w key count) w stage) :
    WaiversSafe config ((desk.set w key count).goOn w stage) := by
  apply set_safe safe (Bool.not_eq_true _ ▸ free) _ holds _ draft own (works_entered safe works)
  · exact fun other written drafted => absurd drafted (none other written)
  · intro other is
    cases window.symm.trans is
    exact safe.windows w key works

theorem within_safe (works : (desk.stages w).window = some key)
    (holds : stage.holds = (desk.stages w).holds) (window : stage.window = some key)
    (drafts : ∀ key count, DraftSafe config desk key count (desk.stages w) →
      DraftSafe config desk key count stage)
    (own : StageSafe desk w stage) : WaiversSafe config (desk.goOn w stage) := by
  apply goOn_safe safe holds _ _ own (Or.inr (works_entered safe works))
  · intro other is
    cases window.symm.trans is
    exact safe.windows w key works
  · exact fun other written held => drafts other written (safe.drafts other w written held)

omit safe

theorem upsertCount_safe (positive : ∀ operationClass, 1 ≤ config.limit operationClass)
    (safe : WaiversSafe config desk) (runs : desk.stages w = .pruned key) :
    WaiversSafe config (upsertCount config w key desk) := by
  have ⟨works, empty, seen⟩ := window_read safe runs rfl fun _ _ drafted => drafted
  unfold upsertCount
  split
  · exact safe
  split
  · rename_i absent
    refine first_set_safe safe ‹_› works empty (by rw [runs]; rfl) rfl ?_ ⟨1, set_drafted⟩
    have zero : desk.stored key = 0 := by
      rw [seen, absent]
      rfl
    exact ⟨rfl, by rw [zero], positive key.operationClass⟩
  · rename_i count present
    have stored : desk.stored key = count := by
      rw [seen, present]
      rfl
    split
    · refine first_set_safe safe ‹_› works empty (by rw [runs]; rfl) rfl ?_
        ⟨count + 1, set_drafted⟩
      exact ⟨rfl, by rw [stored], ‹_›⟩
    · refine within_safe safe works (by rw [runs]; rfl) rfl ?_ True.intro
      exact fun other written drafted => absurd drafted (empty other written)

theorem lockCount_safe (safe : WaiversSafe config desk) (runs : desk.stages w = .pruned key) :
    WaiversSafe config (lockCount w key desk) := by
  have ⟨works, empty, seen⟩ := window_read safe runs rfl fun _ _ drafted => drafted
  unfold lockCount
  split
  · exact safe
  split
  · refine within_safe safe works (by rw [runs]; rfl) rfl ?_ True.intro
    exact fun other written drafted => absurd drafted (empty other written)
  · rename_i count present
    refine first_set_safe safe ‹_› works empty (by rw [runs]; rfl) rfl ?_ set_drafted
    refine ⟨rfl, ?_⟩
    rw [seen, present]
    rfl

theorem insertCount_safe (positive : ∀ operationClass, 1 ≤ config.limit operationClass)
    (safe : WaiversSafe config desk) (runs : desk.stages w = .absent key) :
    WaiversSafe config (insertCount w key desk) := by
  have ⟨works, empty, seen⟩ := window_read safe runs rfl fun _ _ drafted => drafted
  unfold insertCount
  split
  · exact safe
  split
  · rename_i absent
    refine first_set_safe safe ‹_› works empty (by rw [runs]; rfl) rfl ?_ ⟨1, set_drafted⟩
    have zero : desk.stored key = 0 := by
      rw [seen, absent]
      rfl
    exact ⟨rfl, by rw [zero], positive key.operationClass⟩
  · apply fail_safe safe
    rw [runs]
    rfl

include safe

theorem updateCount_safe (runs : desk.stages w = .locked key count) :
    WaiversSafe config (updateCount config w key count desk) := by
  have own := safe.stages w
  rw [runs] at own
  have works : (desk.stages w).window = some key := congrArg Stage.window runs
  have drafted := safe.drafts key w count own
  rw [runs] at drafted
  unfold updateCount
  split
  · rename_i room
    refine set_safe safe ?_ ?_ (by rw [runs]; rfl) ?_ ?_ ⟨count + 1, set_drafted⟩
      (runs_entered safe runs nofun)
    · -- the row is held by the call itself
      simp [LockedTable.waits, LockedTable.holds, show _ = some (w, some count) from own]
    · intro other written before
      rw [runs] at before
      exact before.1.symm
    · intro other is
      cases is
      exact safe.windows w key works
    · exact ⟨rfl, by rw [← drafted.2], room⟩
  · refine within_safe safe works (by rw [runs]; rfl) rfl ?_ True.intro
    intro other written before
    rw [runs] at before
    exact before

theorem commit_idle (entered : w ∈ desk.entered)
    (free : (desk.stages w).holds = none)
    (same : ∀ key count, DraftSafe config desk key count (desk.stages w) →
      count = desk.stored key) :
    WaiversSafe config ((desk.commit w).goOn w .idle) := by
  have held : Stage.idle.holds = (desk.stages w).holds := free.symm
  refine commit_safe safe nofun True.intro entered ?_ ?_ ?_
  · intro key count drafted kept
    rw [same key count (safe.drafts key w count drafted), pending_same held]
    exact safe.counted key kept
  · intro key count drafted
    rw [same key count (safe.drafts key w count drafted)]
    exact safe.limited key
  · intro key _ _
    exact pending_same held key

theorem commitConsume_safe {consumed : Bool} {fate : Fate}
    (runs : desk.stages w = .counted key consumed)
    (timely : consumed = true → fate ≠ .lost) :
    WaiversSafe config (commitConsume w key consumed fate desk) := by
  have own := safe.stages w
  have entered := runs_entered safe runs nofun
  have free : (desk.stages w).holds = none := congrArg Stage.holds runs
  have ends : consumed = false → WaiversSafe config ((desk.commit w).goOn w .idle) := by
    intro refused
    subst refused
    apply commit_idle safe entered free
    intro other count drafted
    rw [runs] at drafted
    exact drafted.2
  cases fate with
  | failed => exact fail_safe safe free
  | lost =>
    cases consumed with
    | false => exact fail_commit (ends rfl)
    | true => exact absurd rfl (timely rfl)
  | done =>
    cases consumed with
    | false => exact fail_commit (ends rfl)
    | true =>
      rw [runs] at own
      obtain ⟨drawn, held⟩ := own
      have change := pending_goOn entered (.consumed key)
      -- the only count that this call has drafted is that of its window
      have only : ∀ other count, desk.usage.drafts other = some (w, some count) →
          other = key ∧ count = desk.stored key + 1 ∧
            count ≤ config.limit key.operationClass := by
        intro other count drafted
        have is := safe.drafts other w count drafted
        rw [runs] at is
        obtain ⟨same, up, bounded⟩ := is
        subst same
        exact ⟨rfl, up, bounded⟩
      refine commit_safe safe ?_ True.intro entered ?_ ?_ ?_
      · intro other is
        cases is
        exact safe.windows w key (by rw [runs]; rfl)
      · intro other count drafted kept
        obtain ⟨same, up, _⟩ := only other count drafted
        subst same
        have counts := change other
        have counted := safe.counted other kept
        rw [free] at counts
        simp only [Stage.holds, reduceCtorEq, if_false, if_true] at counts
        omega
      · intro other count drafted
        obtain ⟨same, _, bounded⟩ := only other count drafted
        subst same
        exact bounded
      · intro other undrafted _
        have apart : key ≠ other := by
          intro same
          subst same
          exact undrafted drawn held
        have counts := change other
        rw [free] at counts
        simp only [Stage.holds, Option.some.injEq, apart, reduceCtorEq, if_false] at counts
        omega

theorem restoreCount_safe
    (runs : desk.stages w = .unaudited key) : WaiversSafe config (restoreCount w key desk) := by
  have ⟨works, empty, seen⟩ := window_read safe runs rfl fun _ _ drafted => drafted
  have pending := holds_pending (runs_entered safe runs nofun) (by rw [runs]; rfl : _ = some key)
  have counted := safe.counted key (works_unpruned safe works)
  unfold restoreCount
  split
  · exact safe
  split
  · rename_i count present
    refine first_set_safe safe ‹_› works empty (by rw [runs]; rfl) rfl ?_ ⟨count, set_drafted⟩
    refine ⟨rfl, ?_⟩
    rw [seen, present]
    rfl
  · rename_i absent
    -- the call is pending, so its window has a count
    have zero : desk.stored key = 0 := by
      rw [seen]
      cases present : desk.usage.view w key with
      | none => rfl
      | some count =>
        cases count with
        | zero => rfl
        | succ count => exact absurd present (absent count)
    omega

theorem commitRestore_safe {fate : Fate}
    (runs : desk.stages w = .uncounted key) (timely : fate ≠ .failed) :
    WaiversSafe config (commitRestore w fate desk) := by
  have own := safe.stages w
  rw [runs] at own
  obtain ⟨drawn, held⟩ := own
  have change := pending_goOn (runs_entered safe runs nofun) .idle
  rw [runs] at change
  have only : ∀ other count, desk.usage.drafts other = some (w, some count) →
      other = key ∧ count + 1 = desk.stored key := by
    intro other count drafted
    have is := safe.drafts other w count drafted
    rw [runs] at is
    obtain ⟨same, down⟩ := is
    subst same
    exact ⟨rfl, down⟩
  have ends : WaiversSafe config ((desk.commit w).goOn w .idle) := by
    refine commit_safe safe nofun True.intro (runs_entered safe runs nofun) ?_ ?_ ?_
    · intro other count drafted kept
      obtain ⟨same, down⟩ := only other count drafted
      subst same
      have counts := change other
      have counted := safe.counted other kept
      simp only [Stage.holds, reduceCtorEq, if_false, if_true] at counts
      omega
    · intro other count drafted
      obtain ⟨same, down⟩ := only other count drafted
      subst same
      have limited := safe.limited other
      omega
    · intro other undrafted _
      have apart : key ≠ other := by
        intro same
        subst same
        exact undrafted drawn held
      have counts := change other
      simp only [Stage.holds, Option.some.injEq, apart, reduceCtorEq, if_false] at counts
      omega
  cases fate with
  | failed => exact absurd rfl timely
  | done | lost => exact fail_commit ends

theorem draw_safe : WaiversSafe config { desk with drawn := desk.drawn + 1 } :=
  { safe with
    audits := { safe.audits with
      drawn := fun row listed => Nat.lt_succ_of_lt (safe.audits.drawn row listed) } }

theorem grant_safe (runs : desk.stages w = .consumed key) :
    WaiversSafe config ({ desk with
      drawn := desk.drawn + 1
      audits := ⟨desk.drawn, key.actorAccountId, key.operationClass⟩ :: desk.audits
      waivers := ⟨desk.drawn, key⟩ :: desk.waivers }.goOn w .idle) := by
  have change := pending_goOn (runs_entered safe runs nofun) .idle
  rw [runs] at change
  have acts : Acts w desk ({ desk with
      drawn := desk.drawn + 1
      audits := ⟨desk.drawn, key.actorAccountId, key.operationClass⟩ :: desk.audits
      waivers := ⟨desk.drawn, key⟩ :: desk.waivers }.goOn w .idle) :=
    ⟨goOn_others, fun _ _ _ _ => Iff.rfl, fun _ _ _ _ _ => rfl, Nat.le_refl _⟩
  refine acted_safe safe acts ?_ safe.limited (goOn_windows safe.windows nofun) safe.pruned
    (fun key => safe.deletions key w) ?_ trivial rfl (Or.inl rfl) ?_
  · intro other kept
    have counts := change other
    have counted := safe.counted other kept
    have granted : (⟨desk.drawn, key⟩ :: desk.waivers).countP (·.key = other) =
        desk.granted other + if key = other then 1 else 0 := by
      rw [List.countP_cons]
      simp only [WaiverDesk.granted, decide_eq_true_eq]
    show desk.stored other = (⟨desk.drawn, key⟩ :: desk.waivers).countP (·.key = other) +
      (desk.goOn w .idle).pending other
    simp only [Stage.holds, Option.some.injEq, reduceCtorEq, if_false] at counts
    omega
  · intro other written held
    have none := safe.drafts other w written held
    rw [runs] at none
    exact none.elim
  · constructor
    · exact safe.audits.audited.cons _
    · refine List.nodup_cons.mpr ⟨?_, safe.audits.apart⟩
      intro listed
      obtain ⟨row, member, same⟩ := List.mem_map.mp listed
      exact Nat.ne_of_lt (safe.audits.drawn row member) same
    · intro row listed
      rcases List.mem_cons.mp listed with new | before
      · subst new
        exact Nat.lt_succ_self _
      · exact Nat.lt_succ_of_lt (safe.audits.drawn row before)

theorem recordRequired_safe {outcome : AuditOutcome}
    (runs : desk.stages w = .consumed key) (timely : outcome ≠ .timedOut true) :
    WaiversSafe config (recordRequired w key outcome desk) := by
  have fails : WaiversSafe config
      ({ desk with drawn := desk.drawn + 1 }.goOn w (.unaudited key)) := by
    have drawn := draw_safe safe
    refine within_safe drawn (by rw [show _ = Stage.consumed key from runs]; rfl)
      (by rw [show _ = Stage.consumed key from runs]; rfl) rfl ?_ True.intro
    intro other count drafted
    rw [show _ = Stage.consumed key from runs] at drafted
    exact drafted
  cases outcome with
  | saved => exact grant_safe safe runs
  | failed => exact fails
  | timedOut saved =>
    cases saved with
    | false => exact fails
    | true => exact absurd rfl timely

omit safe

theorem waiverStep_safe (positive : ∀ operationClass, 1 ≤ config.limit operationClass)
    (step : WaiverStep) (safe : WaiversSafe config desk) (timely : Timely step desk) :
    WaiversSafe config (waiverStep config step desk) := by
  cases step with
  | enter w context =>
    simp only [waiverStep]
    split
    · exact enter_safe safe ‹_›
    · exact safe
  | recheck w live =>
    simp only [waiverStep]
    split
    · rename_i context runs
      split
      · refine goOn_safe safe (by rw [runs]; rfl) nofun ?_ True.intro
          (Or.inr (runs_entered safe runs nofun))
        intro key count held
        have none := safe.drafts key w count held
        rw [runs] at none
        exact none.elim
      · apply fail_safe safe
        rw [runs]
        rfl
    · exact safe
  | begin w now =>
    simp only [waiverStep]
    simp only [Timely] at timely
    split
    · rename_i runs
      rw [runs] at timely
      exact beginConsume_safe safe runs timely
    · exact safe
  | prune w =>
    simp only [waiverStep]
    simp only [Timely] at timely
    split
    · rename_i runs
      rw [runs] at timely
      exact prune_safe safe runs timely
    · exact safe
  | count w =>
    simp only [waiverStep]
    split
    · split
      · exact upsertCount_safe positive safe ‹_›
      · exact lockCount_safe safe ‹_›
    · exact insertCount_safe positive safe ‹_›
    · exact updateCount_safe safe ‹_›
    · exact safe
  | commit w fate =>
    simp only [waiverStep]
    simp only [Timely] at timely
    split
    · rename_i key consumed runs
      rw [runs] at timely
      apply commitConsume_safe safe runs
      intro counted
      subst counted
      exact timely
    · rename_i runs
      rw [runs] at timely
      exact commitRestore_safe safe runs timely
    · exact safe
  | audit w outcome =>
    simp only [waiverStep]
    simp only [Timely] at timely
    split
    · rename_i runs
      rw [runs] at timely
      exact recordRequired_safe safe runs timely
    · exact safe
  | restore w =>
    simp only [waiverStep]
    split
    · exact restoreCount_safe safe ‹_›
    · exact safe
  | crash w => exact rollback_safe safe timely

end Safety

variable {config : WaiverConfig}

theorem safe_kept {desk : WaiverDesk} (safe : WaiversSafe config desk) :
    QuotaKept config desk where
  counted := safe.counted
  limited := safe.limited
  unpruned _ _ works := works_unpruned safe works
  audited := safe.audits.audited
  apart := safe.audits.apart

theorem start_safe {desk : WaiverDesk} (start : WaiverStart config desk) :
    WaiversSafe config desk := by
  constructor
  · intro key _
    have nobody : desk.pending key = 0 := by
      rw [pending_eq]
      apply Finset.sum_eq_zero
      intro v _
      rw [start.stages v]
      rfl
    rw [nobody]
    exact start.counts key
  · exact start.limited
  · intro w key works
    rw [start.stages w] at works
    cases works
  · intro key gone
    rw [start.pruned key] at gone
    cases gone
  · intro key w held
    rw [start.drafts key] at held
    cases held
  · intro key w count held
    rw [start.drafts key] at held
    cases held
  · intro w
    rw [start.stages w]
    trivial
  · exact fun w _ => start.stages w
  · constructor
    · rw [start.audits]
    · exact start.apart
    · exact start.drawn

/-- In every run whose steps are timely the quota of every window is that of its waivers. -/
theorem quota_kept (config : WaiverConfig) (desk : WaiverDesk) (steps : List WaiverStep)
    (positive : ∀ operationClass, 1 ≤ config.limit operationClass)
    (start : WaiverStart config desk) (admitted : (timelyWaivers config).admits desk steps) :
    QuotaKept config ((timelyWaivers config).run desk steps) := by
  apply safe_kept
  exact @Protocol.run_keeps _ _ (timelyWaivers config) (WaiversSafe config)
    (fun step _ safe timely => waiverStep_safe positive step safe timely) steps desk
    (start_safe start) admitted

def oneWaiver : WaiverConfig := ⟨1, 1, .upserts⟩

def noWaivers : WaiverDesk where
  usage := ⟨[], fun _ => none, fun _ => none⟩
  audits := []
  stages _ := .idle
  drawn := 0
  waivers := []
  errors := []
  entered := ∅
  pruned _ := false
  horizon := 0

theorem noWaivers_start : WaiverStart oneWaiver noWaivers where
  stages _ := rfl
  drafts _ := rfl
  counts _ := rfl
  limited _ := Nat.zero_le _
  audits := rfl
  apart := List.nodup_nil
  drawn _ none := by cases none
  pruned _ := rfl
  horizon := rfl

def diagnosis : BypassContext := ⟨4, .diagnostic⟩

def consumeBy (w : ProcessId) (now : Nat) : List WaiverStep :=
  [.enter w diagnosis, .recheck w (some diagnosis), .begin w now, .prune w, .count w,
    .commit w .done]

/-- The audit row is committed, but the wait for it has timed out. -/
def lateAudit : List WaiverStep :=
  consumeBy 0 60 ++ [.audit 0 (.timedOut true), .restore 0, .commit 0 .done]

/-- The ledger has a waiver that was not granted. -/
theorem refused_waiver_audited :
    ¬ QuotaKept oneWaiver ((adminWaivers oneWaiver).run noWaivers lateAudit) := by
  have audits : ((adminWaivers oneWaiver).run noWaivers lateAudit).audits = [⟨0, 4, .diagnostic⟩] := by
    decide +kernel
  have waivers : ((adminWaivers oneWaiver).run noWaivers lateAudit).waivers = [] := by
    decide +kernel
  intro kept
  have audited := kept.audited
  rw [audits, waivers] at audited
  exact absurd audited.length_eq (by decide)

/-- One waiver is refused without an audit, and its slot goes to the next call. -/
def refusedThenGranted : List WaiverStep :=
  consumeBy 0 60 ++ [.audit 0 .failed, .restore 0, .commit 0 .done] ++
    consumeBy 1 61 ++ [.audit 1 .saved]

theorem refused_then_granted_kept :
    QuotaKept oneWaiver ((timelyWaivers oneWaiver).run noWaivers refusedThenGranted) := by
  apply quota_kept oneWaiver noWaivers refusedThenGranted _ noWaivers_start
  · refine ⟨trivial, trivial, ?_, ?_, trivial, ?_, ?_, trivial, ?_, trivial, trivial, ?_, ?_,
      trivial, ?_, ?_, trivial⟩
    -- the clocks are close, and every commit is acknowledged
    · exact Nat.zero_le _
    · exact fun _ _ _ => Nat.zero_le _
    · exact nofun
    · exact nofun
    · exact nofun
    · exact Nat.zero_le _
    · exact fun _ _ _ => Nat.zero_le _
    · exact nofun
    · exact nofun
  · intro operationClass
    cases operationClass <;> decide

end HyruleCloud.AdminWaivers
