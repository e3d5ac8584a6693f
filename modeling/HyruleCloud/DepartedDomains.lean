import HyruleCloud.TransferRules

/-!
The status of a domain over whole runs: what is being transferred only departs or expires,
what has been transferred stays so, and a departure after a transfer-out is recorded as that
transfer.
-/

namespace HyruleCloud.Transfers

open Interaction

structure Moves (step : TransferStep) (desk after : TransferDesk) : Prop where
  lasts : Lasts desk.row after.row
  pending : desk.status = some .transferPending → after.status = some .transferPending ∨
    ∃ visit, records step desk = some visit ∧
      ((visit.result.status = .departed ∧ after.status = some .transferred) ∨
        (visit.result.status = .lapsed ∧ after.status = some .expired))
  departed : ∀ visit, records step desk = some visit → visit.late = true →
    visit.result.status = .departed → after.status = some .transferred

/-- The commit of a stage, of which a step may record a reconciliation. -/
structure Commits (stage : Stage) (desk after : TransferDesk) : Prop where
  lasts : Lasts desk.row after.row
  pending : desk.status = some .transferPending → after.status = some .transferPending ∨
    ∃ visit order read, stage = .loaded (.recordReconcile visit order) (some read) ∧
      ((visit.result.status = .departed ∧ after.status = some .transferred) ∨
        (visit.result.status = .lapsed ∧ after.status = some .expired))
  departed : ∀ visit order read, stage = .loaded (.recordReconcile visit order) (some read) →
    visit.late = true → visit.result.status = .departed → after.status = some .transferred

section Steps
variable {config : TransferConfig} {fqdn : Fqdn} {w : ProcessId} {desk after : TransferDesk}
  {stage next : Stage} {step : TransferStep}

theorem still_moves (row : after.row = desk.row) (unrecorded : records step desk = none) :
    Moves step desk after where
  lasts := by
    rw [row]
    exact lasts_refl _
  pending pending := by
    left
    unfold TransferDesk.status
    rw [row]
    exact pending
  departed visit recorded := by
    rw [unrecorded] at recorded
    cases recorded

theorem still_commits (row : after.row = desk.row)
    (other : ∀ visit order read, stage ≠ .loaded (.recordReconcile visit order) (some read)) :
    Commits stage desk after where
  lasts := by
    rw [row]
    exact lasts_refl _
  pending pending := by
    left
    unfold TransferDesk.status
    rw [row]
    exact pending
  departed visit order read is := absurd is (other visit order read)

theorem fresh_commits {fresh : TransferRow} (row : after.row = some fresh)
    (old : ∀ row, desk.row = some row → row.status = .failed)
    (other : ∀ visit order read, stage ≠ .loaded (.recordReconcile visit order) (some read)) :
    Commits stage desk after where
  lasts := by
    intro before found
    refine ⟨fresh, row, fun ended => ?_⟩
    rw [old before found] at ended
    cases ended
  pending pending := by
    obtain ⟨before, found, status⟩ := Option.map_eq_some_iff.mp pending
    rw [old before found] at status
    cases status
  departed visit order read is := absurd is (other visit order read)

theorem stores_commits {session : Session} {read : Option TransferRow}
    (sound : StageSound desk.row (.loaded session read))
    (may : ∀ copy row, read = some copy → desk.row = some row →
      mayStore config desk.now session copy row = true) :
    Commits (.loaded session read) desk (desk.stores config session read) := by
  cases read with
  | none => exact still_commits rfl (by intro _ _ _ is; cases is)
  | some copy =>
    obtain ⟨row, found, stays⟩ := sound.read session copy rfl
    have stored : (desk.stores config session (some copy)).row =
        some (flush copy (copied config desk.now session copy) row) := by
      simp only [TransferDesk.stores, found]
    have status : (desk.stores config session (some copy)).status =
        some (flush copy (copied config desk.now session copy) row).status := by
      simp only [TransferDesk.status, stored, Option.map_some]
    have written := flush_written sound.known stays (may copy row rfl found)
    constructor
    · rw [found, stored]
      intro other is
      cases is
      exact ⟨_, rfl, written.transferred⟩
    · intro pending
      rw [status]
      simp only [TransferDesk.status, found, Option.map_some, Option.some.injEq] at pending
      rcases written.pending pending with stays | ⟨visit, order, is, ends⟩
      · exact Or.inl (congrArg some stays)
      right
      refine ⟨visit, order, copy, by rw [is], ?_⟩
      rcases ends with ⟨told, ended⟩ | ⟨told, ended⟩
      · exact Or.inl ⟨told, congrArg some ended⟩
      · exact Or.inr ⟨told, congrArg some ended⟩
    · intro visit order other is late told
      cases is
      rw [status, written.departed visit order rfl late told]

theorem commits_moves (sound : StageSound desk.row stage)
    (may : ∀ session copy row, stage = .loaded session (some copy) → desk.row = some row →
      mayStore config desk.now session copy row = true) :
    Commits stage desk (desk.commits config stage).1 := by
  cases stage with
  | reserving id order =>
    simp only [TransferDesk.commits]
    split
    · exact still_commits rfl (by intro _ _ _ is; cases is)
    rename_i row found
    split
    · rename_i failed
      apply fresh_commits rfl
      · intro other listed
        rw [found] at listed
        cases listed
        exact failed.2
      · intro _ _ _ is
        cases is
    · exact still_commits rfl (by intro _ _ _ is; cases is)
  | inserting id order =>
    simp only [TransferDesk.commits]
    split
    · rename_i absent
      apply fresh_commits rfl
      · intro other listed
        rw [absent] at listed
        cases listed
      · intro _ _ _ is
        cases is
    · exact still_commits rfl (by intro _ _ _ is; cases is)
  | loaded session read =>
    apply stores_commits sound
    intro copy row is found
    subst is
    exact may session copy row rfl found
  | _ => exact still_commits rfl (by intro _ _ _ is; cases is)

theorem commits_jobs : (desk.commits config stage).1.jobs = desk.jobs := by
  unfold TransferDesk.commits
  repeat' split
  all_goals rfl

theorem commits_next (sound : StageSound desk.row stage)
    (lasts : Lasts desk.row (desk.commits config stage).1.row)
    (goes : (desk.commits config stage).2 = some next) :
    StageSound (desk.commits config stage).1.row next := by
  cases stage with
  | reserving id order =>
    simp only [TransferDesk.commits] at goes
    split at goes
    · cases goes
      exact blank_sound _ _ rfl
    · split at goes
      · cases goes
        exact blank_sound _ _ rfl
      · exact bound_sound goes
  | inserting id order =>
    simp only [TransferDesk.commits] at goes
    split at goes
    · cases goes
      exact blank_sound _ _ rfl
    · cases goes
      exact blank_sound _ _ rfl
  | loaded session read => exact follows_sound sound.known goes
  | _ =>
    cases goes
    exact sound.lasts lasts

variable (sound : Sound desk)
include sound

theorem applied_kept (here : desk.jobs w = some stage)
    (recorded : records step desk = stage.recorded)
    (may : ∀ session copy row, stage = .loaded session (some copy) → desk.row = some row →
      mayStore config desk.now session copy row = true)
    {later : Option Stage} (goes : later = (desk.commits config stage).2 ∨ later = none) :
    Sound ((desk.commits config stage).1.goOn w later) ∧
      Moves step desk ((desk.commits config stage).1.goOn w later) := by
  have moves := commits_moves (sound w stage here) may
  constructor
  · apply (sound.lasts commits_jobs moves.lasts).goOn
    intro next is
    rcases goes with goes | ends
    · exact commits_next (sound w stage here) moves.lasts (goes.symm.trans is)
    · rw [ends] at is
      cases is
  · constructor
    · exact moves.lasts
    · intro pending
      rcases moves.pending pending with stays | ⟨visit, order, copy, is, ends⟩
      · exact Or.inl stays
      · subst is
        exact Or.inr ⟨visit, recorded, ends⟩
    · intro visit told late departed
      rw [recorded] at told
      unfold Stage.recorded at told
      split at told
      · cases told
        exact moves.departed _ _ _ rfl late departed
      · cases told

theorem commit_kept (fate : Fate)
    (may : mayStep config (.commit w fate) desk = true) :
    Sound (desk.commit config w fate) ∧ Moves (.commit w fate) desk (desk.commit config w fate) := by
  unfold TransferDesk.commit
  split
  · rename_i absent
    refine ⟨sound, still_moves rfl ?_⟩
    cases fate with
    | failed => rfl
    | _ => simp only [records, absent, Option.bind_none]
  · rename_i stage here
    have store (applied : mayStep config (.commit w .done) desk = true) (session : Session)
        (copy row : TransferRow) (is : stage = .loaded session (some copy))
        (found : desk.row = some row) : mayStore config desk.now session copy row = true := by
      simp only [mayStep, here, is, found] at applied
      exact applied
    cases fate with
    | failed =>
      constructor
      · apply sound.goOn
        intro next is
        cases is
      · exact still_moves rfl rfl
    | done =>
      apply applied_kept sound here _ (store may) (Or.inl rfl)
      simp only [records, here, Option.bind_some]
    | lost =>
      apply applied_kept sound here _ (store may) (Or.inr rfl)
      simp only [records, here, Option.bind_some]

theorem begins_kept (beginning : Beginning) :
    Sound (desk.begins w beginning) ∧ (desk.begins w beginning).row = desk.row := by
  have blank {stage : Stage} (blank : stage.isBlank = true) :
      ∀ next, some stage = some next → StageSound desk.row next := by
    intro next is
    cases is
    exact blank_sound _ _ blank
  cases beginning with
  | transferOut operation =>
    simp only [TransferDesk.begins, TransferDesk.beginTransferOut]
    split
    · split
      · exact ⟨sound, rfl⟩
      refine ⟨Sound.goOn sound ?_, rfl⟩
      intro next is
      split at is
      · cases is
      · exact blank rfl next is
    · exact ⟨sound, rfl⟩
  | reconcile | fail | refresh => exact ⟨sound.goOn (blank rfl), rfl⟩
  | fulfil id quoted =>
    simp only [TransferDesk.begins, TransferDesk.beginFulfilment]
    split
    · exact ⟨sound, rfl⟩
    rename_i order found
    split
    · exact ⟨sound, rfl⟩
    · exact ⟨sound, rfl⟩
    · exact ⟨sound, rfl⟩
    · exact ⟨sound.goOn (blank rfl), rfl⟩
    · refine ⟨Sound.goOn sound ?_, rfl⟩
      cases order.action with
      | renew | register => exact blank rfl

omit sound

theorem managed_settled (other : DomainRow) (row : TransferRow) :
    Settled row (managedRow other row) := settled_same rfl rfl

include sound

theorem manage_kept (other : DomainRow) :
    Sound (transferStep config fqdn (.manage other) desk) ∧
      Moves (.manage other) desk (transferStep config fqdn (.manage other) desk) := by
  cases found : desk.row with
  | none =>
    have same : (transferStep config fqdn (.manage other) desk).row = desk.row := by
      simp [transferStep, found]
    have jobs : (transferStep config fqdn (.manage other) desk).jobs = desk.jobs := rfl
    constructor
    · apply sound.lasts jobs
      rw [same]
      exact lasts_refl _
    · exact still_moves same rfl
  | some row =>
    have written : (transferStep config fqdn (.manage other) desk).row =
        some (managedRow other row) := by simp [transferStep, found]
    have lasts : Lasts desk.row (transferStep config fqdn (.manage other) desk).row := by
      rw [found, written]
      exact settled_lasts (managed_settled other row)
    constructor
    · exact sound.lasts rfl lasts
    · constructor
      · exact lasts
      · intro pending
        left
        simp only [TransferDesk.status, found, written, Option.map_some,
          Option.some.injEq] at pending ⊢
        exact pending
      · intro visit recorded
        cases recorded

theorem step_kept (may : mayStep config step desk = true) :
    Sound (transferStep config fqdn step desk) ∧
      Moves step desk (transferStep config fqdn step desk) := by
  cases step with
  | elapse | order => exact ⟨sound, still_moves rfl rfl⟩
  | enqueueTransferOut operation owner =>
    simp only [transferStep]
    split
    · exact ⟨sound, still_moves rfl rfl⟩
    · exact ⟨sound, still_moves rfl rfl⟩
  | manage other => exact manage_kept sound other
  | begin_ beginning w =>
    simp only [transferStep]
    split
    · exact ⟨sound, still_moves rfl rfl⟩
    · obtain ⟨kept, same⟩ := begins_kept (w := w) sound beginning
      exact ⟨kept, still_moves same rfl⟩
  | look w =>
    simp only [transferStep]
    split
    · exact ⟨sound, still_moves rfl rfl⟩
    · rename_i stage here
      exact ⟨sound.goOn fun next goes => looks_sound (sound w stage here) goes,
        still_moves rfl rfl⟩
  | answer w answer =>
    simp only [transferStep]
    split
    · exact ⟨sound, still_moves rfl rfl⟩
    · rename_i stage answer here
      refine ⟨sound.goOn fun next goes => ?_, still_moves rfl rfl⟩
      apply answered_sound (sound w stage here) _ goes
      intro domain is late departs
      subst is
      simp only [mayStep, here, late, departs] at may
      simpa using may
    · exact ⟨sound.goOn fun next goes => raised_sound goes, still_moves rfl rfl⟩
  | commit w fate => exact commit_kept sound fate may
  | stop w =>
    refine ⟨sound.goOn fun next goes => ?_, still_moves rfl rfl⟩
    cases goes

omit sound

end Steps

section Runs
variable {config : TransferConfig} {fqdn : Fqdn} {desk : TransferDesk} {steps : List TransferStep}

theorem quiet_sound (quiet : Quiet desk) : Sound desk := by
  intro w stage here
  rw [quiet w] at here
  cases here

section
variable (sound : Sound desk) (admitted : (transfers config fqdn).admits desk steps)
include sound admitted

theorem run_sound : Sound ((transfers config fqdn).run desk steps) := by
  apply (transfers config fqdn).run_keeps _ steps desk sound admitted
  intro step desk sound may
  exact (step_kept sound may).1

theorem run_lasts : Lasts desk.row ((transfers config fqdn).run desk steps).row := by
  let relates : TransferDesk → TransferDesk → Prop := fun a b => Lasts a.row b.row
  have trans (a b c : TransferDesk) (first : relates a b) (second : relates b c) :
      relates a c := lasts_trans first second
  have kept (step : TransferStep) (desk : TransferDesk) (sound : Sound desk)
      (may : (transfers config fqdn).may step desk) :
      Sound ((transfers config fqdn).step step desk) ∧
        relates desk ((transfers config fqdn).step step desk) := by
    have both : Sound (transferStep config fqdn step desk) ∧
        Moves step desk (transferStep config fqdn step desk) := step_kept sound may
    exact ⟨both.1, both.2.lasts⟩
  exact (transfers config fqdn).run_related (fun _ => lasts_refl _) trans kept steps desk sound
    admitted

theorem step_moves
    {done rest : List TransferStep} {step : TransferStep} (split : steps = done ++ step :: rest) :
    Moves step ((transfers config fqdn).run desk done)
      ((transfers config fqdn).run desk (done ++ [step])) := by
  rw [split, Protocol.admits_append] at admitted
  obtain ⟨before, may, _⟩ := admitted
  rw [Protocol.run_append]
  exact (step_kept (run_sound sound before) may).2

end

end Runs

/-! A renewal, a transfer-out and reconciliations of one domain. -/

def exampleConfig : TransferConfig where
  markupPercent := 0
  markupMinUsd := 0
  jobLockTimeout := 300
  providerReconcileDelay := 60
  renewalWindow := 30
  renewalDue := 7

def renewal (status : OrderStatus) : DomainOrderRow where
  quoteId := 0
  fqdn := 0
  action := .renew
  ownerAccountId := some 5
  status := status
  amountUsd := 20
  domainAmountUsd := 20

def exampleDesk : TransferDesk where
  row := some
    { ownerAccountId := some 5
      status := .active
      clientOrderId := some 0
      openproviderId := some 77
      providerOperationId := some 0
      expiresAt := some 1000 }
  orders := (Table.put (fun _ => none) 1 (renewal .queued)).put 2 (renewal .providerPending)
  listed := [2, 1]
  operations := fun _ => none
  now := 0
  transferredOut := false
  jobs := fun _ => none

def transferOut : List TransferStep :=
  [.enqueueTransferOut 9 (some 5), .begin_ (.transferOut 9) 1, .answer 1 (.ok {}), .look 1,
    .commit 1 .done]

def renews : List TransferStep :=
  [.begin_ (.fulfil 1 true) 0, .look 0, .look 0,
    .answer 0 (.ok { price := (some 10, some 0), result := { expiresAt := some 1000 } }),
    .look 0, .commit 0 .done]

def renewed : List TransferStep :=
  [.answer 0 (.ok { result := { status := .active, expiresAt := some 2000 } }), .look 0]

def leaves : List TransferStep :=
  [.begin_ .reconcile 2, .look 2, .answer 2 (.ok { result := { status := .departed } }),
    .look 2, .look 2]

end HyruleCloud.Transfers
