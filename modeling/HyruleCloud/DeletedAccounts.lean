import HyruleCloud.AccountDeletion

/-!
What a deleted account leaves. Its commit finds every VM that it owns destroyed, or detaches
it; afterwards nobody can give it a VM. A VM that an account has owned is destroyed, has an
owner, or has the token that stands in the response of a deletion.
-/

namespace HyruleCloud.AccountDeletion

open Interaction DeletionDesk Function

def Handed (desk : DeletionDesk) (vm : VmId) (token : Option Token) : Prop :=
  ∃ account response fresh, desk.deleted account = some response ∧
    (vm, fresh) ∈ response.detachedVms ∧ token = some fresh

structure DeletionSafe (desk : DeletionDesk) : Prop where
  listed : ∀ vm row, desk.vms vm = some row → vm ∈ desk.vmIds
  owners : ∀ vm row account, desk.vms vm = some row → row.ownerAccountId = some account →
    desk.accounts account ≠ none
  gone : ∀ account response, desk.deleted account = some response → desk.accounts account = none
  answering : ∀ w account, desk.works w = some (.answering account) →
    desk.deleted account ≠ none

def KeepsResponses (before after : DeletionDesk) : Prop :=
  ∀ account response, before.deleted account = some response →
    ∃ later, after.deleted account = some later ∧ later.detachedVms = response.detachedVms

def Held (desk : DeletionDesk) (vm : VmId) (row : VMRow) : Prop :=
  row.status = .destroyed ∨ row.ownerAccountId ≠ none ∨ Handed desk vm row.anonManagementToken

structure VmKept (before after : DeletionDesk) (vm : VmId) (row row' : VMRow) : Prop where
  destroyed : row.status = .destroyed → row'.status = .destroyed
  held : Held before vm row → Held after vm row'

def VmsKept (before after : DeletionDesk) : Prop :=
  ∀ vm row, before.vms vm = some row →
    ∃ row', after.vms vm = some row' ∧ VmKept before after vm row row'

variable {work : Option Deletion} {v : ProcessId} {owned : List VmId} {step : DeletionStep}

variable {response : AccountDeleteResponse}

section Steps
variable {desk : DeletionDesk} {w : ProcessId} {vm : VmId} {account : AccountId}

section
variable {after : DeletionDesk}
variable (keeps : KeepsResponses desk after)
include keeps

theorem handed_later {token : Option Token}
    (handed : Handed desk vm token) :
    Handed after vm token := by
  obtain ⟨account, response, fresh, stood, among, same⟩ := handed
  obtain ⟨later, stands, vms⟩ := keeps account response stood
  exact ⟨account, later, fresh, stands, vms ▸ among, same⟩

omit keeps in
theorem keeps_deleted (same : after.deleted = desk.deleted) :
    KeepsResponses desk after :=
  fun _ response stood => ⟨response, same ▸ stood, rfl⟩

theorem vmKept_same (row : VMRow) :
    VmKept desk after vm row row :=
  ⟨id, Or.imp_right (Or.imp_right (handed_later keeps))⟩

theorem vmsKept_same (same : after.vms = desk.vms) : VmsKept desk after := by
  intro vm row found
  exact ⟨row, by rw [same]; exact found, vmKept_same keeps row⟩

end

structure Kept (before after : DeletionDesk) : Prop where
  safe : DeletionSafe after
  responses : KeepsResponses before after
  vms : VmsKept before after

theorem kept_refl (safe : DeletionSafe desk) : Kept desk desk :=
  ⟨safe, keeps_deleted rfl, vmsKept_same (keeps_deleted rfl) rfl⟩

theorem goOn_own : (goOn w work desk).works w = work :=
  update_self ..

theorem goOn_other (other : v ≠ w) : (goOn w work desk).works v = desk.works v :=
  update_of_ne other ..

variable (safe : DeletionSafe desk)
include safe

theorem kept_works (guards : AccountId → Option ProcessId)
    (answering : ∀ account, work = some (.answering account) → desk.deleted account ≠ none) :
    Kept desk (goOn w work { desk with guards := guards }) := by
  refine ⟨{ safe with answering := ?_ }, (keeps_deleted rfl), vmsKept_same (keeps_deleted rfl) rfl⟩
  intro v account found
  by_cases mine : v = w
  · subst mine
    rw [goOn_own] at found
    exact answering account found
  · rw [goOn_other mine] at found
    exact safe.answering v account found

theorem kept_leave : Kept desk (leave w desk) :=
  kept_works safe _ nofun

theorem kept_write {change : VMRow → VMRow}
    (owners : ∀ row, desk.vms vm = some row → (change row).ownerAccountId = row.ownerAccountId ∨
      ∃ account, (change row).ownerAccountId = some account ∧ desk.accounts account ≠ none)
    (destroyed : ∀ row, desk.vms vm = some row → row.status = .destroyed →
      (change row).status = .destroyed)
    (tokens : ∀ row, desk.vms vm = some row → (change row).ownerAccountId = none →
      (change row).anonManagementToken = row.anonManagementToken) :
    Kept desk (writeVm vm change desk) := by
  have written (id : VmId) : (writeVm vm change desk).vms id =
      if id = vm then (desk.vms id).map change else desk.vms id := rfl
  have keeps : KeepsResponses desk (writeVm vm change desk) := keeps_deleted rfl
  refine ⟨⟨?_, ?_, safe.gone, safe.answering⟩, keeps, ?_⟩
  · intro id row found
    rw [written] at found
    split at found
    · obtain ⟨before, stood, _⟩ := Option.map_eq_some_iff.mp found
      exact safe.listed id before stood
    · exact safe.listed id row found
  · intro id row account found owner
    rw [written] at found
    split at found
    · rename_i same
      subst same
      obtain ⟨before, stood, rfl⟩ := Option.map_eq_some_iff.mp found
      rcases owners before stood with stays | ⟨other, given, stands⟩
      · exact safe.owners id before account stood (stays ▸ owner)
      · rw [given] at owner
        cases owner
        exact stands
    · exact safe.owners id row account found owner
  · intro id row found
    by_cases same : id = vm
    · subst same
      refine ⟨change row, by rw [written, if_pos rfl, found, Option.map_some], ?_⟩
      refine ⟨destroyed row found, ?_⟩
      rintro (gone | owned | handed)
      · exact Or.inl (destroyed row found gone)
      · rcases owners row found with stays | ⟨other, given, _⟩
        · exact Or.inr (Or.inl (by rw [stays]; exact owned))
        · exact Or.inr (Or.inl (by rw [given]; nofun))
      · by_cases free : (change row).ownerAccountId = none
        · exact Or.inr (Or.inr (by rw [tokens row found free]; exact handed))
        · exact Or.inr (Or.inl free)
    · exact ⟨row, by rw [written, if_neg same]; exact found, vmKept_same keeps row⟩

omit safe

theorem enabled_exists (enabled : desk.enabled (some account) = true) :
    desk.accounts account ≠ none := by
  intro missing
  simp [DeletionDesk.enabled, missing] at enabled

section
variable (safe : DeletionSafe desk)
include safe

theorem activate_kept (owner : Option AccountId) :
    Kept desk (desk.activate vm owner) := by
  unfold activate
  split
  · exact kept_refl safe
  rename_i row found
  split
  · rename_i admitted
    rw [Bool.and_eq_true] at admitted
    apply kept_write safe
    · intro row' found'
      rw [found] at found'
      cases found'
      cases has : row.ownerAccountId with
      | some account => exact Or.inl rfl
      | none => cases given : owner with
        | none => exact Or.inl rfl
        | some account =>
          rw [given] at admitted
          exact Or.inr ⟨account, rfl, enabled_exists admitted.2⟩
    · exact fun _ _ destroyed => destroyed
    · exact fun _ _ _ => rfl
  · exact kept_refl safe

theorem claim_kept (account : AccountId) (proof : ClaimProof) :
    Kept desk (desk.claim vm account proof) := by
  unfold claim
  split
  · exact kept_refl safe
  split
  · exact kept_refl safe
  rename_i accepted
  have enabled : desk.enabled (some account) = true := by
    by_contra refused
    simp [refused] at accepted
  apply kept_write safe
  · exact fun _ _ => Or.inr ⟨account, rfl, enabled_exists enabled⟩
  · exact fun _ _ destroyed => destroyed
  · exact fun _ _ free => nomatch free

theorem transfer_kept (target : AccountId) (blocked : Bool) :
    Kept desk (desk.transfer vm target blocked) := by
  unfold transfer
  split
  · exact kept_refl safe
  split
  · exact kept_refl safe
  rename_i accepted
  split
  · exact kept_refl safe
  have enabled : desk.enabled (some target) = true := by
    by_contra refused
    simp [refused] at accepted
  apply kept_write safe
  · exact fun _ _ => Or.inr ⟨target, rfl, enabled_exists enabled⟩
  · exact fun _ _ destroyed => destroyed
  · exact fun _ _ free => nomatch free

theorem writeColumns_kept (change : VMRow → VMRow) :
    Kept desk (desk.writeColumns vm change) := by
  apply kept_write safe
  · exact fun _ _ => Or.inl rfl
  · exact fun _ _ destroyed => if_pos destroyed
  · exact fun _ _ _ => rfl

theorem insertVm_kept (owner : Option AccountId) (token : Token) :
    Kept desk (desk.insertVm vm owner token) := by
  unfold insertVm
  split
  · exact kept_refl safe
  rename_i absent
  split
  · rename_i admitted
    have keeps : KeepsResponses desk { desk with
        vms := desk.vms.put vm { ownerAccountId := owner, anonManagementToken := some token }
        vmIds := vm :: desk.vmIds } := keeps_deleted rfl
    refine ⟨⟨?_, ?_, safe.gone, safe.answering⟩, keeps, ?_⟩
    · intro id row found
      by_cases same : id = vm
      · exact same ▸ List.mem_cons_self
      · simp only [put_other _ _ same] at found
        exact List.mem_cons_of_mem _ (safe.listed id row found)
    · intro id row account found has
      rcases update_cases found with ⟨rfl, ⟨⟩⟩ | ⟨_, found⟩
      · have given : owner = some account := has
        subst given
        exact enabled_exists admitted
      · exact safe.owners id row account found has
    · intro id row found
      have same : id ≠ vm := keys_apart found absent nofun
      exact ⟨row, (put_other _ _ same).trans found, vmKept_same keeps row⟩
  · exact kept_refl safe

theorem accounts_kept {accounts : Table AccountId AccountRow}
    (same : ∀ account, accounts account = none ↔ desk.accounts account = none) :
    Kept desk { desk with accounts := accounts } :=
  ⟨⟨safe.listed, fun vm row account found has gone =>
      safe.owners vm row account found has ((same account).mp gone),
    fun account response stood => (same account).mpr (safe.gone account response stood),
    safe.answering⟩, (keeps_deleted rfl), vmsKept_same (keeps_deleted rfl) rfl⟩

theorem changeAccount_kept (change : AccountRow → AccountRow) :
    Kept desk (desk.changeAccount account change) := by
  apply accounts_kept safe
  intro other
  split
  · exact Option.map_eq_none_iff
  · exact Iff.rfl

theorem disable_kept : Kept desk (desk.disable account) := by
  unfold disable
  split
  · exact kept_refl safe
  rename_i acct stands
  have exists_ (other : AccountId) (gone : desk.accounts.put account { acct with disabled := true }
      other = none) : desk.accounts other = none := by
    by_cases same : other = account
    · subst same
      rw [put_same] at gone
      cases gone
    · rw [put_other _ _ same] at gone
      exact gone
  have owner (row : VMRow) : (if row.ownerAccountId = some account
      then { row with anonManagementToken := none } else row).ownerAccountId =
        row.ownerAccountId := by
    split
    · rfl
    · rfl
  let after : DeletionDesk := { desk with
    accounts := desk.accounts.put account { acct with disabled := true }
    vms := fun id => (desk.vms id).map fun row =>
      if row.ownerAccountId = some account then { row with anonManagementToken := none } else row }
  have keeps : KeepsResponses desk after := keeps_deleted rfl
  refine ⟨⟨?_, ?_, ?_, safe.answering⟩, keeps, ?_⟩
  · intro id row found
    obtain ⟨before, stood, _⟩ := Option.map_eq_some_iff.mp found
    exact safe.listed id before stood
  · intro id row other found has gone
    obtain ⟨before, stood, rfl⟩ := Option.map_eq_some_iff.mp found
    rw [owner] at has
    exact safe.owners id before other stood has (exists_ other gone)
  · intro other response stood
    have gone := safe.gone other response stood
    have apart : other ≠ account := keys_apart gone stands nofun
    exact (put_other _ _ apart).trans gone
  · intro id row found
    refine ⟨_, Option.map_eq_some_iff.mpr ⟨row, found, rfl⟩, ?_⟩
    by_cases mine : row.ownerAccountId = some account
    · rw [if_pos mine]
      refine ⟨fun destroyed => destroyed, ?_⟩
      rintro (gone | _)
      · exact Or.inl gone
      · exact Or.inr (Or.inl (by rw [mine]; nofun))
    · rw [if_neg mine]
      exact vmKept_same keeps row

theorem markResponse_kept (fate : Fate) :
    Kept desk (desk.markResponse account fate) := by
  unfold markResponse
  split
  · exact kept_refl safe
  rename_i response stood
  have responses : KeepsResponses desk
      { desk with deleted := desk.deleted.put account { response with fate := fate } } :=
    fun other before => put_relates (R := fun row later => later.detachedVms = row.detachedVms)
      stood (fun _ => rfl) rfl
  refine ⟨⟨safe.listed, safe.owners, ?_, ?_⟩, responses, vmsKept_same responses rfl⟩
  · intro other later listed
    by_cases same : other = account
    · exact same ▸ safe.gone account response stood
    · exact safe.gone other later ((put_other _ _ same).symm.trans listed)
  · intro v other found gone
    obtain ⟨before, listed⟩ := Option.ne_none_iff_exists'.mp (safe.answering v other found)
    obtain ⟨later, stands, _⟩ := responses other before listed
    rw [stands] at gone
    cases gone

end

theorem kept_trans {middle after : DeletionDesk} (first : Kept desk middle)
    (second : Kept middle after) : Kept desk after := by
  refine ⟨second.safe, ?_, ?_⟩
  · intro account response stood
    obtain ⟨later, stands, vms⟩ := first.responses account response stood
    obtain ⟨last, ends, same⟩ := second.responses account later stands
    exact ⟨last, ends, same.trans vms⟩
  · intro vm row found
    obtain ⟨row', found', kept⟩ := first.vms vm row found
    obtain ⟨row'', found'', kept'⟩ := second.vms vm row' found'
    exact ⟨row'', found'', fun gone => kept'.destroyed (kept.destroyed gone),
      fun held => kept'.held (kept.held held)⟩

theorem snapshot_owned (taken : desk.accountDeletionSnapshot account = .ok owned) :
    owned = desk.vmIds.filter (desk.isOwned account) := by
  unfold accountDeletionSnapshot at taken
  split at taken
  · cases taken
  split at taken
  · cases taken
  split at taken
  · cases taken
  split at taken
  · cases taken
  split at taken
  · cases taken
  · cases taken
    rfl

theorem snapshot_complete (safe : DeletionSafe desk)
    (taken : desk.accountDeletionSnapshot account = .ok owned) {row : VMRow}
    (found : desk.vms vm = some row) (owner : row.ownerAccountId = some account) :
    row.status = .destroyed ∨ vm ∈ owned := by
  rw [snapshot_owned taken]
  by_cases gone : row.status = .destroyed
  · exact Or.inl gone
  · refine Or.inr (List.mem_filter.mpr ⟨safe.listed vm row found, ?_⟩)
    simp [isOwned, found, owner, gone]

theorem deleteAccount_vms {row' : VMRow}
    (found : (deleteAccount account response desk).vms vm = some row') :
    ∃ row, desk.vms vm = some row ∧ row'.ownerAccountId ≠ some account ∧
      (row'.ownerAccountId = none ∨ row'.ownerAccountId = row.ownerAccountId) ∧
      row'.status = row.status ∧ row'.anonManagementToken = row.anonManagementToken := by
  obtain ⟨row, stood, changed⟩ := Option.map_eq_some_iff.mp found
  refine ⟨row, stood, ?_⟩
  split at changed
  · subst changed
    exact ⟨nofun, Or.inl rfl, rfl, rfl⟩
  · rename_i apart
    subst changed
    exact ⟨apart, Or.inr rfl, rfl, rfl⟩

theorem undeleted (safe : DeletionSafe desk) (stands : desk.accounts account ≠ none) :
    desk.deleted account = none := by
  cases stood : desk.deleted account with
  | none => rfl
  | some before => exact absurd (safe.gone account before stood) stands

theorem deleteAccount_responses (response : AccountDeleteResponse)
    (first : desk.deleted account = none) :
    KeepsResponses desk (deleteAccount account response desk) := by
  intro other before listed
  have apart : other ≠ account := keys_apart listed first nofun
  exact ⟨before, (put_other _ _ apart).trans listed, rfl⟩

include safe

theorem deleteAccount_safe (first : desk.deleted account = none) :
    DeletionSafe (deleteAccount account response desk) := by
  constructor
  · intro id row' found
    obtain ⟨row, stood, _⟩ := deleteAccount_vms found
    exact safe.listed id row stood
  · intro id row' other found has gone
    obtain ⟨row, stood, apart, owner, _⟩ := deleteAccount_vms found
    have different : other ≠ account := by
      rintro rfl
      exact apart has
    rcases owner with none | same
    · rw [none] at has
      cases has
    · rw [same] at has
      exact safe.owners id row other stood has ((erase_other _ different).symm.trans gone)
  · intro other later listed
    by_cases same : other = account
    · subst same
      exact erase_same _ _
    · have stood := (put_other _ _ same).symm.trans listed
      exact (erase_other _ same).trans (safe.gone other later stood)
  · intro v other found gone
    obtain ⟨before, listed⟩ := Option.ne_none_iff_exists'.mp (safe.answering v other found)
    obtain ⟨later, stands, _⟩ := deleteAccount_responses response first other before listed
    rw [stands] at gone
    cases gone

theorem emptied_kept (response : AccountDeleteResponse)
    (stands : desk.accounts account ≠ none)
    (empty : desk.accountDeletionSnapshot account = .ok []) :
    Kept desk (deleteAccount account response desk) := by
  have first := undeleted safe stands
  have responses := deleteAccount_responses response first
  refine ⟨deleteAccount_safe safe first, responses, ?_⟩
  intro id row found
  refine ⟨_, Option.map_eq_some_iff.mpr ⟨row, found, rfl⟩, ?_⟩
  by_cases mine : row.ownerAccountId = some account
  · rw [if_pos mine]
    have gone : row.status = .destroyed := by
      rcases snapshot_complete safe empty found mine with destroyed | listed
      · exact destroyed
      · cases listed
    exact ⟨fun destroyed => destroyed, fun _ => Or.inl gone⟩
  · rw [if_neg mine]
    exact vmKept_same responses row

omit safe

theorem detached_vm {fresh : VmId → Token} (response : AccountDeleteResponse) {row : VMRow}
    (found : desk.vms vm = some row) :
    (deleteAccount account response (detachVms owned fresh desk)).vms vm =
      some (if vm ∈ owned then
          { row with ownerAccountId := none, anonManagementToken := some (fresh vm) }
        else if row.ownerAccountId = some account then { row with ownerAccountId := none }
        else row) := by
  simp only [deleteAccount, detachVms]
  by_cases listed : vm ∈ owned
  · rw [if_pos listed, if_pos listed, found]
    rfl
  · rw [if_neg listed, if_neg listed, found]
    rfl

include safe

theorem detachVms_safe (owned : List VmId) (fresh : VmId → Token) :
    DeletionSafe (detachVms owned fresh desk) := by
  have written (id : VmId) : (detachVms owned fresh desk).vms id =
      if id ∈ owned then (desk.vms id).map fun row => { row with
        ownerAccountId := none
        anonManagementToken := some (fresh id) }
      else desk.vms id := rfl
  refine ⟨?_, ?_, safe.gone, safe.answering⟩
  · intro id row found
    rw [written] at found
    split at found
    · obtain ⟨before, stood, _⟩ := Option.map_eq_some_iff.mp found
      exact safe.listed id before stood
    · exact safe.listed id row found
  · intro id row account found owner
    rw [written] at found
    split at found
    · obtain ⟨before, stood, rfl⟩ := Option.map_eq_some_iff.mp found
      cases owner
    · exact safe.owners id row account found owner

theorem detached_kept (fresh : VmId → Token)
    (stands : desk.accounts account ≠ none)
    (taken : desk.accountDeletionSnapshot account = .ok owned) :
    Kept desk (deleteAccount account
      ⟨.detach, owned.map fun vm => (vm, fresh vm), .pending⟩ (detachVms owned fresh desk)) := by
  have first := undeleted safe stands
  have safe' := detachVms_safe safe owned fresh
  have responses : KeepsResponses desk (deleteAccount account
      ⟨.detach, owned.map fun vm => (vm, fresh vm), .pending⟩ (detachVms owned fresh desk)) :=
    deleteAccount_responses _ first
  refine ⟨deleteAccount_safe safe' first, responses, ?_⟩
  intro id row found
  refine ⟨_, detached_vm _ found, ?_⟩
  by_cases listed : id ∈ owned
  · rw [if_pos listed]
    refine ⟨fun destroyed => destroyed, fun _ => Or.inr (Or.inr ?_)⟩
    exact ⟨account, _, fresh id, put_same _ _ _, List.mem_map.mpr ⟨id, listed, rfl⟩, rfl⟩
  · rw [if_neg listed]
    by_cases mine : row.ownerAccountId = some account
    · rw [if_pos mine]
      have gone : row.status = .destroyed := by
        rcases snapshot_complete safe taken found mine with destroyed | named
        · exact destroyed
        · exact absurd named listed
      exact ⟨fun destroyed => destroyed, fun _ => Or.inl gone⟩
    · rw [if_neg mine]
      exact vmKept_same responses row

omit safe

theorem snapshot_stands (taken : desk.accountDeletionSnapshot account = .ok owned) :
    desk.accounts account ≠ none := by
  intro missing
  simp [accountDeletionSnapshot, missing] at taken

section
variable (safe : DeletionSafe desk)
include safe

theorem kept_goOn
    (answering : ∀ account, work = some (.answering account) → desk.deleted account ≠ none) :
    Kept desk (goOn w work desk) := kept_works safe desk.guards answering

theorem snapshot_kept (fresh : VmId → Token) :
    Kept desk (desk.snapshot w fresh) := by
  unfold snapshot
  split
  · rename_i account policy found
    split
    · exact kept_leave safe
    rename_i owned taken
    split
    · split
      · exact kept_leave safe
      have detached := detached_kept safe fresh (snapshot_stands taken) taken
      apply kept_trans detached (kept_goOn detached.safe ?_)
      rintro other ⟨⟩
      rw [show (deleteAccount account _ (detachVms owned fresh desk)).deleted account = some _
        from put_same _ _ _]
      nofun
    · exact kept_goOn safe nofun
  · exact kept_refl safe

theorem destroyTarget_kept (outcome : DestroyOutcome) :
    Kept desk (desk.destroyTarget w outcome) := by
  unfold destroyTarget
  split
  · rename_i account vm targets found
    split
    · exact kept_leave safe
    · exact kept_goOn safe nofun
    · have destroyed : Kept desk (writeVm vm (fun row =>
          if row.ownerAccountId = some account then
            { row with status := .destroyed, deletionStarted := true }
          else row) desk) := by
        apply kept_write safe
        · intro row _
          split
          · exact Or.inl rfl
          · exact Or.inl rfl
        · intro row _ gone
          split
          · rfl
          · exact gone
        · intro row _ _
          split
          · rfl
          · rfl
      exact kept_trans destroyed (kept_goOn destroyed.safe nofun)
  · exact kept_refl safe

theorem finish_kept : Kept desk (desk.finish w) := by
  unfold finish
  split
  · rename_i account found
    split
    · rename_i taken
      have emptied := emptied_kept safe ⟨.destroy, [], .pending⟩ (snapshot_stands taken) taken
      apply kept_trans emptied (kept_goOn emptied.safe ?_)
      rintro other ⟨⟩
      rw [show (deleteAccount account _ desk).deleted account = some _ from put_same _ _ _]
      nofun
    · exact kept_leave safe
  · exact kept_refl safe

theorem marked_kept (fate : Fate) :
    Kept desk (leave w (markResponse account fate desk)) :=
  kept_trans (markResponse_kept safe fate) (kept_leave (markResponse_kept safe fate).safe)

theorem deletionStep_kept (step : DeletionStep) :
    Kept desk (deletionStep step desk) := by
  cases step with
  | enter w account policy =>
    dsimp only [deletionStep, enter]
    split
    · split
      · exact kept_refl safe
      · exact kept_works safe _ nofun
    · exact kept_refl safe
  | snapshot w fresh => exact snapshot_kept safe fresh
  | destroyTarget w outcome => exact destroyTarget_kept safe outcome
  | finish w => exact finish_kept safe
  | answer w =>
    dsimp only [deletionStep, answer]
    split
    · exact marked_kept safe .returned
    · exact kept_refl safe
  | crash w =>
    dsimp only [deletionStep, crash]
    split
    · exact kept_refl safe
    · exact marked_kept safe .lost
    · exact kept_leave safe
  | insert vm owner token => exact insertVm_kept safe owner token
  | activate vm owner => exact activate_kept safe owner
  | claim vm account proof => exact claim_kept safe account proof
  | transfer vm target blocked => exact transfer_kept safe target blocked
  | disable account => exact disable_kept safe
  | enable | setAdmin => exact changeAccount_kept safe _
  | columns vm change => exact writeColumns_kept safe change
  | records account domains resuming =>
    exact ⟨{ safe with }, keeps_deleted rfl,
      vmsKept_same (keeps_deleted rfl) rfl⟩

theorem run_kept (steps : List DeletionStep) :
    Kept desk (deletions.run desk steps) := by
  induction steps generalizing desk with
  | nil => exact kept_refl safe
  | cons step rest ih =>
    have kept := deletionStep_kept safe step
    exact kept_trans kept (ih kept.safe)

end

theorem start_safe (start : DeletionStart desk) : DeletionSafe desk := by
  refine ⟨start.listed, start.owners, ?_, ?_⟩
  · intro account response stood
    rw [start.deleted] at stood
    cases stood
  · intro w account found
    rw [start.works] at found
    cases found

def DeletionStep.byDeletion : DeletionStep → Bool
  | .enter _ _ _ | .snapshot _ _ | .destroyTarget _ _ | .finish _ | .answer _ | .crash _ => true
  | _ => false

def ownersOf (desk : DeletionDesk) (vm : VmId) : Option (Option AccountId) :=
  (desk.vms vm).map VMRow.ownerAccountId

def LeavesVm (response : AccountDeleteResponse) (after : DeletionDesk) (vm : VmId) : Prop :=
  ∃ row, after.vms vm = some row ∧ row.ownerAccountId = none ∧ (row.status = .destroyed ∨
    ∃ fresh, (vm, fresh) ∈ response.detachedVms ∧ row.anonManagementToken = some fresh)

structure StepKept (step : DeletionStep) (before after : DeletionDesk) : Prop where
  /-- The commit leaves every VM of the account destroyed or detached, and the response is
  about to be given. -/
  commits : ∀ account response, before.deleted account = none →
    after.deleted account = some response →
    (∀ vm row, before.vms vm = some row → row.ownerAccountId = some account →
      LeavesVm response after vm) ∧
    ∃ w, after.works w = some (.answering account)
  /-- Any other step of a deletion leaves the accounts and the owners of the VMs. -/
  refuses : step.byDeletion = true →
    (∀ account, before.deleted account = none → after.deleted account = none) →
    after.accounts = before.accounts ∧ ∀ vm, ownersOf after vm = ownersOf before vm
  /-- The response is given, unless the process dies. -/
  answers : ∀ w account, before.works w = some (.answering account) →
    after.works w = some (.answering account) ∨ ∃ response,
      after.deleted account = some response ∧
        ((step = .answer w ∧ response.fate = .returned) ∨
          (step = .crash w ∧ response.fate = .lost))

theorem markResponse_rest (desk : DeletionDesk) (account : AccountId) (fate : Fate) :
    (markResponse account fate desk).accounts = desk.accounts ∧
      (markResponse account fate desk).vms = desk.vms ∧
      (markResponse account fate desk).works = desk.works ∧
      ∀ other, desk.deleted other = none → (markResponse account fate desk).deleted other = none := by
  unfold markResponse
  split
  · exact ⟨rfl, rfl, rfl, fun _ none => none⟩
  rename_i response stood
  refine ⟨rfl, rfl, rfl, ?_⟩
  intro other absent
  have apart : other ≠ account := keys_apart absent stood nofun
  exact (put_other _ _ apart).trans absent

theorem markResponse_fate (desk : DeletionDesk) (account : AccountId) (fate : Fate)
    (stands : desk.deleted account ≠ none) :
    ∃ response, (markResponse account fate desk).deleted account = some response ∧
      response.fate = fate := by
  obtain ⟨response, stood⟩ := Option.ne_none_iff_exists'.mp stands
  refine ⟨{ response with fate := fate }, ?_, rfl⟩
  simp only [markResponse, stood, put_same]

inductive Commits (desk : DeletionDesk) : DeletionStep → AccountId → Prop
  | detach {w : ProcessId} {fresh : VmId → Token} {account : AccountId} {owned : List VmId}
      (found : desk.works w = some (.guarded account .detach))
      (taken : desk.accountDeletionSnapshot account = .ok owned)
      (accepted : desk.detachRefusal account owned = none) :
      Commits desk (.snapshot w fresh) account
  | destroy {w : ProcessId} {account : AccountId}
      (found : desk.works w = some (.destroying account []))
      (taken : desk.accountDeletionSnapshot account = .ok []) : Commits desk (.finish w) account

theorem deletion_frame (own : step.byDeletion = true)
    (commits : ∀ account, ¬ Commits desk step account) :
    (deletionStep step desk).accounts = desk.accounts ∧
      (∀ vm, ownersOf (deletionStep step desk) vm = ownersOf desk vm) ∧
      ∀ account, desk.deleted account = none → (deletionStep step desk).deleted account = none := by
  have rests : desk.accounts = desk.accounts ∧ (∀ vm, ownersOf desk vm = ownersOf desk vm) ∧
      ∀ account, desk.deleted account = none → desk.deleted account = none :=
    ⟨rfl, fun _ => rfl, fun _ none => none⟩
  cases step with
  | enter w account policy =>
    dsimp only [deletionStep, enter]
    split
    · split
      · exact rests
      · exact rests
    · exact rests
  | snapshot w fresh =>
    dsimp only [deletionStep, snapshot]
    split
    · rename_i account policy found
      split
      · exact rests
      rename_i owned taken
      split
      · split
        · exact rests
        · rename_i accepted
          exact absurd (.detach found taken accepted) (commits account)
      · exact rests
    · exact rests
  | destroyTarget w outcome =>
    dsimp only [deletionStep, destroyTarget]
    split
    · rename_i account vm targets found
      split
      · exact rests
      · exact rests
      · refine ⟨rfl, ?_, fun _ none => none⟩
        intro id
        simp only [ownersOf, goOn, writeVm]
        split
        · rw [Option.map_map]
          congr 1
          funext row
          dsimp only [Function.comp]
          split
          · rfl
          · rfl
        · rfl
    · exact rests
  | finish w =>
    dsimp only [deletionStep, finish]
    split
    · rename_i account found
      split
      · rename_i taken
        exact absurd (.destroy found taken) (commits account)
      · exact rests
    · exact rests
  | answer w =>
    dsimp only [deletionStep, answer]
    split
    · rename_i account found
      obtain ⟨accounts, vms, _, deleted⟩ := markResponse_rest desk account .returned
      exact ⟨accounts, fun id => by simp only [ownersOf, leave, goOn, vms], deleted⟩
    · exact rests
  | crash w =>
    dsimp only [deletionStep, crash]
    split
    · exact rests
    · rename_i account found
      obtain ⟨accounts, vms, _, deleted⟩ := markResponse_rest desk account .lost
      exact ⟨accounts, fun id => by simp only [ownersOf, leave, goOn, vms], deleted⟩
    · exact rests
  | _ => cases own

theorem others_delete_nothing (other : step.byDeletion = false) :
    (deletionStep step desk).deleted = desk.deleted ∧
      (deletionStep step desk).works = desk.works := by
  cases step with
  | insert vm owner token =>
    dsimp only [deletionStep, insertVm]
    split
    · exact ⟨rfl, rfl⟩
    · split
      · exact ⟨rfl, rfl⟩
      · exact ⟨rfl, rfl⟩
  | activate vm owner =>
    dsimp only [deletionStep, activate]
    split
    · exact ⟨rfl, rfl⟩
    · split
      · exact ⟨rfl, rfl⟩
      · exact ⟨rfl, rfl⟩
  | claim vm account proof =>
    dsimp only [deletionStep, claim]
    split
    · exact ⟨rfl, rfl⟩
    · split
      · exact ⟨rfl, rfl⟩
      · exact ⟨rfl, rfl⟩
  | transfer vm target blocked =>
    dsimp only [deletionStep, transfer]
    split
    · exact ⟨rfl, rfl⟩
    split
    · exact ⟨rfl, rfl⟩
    · split
      · exact ⟨rfl, rfl⟩
      · exact ⟨rfl, rfl⟩
  | disable account =>
    dsimp only [deletionStep, disable]
    split
    · exact ⟨rfl, rfl⟩
    · exact ⟨rfl, rfl⟩
  | enable | setAdmin | columns | records => exact ⟨rfl, rfl⟩
  | _ => cases other

theorem commits_leave (safe : DeletionSafe desk) {account : AccountId}
    (commits : Commits desk step account) :
    ∃ response, (deletionStep step desk).deleted account = some response ∧
      (∀ other, other ≠ account → (deletionStep step desk).deleted other = desk.deleted other) ∧
      (∀ vm row, desk.vms vm = some row → row.ownerAccountId = some account →
        LeavesVm response (deletionStep step desk) vm) ∧
      ∃ w, (deletionStep step desk).works w = some (.answering account) := by
  cases commits with
  | detach found taken accepted =>
    rename_i w fresh owned
    have commits : deletionStep (.snapshot w fresh) desk = goOn w (some (.answering account))
        (deleteAccount account ⟨.detach, owned.map fun vm => (vm, fresh vm), .pending⟩
          (detachVms owned fresh desk)) := by
      simp only [deletionStep, snapshot, found, taken, accepted]
    rw [commits]
    refine ⟨_, put_same _ _ _, fun other apart => put_other _ _ apart, ?_, w, goOn_own⟩
    intro vm row stood owner
    refine ⟨_, detached_vm ⟨.detach, owned.map fun vm => (vm, fresh vm), .pending⟩ stood, ?_⟩
    by_cases listed : vm ∈ owned
    · rw [if_pos listed]
      exact ⟨rfl, Or.inr ⟨fresh vm, List.mem_map.mpr ⟨vm, listed, rfl⟩, rfl⟩⟩
    · rw [if_neg listed, if_pos owner]
      rcases snapshot_complete safe taken stood owner with destroyed | named
      · exact ⟨rfl, Or.inl destroyed⟩
      · exact absurd named listed
  | destroy found taken =>
    rename_i w
    have commits : deletionStep (.finish w) desk = goOn w (some (.answering account))
        (deleteAccount account ⟨.destroy, [], .pending⟩ desk) := by
      simp only [deletionStep, finish, found, taken]
    rw [commits]
    refine ⟨_, put_same _ _ _, fun other apart => put_other _ _ apart, ?_, w, goOn_own⟩
    intro vm row stood owner
    refine ⟨_, Option.map_eq_some_iff.mpr ⟨row, stood, rfl⟩, ?_⟩
    rw [if_pos owner]
    rcases snapshot_complete safe taken stood owner with destroyed | named
    · exact ⟨rfl, Or.inl destroyed⟩
    · cases named

theorem other_work {one : Deletion} (found : desk.works w = some (.answering account))
    (busy : desk.works v = some one) (different : one ≠ .answering account) : w ≠ v := by
  rintro rfl
  rw [found] at busy
  cases busy
  exact different rfl

theorem leave_other (other : w ≠ v) : (leave v desk).works w = desk.works w :=
  goOn_other other

include safe

theorem marked_answers {given : AccountId}
    (found : desk.works w = some (.answering account))
    (busy : desk.works v = some (.answering given)) (fate : Fate) :
    (leave v (markResponse given fate desk)).works w = some (.answering account) ∨
      (v = w ∧ ∃ response, (leave v (markResponse given fate desk)).deleted account =
        some response ∧ response.fate = fate) := by
  obtain ⟨_, _, works, _⟩ := markResponse_rest desk given fate
  by_cases same : w = v
  · subst same
    rw [found] at busy
    cases busy
    exact Or.inr ⟨rfl, markResponse_fate desk account fate (safe.answering w account found)⟩
  · refine Or.inl ?_
    rw [leave_other same, works]
    exact found

theorem answering_kept (step : DeletionStep)
    (found : desk.works w = some (.answering account)) :
    (deletionStep step desk).works w = some (.answering account) ∨ ∃ response,
      (deletionStep step desk).deleted account = some response ∧
        ((step = .answer w ∧ response.fate = .returned) ∨
          (step = .crash w ∧ response.fate = .lost)) := by
  cases step with
  | enter v other policy =>
    refine Or.inl ?_
    dsimp only [deletionStep, enter]
    split
    · rename_i idle _ _
      split
      · exact found
      have apart : w ≠ v := keys_apart found idle nofun
      exact (goOn_other apart).trans found
    · exact found
  | snapshot v fresh =>
    refine Or.inl ?_
    dsimp only [deletionStep, snapshot]
    split
    · rename_i busy
      have apart := other_work found busy nofun
      split
      · exact (leave_other apart).trans found
      split
      · split
        · exact (leave_other apart).trans found
        · exact (goOn_other apart).trans found
      · exact (goOn_other apart).trans found
    · exact found
  | destroyTarget v outcome =>
    refine Or.inl ?_
    dsimp only [deletionStep, destroyTarget]
    split
    · rename_i busy
      have apart := other_work found busy nofun
      split
      · exact (leave_other apart).trans found
      · exact (goOn_other apart).trans found
      · exact (goOn_other apart).trans found
    · exact found
  | finish v =>
    refine Or.inl ?_
    dsimp only [deletionStep, finish]
    split
    · rename_i busy
      have apart := other_work found busy nofun
      split
      · exact (goOn_other apart).trans found
      · exact (leave_other apart).trans found
    · exact found
  | answer v =>
    dsimp only [deletionStep, answer]
    split
    · rename_i busy
      rcases marked_answers safe found busy .returned with still | ⟨rfl, response, stands, fate⟩
      · exact Or.inl still
      · exact Or.inr ⟨response, stands, Or.inl ⟨rfl, fate⟩⟩
    · exact Or.inl found
  | crash v =>
    dsimp only [deletionStep, crash]
    split
    · exact Or.inl found
    · rename_i busy
      rcases marked_answers safe found busy .lost with still | ⟨rfl, response, stands, fate⟩
      · exact Or.inl still
      · exact Or.inr ⟨response, stands, Or.inr ⟨rfl, fate⟩⟩
    · rename_i different busy
      have apart := other_work found busy (different account)
      exact Or.inl ((leave_other apart).trans found)
  | _ =>
    refine Or.inl ?_
    rw [(others_delete_nothing rfl).2]
    exact found

theorem stepKept (step : DeletionStep) :
    StepKept step desk (deletionStep step desk) := by
  by_cases deletes : ∃ account, Commits desk step account
  · obtain ⟨account, commit⟩ := deletes
    obtain ⟨response, stands, others, leaves, answers⟩ := commits_leave safe commit
    have first : desk.deleted account = none := by
      cases commit with
      | detach _ taken | destroy _ taken => exact undeleted safe (snapshot_stands taken)
    refine ⟨?_, ?_, fun w other found => answering_kept safe step found⟩
    · intro other response' absent listed
      by_cases same : other = account
      · subst same
        rw [stands] at listed
        cases listed
        exact ⟨leaves, answers⟩
      · rw [others other same, absent] at listed
        cases listed
    · intro _ nothing
      rw [nothing account first] at stands
      cases stands
  · have never (account : AccountId) : ¬ Commits desk step account :=
      fun commit => deletes ⟨account, commit⟩
    have nothing (account : AccountId) (absent : desk.deleted account = none) :
        (deletionStep step desk).deleted account = none := by
      by_cases own : step.byDeletion = true
      · exact (deletion_frame own never).2.2 account absent
      · rw [(others_delete_nothing (Bool.eq_false_of_not_eq_true own)).1]
        exact absent
    refine ⟨?_, ?_, fun w other found => answering_kept safe step found⟩
    · intro account response absent listed
      rw [nothing account absent] at listed
      cases listed
    · intro own _
      obtain ⟨accounts, owners, _⟩ := deletion_frame own never
      exact ⟨accounts, owners⟩

omit safe

end Steps

def Elsewhere (desk : DeletionDesk) (vm : VmId) : Prop :=
  ∃ row, desk.vms vm = some row ∧ (row.status = .destroyed ∨
    (∃ other, row.ownerAccountId = some other ∧ desk.accounts other ≠ none) ∨
    (row.ownerAccountId = none ∧ Handed desk vm row.anonManagementToken))

structure DeletionKept (middle last : DeletionDesk) : Prop where
  gone : ∀ account response, last.deleted account = some response →
    last.accounts account = none ∧
    ∀ vm row, last.vms vm = some row → row.ownerAccountId ≠ some account
  vms : ∀ vm row, middle.vms vm = some row → row.ownerAccountId ≠ none → Elsewhere last vm

def soleVm : VMRow := { ownerAccountId := some 0, anonManagementToken := some 1, status := .running }

def ownedDesk : DeletionDesk where
  accounts account := if account = 0 then some ⟨false, false⟩ else none
  domains _ := false
  resuming _ := false
  vms vm := if vm = 0 then some soleVm else none
  vmIds := [0]
  guards _ := none
  works _ := none
  deleted _ := none

theorem ownedDesk_start : DeletionStart ownedDesk where
  listed vm row found := by
    simp only [ownedDesk] at found
    split at found
    · rename_i same
      exact same ▸ List.mem_cons_self
    · cases found
  owners vm row account found owner gone := by
    simp only [ownedDesk] at found
    split at found
    · cases found
      cases owner
      cases gone
    · cases found
  works _ := rfl
  deleted _ := rfl

end HyruleCloud.AccountDeletion
