import HyruleCloud.GuestLifecycle

/-!
What one step can do to the VM, said once for every invariant of its lifecycle: the steps
of the expiry and of its deletion first, then those of the other actors.
-/

namespace HyruleCloud.Lifecycle

open Interaction Expiry Function

/-- What a step of the expiry does to the row and to its retention. -/
inductive RowMove (config : ExpiryConfig) (step : ExpiryStep) (before after : ExpiryDesk) :
    Prop where
  | rests (vm : after.vm = before.vm) (retention : after.retention = before.retention)
      (receipts : after.receipts = before.receipts)
  | created (owner : VmOwner) (expiresAt : Time) (absent : before.vm = none)
      (vm : after.vm = some { owner := owner, expiresAt := some expiresAt })
      (retention : after.retention = before.retention)
      (receipts : after.receipts = before.receipts)
  | extended (request : ExtendRequest) (fate : Fate) (row : ExpiringVm)
      (receipt : ExtensionReceipt) (asked : step = .extend request fate)
      (done : extendRequest request before = .ok (row, receipt)) (vm : after.vm = some row)
      (retention : after.retention = before.retention)
      (receipts : after.receipts = receipt :: before.receipts)
  | suspended (row written : ExpiringVm) (suspends : Bool) (found : before.vm = some row)
      (decided : sweepVm config before.now suspends row = .suspend written)
      (vm : after.vm = some written) (retention : after.retention = before.retention)
      (receipts : after.receipts = before.receipts)
  | claimed (row : ExpiringVm) (cutoff : Option Time) (captures : Bool) (claim : Claim)
      (found : before.vm = some row)
      (due : ∀ expiredBefore, cutoff = some expiredBefore →
        ∃ w, before.sweeps w = some (.due expiredBefore))
      (decided : claimDeletion config cutoff captures before.now row before.retention =
        .ok (some claim))
      (vm : after.vm = some claim.vm) (retention : after.retention = claim.retention)
      (receipts : after.receipts = before.receipts)
  | protected_ (row : ExpiringVm) (record : VmRetention) (found : before.vm = some row)
      (retained : before.retention = some record) (started : row.deletionStartedAt.isSome)
      (halted : record.state ≠ .restoring)
      (vm : after.vm = some { row with
        status := .suspended
        suspension := suspendedForExpiry row.suspension })
      (retention : after.retention = some { record with state := .retained })
      (receipts : after.receipts = before.receipts)
      (manifest : ∃ w protects fate deletion, step = .retain w protects fate ∧
        before.deletions w = some deletion ∧ deletion.manifest.isSome)
  | destroyed (row written : ExpiringVm) (w : ProcessId) (deletion : Deletion)
      (found : before.vm = some row) (runs : before.deletions w = some deletion)
      (unmanifest : ¬(deletion.xcpngUuid.isSome ∧ deletion.manifest.isSome))
      (vm : after.vm = some written) (status : written.status = .destroyed)
      (same : written.deletionStartedAt = row.deletionStartedAt ∧
        written.suspension = row.suspension ∧ written.owner = row.owner ∧
        written.expiresAt = row.expiresAt ∧ written.xcpngUuid = row.xcpngUuid)
      (retention : after.retention = before.retention)
      (receipts : after.receipts = before.receipts)

def DeletionsFrom (config : ExpiryConfig) (before after : ExpiryDesk) : Prop :=
  ∀ w deletion, after.deletions w = some deletion → before.deletions w = some deletion ∨
    ∃ row cutoff captures claim, before.vm = some row ∧
      claimDeletion config cutoff captures before.now row before.retention = .ok (some claim) ∧
      deletion = claim.deletion ∧ after.vm = some claim.vm ∧ after.retention = claim.retention

/-- The cutoffs of the passes after a step: those before it, and one taken now. -/
def DueFrom (config : ExpiryConfig) (before after : ExpiryDesk) : Prop :=
  ∀ w expiredBefore, after.sweeps w = some (.due expiredBefore) →
    before.sweeps w = some (.due expiredBefore) ∨ expiredBefore = before.now - config.grace

structure ExpiryMove (config : ExpiryConfig) (step : ExpiryStep) (before after : ExpiryDesk) :
    Prop where
  now : before.now ≤ after.now
  row : RowMove config step before after
  deletions : DeletionsFrom config before after
  due : DueFrom config before after

variable {w : ProcessId} {power : PowerState} {enabled starts stops : Bool}
  {transfer : Option TransferHandoff} {id : OperationId}

variable {request : ExtendRequest} {before : ExpiryDesk} {cutoff : Option Time}
  {deletion : Deletion}

variable {captures : Bool}

section ExpirySteps
variable {config : ExpiryConfig} {step : ExpiryStep} {desk after : ExpiryDesk}

theorem row_move (now : after.now = desk.now) (row : RowMove config step desk after)
    (deletions : ∀ w deletion, after.deletions w = some deletion → desk.deletions w = some deletion)
    (sweeps : after.sweeps = desk.sweeps) : ExpiryMove config step desk after where
  now := now.ge
  row := row
  deletions w deletion runs := Or.inl (deletions w deletion runs)
  due w cutoff runs := by
    rw [sweeps] at runs
    exact Or.inl runs

theorem rests (now : desk.now ≤ after.now) (vm : after.vm = desk.vm)
    (retention : after.retention = desk.retention) (receipts : after.receipts = desk.receipts)
    (deletions : ∀ w deletion, after.deletions w = some deletion → desk.deletions w = some deletion)
    (due : DueFrom config desk after) : ExpiryMove config step desk after where
  now := now
  row := .rests vm retention receipts
  deletions w deletion runs := Or.inl (deletions w deletion runs)
  due := due

theorem move_refl : ExpiryMove config step desk desk :=
  rests (le_refl _) rfl rfl rfl (fun _ _ runs => runs) fun _ _ runs => Or.inl runs

theorem cleared {γ : Type} {table : ProcessId → Option γ} {v : ProcessId} {entry : γ}
    (runs : update table w none v = some entry) : table v = some entry := by
  by_cases mine : v = w
  · subst mine
    rw [update_self] at runs
    cases runs
  · rwa [update_of_ne mine] at runs

theorem sweep_move {sweep : Option Sweep}
    (due : ∀ cutoff, sweep = some (.due cutoff) → cutoff = desk.now - config.grace) :
    ExpiryMove config step desk { desk with sweeps := update desk.sweeps w sweep } := by
  refine rests (le_refl _) rfl rfl rfl (fun _ _ runs => runs) fun v cutoff runs => ?_
  dsimp only at runs
  by_cases mine : v = w
  · subst mine
    rw [update_self] at runs
    exact Or.inr (due cutoff runs)
  · rw [update_of_ne mine] at runs
    exact Or.inl runs

theorem extend_move {value : Unit} (fate : Fate)
    (done : commitExtension request desk = .ok (after, value)) :
    ExpiryMove config (.extend request fate) desk after := by
  unfold commitExtension at done
  split at done
  · cases done
  rename_i row receipt applied
  cases done
  exact row_move rfl (.extended request fate row receipt rfl applied rfl rfl rfl)
    (fun _ _ runs => runs) rfl

theorem look_move (w : ProcessId) (suspends : Bool) (fate : Fate) :
    ExpiryMove config step desk (lookStep config w suspends fate desk) := by
  unfold lookStep
  split
  · exact sweep_move nofun
  rename_i vm found
  split
  · exact sweep_move nofun
  · rename_i expiredBefore decided
    apply sweep_move
    intro cutoff same
    cases same
    exact sweepVm_due decided
  · rename_i written decided
    rcases transact_result (fun desk : ExpiryDesk => .ok ({ desk with vm := some written }, ()))
      fate desk with same | ⟨after, value, done, now⟩
    · rw [same]
      exact sweep_move nofun
    · rw [now]
      cases done
      refine ⟨le_refl _, .suspended vm written suspends found decided rfl rfl rfl,
        fun _ _ runs => Or.inl runs, fun v cutoff runs => Or.inl (cleared runs)⟩

theorem claim_move (fate : Fate)
    (now : desk.now = before.now) (vm : desk.vm = before.vm)
    (retention : desk.retention = before.retention) (receipts : desk.receipts = before.receipts)
    (deletions : desk.deletions = before.deletions)
    (sweeps : ∀ v sweep, desk.sweeps v = some sweep → before.sweeps v = some sweep)
    (due : ∀ expiredBefore, cutoff = some expiredBefore →
      ∃ w, before.sweeps w = some (.due expiredBefore)) :
    ExpiryMove config step before (claimStep config w cutoff captures fate desk) := by
  have stays : ExpiryMove config step before desk :=
    rests now.ge vm retention receipts (fun _ _ runs => deletions ▸ runs)
      fun v limit runs => Or.inl (sweeps v _ runs)
  unfold claimStep
  generalize ran : transact (commitClaim config cutoff captures) fate desk = outcome
  obtain ⟨left, reply⟩ := outcome
  rcases transact_ends _ _ _ _ _ ran with ⟨same, error, failed, _⟩ | ⟨value, done, reply⟩
  · subst same failed
    exact stays
  · unfold commitClaim at done
    split at done
    · cases done
      rcases reply with rfl | rfl
      · refine ⟨now.ge, .rests vm retention receipts, fun v deletion runs => ?_,
          fun v limit runs => Or.inl (sweeps v _ runs)⟩
        exact Or.inl (deletions ▸ cleared runs)
      · exact stays
    · rename_i row found
      split at done
      · cases done
      · cases done
        rcases reply with rfl | rfl
        · refine ⟨now.ge, .rests vm retention receipts, fun v deletion runs => ?_,
            fun v limit runs => Or.inl (sweeps v _ runs)⟩
          exact Or.inl (deletions ▸ cleared runs)
        · exact stays
      · rename_i claim decided
        rw [now, retention] at decided
        rw [vm] at found
        cases done
        rcases reply with rfl | rfl
        · refine ⟨now.ge, .claimed _ cutoff captures claim found due decided rfl rfl receipts,
            fun v deletion runs => ?_, fun v limit runs => Or.inl (sweeps v _ runs)⟩
          by_cases mine : v = w
          · subst mine
            simp only [update_self, Option.some.injEq] at runs
            exact Or.inr ⟨_, cutoff, captures, claim, found, decided, runs.symm, rfl, rfl⟩
          · simp only [update_of_ne mine] at runs
            exact Or.inl (deletions ▸ runs)
        · exact ⟨now.ge, .claimed _ cutoff captures claim found due decided rfl rfl receipts,
            fun v deletion runs => Or.inl (deletions ▸ runs),
            fun v limit runs => Or.inl (sweeps v _ runs)⟩

theorem retain_move {manifest : Nat} {protects : Bool} (fate : Fate)
    (runs : desk.deletions w = some deletion) (kept : deletion.manifest = some manifest) :
    ExpiryMove config (.retain w protects fate) desk
      { (transact (retainVm deletion manifest protects) fate desk).1 with
        deletions := update
          (transact (retainVm deletion manifest protects) fate desk).1.deletions w none } := by
  have stays : ExpiryMove config (.retain w protects fate) desk
      { desk with deletions := update desk.deletions w none } :=
    rests (le_refl _) rfl rfl rfl (fun _ _ runs => cleared runs) fun _ _ runs => Or.inl runs
  rcases transact_result (retainVm deletion manifest protects) fate desk with
    same | ⟨after, value, done, now⟩
  · rw [same]
    exact stays
  · rw [now]
    unfold retainVm at done
    split at done
    · cases done
      exact stays
    · rename_i row found
      split at done
      · cases done
        exact stays
      · rename_i evident
        push Not at evident
        split at done
        · cases done
        rename_i record retained
        repeat' split at done
        all_goals cases done
        · exact stays
        · exact stays
        · rename_i halted _ _
          exact row_move rfl (.protected_ row record found retained
            (Option.isSome_iff_ne_none.mpr evident.2) halted rfl rfl rfl
            ⟨w, protects, fate, deletion, rfl, runs, by rw [kept]; rfl⟩)
            (fun _ _ runs => cleared runs) rfl

theorem finish_move {cleaned : Bool} (fate : Fate)
    (runs : desk.deletions w = some deletion)
    (unmanifest : ¬(deletion.xcpngUuid.isSome ∧ deletion.manifest.isSome)) :
    ExpiryMove config step desk
      { (transact (finishDeletion deletion cleaned) fate desk).1 with
        deletions := update
          (transact (finishDeletion deletion cleaned) fate desk).1.deletions w none } := by
  have stays : ExpiryMove config step desk
      { desk with deletions := update desk.deletions w none } :=
    rests (le_refl _) rfl rfl rfl (fun _ _ runs => cleared runs) fun _ _ runs => Or.inl runs
  rcases transact_result (finishDeletion deletion cleaned) fate desk with
    same | ⟨after, value, done, now⟩
  · rw [same]
    exact stays
  · rw [now]
    unfold finishDeletion at done
    split at done
    · cases done
      exact stays
    · rename_i row found
      cases done
      exact row_move rfl (.destroyed row _ w deletion found runs unmanifest rfl rfl
        ⟨rfl, rfl, rfl, rfl, rfl⟩ rfl rfl) (fun _ _ runs => cleared runs) rfl

theorem expiryStep_moves (config : ExpiryConfig) (desk : ExpiryDesk) (step : ExpiryStep) (own : isOwnStep step = true) :
    ExpiryMove config step desk (expiryStep config step desk) := by
  cases step with
  | tick elapsed =>
    exact rests (Nat.le_add_right _ _) rfl rfl rfl (fun _ _ runs => runs)
      fun _ _ runs => Or.inl runs
  | create owner expiresAt =>
    simp only [expiryStep]
    split
    · rename_i absent
      exact row_move rfl (.created owner expiresAt absent rfl rfl rfl) (fun _ _ runs => runs) rfl
    · exact move_refl
  | account | elsewhere | resume => cases own
  | extend request fate =>
    simp only [expiryStep]
    rcases transact_result (commitExtension request) fate desk with
      same | ⟨after, value, done, now⟩
    · rw [same]
      exact move_refl
    · rw [now]
      exact extend_move fate done
  | scan w =>
    simp only [expiryStep]
    split
    · exact move_refl
    · split
      · exact sweep_move (by simp)
      · exact move_refl
  | look w suspends fate =>
    simp only [expiryStep]
    split
    · exact look_move w suspends fate
    · exact move_refl
  | expire w captures fate =>
    simp only [expiryStep]
    split
    · rename_i expiredBefore decided
      refine claim_move fate rfl rfl rfl rfl rfl (fun v sweep runs => cleared runs)
        fun cutoff same => ?_
      cases same
      exact ⟨w, decided⟩
    · exact move_refl
  | destroy w captures fate =>
    simp only [expiryStep]
    split
    · exact claim_move fate rfl rfl rfl rfl rfl (fun v sweep runs => runs)
        (by simp)
    · exact move_refl
  | retain w protects fate =>
    simp only [expiryStep]
    split
    · exact move_refl
    · split
      · exact retain_move fate ‹_› ‹_›
      · exact move_refl
  | finish w cleaned fate =>
    simp only [expiryStep]
    split
    · exact move_refl
    rename_i deletion runs
    split
    · exact move_refl
    rename_i unmanifest
    apply finish_move fate runs
    rintro ⟨guest, kept⟩
    obtain ⟨uuid, hasGuest⟩ := Option.isSome_iff_exists.mp guest
    obtain ⟨manifest, hasManifest⟩ := Option.isSome_iff_exists.mp kept
    exact unmanifest uuid manifest hasGuest hasManifest
  | stop w =>
    exact rests (le_refl _) rfl rfl rfl (fun _ _ runs => cleared runs)
      fun v cutoff runs => Or.inl (cleared runs)

end ExpirySteps

variable {receipt : ExtensionReceipt} {action : PowerAction}

/-! The parts of a row that a step of the expiry decides on. -/

section Rows
variable {config : ExpiryConfig} {row vm : ExpiringVm} {now : Time}

/-- What a claim writes; a fresh retention is of a VM that has expired before the cutoff. -/
structure ClaimWrites (cutoff : Option Time) (now : Time) (row : ExpiringVm)
    (retention : Option VmRetention) (claim : Claim) : Prop where
  vm : claim.vm = { row with deletionStartedAt := some (row.deletionStartedAt.getD now) }
  manifest : claim.deletion.manifest = claim.retention.map VmRetention.sourceVmUuid
  guest : claim.retention.isSome → claim.deletion.xcpngUuid.isSome
  retention : claim.retention = retention ∨
    (retention = none ∧ row.deletionStartedAt = none ∧
      (∃ uuid, row.xcpngUuid = some uuid ∧ claim.retention = some ⟨uuid, .prepared⟩) ∧
      ∃ expiredBefore expiry, cutoff = some expiredBefore ∧ row.expiresAt = some expiry ∧
        expiry < expiredBefore)

theorem claimDeletion_writes {retention : Option VmRetention} {claim : Claim}
    (done : claimDeletion config cutoff captures now row retention = .ok (some claim)) :
    ClaimWrites cutoff now row retention claim := by
  have expired := (claimDeletion_claims done).expired
  unfold claimDeletion at done
  dsimp only at done
  split at done
  · cases done
  split at done
  · cases done
  split at done
  · rename_i record
    split at done
    · cases done
    split at done
    · cases done
    split at done
    · cases done
    rename_i same
    cases done
    refine ⟨rfl, rfl, fun _ => ?_, Or.inl rfl⟩
    rw [not_not.mp same]
    rfl
  · split at done
    · rename_i uuid guest
      split at done
      · rename_i wanted
        split at done
        · cases done
          obtain ⟨alive, fresh, expiring, _⟩ := wanted
          obtain ⟨expiredBefore, same⟩ := Option.isSome_iff_exists.mp expiring
          have free := Option.isNone_iff_eq_none.mp fresh
          obtain ⟨expiry, there, before⟩ := expired free alive expiredBefore same
          exact ⟨rfl, rfl, fun _ => by rw [guest]; rfl,
            Or.inr ⟨rfl, free, ⟨uuid, guest, rfl⟩, expiredBefore, expiry, same, there, before⟩⟩
        · cases done
      · cases done
        exact ⟨rfl, rfl, nofun, Or.inl rfl⟩
    · cases done
      exact ⟨rfl, rfl, nofun, Or.inl rfl⟩

/-- The power check of an extension notes a stop of the guest, or changes nothing. -/
def Reconciled (vm row : ExpiringVm) : Prop :=
  row = vm ∨ (vm.status ≠ .suspended ∧ vm.xcpngUuid.isSome ∧ row = { vm with
    status := .suspended
    suspension := suspendedForExpiry vm.suspension })

theorem reconcile_reconciles (done : reconcileExtensionPower vm power now = some row) :
    Reconciled vm row := by
  unfold reconcileExtensionPower at done
  split at done
  · cases done
    exact Or.inl rfl
  split at done
  · cases done
    exact Or.inl rfl
  split at done
  · cases done
    exact Or.inl rfl
  · rename_i live
    push Not at live
    split at done
    · cases done
      exact Or.inl rfl
    · cases done
      exact Or.inr ⟨live.2.2, Option.isSome_iff_ne_none.mpr live.2.1, rfl⟩
    · cases done
    · cases done

theorem reconciled_twice {first second : ExpiringVm} (once : Reconciled vm first)
    (again : Reconciled first second) : Reconciled vm second := by
  rcases again with rfl | ⟨running, guest, rfl⟩
  · exact once
  · rcases once with rfl | ⟨_, _, rfl⟩
    · exact Or.inr ⟨running, guest, rfl⟩
    · exact absurd rfl running

/-- The row of a paid extension: a stopped guest gets the marker of its resume. -/
structure ExtensionWrites (vm row : ExpiringVm) : Prop where
  base : ∃ checked, Reconciled vm checked ∧ vmCanExtend checked = true ∧
    row.status = checked.status ∧ row.suspension = checked.suspension ∧
    row.xcpngUuid = checked.xcpngUuid ∧ row.owner = checked.owner ∧
    row.deletionStartedAt = checked.deletionStartedAt
  marks : row.status = .suspended → ∀ uuid, row.xcpngUuid = some uuid →
    row.resume = some ⟨uuid, row.owner⟩

theorem extendVm_writes {days : Nat}
    (done : extendVm vm days power enabled now = some (row, receipt)) : ExtensionWrites vm row := by
  unfold extendVm at done
  split at done
  · cases done
  rename_i checked powered
  split at done
  · cases done
  rename_i allowed
  have can : vmCanExtend checked = true := by
    by_contra cannot
    simp [cannot] at allowed
  split at done
  · cases done
  cases done
  refine ⟨⟨checked, reconcile_reconciles powered, can, rfl, rfl, rfl, rfl, rfl⟩, ?_⟩
  intro stopped uuid guest
  rw [stopped, guest]

theorem extendRequest_writes {desk : ExpiryDesk}
    (done : extendRequest request desk = .ok (row, receipt)) :
    ∃ vm, desk.vm = some vm ∧ ExtensionWrites vm row := by
  unfold extendRequest at done
  split at done
  · cases done
  rename_i vm found
  split at done
  · cases done
  split at done
  · cases done
  rename_i first powered
  split at done
  · cases done
  split at done
  · cases done
  split at done
  · cases done
  split at done
  · cases done
  rename_i extended applied
  cases done
  have writes := extendVm_writes applied
  obtain ⟨checked, again, rest⟩ := writes.base
  exact ⟨vm, found, ⟨checked, reconciled_twice (reconcile_reconciles powered) again, rest⟩,
    writes.marks⟩

theorem sweepVm_writes {suspends : Bool} (decided : sweepVm config now suspends vm = .suspend row) :
    vm.deletionStartedAt = none ∧ vm.status ≠ .suspended ∧
      (∃ expiry, vm.expiresAt = some expiry ∧ expiry < now) ∧ row = { vm with
        status := if vm.status = .provisioning then .provisioning else .suspended
        suspension := suspendedForExpiry vm.suspension } := by
  unfold sweepVm at decided
  split at decided
  · cases decided
  split at decided
  · cases decided
  · cases decided
  rename_i expiry unclaimed expires
  split at decided
  · cases decided
  split at decided
  · cases decided
  split at decided
  · cases decided
  rename_i late
  push Not at late
  split at decided
  · cases decided
  split at decided
  · cases decided
  cases decided
  exact ⟨unclaimed, late.2, ⟨expiry, expires, late.1⟩, rfl⟩

def stoppedRow (vm : ExpiringVm) : ExpiringVm :=
  { vm with
    status := if vm.status = .failed then .failed else .suspended
    suspension := if vm.suspension = some .accountDisabled then vm.suspension
      else some .manualAdmin }

structure ActionWrites (action : PowerAction) (vm written : ExpiringVm) : Prop where
  unclaimed : vm.deletionStartedAt = none
  alive : vm.status ≠ .destroyed ∧ vm.status ≠ .provisioning
  guest : vm.xcpngUuid.isSome
  row : (action = .start ∧ written = { vm with status := .running, suspension := none }) ∨
    (action = .reboot ∧ written = vm) ∨
    ((action = .shutdown ∨ action = .suspend) ∧ written = stoppedRow vm)

theorem vmAction_writes {works : Bool}
    (done : vmAction action enabled now power works vm = some row) :
    ActionWrites action vm row := by
  unfold vmAction at done
  dsimp only at done
  split at done
  · cases done
  split at done
  · cases done
  rename_i free
  push Not at free
  split at done
  · cases done
  split at done
  · cases done
  rename_i built
  split at done
  · cases done
  split at done
  · cases done
  split at done
  · cases done
  rename_i guest
  refine ⟨by simpa using free.1, ⟨free.2, built⟩, Option.isSome_iff_ne_none.mpr guest, ?_⟩
  cases action with
  | start =>
    dsimp only at done
    split at done
    · cases done
      exact Or.inl ⟨rfl, rfl⟩
    · cases done
  | reboot =>
    dsimp only at done
    split at done
    · cases done
      exact Or.inr (Or.inl ⟨rfl, rfl⟩)
    · cases done
  | shutdown =>
    dsimp only at done
    split at done
    · cases done
      exact Or.inr (Or.inr ⟨Or.inl rfl, rfl⟩)
    · cases done
  | suspend =>
    dsimp only at done
    split at done
    · cases done
      exact Or.inr (Or.inr ⟨Or.inr rfl, rfl⟩)
    · cases done

end Rows

section Commits
variable (desk : LifecycleDesk)

theorem commitRow_result (row : ExpiringVm × Option TransferHandoff) (fate : Fate) :
    (transact (commitRow row) fate desk).1 = desk ∨
      (transact (commitRow row) fate desk).1 =
        { desk with vm := some row.1, transfer := row.2 } := by
  rcases transact_result (commitRow row) fate desk with same | ⟨after, value, done, now⟩
  · exact Or.inl same
  · cases done
    exact Or.inr now

theorem actOn_result (actor : Actor) (fate : Fate) (vm : ExpiringVm) :
    actOn actor fate vm desk = noteStart actor vm (decideRow actor vm desk) desk ∨
      ∃ row, (decideRow actor vm desk).row = some row ∧ actOn actor fate vm desk =
        { noteStart actor vm (decideRow actor vm desk) desk with
          vm := some row.1
          transfer := row.2 } := by
  unfold actOn
  dsimp only
  split
  · exact Or.inl rfl
  rename_i row written
  rcases commitRow_result (noteStart actor vm (decideRow actor vm desk) desk) row fate with
    same | now
  · exact Or.inl same
  · exact Or.inr ⟨row, written, now⟩

end Commits

/-! Deletions. A deletion that may destroy the guest has claimed a VM that is not retained,
and nobody retains or restores that VM any more. -/

def IsClaimed (desk : LifecycleDesk) : Prop :=
  ∃ vm, desk.vm = some vm ∧ vm.deletionStartedAt.isSome

def DeletionsHeld (desk : LifecycleDesk) : Prop :=
  ∀ w deletion, desk.deletions w = some deletion →
    ¬(deletion.xcpngUuid.isSome ∧ deletion.manifest.isSome) →
    desk.retention = none ∧ IsClaimed desk

variable {now : Time} {account : AccountId}

variable {retained : Bool} {actor : Actor}

section Claims
variable {vm written : ExpiringVm} {row : ExpiringVm × Option TransferHandoff}

theorem withPower_row {caller : Resumer} {resumed : ExpiringVm × Option TransferHandoff}
    (done : (withPower caller power starts resumed).row = some row) : row = resumed := by
  cases power with
  | running =>
    cases done
    rfl
  | halted =>
    cases starts with
    | true =>
      cases done
      rfl
    | false => cases done
  | other => cases done
  | unreachable => cases done

/-- The row keeps its claim, and its expiry is not set back. -/
structure Tended (vm row : ExpiringVm) : Prop where
  claim : row.deletionStartedAt = vm.deletionStartedAt
  later : ∀ expiry, vm.expiresAt = some expiry →
    ∃ later, row.expiresAt = some later ∧ expiry ≤ later

theorem tended_same (claim : written.deletionStartedAt = vm.deletionStartedAt)
    (same : written.expiresAt = vm.expiresAt) : Tended vm written :=
  ⟨claim, fun expiry there => ⟨expiry, same.trans there, le_refl expiry⟩⟩

theorem resumeExtension_tended
    (done : (resumeExtension enabled power starts vm transfer).row = some row) :
    Tended vm row.1 := by
  unfold resumeExtension at done
  repeat' split at done
  all_goals first
    | rw [withPower_row done]
    | cases done
  all_goals exact tended_same rfl rfl

theorem resumeTransfer_tended {accounts : AccountId → Option Bool}
    (done : (resumeTransfer accounts now power starts vm transfer).row = some row) :
    Tended vm row.1 := by
  unfold resumeTransfer at done
  repeat' split at done
  all_goals first
    | rw [withPower_row done]
    | cases done
  all_goals exact tended_same rfl rfl

theorem resumeAccount_tended
    (done : (resumeAccount now power starts vm transfer).row = some row) : Tended vm row.1 := by
  unfold resumeAccount at done
  repeat' split at done
  all_goals first
    | rw [withPower_row done]
    | cases done
  all_goals exact tended_same rfl rfl

theorem suspendAccount_tended (done : suspendAccount power stops vm = some written) :
    Tended vm written := by
  unfold suspendAccount at done
  repeat' split at done
  all_goals cases done
  all_goals exact tended_same rfl rfl

theorem vmAction_tended {works : Bool}
    (done : vmAction action enabled now power works vm = some written) : Tended vm written := by
  rcases (vmAction_writes done).row with ⟨_, rfl⟩ | ⟨_, rfl⟩ | ⟨_, rfl⟩ <;>
    exact tended_same rfl rfl

theorem extendVmExpiry_tended {days : Nat}
    (done : extendVmExpiry days now vm = some written) :
    Tended vm written ∧ written.status = vm.status := by
  unfold extendVmExpiry at done
  split at done
  · cases done
  rename_i expiry expires
  split at done
  · cases done
  cases done
  refine ⟨⟨rfl, fun other there => ?_⟩, rfl⟩
  rw [expires] at there
  cases there
  exact ⟨_, rfl, (le_max_left _ _).trans (Nat.le_add_right _ _)⟩

theorem transferVm_tended {target : AccountId} {wallet : Option Wallet}
    (done : transferVm target wallet vm transfer = some row) :
    Tended vm row.1 ∧ row.1.status = vm.status := by
  unfold transferVm at done
  repeat' split at done
  all_goals cases done
  all_goals exact ⟨tended_same rfl rfl, rfl⟩

theorem claimVm_tended (done : claimVm account retained vm = some written) :
    Tended vm written ∧ written.status = vm.status := by
  unfold claimVm at done
  repeat' split at done
  all_goals cases done
  all_goals exact ⟨tended_same rfl rfl, rfl⟩

theorem detachVm_tended (done : detachVm retained vm = some written) :
    Tended vm written ∧ written.status = vm.status := by
  unfold detachVm at done
  repeat' split at done
  all_goals cases done
  all_goals exact ⟨tended_same rfl rfl, rfl⟩

theorem deliverVm_tended {uuid : Nat} (done : deliverVm uuid power stops vm = some written) :
    Tended vm written := by
  unfold deliverVm at done
  repeat' split at done
  all_goals cases done
  all_goals exact tended_same rfl rfl

theorem failVm_tended (done : failVm power stops vm = some written) : Tended vm written := by
  unfold failVm at done
  repeat' split at done
  all_goals cases done
  all_goals exact tended_same rfl rfl

theorem written_row {decided : Option ExpiringVm}
    (done : decided.map (fun vm => (vm, transfer)) = some row) :
    ∃ written, decided = some written ∧ row = (written, transfer) := by
  obtain ⟨written, same, rfl⟩ := Option.map_eq_some_iff.mp done
  exact ⟨written, same, rfl⟩

inductive Decided (vm : ExpiringVm) (desk : LifecycleDesk) :
    Actor → ExpiringVm × Option TransferHandoff → Prop
  | suspended {account power stops row : _}
      (decided : suspendAccount power stops vm = some row) :
      Decided vm desk (.suspendResources account power stops) (row, desk.transfer)
  | resumed {account power starts row : _}
      (owns : desk.accounts account = some true ∧ vm.owner.1 = some account)
      (decided : (resumeAccount desk.now power starts vm desk.transfer).row = some row) :
      Decided vm desk (.resumeResources account power starts) row
  | extended {power starts row : _} (decided : (resumeExtension (vmOwnerEnabled desk.accounts vm) power
        starts vm desk.transfer).row = some row) :
      Decided vm desk (.resumeExtension power starts) row
  | handed {power starts row : _} (decided : (resumeTransfer desk.accounts desk.now power starts vm
        desk.transfer).row = some row) :
      Decided vm desk (.resumeTransfer power starts) row
  | powered {action power works row : _} (decided : vmAction action (vmOwnerEnabled desk.accounts vm)
        desk.now power works vm = some row) :
      Decided vm desk (.power action power works) (row, desk.transfer)
  | granted {days row : _} (decided : extendVmExpiry days desk.now vm = some row) :
      Decided vm desk (.grant days) (row, desk.transfer)
  | transferred {target wallet row : _} (decided : transferVm target wallet vm desk.transfer = some row) :
      Decided vm desk (.transfer target wallet) row
  | claimed {account row : _} (decided : claimVm account desk.retention.isSome vm = some row) :
      Decided vm desk (.claim account) (row, desk.transfer)
  | built {uuid : _} (same : vm.xcpngUuid = none ∨ vm.xcpngUuid = some uuid) :
      Decided vm desk (.guest uuid) ({ vm with xcpngUuid := some uuid }, desk.transfer)
  | delivered {uuid power stops row : _} (decided : deliverVm uuid power stops vm = some row) :
      Decided vm desk (.deliver uuid power stops) (row, desk.transfer)
  | failed {power stops row : _} (decided : failVm power stops vm = some row) :
      Decided vm desk (.fail power stops) (row, desk.transfer)

theorem decideRow_decided {desk : LifecycleDesk}
    (done : (decideRow actor vm desk).row = some row) : Decided vm desk actor row := by
  cases actor <;> simp only [decideRow] at done
  case resumeExtension => exact .extended done
  case resumeTransfer => exact .handed done
  case guest =>
    split at done
    · cases done
      exact .built ‹_›
    · cases done
  case suspendResources | claim =>
    split at done
    · obtain ⟨written, decided, rfl⟩ := written_row done
      first
        | exact .suspended decided
        | exact .claimed decided
    · cases done
  case resumeResources | transfer =>
    split at done
    · first
        | exact .resumed ‹_› done
        | exact .transferred done
    · cases done
  all_goals
    obtain ⟨written, decided, rfl⟩ := written_row done
    first
      | exact .powered decided
      | exact .granted decided
      | exact .delivered decided
      | exact .failed decided

theorem decideRow_tended {desk : LifecycleDesk}
    (done : (decideRow actor vm desk).row = some row) : Tended vm row.1 := by
  cases decideRow_decided done with
  | suspended decided => exact suspendAccount_tended decided
  | resumed _ decided => exact resumeAccount_tended decided
  | extended decided => exact resumeExtension_tended decided
  | handed decided => exact resumeTransfer_tended decided
  | powered decided => exact vmAction_tended decided
  | granted decided => exact (extendVmExpiry_tended decided).1
  | transferred decided => exact (transferVm_tended decided).1
  | claimed decided => exact (claimVm_tended decided).1
  | built => exact tended_same rfl rfl
  | delivered decided => exact deliverVm_tended decided
  | failed decided => exact failVm_tended decided

end Claims

theorem noteRetention_row (before desk : LifecycleDesk) :
    (noteRetention before desk).toExpiryDesk = desk.toExpiryDesk := by
  unfold noteRetention
  split <;> rfl

variable {step : ExpiryStep}

theorem act_expiry {config : ExpiryConfig} {desk : LifecycleDesk}
    (own : isOwnStep step = true) : (act config (.expiry step) desk).toExpiryDesk =
      expiryStep config step (expiryDesk desk) := by
  simp only [act, own, if_true]
  exact noteRetention_row _ _

inductive RestoreMove (id : OperationId) (desk after : LifecycleDesk) : Prop where
  | rests (same : after = desk)
  | prepared (request : RestoreRequest) (record : VmRetention) (expiry : Time)
      (fresh : findRestore request.id desk = none) (retained : desk.retention = some record)
      (kept : record.state = .retained)
      (same : after = { desk with
        retention := some { record with state := .restoring }
        evidence := { desk.evidence with restore := some request.id }
        restores := ⟨request.id, request.actor, request.days, request.reason, expiry,
          max expiry desk.now + request.days * 86400, .pending⟩ :: desk.restores })
  | authorized (restore : VmRestore) (vm : ExpiringVm) (record : VmRetention)
      (listed : findRestore id desk = some restore) (found : desk.vm = some vm)
      (retained : desk.retention = some record) (state : restore.state = .pending)
      (stopped : vm.status = .suspended) (claimed : vm.deletionStartedAt.isSome)
      (guest : vm.xcpngUuid.isSome)
      (same : after = { desk with
        vm := some { vm with
          expiresAt := some restore.newExpiry
          suspension := some .manualAdmin }
        restores := writeRestore restore.id .authorized desk.restores })
  | completed (restore : VmRestore) (vm : ExpiringVm) (record : VmRetention)
      (listed : findRestore id desk = some restore) (found : desk.vm = some vm)
      (retained : desk.retention = some record) (state : restore.state = .authorized)
      (current : desk.evidence.restore = some restore.id)
      (stopped : vm.status = .suspended) (guest : vm.xcpngUuid.isSome)
      (same : after = { desk with
        vm := some { vm with
          expiresAt := some restore.newExpiry
          deletionStartedAt := none
          suspension := some .manualAdmin }
        retention := none
        restores := writeRestore restore.id .completed desk.restores })

section Restores
variable {desk after : LifecycleDesk} {value : Unit}

theorem findRestore_id {restore : VmRestore} (found : findRestore id desk = some restore) :
    restore.id = id := by
  have holds := List.find?_some found
  simpa using holds

theorem prepareRestore_moves {request : RestoreRequest}
    (done : prepareRestore request desk = .ok (after, value)) :
    RestoreMove request.id desk after := by
  unfold prepareRestore at done
  split at done
  · split at done
    · cases done
      exact .rests rfl
    · cases done
  · rename_i vm record fresh found retained
    split at done
    · cases done
    split at done
    · cases done
    rename_i expiry expires
    split at done
    · cases done
    rename_i eligible
    push Not at eligible
    cases done
    exact .prepared request record expiry fresh retained eligible.1 rfl
  · cases done

theorem visitRestore_moves {finalize restores : Bool}
    (done : visitRestore id finalize restores desk = .ok (after, value)) :
    RestoreMove id desk after := by
  unfold visitRestore at done
  split at done
  · cases done
  rename_i restore listed
  split at done
  · cases done
    exact .rests rfl
  rename_i unfinished
  split at done
  · rename_i vm record found retained
    unfold continueRestore at done
    split at done
    · cases done
    rename_i evident
    push Not at evident
    obtain ⟨restoring, current, same, stopped⟩ := evident
    have ours : isEvident desk.evidence record vm = true := by
      cases holds : isEvident desk.evidence record vm with
      | true => rfl
      | false => simp [holds] at same
    simp only [isEvident, Bool.and_eq_true, decide_eq_true_eq] at ours
    have guest : vm.xcpngUuid.isSome := by
      rw [ours.1.2]
      rfl
    split at done
    · cases done
    split at done
    · rename_i pending
      unfold authorizeRestore at done
      split at done
      · cases done
      · cases done
        exact .authorized restore vm record listed found retained pending stopped
          ours.1.1 guest rfl
    split at done
    · cases done
    split at done
    · cases done
      exact .rests rfl
    split at done
    · cases done
    rename_i opened _ _ _
    cases done
    have authorized : restore.state = .authorized := by
      cases state : restore.state with
      | pending => exact absurd state opened
      | authorized => rfl
      | completed => exact absurd state unfinished
    exact .completed restore vm record listed found retained authorized current
      stopped guest rfl
  · cases done

end Restores

theorem closeAccount_result {desk after : LifecycleDesk} {value : Unit}
    (done : closeAccount account desk = .ok (after, value)) :
    after = { desk with accounts := update desk.accounts account none } ∨
      ∃ vm row, desk.vm = some vm ∧ vm.owner.1 = some account ∧
        detachVm desk.retention.isSome vm = some row ∧ after = { desk with
          accounts := update desk.accounts account none
          vm := some row } := by
  unfold closeAccount at done
  split at done
  · cases done
    exact Or.inl rfl
  rename_i vm found
  split at done
  · cases done
    exact Or.inl rfl
  rename_i owns
  split at done
  · cases done
  · rename_i row detached
    cases done
    exact Or.inr ⟨vm, row, found, not_not.mp owns, detached, rfl⟩

inductive ActMove (config : ExpiryConfig) (desk : LifecycleDesk) :
    LifecycleStep → LifecycleDesk → Prop
  | aside {step : _} (accounts : AccountId → Option Bool) (used : OperationId → Bool) :
      ActMove config desk step { desk with accounts := accounts, usedElsewhere := used }
  | expired {step : _} (own : isOwnStep step = true) :
      ActMove config desk (.expiry step) (act config (.expiry step) desk)
  | erased {w deletion uuid : _} (runs : desk.deletions w = some deletion)
      (guest : deletion.xcpngUuid = some uuid) (bare : deletion.manifest = none) :
      ActMove config desk (.erase w) { desk with
        erasures := ⟨uuid, desk.retention⟩ :: desk.erasures }
  | closed {account fate vm row : _} (found : desk.vm = some vm)
      (detached : detachVm desk.retention.isSome vm = some row) :
      ActMove config desk (.close account fate) { desk with
        accounts := update desk.accounts account none
        vm := some row }
  | acted {actor fate vm : _} (found : desk.vm = some vm) :
      ActMove config desk (.actor actor fate) (actOn actor fate vm desk)
  | prepared {request fate after : _} (done : prepareRestore request desk = .ok (after, ())) :
      ActMove config desk (.restore request fate) after
  | visited {id finalize restores fate after : _}
      (done : visitRestore id finalize restores desk = .ok (after, ())) :
      ActMove config desk (.visit id finalize restores fate) after

theorem act_cases (config : ExpiryConfig) (step : LifecycleStep) (desk : LifecycleDesk) :
    ActMove config desk step (act config step desk) := by
  have stays : ∀ step, ActMove config desk step desk :=
    fun _ => .aside desk.accounts desk.usedElsewhere
  cases step with
  | expiry step =>
    by_cases own : isOwnStep step = true
    · exact .expired own
    · simp only [act, if_neg own]
      exact stays _
  | erase w =>
    simp only [act]
    split
    · exact stays _
    split
    · exact .erased ‹_› ‹_› ‹_›
    · exact stays _
  | register | account =>
    simp only [act]
    split
    · exact .aside _ desk.usedElsewhere
    · exact stays _
  | close account fate =>
    simp only [act]
    split
    · rcases transact_result (closeAccount account) fate desk with
        same | ⟨after, value, done, now⟩
      · rw [same]
        exact stays _
      · rw [now]
        rcases closeAccount_result done with rfl | ⟨vm, row, found, _, detached, rfl⟩
        · exact .aside _ desk.usedElsewhere
        · exact .closed found detached
    · exact stays _
  | restore request fate =>
    simp only [act]
    rcases transact_result (prepareRestore request) fate desk with same | ⟨after, _, done, now⟩
    · rw [same]
      exact stays _
    · rw [now]
      exact .prepared done
  | visit id finalize restores fate =>
    simp only [act]
    rcases transact_result (visitRestore id finalize restores) fate desk with
      same | ⟨after, _, done, now⟩
    · rw [same]
      exact stays _
    · rw [now]
      exact .visited done
  | elsewhere id =>
    simp only [act]
    split
    · exact stays _
    · exact .aside desk.accounts _
  | actor actor fate =>
    simp only [act]
    split
    · exact stays _
    · exact .acted ‹_›

variable {vm : ExpiringVm}

section Held
variable {config : ExpiryConfig} {desk after : LifecycleDesk}

theorem held_same (held : DeletionsHeld desk) (deletions : after.deletions = desk.deletions)
    (retention : after.retention = desk.retention)
    (claim : IsClaimed desk → IsClaimed after) : DeletionsHeld after := by
  intro w deletion runs unmanifest
  rw [deletions] at runs
  obtain ⟨unretained, claimed⟩ := held w deletion runs unmanifest
  exact ⟨retention.trans unretained, claim claimed⟩

theorem written_claimed {row : ExpiringVm} (found : desk.vm = some vm)
    (now : after.vm = some row) (same : row.deletionStartedAt = vm.deletionStartedAt)
    (claimed : IsClaimed desk) : IsClaimed after := by
  obtain ⟨held, there, started⟩ := claimed
  rw [found] at there
  cases there
  exact ⟨row, now, same ▸ started⟩

theorem expiry_held (held : DeletionsHeld desk)
    (view : before = expiryDesk desk) (move : ExpiryMove config step before after.toExpiryDesk) :
    DeletionsHeld after := by
  subst view
  intro w deletion runs unmanifest
  rcases move.deletions w deletion runs with earlier | ⟨row, cutoff, captures, claim, found, decided,
    rfl, vm, retention⟩
  · obtain ⟨unretained, vm, found, started⟩ := held w deletion earlier unmanifest
    have here : (expiryDesk desk).vm = some vm := found
    have free : (expiryDesk desk).retention = none := unretained
    cases move.row with
    | rests same retention _ => exact ⟨retention.trans free, vm, same.trans here, started⟩
    | created owner expiresAt absent _ _ _ =>
      rw [here] at absent
      cases absent
    | extended request fate row receipt _ done _ _ _ =>
      obtain ⟨other, there, extends_⟩ := extendRequest_extends done
      rw [here] at there
      cases there
      rw [extends_.unclaimed] at started
      cases started
    | suspended row written suspends there decided _ _ _ =>
      rw [here] at there
      cases there
      rw [(sweepVm_writes decided).1] at started
      cases started
    | claimed row cutoff captures claim there due decided now retention _ =>
      rw [here] at there
      cases there
      have writes := claimDeletion_writes decided
      rcases writes.retention with same | ⟨_, unclaimed, _⟩
      · refine ⟨retention.trans (same.trans free), claim.vm, now, ?_⟩
        rw [writes.vm]
        rfl
      · rw [unclaimed] at started
        cases started
    | protected_ row record there retained _ _ _ _ _ _ =>
      rw [free] at retained
      cases retained
    | destroyed row written v other there _ _ now status same retention _ =>
      rw [here] at there
      cases there
      exact ⟨retention.trans free, written, now, same.1 ▸ started⟩
  · have writes := claimDeletion_writes decided
    constructor
    · cases retains : claim.retention with
      | none => rw [retention, retains]
      | some record =>
        refine absurd ⟨writes.guest (by rw [retains]; rfl), ?_⟩ unmanifest
        rw [writes.manifest, retains]
        rfl
    · refine ⟨claim.vm, vm, ?_⟩
      rw [writes.vm]
      rfl

theorem restore_held (held : DeletionsHeld desk) (move : RestoreMove id desk after) :
    DeletionsHeld after := by
  intro w deletion runs unmanifest
  cases move with
  | rests same =>
    subst same
    exact held w deletion runs unmanifest
  | prepared _ _ _ _ retained _ same | authorized _ _ _ _ _ retained _ _ _ _ same
  | completed _ _ _ _ _ retained _ _ _ _ same =>
    subst same
    have unretained := (held w deletion runs unmanifest).1
    rw [retained] at unretained
    cases unretained

theorem actor_held (actor : Actor) (fate : Fate) (held : DeletionsHeld desk)
    (found : desk.vm = some vm) : DeletionsHeld (actOn actor fate vm desk) := by
  rcases actOn_result desk actor fate vm with same | ⟨row, written, same⟩
  · rw [same]
    exact held_same held rfl rfl fun claimed => claimed
  · rw [same]
    exact held_same held rfl rfl
      fun claimed => written_claimed found rfl (decideRow_tended written).claim claimed

theorem act_held (config : ExpiryConfig) (step : LifecycleStep) (held : DeletionsHeld desk) :
    DeletionsHeld (act config step desk) := by
  have move := act_cases config step desk
  generalize act config step desk = after at move ⊢
  cases move with
  | aside => exact held
  | @expired step own =>
    have move := expiryStep_moves config (expiryDesk desk) step own
    rw [← act_expiry own] at move
    exact expiry_held held rfl move
  | erased => exact held
  | closed found detached =>
    exact held_same held rfl rfl
      fun claimed => written_claimed found rfl (detachVm_tended detached).1.claim claimed
  | @acted actor fate _ found => exact actor_held actor fate held found
  | prepared done => exact restore_held held (prepareRestore_moves done)
  | visited done => exact restore_held held (visitRestore_moves done)

end Held

end HyruleCloud.Lifecycle
