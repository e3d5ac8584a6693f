import HyruleCloud.StatusWriters
import HyruleCloud.SettledAccounts

/-!
What each writer of `GuestLifecycle` may do to the status of a VM: the actors that lock the
row first, then the expiry, the deletion and the restore of a retained guest.
-/

namespace HyruleCloud.Statuses

open Interaction Expiry Lifecycle

structure Follows (provisionedAt : Option Time) (vm row : ExpiringVm) : Prop where
  destroyed : vm.status = .destroyed → row.status = .destroyed
  failed : vm.status = .failed → row.status = .failed ∨ row.status = .destroyed
  claimed : vm.deletionStartedAt.isSome → isRunning row = true → row.status = vm.status
  fails : row.status = .failed → vm.status = .failed ∨ provisionedAt = none

structure Spares (provisionedAt : Option Time) (vm row : ExpiringVm) : Prop extends
    Follows provisionedAt vm row where
  spared : row.status = .destroyed → vm.status = .destroyed

variable {power : PowerState} {stops starts : Bool} {transfer : Option TransferHandoff}
  {written : ExpiringVm × Option TransferHandoff} {fate : Fate} {step : ExpiryStep}
  {after : LifecycleDesk}

section Rows
variable {provisionedAt : Option Time} {vm row : ExpiringVm} {now : Time}

theorem same_spares (same : row.status = vm.status) : Spares provisionedAt vm row where
  destroyed ended := same.trans ended
  failed ended := Or.inl (same.trans ended)
  claimed _ _ := same
  fails ended := Or.inl (same.symm.trans ended)
  spared ended := same.symm.trans ended

theorem spares_refl : Spares provisionedAt vm vm := same_spares rfl

theorem stopped_spares (alive : vm.status ≠ .destroyed ∧ vm.status ≠ .failed)
    (stops : row.status = .suspended ∨ row.status = .provisioning) :
    Spares provisionedAt vm row where
  destroyed ended := absurd ended alive.1
  failed ended := absurd ended alive.2
  claimed _ runs := by rcases stops with stops | stops <;> simp [isRunning, stops] at runs
  fails ended := by rcases stops with stops | stops <;> simp [stops] at ended
  spared ended := by rcases stops with stops | stops <;> simp [stops] at ended

theorem started_spares (alive : vm.status ≠ .destroyed ∧ vm.status ≠ .failed)
    (free : vm.deletionStartedAt = none) (starts : row.status = .running ∨ row.status = .ready) :
    Spares provisionedAt vm row where
  destroyed ended := absurd ended alive.1
  failed ended := absurd ended alive.2
  claimed deleting _ := by rw [free] at deleting; cases deleting
  fails ended := by rcases starts with starts | starts <;> simp [starts] at ended
  spared ended := by rcases starts with starts | starts <;> simp [starts] at ended

theorem destroyed_follows (ended : row.status = .destroyed) : Follows provisionedAt vm row where
  destroyed _ := ended
  failed _ := Or.inr ended
  claimed _ runs := by simp [isRunning, ended] at runs
  fails failed := by rw [ended] at failed; cases failed

theorem failed_spares (alive : vm.status ≠ .destroyed) (unprovisioned : provisionedAt = none)
    (ended : row.status = .failed) : Spares provisionedAt vm row where
  destroyed destroyed := absurd destroyed alive
  failed _ := Or.inl ended
  claimed _ runs := by simp [isRunning, ended] at runs
  fails _ := Or.inr unprovisioned
  spared destroyed := by rw [ended] at destroyed; cases destroyed

theorem suspendAccount_spares (done : suspendAccount power stops vm = some row) :
    Spares provisionedAt vm row := by
  unfold suspendAccount at done
  split at done
  · cases done
  rename_i alive
  split at done
  · cases done
  split at done
  · cases done
  split at done
  · cases done
  cases done
  by_cases kept : vm.status = .provisioning ∨ vm.status = .failed
  · exact same_spares (if_pos kept)
  · push Not at kept
    exact stopped_spares ⟨alive, kept.2⟩ (Or.inl (if_neg (by tauto)))

theorem resumeAccount_spares (free : vm.suspension = some .accountDisabled → vm.xcpngUuid.isSome →
      hasEnded vm.status = false → isPast vm.expiresAt now = false → vm.deletionStartedAt = none)
    (done : (resumeAccount now power starts vm transfer).row = some written) :
    Spares provisionedAt vm written.1 := by
  unfold resumeAccount at done
  split at done
  · cases done
  rename_i disabled
  split at done
  · cases done
    exact same_spares rfl
  rename_i alive
  push Not at alive
  split at done
  · cases done
    exact same_spares rfl
  rename_i current
  split at done
  · split at done
    · rw [withPower_row done]
      exact same_spares rfl
    · cases done
      exact same_spares rfl
  rename_i built
  split at done
  · rename_i guest
    rw [withPower_row done]
    refine started_spares alive (free (not_not.mp disabled) (by rw [guest]; rfl) ?_ ?_)
      (Or.inl rfl)
    · simp [hasEnded, alive, built]
    · simpa using current
  · cases done
    exact stopped_spares alive (Or.inr rfl)

theorem resumeExtension_spares {enabled : Bool}
    (done : (resumeExtension enabled power starts vm transfer).row = some written) :
    Spares provisionedAt vm written.1 := by
  unfold resumeExtension at done
  split at done
  · cases done
  split at done
  · cases done
    exact same_spares rfl
  rename_i fits
  push Not at fits
  split at done
  · cases done
  rw [withPower_row done]
  have free : vm.deletionStartedAt = none := by simpa using fits.2.1
  exact started_spares (by rw [fits.1]; exact ⟨nofun, nofun⟩) free (Or.inl rfl)

theorem resumeTransfer_spares {accounts : AccountId → Option Bool}
    (done : (resumeTransfer accounts now power starts vm transfer).row = some written) :
    Spares provisionedAt vm written.1 := by
  unfold resumeTransfer at done
  split at done
  · cases done
  · cases done
  split at done
  · cases done
    exact spares_refl
  split at done
  · cases done
  split at done
  · cases done
    exact spares_refl
  rename_i free
  split at done
  · cases done
    exact same_spares rfl
  split at done
  · cases done
    exact same_spares rfl
  rename_i alive
  push Not at alive
  split at done
  · rw [withPower_row done]
    by_cases building : vm.status = .provisioning
    · exact same_spares (by simp [building])
    · exact started_spares alive (by simpa using free) (Or.inl (if_neg building))
  split at done
  · cases done
    exact stopped_spares alive (Or.inr rfl)
  · cases done
    exact same_spares rfl

theorem vmAction_spares {action : PowerAction} {enabled : Bool} {works : Bool}
    (done : vmAction action enabled now power works vm = some row) :
    Spares provisionedAt vm row := by
  have writes := vmAction_writes done
  rcases writes.row with ⟨rfl, rfl⟩ | ⟨_, rfl⟩ | ⟨_, rfl⟩
  · have unfailed : vm.status ≠ .failed := by
      intro failed
      simp only [vmAction, failed] at done
      repeat' split at done
      all_goals simp_all
    exact started_spares ⟨writes.alive.1, unfailed⟩ writes.unclaimed (Or.inl rfl)
  · exact spares_refl
  · by_cases failed : vm.status = .failed
    · exact same_spares (by simp [stoppedRow, failed])
    · exact stopped_spares ⟨writes.alive.1, failed⟩ (Or.inl (by simp [stoppedRow, failed]))

theorem deliverVm_spares {uuid : Nat} (done : deliverVm uuid power stops vm = some row) :
    Spares provisionedAt vm row := by
  unfold deliverVm at done
  split at done
  · cases done
  rename_i free
  split at done
  · cases done
  rename_i waits
  have alive : vm.status ≠ .destroyed ∧ vm.status ≠ .failed := by
    constructor <;> intro ended <;> simp [ended] at waits
  split at done
  · cases done
  split at done
  · split at done
    · cases done
      exact stopped_spares alive (Or.inl rfl)
    · cases done
  · cases done
    exact started_spares alive (by simpa using free) (Or.inr rfl)

theorem failVm_spares (unprovisioned : vm.status = .provisioning → provisionedAt = none)
    (done : Lifecycle.failVm power stops vm = some row) : Spares provisionedAt vm row := by
  unfold Lifecycle.failVm at done
  split at done
  · cases done
  rename_i waits
  split at done
  · cases done
  cases done
  have building := not_not.mp waits
  exact failed_spares (by rw [building]; nofun) (unprovisioned building) rfl

end Rows

theorem decideRow_spares {desk : StatusDesk} {actor : Actor} {vm : ExpiringVm}
    (may : mayWrite (.lifecycle (.actor actor fate)) desk) (found : desk.lifecycle.vm = some vm)
    (done : (decideRow actor vm desk.lifecycle).row = some written) :
    Spares desk.provisionedAt vm written.1 := by
  have allowed := may vm found
  cases decideRow_decided done with
  | suspended decided => exact suspendAccount_spares decided
  | resumed owns decided =>
    apply resumeAccount_spares ?_ decided
    intro disabled guest open_ current
    apply allowed
    simp [startsGuest, owns, disabled, guest, open_, current]
  | extended decided => exact resumeExtension_spares decided
  | handed decided => exact resumeTransfer_spares decided
  | powered decided => exact vmAction_spares decided
  | granted decided => exact same_spares (extendVmExpiry_tended decided).2
  | transferred decided => exact same_spares (transferVm_tended decided).2
  | claimed decided => exact same_spares (claimVm_tended decided).2
  | built => exact same_spares rfl
  | delivered decided => exact deliverVm_spares decided
  | failed decided => exact failVm_spares allowed decided

def Buried (vm : ExpiringVm) (retention : Option VmRetention) : Prop :=
  vm.status = .destroyed → vm.deletionStartedAt.isSome ∧ retention = none

structure MovesTo (provisionedAt : Option Time) (vm row : ExpiringVm)
    (retention : Option VmRetention) : Prop where
  follows : Follows provisionedAt vm row
  buried : Buried row retention

section Moves
variable {config : ExpiryConfig} {desk : LifecycleDesk} {vm row : ExpiringVm}
  {provisionedAt : Option Time} {retention : Option VmRetention}

theorem alive_moves (spares : Spares provisionedAt vm row) (alive : vm.status ≠ .destroyed) :
    MovesTo provisionedAt vm row retention where
  follows := spares.toFollows
  buried ended := absurd (spares.spared ended) alive

theorem written_moves (spares : Spares provisionedAt vm row)
    (claim : row.deletionStartedAt = vm.deletionStartedAt) (buried : Buried vm retention) :
    MovesTo provisionedAt vm row retention where
  follows := spares.toFollows
  buried ended := by
    rw [claim]
    exact buried (spares.spared ended)

theorem moves_refl (buried : Buried vm retention) : MovesTo provisionedAt vm vm retention :=
  written_moves spares_refl rfl buried

theorem extretainedspares {request : ExtendRequest} {before : ExpiryDesk}
    {receipt : ExtensionReceipt} (found : before.vm = some vm)
    (done : extendRequest request before = .ok (row, receipt)) :
    Spares provisionedAt vm row ∧ vm.status ≠ .destroyed := by
  have open_ : hasEnded vm.status = false := by
    by_contra ended
    exact extendRequest_ended found (by simpa using ended) done
  simp only [hasEnded, Bool.or_eq_false_iff, decide_eq_false_iff_not] at open_
  obtain ⟨other, there, writes⟩ := extendRequest_writes done
  rw [found] at there
  cases there
  obtain ⟨checked, reconciled, _, status, _⟩ := writes.base
  rcases reconciled with rfl | ⟨_, _, rfl⟩
  · exact ⟨same_spares status, open_.1.1⟩
  · exact ⟨stopped_spares open_.1 (Or.inl status), open_.1.1⟩

theorem expiry_moves (own : isOwnStep step = true) (deleting : DeletionsHeld desk)
    (buried : Buried vm desk.retention)
    (unretained : vm.status = .failed → ∀ w protects fate, step = .retain w protects fate →
      ∀ deletion, desk.deletions w = some deletion → deletion.manifest = none)
    (found : desk.vm = some vm) :
    ∃ row, (expiryStep config step (expiryDesk desk)).vm = some row ∧
      MovesTo provisionedAt vm row (expiryStep config step (expiryDesk desk)).retention := by
  have here : (expiryDesk desk).vm = some vm := found
  have buried' : Buried vm (expiryDesk desk).retention := buried
  have move := expiryStep_moves config (expiryDesk desk) step own
  generalize expiryStep config step (expiryDesk desk) = final at move ⊢
  cases move.row with
  | rests same retention _ =>
    rw [retention]
    exact ⟨vm, same.trans here, moves_refl buried'⟩
  | created owner expiresAt absent _ _ _ =>
    rw [here] at absent
    cases absent
  | extended request fate row receipt _ done now _ _ =>
    obtain ⟨spares, alive⟩ := extretainedspares here done
    exact ⟨row, now, alive_moves spares alive⟩
  | suspended row written suspends there decided now _ _ =>
    rw [here] at there
    cases there
    have unfailed : vm.status ≠ .failed := fun failed => sweepVm_failed failed decided
    obtain ⟨unclaimed, _, _, rfl⟩ := sweepVm_writes decided
    have undestroyed : vm.status ≠ .destroyed := by
      intro ended
      have claimed := (buried ended).1
      rw [unclaimed] at claimed
      cases claimed
    refine ⟨_, now, alive_moves ?_ undestroyed⟩
    by_cases building : vm.status = .provisioning
    · exact same_spares (by simp [building])
    · exact stopped_spares ⟨undestroyed, unfailed⟩ (Or.inl (if_neg building))
  | claimed row cutoff captures claim there due decided now retention _ =>
    rw [here] at there
    cases there
    have writes := claimDeletion_writes decided
    have same : claim.vm.status = vm.status := by rw [writes.vm]
    refine ⟨claim.vm, now, (same_spares same).toFollows, fun ended => ?_⟩
    have destroyed := same.symm.trans ended
    have free := (buried' destroyed).2
    rw [free] at decided
    constructor
    · rw [writes.vm]
      rfl
    · rw [retention]
      exact claimDeletion_destroyed destroyed decided
  | protected_ row record there retained _ _ now _ _ manifest =>
    rw [here] at there
    cases there
    have undestroyed : vm.status ≠ .destroyed := by
      intro ended
      rw [(buried' ended).2] at retained
      cases retained
    have unfailed : vm.status ≠ .failed := by
      intro failed
      obtain ⟨w, protects, fate, deletion, asked, runs, kept⟩ := manifest
      rw [unretained failed w protects fate asked deletion runs] at kept
      cases kept
    exact ⟨_, now, alive_moves (stopped_spares ⟨undestroyed, unfailed⟩ (Or.inl rfl)) undestroyed⟩
  | destroyed row written w deletion there runs unmanifest now status same retention _ =>
    rw [here] at there
    cases there
    obtain ⟨free, held, stored, started⟩ := deleting w deletion runs unmanifest
    rw [found] at stored
    cases stored
    refine ⟨written, now, destroyed_follows status, fun _ => ⟨?_, ?_⟩⟩
    · rw [same.1]
      exact started
    · rw [retention]
      exact free

theorem restore_moves {id : OperationId} (found : desk.vm = some vm)
    (buried : Buried vm desk.retention) (move : RestoreMove id desk after) :
    ∃ row, after.vm = some row ∧ MovesTo provisionedAt vm row after.retention := by
  cases move with
  | rests same =>
    subst same
    exact ⟨vm, found, moves_refl buried⟩
  | prepared request record expiry _ retained _ same =>
    subst same
    refine ⟨vm, found, spares_refl.toFollows, fun ended => ?_⟩
    rw [(buried ended).2] at retained
    cases retained
  | authorized _ _ _ _ there _ _ stopped _ _ same | completed _ _ _ _ there _ _ _ stopped _ same =>
    subst same
    rw [found] at there
    cases there
    refine ⟨_, rfl, alive_moves (same_spares rfl) ?_⟩
    simp [stopped]

def Fresh (desk : LifecycleDesk) : Prop := ∀ row, desk.vm = some row → row.status = .provisioning

theorem absent_fresh (absent : desk.vm = none) : Fresh desk := by
  intro row found
  rw [absent] at found
  cases found

theorem expiry_fresh (own : isOwnStep step = true) (absent : desk.vm = none) :
    Fresh (Lifecycle.act config (.expiry step) desk) := by
  intro row now
  have there : (expiryDesk desk).vm = none := absent
  have view : (Lifecycle.act config (.expiry step) desk).toExpiryDesk =
      expiryStep config step (expiryDesk desk) := act_expiry own
  replace view := congrArg ExpiryDesk.vm view
  rw [now] at view
  cases (expiryStep_moves config (expiryDesk desk) step own).row with
  | rests same _ _ =>
    rw [same, there] at view
    cases view
  | created owner expiresAt _ same _ _ =>
    rw [same] at view
    cases view
    rfl
  | extended request fate extended receipt _ done _ _ _ =>
    obtain ⟨vm, found, _⟩ := extendRequest_writes done
    rw [there] at found
    cases found
  | suspended _ _ _ found | claimed _ _ _ _ found | protected_ _ _ found
  | destroyed _ _ _ _ found =>
    rw [there] at found
    cases found

theorem restore_fresh {id : OperationId} (absent : desk.vm = none)
    (move : RestoreMove id desk after) : Fresh after := by
  cases move with
  | rests same | prepared _ _ _ _ _ _ same =>
    rw [same]
    exact absent_fresh absent
  | authorized _ _ _ _ found | completed _ _ _ _ found =>
    rw [absent] at found
    cases found

theorem act_fresh (step : LifecycleStep) (absent : desk.vm = none) :
    Fresh (Lifecycle.act config step desk) := by
  have move := act_cases config step desk
  generalize Lifecycle.act config step desk = after at move ⊢
  cases move with
  | aside | erased => exact absent_fresh absent
  | expired own => exact expiry_fresh own absent
  | closed found | acted found =>
    rw [absent] at found
    cases found
  | prepared done => exact restore_fresh absent (prepareRestore_moves done)
  | visited done => exact restore_fresh absent (visitRestore_moves done)

end Moves

theorem act_moves {config : ExpiryConfig} {desk : StatusDesk} {vm : ExpiringVm}
    (step : LifecycleStep) (deleting : DeletionsHeld desk.lifecycle)
    (buried : Buried vm desk.lifecycle.retention) (may : mayWrite (.lifecycle step) desk)
    (found : desk.lifecycle.vm = some vm) :
    ∃ row, (Lifecycle.act config step desk.lifecycle).vm = some row ∧
      MovesTo desk.provisionedAt vm row (Lifecycle.act config step desk.lifecycle).retention := by
  have allowed := may vm found
  have move := act_cases config step desk.lifecycle
  generalize Lifecycle.act config step desk.lifecycle = after at move ⊢
  cases move with
  | aside | erased => exact ⟨vm, found, moves_refl buried⟩
  | expired own =>
    rw [act_expiry own]
    apply expiry_moves own deleting buried ?_ found
    rintro failed w protects fate rfl deletion runs
    by_contra kept
    exact allowed deletion runs (Option.isSome_iff_ne_none.mpr kept) failed
  | closed there detached =>
    rw [found] at there
    cases there
    have tended := detachVm_tended detached
    exact ⟨_, rfl, written_moves (same_spares tended.2) tended.1.claim buried⟩
  | @acted actor fate _ there =>
    rw [found] at there
    cases there
    rcases actOn_result desk.lifecycle actor fate vm with same | ⟨written, decided, same⟩
    · rw [same]
      exact ⟨vm, found, moves_refl buried⟩
    · rw [same]
      exact ⟨written.1, rfl, written_moves (decideRow_spares may found decided)
        (decideRow_tended decided).claim buried⟩
  | prepared done => exact restore_moves found buried (prepareRestore_moves done)
  | visited done => exact restore_moves found buried (visitRestore_moves done)

end HyruleCloud.Statuses
