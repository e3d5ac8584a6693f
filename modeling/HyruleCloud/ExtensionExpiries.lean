import HyruleCloud.RetainedGuests
import HyruleCloud.VmExtensions

/-!
No step of the lifecycle takes time away from a VM: the expiry of a row is never set back,
and the restore of a retained guest grants its days on top of the expiry that it found.
-/

namespace HyruleCloud.VmExtensions

open Interaction Expiry Lifecycle ExtendDesk

def Reaches (bound : Time) (desk : LifecycleDesk) : Prop :=
  ∃ vm expiresAt, desk.vm = some vm ∧ vm.expiresAt = some expiresAt ∧ bound ≤ expiresAt

def RestoresLater (desk : LifecycleDesk) : Prop :=
  ∀ restore ∈ desk.restores, restore.previousExpiry ≤ restore.newExpiry

variable {value : Unit}

section Rows
variable {vm row : ExpiringVm}

def NotEarlier (vm row : ExpiringVm) : Prop :=
  ∀ expiry, vm.expiresAt = some expiry → ∃ later, row.expiresAt = some later ∧ expiry ≤ later

theorem same_later (same : row.expiresAt = vm.expiresAt) : NotEarlier vm row := by
  intro expiry there
  exact ⟨expiry, same.trans there, le_refl expiry⟩

end Rows

variable {step : ExpiryStep} {id : OperationId}

section Lifecycle
variable {config : ExpiryConfig} {desk after : LifecycleDesk} {bound : Time}

theorem later_reaches {vm row : ExpiringVm} (found : desk.vm = some vm) (now : after.vm = some row)
    (later : NotEarlier vm row) (reaches : Reaches bound desk) : Reaches bound after := by
  obtain ⟨held, expiry, there, expires, enough⟩ := reaches
  rw [found] at there
  cases there
  obtain ⟨next, written, grows⟩ := later expiry expires
  exact ⟨row, next, now, written, enough.trans grows⟩

theorem same_reaches (same : after.vm = desk.vm) (reaches : Reaches bound desk) :
    Reaches bound after := by
  obtain ⟨vm, expiry, found, rest⟩ := reaches
  exact ⟨vm, expiry, same.trans found, rest⟩

theorem expiry_row (own : isOwnStep step = true) :
    (Lifecycle.act config (.expiry step) desk).vm = (expiryStep config step (expiryDesk desk)).vm :=
  congrArg ExpiryDesk.vm (act_expiry own)

theorem expiry_reaches (own : isOwnStep step = true)
    (reaches : Reaches bound desk) : Reaches bound (Lifecycle.act config (.expiry step) desk) := by
  have row : (Lifecycle.act config (.expiry step) desk).vm =
      (expiryStep config step (expiryDesk desk)).vm :=
    expiry_row own
  obtain ⟨vm, expiry, found, expires, enough⟩ := reaches
  have here : (expiryDesk desk).vm = some vm := found
  have kept : Reaches bound desk := ⟨vm, expiry, found, expires, enough⟩
  cases (expiryStep_moves config (expiryDesk desk) step own).row with
  | rests same _ _ => exact same_reaches (row.trans same) kept
  | created owner expiresAt absent _ _ _ =>
    rw [here] at absent
    cases absent
  | extended request fate written receipt _ done now _ _ =>
    obtain ⟨other, there, grown⟩ := extendRequest_extends done
    rw [here] at there
    cases there
    exact ⟨written, receipt.newExpiry, row.trans now, grown.expiry,
      enough.trans (grown.later expiry expires)⟩
  | suspended other written suspends there decided now _ _ =>
    rw [here] at there
    cases there
    obtain ⟨_, _, _, rfl⟩ := sweepVm_writes decided
    exact later_reaches found (row.trans now) (same_later rfl) kept
  | claimed other cutoff captures claim there _ decided now _ _ =>
    rw [here] at there
    cases there
    apply later_reaches found (row.trans now) (same_later ?_) kept
    rw [(claimDeletion_writes decided).vm]
  | protected_ other record there _ _ _ now _ _ _ =>
    rw [here] at there
    cases there
    exact later_reaches found (row.trans now) (same_later rfl) kept
  | destroyed other written w deletion there _ _ now _ same _ _ =>
    rw [here] at there
    cases there
    exact later_reaches found (row.trans now) (same_later same.2.2.2.1) kept

structure Expires (bound : Time) (desk : LifecycleDesk) : Prop where
  reaches : Reaches bound desk
  later : RestoresLater desk

theorem writeRestore_later {state : RestoreState} {restores : List VmRestore}
    (later : ∀ restore ∈ restores, restore.previousExpiry ≤ restore.newExpiry) :
    ∀ restore ∈ writeRestore id state restores, restore.previousExpiry ≤ restore.newExpiry := by
  intro restore listed
  obtain ⟨before, there, rfl⟩ := List.mem_map.mp listed
  split
  · exact later before there
  · exact later before there

theorem prepareRestore_expires {request : RestoreRequest} (expires : Expires bound desk)
    (done : prepareRestore request desk = .ok (after, value)) : Expires bound after := by
  unfold prepareRestore at done
  split at done
  · split at done
    · cases done
      exact expires
    · cases done
  · split at done
    · cases done
    split at done
    · cases done
    rename_i expiry _
    split at done
    · cases done
    cases done
    refine ⟨same_reaches rfl expires.reaches, fun restore listed => ?_⟩
    rcases List.mem_cons.mp listed with rfl | there
    · exact (le_max_left expiry _).trans (Nat.le_add_right _ _)
    · exact expires.later restore there
  · cases done

theorem visitRestore_expires {finalize restores : Bool}
    (expires : Expires bound desk)
    (done : visitRestore id finalize restores desk = .ok (after, value)) : Expires bound after := by
  obtain ⟨held, expiry, stored, until_, enough⟩ := expires.reaches
  unfold visitRestore at done
  split at done
  · cases done
  rename_i restore listed
  have gains := expires.later restore (List.mem_of_find?_eq_some listed)
  split at done
  · cases done
    exact expires
  split at done
  · rename_i vm record found retained
    rw [stored] at found
    cases found
    unfold continueRestore at done
    split at done
    · cases done
    split at done
    · cases done
    split at done
    · unfold authorizeRestore at done
      split at done
      · cases done
      rename_i current
      push Not at current
      cases done
      rw [current.1] at until_
      cases until_
      exact ⟨⟨_, _, rfl, rfl, enough.trans gains⟩, writeRestore_later expires.later⟩
    split at done
    · cases done
    rename_i current
    push Not at current
    split at done
    · cases done
      exact expires
    split at done
    · cases done
    cases done
    rw [current.2] at until_
    cases until_
    exact ⟨⟨_, _, rfl, rfl, enough⟩, writeRestore_later expires.later⟩
  · cases done

theorem noteRetention_restores (before desk : LifecycleDesk) :
    (noteRetention before desk).restores = desk.restores := by
  unfold noteRetention
  split <;> rfl

theorem act_expires (step : LifecycleStep) (expires : Expires bound desk) :
    Expires bound (Lifecycle.act config step desk) := by
  have move := act_cases config step desk
  generalize Lifecycle.act config step desk = after at move ⊢
  cases move with
  | aside | erased => exact ⟨expires.reaches, expires.later⟩
  | expired own =>
    refine ⟨expiry_reaches own expires.reaches, ?_⟩
    simp only [Lifecycle.act, own, if_true]
    unfold RestoresLater
    rw [noteRetention_restores]
    exact expires.later
  | closed found detached =>
    exact ⟨later_reaches found rfl (detachVm_tended detached).1.later expires.reaches, expires.later⟩
  | @acted actor fate vm found =>
    rcases actOn_result desk actor fate vm with same | ⟨written, decided, same⟩
    · rw [same]
      exact ⟨expires.reaches, expires.later⟩
    · rw [same]
      exact ⟨later_reaches found rfl (decideRow_tended decided).later expires.reaches, expires.later⟩
  | prepared done => exact prepareRestore_expires expires done
  | visited done => exact visitRestore_expires expires done

theorem unwaiting_row {step : LifecycleStep} (free : waits step desk = false) :
    (Lifecycle.act config step desk).vm = desk.vm := by
  unfold waits at free
  split at free
  · exact (expiry_row rfl).trans rfl
  · apply (expiry_row rfl).trans
    simp only [expiryStep]
    split
    · rfl
    · split <;> rfl
  · exact (expiry_row rfl).trans rfl
  · simp only [Lifecycle.act]
    repeat' split
    all_goals rfl
  · simp only [Lifecycle.act]
    split <;> rfl
  · simp only [Lifecycle.act]
    split <;> rfl
  · simp only [Lifecycle.act]
    split <;> rfl
  · cases free

end Lifecycle

def lifecycles (config : ExpiryConfig) : Protocol LifecycleDesk LifecycleStep :=
  ⟨lifecycleStep config, fun _ _ => True⟩

theorem lifecycle_expires (config : ExpiryConfig) {bound : Time} (desk : LifecycleDesk)
    (steps : List LifecycleStep) (expires : Expires bound desk) :
    Expires bound ((lifecycles config).run desk steps) := by
  refine (lifecycles config).run_keeps (fun step desk expires _ => ?_) steps desk expires
    ((lifecycles config).admits_all (fun _ _ => trivial) _ _)
  have kept : Expires bound (Lifecycle.act config step desk) := act_expires step expires
  exact ⟨kept.reaches, kept.later⟩

/-- Between any two states of a run: what the VM has been promised is never taken back. -/
theorem expiry_never_earlier (config : ExpiryConfig) (desk : LifecycleDesk)
    (first rest : List LifecycleStep) (fresh : desk.restores = []) (dated : Reaches 0 desk) :
    ∃ vm expiry, ((lifecycles config).run desk first).vm = some vm ∧
      vm.expiresAt = some expiry ∧
      Reaches expiry ((lifecycles config).run desk (first ++ rest)) := by
  have kept : Expires 0 ((lifecycles config).run desk first) := by
    refine lifecycle_expires config desk first ⟨dated, fun restore listed => ?_⟩
    rw [fresh] at listed
    cases listed
  obtain ⟨vm, expiry, found, expires, _⟩ := kept.reaches
  refine ⟨vm, expiry, found, expires, ?_⟩
  rw [Protocol.run_append]
  exact (lifecycle_expires config _ rest
    ⟨⟨vm, expiry, found, expires, le_refl expiry⟩, kept.later⟩).reaches

theorem restored_expiry_later : let desk := (lifecycles ⟨10, true⟩).run bareDesk (deliveredTo 1)
    ∃ vm expiry, ((lifecycles ⟨10, true⟩).run desk retainedRun).vm = some vm ∧
      vm.expiresAt = some expiry ∧
      Reaches expiry ((lifecycles ⟨10, true⟩).run desk (retainedRun ++ restoredRun)) :=
  expiry_never_earlier ⟨10, true⟩ _ retainedRun restoredRun rfl
    ⟨{ owner := (some 1, some (.evm 5)), status := .ready, expiresAt := some 100,
       xcpngUuid := some 7 }, 100, by decide +kernel, rfl, by decide⟩

end HyruleCloud.VmExtensions
