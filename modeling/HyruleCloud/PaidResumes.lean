import HyruleCloud.LifecycleMoves

/-!
A paid extension of a VM that was suspended for its expiry starts the guest again. The
marker of the extension carries that promise over provider failures and crashes; the
other actors must leave the marker, or make it unnecessary.
-/

namespace HyruleCloud.Lifecycle

open Interaction Expiry

structure IsDue (desk : LifecycleDesk) (vm : ExpiringVm) : Prop where
  unclaimed : vm.deletionStartedAt = none
  unstopped : vm.suspension ≠ some .manualAdmin
  enabled : vmOwnerEnabled desk.accounts vm = true
  paid : ∃ expiry, vm.expiresAt = some expiry ∧ desk.now < expiry

/-- The passes over the markers, with a provider that starts the halted guest. -/
def resumePasses : List LifecycleStep :=
  [.actor (.resumeExtension .halted true) .done, .actor (.resumeTransfer .halted true) .done]

def IsAwaited (config : ExpiryConfig) (desk : LifecycleDesk) (vm : ExpiringVm) : Prop :=
  (vm.resume.isSome ∨ desk.transfer.isSome) ∧
    ∃ pass ∈ resumePasses, ∃ row, (lifecycleStep config pass desk).vm = some row ∧
      isRunning row = true

/-- The owner is enabled, no administrator has stopped the VM and no deletion claims it. -/
structure StartSound (start : GuestStart) : Prop where
  enabled : start.ownerEnabled = true
  unstopped : start.vm.suspension ≠ some .manualAdmin
  unclaimed : start.vm.deletionStartedAt = none

structure ResumesKept (config : ExpiryConfig) (desk : LifecycleDesk) : Prop where
  owed : desk.owed = true → ∀ vm, desk.vm = some vm → IsDue desk vm →
    isRunning vm = true ∨ IsAwaited config desk vm
  starts : ∀ start ∈ desk.starts, StartSound start

/-- Nobody claims a stopped VM whose marker is pending, a suspended VM is extended only if
it has a guest, no account resumes a VM that is claimed for its deletion, and no transfer
resumes one that an administrator has stopped. -/
def mayResume (step : LifecycleStep) (desk : LifecycleDesk) : Prop :=
  ∀ vm, desk.vm = some vm → match step with
    | .expiry (.extend _ _) => vm.status = .suspended → vm.xcpngUuid.isSome
    | .actor (.claim _) _ => vm.status = .suspended → vm.resume = none
    | .actor (.resumeResources _ _ _) _ =>
      vm.suspension = some .accountDisabled → vm.deletionStartedAt = none
    | .actor (.resumeTransfer _ _) _ =>
      desk.transfer.isSome → vm.suspension ≠ some .manualAdmin
    | _ => True

def resumes (config : ExpiryConfig) : Protocol LifecycleDesk LifecycleStep :=
  ⟨lifecycleStep config, mayResume⟩

/-- The VM has no extension that is owed, and nobody is deleting it. -/
structure ResumesStart (desk : LifecycleDesk) : Prop where
  owed : desk.owed = false
  starts : desk.starts = []
  deletions : ∀ w, desk.deletions w = none

/-! The invariant: a stopped VM whose extension is owed is claimed for its deletion, was
stopped by an administrator, or still has its marker. -/

inductive Waits (vm : ExpiringVm) : Prop where
  | claimed (claim : vm.deletionStartedAt.isSome)
  | stopped (guest : vm.xcpngUuid.isSome) (status : vm.status = .suspended)
      (reason : vm.suspension = some .manualAdmin)
  | marked (uuid : Nat) (guest : vm.xcpngUuid = some uuid) (status : vm.status = .suspended)
      (reason : vm.suspension = some .expired) (marker : vm.resume = some ⟨uuid, vm.owner⟩)

def Owing (vm : ExpiringVm) : Prop := isRunning vm = true ∨ Waits vm

structure ResumesSafe (desk : LifecycleDesk) : Prop where
  owed : desk.owed = true → ∃ vm, desk.vm = some vm ∧ Owing vm
  deleting : DeletionsHeld desk
  starts : ∀ start ∈ desk.starts, StartSound start

variable {enabled kept starts stops : Bool} {power : PowerState} {transfer : Option TransferHandoff}
  {caller : Resumer} {written : ExpiringVm} {now : Time}

variable {account : AccountId} {actor : Actor} {retained : Bool}

section Rows
variable {desk : LifecycleDesk} {vm : ExpiringVm} {row : ExpiringVm × Option TransferHandoff}

theorem resumeExtension_sound
    (calls : (resumeExtension enabled power starts vm transfer).starts = some caller) :
    StartSound ⟨caller, enabled, vm, kept⟩ := by
  unfold resumeExtension at calls
  split at calls
  · cases calls
  split at calls
  · cases calls
  rename_i fresh
  push Not at fresh
  obtain ⟨_, unclaimed, _, _, unrestricted⟩ := fresh
  split at calls
  · cases calls
  rename_i allowed
  constructor
  · simpa using allowed
  · intro stopped
    apply unrestricted
    simp only [isRestricted, Bool.or_eq_true, decide_eq_true_eq]
    exact Or.inr stopped
  · simpa using unclaimed

theorem resumeTransfer_sound (unstopped : desk.transfer.isSome → vm.suspension ≠ some .manualAdmin)
    (calls : (resumeTransfer desk.accounts desk.now power starts vm desk.transfer).starts =
      some caller) : StartSound ⟨caller, vmOwnerEnabled desk.accounts vm, vm, kept⟩ := by
  unfold resumeTransfer at calls
  split at calls
  · cases calls
  · cases calls
  rename_i account handoff owned marked
  split at calls
  · cases calls
  split at calls
  · cases calls
  rename_i enabled
  split at calls
  · cases calls
  rename_i unclaimed
  constructor
  · simp only [vmOwnerEnabled, owned]
    simpa using enabled
  · exact unstopped (by rw [marked]; rfl)
  · simpa using unclaimed

theorem resumeAccount_sound (enabled : desk.accounts account = some true)
    (owned : vm.owner.1 = some account)
    (unclaimed : vm.suspension = some .accountDisabled → vm.deletionStartedAt = none)
    (calls : (resumeAccount desk.now power starts vm desk.transfer).starts = some caller) :
    StartSound ⟨caller, vmOwnerEnabled desk.accounts vm, vm, kept⟩ := by
  unfold resumeAccount at calls
  split at calls
  · cases calls
  rename_i disabled
  have reason := not_not.mp disabled
  constructor
  · simp [vmOwnerEnabled, owned, enabled]
  · intro stopped
    rw [reason] at stopped
    cases stopped
  · exact unclaimed reason

theorem decideRow_sound {fate : Fate} (found : desk.vm = some vm)
    (may : mayResume (.actor actor fate) desk)
    (calls : (decideRow actor vm desk).starts = some caller) :
    StartSound ⟨caller, vmOwnerEnabled desk.accounts vm, vm, kept⟩ := by
  have allowed := may vm found
  cases actor with
  | resumeResources account power starts =>
    simp only [decideRow] at calls
    split at calls
    · rename_i due
      exact resumeAccount_sound due.1 due.2 allowed calls
    · cases calls
  | resumeExtension power starts => exact resumeExtension_sound calls
  | resumeTransfer power starts => exact resumeTransfer_sound allowed calls
  | suspendResources | transfer | claim | guest =>
    simp only [decideRow] at calls
    split at calls <;> cases calls
  | power | grant | deliver | fail => cases calls

/-! Each actor, on a stopped VM whose extension is owed. -/

theorem owing_claimed (claim : vm.deletionStartedAt.isSome) : Owing vm := Or.inr (.claimed claim)

variable (waits : Waits vm)
include waits

theorem waits_suspend (done : suspendAccount power stops vm = some written) :
    Owing written := by
  have claim := (suspendAccount_tended done).claim
  cases waits with
  | claimed started => exact owing_claimed (claim ▸ started)
  | stopped _ status reason | marked _ _ status reason =>
    simp [suspendAccount, status, reason] at done

theorem waits_account
    (done : (resumeAccount now power starts vm transfer).row = some row) : Owing row.1 := by
  have claim := (resumeAccount_tended done).claim
  cases waits with
  | claimed started => exact owing_claimed (claim ▸ started)
  | stopped _ _ reason | marked _ _ _ reason => simp [resumeAccount, reason] at done

theorem waits_extension
    (done : (resumeExtension enabled power starts vm transfer).row = some row) : Owing row.1 := by
  have claim := (resumeExtension_tended done).claim
  cases waits with
  | claimed started => exact owing_claimed (claim ▸ started)
  | stopped guest status reason =>
    -- the marker is dropped, and the administrator's stop stands
    unfold resumeExtension at done
    split at done
    · cases done
    · simp only [isRestricted, reason, decide_true, Bool.or_true, or_true, if_true] at done
      cases done
      exact Or.inr (.stopped guest status rfl)
  | marked uuid guest status reason marker =>
    unfold resumeExtension at done
    rw [marker] at done
    dsimp only at done
    split at done
    · rename_i stale
      simp only [status, guest, reason, isRestricted, ne_eq, not_true, false_or,
        decide_eq_true_eq, Bool.or_eq_true, reduceCtorEq, or_false, Option.some.injEq] at stale
      cases done
      exact owing_claimed stale
    split at done
    · cases done
    · rw [withPower_row done]
      exact Or.inl rfl

omit waits

theorem waits_transfer (unstopped : desk.transfer.isSome → vm.suspension ≠ some .manualAdmin)
    (waits : Waits vm)
    (done : (resumeTransfer desk.accounts desk.now power starts vm desk.transfer).row =
      some row) : Owing row.1 := by
  have claim := (resumeTransfer_tended done).claim
  cases waits with
  | claimed started => exact owing_claimed (claim ▸ started)
  | stopped guest status reason =>
    unfold resumeTransfer at done
    split at done
    · cases done
    · cases done
    · rename_i account handoff owned marked
      exact absurd reason (unstopped (by rw [marked]; rfl))
  | marked uuid guest status reason marker =>
    unfold resumeTransfer at done
    split at done
    · cases done
    · cases done
    split at done
    · cases done
      exact Or.inr (.marked uuid guest status reason marker)
    split at done
    · cases done
    split at done
    · rename_i started
      exact owing_claimed (claim ▸ started)
    split at done
    · cases done
      exact Or.inr (.marked uuid guest status rfl marker)
    split at done
    · rename_i ended
      simp [status] at ended
    split at done
    · rw [withPower_row done]
      simp [Owing, isRunning, status]
    · rename_i guestless
      simp [status, guest] at guestless

include waits

theorem waits_power {action : PowerAction} {works : Bool}
    (done : vmAction action enabled now power works vm = some written) : Owing written := by
  have writes := vmAction_writes done
  have halted : vm.status = .suspended ∧ vm.suspension ≠ some .accountDisabled := by
    cases waits with
    | claimed started =>
      rw [writes.unclaimed] at started
      cases started
    | stopped _ status reason | marked _ _ status reason => exact ⟨status, by rw [reason]; nofun⟩
  rcases writes.row with ⟨_, rfl⟩ | ⟨_, rfl⟩ | ⟨_, rfl⟩
  · exact Or.inl rfl
  · exact Or.inr waits
  · refine Or.inr (.stopped writes.guest ?_ ?_)
    · simp [stoppedRow, halted.1]
    · simp [stoppedRow, halted.2]

theorem waits_grant {days : Nat}
    (done : extendVmExpiry days now vm = some written) : Owing written := by
  unfold extendVmExpiry at done
  split at done
  · cases done
  split at done
  · cases done
  cases done
  apply Or.inr
  cases waits with
  | claimed started => exact .claimed started
  | stopped guest status reason => exact .stopped guest status reason
  | marked uuid guest status reason marker => exact .marked uuid guest status reason marker

theorem waits_owner {target : AccountId} {wallet : Option Wallet}
    (done : transferVm target wallet vm transfer = some row) : Owing row.1 := by
  have claim := (transferVm_tended done).1.claim
  cases waits with
  | claimed started => exact owing_claimed (claim ▸ started)
  | stopped guest status reason =>
    simp only [transferVm, status, reason] at done
    repeat' split at done
    all_goals cases done
    · rename_i disabled _
      cases disabled
    · rename_i disabled _
      cases disabled
    · exact Or.inr (.stopped guest rfl rfl)
  | marked uuid guest status reason marker => simp [transferVm, status, marker] at done

omit waits

theorem waits_claim (pending : vm.status = .suspended → vm.resume = none) (waits : Waits vm)
    (done : claimVm account retained vm = some written) : Owing written := by
  unfold claimVm at done
  split at done
  · cases done
  split at done
  · cases done
  cases done
  cases waits with
  | claimed started => exact owing_claimed started
  | stopped guest status reason => exact Or.inr (.stopped guest status reason)
  | marked uuid guest status reason marker =>
    rw [pending status] at marker
    cases marker

include waits

theorem waits_detach (done : detachVm retained vm = some written) : Owing written := by
  unfold detachVm at done
  split at done
  · cases done
  split at done
  · cases done
  rename_i free
  cases done
  cases waits with
  | claimed started => exact owing_claimed started
  | stopped guest status reason => exact Or.inr (.stopped guest status reason)
  | marked uuid guest status reason marker => simp [status, marker] at free

theorem waits_deliver {uuid : Nat}
    (done : deliverVm uuid power stops vm = some written) : Owing written := by
  have claim := (deliverVm_tended done).claim
  cases waits with
  | claimed started => exact owing_claimed (claim ▸ started)
  | stopped guest status reason =>
    unfold deliverVm at done
    simp only [status, reason, isRestricted] at done
    repeat' split at done
    all_goals cases done
    · exact Or.inr (.stopped guest rfl rfl)
    · exact Or.inl rfl
  | marked other guest status reason marker => simp [deliverVm, status, reason, isRestricted] at done

theorem waits_fail (done : failVm power stops vm = some written) :
    Owing written := by
  have claim := (failVm_tended done).claim
  cases waits with
  | claimed started => exact owing_claimed (claim ▸ started)
  | stopped _ status | marked _ _ status => simp [failVm, status] at done

omit waits

theorem decideRow_waits {fate : Fate} (found : desk.vm = some vm)
    (may : mayResume (.actor actor fate) desk) (waits : Waits vm)
    (done : (decideRow actor vm desk).row = some row) : Owing row.1 := by
  have allowed := may vm found
  cases decideRow_decided done with
  | suspended decided => exact waits_suspend waits decided
  | resumed _ decided => exact waits_account waits decided
  | extended decided => exact waits_extension waits decided
  | handed decided => exact waits_transfer allowed waits decided
  | powered decided => exact waits_power waits decided
  | granted decided => exact waits_grant waits decided
  | transferred decided => exact waits_owner waits decided
  | claimed decided => exact waits_claim allowed waits decided
  | @built uuid same =>
    apply Or.inr
    cases waits with
    | claimed started => exact .claimed started
    | stopped guest status reason => exact .stopped rfl status reason
    | marked other guest status reason marker =>
      simp only [guest, reduceCtorEq, Option.some.injEq, false_or] at same
      subst same
      exact .marked other rfl status reason marker
  | delivered decided => exact waits_deliver waits decided
  | failed decided => exact waits_fail waits decided

end Rows

variable {vm : ExpiringVm}

section Steps
variable {config : ExpiryConfig} {desk after : LifecycleDesk}

theorem owed_kept (safe : ResumesSafe desk)
    (stays : ∀ vm, desk.vm = some vm → ∃ row, after.vm = some row ∧ (Waits vm → Owing row))
    (paid : hasPaid desk after = true → ∃ row, after.vm = some row ∧ Waits row) :
    (noteOwed desk after).owed = true → ∃ row, (noteOwed desk after).vm = some row ∧ Owing row := by
  intro owed
  simp only [noteOwed, Bool.or_eq_true, Bool.and_eq_true, Bool.not_eq_true'] at owed
  rcases owed with ⟨before, running⟩ | extended
  · obtain ⟨vm, found, owing⟩ := safe.owed before
    obtain ⟨row, now, waits⟩ := stays vm found
    refine ⟨row, now, ?_⟩
    rcases owing with ran | waiting
    · simp only [hasStopped, found, now, ran, Bool.true_and, Bool.not_eq_false'] at running
      exact Or.inl running
    · exact waits waiting
  · obtain ⟨row, now, waits⟩ := paid extended
    exact ⟨row, now, Or.inr waits⟩

theorem unpaid (same : after.receipts = desk.receipts) : hasPaid desk after = true →
    ∃ row, after.vm = some row ∧ Waits row := by
  intro paid
  simp [hasPaid, same] at paid

theorem same_kept (safe : ResumesSafe desk) (vm : after.vm = desk.vm)
    (receipts : after.receipts = desk.receipts) (held : DeletionsHeld after)
    (starts : after.starts = desk.starts) : ResumesSafe (noteOwed desk after) where
  owed := owed_kept safe (fun row found => ⟨row, vm.trans found, Or.inr⟩) (unpaid receipts)
  deleting := held
  starts := by
    rw [show (noteOwed desk after).starts = desk.starts from starts]
    exact safe.starts

theorem row_kept {row : ExpiringVm} (safe : ResumesSafe desk) (found : desk.vm = some vm)
    (now : after.vm = some row) (waits : Waits vm → Owing row)
    (receipts : after.receipts = desk.receipts) (held : DeletionsHeld after)
    (starts : ∀ start ∈ after.starts, StartSound start) : ResumesSafe (noteOwed desk after) where
  owed := by
    refine owed_kept safe (fun other there => ⟨row, now, ?_⟩) (unpaid receipts)
    rw [found] at there
    cases there
    exact waits
  deleting := held
  starts := starts

theorem extended_waits {row : ExpiringVm} (writes : ExtensionWrites vm row)
    (waits : Waits vm) : Waits row := by
  obtain ⟨checked, reconciled, can, status, reason, guest, owner, claim⟩ := writes.base
  simp only [vmCanExtend, Bool.and_eq_true, Bool.not_eq_true', Option.isNone_iff_eq_none] at can
  cases waits with
  | claimed started =>
    rcases reconciled with rfl | ⟨_, _, rfl⟩
    · rw [can.1.1.2] at started
      cases started
    · rw [can.1.1.2] at started
      cases started
  | stopped _ halted manual =>
    rcases reconciled with rfl | ⟨running, _, _⟩
    · simp [isRestricted, manual] at can
    · exact absurd halted running
  | marked uuid has halted expired _ =>
    rcases reconciled with rfl | ⟨running, _, _⟩
    · have stopped := status.trans halted
      exact .marked uuid (guest.trans has) stopped (reason.trans expired)
        (writes.marks stopped uuid (guest.trans has))
    · exact absurd halted running

theorem extended_marked {row : ExpiringVm} (writes : ExtensionWrites vm row)
    (hosted : vm.status = .suspended → vm.xcpngUuid.isSome) (stopped : row.status = .suspended)
    (expired : row.suspension = some .expired) : Waits row := by
  obtain ⟨checked, reconciled, _, status, _, guest, _⟩ := writes.base
  have hasGuest : row.xcpngUuid.isSome := by
    rcases reconciled with rfl | ⟨_, has, rfl⟩
    · rw [guest]
      exact hosted (status.symm.trans stopped)
    · rw [guest]
      exact has
  obtain ⟨uuid, has⟩ := Option.isSome_iff_exists.mp hasGuest
  exact .marked uuid has stopped expired (writes.marks stopped uuid has)

theorem noteRetention_starts (before desk : LifecycleDesk) :
    (noteRetention before desk).starts = desk.starts := by
  unfold noteRetention
  split <;> rfl

theorem act_expiry_starts (config : ExpiryConfig) (desk : LifecycleDesk) (step : ExpiryStep) :
    (act config (.expiry step) desk).starts = desk.starts := by
  simp only [act]
  split
  · exact noteRetention_starts _ _
  · rfl

theorem expiry_kept {step : ExpiryStep} (safe : ResumesSafe desk)
    (may : mayResume (.expiry step) desk) (own : isOwnStep step = true) :
    ResumesSafe (noteOwed desk (act config (.expiry step) desk)) := by
  have held := act_held config (.expiry step) safe.deleting
  have starts := act_expiry_starts config desk step
  have sound : ∀ start ∈ (act config (.expiry step) desk).starts, StartSound start := by
    rw [starts]
    exact safe.starts
  have move := expiryStep_moves config (expiryDesk desk) step own
  rw [← act_expiry own] at move
  cases move.row with
  | rests vm _ receipts => exact same_kept safe vm receipts held starts
  | created owner expiresAt absent vm _ receipts =>
    have none : desk.vm = none := absent
    refine ⟨owed_kept safe (fun row found => ?_) (unpaid receipts), held, sound⟩
    rw [none] at found
    cases found
  | extended request fate row receipt asked done vm _ receipts =>
    obtain ⟨before, found, writes⟩ := extendRequest_writes done
    refine ⟨owed_kept safe (fun other there => ?_) fun paid => ?_, held, sound⟩
    · have same : some before = some other := found.symm.trans there
      cases same
      exact ⟨row, vm, fun waits => Or.inr (extended_waits writes waits)⟩
    · subst asked
      have hosted : before.status = .suspended → before.xcpngUuid.isSome := may before found
      simp only [hasPaid, vm, Bool.and_eq_true, decide_eq_true_eq] at paid
      exact ⟨row, vm, extended_marked writes hosted paid.2.1 paid.2.2⟩
  | suspended row written suspends found decided vm _ receipts =>
    obtain ⟨unclaimed, running, _⟩ := sweepVm_writes decided
    refine row_kept safe found vm (fun waits => ?_) receipts held sound
    cases waits with
    | claimed started =>
      rw [unclaimed] at started
      cases started
    | stopped _ halted | marked _ _ halted => exact absurd halted running
  | claimed row cutoff captures claim found due decided vm _ receipts =>
    refine row_kept safe found vm (fun _ => owing_claimed ?_) receipts held sound
    rw [(claimDeletion_writes decided).vm]
    rfl
  | protected_ row record found _ started _ vm _ receipts _ =>
    exact row_kept safe found vm (fun _ => owing_claimed started) receipts held sound
  | destroyed row written w deletion found runs unmanifest vm status same _ receipts =>
    refine row_kept safe found vm (fun _ => owing_claimed ?_) receipts held sound
    obtain ⟨_, held, there, started⟩ := safe.deleting w deletion runs unmanifest
    have here : desk.vm = some row := found
    rw [here] at there
    cases there
    exact same.1 ▸ started

section
variable {actor : Actor} {fate : Fate} {vm : ExpiringVm} (safe : ResumesSafe desk)
  (found : desk.vm = some vm) (may : mayResume (.actor actor fate) desk)
include fate safe found may

theorem noteStart_sound :
    ∀ start ∈ (noteStart actor vm (decideRow actor vm desk) desk).starts, StartSound start := by
  intro start listed
  simp only [noteStart] at listed
  split at listed
  · exact safe.starts start listed
  rename_i caller calls
  rcases List.mem_cons.mp listed with rfl | before
  · exact decideRow_sound found may calls
  · exact safe.starts start before

theorem actor_kept : ResumesSafe (noteOwed desk (actOn actor fate vm desk)) := by
  have held := actor_held actor fate safe.deleting found
  have sound := noteStart_sound safe found may
  rcases actOn_result desk actor fate vm with same | ⟨row, written, same⟩
  · rw [same] at held ⊢
    exact row_kept safe found found Or.inr rfl held sound
  · rw [same] at held ⊢
    exact row_kept safe found rfl (fun waits => decideRow_waits found may waits written) rfl held
      sound

end

theorem restore_kept {id : OperationId} (safe : ResumesSafe desk) (held : DeletionsHeld after)
    (move : RestoreMove id desk after) : ResumesSafe (noteOwed desk after) := by
  cases move with
  | rests same | prepared _ _ _ _ _ _ same =>
    subst same
    exact same_kept safe rfl rfl held rfl
  | authorized restore vm record _ found _ _ _ claimed _ same =>
    subst same
    exact row_kept safe found rfl (fun _ => owing_claimed claimed) rfl held safe.starts
  | completed restore vm record _ found _ _ _ stopped guest same =>
    subst same
    exact row_kept safe found rfl (fun _ => Or.inr (.stopped guest stopped rfl)) rfl held
      safe.starts

theorem lifecycleStep_kept (step : LifecycleStep) (safe : ResumesSafe desk)
    (may : mayResume step desk) : ResumesSafe (lifecycleStep config step desk) := by
  have held := act_held config step safe.deleting
  unfold lifecycleStep
  have move := act_cases config step desk
  generalize act config step desk = after at move held ⊢
  cases move with
  | aside | erased => exact same_kept safe rfl rfl held rfl
  | expired own => exact expiry_kept safe may own
  | closed found detached =>
    exact row_kept safe found rfl (fun waits => waits_detach waits detached) rfl held safe.starts
  | acted found => exact actor_kept safe found may
  | prepared done => exact restore_kept safe held (prepareRestore_moves done)
  | visited done => exact restore_kept safe held (visitRestore_moves done)

theorem marked_awaited {uuid : Nat} (found : desk.vm = some vm)
    (due : IsDue desk vm) (guest : vm.xcpngUuid = some uuid) (status : vm.status = .suspended)
    (reason : vm.suspension = some .expired) (marker : vm.resume = some ⟨uuid, vm.owner⟩) :
    IsAwaited config desk vm := by
  constructor
  · rw [marker]
    exact Or.inl rfl
  have decided : decideRow (.resumeExtension .halted true) vm desk =
      { starts := some .extension
        row := some ({ vm with status := .running, suspension := none, resume := none },
          desk.transfer) } := by
    simp [decideRow, resumeExtension, marker, status, due.unclaimed, guest, reason, isRestricted,
      due.enabled, withPower]
  refine ⟨_, List.mem_cons_self, { vm with status := .running, suspension := none, resume := none },
    ?_, rfl⟩
  simp only [lifecycleStep, act, found, actOn, decided, noteOwed, transact, commitRow]

end Steps

/-- A VM whose paid extension was committed while it was suspended for its expiry runs, or
a pass starts it for the marker that is left; and a resume starts no guest whose owner is
disabled, that an administrator has stopped, or that is claimed for its deletion. -/
theorem paid_resumes_kept (config : ExpiryConfig) (desk : LifecycleDesk)
    (actions : List LifecycleStep) (start : ResumesStart desk)
    (admitted : (resumes config).admits desk actions) :
    ResumesKept config ((resumes config).run desk actions) := by
  have safe : ResumesSafe desk := by
    constructor
    · intro owed
      rw [start.owed] at owed
      cases owed
    · intro w deletion runs
      rw [start.deletions w] at runs
      cases runs
    · intro noted listed
      rw [start.starts] at listed
      cases listed
  have kept : ResumesSafe ((resumes config).run desk actions) :=
    (resumes config).run_keeps (fun step desk safe may => lifecycleStep_kept step safe may)
      actions desk safe admitted
  constructor
  · intro owed vm found due
    obtain ⟨row, there, owing⟩ := kept.owed owed
    rw [found] at there
    cases there
    rcases owing with running | waits
    · exact Or.inl running
    cases waits with
    | claimed claim =>
      rw [due.unclaimed] at claim
      cases claim
    | stopped _ _ reason => exact absurd reason due.unstopped
    | marked uuid guest status reason marker =>
      exact Or.inr (marked_awaited found due guest status reason marker)
  · exact kept.starts

/-- `mayResume` as a test. -/
def resumeTest (step : LifecycleStep) (desk : LifecycleDesk) : Bool :=
  match desk.vm with
  | none => true
  | some vm => match step with
      | .expiry (.extend _ _) => vm.status ≠ .suspended || vm.xcpngUuid.isSome
      | .actor (.claim _) _ => vm.status ≠ .suspended || vm.resume = none
      | .actor (.resumeResources _ _ _) _ =>
        vm.suspension ≠ some .accountDisabled || vm.deletionStartedAt = none
      | .actor (.resumeTransfer _ _) _ =>
        desk.transfer.isNone || vm.suspension ≠ some .manualAdmin
      | _ => true

theorem resumeTest_may (step : LifecycleStep) (desk : LifecycleDesk)
    (passed : resumeTest step desk = true) : mayResume step desk := by
  intro vm found
  simp only [resumeTest, found] at passed
  repeat' split at passed
  all_goals simp_all [imp_iff_not_or]

def quietDesk : LifecycleDesk where
  now := 0
  ownerEnabled := true
  vm := none
  retention := none
  receipts := []
  expiryClaims := []
  sweeps := fun _ => none
  deletions := fun _ => none
  accounts := fun account => if account ≤ 2 then some true else none
  transfer := none
  evidence := ⟨(none, none), none⟩
  restores := []
  usedElsewhere := fun _ => false
  owed := false
  kept := false
  starts := []
  erasures := []

theorem quietDesk_starts : ResumesStart quietDesk := ⟨rfl, rfl, fun _ => rfl⟩

/-- The VM of `owner` is delivered, expires and is stopped. -/
def expiredRun (owner : VmOwner) : List LifecycleStep :=
  [.expiry (.create owner 100), .actor (.guest 7) .done, .actor (.deliver 7 .running true) .done,
    .expiry (.tick 101), .expiry (.scan 0), .expiry (.look 0 true .done)]

def paysDay : ExtendRequest where
  identityMatches := true
  days := 1
  power := .halted
  pays := true
  powerAgain := .halted

/-- The guest does not start after the payment, and the account is disabled and enabled
before it is tried again. -/
def disabledRun : List LifecycleStep :=
  expiredRun (some 1, some (.evm 5)) ++
    [.expiry (.extend paysDay .lost), .actor (.resumeExtension .unreachable false) .done,
      .account 1 false, .actor (.suspendResources 1 .halted true) .done,
      .actor (.resumeExtension .halted true) .done, .account 1 true,
      .actor (.resumeResources 1 .halted true) .done]

theorem disabled_resume_kept :
    ResumesKept ⟨10, true⟩ ((resumes ⟨10, true⟩).run quietDesk disabledRun) := by
  apply paid_resumes_kept ⟨10, true⟩ quietDesk disabledRun quietDesk_starts
  exact (resumes _).passes_admits resumeTest resumeTest_may _ _ (by decide +kernel)

/-- An account claims the anonymous VM before the guest is tried again. -/
def claimedRun : List LifecycleStep :=
  expiredRun (none, some (.evm 5)) ++
    [.expiry (.extend paysDay .done), .actor (.resumeExtension .unreachable false) .done,
      .actor (.claim 1) .done, .actor (.resumeExtension .halted true) .done]

def enabledRun : List LifecycleStep :=
  [.expiry (.create (some 1, some (.evm 5)) 100), .actor (.guest 7) .done,
    .actor (.deliver 7 .running true) .done, .account 1 false,
    .actor (.suspendResources 1 .running true) .done, .expiry (.destroy 0 false .done),
    .expiry (.stop 0), .account 1 true, .actor (.resumeResources 1 .halted true) .done]

/-- A transfer finds no provider, the new owner is disabled and enabled, and an
administrator stops the VM. -/
def stoppedRun : List LifecycleStep :=
  [.expiry (.create (some 1, some (.evm 5)) 100), .actor (.guest 7) .done,
    .actor (.deliver 7 .running true) .done, .account 1 false,
    .actor (.suspendResources 1 .running true) .done, .actor (.transfer 2 (some (.evm 6))) .done,
    .actor (.resumeTransfer .unreachable false) .done, .account 2 false,
    .actor (.suspendResources 2 .halted true) .done, .account 2 true,
    .actor (.resumeResources 2 .halted true) .done,
    .actor (.power .suspend .running true) .done, .actor (.resumeTransfer .halted true) .done]

/-- The resume of the claimed VM is lost; the guest that is to be deleted and the one that
an administrator stopped are started. -/
theorem resumes_not_kept :
    ¬ ResumesKept ⟨10, true⟩ ((resumes ⟨10, true⟩).run quietDesk claimedRun) ∧
    ¬ ResumesKept ⟨10, true⟩ ((resumes ⟨10, true⟩).run quietDesk enabledRun) ∧
    ¬ ResumesKept ⟨10, true⟩ ((resumes ⟨10, true⟩).run quietDesk stoppedRun) := by
  refine ⟨fun kept => ?_, fun kept => ?_, fun kept => ?_⟩
  · have found : ((resumes ⟨10, true⟩).run quietDesk claimedRun).vm = some
        { owner := (some 1, some (.evm 5))
          status := .suspended
          expiresAt := some 86501
          suspension := some .expired
          xcpngUuid := some 7 } := by decide +kernel
    have due : IsDue ((resumes ⟨10, true⟩).run quietDesk claimedRun)
        { owner := (some 1, some (.evm 5))
          status := .suspended
          expiresAt := some 86501
          suspension := some .expired
          xcpngUuid := some 7 } :=
      ⟨rfl, by decide, by decide +kernel, 86501, rfl, by decide +kernel⟩
    rcases kept.owed (by decide +kernel) _ found due with runs | ⟨marker, _⟩
    · revert runs
      decide
    · revert marker
      decide +kernel
  · have sound := kept.starts ⟨.account, true,
      { owner := (some 1, some (.evm 5))
        status := .suspended
        expiresAt := some 100
        deletionStartedAt := some 0
        suspension := some .accountDisabled
        xcpngUuid := some 7 }, false⟩ (by decide +kernel)
    cases sound.unclaimed
  · have sound := kept.starts ⟨.transfer, true,
      { owner := (some 2, some (.evm 6))
        status := .suspended
        expiresAt := some 100
        suspension := some .manualAdmin
        xcpngUuid := some 7 }, false⟩ (by decide +kernel)
    exact sound.unstopped rfl

end HyruleCloud.Lifecycle
