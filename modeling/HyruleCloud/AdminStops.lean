import HyruleCloud.RetainedGuests

/-!
An administrator's suspend or shutdown stands until an administrator starts the VM or its
deletion is complete. The decision is kept in the reason of the suspension alone, which
the resumes of the other actors go by.
-/

namespace HyruleCloud.Lifecycle

open Interaction Expiry

/-- `stopped`: a stop by an administrator has been accepted, the VM has not been started by
one since and is not deleted; `resumed` are the resumes that call `start_vm` meanwhile. -/
structure WatchedDesk where
  desk : LifecycleDesk
  stopped : Bool
  resumed : List GuestStart

def acceptsStop (step : LifecycleStep) (desk : LifecycleDesk) : Bool :=
  match step, desk.vm with
  | .actor (.power action power works) .done, some vm =>
    (action = .shutdown || action = .suspend) &&
      (decideRow (.power action power works) vm desk).row.isSome
  | _, _ => false

def startsAgain (step : LifecycleStep) (desk : LifecycleDesk) : Bool :=
  match step, desk.vm with
  | .actor (.power .start power works) _, some vm =>
    (decideRow (.power .start power works) vm desk).row.isSome
  | _, _ => false

def isDestroyed (desk : LifecycleDesk) : Bool :=
  match desk.vm with
  | none => false
  | some vm => vm.status = .destroyed

def newStarts (before after : LifecycleDesk) : List GuestStart :=
  after.starts.take (after.starts.length - before.starts.length)

def watchStep (config : ExpiryConfig) (step : LifecycleStep) (watched : WatchedDesk) :
    WatchedDesk :=
  let after := lifecycleStep config step watched.desk
  { desk := after
    stopped := (watched.stopped || acceptsStop step watched.desk) &&
      !startsAgain step watched.desk && !isDestroyed after
    resumed := if watched.stopped then newStarts watched.desk after ++ watched.resumed
      else watched.resumed }

structure StopsKept (watched : WatchedDesk) : Prop where
  resumed : watched.resumed = []
  stays : watched.stopped = true → ∀ vm, watched.desk.vm = some vm → isRunning vm = false

/-- A pass over the marker of a transfer that gets to the VM: the marker is its owner's,
who is enabled, and nobody is deleting the VM. -/
def decidesTransfer (desk : LifecycleDesk) (vm : ExpiringVm) : Bool :=
  match vm.owner.1, desk.transfer with
  | some account, some handoff => account = handoff.owner && desk.accounts account = some true &&
      vm.deletionStartedAt.isNone
  | _, _ => false

def resumesTransfer : LifecycleStep → Bool
  | .actor (.resumeTransfer _ _) _ => true
  | _ => false

/-- Unless the VM has failed, no administrator stops it while it is suspended for its
account, and no transfer resumes it when an administrator has stopped it. -/
def mayStop (step : LifecycleStep) (watched : WatchedDesk) : Prop :=
  ∀ vm, watched.desk.vm = some vm → vm.status ≠ .failed →
    (acceptsStop step watched.desk = true → vm.suspension ≠ some .accountDisabled) ∧
    (watched.stopped = true → resumesTransfer step = true →
      decidesTransfer watched.desk vm = true → vm.suspension ≠ some .manualAdmin)

def stops (config : ExpiryConfig) : Protocol WatchedDesk LifecycleStep :=
  ⟨watchStep config, mayStop⟩

structure StopsStart (watched : WatchedDesk) : Prop where
  stopped : watched.stopped = false
  resumed : watched.resumed = []
  retention : watched.desk.retention = none
  deletions : ∀ w, watched.desk.deletions w = none

/-! The invariant: the reason of the suspension is the administrator's, or the VM has failed
and nothing resumes it. -/

def Halted (vm : ExpiringVm) (retention : Option VmRetention) : Prop :=
  Stopped vm ∨ (vm.status = .failed ∧ retention = none)

def RetentionClaimed (desk : LifecycleDesk) : Prop := desk.retention.isSome → IsClaimed desk

structure StopSafe (watched : WatchedDesk) : Prop where
  deleting : DeletionsHeld watched.desk
  claimed : RetentionClaimed watched.desk
  stopped : watched.stopped = true →
    ∃ vm, watched.desk.vm = some vm ∧ Halted vm watched.desk.retention
  resumed : watched.resumed = []

variable {actor : Actor}

variable {desk : LifecycleDesk}

section Rows
variable {vm written : ExpiringVm} {row : ExpiringVm × Option TransferHandoff}

structure StaysFailed (decision : Decision) : Prop where
  starts : decision.starts = none
  row : ∀ row, decision.row = some row → row.1.status = .failed

theorem failed_nothing : StaysFailed {} where
  starts := rfl
  row row done := by cases done

theorem failed_written {decided : Option ExpiringVm} {transfer : Option TransferHandoff}
    (failed : ∀ written, decided = some written → written.status = .failed) :
    StaysFailed { row := decided.map fun vm => (vm, transfer) } where
  starts := rfl
  row row done := by
    obtain ⟨written, same, rfl⟩ := written_row done
    exact failed written same

theorem decideRow_failed (failed : vm.status = .failed)
    (other : ∀ power works, actor ≠ .power .start power works) :
    StaysFailed (decideRow actor vm desk) := by
  cases actor with
  | suspendResources account power stops =>
    simp only [decideRow]
    split
    · refine failed_written fun written done => ?_
      simp only [suspendAccount, failed] at done
      repeat' split at done
      all_goals cases done
      · rfl
      · rename_i unset
        exact absurd (Or.inr trivial) unset
    · exact failed_nothing
  | resumeResources account power starts =>
    simp only [decideRow, resumeAccount, failed]
    split
    · split
      · exact failed_nothing
      · refine ⟨rfl, fun row done => ?_⟩
        cases done
        rfl
    · exact failed_nothing
  | resumeExtension power starts =>
    simp only [decideRow, resumeExtension]
    split
    · exact failed_nothing
    rw [if_pos (Or.inl (by rw [failed]; decide))]
    refine ⟨rfl, fun row done => ?_⟩
    cases done
    exact failed
  | resumeTransfer power starts =>
    have kept : ∀ reason transfer,
        StaysFailed { row := some ({ vm with suspension := reason }, transfer) } := by
      intro reason transfer
      refine ⟨rfl, fun row done => ?_⟩
      cases done
      exact failed
    simp only [decideRow, resumeTransfer]
    split
    · exact failed_nothing
    · exact failed_nothing
    split
    · exact kept vm.suspension none
    split
    · exact failed_nothing
    split
    · exact kept vm.suspension none
    split
    · exact kept (some .expired) none
    · rw [if_pos (Or.inr failed)]
      exact kept none none
  | power action power works =>
    refine failed_written fun written done => ?_
    rcases (vmAction_writes done).row with ⟨start, _⟩ | ⟨_, rfl⟩ | ⟨_, rfl⟩
    · subst start
      exact absurd rfl (other power works)
    · exact failed
    · simp [stoppedRow, failed]
  | grant days =>
    refine failed_written fun written done => ?_
    unfold extendVmExpiry at done
    repeat' split at done
    all_goals cases done
    exact failed
  | transfer target wallet =>
    simp only [decideRow]
    split
    · refine ⟨rfl, fun row done => ?_⟩
      simp only [transferVm, failed] at done
      repeat' split at done
      all_goals cases done
      all_goals rfl
    · exact failed_nothing
  | claim account =>
    simp only [decideRow]
    split
    · refine failed_written fun written done => ?_
      unfold claimVm at done
      repeat' split at done
      all_goals cases done
      exact failed
    · exact failed_nothing
  | guest uuid =>
    simp only [decideRow]
    split
    · refine failed_written fun written done => ?_
      cases done
      exact failed
    · exact failed_nothing
  | deliver uuid power stops =>
    refine failed_written fun written done => ?_
    simp [deliverVm, failed] at done
  | fail power stops =>
    refine failed_written fun written done => ?_
    simp [failVm, failed] at done

theorem decideRow_stopped (found : desk.vm = some vm)
    (stopped : Stopped vm) (other : ∀ power works, actor ≠ .power .start power works)
    (unmoved : ∀ power starts, actor = .resumeTransfer power starts →
      decidesTransfer desk vm = false) :
    Withholds (decideRow actor vm desk) none desk.now := by
  have withheld : Withheld vm none desk.now := .stopped stopped.reason stopped.status
  by_cases transfers : ∃ power starts, actor = .resumeTransfer power starts
  · obtain ⟨power, starts, rfl⟩ := transfers
    have idle := unmoved power starts rfl
    simp only [decideRow, resumeTransfer]
    split
    · exact withholds_nothing
    · exact withholds_nothing
    · rename_i account handoff owned marked
      simp only [decidesTransfer, owned, marked, Bool.and_eq_false_iff, decide_eq_false_iff_not,
        Option.isNone_eq_false_iff] at idle
      have kept : Withholds { row := some (vm, none) } none desk.now := by
        refine ⟨rfl, fun row done => ?_⟩
        cases done
        exact withheld
      split
      · exact kept
      split
      · exact withholds_nothing
      split
      · exact kept
      rename_i mine enabled free
      rcases idle with (foreign | disabled) | claimed
      · exact absurd foreign mine
      · exact absurd disabled enabled
      · exact absurd claimed free
  · have may : mayTransfer (.actor actor .done) desk := by
      unfold mayTransfer
      split
      · rename_i power starts _ same
        cases same
        exact absurd ⟨power, starts, rfl⟩ transfers
      · trivial
    exact decideRow_withholds found may other withheld

end Rows

section Failed
variable {config : ExpiryConfig} {vm : ExpiringVm} {now : Time}

theorem reconcile_ended {power : PowerState} (ended : hasEnded vm.status = true) :
    reconcileExtensionPower vm power now = some vm := by
  unfold reconcileExtensionPower
  split
  · rfl
  · rw [if_pos (by simp [ended])]

theorem extendVm_ended {days : Nat} {power : PowerState} {enabled : Bool}
    (ended : hasEnded vm.status = true) : extendVm vm days power enabled now = none := by
  unfold extendVm
  rw [reconcile_ended ended]
  simp [vmCanExtend, ended]

theorem extendRequest_ended {request : ExtendRequest} {desk : ExpiryDesk} {row : ExpiringVm}
    {receipt : ExtensionReceipt} (found : desk.vm = some vm) (ended : hasEnded vm.status = true) :
    extendRequest request desk ≠ .ok (row, receipt) := by
  intro done
  simp only [extendRequest, found, reconcile_ended ended, extendVm_ended ended] at done
  repeat' split at done
  all_goals cases done

theorem sweepVm_failed {suspends : Bool} {written : ExpiringVm} (failed : vm.status = .failed) :
    sweepVm config now suspends vm ≠ .suspend written := by
  intro decided
  simp only [sweepVm, failed, if_true] at decided
  repeat' split at decided
  all_goals cases decided

theorem claimDeletion_failed {cutoff : Option Time} {captures : Bool} {claim : Claim}
    (failed : vm.status = .failed)
    (done : claimDeletion config cutoff captures now vm none = .ok (some claim)) :
    claim.retention = none := by
  rcases (claimDeletion_writes done).retention with same | ⟨_, fresh, _, expiredBefore, expiry,
    cut, there, _⟩
  · exact same
  · simp [claimDeletion, failed, fresh, cut, there, isSpared, isGone] at done

end Failed

variable {vm : ExpiringVm}

variable {step : LifecycleStep}

section Steps
variable {config : ExpiryConfig} {desk after : LifecycleDesk}

theorem move_halted {step : ExpiryStep} {final : ExpiryDesk}
    (deleting : DeletionsHeld desk) (found : desk.vm = some vm) (halted : Halted vm desk.retention)
    (move : ExpiryMove config step (expiryDesk desk) final) :
    ∃ row, final.vm = some row ∧ (Halted row final.retention ∨ row.status = .destroyed) := by
  have here : (expiryDesk desk).vm = some vm := found
  rcases halted with stopped | ⟨failed, unretained⟩
  · obtain ⟨row, now, stays⟩ := move_stopped deleting found stopped move
    exact ⟨row, now, Or.inl (Or.inl stays)⟩
  · have free : (expiryDesk desk).retention = none := unretained
    cases move.row with
    | rests same retention _ =>
      exact ⟨vm, same.trans here, Or.inl (Or.inr ⟨failed, retention.trans free⟩)⟩
    | created owner expiresAt absent _ _ _ =>
      rw [here] at absent
      cases absent
    | extended request fate row receipt _ done _ _ _ =>
      exact absurd done (extendRequest_ended here (by simp [hasEnded, failed]))
    | suspended row written suspends there decided _ _ _ =>
      rw [here] at there
      cases there
      exact absurd decided (sweepVm_failed failed)
    | claimed row cutoff captures claim there due decided now retention _ =>
      rw [here] at there
      cases there
      rw [free] at decided
      refine ⟨claim.vm, now, Or.inl (Or.inr ⟨?_, retention.trans ?_⟩)⟩
      · rw [(claimDeletion_writes decided).vm]
        exact failed
      · exact claimDeletion_failed failed decided
    | protected_ row record there retained _ _ _ _ _ _ =>
      rw [free] at retained
      cases retained
    | destroyed row written w deletion there _ _ now status _ _ _ =>
      exact ⟨written, now, Or.inr status⟩

/-- What a step leaves of a stopped VM: it is stopped, or deleted, and nobody has called
`start_vm`. -/
structure StopHeld (desk after : LifecycleDesk) : Prop where
  row : ∃ row, after.vm = some row ∧ (Halted row after.retention ∨ row.status = .destroyed)
  starts : after.starts = desk.starts

theorem stop_stays (found : desk.vm = some vm)
    (halted : Halted vm desk.retention) (now : after.vm = desk.vm)
    (retention : after.retention = desk.retention) (starts : after.starts = desk.starts) :
    StopHeld desk after := by
  refine ⟨⟨vm, now.trans found, Or.inl ?_⟩, starts⟩
  rw [retention]
  exact halted

theorem restore_claimed {id : OperationId} (claimed : RetentionClaimed desk)
    (move : RestoreMove id desk after) : RetentionClaimed after := by
  intro retained
  cases move with
  | rests same =>
    subst same
    exact claimed retained
  | prepared request record expiry _ before _ same =>
    subst same
    exact claimed (by rw [before]; rfl)
  | authorized restore row record _ _ _ _ _ started _ same =>
    subst same
    exact ⟨_, rfl, started⟩
  | completed restore row record _ _ _ _ _ _ _ same =>
    subst same
    cases retained

theorem restore_halted {id : OperationId} (found : desk.vm = some vm)
    (halted : Halted vm desk.retention) (move : RestoreMove id desk after) :
    StopHeld desk after := by
  have stopped : desk.retention.isSome → Stopped vm := by
    intro retained
    rcases halted with stopped | ⟨_, unretained⟩
    · exact stopped
    · rw [unretained] at retained
      cases retained
  cases move with
  | rests same =>
    subst same
    exact stop_stays found halted rfl rfl rfl
  | prepared request record expiry _ retained _ same =>
    subst same
    exact ⟨⟨vm, found, Or.inl (Or.inl (stopped (by rw [retained]; rfl)))⟩, rfl⟩
  | authorized _ _ _ _ _ _ _ suspended _ _ same | completed _ _ _ _ _ _ _ _ suspended _ same =>
    subst same
    exact ⟨⟨_, rfl, Or.inl (Or.inl ⟨rfl, Or.inl suspended⟩)⟩, rfl⟩

theorem close_halted {account : AccountId} {row : ExpiringVm}
    (halted : Halted vm desk.retention) (written : detachVm desk.retention.isSome vm = some row) :
    StopHeld desk { desk with
      accounts := Function.update desk.accounts account none
      vm := some row } := by
  unfold detachVm at written
  split at written
  · cases written
  split at written
  · cases written
  cases written
  refine ⟨⟨_, rfl, Or.inl ?_⟩, rfl⟩
  rcases halted with ⟨reason, status⟩ | ⟨failed, unretained⟩
  · exact Or.inl ⟨reason, status⟩
  · exact Or.inr ⟨failed, unretained⟩

theorem decideRow_halts {retention : Option VmRetention}
    (found : desk.vm = some vm) (halted : Halted vm retention)
    (other : ∀ power works, actor ≠ .power .start power works)
    (unmoved : ∀ power starts, actor = .resumeTransfer power starts → vm.status ≠ .failed →
      decidesTransfer desk vm = true → vm.suspension ≠ some .manualAdmin) :
    (decideRow actor vm desk).starts = none ∧
      ∀ row, (decideRow actor vm desk).row = some row → Halted row.1 retention := by
  rcases halted with stopped | ⟨failed, unretained⟩
  · have idle : ∀ power starts, actor = .resumeTransfer power starts →
        decidesTransfer desk vm = false := by
      intro power starts transfers
      by_contra decides
      have built : vm.status ≠ .failed := by
        rcases stopped.status with suspended | ⟨destroyed, _⟩
        · rw [suspended]
          nofun
        · rw [destroyed]
          nofun
      exact unmoved power starts transfers built (by simpa using decides) stopped.reason
    have holds := decideRow_stopped found stopped other idle
    refine ⟨holds.starts, fun row done => Or.inl ?_⟩
    rcases holds.row row done with ⟨_, record, _⟩ | ⟨reason, status⟩
    · cases record
    · exact ⟨reason, status⟩
  · have holds : StaysFailed (decideRow actor vm desk) := decideRow_failed failed other
    exact ⟨holds.starts, fun row done => Or.inr ⟨holds.row row done, unretained⟩⟩

theorem actor_halted {fate : Fate} (found : desk.vm = some vm)
    (halted : Halted vm desk.retention)
    (unstarted : startsAgain (.actor actor fate) desk = false)
    (unmoved : ∀ power starts, actor = .resumeTransfer power starts → vm.status ≠ .failed →
      decidesTransfer desk vm = true → vm.suspension ≠ some .manualAdmin) :
    StopHeld desk (actOn actor fate vm desk) := by
  have holds : (decideRow actor vm desk).starts = none ∧
      ∀ row, (decideRow actor vm desk).row = some row → Halted row.1 desk.retention := by
    by_cases starts : ∃ power works, actor = .power .start power works
    · obtain ⟨power, works, rfl⟩ := starts
      simp only [startsAgain, found, Option.isSome_eq_false_iff, Option.isNone_iff_eq_none]
        at unstarted
      refine ⟨rfl, fun row done => ?_⟩
      rw [unstarted] at done
      cases done
    · exact decideRow_halts found halted (fun power works same => starts ⟨power, works, same⟩)
        unmoved
  have noted : (noteStart actor vm (decideRow actor vm desk) desk).starts = desk.starts := by
    simp only [noteStart, holds.1]
  rcases actOn_result desk actor fate vm with same | ⟨row, written, same⟩
  · rw [same]
    exact stop_stays found halted rfl rfl noted
  · rw [same]
    exact ⟨⟨row.1, rfl, Or.inl (holds.2 row written)⟩, noted⟩

theorem act_halted (step : LifecycleStep) (deleting : DeletionsHeld desk)
    (found : desk.vm = some vm) (halted : Halted vm desk.retention)
    (unstarted : startsAgain step desk = false)
    (unmoved : ∀ power starts fate, step = .actor (.resumeTransfer power starts) fate →
      vm.status ≠ .failed → decidesTransfer desk vm = true → vm.suspension ≠ some .manualAdmin) :
    StopHeld desk (act config step desk) := by
  have move := act_cases config step desk
  generalize act config step desk = after at move ⊢
  cases move with
  | aside | erased => exact stop_stays found halted rfl rfl rfl
  | @expired step own =>
    have move := expiryStep_moves config (expiryDesk desk) step own
    rw [← act_expiry own] at move
    refine ⟨move_halted deleting found halted move, ?_⟩
    simp only [act, own, if_true]
    rcases noteRetention_cases desk { desk with
      toExpiryDesk := expiryStep config step (expiryDesk desk) } with
      same | ⟨_, _, _, _, _, same⟩ <;> rw [same]
  | closed there detached =>
    rw [found] at there
    cases there
    exact close_halted halted detached
  | @acted actor fate _ there =>
    rw [found] at there
    cases there
    exact actor_halted found halted unstarted fun power starts same =>
      unmoved power starts fate (by rw [same])
  | prepared done => exact restore_halted found halted (prepareRestore_moves done)
  | visited done => exact restore_halted found halted (visitRestore_moves done)

theorem expiry_claimed {step : ExpiryStep} (claimed : RetentionClaimed desk)
    (move : ExpiryMove config step (expiryDesk desk) after.toExpiryDesk) :
    RetentionClaimed after := by
  obtain ⟨_, keeps⟩ := move_unreleased move rfl rfl
  have same : after.retention = desk.retention → RetentionClaimed after :=
    fun retention retained => keeps (claimed (retention ▸ retained))
  cases move.row with
  | rests _ retention | created _ _ _ _ retention | extended _ _ _ _ _ _ _ retention
  | suspended _ _ _ _ _ _ retention | destroyed _ _ _ _ _ _ _ _ _ _ retention =>
    exact same retention
  | claimed row cutoff captures claim _ _ decided now _ _ =>
    refine fun _ => ⟨claim.vm, now, ?_⟩
    rw [(claimDeletion_writes decided).vm]
    rfl
  | protected_ row record _ _ started _ now _ _ _ => exact fun _ => ⟨_, now, started⟩

theorem act_claimed (step : LifecycleStep) (claimed : RetentionClaimed desk) :
    RetentionClaimed (act config step desk) := by
  have move := act_cases config step desk
  generalize act config step desk = after at move ⊢
  cases move with
  | aside => exact claimed
  | @expired step own =>
    have move := expiryStep_moves config (expiryDesk desk) step own
    rw [← act_expiry own] at move
    exact expiry_claimed claimed move
  | erased => exact claimed
  | closed found detached =>
    exact fun retained =>
      written_claimed found rfl (detachVm_tended detached).1.claim (claimed retained)
  | @acted actor fate vm found =>
    rcases actOn_result desk actor fate vm with same | ⟨row, written, same⟩
    · rw [same]
      exact claimed
    · rw [same]
      exact fun retained =>
        written_claimed found rfl (decideRow_tended written).claim (claimed retained)
  | prepared done => exact restore_claimed claimed (prepareRestore_moves done)
  | visited done => exact restore_claimed claimed (visitRestore_moves done)

theorem accepted_halted (claimed : RetentionClaimed desk) (accepted : acceptsStop step desk = true)
    (allowed : ∀ vm, desk.vm = some vm → vm.status ≠ .failed →
      vm.suspension ≠ some .accountDisabled) :
    ∃ vm, (act config step desk).vm = some vm ∧ Halted vm (act config step desk).retention := by
  unfold acceptsStop at accepted
  split at accepted
  · rename_i action power works vm found
    simp only [Bool.and_eq_true, Bool.or_eq_true, decide_eq_true_eq] at accepted
    obtain ⟨stops, decided⟩ := accepted
    obtain ⟨row, written⟩ := Option.isSome_iff_exists.mp decided
    have committed : act config (.actor (.power action power works) .done) desk =
        { noteStart (.power action power works) vm (decideRow (.power action power works) vm desk)
            desk with
          vm := some row.1
          transfer := row.2 } := by
      simp only [act, found, actOn, written, transact, commitRow]
    rw [committed]
    obtain ⟨stopped, answer, rfl⟩ := written_row written
    have writes := vmAction_writes answer
    have done : stopped = stoppedRow vm := by
      rcases writes.row with ⟨rfl, _⟩ | ⟨rfl, _⟩ | ⟨_, done⟩
      · simp at stops
      · simp at stops
      · exact done
    refine ⟨stopped, rfl, ?_⟩
    by_cases failed : vm.status = .failed
    · refine Or.inr ⟨by simp [done, stoppedRow, failed], ?_⟩
      cases retained : desk.retention with
      | none => exact retained
      | some record =>
        obtain ⟨other, there, started⟩ := claimed (by rw [retained]; rfl)
        rw [found] at there
        cases there
        rw [writes.unclaimed] at started
        cases started
    · refine Or.inl ⟨?_, Or.inl (by simp [done, stoppedRow, failed])⟩
      simp [done, stoppedRow, allowed vm found failed]
  · cases accepted

theorem start_quiet (starts : startsAgain step desk = true) :
    (act config step desk).starts = desk.starts := by
  unfold startsAgain at starts
  split at starts
  · rename_i power works fate vm found
    simp only [act, found]
    rcases actOn_result desk (.power .start power works) fate vm with same | ⟨row, _, same⟩ <;>
      rw [same] <;> rfl
  · cases starts

end Steps

theorem watchStep_safe {config : ExpiryConfig} (step : LifecycleStep) (watched : WatchedDesk)
    (safe : StopSafe watched) (may : mayStop step watched) :
    StopSafe (watchStep config step watched) := by
  have held : watched.stopped = true → startsAgain step watched.desk = false →
      StopHeld watched.desk (act config step watched.desk) := by
    intro stopped unstarted
    obtain ⟨vm, found, halted⟩ := safe.stopped stopped
    refine act_halted step safe.deleting found halted unstarted ?_
    rintro power resumes fate rfl built
    exact (may vm found built).2 stopped rfl
  have quiet : watched.stopped = true →
      (act config step watched.desk).starts = watched.desk.starts := by
    intro stopped
    cases starts : startsAgain step watched.desk with
    | true => exact start_quiet starts
    | false => exact (held stopped starts).starts
  constructor
  · exact act_held config step safe.deleting
  · exact act_claimed step safe.claimed
  · intro stays
    simp only [watchStep, Bool.and_eq_true, Bool.or_eq_true, Bool.not_eq_true'] at stays
    obtain ⟨⟨before, unstarted⟩, undestroyed⟩ := stays
    rcases before with stopped | accepted
    · obtain ⟨row, now, halted | destroyed⟩ := (held stopped unstarted).row
      · exact ⟨row, now, halted⟩
      · have gone : isDestroyed (lifecycleStep config step watched.desk) = true := by
          have now' : (lifecycleStep config step watched.desk).vm = some row := now
          simp only [isDestroyed, now', destroyed, decide_true]
        rw [undestroyed] at gone
        cases gone
    · exact accepted_halted safe.claimed accepted
        fun vm found built => (may vm found built).1 accepted
  · simp only [watchStep]
    split
    · rename_i stopped
      have none : newStarts watched.desk (lifecycleStep config step watched.desk) = [] := by
        have same : (lifecycleStep config step watched.desk).starts = watched.desk.starts :=
          quiet stopped
        simp [newStarts, same]
      rw [none, safe.resumed]
      rfl
    · exact safe.resumed

theorem stops_start {watched : WatchedDesk} (start : StopsStart watched) : StopSafe watched where
  deleting w deletion runs := by
    rw [start.deletions w] at runs
    cases runs
  claimed retained := by
    rw [start.retention] at retained
    cases retained
  stopped stays := by
    rw [start.stopped] at stays
    cases stays
  resumed := start.resumed

/-- An administrator's stop stands in every state of a run. -/
theorem admin_stops_kept (config : ExpiryConfig) (watched : WatchedDesk)
    (steps : List LifecycleStep) (start : StopsStart watched)
    (admitted : (stops config).admits watched steps) :
    StopsKept ((stops config).run watched steps) := by
  have safe := (stops config).run_keeps watchStep_safe steps watched (stops_start start) admitted
  refine ⟨safe.resumed, fun stays vm found => ?_⟩
  obtain ⟨row, there, halted⟩ := safe.stopped stays
  rw [found] at there
  cases there
  rcases halted with ⟨_, suspended | ⟨destroyed, _⟩⟩ | ⟨failed, _⟩
  · simp [isRunning, suspended]
  · simp [isRunning, destroyed]
  · simp [isRunning, failed]

/-- `mayStop` as a test. -/
def stopTest (step : LifecycleStep) (watched : WatchedDesk) : Bool :=
  match watched.desk.vm with
  | none => true
  | some vm => vm.status = .failed ||
      ((!acceptsStop step watched.desk || vm.suspension ≠ some .accountDisabled) &&
        (!watched.stopped || !resumesTransfer step || !decidesTransfer watched.desk vm ||
          vm.suspension ≠ some .manualAdmin))

theorem stopTest_may (step : LifecycleStep) (watched : WatchedDesk)
    (passed : stopTest step watched = true) : mayStop step watched := by
  intro vm found built
  simp only [stopTest, found, built, decide_false, Bool.false_or, Bool.and_eq_true] at passed
  constructor
  · intro accepted
    simpa [accepted] using passed.1
  · intro stopped resumes decides
    simpa [stopped, resumes, decides] using passed.2

def watchedDesk (desk : LifecycleDesk) : WatchedDesk := ⟨desk, false, []⟩

theorem watchedDesk_starts : StopsStart (watchedDesk bareDesk) := ⟨rfl, rfl, rfl, fun _ => rfl⟩

/-- The account is disabled and enabled while the VM is stopped, its deletion is refused and
the VM is started by the administrator in the end. -/
def adminRun : List LifecycleStep :=
  deliveredTo 1 ++
    [.actor (.power .suspend .running true) .done, .account 1 false,
      .actor (.suspendResources 1 .halted true) .done, .account 1 true,
      .actor (.resumeResources 1 .halted true) .done,
      .actor (.resumeExtension .halted true) .done, .expiry (.tick 200), .expiry (.scan 0),
      .expiry (.look 0 true .done), .expiry (.expire 0 false .done)]

theorem suspended_vm_stopped :
    StopsKept ((stops ⟨10, true⟩).run (watchedDesk bareDesk) adminRun) := by
  apply admin_stops_kept ⟨10, true⟩ (watchedDesk bareDesk) adminRun watchedDesk_starts
  exact (stops _).passes_admits stopTest stopTest_may _ _ (by decide +kernel)

/-- The VM is suspended for its account when the administrator stops it. -/
def overruledRun : List LifecycleStep :=
  deliveredTo 1 ++
    [.account 1 false, .actor (.suspendResources 1 .running true) .done,
      .actor (.power .suspend .halted true) .done, .account 1 true,
      .actor (.resumeResources 1 .halted true) .done]

/-- The enabled account starts the VM that the administrator has stopped. -/
theorem stops_not_kept :
    ¬ StopsKept ((stops ⟨10, true⟩).run (watchedDesk bareDesk) overruledRun) := by
  intro kept
  have none := kept.resumed
  have one : ((stops ⟨10, true⟩).run (watchedDesk bareDesk) overruledRun).resumed.length = 1 := by
    decide +kernel
  rw [none] at one
  cases one

end HyruleCloud.Lifecycle
