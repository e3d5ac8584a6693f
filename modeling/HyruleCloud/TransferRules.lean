import HyruleCloud.TransferOuts

/-!
What one step does to the status of a domain, as long as no commit finds a row that it may
not find. What an execution has read or been told stays true of the row: that it has been
transferred, and that a departure after a transfer-out was that transfer.
-/

namespace HyruleCloud.Transfers

open Interaction

variable {current : DomainStatus}

section Rows
variable {config : TransferConfig} {now : Time} {session : Session} {read copy row : TransferRow}

theorem written_same {α : Type} [DecidableEq α] {read copy : α} (same : copy = read) (stored : α) :
    written read copy stored = stored := by simp [written, same]

theorem written_new {α : Type} [DecidableEq α] {read copy : α} (new : copy ≠ read) (stored : α) :
    written read copy stored = copy := by simp [written, new]

@[simp] theorem flush_status :
    (flush read copy row).status = written read.status copy.status row.status := rfl

/-- What a writer leaves as it is, unless it is a reconciliation. -/
structure Settled (row later : TransferRow) : Prop where
  pending : row.status = .transferPending → later.status = .transferPending
  transferred : row.status = .transferred →
    later.status = .transferred ∧ later.transferredAt = row.transferredAt

theorem settled_same (status : copy.status = row.status)
    (stamp : copy.transferredAt = row.transferredAt) : Settled row copy where
  pending pending := status.trans pending
  transferred ended := ⟨status.trans ended, stamp⟩

theorem flush_settled (stamp : copy.transferredAt = read.transferredAt)
    (apart : copy.status ≠ read.status →
      row.status ≠ .transferPending ∧ row.status ≠ .transferred) :
    Settled row (flush read copy row) := by
  by_cases same : copy.status = read.status
  · exact settled_same (written_same same _) (written_same stamp _)
  constructor
  · intro pending
    exact absurd pending (apart same).1
  · intro ended
    exact absurd ended (apart same).2

theorem refreshed_transferredAt :
    (refreshed config now read).transferredAt = read.transferredAt := by
  unfold refreshed
  split
  · rfl
  · split
    · rfl
    · rfl

theorem copied_transferredAt (session : Session)
    (other : ∀ visit order, session = .recordReconcile visit order →
      visit.reading.transferred = false) :
    (copied config now session read).transferredAt = read.transferredAt := by
  cases session with
  | recordReconcile visit order => simp [copied, other visit order rfl]
  | failPaidOrder | activateDomain =>
    simp only [copied]
    split
    · rfl
    · rfl
  | refreshRenewalStates => exact refreshed_transferredAt
  | _ => rfl

section
variable {visit : Visit}

theorem reconciledRow_transferred {row : DomainRow}
    (transferred : visit.reading.transferred = true) :
    (reconciledRow visit.reading current visit.provider visit.result row).status =
      .transferred := by
  simp [reconciledRow, transferred]

theorem reconciledRow_expired {row : DomainRow}
    (transferred : visit.reading.transferred = false) (expired : visit.reading.expired = true) :
    (reconciledRow visit.reading current visit.provider visit.result row).status = .expired := by
  simp [reconciledRow, transferred, expired]

theorem lapsed_reading (lapsed : visit.result.status = .lapsed) :
    visit.reading.transferred = false ∧ visit.reading.expired = true := by
  simp [Visit.reading, readingOf, lapsed]

theorem departed_reading (departed : visit.result.status = .departed)
    (pending : visit.domain.status = .transferPending) :
    visit.reading.transferred = true ∧ visit.reading.expired = false := by
  simp [Visit.reading, readingOf, departed, pending]

theorem transferred_departed (transferred : visit.reading.transferred = true) :
    visit.result.status = .departed := by
  simp only [Visit.reading, readingOf, Bool.and_eq_true, beq_iff_eq] at transferred
  exact transferred.2

end

end Rows

def Session.visit : Session → Option Visit
  | .failPaidOrder _ _ visit => visit
  | .lookReconcile visit _ | .recordReconcile visit _ => some visit
  | _ => none

def Stage.visit : Stage → Option Visit
  | .expiring visit => some visit
  | .zoning _ session | .begun session | .loaded session _ => session.visit
  | _ => none

def Visit.Known (visit : Visit) : Prop :=
  visit.late = true → visit.result.status = .departed → visit.domain.status = .transferPending

structure StageSound (row : Option TransferRow) (stage : Stage) : Prop where
  known : ∀ visit, stage.visit = some visit → visit.Known
  failing : ∀ visit, stage.fails = some visit → visit.reading.expired = true
  read : ∀ session read, stage = .loaded session (some read) →
    ∃ now, row = some now ∧ (read.status = .transferred → now.status = .transferred)

def Sound (desk : TransferDesk) : Prop :=
  ∀ w stage, desk.jobs w = some stage → StageSound desk.row stage

def Lasts (before after : Option TransferRow) : Prop :=
  ∀ row, before = some row → ∃ later, after = some later ∧
    (row.status = .transferred →
      later.status = .transferred ∧ later.transferredAt = row.transferredAt)

theorem lasts_refl (row : Option TransferRow) : Lasts row row :=
  fun row found => ⟨row, found, fun ended => ⟨ended, rfl⟩⟩

theorem lasts_trans {a b c : Option TransferRow} (first : Lasts a b) (second : Lasts b c) :
    Lasts a c := by
  intro row found
  obtain ⟨later, listed, stays⟩ := first row found
  obtain ⟨last, still, remains⟩ := second later listed
  refine ⟨last, still, fun ended => ?_⟩
  obtain ⟨status, stamp⟩ := stays ended
  obtain ⟨statusLater, stampLater⟩ := remains status
  exact ⟨statusLater, stampLater.trans stamp⟩

variable {later : TransferRow}

theorem settled_lasts {row : TransferRow} (settled : Settled row later) :
    Lasts (some row) (some later) := by
  intro found is
  cases is
  exact ⟨later, rfl, settled.transferred⟩

theorem StageSound.lasts {before after : Option TransferRow} {stage : Stage}
    (sound : StageSound before stage) (lasts : Lasts before after) : StageSound after stage where
  known := sound.known
  failing := sound.failing
  read := by
    intro session read is
    obtain ⟨row, found, ended⟩ := sound.read session read is
    obtain ⟨later, listed, stays⟩ := lasts row found
    exact ⟨later, listed, fun transferred => (stays (ended transferred)).1⟩

def Stage.isBlank : Stage → Bool
  | .expiring _ | .loaded _ (some _) => false
  | .zoning _ session | .begun session | .loaded session none => session.visit.isNone
  | _ => true

variable {visit : Visit}

theorem fails_visit (session : Session) (fails : session.fails = some visit) :
    session.visit = some visit := by
  cases session with
  | failPaidOrder id code failed => exact fails
  | _ => cases fails

theorem blank_sound (row : Option TransferRow) (stage : Stage) (blank : stage.isBlank = true) :
    StageSound row stage := by
  have untold : stage.visit = none := by
    cases stage with
    | loaded session read => cases read <;> simp_all [Stage.isBlank, Stage.visit]
    | _ => simp_all [Stage.isBlank, Stage.visit]
  have idle : stage.fails = none := by
    cases fails : stage.fails with
    | none => rfl
    | some visit =>
      cases stage with
      | zoning _ session | begun session | loaded session =>
        exact absurd (fails_visit session fails) (by simp_all [Stage.visit])
      | _ => simp_all [Stage.isBlank, Stage.fails]
  constructor
  · intro visit told
    rw [untold] at told
    cases told
  · intro visit fails
    rw [idle] at fails
    cases fails
  · intro session read is
    subst is
    cases blank

variable {session : Session} {answer : RegistrarAnswer}

variable {id : OrderId}

section Executions
variable {config : TransferConfig} {fqdn : Fqdn} {w : ProcessId} {desk : TransferDesk}
  {stage next : Stage}

theorem Sound.goOn (sound : Sound desk) {stage : Option Stage}
    (fine : ∀ next, stage = some next → StageSound desk.row next) : Sound (desk.goOn w stage) := by
  intro other next here
  by_cases same : other = w
  · subst same
    simp only [TransferDesk.goOn, Function.update_self] at here
    exact fine next here
  · simp only [TransferDesk.goOn, Function.update_of_ne same] at here
    exact sound other next here

theorem Sound.lasts (sound : Sound desk) {after : TransferDesk} (jobs : after.jobs = desk.jobs)
    (lasts : Lasts desk.row after.row) : Sound after := by
  intro other stage here
  rw [jobs] at here
  exact (sound other stage here).lasts lasts

theorem begun_sound {row : Option TransferRow} (known : ∀ visit,
    session.visit = some visit → visit.Known)
    (failing : ∀ visit, session.fails = some visit → visit.reading.expired = true) :
    StageSound row (.begun session) where
  known := known
  failing := failing
  read _ _ is := by cases is

theorem reads_row {read : TransferRow}
    (found : desk.reads session = some read) : desk.row = some read := by
  cases session with
  | failPaidOrder id code visit =>
    simp only [TransferDesk.reads] at found
    split at found
    · cases found
    · exact Option.eq_some_of_filter_eq_some found
  | retryOrFailJob id order vm error =>
    cases order with
    | none => cases found
    | some order => exact found
  | refreshRenewalStates => exact Option.eq_some_of_filter_eq_some found
  | _ => exact found

theorem loaded_sound {read : Option TransferRow}
    (sound : StageSound desk.row (.begun session)) (found : ∀ row, read = some row →
      desk.row = some row) : StageSound desk.row (.loaded session read) where
  known := sound.known
  failing := sound.failing
  read := by
    intro other row is
    cases is
    exact ⟨row, found row rfl, fun ended => ended⟩

theorem givesUp_sound {code : String} {row : Option TransferRow}
    (done : givesUp id code = some next) : StageSound row next := by
  cases done
  exact blank_sound _ _ rfl

theorem bound_sound {order : DomainOrderRow} {found : TransferRow}
    {row : Option TransferRow} (done : TransferDesk.bound id order found = some next) :
    StageSound row next := by
  unfold TransferDesk.bound at done
  split at done
  · exact givesUp_sound done
  · cases done
    exact blank_sound _ _ rfl

theorem lookReconcile_sound {terminal : Option OrderId} {row : Option TransferRow}
    (known : visit.Known) : StageSound row (.begun (.lookReconcile visit terminal)) := by
  apply begun_sound
  · intro other told
    cases told
    exact known
  · intro other fails
    cases fails

theorem expiring_sound {row : Option TransferRow} (known : visit.Known)
    (expired : visit.reading.expired = true) : StageSound row (.expiring visit) where
  known other told := by
    cases told
    exact known
  failing other fails := by
    cases fails
    exact expired
  read _ _ is := by cases is

theorem expires_sound (sound : StageSound desk.row (.expiring visit))
    (done : desk.looks fqdn (.expiring visit) = some next) : StageSound desk.row next := by
  have known := sound.known visit rfl
  have expired := sound.failing visit rfl
  simp only [TransferDesk.looks] at done
  split at done
  · cases done
    exact lookReconcile_sound known
  · cases done
    apply begun_sound
    · intro other told
      cases told
      exact known
    · intro other fails
      cases fails
      exact expired

theorem begins_sound (sound : StageSound desk.row (.begun session))
    (done : desk.looks fqdn (.begun session) = some next) : StageSound desk.row next := by
  have whole (found : desk.row.map (fun row => Stage.loaded session (some row)) = some next) :
      StageSound desk.row next := by
    obtain ⟨row, listed, is⟩ := Option.map_eq_some_iff.mp found
    subst is
    apply loaded_sound sound
    intro other same
    cases same
    exact listed
  have read (found : some (Stage.loaded session (desk.reads session)) = some next) :
      StageSound desk.row next := by
    cases found
    exact loaded_sound sound fun row found => reads_row found
  cases session with
  | recordRegistration | lookReconcile => exact whole done
  | _ => exact read done

theorem looks_sound (sound : StageSound desk.row stage)
    (done : desk.looks fqdn stage = some next) : StageSound desk.row next := by
  cases stage with
  | reconciling =>
    obtain ⟨row, found, asks⟩ := Option.bind_eq_some_iff.mp done
    split at asks
    · cases asks
    · cases asks
      exact blank_sound _ _ rfl
  | expiring visit => exact expires_sound sound done
  | registering id quoted =>
    obtain ⟨order, found, goes⟩ := Option.bind_eq_some_iff.mp done
    split at goes
    · cases goes
      exact blank_sound _ _ rfl
    · exact givesUp_sound goes
  | finding id order =>
    obtain ⟨row, found, binds⟩ := Option.bind_eq_some_iff.mp done
    exact bound_sound binds
  | renewing id =>
    obtain ⟨order, found, is⟩ := Option.map_eq_some_iff.mp done
    subst is
    exact blank_sound _ _ rfl
  | renewable id order =>
    simp only [TransferDesk.looks] at done
    split at done
    · exact givesUp_sound done
    split at done
    · exact givesUp_sound done
    · cases done
      exact blank_sound _ _ rfl
  | begun session => exact begins_sound sound done
  | loaded session read =>
    cases session with
    | lookReconcile visit terminal =>
      cases done
      constructor
      · exact sound.known
      · intro other fails
        cases fails
      · intro session other is
        cases is
        exact sound.read _ other rfl
    | _ =>
      cases done
      exact sound
  | _ =>
    cases done
    exact sound

theorem visited_sound {row : Option TransferRow} (known : visit.Known) :
    StageSound row (visited visit) := by
  unfold visited
  split
  · exact expiring_sound known (by assumption)
  · exact lookReconcile_sound known

theorem identified_sound {result : ProviderResult} {row : Option TransferRow} :
    StageSound row (identified id result) := by
  unfold identified
  split
  · exact blank_sound _ _ rfl
  · exact blank_sound _ _ rfl

section
variable {id : OrderId} {order : DomainOrderRow} {domain : TransferRow}

theorem obtainsRegistration_sound {row : Option TransferRow}
    (done : obtainsRegistration config id order domain answer = some next) :
    StageSound row next := by
  unfold obtainsRegistration at done
  split at done
  · cases done
    exact identified_sound
  · split at done
    · exact givesUp_sound done
    split at done
    · exact givesUp_sound done
    · cases done
      exact identified_sound
  · split at done
    · exact givesUp_sound done
    split at done
    · cases done
    split at done
    · exact givesUp_sound done
    split at done
    · split at done
      · exact givesUp_sound done
      · cases done
        exact blank_sound _ _ rfl
    · exact givesUp_sound done

theorem obtainsRenewal_sound {provider : ProviderId} {row : Option TransferRow}
    (done : obtainsRenewal config id order domain provider answer = some next) :
    StageSound row next := by
  unfold obtainsRenewal at done
  split at done
  · split at done
    · exact givesUp_sound done
    split at done
    · split at done
      · cases done
      · cases done
        exact blank_sound _ _ rfl
    · obtain ⟨baseline, found, is⟩ := Option.map_eq_some_iff.mp done
      subst is
      exact blank_sound _ _ rfl
  · cases done

end

theorem answered_sound {late : Bool}
    (sound : StageSound desk.row stage)
    (pending : ∀ domain, stage = .asking domain → late = true → departs domain answer = true →
      domain.status = .transferPending)
    (done : answered config late answer stage = some next) : StageSound desk.row next := by
  cases stage with
  | unlocking | extending =>
    cases done
    exact blank_sound _ _ rfl
  | asking domain =>
    obtain ⟨⟨provider, result⟩, told, is⟩ := Option.map_eq_some_iff.mp done
    subst is
    apply visited_sound
    intro lateAsked departed
    apply pending domain rfl lateAsked
    simpa [departs, told] using departed
  | obtaining id order domain => exact obtainsRegistration_sound done
  | submitting id =>
    cases done
    exact identified_sound
  | identifying id =>
    obtain ⟨result, found, named⟩ := Option.bind_eq_some_iff.mp done
    obtain ⟨provider, known, is⟩ := Option.map_eq_some_iff.mp named
    subst is
    exact blank_sound _ _ rfl
  | pricing id order domain provider => exact obtainsRenewal_sound done
  | zoning order session =>
    cases done
    exact begun_sound sound.known sound.failing
  | _ =>
    cases done
    exact sound

theorem raised_sound {error : Err} (done : raised error stage = some next) :
    StageSound desk.row next := by
  obtain ⟨id, found, goes⟩ := Option.bind_eq_some_iff.mp done
  split at goes
  · exact givesUp_sound goes
  · exact givesUp_sound goes
  · cases goes

theorem settled_sound {order : Option (OrderId × DomainOrderRow)}
    {row : Option TransferRow} (done : settled visit order = some next) : StageSound row next := by
  unfold settled at done
  dsimp only at done
  split at done
  · cases done
  split at done
  · cases done
    cases order with
    | none | some => exact blank_sound _ _ rfl
  · cases done
    cases order with
    | none | some => exact blank_sound _ _ rfl

theorem follows_sound {read row : Option TransferRow}
    (known : ∀ visit, session.visit = some visit → visit.Known)
    (done : follows session read = some next) : StageSound row next := by
  cases session with
  | failPaidOrder id code visit =>
    cases visit with
    | none => cases done
    | some visit =>
      cases done
      exact lookReconcile_sound (known visit rfl)
  | markSubmitted | markRenewal =>
    cases done
    exact blank_sound _ _ rfl
  | recordRegistration id provider result =>
    simp only [follows] at done
    split at done
    · cases done
      exact blank_sound _ _ rfl
    · cases done
  | recordReconcile visit order =>
    simp only [follows] at done
    split at done
    · cases done
    · exact settled_sound done
  | retryOrFailJob id order vm error =>
    simp only [follows] at done
    split at done
    · exact givesUp_sound done
    · cases done
  | _ => cases done

end Executions

/-- What a commit of a session does to the status of the row that it finds. -/
structure Written (session : Session) (row later : TransferRow) : Prop where
  transferred : row.status = .transferred →
    later.status = .transferred ∧ later.transferredAt = row.transferredAt
  pending : row.status = .transferPending → later.status = .transferPending ∨
    ∃ visit order, session = .recordReconcile visit order ∧
      ((visit.result.status = .departed ∧ later.status = .transferred) ∨
        (visit.result.status = .lapsed ∧ later.status = .expired))
  departed : ∀ visit order, session = .recordReconcile visit order → visit.late = true →
    visit.result.status = .departed → later.status = .transferred

section Commits
variable {config : TransferConfig} {now : Time} {session : Session} {read row : TransferRow}
  {visit : Visit} {order : Option (OrderId × DomainOrderRow)}

theorem settled_written (settled : Settled row later)
    (departed : ∀ visit order, session = .recordReconcile visit order → visit.late = true →
      visit.result.status ≠ .departed) : Written session row later where
  transferred := settled.transferred
  pending pending := Or.inl (settled.pending pending)
  departed visit order is late told := absurd told (departed visit order is late)

theorem transferOut_settled {operation : OperationId}
    (may : mayStore config now (.transferOut operation) read row = true) :
    Settled row (flush read (copied config now (.transferOut operation) read) row) := by
  simp only [mayStore, Bool.or_eq_true, decide_eq_true_eq] at may
  rcases may with free | unchanged
  · constructor
    · intro pending
      by_cases same : DomainStatus.transferPending = read.status
      · exact (written_same same _).trans pending
      · exact written_new same _
    · intro ended
      exact absurd ended free
  · exact settled_same (written_same unchanged.symm _) (written_same rfl _)

theorem transferred_written (transferred : visit.reading.transferred = true)
    (stays : read.status = .transferred → row.status = .transferred)
    (may : mayStore config now (.recordReconcile visit order) read row = true) :
    Written (.recordReconcile visit order) row
      (flush read (copied config now (.recordReconcile visit order) read) row) := by
  simp only [mayStore, transferred, if_true, Bool.or_eq_true, decide_eq_true_eq] at may
  have status : (flush read (copied config now (.recordReconcile visit order) read) row).status =
      .transferred := by
    rw [flush_status]
    have copy : (copied config now (.recordReconcile visit order) read).status = .transferred :=
      reconciledRow_transferred transferred
    by_cases same : read.status = .transferred
    · rw [written_same (copy.trans same.symm)]
      exact stays same
    · rw [written_new (by rw [copy]; exact Ne.symm same)]
      exact copy
  constructor
  · intro ended
    constructor
    · exact status
    · have stamped := may.resolve_left (absurd ended)
      obtain ⟨stamp, told⟩ := Option.isSome_iff_exists.mp stamped
      apply written_same
      simp [copied, transferred, told]
  · intro _
    exact Or.inr ⟨visit, order, rfl, Or.inl ⟨transferred_departed transferred, status⟩⟩
  · intro _ _ _ _ _
    exact status

theorem lapsed_written (lapsed : visit.result.status = .lapsed)
    (may : mayStore config now (.recordReconcile visit order) read row = true) :
    Written (.recordReconcile visit order) row
      (flush read (copied config now (.recordReconcile visit order) read) row) := by
  obtain ⟨transferred, expired⟩ := lapsed_reading lapsed
  simp only [mayStore, transferred, Bool.false_eq_true, if_false, lapsed, if_true, Bool.or_eq_true,
    decide_eq_true_eq] at may
  have copy : (copied config now (.recordReconcile visit order) read).status = .expired :=
    reconciledRow_expired transferred expired
  have stamp : (copied config now (.recordReconcile visit order) read).transferredAt =
      read.transferredAt := by simp [copied, transferred]
  by_cases same : read.status = .expired
  · apply settled_written (settled_same (written_same (copy.trans same.symm) _)
      (written_same stamp _))
    intro other found is late departed
    cases is
    rw [lapsed] at departed
    cases departed
  · have status : (flush read (copied config now (.recordReconcile visit order) read) row).status =
        .expired := (written_new (by rw [copy]; exact Ne.symm same) _).trans copy
    constructor
    · intro ended
      rcases may with free | unchanged
      · exact absurd ended free
      · exact absurd unchanged same
    · intro _
      exact Or.inr ⟨visit, order, rfl, Or.inr ⟨lapsed, status⟩⟩
    · intro other found is late departed
      cases is
      rw [lapsed] at departed
      cases departed

theorem reconciled_written (known : visit.Known) (transferred : visit.reading.transferred = false)
    (lapsed : visit.result.status ≠ .lapsed)
    (may : mayStore config now (.recordReconcile visit order) read row = true) :
    Written (.recordReconcile visit order) row
      (flush read (copied config now (.recordReconcile visit order) read) row) := by
  simp only [mayStore, transferred, Bool.false_eq_true, if_false, if_neg lapsed, Bool.or_eq_true,
    Bool.not_eq_true',
    rewrites, decide_eq_false_iff_not, not_not, Bool.and_eq_true, decide_eq_true_eq] at may
  apply settled_written
  · apply flush_settled
    · simp [copied, transferred]
    · intro changed
      exact (may.resolve_left fun same => changed same)
  · intro other found is late departed
    cases is
    have pending := known late departed
    rw [(departed_reading departed pending).1] at transferred
    cases transferred

theorem other_written (other : ∀ visit order, session ≠ .recordReconcile visit order)
    (plain : ∀ operation, session ≠ .transferOut operation)
    (may : mayStore config now session read row = true) :
    Written session row (flush read (copied config now session read) row) := by
  apply settled_written
  · apply flush_settled
    · apply copied_transferredAt
      intro visit order is
      exact absurd is (other visit order)
    · intro changed
      have may : (!rewrites config now session read ||
          (row.status ≠ .transferPending && row.status ≠ .transferred)) = true := by
        cases session with
        | transferOut operation => exact absurd rfl (plain operation)
        | recordReconcile visit order => exact absurd rfl (other visit order)
        | _ => exact may
      simpa [rewrites, changed] using may
  · intro visit order is
    exact absurd is (other visit order)

theorem flush_written (known : ∀ visit, session.visit = some visit → visit.Known)
    (stays : read.status = .transferred → row.status = .transferred)
    (may : mayStore config now session read row = true) :
    Written session row (flush read (copied config now session read) row) := by
  cases session with
  | transferOut operation =>
    apply settled_written (transferOut_settled may)
    intro visit order is
    cases is
  | recordReconcile visit order =>
    cases transferred : visit.reading.transferred with
    | true => exact transferred_written transferred stays may
    | false =>
      by_cases lapsed : visit.result.status = .lapsed
      · exact lapsed_written lapsed may
      · exact reconciled_written (known visit rfl) transferred lapsed may
  | _ => exact other_written (by intro _ _ is; cases is) (by intro _ is; cases is) may

end Commits

end HyruleCloud.Transfers
