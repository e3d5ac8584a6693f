import HyruleCloud.Provisioning

/-!
At most one guest of a VM runs, whatever becomes of its commands. A guest is hot
when it runs or a start of it is still under way; provisioning starts a guest
only while no other is hot, and prepares a new generation only when none is.
A guest that is hot before its uuid is stored carries the label of the current
generation, so that the next attempt finds it.
-/

namespace HyruleCloud

open Interaction

section Guests
variable (vm : VmId) (s : Site)

def Runs (guest : Uuid) : Prop :=
  ∃ found, s.guests guest = some found ∧ found.label.vm = vm ∧ found.power = .running

/-- Runs, or about to be: a start whose answer was given up may still land. -/
def Hot (guest : Uuid) : Prop :=
  ∃ found, s.guests guest = some found ∧ found.label.vm = vm ∧
    (found.power = .running ∨ .start guest ∈ s.delayed)

def Dated (label : Label) : Prop :=
  ∃ generation, label.generation = some generation ∧ generation < s.nextGeneration

def trackedUuid : Option (Option Uuid) := (s.vms vm).map (·.xcpngUuid)

structure Tidy : Prop where
  fresh : ∀ guest, s.nextUuid ≤ guest → s.guests guest = none
  started : ∀ guest, .start guest ∈ s.delayed → guest < s.nextUuid
  dated : ∀ guest found, s.guests guest = some found → found.label.vm = vm →
    Dated s found.label
  ordered : ∀ label, .create label ∈ s.delayed → label.vm = vm → Dated s label
  one : ∀ a b, Hot vm s a → Hot vm s b → a = b
  tracked : ∀ guest, trackedUuid vm s = some (some guest) → ∀ other, Hot vm s other →
    other = guest
  untracked : trackedUuid vm s = some none → ∀ guest, Hot vm s guest →
    (s.vms vm).map (·.hasPrefix) = some true ∧ ∃ receipt, s.receipts vm = some receipt ∧
      (s.guests guest).map (·.label) = some ⟨vm, some receipt.generation⟩

structure Punctual : Prop where
  prompt : ∀ guest, .start guest ∉ s.delayed
  failed : ∀ row, s.vms vm = some row → row.status = .failed → ∀ guest, ¬ Runs vm s guest

end Guests

variable {guest : Uuid}

theorem running_hot {vm : VmId} {s : Site} (running : Runs vm s guest) : Hot vm s guest := by
  obtain ⟨found, present, label, power⟩ := running
  exact ⟨found, present, label, Or.inl power⟩

structure Tame (vm : VmId) (s s' : Site) : Prop where
  uuid : trackedUuid vm s' = trackedUuid vm s
  bound : (s'.vms vm).map (·.hasPrefix) = (s.vms vm).map (·.hasPrefix)
  failed : ∀ next, s'.vms vm = some next → next.status = .failed →
    ∃ row, s.vms vm = some row ∧ row.status = .failed
  receipt : (s'.receipts vm).map (·.generation) = (s.receipts vm).map (·.generation)
  generations : s'.nextGeneration = s.nextGeneration
  uuids : s.nextUuid ≤ s'.nextUuid
  starts : ∀ guest, .start guest ∈ s'.delayed → .start guest ∈ s.delayed
  creates : ∀ label, .create label ∈ s'.delayed → label.vm = vm → Dated s label
  fresh : ∀ guest, s'.nextUuid ≤ guest → s'.guests guest = none
  guests : ∀ guest found, s'.guests guest = some found →
    (∃ old, s.guests guest = some old ∧ old.label = found.label ∧
      (found.power = .running → old.power = .running ∨ .start guest ∈ s.delayed)) ∨
    (s.nextUuid ≤ guest ∧ found.power ≠ .running ∧ (found.label.vm = vm → Dated s found.label))

section Tame
variable {vm : VmId} {s s' : Site}

theorem tame_hot (tidy : Tidy vm s) (tame : Tame vm s s') (hot : Hot vm s' guest) :
    Hot vm s guest := by
  obtain ⟨found, present, label, power⟩ := hot
  rcases tame.guests guest found present with ⟨old, before, same, ran⟩ | ⟨later, idle, _⟩
  · refine ⟨old, before, by rw [same]; exact label, ?_⟩
    rcases power with running | started
    · exact ran running
    · exact Or.inr (tame.starts guest started)
  · rcases power with running | started
    · exact absurd running idle
    · exact absurd (tidy.started guest (tame.starts guest started)) (not_lt.mpr later)

theorem tame_running (quiet : Punctual vm s) (tame : Tame vm s s') (running : Runs vm s' guest) :
    Runs vm s guest := by
  obtain ⟨found, present, label, power⟩ := running
  rcases tame.guests guest found present with ⟨old, before, same, ran⟩ | ⟨_, idle, _⟩
  · refine ⟨old, before, by rw [same]; exact label, ?_⟩
    rcases ran power with running | started
    · exact running
    · exact absurd started (quiet.prompt guest)
  · exact absurd power idle

theorem tame_dated (tame : Tame vm s s') {label : Label} (dated : Dated s label) :
    Dated s' label := by
  obtain ⟨generation, named, earlier⟩ := dated
  exact ⟨generation, named, by rw [tame.generations]; exact earlier⟩

variable (tidy : Tidy vm s)
include tidy

theorem tame_label (tame : Tame vm s s') (hot : Hot vm s' guest) :
    (s'.guests guest).map (·.label) = (s.guests guest).map (·.label) := by
  obtain ⟨found, present, _, power⟩ := id hot
  obtain ⟨old, before, _⟩ := tame_hot tidy tame hot
  rcases tame.guests guest found present with ⟨earlier, there, same, _⟩ | ⟨later, _⟩
  · simp [present, there, same]
  · rw [tidy.fresh guest later] at before
    cases before

theorem tame_tidy (tame : Tame vm s s') : Tidy vm s' where
  fresh := tame.fresh
  started guest waiting :=
    lt_of_lt_of_le (tidy.started guest (tame.starts guest waiting)) tame.uuids
  dated guest found present label := by
    rcases tame.guests guest found present with ⟨old, before, same, _⟩ | ⟨_, _, dated⟩
    · refine tame_dated tame ?_
      rw [← same]
      exact tidy.dated guest old before (by rw [same]; exact label)
    · exact tame_dated tame (dated label)
  ordered label waiting own := tame_dated tame (tame.creates label waiting own)
  one a b hot other := tidy.one a b (tame_hot tidy tame hot) (tame_hot tidy tame other)
  tracked guest known other hot := by
    rw [tame.uuid] at known
    exact tidy.tracked guest known other (tame_hot tidy tame hot)
  untracked unknown guest hot := by
    rw [tame.uuid] at unknown
    obtain ⟨allotted, receipt, present, label⟩ :=
      tidy.untracked unknown guest (tame_hot tidy tame hot)
    have kept := tame.receipt
    rw [present] at kept
    cases after : s'.receipts vm with
    | none => simp [after] at kept
    | some next =>
      have same : next.generation = receipt.generation := by simpa [after] using kept
      exact ⟨tame.bound.trans allotted, next, rfl,
        by rw [tame_label tidy tame hot, label, same]⟩

omit tidy

theorem tame_punctual (quiet : Punctual vm s) (tame : Tame vm s s') : Punctual vm s' where
  prompt guest waiting := quiet.prompt guest (tame.starts guest waiting)
  failed next present failed guest running := by
    obtain ⟨row, before, failed⟩ := tame.failed next present failed
    exact quiet.failed row before failed guest (tame_running quiet tame running)

theorem tame_trans {a b c : Site} (tidy : Tidy vm a) (first : Tame vm a b)
    (second : Tame vm b c) : Tame vm a c where
  uuid := second.uuid.trans first.uuid
  bound := second.bound.trans first.bound
  failed next present failed := by
    obtain ⟨middle, there, failed⟩ := second.failed next present failed
    exact first.failed middle there failed
  receipt := second.receipt.trans first.receipt
  generations := second.generations.trans first.generations
  uuids := first.uuids.trans second.uuids
  starts guest waiting := first.starts guest (second.starts guest waiting)
  creates label waiting own := by
    obtain ⟨generation, named, earlier⟩ := second.creates label waiting own
    exact ⟨generation, named, by rw [← first.generations]; exact earlier⟩
  fresh := second.fresh
  guests guest found present := by
    rcases second.guests guest found present with ⟨middle, there, same, ran⟩ | ⟨later, idle, dated⟩
    · rcases first.guests guest middle there with ⟨old, before, same', ran'⟩ | ⟨later, idle, dated⟩
      · refine Or.inl ⟨old, before, same'.trans same, fun running => ?_⟩
        rcases ran running with running | started
        · exact ran' running
        · exact Or.inr (first.starts guest started)
      · refine Or.inr ⟨later, fun running => ?_, by rw [← same]; exact dated⟩
        rcases ran running with running | started
        · exact idle running
        · exact absurd (tidy.started guest (first.starts guest started)) (not_lt.mpr later)
    · refine Or.inr ⟨first.uuids.trans later, idle, fun own => ?_⟩
      obtain ⟨generation, named, earlier⟩ := dated own
      exact ⟨generation, named, by rw [← first.generations]; exact earlier⟩

include tidy

theorem tame_store (guests : s'.guests = s.guests)
    (nextUuid : s'.nextUuid = s.nextUuid) (delayed : s'.delayed = s.delayed)
    (generations : s'.nextGeneration = s.nextGeneration)
    (receipt : (s'.receipts vm).map (·.generation) = (s.receipts vm).map (·.generation))
    (uuid : trackedUuid vm s' = trackedUuid vm s)
    (bound : (s'.vms vm).map (·.hasPrefix) = (s.vms vm).map (·.hasPrefix))
    (failed : ∀ next, s'.vms vm = some next → next.status = .failed →
      ∃ row, s.vms vm = some row ∧ row.status = .failed) : Tame vm s s' where
  uuid := uuid
  bound := bound
  failed := failed
  receipt := receipt
  generations := generations
  uuids := nextUuid.ge
  starts guest waiting := by rwa [delayed] at waiting
  creates label waiting own := tidy.ordered label (by rwa [delayed] at waiting) own
  fresh guest later := by
    rw [guests]
    exact tidy.fresh guest (by rwa [nextUuid] at later)
  guests guest found present := by
    rw [guests] at present
    exact Or.inl ⟨found, present, rfl, Or.inl⟩

theorem tame_refl : Tame vm s s :=
  tame_store tidy rfl rfl rfl rfl rfl rfl rfl fun next present failed => ⟨next, present, failed⟩

theorem tame_put (other : VmId) (row next : VMRow)
    (present : s.vms other = some row) (uuid : next.xcpngUuid = row.xcpngUuid)
    (bound : next.hasPrefix = row.hasPrefix)
    (failed : next.status = .failed → row.status = .failed) :
    Tame vm s { s with vms := s.vms.put other next } := by
  by_cases same : vm = other
  · subst same
    refine tame_store tidy rfl rfl rfl rfl rfl ?_ ?_ fun found there failing => ?_
    · simp [trackedUuid, present, uuid]
    · simp [present, bound]
    · have : next = found := by simpa using there
      exact ⟨row, present, failed (this ▸ failing)⟩
  · refine tame_store tidy rfl rfl rfl rfl rfl ?_ ?_ fun found there failing => ?_
    · simp [trackedUuid, same]
    · simp [same]
    · exact ⟨found, by simpa [same] using there, failing⟩

omit tidy

def Starting (vm : VmId) (s : Site) : XoCommand → Prop
  | .create label => label.vm = vm → Dated s label
  | .start guest => .start guest ∈ s.delayed
  | _ => True

include tidy

theorem effect_tame (command : XoCommand) (later : List XoCommand)
    (known : Starting vm s command) (fewer : ∀ waiting ∈ later, waiting ∈ s.delayed) :
    Tame vm s (command.effect { s with delayed := later }) := by
  have aside : ∀ guests : Table Uuid Guest,
      (∀ guest, s.nextUuid ≤ guest → guests guest = none) →
      (∀ guest found, guests guest = some found → ∃ old, s.guests guest = some old ∧
        old.label = found.label ∧
        (found.power = .running → old.power = .running ∨ .start guest ∈ s.delayed)) →
      Tame vm s { s with delayed := later, guests := guests } :=
    fun guests fresh kept => {
      uuid := rfl
      bound := rfl
      failed := fun next present failed => ⟨next, present, failed⟩
      receipt := rfl
      generations := rfl
      uuids := le_rfl
      starts := fun guest waiting => fewer _ waiting
      creates := fun label waiting own => tidy.ordered label (fewer _ waiting) own
      fresh := fresh
      guests := fun guest found present => Or.inl (kept guest found present) }
  have same : Tame vm s { s with delayed := later } :=
    aside s.guests tidy.fresh fun guest found present => ⟨found, present, rfl, Or.inl⟩
  have power : ∀ (guest : Uuid) (found : Guest) (next : Power), s.guests guest = some found →
      (next = .running → found.power = .running ∨ .start guest ∈ s.delayed) →
      Tame vm s { s with
        delayed := later
        guests := s.guests.put guest { found with power := next } } := by
    intro guest found next present ran
    refine aside _ (fun other later => ?_) fun other seen there => ?_
    · have absent := tidy.fresh other later
      by_cases here : other = guest
      · subst here
        cases present.symm.trans absent
      · simpa [here] using absent
    · by_cases here : other = guest
      · subst here
        have shown : { found with power := next } = seen := by simpa using there
        subst shown
        exact ⟨found, present, rfl, ran⟩
      · exact ⟨seen, by simpa [here] using there, rfl, Or.inl⟩
  cases command with
  | configure guest => exact same
  | start guest =>
    simp only [XoCommand.effect]
    split
    · exact power guest _ _ (by assumption) fun _ => Or.inr known
    · exact same
  | stop guest =>
    simp only [XoCommand.effect]
    split
    · exact power guest _ _ (by assumption) fun absurd => by cases absurd
    · exact same
  | delete guest =>
    refine aside _ (fun other later => ?_) fun other seen there => ?_
    · by_cases here : other = guest
      · simp [here]
      · simpa [here] using tidy.fresh other later
    · by_cases here : other = guest
      · simp [here] at there
      · exact ⟨seen, by simpa [here] using there, rfl, Or.inl⟩
  | create label =>
    exact {
      uuid := rfl
      bound := rfl
      failed := fun next present failed => ⟨next, present, failed⟩
      receipt := rfl
      generations := rfl
      uuids := Nat.le_succ _
      starts := fun guest waiting => fewer _ waiting
      creates := fun label waiting own => tidy.ordered label (fewer _ waiting) own
      fresh := fun guest above => by
        have other : guest ≠ s.nextUuid := fun absurd =>
          Nat.not_succ_le_self _ (absurd ▸ above)
        simpa [XoCommand.effect, other] using tidy.fresh guest (Nat.le_of_succ_le above)
      guests := fun guest found present => by
        by_cases here : guest = s.nextUuid
        · subst here
          have shown : (⟨label, .halted⟩ : Guest) = found := by
            simpa [XoCommand.effect] using present
          subst shown
          exact Or.inr ⟨le_rfl, by simp, known⟩
        · exact Or.inl ⟨found, by simpa [XoCommand.effect, here] using present, rfl, Or.inl⟩ }

theorem event_tame (event : Meanwhile) : Tame vm s (event.run s) := by
  cases event with
  | late index =>
    simp only [Meanwhile.run, runDelayed]
    split
    · rename_i command found
      have waiting : command ∈ s.delayed := List.mem_of_getElem? found
      refine effect_tame tidy command _ ?_ fun other here => List.mem_of_mem_eraseIdx here
      cases command with
      | create label => exact tidy.ordered label waiting
      | start guest => exact waiting
      | _ => trivial
    · exact tame_refl tidy
  | report other generation succeeded =>
    simp only [Meanwhile.run, acceptGuestResult]
    repeat' split
    · rename_i receipt present _
      refine tame_store tidy rfl rfl rfl rfl ?_ rfl rfl
        fun next there failed => ⟨next, there, failed⟩
      by_cases same : vm = other
      · subst same
        simp [present]
      · simp [same]
    · exact tame_refl tidy
    · exact tame_refl tidy
  | suspend other reason =>
    simp only [Meanwhile.run]
    split
    · rename_i row present
      exact tame_put tidy other row _ present rfl rfl id
    · exact tame_refl tidy
  | disable account disabled =>
    exact tame_store tidy rfl rfl rfl rfl rfl rfl rfl fun next there failed => ⟨next, there, failed⟩

theorem meanwhile_tame (events : List Meanwhile) :
    Tame vm s (meanwhile events s) := by
  induction events generalizing s with
  | nil => exact tame_refl tidy
  | cons event rest ih =>
    have first := event_tame tidy event
    exact tame_trans tidy first (ih (tame_tidy tidy first))

theorem delayed_tame (command : XoCommand)
    (unstarted : ∀ guest, command ≠ .start guest)
    (known : ∀ label, command = .create label → label.vm = vm → Dated s label) :
    Tame vm s { s with delayed := s.delayed ++ [command] } where
  uuid := rfl
  bound := rfl
  failed next present failed := ⟨next, present, failed⟩
  receipt := rfl
  generations := rfl
  uuids := le_rfl
  starts guest waiting := by
    rcases List.mem_append.mp waiting with before | last
    · exact before
    · exact absurd (List.mem_singleton.mp last).symm (unstarted guest)
  creates label waiting own := by
    rcases List.mem_append.mp waiting with before | last
    · exact tidy.ordered label before own
    · exact known label (List.mem_singleton.mp last).symm own
  fresh := tidy.fresh
  guests guest found present := Or.inl ⟨found, present, rfl, Or.inl⟩

theorem command_tame (command : XoCommand) (answer : ProvisionAnswer)
    (reply : Except Err Uuid) (unstarted : ∀ guest, command ≠ .start guest)
    (known : ∀ label, command = .create label → label.vm = vm → Dated s label)
    (ran : exchanged (exchangeCommand command) answer s = some (s', reply)) : Tame vm s s' := by
  rcases command_ends ran with ⟨rfl, _⟩ | ⟨rfl, _⟩ | ⟨rfl, _⟩
  · exact tame_refl tidy
  · refine effect_tame tidy command s.delayed ?_ fun _ here => here
    cases command with
    | create label => exact known label rfl
    | start guest => exact absurd rfl (unstarted guest)
    | _ => trivial
  · exact delayed_tame tidy command unstarted known

omit tidy

def Mild {β : Type} : ProvisionReq β → Prop
  | .recordOwed _ | .recordNativeIntentRefund _ _ _ => True
  | request => Harmless request

theorem answered_tame {β : Type} (request : ProvisionReq β) (answer : ProvisionAnswer)
    (reply : Except Err β) (tidy : Tidy vm s) (mild : Mild request)
    (ran : request.answered answer s = some (s', reply)) : Tame vm s s' := by
  have read : ∀ {γ : Type} {read : Site → γ} {reply : Except Err γ},
      inSession (siteRead read) answer s = some (s', reply) → Tame vm s s' := by
    intro γ read reply ran
    obtain ⟨rfl, _⟩ := inSession_read ran
    exact tame_refl tidy
  have aside : ∀ {failure : String → Err} {reply : Except Err Unit},
      external failure answer s = some (s', reply) → Tame vm s s' := by
    intro failure reply ran
    obtain rfl := external_same ran
    exact tame_refl tidy
  have ledger : ∀ store : Store, store.vms = s.vms → Tame vm s { s with toStore := store } := by
    intro store rows
    refine tame_store tidy rfl rfl rfl rfl rfl ?_ ?_ fun next present failed => ⟨next, ?_, failed⟩
    · simp only [trackedUuid, rows]
    · simp only [rows]
    · exact rows ▸ present
  cases request with
  | exchange command =>
    refine command_tame tidy command answer reply ?_ ?_ ran
    · rintro guest rfl
      exact mild.elim
    · rintro label rfl
      exact mild.elim
  | findLabel label | powerState guest | guestExists guest =>
    obtain rfl := query_same ran
    exact tame_refl tidy
  | reconnect | renderConfig other | waitForIpv6 guest | publishDns other => exact aside ran
  | beginProvisioning other | getVm other | capacityLock | getReceipt other
  | checkRestriction other guest | quoteForVm other | intentOfVm other => exact read ran
  | guestResult other generation =>
    rcases inSession_ends ran with ⟨rfl, _⟩ | ⟨value, done, _⟩
    · exact tame_refl tidy
    simp only [guestResult] at done
    repeat' split at done
    all_goals cases done
    exact tame_refl tidy
  | readyToFinish other guest generation =>
    rcases inSession_ends ran with ⟨rfl, _⟩ | ⟨value, done, _⟩
    · exact tame_refl tidy
    simp only [readyToFinish] at done
    repeat' split at done
    all_goals cases done
    all_goals exact tame_refl tidy
  | finishProvisioning other suspended =>
    rcases inSession_ends ran with ⟨rfl, _⟩ | ⟨value, done, _⟩
    · exact tame_refl tidy
    obtain ⟨store, inner, rfl⟩ := onSite_ok done
    simp only [finishProvisioning] at inner
    split at inner
    · cases inner
      exact tame_refl tidy
    · rename_i row present
      cases inner
      refine tame_put tidy other row _ present rfl rfl fun failed => ?_
      cases suspended <;> cases failed
  | releaseVmAttachmentClaim other =>
    rcases inSession_ends ran with ⟨rfl, _⟩ | ⟨value, done, _⟩
    · exact tame_refl tidy
    · obtain ⟨store, inner, rfl⟩ := onSite_ok done
      cases inner
      exact ledger _ rfl
  | recordOwed args =>
    simp only [ProvisionReq.answered] at ran
    split at ran <;> cases ran
    · exact tame_refl tidy
    · refine ledger _ ?_
      simp only [recordOwed, addEvent]
      split <;> rfl
  | recordNativeIntentRefund intent reason other =>
    simp only [ProvisionReq.answered] at ran
    split at ran
    · rename_i now fate
      simp only [Option.some.injEq] at ran
      rcases transact_ends _ _ _ _ _ ran with ⟨rfl, _⟩ | ⟨value, done, _⟩
      · exact tame_refl tidy
      obtain ⟨store, inner, rfl⟩ := onSite_ok done
      refine ledger _ ?_
      have handed : ∀ row, (failHandedOrder intent row reason now s.toStore).vms = s.vms :=
        fun row => (failHandedOrder_columns intent row reason now s.toStore).1
      simp only [recordNativeIntentRefund, addEvent] at inner
      repeat' split at inner
      all_goals cases inner
      all_goals first | rfl | exact handed _
    · cases ran
  | prepareGuestResult _ | adoptGuest _ _ _ | storeUuid _ _ | commitFailed _ => exact mild.elim

theorem mild_tame {β : Type} (request : ProvisionReq β) (choice : ProvisionChoice)
    (reply : Except Err β) (tidy : Tidy vm s) (mild : Mild request)
    (ran : request.exec choice s = some (s', reply)) : Tame vm s s' := by
  have first := meanwhile_tame tidy choice.meanwhile
  exact tame_trans tidy first
    (answered_tame request choice.answer reply (tame_tidy tidy first) mild ran)

end Tame

def Contained (vm : VmId) (s : Site) : Prop :=
  trackedUuid vm s = some none → ∀ guest, ¬ Runs vm s guest

/-- The steps under which a failed row leaves no guest running: a start lands
before its answer is given up or never, and while an untracked guest runs the
attempt is not misled about it. -/
def Attentive {β : Type} (vm : VmId) (request : ProvisionReq β) (answer : ProvisionAnswer)
    (s : Site) : Prop :=
  match request with
  | .exchange (.start _) => ∀ closed, answer ≠ .exchange (.lost closed .delayed)
  | .exchange (.delete _) => ¬ Contained vm s →
      answer = .exchange .answered ∨ ∃ closed, answer = .exchange (.lost closed .applied)
  | .storeUuid _ _ | .adoptGuest _ _ _ => ¬ Contained vm s → answer ≠ .commit .failed
  | .renderConfig _ | .capacityLock | .getVm _ | .getReceipt _ =>
    ¬ Contained vm s → answer = .commit .done
  | .findLabel _ => ¬ Contained vm s → answer = .exchange .answered
  | _ => True

section Guard
variable (careful : Prop) (vm : VmId)

/-- Every fault is admitted; a careful run meets the condition at each step. -/
def guestSetting : Setting ProvisionReq Err Site ProvisionChoice where
  exec := ProvisionReq.exec
  permits request choice s := careful → Attentive vm request choice.answer s
  mayCrash _ _ := True

def Guarded (s : Site) : Prop := Tidy vm s ∧ (careful → Punctual vm s)

def guestDuty : Duty Site where
  inv := Guarded careful vm
  rely s s' := s' = s
  guar _ _ := True
  crash _ := True
  rely_refl _ := rfl
  rely_trans first second := second.trans first

abbrev GuestTriple {α : Type} (pre : Site → Prop) (p : Provision α)
    (post : Except Err α → Site → Prop) : Prop :=
  Triple (guestSetting careful vm) (guestDuty careful vm) pre p post

def Lasting (assertion : Site → Prop) : Prop :=
  ∀ s s', Guarded careful vm s → Tame vm s s' → assertion s → assertion s'

def Escape (s : Site) : Prop := careful → Contained vm s

def Cold (s : Site) : Prop := ∀ guest, ¬ Hot vm s guest

def Only (guest : Uuid) (s : Site) : Prop := ∀ other, Hot vm s other → other = guest

def Bare (s : Site) : Prop :=
  trackedUuid vm s = some none ∧ (s.vms vm).map (·.hasPrefix) = some true

def Taken (s : Site) : Prop := trackedUuid vm s ≠ some none

structure Prepared (generation : Generation) (s : Site) : Prop where
  bare : Bare vm s
  open' : ∀ row, s.vms vm = some row → row.status ≠ .failed
  current : (s.receipts vm).map (·.generation) = some generation
  dated : generation < s.nextGeneration

def Clone (generation : Generation) (guest : Uuid) (s : Site) : Prop :=
  guest < s.nextUuid ∧
    ∀ found, s.guests guest = some found → found.label = ⟨vm, some generation⟩

def Stilled (s : Site) : Prop :=
  careful → trackedUuid vm s ≠ none → ∀ guest, ¬ Runs vm s guest

end Guard

variable {s' : Site} {α : Type}

section Lasting
variable {careful : Prop} {vm : VmId}

theorem lasting_and {first second : Site → Prop} (left : Lasting careful vm first)
    (right : Lasting careful vm second) : Lasting careful vm fun s => first s ∧ second s :=
  fun s s' sound tame holds =>
    ⟨left s s' sound tame holds.1, right s s' sound tame holds.2⟩

theorem lasting_true : Lasting careful vm fun _ => True := fun _ _ _ _ _ => trivial

theorem contained_tame {s : Site} (quiet : Punctual vm s) (tame : Tame vm s s')
    (contained : Contained vm s) : Contained vm s' := by
  intro unknown guest running
  rw [tame.uuid] at unknown
  exact contained unknown guest (tame_running quiet tame running)

theorem lasting_escape : Lasting careful vm (Escape careful vm) :=
  fun _ _ sound tame escape care => contained_tame (sound.2 care) tame (escape care)

theorem lasting_cold : Lasting careful vm (Cold vm) :=
  fun _ _ sound tame cold guest hot => cold guest (tame_hot sound.1 tame hot)

theorem lasting_only (guest : Uuid) : Lasting careful vm (Only vm guest) :=
  fun _ _ sound tame only other hot => only other (tame_hot sound.1 tame hot)

theorem lasting_bare : Lasting careful vm (Bare vm) :=
  fun _ _ _ tame bare => ⟨tame.uuid.trans bare.1, tame.bound.trans bare.2⟩

theorem lasting_taken : Lasting careful vm (Taken vm) := by
  intro s s' _ tame taken
  rw [Taken, tame.uuid]
  exact taken

theorem lasting_tracked (uuid : Option (Option Uuid)) :
    Lasting careful vm fun s => trackedUuid vm s = uuid :=
  fun _ _ _ tame known => tame.uuid.trans known

theorem lasting_current (generation : Generation) :
    Lasting careful vm fun s => (s.receipts vm).map (·.generation) = some generation :=
  fun _ _ _ tame current => tame.receipt.trans current

theorem lasting_prepared (generation : Generation) :
    Lasting careful vm (Prepared vm generation) := by
  intro s s' sound tame prepared
  refine ⟨lasting_bare s s' sound tame prepared.bare, fun next present failed => ?_,
    tame.receipt.trans prepared.current, ?_⟩
  · obtain ⟨row, before, failed⟩ := tame.failed next present failed
    exact prepared.open' row before failed
  · rw [tame.generations]
    exact prepared.dated

theorem lasting_clone (generation : Generation) (guest : Uuid) :
    Lasting careful vm (Clone vm generation guest) := by
  intro s s' _ tame clone
  refine ⟨lt_of_lt_of_le clone.1 tame.uuids, fun found present => ?_⟩
  rcases tame.guests guest found present with ⟨old, before, same, _⟩ | ⟨later, _⟩
  · exact same ▸ clone.2 old before
  · exact absurd clone.1 (not_lt.mpr later)

theorem lasting_stilled : Lasting careful vm (Stilled careful vm) := by
  intro s s' sound tame still care known guest running
  rw [tame.uuid] at known
  exact still care known guest (tame_running (sound.2 care) tame running)

theorem sound_tame {s : Site} (sound : Guarded careful vm s) (tame : Tame vm s s') :
    Guarded careful vm s' :=
  ⟨tame_tidy sound.1 tame, fun care => tame_punctual (sound.2 care) tame⟩

theorem cold_contained {s : Site} (cold : Cold vm s) : Contained vm s :=
  fun _ guest running => cold guest (running_hot running)

theorem taken_contained {s : Site} (taken : Taken vm s) : Contained vm s :=
  fun unknown => absurd unknown taken

section
variable {β : Type} {pre : Site → Prop} {post : Except Err β → Site → Prop}
  (request : ProvisionReq β)
include β

theorem guest_step (lasting : Lasting careful vm pre)
    (runs : ∀ s mid s' answer reply, Guarded careful vm s → Tame vm s mid →
      Guarded careful vm mid → pre mid → (careful → Attentive vm request answer s) →
      request.answered answer mid = some (s', reply) → Guarded careful vm s' ∧ post reply s') :
    GuestTriple careful vm pre (step request) post := by
  refine triple_perform request ?_ (fun _ _ _ _ => trivial) ?_
  · rintro s s' holds rfl _
    exact holds
  · intro s choice s' reply sound holds permitted ran
    have tame := meanwhile_tame sound.1 choice.meanwhile
    obtain ⟨after, result⟩ := runs s _ s' choice.answer reply sound tame (sound_tame sound tame)
      (lasting s _ sound tame holds) permitted ran
    exact ⟨after, trivial, result⟩

theorem mild_step (mild : Mild request) (lasting : Lasting careful vm pre)
    (runs : ∀ s mid s' answer reply, Guarded careful vm s → Tame vm s mid →
      Guarded careful vm mid → (careful → Attentive vm request answer s) →
      request.answered answer mid = some (s', reply) → pre s' → post reply s') :
    GuestTriple careful vm pre (step request) post := by
  refine guest_step request lasting
    fun s mid s' answer reply sound tame between holds care ran => ?_
  have later := answered_tame request answer reply between.1 mild ran
  exact ⟨sound_tame between later, runs s mid s' answer reply sound tame between care ran
    (lasting mid s' between later holds)⟩

end

theorem mild_keeps {pre : Site → Prop} (p : Provision α) (mild : Within Mild p)
    (lasting : Lasting careful vm pre) : GuestTriple careful vm pre p (fun _ => pre) := by
  refine triple_within p mild ?_ (fun _ _ _ _ _ _ => trivial) ?_
  · rintro s s' holds rfl _
    exact holds
  · intro β request choice s s' reply allowed sound holds _ ran
    have tame := mild_tame request choice reply sound.1 allowed ran
    exact ⟨sound_tame sound tame, trivial, lasting s s' sound tame holds⟩

theorem harmless_mild {p : Provision α} (harmless : Within Harmless p) :
    Within Mild p := by
  refine within_mono harmless fun request here => ?_
  cases request with
  | recordOwed _ | recordNativeIntentRefund _ _ _ => trivial
  | _ => exact here

end Lasting

section Requests
variable {careful : Prop} {vm : VmId} {A : Site → Prop}

theorem guarded_read {β : Type} {read : Site → β} (request : ProvisionReq β)
    (mild : Mild request)
    (reads : ∀ answer s, request.answered answer s = inSession (siteRead read) answer s)
    (guarded : ∀ answer s, Attentive vm request answer s → ¬ Contained vm s →
      answer = .commit .done)
    (lasting : Lasting careful vm A) :
    GuestTriple careful vm A (step request)
      (outcome (fun value s => A s ∧ value = read s) fun _ s => A s ∧ Escape careful vm s) := by
  refine mild_step request mild lasting fun s mid s' answer reply sound tame _ care ran holds => ?_
  rw [reads] at ran
  obtain ⟨rfl, rfl | rfl⟩ := inSession_read ran
  · exact ⟨holds, rfl⟩
  · refine ⟨holds, fun attentive => ?_⟩
    refine contained_tame (sound.2 attentive) tame (by_contra fun loose => ?_)
    rw [guarded answer s (care attentive) loose] at ran
    cases ran

section
variable (lasting : Lasting careful vm A)
include lasting

theorem getVm_reads : GuestTriple careful vm A (step (.getVm vm))
      (outcome (fun found s => A s ∧ found = s.vms vm) fun _ s => A s ∧ Escape careful vm s) :=
  guarded_read _ trivial (fun _ _ => rfl) (fun _ _ care => care) lasting

theorem getReceipt_reads : GuestTriple careful vm A (step (.getReceipt vm))
      (outcome (fun found s => A s ∧ found = s.receipts vm)
        fun _ s => A s ∧ Escape careful vm s) :=
  guarded_read _ trivial (fun _ _ => rfl) (fun _ _ care => care) lasting

theorem capacityLock_keeps : GuestTriple careful vm A (step .capacityLock)
      (outcome (fun _ => A) fun _ s => A s ∧ Escape careful vm s) := by
  have read : GuestTriple careful vm A (step .capacityLock)
      (outcome (fun value s => A s ∧ value = ()) fun _ s => A s ∧ Escape careful vm s) :=
    guarded_read _ trivial (fun _ _ => rfl) (fun _ _ care => care) lasting
  exact triple_weaken read (fun _ _ holds => holds) fun reply s _ reached => by
    cases reply with
    | ok value => exact reached.1
    | error error => exact reached

theorem renderConfig_keeps : GuestTriple careful vm A (step (.renderConfig vm))
      (outcome (fun _ => A) fun _ s => A s ∧ Escape careful vm s) := by
  refine mild_step _ trivial lasting fun s mid s' answer reply sound tame _ care ran holds => ?_
  obtain rfl := external_same ran
  cases reply with
  | ok value => exact holds
  | error error =>
    refine ⟨holds, fun attentive => ?_⟩
    refine contained_tame (sound.2 attentive) tame (by_contra fun loose => ?_)
    rw [care attentive loose] at ran
    cases ran

end

theorem query_answer {β : Type} {read : Site → Option β} {answer : ProvisionAnswer} {s : Site}
    {value : β} (ran : exchanged (exchangeQuery read) answer s = some (s', .ok value)) :
    s' = s ∧ read s = some value := by
  cases answer with
  | exchange fate =>
    simp only [exchanged, Option.some.injEq] at ran
    cases fate with
    | answered =>
      simp only [exchangeQuery] at ran
      split at ran <;> cases ran
      exact ⟨rfl, by assumption⟩
    | refused | lost closed loss => cases ran
  | _ => simp [exchanged] at ran

theorem xoQuery_spec {β : Type} (request : ProvisionReq β) {known : β → Site → Prop}
    {failed : Site → Prop} (lasting : Lasting careful vm failed)
    (implied : ∀ s, failed s → A s)
    (once : GuestTriple careful vm A (step request) (outcome known fun _ => failed)) :
    GuestTriple careful vm A (xoQuery request) (outcome known fun _ => failed) := by
  refine triple_rescue once (fun _ _ _ reached => reached) fun error => ?_
  cases error with
  | connectionClosed =>
    refine triple_bind (mild_keeps (step .reconnect) (step_within _ trivial) lasting)
      (fun _ => ?_) (fun _ _ _ holds => holds)
    exact triple_enter once fun s holds => implied s holds
  | _ => exact triple_raise _ fun _ _ holds => holds

theorem findLabel_tells (label : Label) (lasting : Lasting careful vm A) :
    GuestTriple careful vm A (step (.findLabel label))
      (outcome (fun found s => A s ∧ found = guestsLabelled label s)
        fun _ s => A s ∧ Escape careful vm s) := by
  refine mild_step _ trivial lasting fun s mid s' answer reply sound tame _ care ran holds => ?_
  cases reply with
  | ok value =>
    obtain ⟨rfl, answered⟩ := query_answer ran
    exact ⟨holds, (Option.some.inj answered).symm⟩
  | error error =>
    obtain rfl := query_same ran
    refine ⟨holds, fun attentive => ?_⟩
    refine contained_tame (sound.2 attentive) tame (by_contra fun loose => ?_)
    rw [care attentive loose] at ran
    cases ran

theorem findLabel_lists (label : Label) (lasting : Lasting careful vm A) :
    GuestTriple careful vm A (xoQuery (.findLabel label))
      (outcome (fun found s => A s ∧ found = guestsLabelled label s)
        fun _ s => A s ∧ Escape careful vm s) :=
  xoQuery_spec _ (lasting_and lasting lasting_escape) (fun _ holds => holds.1)
    (findLabel_tells label lasting)

theorem powerState_tells (guest : Uuid) (lasting : Lasting careful vm A) :
    GuestTriple careful vm A (xoQuery (.powerState guest))
      (outcome (fun power s => A s ∧ (s.guests guest).map (·.power) = some power)
        fun _ => A) := by
  refine xoQuery_spec _ lasting (fun _ holds => holds) ?_
  refine mild_step _ trivial lasting fun s mid s' answer reply _ _ _ _ ran holds => ?_
  cases reply with
  | ok value =>
    obtain ⟨rfl, answered⟩ := query_answer ran
    exact ⟨holds, answered⟩
  | error error => exact holds

theorem told_running {s : Site} {power : Power} (told : (s.guests guest).map (·.power) = some power)
    (running : Runs vm s guest) : power = .running := by
  obtain ⟨found, present, _, on⟩ := running
  simpa [present, on] using told.symm

theorem stop_halts (guest : Uuid) (lasting : Lasting careful vm A) :
    GuestTriple careful vm A (xoCall (.stop guest))
      (outcome (fun _ s => A s ∧ (careful → ¬ Runs vm s guest)) fun _ => A) := by
  have once : GuestTriple careful vm A (step (.exchange (.stop guest)))
      (outcome (fun _ s => A s ∧ (careful → ¬ Runs vm s guest)) fun _ => A) := by
    refine mild_step _ trivial lasting fun s mid s' answer reply _ _ _ _ ran holds => ?_
    cases reply with
    | ok value =>
      refine ⟨holds, fun _ running => ?_⟩
      rcases command_ends ran with ⟨_, _, absurd⟩ | ⟨rfl, _⟩ | ⟨_, ⟨_, absurd⟩, _⟩
      · cases absurd
      · obtain ⟨found, present, _, on⟩ := running
        cases before : mid.guests guest with
        | none => simp [XoCommand.effect, before] at present
        | some old =>
          have shown : { old with power := .halted } = found := by
            simpa [XoCommand.effect, before] using present
          subst shown
          cases on
      · cases absurd
    | error error => exact holds
  refine triple_rescue once (fun _ _ _ reached => reached) fun error => ?_
  cases error with
  | connectionClosed =>
    exact triple_bind (mild_keeps (step .reconnect) (step_within _ trivial) lasting)
      (fun _ => once) (fun _ _ _ holds => holds)
  | _ => exact triple_raise _ fun _ _ holds => holds

theorem haltGuest_halts (guest : Uuid) (lasting : Lasting careful vm A) :
    GuestTriple careful vm A (haltGuest guest)
      (outcome (fun _ s => A s ∧ (careful → ¬ Runs vm s guest)) fun _ => A) := by
  refine triple_then (powerState_tells guest lasting) fun power => ?_
  cases power with
  | running =>
    refine triple_then (triple_enter (stop_halts guest lasting) fun _ holds => holds.1)
      fun _ => ?_
    exact triple_ret _ fun _ _ holds => holds
  | halted =>
    refine triple_ret _ fun s _ holds => ⟨holds.1, fun _ running => ?_⟩
    cases told_running holds.2 running
  | unknown => exact triple_raise _ fun _ _ holds => holds.1

end Requests

variable {generation : Generation}

section Identity
variable {careful : Prop} {vm : VmId}

/-- The handlers of an attempt that leave the row to the next one. -/
def Passes (error : Err) : Prop := error = .generationChanged ∨ error = .recoveryPending

theorem track_guarded {s : Site} {row : VMRow} (sound : Guarded careful vm s)
    (only : Only vm guest s) (present : s.vms vm = some row) :
    Guarded careful vm
      { s with vms := s.vms.put vm { row with xcpngUuid := some guest } } := by
  have known : trackedUuid vm { s with vms := s.vms.put vm { row with xcpngUuid := some guest } } =
      some (some guest) := by simp [trackedUuid]
  refine ⟨?_, fun care => ⟨(sound.2 care).prompt, fun next there failed => ?_⟩⟩
  · exact {
      fresh := sound.1.fresh
      started := sound.1.started
      dated := sound.1.dated
      ordered := sound.1.ordered
      one := sound.1.one
      tracked := fun other same hot => by
        rw [known] at same
        cases same
        exact only hot
      untracked := fun absurd => by rw [known] at absurd; cases absurd }
  · have shown : { row with xcpngUuid := some guest } = next := by simpa using there
    exact (sound.2 care).failed row present (by rw [← shown] at failed; exact failed)

theorem track_step (request : ProvisionReq Unit) (guest : Uuid) (tx : Transaction Site Unit)
    (reads : ∀ answer s, request.answered answer s = inSession tx answer s)
    (guarded : ∀ answer s, Attentive vm request answer s → ¬ Contained vm s →
      answer ≠ .commit .failed)
    (refuses : ∀ s error, tx s = .error error → Passes error)
    (writes : ∀ s s', tx s = .ok (s', ()) → (s' = s ∧ s.vms vm = none) ∨
      ∃ row, s.vms vm = some row ∧
        s' = { s with vms := s.vms.put vm { row with xcpngUuid := some guest } }) :
    GuestTriple careful vm (Only vm guest) (step request)
      (outcome (fun _ => Taken vm) fun error s => Passes error ∨ Escape careful vm s) := by
  refine guest_step request (lasting_only guest) fun s mid s' answer reply sound tame between only
    care ran => ?_
  rw [reads] at ran
  cases answer with
  | commit fate =>
    simp only [inSession, Option.some.injEq] at ran
    have wrote : ∀ next, tx mid = .ok (next, ()) → Guarded careful vm next ∧ Taken vm next := by
      intro next done
      rcases writes mid next done with ⟨rfl, absent⟩ | ⟨row, present, rfl⟩
      · exact ⟨between, by simp [Taken, trackedUuid, absent]⟩
      · exact ⟨track_guarded between only present, by simp [Taken, trackedUuid]⟩
    rcases transact_cases _ _ _ _ _ ran with ⟨rfl, error, rfl, cause⟩ | ⟨_, done, _, rfl⟩ |
      ⟨_, done, _, rfl⟩
    · refine ⟨between, ?_⟩
      rcases cause with rfl | refused
      · refine Or.inr fun attentive => contained_tame (sound.2 attentive) tame ?_
        by_contra loose
        exact guarded _ s (care attentive) loose rfl
      · exact Or.inl (refuses s' error refused)
    · exact wrote s' done
    · exact ⟨(wrote s' done).1, Or.inr fun _ => taken_contained (wrote s' done).2⟩
  | _ => simp [inSession] at ran

theorem storeUuid_takes (guest : Uuid) :
    GuestTriple careful vm (Only vm guest) (step (.storeUuid vm guest))
      (outcome (fun _ => Taken vm) fun error s => Passes error ∨ Escape careful vm s) := by
  refine track_step _ guest (storeUuid vm guest) (fun _ _ => rfl) (fun _ _ care => care) ?_ ?_
  · intro s error refused
    simp only [storeUuid] at refused
    repeat' split at refused
    all_goals cases refused
    exact Or.inl rfl
  · intro s s' done
    simp only [storeUuid] at done
    repeat' split at done
    all_goals cases done
    · exact Or.inl ⟨rfl, by assumption⟩
    · exact Or.inr ⟨_, by assumption, rfl⟩

theorem adoptGuest_takes (generation : Generation) (guest : Uuid) :
    GuestTriple careful vm (Only vm guest) (step (.adoptGuest vm generation guest))
      (outcome (fun _ => Taken vm) fun error s => Passes error ∨ Escape careful vm s) := by
  refine track_step _ guest (adoptGuest vm generation guest) (fun _ _ => rfl)
    (fun _ _ care => care) ?_ ?_
  · intro s error refused
    simp only [adoptGuest] at refused
    repeat' split at refused
    all_goals cases refused
    all_goals exact Or.inl rfl
  · intro s s' done
    simp only [adoptGuest] at done
    repeat' split at done
    all_goals cases done
    exact Or.inr ⟨_, by assumption, rfl⟩

theorem prepareGuestResult_prepares :
    GuestTriple careful vm (fun s => Bare vm s ∧ Cold vm s) (step (.prepareGuestResult vm))
      (outcome (fun generation s => Prepared vm generation s ∧ Cold vm s) fun _ => Cold vm) := by
  refine guest_step _ (lasting_and lasting_bare lasting_cold) fun s mid s' answer reply _ _ between
    holds _ ran => ?_
  obtain ⟨bare, cold⟩ := holds
  have prepared : ∀ next generation, prepareGuestResult vm mid = .ok (next, generation) →
      Guarded careful vm next ∧ Prepared vm generation next ∧ Cold vm next := by
    intro next generation done
    simp only [prepareGuestResult] at done
    split at done
    · cases done
    rename_i row present
    split at done
    · rename_i ready
      cases done
      refine ⟨⟨?_, fun care => ⟨(between.2 care).prompt, (between.2 care).failed⟩⟩, ?_, cold⟩
      · exact {
          fresh := between.1.fresh
          started := between.1.started
          dated := fun guest found there own => by
            obtain ⟨generation, named, earlier⟩ := between.1.dated guest found there own
            exact ⟨generation, named, Nat.lt_succ_of_lt earlier⟩
          ordered := fun label waiting own => by
            obtain ⟨generation, named, earlier⟩ := between.1.ordered label waiting own
            exact ⟨generation, named, Nat.lt_succ_of_lt earlier⟩
          one := between.1.one
          tracked := between.1.tracked
          untracked := fun _ guest hot => absurd hot (cold guest) }
      · refine ⟨bare, fun other there failed => ?_, by simp, Nat.lt_succ_self _⟩
        cases present.symm.trans there
        exact absurd (ready.1.symm.trans failed) (by decide)
    · cases done
  rcases inSession_ends ran with ⟨rfl, error, rfl, _⟩ | ⟨value, done, ends⟩
  · exact ⟨between, cold⟩
  obtain ⟨sound, ready⟩ := prepared s' value done
  rcases ends with rfl | rfl
  · exact ⟨sound, ready⟩
  · exact ⟨sound, ready.2⟩

theorem create_clones (generation : Generation) :
    GuestTriple careful vm (fun s => Prepared vm generation s ∧ Cold vm s)
      (step (.exchange (.create ⟨vm, some generation⟩)))
      (outcome (fun guest s => (Prepared vm generation s ∧ Cold vm s) ∧ Clone vm generation guest s)
        fun _ s => Prepared vm generation s ∧ Cold vm s) := by
  have lasting : Lasting careful vm fun s => Prepared vm generation s ∧ Cold vm s :=
    lasting_and (lasting_prepared generation) lasting_cold
  refine guest_step _ lasting fun s mid s' answer reply _ _ between holds _ ran => ?_
  have tame : Tame vm mid s' := by
    refine command_tame between.1 (.create ⟨vm, some generation⟩) answer reply
      nofun ?_ ran
    rintro label same _
    cases same
    exact ⟨generation, rfl, holds.1.dated⟩
  refine ⟨sound_tame between tame, ?_⟩
  have after := lasting mid s' between tame holds
  cases reply with
  | error error => exact after
  | ok guest =>
    refine ⟨after, ?_⟩
    rcases command_ends ran with ⟨_, _, absurd⟩ | ⟨rfl, answered⟩ | ⟨_, ⟨_, absurd⟩, _⟩
    · cases absurd
    · obtain rfl : mid.nextUuid = guest := Option.some.inj (answered guest rfl)
      refine ⟨Nat.lt_succ_self _, fun found present => ?_⟩
      have shown : (⟨⟨vm, some generation⟩, .halted⟩ : Guest) = found := by
        simpa [XoCommand.effect] using present
      exact shown ▸ rfl
    · cases absurd

theorem listed_clone {s : Site}
    (listed : guest ∈ guestsLabelled ⟨vm, some generation⟩ s) : Clone vm generation guest s := by
  simp only [guestsLabelled, List.mem_filter, List.mem_range] at listed
  refine ⟨listed.1, fun found present => ?_⟩
  simpa [present] using listed.2

theorem xoCall_creates (generation : Generation) :
    GuestTriple careful vm (fun s => Prepared vm generation s ∧ Cold vm s)
      (xoCall (.create ⟨vm, some generation⟩))
      (outcome (fun guest s => (Prepared vm generation s ∧ Cold vm s) ∧ Clone vm generation guest s)
        fun _ s => Prepared vm generation s ∧ Cold vm s) := by
  have lasting : Lasting careful vm fun s => Prepared vm generation s ∧ Cold vm s :=
    lasting_and (lasting_prepared generation) lasting_cold
  refine triple_rescue (create_clones generation) (fun _ _ _ reached => reached) fun error => ?_
  cases error with
  | connectionClosed =>
    refine triple_bind (mild_keeps (step .reconnect) (step_within _ trivial) lasting)
      (fun _ => ?_) fun _ _ _ holds => holds
    refine triple_bind (findLabel_tells ⟨vm, some generation⟩ lasting) (fun found => ?_)
      fun _ _ _ holds => holds.1
    cases found with
    | nil =>
      exact triple_enter (create_clones generation) fun _ holds => holds.1
    | cons existing rest =>
      refine triple_ret _ fun s _ holds => ⟨holds.1, listed_clone ?_⟩
      rw [← holds.2]
      exact List.mem_cons_self
  | _ => exact triple_raise _ fun _ _ holds => holds

structure Chosen (vm : VmId) (generation : Generation) (guest : Uuid) (s : Site) : Prop where
  prepared : Prepared vm generation s
  clone : Clone vm generation guest s
  only : Only vm guest s

theorem lasting_chosen (generation : Generation) (guest : Uuid) :
    Lasting careful vm (Chosen vm generation guest) :=
  fun s s' sound tame chosen => ⟨lasting_prepared generation s s' sound tame chosen.prepared,
    lasting_clone generation guest s s' sound tame chosen.clone,
    lasting_only guest s s' sound tame chosen.only⟩

theorem heated_chosen {s : Site} (sound : Guarded careful vm s)
    (chosen : Chosen vm generation guest s) (store : s'.toStore = s.toStore)
    (receipts : s'.receipts = s.receipts) (generations : s'.nextGeneration = s.nextGeneration)
    (uuids : s'.nextUuid = s.nextUuid)
    (labels : ∀ other, (s'.guests other).map (·.label) = (s.guests other).map (·.label))
    (delayed : ∀ command ∈ s'.delayed, command ∈ s.delayed ∨ command = .start guest)
    (hot : ∀ other, Hot vm s' other → Hot vm s other ∨ other = guest)
    (prompt : careful → ∀ command ∈ s'.delayed, command ∈ s.delayed) :
    Guarded careful vm s' ∧ Chosen vm generation guest s' := by
  obtain ⟨prepared, clone, only⟩ := chosen
  have uuid : trackedUuid vm s' = trackedUuid vm s := by simp only [trackedUuid, store]
  have bare : Bare vm s' := by
    refine ⟨uuid.trans prepared.bare.1, ?_⟩
    rw [store]
    exact prepared.bare.2
  have lonely : Only vm guest s' := fun other warm => (hot other warm).elim (only other) id
  have cloned : Clone vm generation guest s' := by
    refine ⟨uuids.symm ▸ clone.1, fun found present => ?_⟩
    have same := labels guest
    cases before : s.guests guest with
    | none => simp [present, before] at same
    | some old =>
      have shown : found.label = old.label := by simpa [present, before] using same
      exact shown.trans (clone.2 old before)
  have dated : ∀ label, Dated s label → Dated s' label := by
    rintro label ⟨generation, named, earlier⟩
    exact ⟨generation, named, generations.symm ▸ earlier⟩
  have ready : Prepared vm generation s' := by
    refine ⟨bare, fun row present => prepared.open' row (store ▸ present), ?_, ?_⟩
    · rw [receipts]
      exact prepared.current
    · rw [generations]
      exact prepared.dated
  refine ⟨⟨?_, fun care => ⟨fun other waiting => ?_, fun row present failed => ?_⟩⟩, ready,
    cloned, lonely⟩
  · exact {
      fresh := fun other later => by
        have same := labels other
        rw [sound.1.fresh other (uuids ▸ later)] at same
        cases now : s'.guests other with
        | none => rfl
        | some found => simp [now] at same
      started := fun other waiting => by
        rw [uuids]
        rcases delayed _ waiting with before | last
        · exact sound.1.started other before
        · cases last
          exact clone.1
      dated := fun other found present own => by
        have same := labels other
        cases before : s.guests other with
        | none => simp [present, before] at same
        | some old =>
          have shown : found.label = old.label := by simpa [present, before] using same
          rw [shown] at own ⊢
          exact dated _ (sound.1.dated other old before own)
      ordered := fun label waiting own => by
        rcases delayed _ waiting with before | last
        · exact dated _ (sound.1.ordered label before own)
        · cases last
      one := fun a b warm also => (lonely a warm).trans (lonely b also).symm
      tracked := fun other known => by
        rw [uuid, prepared.bare.1] at known
        cases known
      untracked := fun _ other warm => by
        refine ⟨bare.2, ?_⟩
        cases current : s'.receipts vm with
        | none =>
          have some := ready.current
          simp [current] at some
        | some receipt =>
          have named : receipt.generation = generation := by
            simpa [current] using ready.current
          obtain ⟨found, present, _⟩ := id warm
          refine ⟨receipt, rfl, ?_⟩
          rw [lonely other warm] at present ⊢
          simp [present, cloned.2 found present, named] }
  · exact (sound.2 care).prompt other (prompt care _ waiting)
  · exact absurd failed (prepared.open' row (store ▸ present))

theorem start_heats (generation : Generation) (guest : Uuid) :
    GuestTriple careful vm (Chosen vm generation guest) (step (.exchange (.start guest)))
      (fun _ => Chosen vm generation guest) := by
  refine guest_step _ (lasting_chosen generation guest) fun s mid s' answer reply _ _ between chosen
    care ran => ?_
  rcases command_ends ran with ⟨rfl, _⟩ | ⟨rfl, _⟩ | ⟨rfl, _, closed, late⟩
  · exact ⟨between, chosen⟩
  · cases before : mid.guests guest with
    | none =>
      have same : (XoCommand.start guest).effect mid = mid := by
        simp [XoCommand.effect, before]
      rw [same]
      exact ⟨between, chosen⟩
    | some old =>
      have same : (XoCommand.start guest).effect mid =
          { mid with guests := mid.guests.put guest { old with power := .running } } := by
        simp [XoCommand.effect, before]
      rw [same]
      refine heated_chosen between chosen rfl rfl rfl rfl (fun other => ?_)
        (fun command waiting => Or.inl waiting) (fun other warm => ?_)
        fun _ command waiting => waiting
      · by_cases here : other = guest
        · subst here
          simp [before]
        · simp [here]
      · by_cases here : other = guest
        · exact Or.inr here
        · obtain ⟨found, present, power⟩ := warm
          exact Or.inl ⟨found, by simpa [here] using present, power⟩
  · refine heated_chosen between chosen rfl rfl rfl rfl (fun _ => rfl)
      (fun command waiting => ?_) (fun other warm => ?_) fun attentive => ?_
    · simpa using waiting
    · obtain ⟨found, present, own, running | waiting⟩ := warm
      · exact Or.inl ⟨found, present, own, Or.inl running⟩
      · rcases List.mem_append.mp waiting with earlier | last
        · exact Or.inl ⟨found, present, own, Or.inr earlier⟩
        · cases List.mem_singleton.mp last
          exact Or.inr rfl
    · exact absurd late (care attentive closed)

end Identity

section Attempt
variable {careful : Prop} {vm : VmId}

theorem configure_keeps (guest : Uuid) {A : Site → Prop} (lasting : Lasting careful vm A) :
    GuestTriple careful vm A (xoCall (.configure guest)) (fun _ => A) :=
  mild_keeps _ (xoCall_within _ trivial (fun _ => trivial) trivial) lasting

theorem xoCall_starts (generation : Generation) (guest : Uuid) :
    GuestTriple careful vm (Chosen vm generation guest) (xoCall (.start guest))
      (fun _ => Chosen vm generation guest) := by
  refine triple_rescue (start_heats generation guest) (fun _ _ _ chosen => chosen) fun error => ?_
  cases error with
  | connectionClosed =>
    exact triple_bind
      (mild_keeps (step .reconnect) (step_within _ trivial) (lasting_chosen generation guest))
      (fun _ => start_heats generation guest) fun _ _ _ chosen => chosen
  | _ => exact triple_raise _ fun _ _ chosen => chosen

theorem delete_contains (guest : Uuid) :
    GuestTriple careful vm (Only vm guest) (step (.exchange (.delete guest)))
      (fun _ => Escape careful vm) := by
  refine mild_step _ trivial (lasting_only guest) fun s mid s' answer reply sound tame between care
    ran only attentive => ?_
  by_cases contained : Contained vm s
  · exact contained_tame (between.2 attentive)
      (answered_tame (.exchange (.delete guest)) answer reply between.1 trivial ran)
      (contained_tame (sound.2 attentive) tame contained)
  · have gone : s'.guests guest = none := by
      have effective : ∀ fate, answer = .exchange fate →
          s' = (XoCommand.delete guest).effect mid ∨ (s' = mid ∧ mid.guests guest = none) →
          s'.guests guest = none := by
        rintro fate _ (rfl | ⟨rfl, absent⟩)
        · simp [XoCommand.effect]
        · exact absent
      rcases care attentive contained with rfl | ⟨closed, rfl⟩
      · refine effective _ rfl ?_
        simp only [ProvisionReq.answered, exchanged, exchangeCommand, Option.some.injEq] at ran
        split at ran <;> cases ran
        · exact Or.inl rfl
        · rename_i unknown
          exact Or.inr ⟨rfl, by simpa [XoCommand.answer] using unknown⟩
      · cases ran
        exact effective _ rfl (Or.inl rfl)
    intro _ other running
    obtain rfl := only other (running_hot running)
    obtain ⟨found, present, _⟩ := running
    cases gone.symm.trans present

theorem xoCall_deletes (guest : Uuid) :
    GuestTriple careful vm (Only vm guest) (xoCall (.delete guest))
      (fun _ => Escape careful vm) := by
  refine triple_rescue (delete_contains guest) (fun _ _ _ escape => escape) fun error => ?_
  cases error with
  | connectionClosed =>
    exact mild_keeps (do step .reconnect; step (.exchange (.delete guest)))
      (within_bind (step_within _ trivial) fun _ => step_within _ trivial) lasting_escape
  | _ => exact triple_raise _ fun _ _ escape => escape

theorem ignoreErrors_spec {p : Provision α} {pre post : Site → Prop}
    (spec : GuestTriple careful vm pre p (fun _ => post)) :
    GuestTriple careful vm pre (ignoreErrors p) (outcome (fun _ => post) fun _ _ => False) := by
  have body : GuestTriple careful vm pre (do let _ ← p; pure ()) (fun _ => post) :=
    triple_bind spec (fun _ => triple_ret _ fun _ _ holds => holds) fun _ _ _ holds => holds
  exact triple_rescue body (fun _ _ _ holds => holds) fun _ => triple_ret _ fun _ _ holds => holds

theorem createGuest_spec (generation : Generation) :
    GuestTriple careful vm (fun s => Prepared vm generation s ∧ Cold vm s)
      (createGuest ⟨vm, some generation⟩)
      (outcome (fun guest => Only vm guest) fun _ => Escape careful vm) := by
  refine triple_bind (xoCall_creates generation) (fun guest => ?_)
    fun _ _ _ holds _ => cold_contained holds.2
  have body : GuestTriple careful vm (Chosen vm generation guest)
      (do
        let _ ← xoCall (.configure guest)
        let _ ← xoCall (.start guest)
        pure guest)
      (fun reply s =>
        Chosen vm generation guest s ∧ ∀ value, reply = .ok value → value = guest) := by
    refine triple_bind (configure_keeps guest (lasting_chosen generation guest)) (fun _ => ?_)
      fun _ _ _ chosen => ⟨chosen, fun _ absurd => by cases absurd⟩
    refine triple_bind (xoCall_starts generation guest) (fun _ => ?_)
      fun _ _ _ chosen => ⟨chosen, fun _ absurd => by cases absurd⟩
    exact triple_ret _ fun _ _ chosen => ⟨chosen, fun _ same => (Except.ok.inj same).symm⟩
  refine triple_rescue (triple_enter body fun s holds => ?_)
    (fun value s _ reached => ?_) fun error => ?_
  · exact ⟨holds.1.1, holds.2, fun other hot => absurd hot (holds.1.2 other)⟩
  · exact reached.2 value rfl ▸ reached.1.only
  · have cleanup : GuestTriple careful vm (Only vm guest) (ignoreErrors (xoCall (.delete guest)))
        (outcome (fun _ => Escape careful vm) fun _ _ => False) :=
      ignoreErrors_spec (xoCall_deletes guest)
    exact triple_bind (triple_enter cleanup fun _ reached => reached.1.only)
      (fun _ => triple_raise _ fun _ _ escape => escape)
      fun _ _ _ absurd => absurd.elim

/-- How an attempt leaves an untracked row: the error passes it on, or nothing
of it runs. -/
def Leaves (careful : Prop) (vm : VmId) (error : Err) (s : Site) : Prop :=
  Passes error ∨ Escape careful vm s

theorem unlessRestricted_keeps (guest : Uuid) :
    GuestTriple careful vm (Taken vm) (unlessRestricted vm guest)
      (outcome (fun _ => Taken vm) (Leaves careful vm)) :=
  triple_weaken
    (mild_keeps _ (harmless_mild (neutral_harmless (unlessRestricted_neutral vm guest)))
      lasting_taken)
    (fun _ _ taken => taken) fun reply _ _ taken => by
      cases reply with
      | ok value => exact taken
      | error error => exact Or.inr fun _ => taken_contained taken

theorem createFreshGuest_spec :
    GuestTriple careful vm (fun s => Bare vm s ∧ Cold vm s) (createFreshGuest vm)
      (outcome (fun _ => Taken vm) (Leaves careful vm)) := by
  have lasting : Lasting careful vm fun s => Bare vm s ∧ Cold vm s :=
    lasting_and lasting_bare lasting_cold
  have cold : ∀ {error : Err} {s : Site}, Cold vm s → Leaves careful vm error s :=
    fun cold => Or.inr fun _ => cold_contained cold
  refine triple_bind (findLabel_lists ⟨vm, none⟩ lasting) (fun stale => ?_)
    fun _ _ _ holds => cold holds.1.2
  refine triple_bind (triple_weaken
    (mild_keeps _ (harmless_mild (neutral_harmless (destroyGuests_neutral stale))) lasting)
    (fun _ _ holds => holds.1) fun _ _ _ holds => holds) (fun _ => ?_)
    fun _ _ _ holds => cold holds.2
  refine triple_bind prepareGuestResult_prepares (fun generation => ?_)
    fun _ _ _ holds => cold holds
  refine triple_bind (createGuest_spec generation) (fun guest => ?_)
    fun _ _ _ escape => Or.inr escape
  refine triple_then (storeUuid_takes guest) fun _ => unlessRestricted_keeps guest

theorem adoptCandidate_spec (generation : Generation) (guest : Uuid) :
    GuestTriple careful vm (Only vm guest) (adoptCandidate vm generation guest)
      (outcome (fun _ => Taken vm) (Leaves careful vm)) := by
  refine triple_bind (triple_attempt (powerState_tells guest (lasting_only guest)))
    (fun power => ?_) fun _ _ _ absurd => by obtain ⟨_, absurd, _⟩ := absurd; cases absurd
  split
  · refine triple_then (triple_enter (adoptGuest_takes generation guest) ?_)
      fun _ => triple_ret _ fun _ _ taken => taken
    rintro s ⟨inner, same, told⟩
    cases same
    exact told.1
  · refine triple_raise _ ?_
    rintro s _ ⟨inner, same, told⟩
    cases same
    obtain ⟨only, told⟩ := told
    refine Or.inr fun _ _ other running => ?_
    obtain rfl := only other (running_hot running)
    cases told_running told running
  · exact triple_raise _ fun _ _ _ => Or.inl (Or.inr rfl)

theorem hot_listed {s : Site} {receipt : Receipt} (tidy : Tidy vm s) (bare : Bare vm s)
    (current : s.receipts vm = some receipt) (hot : Hot vm s guest) :
    guest ∈ guestsLabelled ⟨vm, some receipt.generation⟩ s := by
  obtain ⟨_, other, present, label⟩ := tidy.untracked bare.1 guest hot
  cases current.symm.trans present
  have below : guest < s.nextUuid := by
    by_contra above
    rw [tidy.fresh guest (not_lt.mp above)] at label
    cases label
  cases found : s.guests guest with
  | none => simp [found] at label
  | some known =>
    have named : known.label = ⟨vm, some receipt.generation⟩ := by simpa [found] using label
    simp [guestsLabelled, below, found, named]

theorem recoverPreUuidGuest_spec : GuestTriple careful vm (Bare vm) (recoverPreUuidGuest vm)
      (outcome (fun adopted s => match adopted with
        | some _ => Taken vm s
        | none => Bare vm s ∧ Cold vm s) (Leaves careful vm)) := by
  refine triple_bind (getReceipt_reads lasting_bare) (fun found => ?_)
    fun _ _ _ holds => Or.inr holds.2
  cases found with
  | none =>
    refine triple_ret _ fun s sound holds => ⟨holds.1, fun guest hot => ?_⟩
    obtain ⟨_, receipt, present, _⟩ := sound.1.untracked holds.1.1 guest hot
    cases holds.2.trans present
  | some receipt =>
    have lasting : Lasting careful vm fun s => Bare vm s ∧
        (s.receipts vm).map (·.generation) = some receipt.generation :=
      lasting_and lasting_bare (lasting_current _)
    have listed : GuestTriple careful vm
        (fun s => Bare vm s ∧ some receipt = s.receipts vm)
        (xoQuery (.findLabel ⟨vm, some receipt.generation⟩))
        (outcome (fun found s => Bare vm s ∧ ∀ guest, Hot vm s guest → guest ∈ found)
          fun _ s => Escape careful vm s) := by
      refine triple_weaken (findLabel_lists ⟨vm, some receipt.generation⟩ lasting)
        (fun s _ holds => ⟨holds.1, by rw [← holds.2]; rfl⟩) fun reply s sound reached => ?_
      cases reply with
      | error error => exact reached.2
      | ok found =>
        obtain ⟨⟨bare, current⟩, rfl⟩ := reached
        refine ⟨bare, fun guest hot => ?_⟩
        cases known : s.receipts vm with
        | none => simp [known] at current
        | some now =>
          have same : now.generation = receipt.generation := by simpa [known] using current
          exact same ▸ hot_listed sound.1 bare known hot
    refine triple_bind listed (fun candidates => ?_) fun _ _ _ escape => Or.inr escape
    split
    · have cold : GuestTriple careful vm (fun s => Bare vm s ∧ Cold vm s)
          (xoQuery (.findLabel ⟨vm, none⟩))
          (fun _ s => Bare vm s ∧ Cold vm s) :=
        mild_keeps _ (xoQuery_within _ trivial trivial) (lasting_and lasting_bare lasting_cold)
      refine triple_bind (triple_enter cold fun s holds => ⟨holds.1, fun guest hot => ?_⟩)
        (fun legacy => ?_)
        fun _ _ _ holds => Or.inr fun _ => cold_contained holds.2
      · cases holds.2 guest hot
      · split
        · exact triple_raise _ fun _ _ holds => Or.inr fun _ => cold_contained holds.2
        · exact triple_ret _ fun _ _ holds => holds
    · rename_i guest
      refine triple_then (triple_enter (adoptCandidate_spec receipt.generation guest)
        fun s holds other hot => List.mem_singleton.mp (holds.2 other hot))
          fun _ => triple_ret _ fun _ _ taken => taken
    · have halted : GuestTriple careful vm (fun _ => True) (haltGuests candidates)
          (fun _ _ => True) :=
        mild_keeps _ (harmless_mild (neutral_harmless (haltGuests_neutral candidates))) lasting_true
      exact triple_bind (triple_enter (ignoreErrors_spec halted) fun _ _ => trivial)
        (fun _ => triple_raise _ fun _ _ _ => Or.inl (Or.inr rfl)) fun _ _ _ absurd => absurd.elim

theorem taken_leaves {p : Provision α} (harmless : Within Harmless p) :
    GuestTriple careful vm (Taken vm) p (outcome (fun _ => Taken vm) (Leaves careful vm)) :=
  triple_weaken (mild_keeps _ (harmless_mild harmless) lasting_taken) (fun _ _ taken => taken)
    fun reply _ _ taken => by
      cases reply with
      | ok value => exact taken
      | error error => exact Or.inr fun _ => taken_contained taken

theorem acquireGuest_spec : GuestTriple careful vm (Bare vm) (acquireGuest vm)
      (outcome (fun _ => Taken vm) (Leaves careful vm)) := by
  refine triple_bind (capacityLock_keeps lasting_bare) (fun _ => ?_)
    fun _ _ _ holds => Or.inr holds.2
  refine triple_bind (getVm_reads lasting_bare) (fun found => ?_) fun _ _ _ holds => Or.inr holds.2
  cases found with
  | none =>
    refine triple_ret _ fun s _ holds => ?_
    simp [Taken, trackedUuid, ← holds.2]
  | some row =>
    dsimp only
    split
    · rename_i guest known
      refine triple_ret _ fun s _ holds => ?_
      simp [Taken, trackedUuid, ← holds.2, known]
    · refine triple_then (triple_enter recoverPreUuidGuest_spec fun _ holds => holds.1)
        fun adopted => ?_
      cases adopted with
      | some guest => exact unlessRestricted_keeps guest
      | none => exact createFreshGuest_spec

theorem trackedGuest_spec (row : VMRow) (bound : row.hasPrefix = true) :
    GuestTriple careful vm (fun s => trackedUuid vm s = some row.xcpngUuid ∧
        (s.vms vm).map (·.hasPrefix) = some row.hasPrefix)
      (trackedGuest vm row) (outcome (fun _ => Taken vm) (Leaves careful vm)) := by
  unfold trackedGuest
  split
  · rename_i guest known
    refine triple_ret _ fun s _ holds => ?_
    simp [Taken, holds.1, known]
  · rename_i known
    exact triple_enter acquireGuest_spec
      fun s holds => ⟨by rw [holds.1, known], by rw [holds.2, bound]⟩

theorem bringUp_leaves : GuestTriple careful vm (fun _ => True) (bringUp vm)
      (outcome (fun _ _ => True) (Leaves careful vm)) := by
  refine triple_bind (getVm_reads lasting_true) (fun found => ?_) fun _ _ _ holds => Or.inr holds.2
  cases found with
  | none => exact triple_ret _ fun _ _ _ => trivial
  | some row =>
    have lasting : Lasting careful vm fun s => trackedUuid vm s = some row.xcpngUuid ∧
        (s.vms vm).map (·.hasPrefix) = some row.hasPrefix :=
      lasting_and (lasting_tracked _) fun _ _ _ tame known => tame.bound.trans known
    refine triple_bind (triple_enter (renderConfig_keeps lasting) fun s holds => ?_) (fun _ => ?_)
      fun _ _ _ holds => Or.inr holds.2
    · simp [trackedUuid, ← holds.2]
    · split
      · rename_i unbound
        refine triple_raise _ fun s sound holds => Or.inr fun _ unknown guest running => ?_
        obtain ⟨bound, _⟩ := sound.1.untracked unknown guest (running_hot running)
        rw [holds.2, unbound] at bound
        cases bound
      · rename_i bound
        refine triple_then (trackedGuest_spec row (by simpa using bound)) fun guest => ?_
        cases guest with
        | none => exact triple_ret _ fun _ _ _ => trivial
        | some guest =>
          exact triple_weaken (taken_leaves (deliverGuest_harmless vm guest))
            (fun _ _ taken => taken) fun reply _ _ reached => by
              cases reply with
              | ok value => trivial
              | error error => exact reached

theorem commitFailed_keeps :
    GuestTriple careful vm (Stilled careful vm) (step (.commitFailed vm)) (fun _ _ => True) := by
  refine guest_step _ lasting_stilled fun s mid s' answer reply _ _ between still _ ran => ?_
  refine ⟨?_, trivial⟩
  rcases inSession_ends ran with ⟨rfl, _⟩ | ⟨value, done, _⟩
  · exact between
  obtain ⟨store, inner, rfl⟩ := onSite_ok done
  simp only [commitFailed] at inner
  split at inner
  · cases inner
    exact between
  · rename_i row present
    cases inner
    have uuid : trackedUuid vm { mid with vms := mid.vms.put vm { row with status := .failed } } =
        trackedUuid vm mid := by simp [trackedUuid, present]
    refine ⟨?_, fun care => ⟨(between.2 care).prompt, fun next there failed => ?_⟩⟩
    · exact {
        fresh := between.1.fresh
        started := between.1.started
        dated := between.1.dated
        ordered := between.1.ordered
        one := between.1.one
        tracked := fun guest known => between.1.tracked guest (uuid.symm.trans known)
        untracked := fun unknown guest hot => by
          obtain ⟨bound, found⟩ := between.1.untracked (uuid.symm.trans unknown) guest hot
          exact ⟨by simpa [present] using bound, found⟩ }
    · exact still care (by simp [trackedUuid, present])

theorem stopFailedGuest_stills (uuid : Option Uuid) :
    GuestTriple careful vm (fun s => Escape careful vm s ∧ trackedUuid vm s = some uuid)
      (stopFailedGuest uuid)
      (outcome (fun stopped s => stopped = true → Stilled careful vm s) fun _ _ => True) := by
  have lasting : Lasting careful vm fun s => Escape careful vm s ∧ trackedUuid vm s = some uuid :=
    lasting_and lasting_escape (lasting_tracked _)
  cases uuid with
  | none => exact triple_ret _ fun s _ holds _ care _ => holds.1 care holds.2
  | some guest =>
    refine triple_bind (triple_attempt (haltGuest_halts guest lasting)) (fun ended => ?_)
      fun _ _ _ _ => trivial
    cases ended with
    | error error => exact triple_ret _ fun _ _ _ absurd => by cases absurd
    | ok value =>
      refine triple_ret _ fun s sound holds _ care _ other running => ?_
      obtain ⟨inner, same, halted⟩ := holds
      cases same
      obtain rfl := sound.1.tracked guest halted.1.2 other (running_hot running)
      exact halted.2 care running

theorem recordVmRefund_mild (charge : FailedCharge) (reason : String) :
    Within Mild (recordVmRefund vm charge reason) :=
  recordVmRefund_within vm charge reason trivial (fun _ => trivial) trivial fun _ => trivial

theorem settleFailure_keeps (error : Err) :
    GuestTriple careful vm (Stilled careful vm) (settleFailure vm error) (fun _ _ => True) := by
  refine triple_bind commitFailed_keeps (fun charge => ?_) fun _ _ _ _ => trivial
  exact mild_keeps _ (within_bind (ignoreErrors_within (step_within _ trivial))
    fun _ => recordVmRefund_mild charge _) lasting_true

theorem failProvisioning_keeps (error : Err) :
    GuestTriple careful vm (Escape careful vm) (failProvisioning vm error) (fun _ _ => True) := by
  refine triple_bind (getVm_reads lasting_escape) (fun found => ?_) fun _ _ _ _ => trivial
  cases found with
  | none =>
    refine triple_enter (settleFailure_keeps error) fun s holds _ known => ?_
    simp [trackedUuid, ← holds.2] at known
  | some row =>
    dsimp only
    split
    · exact triple_ret _ fun _ _ _ => trivial
    refine triple_bind (triple_enter (stopFailedGuest_stills row.xcpngUuid)
      fun s holds => ⟨holds.1, by simp [trackedUuid, ← holds.2]⟩) (fun stopped => ?_)
        fun _ _ _ _ => trivial
    cases stopped with
    | false => exact triple_ret _ fun _ _ _ => trivial
    | true =>
      exact triple_enter (settleFailure_keeps error) fun _ stilled => stilled rfl

theorem provisionVm_guarded (careful : Prop) (vm : VmId) :
    GuestTriple careful vm (fun _ => True) (provisionVm vm) (fun _ _ => True) := by
  refine triple_bind (mild_keeps _ (step_within (.beginProvisioning vm) trivial) lasting_true)
    (fun provisioning => ?_) fun _ _ _ _ => trivial
  cases provisioning with
  | false => exact triple_ret _ fun _ _ _ => trivial
  | true =>
    refine triple_rescue bringUp_leaves (fun _ _ _ reached => reached) fun error => ?_
    have handled : ∀ other : Err, ¬ Passes other →
        GuestTriple careful vm (Leaves careful vm other) (failProvisioning vm other)
          (fun _ _ => True) := fun other kept =>
      triple_enter (failProvisioning_keeps other) fun _ leaves => leaves.resolve_left kept
    cases error with
    | generationChanged | recoveryPending => exact triple_ret _ fun _ _ _ => trivial
    | _ => exact handled _ (by simp [Passes])

end Attempt

structure Untouched (vm : VmId) (s : Site) : Prop where
  fresh : ∀ guest, s.nextUuid ≤ guest → s.guests guest = none
  unlabelled : ∀ guest found, s.guests guest = some found → found.label.vm ≠ vm
  settled : s.delayed = []

theorem untouched_cold {vm : VmId} {s : Site} (untouched : Untouched vm s) : Cold vm s := by
  rintro guest ⟨found, present, own, _⟩
  exact untouched.unlabelled guest found present own

theorem untouched_guarded {vm : VmId} {s : Site} (careful : Prop) (untouched : Untouched vm s) :
    Guarded careful vm s := by
  have cold := untouched_cold untouched
  have idle : ∀ command, command ∉ s.delayed := by simp [untouched.settled]
  refine ⟨?_, fun _ => ⟨fun guest => idle _, fun _ _ _ guest running => ?_⟩⟩
  · exact {
      fresh := untouched.fresh
      started := fun guest waiting => absurd waiting (idle _)
      dated := fun guest found present own => absurd own (untouched.unlabelled guest found present)
      ordered := fun label waiting => absurd waiting (idle _)
      one := fun a _ hot => absurd hot (cold a)
      tracked := fun _ _ other hot => absurd hot (cold other)
      untracked := fun _ guest hot => absurd hot (cold guest) }
  · exact cold guest (running_hot running)

def attemptsAttentive (vm : VmId) (attempts : List (List ProvisionChoice)) (s : Site) : Prop :=
  episodesAdmitted (guestSetting True vm) (fun _ : Unit => provisionVm vm)
    (attempts.map fun choices => ((), choices)) s

theorem attempts_guarded (careful : Prop) (vm : VmId) (attempts : List (List ProvisionChoice))
    (s : Site) (untouched : Untouched vm s)
    (admitted : episodesAdmitted (guestSetting careful vm) (fun _ : Unit => provisionVm vm)
      (attempts.map fun choices => ((), choices)) s) :
    Guarded careful vm (runAttempts vm attempts s) := by
  have kept := episodes_keep (guestSetting careful vm) (guestDuty careful vm)
    (fun _ : Unit => provisionVm vm) (fun _ => True) (fun _ => provisionVm_guarded careful vm)
    (fun _ _ _ => trivial) _ s (untouched_guarded careful untouched) trivial admitted
  rw [runAttempts_episodes _ rfl] at kept
  exact kept.1

/-- (i) at most one guest of the VM runs, (ii) none besides the one its row
tracks, (iii) none once the row is FAILED. -/
structure Exclusive (vm : VmId) (s : Site) : Prop where
  one : ∀ a b, Runs vm s a → Runs vm s b → a = b
  tracked : ∀ row guest, s.vms vm = some row → row.xcpngUuid = some guest →
    ∀ other, Runs vm s other → other = guest
  failed : ∀ row, s.vms vm = some row → row.status = .failed → ∀ guest, ¬ Runs vm s guest

/-- The state after any attempts, cut short anywhere, and any later events. In
every such state (i) and (ii) hold; (iii) holds where the attempts were careful. -/
theorem guests_exclusive (vm : VmId) (attempts : List (List ProvisionChoice))
    (events : List Meanwhile) (s : Site) (untouched : Untouched vm s) :
    (∀ a b, Runs vm (meanwhile events (runAttempts vm attempts s)) a →
      Runs vm (meanwhile events (runAttempts vm attempts s)) b → a = b) ∧
    (∀ row guest, (meanwhile events (runAttempts vm attempts s)).vms vm = some row →
      row.xcpngUuid = some guest →
      ∀ other, Runs vm (meanwhile events (runAttempts vm attempts s)) other → other = guest) ∧
    (attemptsAttentive vm attempts s →
      Exclusive vm (meanwhile events (runAttempts vm attempts s))) := by
  have ordered : ∀ {careful : Prop}, Guarded careful vm (runAttempts vm attempts s) →
      Guarded careful vm (meanwhile events (runAttempts vm attempts s)) := fun guarded =>
    sound_tame guarded (meanwhile_tame guarded.1 events)
  have free := ordered (attempts_guarded False vm attempts s untouched
    (episodes_always _ _ s (fun _ _ _ careful => careful.elim) fun _ _ => trivial))
  have one : ∀ a b, Runs vm (meanwhile events (runAttempts vm attempts s)) a →
      Runs vm (meanwhile events (runAttempts vm attempts s)) b → a = b :=
    fun a b first second => free.1.one a b (running_hot first) (running_hot second)
  have tracked : ∀ row guest, (meanwhile events (runAttempts vm attempts s)).vms vm = some row →
      row.xcpngUuid = some guest →
      ∀ other, Runs vm (meanwhile events (runAttempts vm attempts s)) other → other = guest := by
    intro row guest present known other running
    exact free.1.tracked guest (by simp [trackedUuid, present, known]) other (running_hot running)
  refine ⟨one, tracked, fun attentive => ⟨one, tracked, ?_⟩⟩
  have careful := ordered (attempts_guarded True vm attempts s untouched attentive)
  exact (careful.2 trivial).failed

def freshVm : VmId := ⟨.request 0, 0⟩

def freshSite : Site where
  vmQuotes _ := none
  vms := Table.put (fun _ => none) freshVm { ownerWallet := some (.evm 1) }
  intents _ := none
  domainQuotes _ := none
  orders _ := none
  domains _ := none
  operations _ := none
  jobs _ := none
  events := []
  disabled _ := false
  receipts _ := none
  nextGeneration := 0
  guests _ := none
  nextUuid := 0
  delayed := []
  quoteOf _ := none
  intentOf _ := none

/-- The answer of a start is lost after the guest has started; what becomes of
the delete that follows is `cleanup`. -/
def lostStart (cleanup : ExchangeFate) : List ProvisionChoice :=
  [⟨[], .commit .done⟩, ⟨[], .commit .done⟩, ⟨[], .commit .done⟩, ⟨[], .commit .done⟩,
    ⟨[], .commit .done⟩, ⟨[], .commit .done⟩, ⟨[], .exchange .answered⟩, ⟨[], .commit .done⟩,
    ⟨[], .exchange .answered⟩, ⟨[], .exchange .answered⟩, ⟨[], .exchange (.lost false .applied)⟩,
    ⟨[], .exchange cleanup⟩, ⟨[], .commit .done⟩, ⟨[], .commit .done⟩]

theorem freshSite_untouched : Untouched freshVm freshSite :=
  ⟨fun _ _ => rfl, fun _ _ absurd => (by cases absurd), rfl⟩

/-- The clone that could not be deleted runs on behind a FAILED row. -/
theorem lost_start_leaves_guest :
    ¬ ∀ (vm : VmId) (attempts : List (List ProvisionChoice)) (events : List Meanwhile) (s : Site),
      Untouched vm s → Exclusive vm (meanwhile events (runAttempts vm attempts s)) := by
  intro claim
  have exclusive := claim freshVm [lostStart .refused] [] freshSite freshSite_untouched
  refine exclusive.failed { ownerWallet := some (.evm 1), status := .failed } (by decide +kernel) rfl
    0 ⟨⟨⟨freshVm, some 0⟩, .running⟩, by decide +kernel, rfl, rfl⟩

theorem deleted_start_leaves_none :
    ((runAttempts freshVm [lostStart .answered] freshSite).vms freshVm).map (·.status) =
      some .failed ∧
    Exclusive freshVm (meanwhile [] (runAttempts freshVm [lostStart .answered] freshSite)) := by
  refine ⟨by decide +kernel, ?_⟩
  refine (guests_exclusive freshVm [lostStart .answered] [] freshSite freshSite_untouched).2.2 ?_
  refine ⟨⟨fun _ => trivial, fun _ _ => rfl, fun _ _ => rfl, fun _ _ => rfl, fun _ _ => rfl,
    fun _ _ => rfl, fun _ _ => rfl, fun _ => trivial, fun _ => trivial, fun _ => trivial,
    fun _ closed absurd => (by cases absurd), fun _ _ => Or.inl rfl, fun _ _ => rfl,
    fun _ => trivial, trivial⟩, trivial⟩

/-- A guest that runs is the one that its row tracks, or the next attempt finds it by the label
of the current generation. -/
theorem running_guest_found (vm : VmId) (attempts : List (List ProvisionChoice))
    (events : List Meanwhile) (s after : Site) (row : VMRow) (guest : Uuid)
    (untouched : Untouched vm s) (reached : after = meanwhile events (runAttempts vm attempts s))
    (present : after.vms vm = some row) (running : Runs vm after guest) :
    row.xcpngUuid = some guest ∨ (row.xcpngUuid = none ∧ row.hasPrefix = true ∧
      ∃ receipt, after.receipts vm = some receipt ∧
        guest ∈ guestsLabelled ⟨vm, some receipt.generation⟩ after) := by
  have guarded := attempts_guarded False vm attempts s untouched
    (episodes_always _ _ s (fun _ _ _ careful => careful.elim) fun _ _ => trivial)
  have tidy : Tidy vm after := by
    rw [reached]
    exact (sound_tame guarded (meanwhile_tame guarded.1 events)).1
  have hot := running_hot running
  cases known : row.xcpngUuid with
  | some uuid =>
    have same := tidy.tracked uuid (by simp [trackedUuid, present, known]) guest hot
    exact Or.inl (congrArg some same.symm)
  | none =>
    have unknown : trackedUuid vm after = some none := by simp [trackedUuid, present, known]
    obtain ⟨bound, receipt, current, _⟩ := tidy.untracked unknown guest hot
    refine Or.inr ⟨rfl, by simpa [present] using bound, receipt, current, ?_⟩
    exact hot_listed tidy ⟨unknown, bound⟩ current hot

theorem cut_off_start_found : let site := runAttempts freshVm [(lostStart .refused).take 11] freshSite
    ∃ receipt, site.receipts freshVm = some receipt ∧
      0 ∈ guestsLabelled ⟨freshVm, some receipt.generation⟩ site := by
  have found := running_guest_found freshVm [(lostStart .refused).take 11] [] freshSite _
    { ownerWallet := some (.evm 1) } 0 freshSite_untouched rfl (by decide +kernel)
    ⟨⟨⟨freshVm, some 0⟩, .running⟩, by decide +kernel, rfl, rfl⟩
  exact (found.resolve_left nofun).2.2

end HyruleCloud
