import HyruleCloud.GuestDesk

/-!
Which guest a receipt speaks for. A delivered VM has a success that was reported
with the token in the very guest its row tracks, for the generation in the label
of that guest. The step on which this rests is the one that stores the UUID of a
fresh guest: it does not look at the receipt, which another attempt may have
replaced while the guest was created.
-/

namespace HyruleCloud

open Interaction

def injected (d : Desk) (guest : Uuid) : Option Secret :=
  ((d.built guest).bind Label.generation).bind d.issued

def ReceiptRow.label (file : ReceiptRow) (vm : VmId) : Label := ⟨vm, some file.generation⟩

def Genuine (d : Desk) (delivery : Delivery) : Prop :=
  ∃ guest file token result, delivery.guest = some guest ∧ delivery.receipt = some file ∧
    d.built guest = some (file.label delivery.vm) ∧ injected d guest = some token ∧
    file.report.map (·.result) = some result ∧ result.outcome = .succeeded ∧
    (file.generation, token, result) ∈ d.accepted

/-- The row of a VM tracks a guest of the generation of its receipt. -/
def Bound (d : Desk) (vm : VmId) (guest : Uuid) : Prop :=
  ∃ file, d.files vm = some file ∧ d.built guest = some (file.label vm)

def Reported (vm : VmId) (d : Desk) : Prop :=
  (guestOf d.toStore vm).isSome ∧ ∃ file, d.files vm = some file ∧ file.outcome = some .succeeded

structure Identified (d : Desk) : Prop where
  synced : Synced d
  bound : ∀ vm guest, guestOf d.toStore vm = some guest → Bound d vm guest
  dated : ∀ vm file, d.files vm = some file →
    d.issued file.generation = some file.token ∧ file.generation < d.nextGeneration
  reported : ∀ vm file report, d.files vm = some file → file.report = some report →
    (file.generation, file.token, report.result) ∈ d.accepted
  labelled : ∀ guest found, d.guests guest = some found → d.built guest = some found.label
  fresh : ∀ guest, d.nextUuid ≤ guest → d.built guest = none
  unissued : ∀ generation, d.nextGeneration ≤ generation → d.issued generation = none
  deliveries : ∀ delivery ∈ d.deliveries, Genuine d delivery

def Continues (file later : ReceiptRow) : Prop :=
  file.generation ≤ later.generation ∧ (later.generation = file.generation →
    later.token = file.token ∧ ∀ report, file.report = some report → later.report = some report)

structure Steadfast (a b : Desk) : Prop where
  built : ∀ guest label, a.built guest = some label → b.built guest = some label
  issued : ∀ generation token, a.issued generation = some token → b.issued generation = some token
  accepted : ∀ report ∈ a.accepted, report ∈ b.accepted
  guest : ∀ vm guest, guestOf a.toStore vm = some guest → guestOf b.toStore vm = some guest
  receipt : ∀ vm file, a.files vm = some file → ∃ later, b.files vm = some later ∧
    Continues file later ∧ ((guestOf a.toStore vm).isSome → later.generation = file.generation)

theorem continues_refl (file : ReceiptRow) : Continues file file :=
  ⟨Nat.le_refl _, fun _ => ⟨rfl, fun _ known => known⟩⟩

theorem continues_trans {a b c : ReceiptRow} (first : Continues a b) (second : Continues b c) :
    Continues a c := by
  refine ⟨Nat.le_trans first.1 second.1, fun same => ?_⟩
  have middle : b.generation = a.generation :=
    Nat.le_antisymm (same ▸ second.1) first.1
  obtain ⟨token, kept⟩ := first.2 middle
  obtain ⟨token', kept'⟩ := second.2 (same.trans middle.symm)
  exact ⟨token'.trans token, fun report known => kept' report (kept report known)⟩

theorem Steadfast.refl (d : Desk) : Steadfast d d :=
  ⟨fun _ _ known => known, fun _ _ known => known, fun _ known => known, fun _ _ known => known,
    fun _ file found => ⟨file, found, continues_refl file, fun _ => rfl⟩⟩

theorem Steadfast.trans {a b c : Desk} (first : Steadfast a b) (second : Steadfast b c) :
    Steadfast a c where
  built guest label known := second.built guest label (first.built guest label known)
  issued generation token known := second.issued _ _ (first.issued generation token known)
  accepted report known := second.accepted report (first.accepted report known)
  guest vm guest known := second.guest vm guest (first.guest vm guest known)
  receipt vm file found := by
    obtain ⟨middle, there, continues, stays⟩ := first.receipt vm file found
    obtain ⟨last, final, continues', stays'⟩ := second.receipt vm middle there
    refine ⟨last, final, continues_trans continues continues', fun tracked => ?_⟩
    obtain ⟨guest, known⟩ := Option.isSome_iff_exists.mp tracked
    exact (stays' (by rw [first.guest vm guest known]; rfl)).trans (stays tracked)

section Assertions
variable {a b : Desk}

theorem injected_steadfast (steadfast : Steadfast a b) (guest : Uuid) (token : Secret)
    (known : injected a guest = some token) : injected b guest = some token := by
  simp only [injected, Option.bind_eq_some_iff] at known ⊢
  obtain ⟨generation, ⟨label, built, named⟩, issued⟩ := known
  exact ⟨generation, ⟨label, steadfast.built guest label built, named⟩,
    steadfast.issued generation token issued⟩

theorem genuine_steadfast (steadfast : Steadfast a b) (delivery : Delivery)
    (genuine : Genuine a delivery) : Genuine b delivery := by
  obtain ⟨guest, file, token, result, tracked, held, built, known, reported, success, accepted⟩ :=
    genuine
  exact ⟨guest, file, token, result, tracked, held, steadfast.built _ _ built,
    injected_steadfast steadfast guest token known, reported, success,
    steadfast.accepted _ accepted⟩

theorem reported_steadfast (vm : VmId) (reported : Reported vm a) (steadfast : Steadfast a b) :
    Reported vm b := by
  obtain ⟨tracked, file, found, success⟩ := reported
  obtain ⟨guest, known⟩ := Option.isSome_iff_exists.mp tracked
  obtain ⟨later, there, continues, stays⟩ := steadfast.receipt vm file found
  refine ⟨by rw [steadfast.guest vm guest known]; rfl, later, there, ?_⟩
  simp only [ReceiptRow.outcome, Option.map_eq_some_iff] at success ⊢
  obtain ⟨report, reported, outcome⟩ := success
  exact ⟨report, (continues.2 (stays tracked)).2 report reported, outcome⟩

end Assertions

section Moves
variable {d : Desk}

/-- A step of the database and XO that leaves the receipts alone and gives a row
only a guest of its receipt. -/
structure Moved (d : Desk) (s : Site) : Prop where
  kept : ∀ vm guest, guestOf d.toStore vm = some guest → guestOf s.toStore vm = some guest
  tracked : ∀ vm guest, guestOf s.toStore vm = some guest →
    guestOf d.toStore vm = some guest ∨ Bound d vm guest
  receipts : s.receipts = d.receipts
  generations : s.nextGeneration = d.nextGeneration
  later : d.nextUuid ≤ s.nextUuid
  guests : ∀ guest found, s.guests guest = some found →
    (∃ old, d.guests guest = some old ∧ old.label = found.label) ∨
      (d.nextUuid ≤ guest ∧ guest < s.nextUuid)

theorem tracking_built {s : Site} (guest : Uuid) (label : Label)
    (known : d.built guest = some label) : (d.tracking s).built guest = some label := by
  simp [Desk.tracking, known]

theorem moved_steadfast {s : Site} (moved : Moved d s) : Steadfast d (d.tracking s) :=
  ⟨tracking_built, fun _ _ known => known, fun _ known => known, moved.kept,
    fun _ file found => ⟨file, found, continues_refl file, fun _ => rfl⟩⟩

theorem moved_identified {s : Site} (identified : Identified d) (moved : Moved d s) :
    Identified (d.tracking s) := by
  have labelled : ∀ guest found, s.guests guest = some found →
      (d.tracking s).built guest = some found.label := by
    intro guest found present
    rcases moved.guests guest found present with ⟨old, before, same⟩ | ⟨new, _⟩
    · rw [← same]
      exact tracking_built guest old.label (identified.labelled guest old before)
    · simp [Desk.tracking, identified.fresh guest new, present]
  refine ⟨fun vm => ?_, fun vm guest known => ?_, fun vm file found => ?_, identified.reported,
    labelled, fun guest above => ?_, ?_, fun delivery member => ?_⟩
  · show s.receipts vm = _
    rw [moved.receipts]
    exact identified.synced vm
  · have before : Bound d vm guest := by
      rcases moved.tracked vm guest known with before | bound
      · exact identified.bound vm guest before
      · exact bound
    obtain ⟨file, found, built⟩ := before
    exact ⟨file, found, tracking_built guest _ built⟩
  · show _ ∧ _ < s.nextGeneration
    rw [moved.generations]
    exact identified.dated vm file found
  · have absent := identified.fresh guest (Nat.le_trans moved.later above)
    cases present : s.guests guest with
    | none => simp [Desk.tracking, absent, present]
    | some found =>
      rcases moved.guests guest found present with ⟨old, before, _⟩ | ⟨_, below⟩
      · rw [identified.labelled guest old before] at absent
        cases absent
      · exact absurd below (Nat.not_lt.mpr above)
  · show ∀ generation, s.nextGeneration ≤ generation → _
    rw [moved.generations]
    exact identified.unissued
  · exact genuine_steadfast (moved_steadfast moved) delivery (identified.deliveries delivery member)

structure Filed (d : Desk) (vm : VmId) (file : ReceiptRow) (d' : Desk) : Prop where
  store : d'.toStore = d.toStore
  files : d'.files = d.files.put vm file
  receipts : d'.receipts = d.receipts.put vm file.seen
  guests : d'.guests = d.guests ∧ d'.nextUuid = d.nextUuid ∧ d'.built = d.built
  issued : ∀ generation token, d.issued generation = some token →
    d'.issued generation = some token
  unissued : ∀ generation, d'.nextGeneration ≤ generation → d'.issued generation = none
  generations : d.nextGeneration ≤ d'.nextGeneration
  dated : d'.issued file.generation = some file.token ∧ file.generation < d'.nextGeneration
  accepted : ∀ report ∈ d.accepted, report ∈ d'.accepted
  reported : ∀ report, file.report = some report →
    (file.generation, file.token, report.result) ∈ d'.accepted
  deliveries : d'.deliveries = d.deliveries
  continues : ∀ old, d.files vm = some old → Continues old file ∧
    ((guestOf d.toStore vm).isSome → file.generation = old.generation)

theorem filed_steadfast {d' : Desk} {vm : VmId} {file : ReceiptRow} (filed : Filed d vm file d') :
    Steadfast d d' := by
  refine ⟨fun guest label known => ?_, filed.issued, filed.accepted, fun other guest known => ?_,
    fun other old found => ?_⟩
  · rw [filed.guests.2.2]
    exact known
  · rw [filed.store]
    exact known
  · by_cases same : other = vm
    · subst same
      exact ⟨file, by simp [filed.files], filed.continues old found⟩
    · exact ⟨old, by simpa [filed.files, same] using found, continues_refl old, fun _ => rfl⟩

theorem filed_identified {d' : Desk} {vm : VmId} {file : ReceiptRow} (identified : Identified d)
    (filed : Filed d vm file d') : Identified d' := by
  have steadfast := filed_steadfast filed
  refine ⟨fun other => ?_, fun other guest known => ?_, fun other found there => ?_,
    fun other found report there told => ?_, fun guest found present => ?_, fun guest above => ?_,
    filed.unissued, fun delivery member => ?_⟩
  · by_cases same : other = vm
    · subst same
      simp [filed.receipts, filed.files]
    · simpa [filed.receipts, filed.files, same] using identified.synced other
  · rw [filed.store] at known
    obtain ⟨old, found, built⟩ := identified.bound other guest known
    have built' := steadfast.built guest _ built
    by_cases same : other = vm
    · subst same
      have generation := (filed.continues old found).2 (by rw [known]; rfl)
      exact ⟨file, by simp [filed.files], by simpa [ReceiptRow.label, generation] using built'⟩
    · exact ⟨old, by simpa [filed.files, same] using found, built'⟩
  · by_cases same : other = vm
    · subst same
      obtain rfl : file = found := by simpa [filed.files] using there
      exact filed.dated
    · have before := identified.dated other found (by simpa [filed.files, same] using there)
      exact ⟨filed.issued _ _ before.1, Nat.lt_of_lt_of_le before.2 filed.generations⟩
  · by_cases same : other = vm
    · subst same
      obtain rfl : file = found := by simpa [filed.files] using there
      exact filed.reported report told
    · exact filed.accepted _ (identified.reported other found report
        (by simpa [filed.files, same] using there) told)
  · rw [filed.guests.1] at present
    rw [filed.guests.2.2]
    exact identified.labelled guest found present
  · rw [filed.guests.2.1] at above
    rw [filed.guests.2.2]
    exact identified.fresh guest above
  · rw [filed.deliveries] at member
    exact genuine_steadfast steadfast delivery (identified.deliveries delivery member)

theorem prepareFile_filed {d' : Desk} (identified : Identified d) (vm : VmId) (token : Secret)
    (deadline now : Time) (generation : Generation)
    (done : prepareFile vm token deadline now d = .ok (d', generation)) :
    ∃ file, Filed d vm file d' := by
  simp only [prepareFile] at done
  split at done
  · cases done
  rename_i row present
  split at done
  · cases done
  rename_i file prepared
  simp only [preparedReceipt] at prepared
  repeat' split at prepared
  all_goals cases prepared
  rename_i open_ _
  simp only [not_or, not_not, Option.not_isSome_iff_eq_none] at open_
  cases done
  refine ⟨_, rfl, rfl, rfl, ⟨rfl, rfl, rfl⟩, fun old known held => ?_, fun later above => ?_,
    Nat.le_succ _, ⟨Function.update_self .., Nat.lt_succ_self _⟩, fun _ member => member,
    nofun, rfl, fun old found => ?_⟩
  · have other : old ≠ d.nextGeneration := by
      rintro rfl
      rw [identified.unissued _ (Nat.le_refl _)] at held
      cases held
    simpa [Function.update_of_ne other] using held
  · have other : later ≠ d.nextGeneration := fun same =>
      Nat.not_succ_le_self _ (same ▸ above)
    simpa [Function.update_of_ne other] using
      identified.unissued later (Nat.le_of_succ_le above)
  · have earlier := (identified.dated vm old found).2
    refine ⟨⟨Nat.le_of_lt earlier, fun same => absurd same (Nat.ne_of_gt earlier)⟩, ?_⟩
    simp [guestOf, present, open_.2]

theorem acceptFile_filed (identified : Identified d) (vm : VmId) (generation : Generation)
    (token : Secret) (result : GuestResult) (now : Time) :
    acceptFile vm generation token result now d = d ∨
      ∃ file, Filed d vm file (acceptFile vm generation token result now d) := by
  simp only [acceptFile]
  split
  · rename_i file accepted
    obtain ⟨row, found, same, owns, kept⟩ := accepted_cases accepted
    subst same owns
    refine Or.inr ⟨file, rfl, rfl, rfl, ⟨rfl, rfl, rfl⟩, fun _ _ known => known, identified.unissued,
      Nat.le_refl _, ?_, fun _ member => List.mem_cons_of_mem _ member, fun report told => ?_, rfl,
      fun old there => ?_⟩
    · rcases kept with ⟨rfl, _⟩ | ⟨rfl, _⟩
      · exact identified.dated vm file found
      · exact identified.dated vm row found
    · rcases kept with ⟨rfl, _⟩ | ⟨rfl, _⟩
      · exact List.mem_cons_of_mem _ (identified.reported vm file report found told)
      · cases told
        exact List.mem_cons_self
    · rw [found] at there
      cases there
      rcases kept with ⟨rfl, _⟩ | ⟨rfl, unreported, _⟩
      · exact ⟨continues_refl file, fun _ => rfl⟩
      · refine ⟨⟨Nat.le_refl _, fun _ => ⟨rfl, fun report told => ?_⟩⟩, fun _ => rfl⟩
        rw [unreported] at told
        cases told
  · exact Or.inl rfl

theorem renewFile_filed (identified : Identified d) (vm : VmId) (deadline : Time) :
    renewFile vm deadline d = d ∨ ∃ file, Filed d vm file (renewFile vm deadline d) := by
  simp only [renewFile]
  split
  · rename_i row old present found
    split
    · exact Or.inl rfl
    have dated := identified.dated vm old found
    refine Or.inr ⟨renewedReceipt old deadline, rfl, rfl, rfl, ⟨rfl, rfl, rfl⟩,
      fun _ _ known => known, identified.unissued, Nat.le_refl _, ?_, fun _ member => member, ?_,
      rfl, ?_⟩
    · simp only [renewedReceipt]
      split <;> exact dated
    · intro report told
      simp only [renewedReceipt] at told ⊢
      split at told
      · exact identified.reported vm old report found told
      · rename_i unreported
        rw [unreported] at told
        cases told
    · intro other there
      rw [found] at there
      cases there
      simp only [renewedReceipt]
      split
      · exact ⟨continues_refl old, fun _ => rfl⟩
      rename_i unreported
      refine ⟨⟨Nat.le_refl _, fun _ => ⟨rfl, fun report told => ?_⟩⟩, fun _ => rfl⟩
      rw [unreported] at told
      cases told
  · exact Or.inl rfl

theorem deliverFile_identified {d' : Desk} (vm : VmId) (suspended : Bool) (value : Unit)
    (identified : Identified d) (reported : Reported vm d)
    (done : deliverFile vm suspended d = .ok (d', value)) : Identified d' ∧ Steadfast d d' := by
  simp only [deliverFile] at done
  split at done
  · cases done
    exact ⟨identified, Steadfast.refl d⟩
  · rename_i row present
    cases done
    have rows : ∀ other, guestOf { d.toStore with vms := d.vms.put vm { row with
        status := if suspended then .suspended else .ready } } other = guestOf d.toStore other := by
      intro other
      by_cases same : other = vm
      · subst same
        simp [guestOf, present]
      · simp [guestOf, same]
    obtain ⟨tracked, file, found, success⟩ := reported
    obtain ⟨guest, known⟩ := Option.isSome_iff_exists.mp tracked
    obtain ⟨same, there, built⟩ := identified.bound vm guest known
    rw [found] at there
    cases there
    simp only [ReceiptRow.outcome, Option.map_eq_some_iff] at success
    obtain ⟨report, told, outcome⟩ := success
    have genuine : Genuine d ⟨vm, row.xcpngUuid, d.files vm⟩ := by
      have issued := (identified.dated vm file found).1
      exact ⟨guest, file, file.token, report.result, by simpa [guestOf, present] using known, found,
        built, by simp [injected, built, ReceiptRow.label, issued], by simp [told], outcome,
        identified.reported vm file report found told⟩
    constructor
    · refine { identified with bound := fun other guest known => ?_, deliveries := ?_ }
      · exact identified.bound other guest ((rows other).symm.trans known)
      · intro delivery member
        rcases List.mem_cons.mp member with rfl | before
        · exact genuine
        · exact identified.deliveries delivery before
    · exact { Steadfast.refl d with guest := fun other guest known => (rows other).trans known }

end Moves

/-! What a request of the provisioner moves. -/

section Requests
variable {d : Desk} {s : Site}

theorem moved_same (same : s = d.toSite) : Moved d s := by
  subst same
  exact ⟨fun _ _ known => known, fun _ _ known => Or.inl known, rfl, rfl, Nat.le_refl _,
    fun guest found present => Or.inl ⟨found, present, rfl⟩⟩

theorem moved_store {store : Store} (rows : ∀ vm, guestOf store vm = guestOf d.toStore vm) :
    Moved d { d.toSite with toStore := store } :=
  ⟨fun vm _ known => (rows vm).trans known, fun vm _ known => Or.inl ((rows vm).symm.trans known),
    rfl, rfl, Nat.le_refl _, fun _ found present => Or.inl ⟨found, present, rfl⟩⟩

theorem guestOf_put (vm : VmId) (row next : VMRow) (store : Store) (present : store.vms vm = some row)
    (same : next.xcpngUuid = row.xcpngUuid) (other : VmId) :
    guestOf { store with vms := store.vms.put vm next } other = guestOf store other := by
  by_cases here : other = vm
  · subst here
    simp [guestOf, present, same]
  · simp [guestOf, here]

theorem moved_effect (command : XoCommand) (later : List XoCommand) :
    Moved d (command.effect { d.toSite with delayed := later }) := by
  have kept (guests : Table Uuid Guest)
      (old : ∀ guest found, guests guest = some found → ∃ old, d.guests guest = some old ∧
        old.label = found.label) :
      Moved d { d.toSite with delayed := later, guests := guests } :=
    ⟨fun _ _ known => known, fun _ _ known => Or.inl known, rfl, rfl, Nat.le_refl _,
      fun guest found present => Or.inl (old guest found present)⟩
  have same := kept d.guests fun _ found present => ⟨found, present, rfl⟩
  have power (guest : Uuid) (found : Guest) (next : Power) (present : d.guests guest = some found) :=
    kept (d.guests.put guest { found with power := next }) fun other seen there => by
      by_cases here : other = guest
      · subst here
        obtain rfl : { found with power := next } = seen := by simpa using there
        exact ⟨found, present, rfl⟩
      · exact ⟨seen, by simpa [here] using there, rfl⟩
  cases command with
  | configure guest => exact same
  | start guest | stop guest =>
    simp only [XoCommand.effect]
    split
    · exact power guest _ _ (by assumption)
    · exact same
  | delete guest =>
    refine kept _ fun other seen there => ?_
    by_cases here : other = guest
    · simp [here] at there
    · exact ⟨seen, by simpa [here] using there, rfl⟩
  | create label =>
    refine ⟨fun _ _ known => known, fun _ _ known => Or.inl known, rfl, rfl, Nat.le_succ _,
      fun guest found present => ?_⟩
    by_cases here : guest = d.nextUuid
    · exact Or.inr ⟨Nat.le_of_eq here.symm, by rw [here]; exact Nat.lt_succ_self _⟩
    · exact Or.inl ⟨found, by simpa [XoCommand.effect, here] using present, rfl⟩

theorem moved_bind (vm : VmId) (row : VMRow) (guest : Uuid) (present : d.vms vm = some row)
    (free : row.xcpngUuid.any (· != guest) = false)
    (bound : row.xcpngUuid = none → Bound d vm guest) :
    Moved d { d.toSite with vms := d.vms.put vm { row with xcpngUuid := some guest } } := by
  have before : guestOf d.toStore vm = none ∧ Bound d vm guest ∨
      guestOf d.toStore vm = some guest := by
    simp only [guestOf, present, Option.bind_some]
    cases uuid : row.xcpngUuid with
    | none => exact Or.inl ⟨rfl, bound uuid⟩
    | some other =>
      refine Or.inr ?_
      simpa [uuid] using free
  refine ⟨fun other known there => ?_, fun other known there => ?_, rfl, rfl, Nat.le_refl _,
    fun guest found present => Or.inl ⟨found, present, rfl⟩⟩
  · by_cases same : other = vm
    · subst same
      rcases before with ⟨absent, _⟩ | held
      · rw [absent] at there
        cases there
      · rw [held] at there
        cases there
        simp [guestOf]
    · simpa [guestOf, same] using there
  · by_cases same : other = vm
    · subst same
      obtain rfl : guest = known := by simpa [guestOf] using there
      rcases before with ⟨_, bound⟩ | held
      · exact Or.inr bound
      · exact Or.inl held
    · exact Or.inl (by simpa [guestOf, same] using there)

/-- The requests that do not touch the receipts or the guest of a row. -/
def Unbinding {β : Type} : ProvisionReq β → Prop
  | .prepareGuestResult _ | .adoptGuest _ _ _ | .storeUuid _ _ | .finishProvisioning _ _ => False
  | _ => True

theorem answered_moved {β : Type} (request : ProvisionReq β) (answer : ProvisionAnswer)
    (reply : Except Err β) (unbinding : Unbinding request)
    (ran : request.answered answer d.toSite = some (s, reply)) : Moved d s := by
  have read {γ : Type} {read : Site → γ} {reply : Except Err γ}
      (ran : inSession (siteRead read) answer d.toSite = some (s, reply)) : Moved d s :=
    moved_same (inSession_read ran).1
  have checked {γ : Type} {tx : Transaction Site γ} {reply : Except Err γ}
      (ran : inSession tx answer d.toSite = some (s, reply))
      (reads : ∀ next value, tx d.toSite = .ok (next, value) → next = d.toSite) : Moved d s := by
    rcases inSession_ends ran with ⟨same, _⟩ | ⟨value, done, _⟩
    · exact moved_same same
    · exact moved_same (reads s value done)
  have written {γ : Type} {tx : Transaction Store γ} {reply : Except Err γ}
      (ends : SessionEnds d.toSite s reply (onSite tx))
      (rows : ∀ store value, tx d.toStore = .ok (store, value) →
        ∀ vm, guestOf store vm = guestOf d.toStore vm) : Moved d s := by
    rcases ends with ⟨same, _⟩ | ⟨value, done, _⟩
    · exact moved_same same
    · obtain ⟨store, inner, rfl⟩ := onSite_ok done
      exact moved_store (rows store value inner)
  cases request with
  | exchange command =>
    rcases command_ends ran with ⟨same, _⟩ | ⟨rfl, _⟩ | ⟨rfl, _⟩
    · exact moved_same same
    · exact moved_effect command d.delayed
    · exact ⟨fun _ _ known => known, fun _ _ known => Or.inl known, rfl, rfl, Nat.le_refl _,
        fun guest found present => Or.inl ⟨found, present, rfl⟩⟩
  | findLabel label | powerState guest | guestExists guest => exact moved_same (query_same ran)
  | reconnect | renderConfig vm | waitForIpv6 guest | publishDns vm =>
    exact moved_same (external_same ran)
  | beginProvisioning vm | getVm vm | capacityLock | getReceipt vm | checkRestriction vm guest
  | quoteForVm vm | intentOfVm vm => exact read ran
  | guestResult vm generation =>
    refine checked ran fun next value done => ?_
    simp only [guestResult] at done
    repeat' split at done
    all_goals cases done
    rfl
  | readyToFinish vm guest generation =>
    refine checked ran fun next value done => ?_
    simp only [readyToFinish] at done
    repeat' split at done
    all_goals cases done
    all_goals rfl
  | commitFailed vm =>
    refine written (inSession_ends ran) fun store value done other => ?_
    simp only [commitFailed] at done
    split at done
    · cases done
      rfl
    · rename_i row present
      cases done
      exact guestOf_put vm row { row with status := .failed } d.toStore present rfl other
  | releaseVmAttachmentClaim vm =>
    refine written (inSession_ends ran) fun store value done other => ?_
    cases done
    rfl
  | recordOwed args =>
    simp only [ProvisionReq.answered] at ran
    split at ran <;> cases ran
    · exact moved_same rfl
    · refine moved_store fun vm => ?_
      simp only [recordOwed, addEvent]
      split <;> rfl
  | recordNativeIntentRefund intent reason vm =>
    simp only [ProvisionReq.answered] at ran
    split at ran
    · rename_i now fate
      simp only [Option.some.injEq] at ran
      refine written (transact_ends _ _ _ _ _ ran) fun store value done other => ?_
      have handed (row : CryptoIntentRow) :
          (failHandedOrder intent row reason now d.toStore).vms = d.vms :=
        (failHandedOrder_columns intent row reason now d.toStore).1
      simp only [recordNativeIntentRefund, addEvent] at done
      repeat' split at done
      all_goals cases done
      all_goals simp [guestOf, handed]
    · cases ran
  | prepareGuestResult _ | adoptGuest _ _ _ | storeUuid _ _ | finishProvisioning _ _ =>
    exact unbinding.elim

end Requests

/-- An attempt only stores a guest of the generation that the receipt still has. -/
def StoresCurrent {β : Type} (request : ProvisionReq β) (choice : DeskChoice) (d : Desk) : Prop :=
  match request with
  | .storeUuid vm guest =>
    choice.answer = .commit .failed ∨ guestOf d.toStore vm ≠ none ∨ Bound d vm guest
  | _ => True

def MayBind {β : Type} (request : ProvisionReq β) (d : Desk) : Prop :=
  match request with
  | .adoptGuest vm generation guest => d.built guest = some ⟨vm, some generation⟩
  | .finishProvisioning vm _ => Reported vm d
  | _ => True

section Steps
variable {d d' : Desk}

theorem moved_step {s : Site} (identified : Identified d) (moved : Moved d s) :
    Identified (d.tracking s) ∧ Steadfast d (d.tracking s) :=
  ⟨moved_identified identified moved, moved_steadfast moved⟩

theorem filed_step {vm : VmId} {file : ReceiptRow} (identified : Identified d)
    (filed : Filed d vm file d') : Identified d' ∧ Steadfast d d' :=
  ⟨filed_identified identified filed, filed_steadfast filed⟩

theorem inDesk_step {β : Type} {tx : Transaction Desk β} {answer : ProvisionAnswer}
    {reply : Except Err β} (identified : Identified d)
    (keeps : ∀ next value, tx d = .ok (next, value) → Identified next ∧ Steadfast d next)
    (ran : inDesk tx answer d = some (d', reply)) : Identified d' ∧ Steadfast d d' := by
  cases answer with
  | commit fate =>
    simp only [inDesk, Option.some.injEq] at ran
    rcases transact_ends tx d d' reply fate ran with ⟨rfl, _⟩ | ⟨value, done, _⟩
    · exact ⟨identified, Steadfast.refl d'⟩
    · exact keeps d' value done
  | _ => cases ran

theorem current_file (identified : Identified d) (vm : VmId) (generation : Generation)
    (current : currentGeneration vm generation d.toSite = true) :
    ∃ file, d.files vm = some file ∧ file.generation = generation := by
  simp only [currentGeneration, identified.synced vm] at current
  cases found : d.files vm with
  | none => simp [found] at current
  | some file => exact ⟨file, rfl, by simpa [found, ReceiptRow.seen] using current⟩

theorem inSession_applied {β : Type} {tx : Transaction Site β} {answer : ProvisionAnswer}
    {s s' : Site} {reply : Except Err β} (ran : inSession tx answer s = some (s', reply)) :
    s' = s ∨ ∃ value, tx s = .ok (s', value) ∧ answer ≠ .commit .failed := by
  cases answer with
  | commit fate =>
    simp only [inSession, Option.some.injEq] at ran
    rcases transact_cases tx fate s s' reply ran with
      ⟨same, _⟩ | ⟨value, done, rfl, _⟩ | ⟨value, done, rfl, _⟩
    · exact Or.inl same
    · exact Or.inr ⟨value, done, by simp⟩
    · exact Or.inr ⟨value, done, by simp⟩
  | _ => cases ran

theorem step_identified {β : Type} (request : ProvisionReq β) (choice : DeskChoice)
    (reply : Except Err β) (identified : Identified d) (may : MayBind request d)
    (current : StoresCurrent request choice d)
    (ran : stepExec request choice d = some (d', reply)) : Identified d' ∧ Steadfast d d' := by
  cases request with
  | prepareGuestResult vm =>
    refine inDesk_step identified (fun next generation done => ?_) ran
    obtain ⟨file, filed⟩ := prepareFile_filed identified vm _ _ _ generation done
    exact filed_step identified filed
  | finishProvisioning vm suspended =>
    exact inDesk_step identified
      (fun next value done => deliverFile_identified vm suspended value identified may done) ran
  | adoptGuest vm generation guest =>
    simp only [stepExec, Option.map_eq_some_iff, Prod.mk.injEq, Prod.exists] at ran
    obtain ⟨s, answer, ran, rfl, rfl⟩ := ran
    refine moved_step identified ?_
    rcases inSession_applied ran with same | ⟨value, done, applied⟩
    · exact moved_same same
    simp only [adoptGuest] at done
    split at done
    · cases done
    rename_i row present
    repeat' split at done
    all_goals cases done
    rename_i open_ free
    simp only [not_or, Bool.not_eq_false] at open_
    obtain ⟨file, found, same⟩ := current_file identified vm generation open_.2
    exact moved_bind vm row guest present (by simpa using free) fun _ =>
      ⟨file, found, by rw [ReceiptRow.label, same]; exact may⟩
  | storeUuid vm guest =>
    simp only [stepExec, Option.map_eq_some_iff, Prod.mk.injEq, Prod.exists] at ran
    obtain ⟨s, answer, ran, rfl, rfl⟩ := ran
    refine moved_step identified ?_
    rcases inSession_applied ran with same | ⟨value, done, applied⟩
    · exact moved_same same
    simp only [storeUuid] at done
    split at done
    · cases done
      exact moved_same rfl
    · rename_i row present
      split at done <;> cases done
      rename_i free
      refine moved_bind vm row guest present (by simpa using free) fun absent => ?_
      rcases current with failed | tracked | bound
      · exact absurd failed applied
      · exact absurd (by simp [guestOf, present, absent]) tracked
      · exact bound
  | _ =>
    simp only [stepExec, Option.map_eq_some_iff, Prod.mk.injEq, Prod.exists] at ran
    obtain ⟨s, answer, ran, rfl, rfl⟩ := ran
    refine moved_step identified (answered_moved _ choice.answer answer ?_ ran)
    trivial

theorem owner_identified (owner : VmId → Option Nat) (identified : Identified d) :
    Identified { d with owner := owner } ∧ Steadfast d { d with owner := owner } :=
  ⟨{ identified with }, { Steadfast.refl d with }⟩

theorem event_identified (event : DeskEvent) (identified : Identified d)
    (may : event.MayHappen d) : Identified (event.run d) ∧ Steadfast d (event.run d) := by
  have written (same : event.run d = d ∨ ∃ vm file, Filed d vm file (event.run d)) :
      Identified (event.run d) ∧ Steadfast d (event.run d) := by
    rcases same with same | ⟨vm, file, filed⟩
    · rw [same]
      exact ⟨identified, Steadfast.refl d⟩
    · exact filed_step identified filed
  cases event with
  | late index =>
    refine moved_step identified ?_
    simp only [runDelayed]
    split
    · exact moved_effect _ _
    · exact moved_same rfl
  | lifecycle command => exact moved_step identified (moved_effect command d.delayed)
  | report vm generation token result now =>
    exact written ((acceptFile_filed identified vm generation token result now).imp id
      fun filed => ⟨vm, filed⟩)
  | renew vm deadline =>
    exact written ((renewFile_filed identified vm deadline).imp id fun filed => ⟨vm, filed⟩)
  | dispatch vm token deadline now =>
    refine written ?_
    simp only [DeskEvent.run, dispatchFile]
    split
    · exact Or.inl rfl
    split
    · exact Or.inl rfl
    split
    · rename_i prepared generation done
      exact Or.inr ⟨vm, prepareFile_filed identified vm token deadline now generation done⟩
    · exact Or.inl rfl
  | app store => exact moved_step identified (moved_store may)
  | lose vm => exact owner_identified _ identified

theorem lock_identified {β : Type} (request : LockReq β) (answer : ProvisionAnswer)
    (reply : Except Err β) (identified : Identified d)
    (ran : lockExec request answer d = some (d', reply)) : Identified d' ∧ Steadfast d d' := by
  have owned (owner : VmId → Option Nat) := owner_identified owner identified
  cases request with
  | own attempt vm =>
    simp only [lockExec] at ran
    split at ran
    · split at ran <;> cases ran
      · exact ⟨identified, Steadfast.refl d⟩
      · exact owned _
    · cases ran
      exact ⟨identified, Steadfast.refl d⟩
    · cases ran
  | disown attempt vm =>
    obtain ⟨rfl, _⟩ := ran
    split
    · exact owned _
    · exact ⟨identified, Steadfast.refl d⟩

end Steps

def StoresCurrentGuest {β : Type} (request : DeskReq β) (choice : DeskChoice) (d : Desk) : Prop :=
  match request with
  | .step request => StoresCurrent request choice d
  | .lock _ => True

def deskSetting : Setting DeskReq Err Desk DeskChoice where
  exec := deskExec
  permits := StoresCurrentGuest
  mayCrash _ _ := True

def deskDuty : Duty Desk where
  inv := Identified
  rely := Steadfast
  guar := Steadfast
  crash _ := True
  rely_refl := Steadfast.refl
  rely_trans := Steadfast.trans

abbrev stepSetting : Setting ProvisionReq Err Desk DeskChoice := deskSetting.pull DeskReq.step

def Kept (assertion : Desk → Prop) : Prop := ∀ a b, assertion a → Steadfast a b → assertion b

theorem kept_true : Kept fun _ => True := fun _ _ _ _ => trivial

theorem kept_reported (vm : VmId) : Kept (Reported vm) :=
  fun _ _ reported steadfast => reported_steadfast vm reported steadfast

theorem kept_built (guest : Uuid) (label : Label) : Kept fun d => d.built guest = some label :=
  fun _ _ known steadfast => steadfast.built guest label known

def Unnamed {β : Type} : ProvisionReq β → Prop
  | .adoptGuest _ _ _ | .finishProvisioning _ _ => False
  | _ => True

theorem identity_step {β : Type} {pre : Desk → Prop} {post : Except Err β → Desk → Prop}
    (request : ProvisionReq β) (kept : Kept pre) (may : ∀ d, pre d → MayBind request d)
    (shows : ∀ d choice d' reply, Identified d → pre d →
      stepExec request choice d = some (d', reply) → Steadfast d d' → post reply d') :
    Triple stepSetting deskDuty pre (step request) post := by
  refine triple_perform request (fun a b holds steadfast _ => kept a b holds steadfast)
    (fun _ _ _ _ => trivial) ?_
  intro d choice d' reply identified holds current ran
  obtain ⟨after, steadfast⟩ :=
    step_identified request choice reply identified (may d holds) current ran
  exact ⟨after, steadfast, shows d choice d' reply identified holds ran steadfast⟩

theorem unnamed_keeps {α : Type} {assertion : Desk → Prop} (p : Provision α)
    (unnamed : Within Unnamed p) (kept : Kept assertion) :
    Triple stepSetting deskDuty assertion p (fun _ => assertion) := by
  refine triple_within p unnamed (fun a b holds steadfast _ => kept a b holds steadfast)
    (fun _ _ _ _ _ _ => trivial) ?_
  intro β request choice d d' reply here identified holds current ran
  have may : MayBind request d := by
    cases request with
    | adoptGuest | finishProvisioning => exact here.elim
    | _ => trivial
  obtain ⟨after, steadfast⟩ := step_identified request choice reply identified may current ran
  exact ⟨after, steadfast, kept d d' holds steadfast⟩

theorem unnamed_ends {α : Type} {pre : Desk → Prop} (p : Provision α)
    (unnamed : Within Unnamed p) : Triple stepSetting deskDuty pre p (fun _ _ => True) :=
  triple_weaken (unnamed_keeps p unnamed kept_true) (fun _ _ _ => trivial) fun _ _ _ _ => trivial

theorem neutral_unnamed {α : Type} {p : Provision α} (neutral : Within Neutral p) :
    Within Unnamed p := by
  refine within_mono neutral fun request here => ?_
  cases request <;> first | exact here | trivial

theorem attemptFailed_unnamed (vm : VmId) (error : Err) :
    Within Unnamed (attemptFailed vm error) := by
  have settled (error : Err) : Within Unnamed (settleFailure vm error) := by
    refine within_bind (step_within (.commitFailed vm) trivial) fun charge => ?_
    exact within_bind (ignoreErrors_within (step_within _ trivial)) fun _ =>
      recordVmRefund_within vm charge _ trivial (fun _ => trivial) trivial fun _ => trivial
  have failed (error : Err) : Within Unnamed (failProvisioning vm error) := by
    refine within_bind (step_within (.getVm vm) trivial) fun found => ?_
    cases found with
    | none => exact settled error
    | some row =>
      dsimp only
      split
      · trivial
      refine within_bind (neutral_unnamed (stopFailedGuest_neutral row.xcpngUuid))
        fun stopped => ?_
      split
      · exact settled error
      · trivial
  cases error <;> first | trivial | exact failed _

theorem createFreshGuest_unnamed (vm : VmId) : Within Unnamed (createFreshGuest vm) := by
  refine within_bind (xoQuery_within (.findLabel ⟨vm, none⟩) trivial trivial) fun stale =>
    within_bind (neutral_unnamed (destroyGuests_neutral stale)) fun _ =>
      within_bind (step_within _ trivial) fun generation => ?_
  exact within_bind (createGuest_within _ trivial (fun _ => trivial) fun _ => trivial) fun guest =>
    within_bind (step_within _ trivial) fun _ => neutral_unnamed (unlessRestricted_neutral vm guest)

theorem listed_built {d d' : Desk} (label : Label) (choice : DeskChoice) (found : List Uuid)
    (identified : Identified d)
    (ran : stepExec (.findLabel label) choice d = some (d', .ok found)) :
    ∀ guest ∈ found, d.built guest = some label := by
  simp only [stepExec, Option.map_eq_some_iff, Prod.mk.injEq, Prod.exists] at ran
  obtain ⟨s, answer, ran, _, rfl⟩ := ran
  have listed : found = guestsLabelled label d.toSite := by
    generalize choice.answer = answer at ran
    cases answer with
    | exchange fate =>
      cases fate <;> simp only [ProvisionReq.answered, exchanged, exchangeQuery] at ran <;> cases ran
      rfl
    | _ => cases ran
  intro guest member
  rw [listed] at member
  obtain ⟨seen, present, same⟩ : ∃ seen, d.guests guest = some seen ∧ seen.label = label := by
    simpa [guestsLabelled, Option.any_eq_true] using (List.mem_filter.mp member).2
  rw [← same]
  exact identified.labelled guest seen present

theorem findLabel_built (label : Label) :
    Triple stepSetting deskDuty (fun _ => True) (xoQuery (.findLabel label))
      (outcome (fun found d => ∀ guest ∈ found, d.built guest = some label) (fun _ _ => True)) := by
  have once : Triple stepSetting deskDuty (fun _ => True) (step (.findLabel label))
      (outcome (fun found d => ∀ guest ∈ found, d.built guest = some label) (fun _ _ => True)) := by
    refine identity_step _ kept_true (fun _ _ => trivial) ?_
    intro d choice d' reply identified _ ran steadfast
    cases reply with
    | error error => trivial
    | ok found =>
      exact fun guest member =>
        steadfast.built guest label (listed_built label choice found identified ran guest member)
  refine triple_rescue once (fun _ _ _ known => known) fun error => ?_
  cases error with
  | connectionClosed =>
    exact triple_bind (unnamed_keeps (step .reconnect) (step_within _ trivial) kept_true)
      (fun _ => once) fun _ _ _ _ => trivial
  | _ => exact triple_raise _ fun _ _ _ => trivial

section
variable (vm : VmId)

theorem adoptCandidate_identified (generation : Generation) (guest : Uuid) :
    Triple stepSetting deskDuty (fun d => d.built guest = some ⟨vm, some generation⟩)
      (adoptCandidate vm generation guest) (fun _ _ => True) := by
  have seen := unnamed_keeps _ (within_attempt
    (xoQuery_within (.powerState guest) (by trivial : Unnamed .reconnect) trivial))
    (kept_built guest ⟨vm, some generation⟩)
  refine triple_bind seen (fun power => ?_) fun _ _ _ _ => trivial
  split
  · have adopt : Triple stepSetting deskDuty (fun d => d.built guest = some ⟨vm, some generation⟩)
        (step (.adoptGuest vm generation guest)) (fun _ _ => True) :=
      identity_step _ (kept_built guest _) (fun _ built => built) fun _ _ _ _ _ _ _ _ => trivial
    exact triple_bind adopt (fun _ => triple_ret _ fun _ _ _ => trivial) fun _ _ _ _ => trivial
  · exact triple_raise _ fun _ _ _ => trivial
  · exact triple_raise _ fun _ _ _ => trivial

theorem recoverPreUuidGuest_identified :
    Triple stepSetting deskDuty (fun _ => True) (recoverPreUuidGuest vm) (fun _ _ => True) := by
  have receipt := unnamed_keeps (step (.getReceipt vm)) (step_within _ trivial) kept_true
  refine triple_bind receipt (fun found => ?_) fun _ _ _ _ => trivial
  cases found with
  | none => exact triple_ret _ fun _ _ _ => trivial
  | some receipt =>
    refine triple_bind (findLabel_built ⟨vm, some receipt.generation⟩) (fun candidates => ?_)
      fun _ _ _ _ => trivial
    rcases candidates with _ | ⟨guest, _ | ⟨other, rest⟩⟩
    · refine unnamed_ends _ (within_bind (xoQuery_within (.findLabel ⟨vm, none⟩) trivial trivial)
        fun legacy => ?_)
      split <;> trivial
    · have adopt := triple_weaken (adoptCandidate_identified vm receipt.generation guest)
        (fun d _ (listed : ∀ other ∈ [guest], d.built other = _) =>
          listed guest List.mem_cons_self) fun _ _ _ _ => trivial
      exact triple_bind adopt (fun _ => triple_ret _ fun _ _ _ => trivial) fun _ _ _ _ => trivial
    · exact unnamed_ends _ (within_bind (ignoreErrors_within (neutral_unnamed
        (haltGuests_neutral (guest :: other :: rest)))) fun _ => trivial)

theorem trackedGuest_identified (row : VMRow) :
    Triple stepSetting deskDuty (fun _ => True) (trackedGuest vm row) (fun _ _ => True) := by
  unfold trackedGuest
  split
  · exact triple_ret _ fun _ _ _ => trivial
  have lock := unnamed_keeps (step .capacityLock) (step_within _ trivial) kept_true
  have reread := unnamed_keeps (step (.getVm vm)) (step_within _ trivial) kept_true
  refine triple_bind lock (fun _ => triple_bind reread (fun found => ?_) fun _ _ _ _ => trivial)
    fun _ _ _ _ => trivial
  cases found with
  | none => exact triple_ret _ fun _ _ _ => trivial
  | some row =>
    dsimp only
    split
    · exact triple_ret _ fun _ _ _ => trivial
    refine triple_bind (recoverPreUuidGuest_identified vm) (fun recovered => ?_)
      fun _ _ _ _ => trivial
    cases recovered with
    | some guest => exact unnamed_ends _ (neutral_unnamed (unlessRestricted_neutral vm guest))
    | none => exact unnamed_ends _ (createFreshGuest_unnamed vm)

theorem readyToFinish_reported (guest : Uuid) (generation : Generation) :
    Triple stepSetting deskDuty (fun _ => True) (step (.readyToFinish vm guest generation))
      (outcome (fun ready d => ready.isSome → Reported vm d) (fun _ _ => True)) := by
  refine identity_step _ kept_true (fun _ _ => trivial) ?_
  intro d choice d' reply identified _ ran steadfast
  cases reply with
  | error error => trivial
  | ok ready =>
    intro decided
    refine reported_steadfast vm ?_ steadfast
    simp only [stepExec, Option.map_eq_some_iff, Prod.mk.injEq, Prod.exists] at ran
    obtain ⟨s, answer, ran, _, rfl⟩ := ran
    rcases inSession_ends ran with ⟨_, _, absurd, _⟩ | ⟨value, done, answered | answered⟩
    · cases absurd
    · cases answered
      simp only [readyToFinish] at done
      repeat' split at done
      all_goals cases done
      · cases decided
      · cases decided
      · rename_i row present _ checked success _
        simp only [not_or, not_not, Bool.not_eq_false] at checked
        obtain ⟨file, found, _⟩ := current_file identified vm generation checked.2
        refine ⟨by simp [guestOf, present, checked.1], file, found, ?_⟩
        rw [identified.synced vm, found] at success
        simpa [ReceiptRow.seen, ReceiptRow.outcome] using success
    · cases answered

theorem deliverGuest_identified (guest : Uuid) :
    Triple stepSetting deskDuty (fun _ => True) (deliverGuest vm guest) (fun _ _ => True) := by
  have kept {α : Type} (p : Provision α) (unnamed : Within Unnamed p) :=
    unnamed_keeps p unnamed kept_true
  have finish (suspended : Bool) : Triple stepSetting deskDuty (Reported vm)
      (step (.finishProvisioning vm suspended)) (fun _ _ => True) :=
    identity_step _ (kept_reported vm) (fun _ reported => reported) fun _ _ _ _ _ _ _ _ => trivial
  refine triple_bind (kept _ (neutral_unnamed (stopRestricted_neutral vm guest))) (fun stopped => ?_)
    fun _ _ _ _ => trivial
  cases stopped with
  | true => exact triple_ret _ fun _ _ _ => trivial
  | false =>
    refine triple_bind (kept (step (.getReceipt vm)) (step_within _ trivial)) (fun receipt => ?_)
      fun _ _ _ _ => trivial
    cases receipt with
    | none => exact triple_raise _ fun _ _ _ => trivial
    | some receipt =>
      refine triple_bind (kept (step (.waitForIpv6 guest)) (step_within _ trivial)) (fun _ =>
        triple_bind (kept (step (.publishDns vm)) (step_within _ trivial)) (fun _ =>
          triple_bind (kept (step (.guestResult vm receipt.generation)) (step_within _ trivial))
            (fun _ => triple_bind (readyToFinish_reported vm guest receipt.generation)
              (fun ready => ?_) fun _ _ _ _ => trivial) fun _ _ _ _ => trivial)
          fun _ _ _ _ => trivial) fun _ _ _ _ => trivial
      rcases ready with _ | _ | _
      · exact triple_ret _ fun _ _ _ => trivial
      · exact triple_weaken (finish false) (fun _ _ reported => reported rfl)
          fun _ _ _ _ => trivial
      · have halt := unnamed_keeps (haltGuest guest) (neutral_unnamed (haltGuest_neutral guest))
          (kept_reported vm)
        have suspend : Triple stepSetting deskDuty (Reported vm)
            (haltGuest guest >>= fun _ => step (.finishProvisioning vm true))
            (fun _ _ => True) := triple_bind halt (fun _ => finish true) fun _ _ _ _ => trivial
        have whole : Triple stepSetting deskDuty (Reported vm) (finishSuspended vm guest)
            (fun _ _ => True) :=
          triple_rescue suspend (fun _ _ _ _ => trivial)
            fun _ => triple_raise _ fun _ _ _ => trivial
        exact triple_weaken whole (fun _ _ reported => reported rfl) fun _ _ _ _ => trivial

theorem bringUp_identified :
    Triple stepSetting deskDuty (fun _ => True) (bringUp vm) (fun _ _ => True) := by
  refine triple_bind (unnamed_keeps (step (.getVm vm)) (step_within _ trivial) kept_true)
    (fun found => ?_) fun _ _ _ _ => trivial
  cases found with
  | none => exact triple_ret _ fun _ _ _ => trivial
  | some row =>
    refine triple_bind (unnamed_keeps (step (.renderConfig vm)) (step_within _ trivial) kept_true)
      (fun _ => ?_) fun _ _ _ _ => trivial
    split
    · exact triple_raise _ fun _ _ _ => trivial
    refine triple_bind (trackedGuest_identified vm row) (fun guest => ?_) fun _ _ _ _ => trivial
    cases guest with
    | none => exact triple_ret _ fun _ _ _ => trivial
    | some guest => exact deliverGuest_identified vm guest

theorem provisionVm_identified :
    Triple stepSetting deskDuty (fun _ => True) (provisionVm vm) (fun _ _ => True) := by
  refine triple_bind (unnamed_keeps (step (.beginProvisioning vm)) (step_within _ trivial) kept_true)
    (fun begun => ?_) fun _ _ _ _ => trivial
  split
  · exact triple_rescue (bringUp_identified vm) (fun _ _ _ _ => trivial)
      fun error => unnamed_ends _ (attemptFailed_unnamed vm error)
  · exact triple_ret _ fun _ _ _ => trivial

end

theorem lock_step {β : Type} (request : LockReq β) :
    Triple deskSetting deskDuty (fun _ => True) (Proc.perform (DeskReq.lock request))
      (fun _ _ => True) := by
  refine triple_perform _ (fun _ _ _ _ _ => trivial) (fun _ _ _ _ => trivial) ?_
  intro d choice d' reply identified _ _ ran
  obtain ⟨after, steadfast⟩ := lock_identified request choice.answer reply identified ran
  exact ⟨after, steadfast, trivial⟩

theorem ownedAttempt_identified (attempt : Nat) (vm : VmId) :
    Triple deskSetting deskDuty (fun _ => True) (ownedAttempt attempt vm) (fun _ _ => True) := by
  refine triple_bind (lock_step (.own attempt vm)) (fun owned => ?_) fun _ _ _ _ => trivial
  split
  · have body : Triple deskSetting deskDuty (fun _ => True)
        ((provisionVm vm).embed DeskReq.step) (fun _ _ => True) :=
      triple_embed DeskReq.step (provisionVm_identified vm)
    have caught : Triple deskSetting deskDuty (fun _ => True)
        ((provisionVm vm).embed DeskReq.step).attempt (fun _ _ => True) :=
      triple_weaken (triple_attempt body) (fun _ _ _ => trivial) fun _ _ _ _ => trivial
    refine triple_bind caught (fun result => triple_bind (lock_step (.disown attempt vm))
      (fun _ => ?_) fun _ _ _ _ => trivial) fun _ _ _ _ => trivial
    cases result with
    | ok value => exact triple_ret _ fun _ _ _ => trivial
    | error error => exact triple_raise _ fun _ _ _ => trivial
  · exact triple_ret _ fun _ _ _ => trivial

theorem desk_composable (jobs : Nat → VmId) :
    Composable (guestDesk deskSetting jobs) Identified (fun _ => deskDuty)
      (fun _ _ => True) (fun _ _ _ => True) where
  shared _ _ := Iff.rfl
  starts t := ownedAttempt_identified t (jobs t)
  idle _ _ _ holds _ _ := holds
  done _ _ _ _ holds _ _ := holds
  dead _ _ _ holds _ _ := holds
  compatible _ _ _ _ _ _ _ steadfast := steadfast
  ticks event d identified may := by
    obtain ⟨after, steadfast⟩ := event_identified event identified may
    exact ⟨after, fun _ => steadfast⟩

structure Unbuilt (d : Desk) : Prop where
  receipts : ∀ vm, d.receipts vm = none ∧ d.files vm = none ∧ guestOf d.toStore vm = none
  guests : ∀ guest, d.guests guest = none ∧ d.built guest = none
  issued : ∀ generation, d.issued generation = none
  undelivered : d.deliveries = []

theorem unbuilt_identified (d : Desk) (unbuilt : Unbuilt d) : Identified d where
  synced vm := by simp [unbuilt.receipts vm]
  bound vm guest known := by simp [unbuilt.receipts vm] at known
  dated vm file found := by simp [unbuilt.receipts vm] at found
  reported vm file report found := by simp [unbuilt.receipts vm] at found
  labelled guest found present := by simp [unbuilt.guests guest] at present
  fresh guest _ := (unbuilt.guests guest).2
  unissued generation _ := unbuilt.issued generation
  deliveries delivery member := by simp [unbuilt.undelivered] at member

/-- Every delivery is of a guest that has reported its own success, a generation
keeps its accepted outcome, and a tracked guest keeps its generation and token. -/
structure Vouched (mid final : Desk) : Prop where
  genuine : ∀ delivery ∈ final.deliveries, Genuine final delivery
  outcome : ∀ vm file later report, mid.files vm = some file → final.files vm = some later →
    later.generation = file.generation → file.report = some report → later.report = some report
  identity : ∀ vm file, guestOf mid.toStore vm ≠ none → mid.files vm = some file →
    ∃ later, final.files vm = some later ∧ later.generation = file.generation ∧
      later.token = file.token

theorem steadfast_vouched {mid final : Desk} (identified : Identified final)
    (steadfast : Steadfast mid final) : Vouched mid final := by
  refine ⟨identified.deliveries, fun vm file later report found there same told => ?_,
    fun vm file tracked found => ?_⟩
  · obtain ⟨last, present, continues, _⟩ := steadfast.receipt vm file found
    rw [there] at present
    cases present
    exact (continues.2 same).2 report told
  · obtain ⟨last, present, continues, stays⟩ := steadfast.receipt vm file found
    have same := stays (Option.isSome_iff_ne_none.mpr tracked)
    exact ⟨last, present, same, (continues.2 same).1⟩

/-- In every run in which an attempt stores the UUID of a guest only while the
receipt still has the generation that the guest was created for. -/
theorem delivered_guests_vouched (jobs : Nat → VmId) (d : Desk)
    (first rest : List (Action Nat DeskChoice DeskEvent)) (unbuilt : Unbuilt d)
    (admitted : runAdmitted (guestDesk deskSetting jobs) ⟨d, fun _ => .idle⟩ (first ++ rest)) :
    Vouched (run (guestDesk deskSetting jobs) ⟨d, fun _ => .idle⟩ first).shared
      (run (guestDesk deskSetting jobs) ⟨d, fun _ => .idle⟩ (first ++ rest)).shared := by
  obtain ⟨before, after⟩ := (runAdmitted_append _ _ first rest).mp admitted
  have mid := run_safe (desk_composable jobs) first ⟨d, fun _ => .idle⟩
    ⟨unbuilt_identified d unbuilt, fun _ => trivial⟩ before
  rw [run_append]
  have final := run_safe (desk_composable jobs) rest _ mid after
  exact steadfast_vouched final.1 (run_related (desk_composable jobs) Steadfast Steadfast.refl
    (fun _ _ _ first second => first.trans second) (fun _ _ _ steadfast => steadfast)
    (fun event d identified may => (event_identified event identified may).2) rest _ mid after)

def bookedVm : VmId := ⟨.request 0, 0⟩

def bookedDesk : Desk where
  vmQuotes _ := none
  vms := Table.put (fun _ => none) bookedVm { ownerWallet := some (.evm 0) }
  intents _ := none
  domainQuotes _ := none
  orders _ := none
  domains _ := none
  operations _ := none
  jobs _ := none
  events := []
  disabled _ := false
  receipts _ := none
  nextGeneration := 0
  guests _ := none
  nextUuid := 0
  delayed := []
  quoteOf _ := none
  intentOf _ := none
  owner _ := none
  files _ := none
  issued _ := none
  built _ := none
  accepted := []
  deliveries := []

theorem bookedDesk_unbuilt : Unbuilt bookedDesk := by
  refine ⟨fun vm => ⟨rfl, rfl, ?_⟩, fun _ => ⟨rfl, rfl⟩, fun _ => rfl, rfl⟩
  by_cases same : vm = bookedVm
  · subst same
    rfl
  · simp [guestOf, bookedDesk, same]

def success : GuestResult := ⟨.succeeded, .cloudInit, 0, by decide, by decide, by decide⟩

/-- The next request of an attempt is committed, or answered by XO. -/
def commits (attempt : Nat) : Action Nat DeskChoice DeskEvent :=
  .step attempt { answer := .commit .done }

def answers (attempt : Nat) : Action Nat DeskChoice DeskEvent :=
  .step attempt { answer := .exchange .answered }

/-- From the lock to a fresh receipt with `token`, past so many looks at XO. -/
def preparing (attempt looks : Nat) (token : Secret) : List (Action Nat DeskChoice DeskEvent) :=
  (.start attempt :: List.replicate 7 (commits attempt)) ++ List.replicate looks (answers attempt) ++
    [.step attempt { answer := .commit .done, token := token, deadline := 900 }]

def creating (attempt : Nat) : List (Action Nat DeskChoice DeskEvent) :=
  List.replicate 3 (answers attempt)

def delivering (attempt : Nat) : List (Action Nat DeskChoice DeskEvent) :=
  List.replicate 8 (commits attempt)

def soleAttempt : List (Action Nat DeskChoice DeskEvent) :=
  preparing 0 1 100 ++ creating 0 ++ [commits 0, .tick (.report bookedVm 0 100 success 60)]

/-- Whether an attempt stores a guest of the generation of its receipt. -/
def storesCurrent : {β : Type} → DeskReq β → Desk → Bool
  | _, .step (.storeUuid vm guest), d =>
    (d.files vm).any fun file => d.built guest == some (file.label vm)
  | _, _, _ => true

def currentCheck (jobs : Nat → VmId) : Interaction.Check (guestDesk deskSetting jobs) where
  reply request _ d := storesCurrent request d
  event
    | .app _, _ => false
    | _, _ => true
  permits request choice d passed := by
    cases request with
    | lock request => trivial
    | step request =>
      cases request with
      | storeUuid vm guest =>
        obtain ⟨file, found, built⟩ := (Option.any_eq_true _ _).mp passed
        exact Or.inr (Or.inr ⟨file, found, eq_of_beq built⟩)
      | _ => trivial
  mayCrash _ _ := trivial
  mayTick event d passed := by
    cases event with
    | app store => cases passed
    | _ => trivial

theorem sole_attempt_vouched :
    let W := guestDesk deskSetting fun _ => bookedVm
    let final := (run W ⟨bookedDesk, fun _ => .idle⟩ (soleAttempt ++ delivering 0)).shared
    final.deliveries.length = 1 ∧
      Vouched (run W ⟨bookedDesk, fun _ => .idle⟩ soleAttempt).shared final := by
  intro W final
  have admitted : runAdmitted W ⟨bookedDesk, fun _ => .idle⟩ (soleAttempt ++ delivering 0) :=
    (currentCheck fun _ => bookedVm).runAdmitted _ _ _ (by decide +kernel)
  exact ⟨by decide +kernel, delivered_guests_vouched (fun _ => bookedVm) bookedDesk soleAttempt
    (delivering 0) bookedDesk_unbuilt admitted⟩

def openDesk : Setting DeskReq Err Desk DeskChoice :=
  { deskSetting with permits := fun _ _ _ => True }

/-- The first attempt loses its lock while it creates its guest. The second finds
none, prepares a receipt of its own and creates another guest. The first stores
its guest, and the guest of the second reports. -/
def returningAttempt : List (Action Nat DeskChoice DeskEvent) :=
  preparing 0 1 100 ++ [.tick (.lose bookedVm)] ++ preparing 1 3 101 ++ creating 1 ++ creating 0 ++
    [commits 0, commits 1, .tick (.report bookedVm 1 101 success 60)] ++ delivering 0

theorem returning_attempt_misattributed :
    ¬ ∀ (jobs : Nat → VmId) (d : Desk) (first rest : List (Action Nat DeskChoice DeskEvent)),
      Unbuilt d → runAdmitted (guestDesk openDesk jobs) ⟨d, fun _ => .idle⟩ (first ++ rest) →
      Vouched (run (guestDesk openDesk jobs) ⟨d, fun _ => .idle⟩ first).shared
        (run (guestDesk openDesk jobs) ⟨d, fun _ => .idle⟩ (first ++ rest)).shared := by
  intro claim
  have admitted : runAdmitted (guestDesk openDesk fun _ => bookedVm) ⟨bookedDesk, fun _ => .idle⟩
      ([] ++ returningAttempt) :=
    runAdmitted_free _ (fun _ _ _ => trivial) (fun _ _ => trivial) _ (by
      intro event d member
      simp [returningAttempt, preparing, creating, delivering, commits, answers] at member
      rcases member with rfl | rfl <;> trivial) _
  have vouched := claim (fun _ => bookedVm) bookedDesk [] returningAttempt bookedDesk_unbuilt admitted
  have delivered : (run (guestDesk openDesk fun _ => bookedVm) ⟨bookedDesk, fun _ => .idle⟩
      ([] ++ returningAttempt)).shared.deliveries.map (fun delivery =>
        (delivery.guest, delivery.receipt.map (·.generation))) = [(some 1, some 1)] := by
    decide +kernel
  have label : (run (guestDesk openDesk fun _ => bookedVm) ⟨bookedDesk, fun _ => .idle⟩
      ([] ++ returningAttempt)).shared.built 1 = some ⟨bookedVm, some 0⟩ := by
    decide +kernel
  generalize (run (guestDesk openDesk fun _ => bookedVm) ⟨bookedDesk, fun _ => .idle⟩
    ([] ++ returningAttempt)).shared = final at vouched delivered label
  cases listed : final.deliveries with
  | nil => simp [listed] at delivered
  | cons delivery others =>
    simp only [listed, List.map_cons, List.cons.injEq, Prod.mk.injEq] at delivered
    obtain ⟨guest, file, token, result, tracked, held, built, _⟩ :=
      vouched.genuine delivery (by rw [listed]; exact List.mem_cons_self)
    rw [delivered.1.1] at tracked
    cases tracked
    rw [label] at built
    simp only [held, Option.map_some, Option.some.injEq] at delivered
    have first : 0 = file.generation := by
      simpa [ReceiptRow.label] using congrArg (Option.bind · Label.generation) built
    have second : file.generation = 1 := delivered.1.2
    rw [second] at first
    cases first

end HyruleCloud
