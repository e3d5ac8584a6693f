import HyruleCloud.UnitOfWork
import Mathlib.Data.Finset.Sort
import Mathlib.Data.String.Basic

/-!
The protection of a retained guest and its restoration, providers/xcpng.py, and the manifest that
services/vm_retention.py stores. A request to XO may be lost, repeated, or lose its reply.
-/

namespace HyruleCloud.ProtectedGuests
open UnitOfWork

abbrev Blocks := UnitOfWork.Rows String String

/-- `tuple(sorted(blocks.items()))` -/
def items (blocks : Blocks) : List (String × String) :=
  blocks.keys.sort.filterMap fun key => (blocks.lookup key).map (key, ·)

def puts (items : List (String × String)) : List (Edit String String) :=
  items.map fun item => .put item.1 item.2

def dict (items : List (String × String)) : Blocks := (puts items).foldl Edit.apply ∅

structure VMProtectionManifest where
  vmUuid : String
  diskIds : List String
  snapshotIds : List String
  autoPoweron : Bool
  highAvailability : String
  blockedOperations : List (String × String)

/-- A guest as XO knows it; `disks` are those that its inventory confirms, if it is complete. -/
structure Guest where
  uuid : String
  disks : Option (List String)
  snapshots : List String
  autoPoweron : Bool
  highAvailability : String
  blocks : Blocks
  halted : Bool

/-- `capture_vm_protection`; none where it raises. -/
def capture (guest : Guest) : Option VMProtectionManifest :=
  if guest.highAvailability ∈ ["", "restart", "best-effort"] then
    guest.disks.map fun disks => ⟨guest.uuid, disks, guest.snapshots, guest.autoPoweron,
      guest.highAvailability, items guest.blocks⟩
  else none

/-- What becomes of a request: how often XO executes it, and whether its reply arrives. -/
structure Fate where
  executed : Nat
  replied : Bool

/-- What becomes of the requests of one attempt; the reads are answered or not. -/
structure Fates where
  captured : Bool
  looked : Bool
  set : Fate
  stop : Fate
  verified : Bool

/-- A call of XO, if it is needed; false where it raises. -/
def call (needed : Bool) (fate : Fate) (change : Guest → Guest) (guest : Guest) : Guest × Bool :=
  if needed then (change^[fate.executed] guest, fate.replied && fate.executed ≠ 0)
  else (guest, true)

def andThen (first : Guest × Bool) (next : Guest → Guest × Bool) : Guest × Bool :=
  if first.2 then next first.1 else first

def operations : List String := ["start", "resume", "destroy"]

def retained : String := "hyrule:retained"

/-- A missing or empty value is no block. -/
def Blocked (value : Option String) : Prop := value.getD "" ≠ ""

instance (value : Option String) : Decidable (Blocked value) := inferInstanceAs (Decidable (_ ≠ _))

def addBlocks (blocks : Blocks) : Blocks :=
  operations.foldl (fun blocks operation =>
    if Blocked (blocks.lookup operation) then blocks else blocks.insert operation retained) blocks

/-- XO applies blocked operations as a patch, in which null removes an entry. -/
def setVm (auto : Bool) (availability : String) (patch : List (Edit String String))
    (guest : Guest) : Guest :=
  { guest with
    autoPoweron := auto
    highAvailability := availability
    blocks := patch.foldl Edit.apply guest.blocks }

def sameStorage (one other : VMProtectionManifest) : Bool :=
  one.diskIds = other.diskIds && one.snapshotIds = other.snapshotIds

/-- `verify_retained_vm` -/
def verifyRetained (manifest : VMProtectionManifest) (guest : Guest) : Bool :=
  match capture guest with
  | none => false
  | some current => guest.halted && !current.autoPoweron && current.highAvailability = "" &&
      sameStorage current manifest &&
      operations.all fun operation => Blocked ((dict current.blockedOperations).lookup operation)

/-- `protect_retained_vm`; the second component says whether it returns. -/
def protect (manifest : VMProtectionManifest) (fates : Fates) (guest : Guest) : Guest × Bool :=
  match capture guest with
  | none => (guest, false)
  | some current =>
    if !fates.captured || !sameStorage current manifest then (guest, false) else
      let blocks := addBlocks (dict current.blockedOperations)
      let changes := current.autoPoweron || current.highAvailability ≠ "" ||
        dict current.blockedOperations ≠ blocks
      andThen (call changes fates.set (setVm false "" (puts (items blocks))) guest) fun guest =>
        if !fates.looked then (guest, false) else
          andThen (call (!guest.halted) fates.stop (fun guest => { guest with halted := true }) guest)
            fun guest => (guest, fates.verified && verifyRetained manifest guest)

/-- One step of the loop over a restoration's patch and the blocks that it expects. -/
def unblock (original : Blocks) (both : List (Edit String String) × Blocks) (operation : String) :
    List (Edit String String) × Blocks :=
  if both.2.lookup operation = some retained then
    let edit := (original.lookup operation).elim (.drop operation) (.put operation)
    (both.1 ++ [edit], edit.apply both.2)
  else both

/-- `restore_retained_vm` -/
def restore (manifest : VMProtectionManifest) (fates : Fates) (guest : Guest) : Guest × Bool :=
  match capture guest with
  | none => (guest, false)
  | some current =>
    if !fates.captured || !fates.looked || !guest.halted || !sameStorage current manifest then
      (guest, false) else
      let both := operations.foldl (unblock (dict manifest.blockedOperations))
        ([], dict current.blockedOperations)
      let changes := both.1 ≠ [] || current.autoPoweron ≠ manifest.autoPoweron ||
        current.highAvailability ≠ manifest.highAvailability
      andThen (call changes fates.set
        (setVm manifest.autoPoweron manifest.highAvailability both.1) guest) fun guest =>
        (guest, fates.verified && guest.halted && (capture guest).any fun restored =>
          sameStorage restored manifest && restored.autoPoweron = manifest.autoPoweron &&
          restored.highAvailability = manifest.highAvailability &&
          dict restored.blockedOperations = both.2)

inductive Attempt where
  | protect (fates : Fates)
  | restore (fates : Fates)

def Attempt.apply (manifest : VMProtectionManifest) (guest : Guest) : Attempt → Guest
  | .protect fates => (ProtectedGuests.protect manifest fates guest).1
  | .restore fates => (ProtectedGuests.restore manifest fates guest).1

def run (manifest : VMProtectionManifest) (start : Guest) (attempts : List Attempt) : Guest :=
  attempts.foldl (Attempt.apply manifest) start

/-! The record of a retention. -/

inductive Json where
  | number (value : Nat)
  | text (value : String)
  | truth (value : Bool)
  | texts (values : List String)
  | pairs (values : List (String × String))
  deriving DecidableEq

structure VMRetentionRow where
  sourceVmUuid : String
  manifest : List (String × Json)

structure VMRow where
  xcpngUuid : Option String
  ownerWallet : Option String

def payload (manifest : VMProtectionManifest) : List (String × Json) :=
  [("version", .number 2), ("mode", .text "whole_vm"), ("vm_uuid", .text manifest.vmUuid),
    ("disk_ids", .texts manifest.diskIds), ("snapshot_ids", .texts manifest.snapshotIds),
    ("auto_poweron", .truth manifest.autoPoweron),
    ("high_availability", .text manifest.highAvailability),
    ("blocked_operations", .pairs manifest.blockedOperations)]

/-- `prepare_retention`; `future` says that the deadline is one, none where it raises. -/
def prepareRetention (vm : VMRow) (existing : Option VMRetentionRow) (future : Bool)
    (manifest : VMProtectionManifest) : Option VMRetentionRow :=
  match existing with
  | some existing => if existing.manifest ≠ payload manifest then none else some existing
  | none =>
    if vm.xcpngUuid ≠ some manifest.vmUuid ∨ manifest.diskIds = [] ∨ vm.ownerWallet.getD "" = "" ∨
      !future then none
    else some ⟨manifest.vmUuid, payload manifest⟩

def storedManifest (record : VMRetentionRow) : Option VMProtectionManifest :=
  let get key := record.manifest.lookup key
  if get "version" ≠ some (.number 2) ∨ get "mode" ≠ some (.text "whole_vm") ∨
    get "vm_uuid" ≠ some (.text record.sourceVmUuid) then none
  else match get "disk_ids", get "snapshot_ids", get "auto_poweron", get "high_availability",
      get "blocked_operations" with
    | some (.texts disks), some (.texts snapshots), some (.truth auto), some (.text availability),
        some (.pairs blocks) =>
      if disks = [] then none
      else some ⟨record.sourceVmUuid, disks, snapshots, auto, availability, blocks⟩
    | _, _, _, _, _ => none

/-! What every attempt keeps. -/

theorem dict_items (blocks : Blocks) : dict (items blocks) = blocks := by
  have each : ∀ (keys : List String) (start : Blocks) (key : String), ((puts (keys.filterMap
      fun other => (blocks.lookup other).map (other, ·))).foldl Edit.apply start).lookup key =
      if key ∈ keys ∧ key ∈ blocks then blocks.lookup key else start.lookup key := by
    intro keys
    induction keys with
    | nil => simp [puts]
    | cons other rest ih =>
      intro start key
      cases here : blocks.lookup other with
      | none =>
        rw [List.filterMap_cons_none (by rw [here]; rfl), ih]
        by_cases same : key = other
        · simp [same, Finmap.lookup_eq_none.mp here]
        · simp [same]
      | some value =>
        rw [List.filterMap_cons_some (by rw [here]; rfl), puts, List.map_cons, List.foldl_cons]
        refine (ih _ key).trans ?_
        by_cases same : key = other
        · subst same
          simp [here, Edit.apply, Finmap.mem_of_lookup_eq_some here]
        · simp [same, Edit.apply]
  refine Finmap.ext_lookup fun key => (each _ ∅ key).trans ?_
  split
  · rfl
  · rename_i absent
    rw [Finset.mem_sort, Finmap.mem_keys, and_self] at absent
    rw [Finmap.lookup_empty, Finmap.lookup_eq_none.mpr absent]

variable {current : VMProtectionManifest}

theorem capture_guest {guest : Guest}
    (captured : capture guest = some current) : current.autoPoweron = guest.autoPoweron ∧
      current.highAvailability = guest.highAvailability ∧
      dict current.blockedOperations = guest.blocks := by
  unfold capture at captured
  split at captured
  · obtain ⟨disks, _, rfl⟩ := Option.map_eq_some_iff.mp captured
    exact ⟨rfl, rfl, dict_items guest.blocks⟩
  · cases captured

/-- A value is the recorded one, or Hyrule's where nothing blocked a pending operation. -/
def Fits (recorded : Blocks) (pending : List String) (key : String) (value : Option String) : Prop :=
  value = recorded.lookup key ∨
    key ∈ pending ∧ value = some retained ∧ ¬ Blocked (recorded.lookup key)

def Kept (recorded : Blocks) (pending : List String) (blocks : Blocks) : Prop :=
  ∀ key, Fits recorded pending key (blocks.lookup key)

def value : Edit String String → Option String
  | .put _ value => some value
  | .drop _ => none

section
variable {recorded blocks : Blocks} {pending : List String}

theorem edit_lookup (edit : Edit String String) (key : String) : (edit.apply blocks).lookup key =
    if key = edit.key then value edit else blocks.lookup key := by
  cases edit with
  | put other value =>
    split
    · rename_i same
      rw [same]
      exact Finmap.lookup_insert blocks
    · exact Finmap.lookup_insert_of_ne blocks ‹_›
  | drop other =>
    split
    · rename_i same
      rw [same]
      exact Finmap.lookup_erase other blocks
    · exact Finmap.lookup_erase_ne ‹_›

theorem edits_kept (edits : List (Edit String String))
    (fits : ∀ edit ∈ edits, Fits recorded pending edit.key (value edit))
    (kept : Kept recorded pending blocks) :
    Kept recorded pending (edits.foldl Edit.apply blocks) := by
  induction edits generalizing blocks with
  | nil => exact kept
  | cons edit rest ih =>
    refine ih (fun other among => fits other (List.mem_cons_of_mem _ among)) fun key => ?_
    rw [edit_lookup]
    split
    · rename_i same
      exact same ▸ fits edit List.mem_cons_self
    · exact kept key

theorem blocks_kept (kept : Kept recorded operations blocks) :
    Kept recorded operations (addBlocks blocks) := by
  have each : ∀ rest ⊆ operations, ∀ blocks, Kept recorded operations blocks →
      Kept recorded operations (rest.foldl (fun blocks operation =>
        if Blocked (blocks.lookup operation) then blocks
        else blocks.insert operation retained) blocks) := by
    intro rest among
    induction rest with
    | nil => exact fun _ kept => kept
    | cons operation rest ih =>
      obtain ⟨here, later⟩ := List.cons_subset.mp among
      intro blocks kept
      refine ih later _ ?_
      dsimp only
      split
      · exact kept
      rename_i free
      refine edits_kept [.put operation retained] ?_ kept
      rintro _ (_ | ⟨_, ⟨⟩⟩)
      refine Or.inr ⟨here, rfl, ?_⟩
      rcases kept operation with same | ⟨-, own, -⟩
      · exact same ▸ free
      · exact absurd (by rw [own]; decide) free
  exact each operations (List.Subset.refl _) blocks kept

theorem puts_fit (kept : Kept recorded pending blocks) :
    ∀ edit ∈ puts (items blocks), Fits recorded pending edit.key (value edit) := by
  intro edit among
  obtain ⟨item, listed, rfl⟩ := List.mem_map.mp among
  obtain ⟨key, -, found⟩ := List.mem_filterMap.mp listed
  obtain ⟨value, there, rfl⟩ := Option.map_eq_some_iff.mp found
  have fits := kept key
  rw [there] at fits
  exact fits

theorem unblock_value (key : String) :
    value ((recorded.lookup key).elim (.drop key) (.put key)) = recorded.lookup key ∧
      ((recorded.lookup key).elim (.drop key) (.put key) : Edit String String).key = key := by
  cases recorded.lookup key <;> exact ⟨rfl, rfl⟩

theorem restoration_fits (patch : List (Edit String String))
    (fits : ∀ edit ∈ patch, value edit = recorded.lookup edit.key)
    (kept : Kept recorded pending blocks) :
    (∀ edit ∈ (pending.foldl (unblock recorded) (patch, blocks)).1,
      value edit = recorded.lookup edit.key) ∧
      (pending.foldl (unblock recorded) (patch, blocks)).2 = recorded := by
  induction pending generalizing patch blocks with
  | nil =>
    exact ⟨fits, Finmap.ext_lookup fun key => (kept key).resolve_right fun own => by cases own.1⟩
  | cons operation rest ih =>
    rw [List.foldl_cons, unblock]
    obtain ⟨restored, same⟩ := @unblock_value recorded operation
    split
    · refine ih _ (fun edit among => ?_) fun key => ?_
      · rcases List.mem_append.mp among with before | new
        · exact fits edit before
        · rw [List.mem_singleton.mp new, restored, same]
      · rw [edit_lookup, same]
        split
        · rename_i here
          exact Or.inl (here ▸ restored)
        · rename_i apart
          exact (kept key).imp_right fun own => ⟨(List.mem_cons.mp own.1).resolve_left apart, own.2⟩
    · rename_i free
      refine ih patch fits fun key => (kept key).imp_right fun own => ⟨?_, own.2⟩
      refine (List.mem_cons.mp own.1).resolve_left fun here => free ?_
      exact here ▸ own.2.1

end

variable {first : Guest × Bool} {next : Guest → Guest × Bool}

section
variable {Holds : Guest → Prop} {guest : Guest}

theorem call_keeps {needed : Bool} {fate : Fate} {change : Guest → Guest} (holds : Holds guest)
    (each : ∀ guest, Holds guest → Holds (change guest)) :
    Holds (call needed fate change guest).1 := by
  unfold call
  split
  · simp only
    induction fate.executed with
    | zero => exact holds
    | succ count ih =>
      rw [Function.iterate_succ_apply']
      exact each _ ih
  · exact holds

theorem andThen_keeps (holds : Holds first.1)
    (each : ∀ guest, Holds guest → Holds (next guest).1) : Holds (andThen first next).1 := by
  unfold andThen
  split
  · exact each _ holds
  · exact holds

theorem andThen_returned (returned : (andThen first next).2 = true)
    (each : ∀ guest, (next guest).2 = true → Holds (next guest).1) :
    Holds (andThen first next).1 := by
  unfold andThen at returned ⊢
  split
  · rename_i went
    rw [if_pos went] at returned
    exact each _ returned
  · rename_i failed
    rw [if_neg failed] at returned
    exact absurd returned failed

variable {manifest : VMProtectionManifest} {fates : Fates}

def Guest.Kept (manifest : VMProtectionManifest) (guest : Guest) : Prop :=
  ProtectedGuests.Kept (dict manifest.blockedOperations) operations guest.blocks

theorem protect_kept (kept : guest.Kept manifest) :
    (protect manifest fates guest).1.Kept manifest := by
  unfold protect
  split
  · exact kept
  rename_i current captured
  rw [(capture_guest captured).2.2]
  split
  · exact kept
  refine andThen_keeps (call_keeps kept fun _ =>
    edits_kept _ (puts_fit (blocks_kept kept))) fun guest kept => ?_
  split
  · exact kept
  · exact andThen_keeps (call_keeps kept fun _ kept => kept) fun _ kept => kept

theorem restored (kept : guest.Kept manifest)
    (captured : capture guest = some current) :
    let both := operations.foldl (unblock (dict manifest.blockedOperations))
      ([], dict current.blockedOperations)
    (∀ edit ∈ both.1, value edit = (dict manifest.blockedOperations).lookup edit.key) ∧
      both.2 = dict manifest.blockedOperations := by
  rw [(capture_guest captured).2.2]
  exact restoration_fits [] (fun _ among => by cases among) kept

theorem restore_kept (kept : guest.Kept manifest) :
    (restore manifest fates guest).1.Kept manifest := by
  unfold restore
  split
  · exact kept
  rename_i current captured
  split
  · exact kept
  · exact andThen_keeps (call_keeps kept fun _ => edits_kept _ fun edit among =>
      Or.inl ((restored kept captured).1 edit among)) fun _ kept => kept

theorem restore_halted : (restore manifest fates guest).1.halted = guest.halted := by
  let Same := fun other : Guest => other.halted = guest.halted
  change Same (restore manifest fates guest).1
  unfold restore
  split
  · rfl
  split
  · rfl
  · exact andThen_keeps (call_keeps rfl fun _ same => same) fun _ same => same

theorem run_kept {start : Guest} (captured : capture start = some manifest)
    (attempts : List Attempt) : (run manifest start attempts).Kept manifest := by
  have each : ∀ guest : Guest, guest.Kept manifest →
      (attempts.foldl (Attempt.apply manifest) guest).Kept manifest := by
    induction attempts with
    | nil => exact fun _ kept => kept
    | cons attempt rest ih =>
      intro guest kept
      refine ih _ ?_
      cases attempt with
      | protect fates => exact protect_kept kept
      | restore fates => exact restore_kept kept
  exact each start fun key => Or.inl (by rw [(capture_guest captured).2.2])

/-! What an attempt that returns has done. -/

def Shielded (guest : Guest) : Prop :=
  ∀ operation ∈ operations, Blocked (guest.blocks.lookup operation)

def AsRecorded (manifest : VMProtectionManifest) (guest : Guest) : Prop :=
  guest.autoPoweron = manifest.autoPoweron ∧ guest.highAvailability = manifest.highAvailability ∧
    guest.blocks = dict manifest.blockedOperations

theorem protect_returns (returned : (protect manifest fates guest).2 = true) :
    Shielded (protect manifest fates guest).1 := by
  unfold protect at returned ⊢
  split at returned
  · cases returned
  split at returned
  · cases returned
  rename_i go
  rw [if_neg go]
  refine andThen_returned returned fun guest returned => ?_
  split at returned
  · cases returned
  rename_i looked
  rw [if_neg looked]
  refine andThen_returned returned fun guest returned => ?_
  have verified := (Bool.and_eq_true_iff.mp returned).2
  unfold verifyRetained at verified
  split at verified
  · cases verified
  · rename_i captured
    rw [(capture_guest captured).2.2] at verified
    simpa [Shielded] using (Bool.and_eq_true_iff.mp verified).2

theorem restore_returns (kept : guest.Kept manifest)
    (returned : (restore manifest fates guest).2 = true) :
    guest.halted = true ∧ AsRecorded manifest (restore manifest fates guest).1 := by
  unfold restore at returned ⊢
  split at returned
  · cases returned
  rename_i current captured
  split at returned
  · cases returned
  rename_i go
  rw [if_neg go]
  simp only [Bool.or_eq_true, Bool.not_eq_true', not_or, Bool.not_eq_false] at go
  refine ⟨go.1.2, andThen_returned returned fun after returned => ?_⟩
  simp only [Bool.and_eq_true, Option.any_eq_true, decide_eq_true_eq] at returned
  obtain ⟨-, found, inventory, ⟨⟨-, auto⟩, availability⟩, blocks⟩ := returned
  obtain ⟨sameAuto, sameAvailability, sameBlocks⟩ := capture_guest inventory
  refine ⟨sameAuto ▸ auto, sameAvailability ▸ availability, ?_⟩
  rw [← sameBlocks, blocks, (restored kept captured).2]

end

theorem written_stored {vm : VMRow} {future : Bool} {manifest : VMProtectionManifest}
    {record : VMRetentionRow} (written : prepareRetention vm none future manifest = some record) :
    storedManifest record = some manifest := by
  rw [prepareRetention] at written
  split at written
  · cases written
  rename_i sound
  cases written
  have disks : manifest.diskIds ≠ [] := fun none => sound (Or.inr (Or.inl none))
  simp [storedManifest, payload, List.lookup_cons, disks]

/-- A restore never wakes the guest and returns only when all is as recorded; a protect returns
only when all three operations are blocked. -/
def RetentionSound (start : Guest) (attempts : List Attempt) : Prop :=
  ∀ manifest, capture start = some manifest → ∀ fates,
    let guest := run manifest start attempts
    let after := restore manifest fates guest
    after.1.halted = guest.halted ∧
      (after.2 = true → guest.halted = true ∧ AsRecorded manifest after.1) ∧
      ((protect manifest fates guest).2 = true → Shielded (protect manifest fates guest).1)

/-- A row is written for its manifest, and reused only for the same one. -/
def StorageSound : Prop := ∀ vm future manifest first record,
  prepareRetention vm none future manifest = some first →
    storedManifest first = some manifest ∧ ∀ vm future again,
      prepareRetention vm (some first) future again = some record →
        storedManifest record = some again

theorem retention_sound (start : Guest) (attempts : List Attempt) :
    RetentionSound start attempts ∧ StorageSound := by
  constructor
  · intro manifest captured fates
    exact ⟨restore_halted, restore_returns (run_kept captured attempts), protect_returns⟩
  · intro vm future manifest first record written
    have stored := written_stored written
    refine ⟨stored, fun vm future again reused => ?_⟩
    simp only [prepareRetention] at reused written
    split at reused
    · cases reused
    rename_i same
    cases reused
    split at written
    · cases written
    cases written
    obtain ⟨uuid, disks, snapshots, auto, availability, blocks⟩ := again
    rw [stored]
    cases manifest
    simpa [payload] using same

end HyruleCloud.ProtectedGuests
