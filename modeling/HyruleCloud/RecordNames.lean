import HyruleCloud.VmAttachments

/-!
The normal form of a record name, `normalize_record_name` of domains/validation.py, and what the
names that a zone returns address when a client sends them back.
-/

namespace HyruleCloud.Zones

open Interaction

def cleaned (rules : TextRules) (name : Text) : Text :=
  orApex (rstripDots (rules.lower (rules.strip name)))

/-- A character of a label, the point or `@`. -/
def isPlain (c : Char) : Bool := isAlnum c || c ∈ ['_', '-', '*', '.', '@']

/-- `str.strip` and `str.lower` leave what is written in these characters as it is. -/
def TextRules.Plain (rules : TextRules) : Prop :=
  ∀ text : Text, (∀ c ∈ text, isPlain c = true) → rules.lower (rules.strip text) = text

def ValidName (name : Text) : Prop :=
  (∀ label ∈ name.splitOn '.', isDnsLabel label = true) ∧
    ∀ label ∈ (name.splitOn '.').tail, label ≠ ['*']

def absolute (name zone : Text) : Text := if name = apex then zone else name ++ '.' :: zone

def spelled (name zone : Text) : Text :=
  if name = apex then zone
  else if name = zone ∨ ('.' :: zone) <:+ name then name
  else name ++ '.' :: zone

def EndsTwice (name zone : Text) : Prop :=
  name = zone ++ '.' :: zone ∨ ('.' :: zone ++ '.' :: zone) <:+ name

/-- A stored name that a response shows and a change addresses as it is, and that is the apex
in one spelling only. -/
structure Addressable (rules : TextRules) (zone name : Text) : Prop where
  returned : cleaned rules name = name
  fixed : normalizeRecordName rules name zone = .ok name
  addressed : ∀ (change : DNSChange) rrset, change.rrset.name = name →
    validateRrset rules change.rrset zone = .ok rrset →
    (change.action.edit rrset).key = ⟨name, change.rrset.type⟩
  other : name ≠ apex →
    absolute name zone ≠ zone ∧ normalizeRecordName rules name zone ≠ .ok apex

section Names
variable {rules : TextRules} {name zone normal : Text}

theorem splitOn_chars (text : Text) :
    ∀ c ∈ text, c = '.' ∨ ∃ label ∈ text.splitOn '.', c ∈ label := by
  induction text with
  | nil =>
    intro c none
    cases none
  | cons first rest ih =>
    intro c among
    rw [List.splitOn_cons_eq_if_modifyHead]
    by_cases point : first = '.'
    · subst point
      rcases List.mem_cons.mp among with here | later
      · exact Or.inl here
      · rcases ih c later with dot | ⟨label, listed, inside⟩
        · exact Or.inl dot
        · exact Or.inr ⟨label, by simp [listed], inside⟩
    · have differs : (first == '.') = false := by simpa using point
      rw [differs]
      obtain ⟨head, tail, split⟩ := List.exists_cons_of_ne_nil (List.splitOn_ne_nil '.' rest)
      rw [split] at ih ⊢
      rcases List.mem_cons.mp among with here | later
      · subst here
        exact Or.inr ⟨c :: head, List.mem_cons_self, List.mem_cons_self⟩
      · rcases ih c later with dot | ⟨label, listed, inside⟩
        · exact Or.inl dot
        rcases List.mem_cons.mp listed with first_ | other
        · subst first_
          exact Or.inr ⟨first :: label, List.mem_cons_self, List.mem_cons_of_mem _ inside⟩
        · exact Or.inr ⟨label, List.mem_cons_of_mem _ other, inside⟩

theorem label_plain {label : Text} (valid : isDnsLabel label = true) :
    label ≠ [] ∧ ∀ c ∈ label, isPlain c = true := by
  rcases Bool.or_eq_true_iff.mp valid with star | plain
  · rw [of_decide_eq_true star]
    refine ⟨List.cons_ne_nil _ _, ?_⟩
    intro c among
    rw [List.mem_singleton.mp among]
    decide
  · unfold matchesLabel at plain
    simp only [Bool.and_eq_true, List.all_eq_true, Bool.or_eq_true, decide_eq_true_eq] at plain
    obtain ⟨⟨⟨starts, _⟩, all⟩, _⟩ := plain
    refine ⟨?_, ?_⟩
    · intro empty
      subst empty
      cases starts
    · intro c among
      rcases all c among with (letter | under) | hyphen
      · simp [isPlain, letter]
      · simp [isPlain, under]
      · simp [isPlain, hyphen]

theorem validName_plain (valid : ValidName name) : ∀ c ∈ name, isPlain c = true := by
  intro c among
  rcases splitOn_chars name c among with point | ⟨label, listed, inside⟩
  · subst point
    decide
  · exact (label_plain (valid.1 label listed)).2 c inside

theorem validName_last (valid : ValidName name) : name ≠ [] ∧ rstripDots name = name := by
  have some_ : name ≠ [] := by
    intro empty
    subst empty
    have bad := valid.1 [] (by simp)
    cases bad
  refine ⟨some_, ?_⟩
  unfold rstripDots
  rw [List.rdropWhile_eq_self_iff]
  intro _ point
  have last : name = name.dropLast ++ ['.'] := by
    have split := List.dropLast_append_getLast some_
    rw [of_decide_eq_true point] at split
    exact split.symm
  have listed : [] ∈ name.splitOn '.' := by
    rw [last, List.splitOn_append_cons_self]
    simp
  have bad := valid.1 [] listed
  cases bad

theorem cleaned_valid (plain : rules.Plain) (valid : ValidName name) :
    cleaned rules name = name := by
  obtain ⟨some_, kept⟩ := validName_last valid
  unfold cleaned orApex
  rw [plain name (validName_plain valid), kept, if_neg some_]

theorem cleaned_apex (plain : rules.Plain) : cleaned rules apex = apex := by
  have kept : rules.lower (rules.strip apex) = apex := by
    apply plain
    intro c among
    rw [List.mem_singleton.mp among]
    rfl
  unfold cleaned
  rw [kept]
  rfl

theorem suffix_take {name tail : Text} (ends : tail <:+ name) :
    name.take (name.length - tail.length) ++ tail = name := by
  obtain ⟨front, is⟩ := ends
  rw [← is, List.length_append, Nat.add_sub_cancel, List.take_left]

inductive Normalizes (cleaned zone : Text) : Text → Prop where
  | own : cleaned = zone → Normalizes cleaned zone apex
  | at_ : cleaned = apex → Normalizes cleaned zone apex
  | below (front : Text) : cleaned = front ++ '.' :: zone → front = [] ∨ front = apex →
      Normalizes cleaned zone apex
  | relative : cleaned ≠ zone → ¬ ('.' :: zone) <:+ cleaned → cleaned ≠ apex → ValidName cleaned →
      Normalizes cleaned zone cleaned
  | absolute (front : Text) : cleaned ≠ zone → cleaned = front ++ '.' :: zone → front ≠ apex →
      ValidName front → Normalizes cleaned zone front

theorem validName_of_checks
    (labels : ¬ (name.splitOn '.').any (fun label => !isDnsLabel label) = true)
    (stars : ¬ (name.splitOn '.').tail.any (· = ['*']) = true) : ValidName name := by
  constructor
  · intro label listed
    by_contra bad
    exact labels (List.any_eq_true.mpr ⟨label, listed, by simp [bad]⟩)
  · intro label listed star
    exact stars (List.any_eq_true.mpr ⟨label, listed, decide_eq_true star⟩)

theorem checks_of_validName (valid : ValidName name) :
    (name.splitOn '.').any (fun label => !isDnsLabel label) = false ∧
      (name.splitOn '.').tail.any (· = ['*']) = false := by
  constructor
  · rw [List.any_eq_false]
    intro label listed
    simp [valid.1 label listed]
  · rw [List.any_eq_false]
    intro label listed
    simpa using valid.2 label listed

theorem normalizes (accepted : normalizeRecordName rules name zone = .ok normal) :
    Normalizes (cleaned rules name) zone normal := by
  have clean : orApex (rstripDots (rules.lower (rules.strip name))) = cleaned rules name := rfl
  unfold normalizeRecordName at accepted
  rw [clean] at accepted
  dsimp only at accepted
  split at accepted
  · rename_i same
    cases accepted
    exact .own same
  · rename_i other
    by_cases ends : ('.' :: zone) <:+ cleaned rules name
    · rw [if_pos (List.isSuffixOf_iff_suffix.mpr ends)] at accepted
      have split := (suffix_take ends).symm
      generalize (cleaned rules name).take _ = front at accepted split
      unfold orApex at accepted
      by_cases empty : front = []
      · rw [if_pos empty, if_pos rfl] at accepted
        cases accepted
        exact .below front split (.inl empty)
      · rw [if_neg empty] at accepted
        split at accepted
        · rename_i isApex
          rw [isApex] at accepted split
          cases accepted
          exact .below apex split (.inr rfl)
        · rename_i notApex
          split at accepted
          · cases accepted
          rename_i labels
          split at accepted
          · cases accepted
          · rename_i stars
            cases accepted
            exact .absolute _ other split notApex (validName_of_checks labels stars)
    · have no : ('.' :: zone).isSuffixOf (cleaned rules name) = false := by
        rw [Bool.eq_false_iff]
        intro yes
        exact ends (List.isSuffixOf_iff_suffix.mp yes)
      rw [no] at accepted
      simp only [Bool.false_eq_true, if_false] at accepted
      split at accepted
      · rename_i isApex
        cases accepted
        rw [isApex]
        exact .at_ rfl
      · rename_i notApex
        split at accepted
        · cases accepted
        rename_i labels
        split at accepted
        · cases accepted
        · rename_i stars
          cases accepted
          exact .relative other ends notApex (validName_of_checks labels stars)

theorem append_point_ne (front zone : Text) : front ++ '.' :: zone ≠ front := by
  intro same
  have sizes := congrArg List.length same
  simp at sizes

theorem fixed_iff (plain : rules.Plain) (valid : ValidName name) (notApex : name ≠ apex) :
    normalizeRecordName rules name zone = .ok name ↔
      name ≠ zone ∧ ¬ ('.' :: zone) <:+ name := by
  have clean : orApex (rstripDots (rules.lower (rules.strip name))) = name :=
    cleaned_valid plain valid
  constructor
  · intro accepted
    have kind := normalizes accepted
    rw [show cleaned rules name = name from clean] at kind
    cases kind with
    | own | at_ | below => exact absurd rfl notApex
    | relative other ends _ _ => exact ⟨other, ends⟩
    | absolute _ _ split _ _ => exact absurd split.symm (append_point_ne name zone)
  · intro ⟨other, ends⟩
    have no : ('.' :: zone).isSuffixOf name = false := by
      rw [Bool.eq_false_iff]
      intro yes
      exact ends (List.isSuffixOf_iff_suffix.mp yes)
    obtain ⟨labels, stars⟩ := checks_of_validName valid
    unfold normalizeRecordName
    rw [clean]
    simp only [if_neg other, no, Bool.false_eq_true, if_false, if_neg notApex, labels, stars]

theorem validateRrset_key {rrset validated : DNSRRSet}
    (accepted : validateRrset rules rrset zone = .ok validated) :
    normalizeRecordName rules rrset.name zone = .ok validated.name ∧
      validated.type = rrset.type := by
  unfold validateRrset at accepted
  split at accepted
  · cases accepted
  rename_i normal normalized
  split at accepted
  · cases accepted
  split at accepted
  · cases accepted
  · cases accepted
    exact ⟨normalized, rfl⟩

theorem addressable_of_fixed (clean : cleaned rules name = name)
    (fixed : normalizeRecordName rules name zone = .ok name) : Addressable rules zone name := by
  refine ⟨clean, fixed, ?_, ?_⟩
  · intro change rrset named accepted
    obtain ⟨normalized, type⟩ := validateRrset_key accepted
    rw [named, fixed] at normalized
    rw [action_key, DNSRRSet.key, type, ← Except.ok.inj normalized]
  · intro notApex
    refine ⟨?_, ?_⟩
    · unfold absolute
      rw [if_neg notApex]
      intro same
      have sizes := congrArg List.length same
      simp at sizes
      omega
    · rw [fixed]
      intro same
      exact notApex (Except.ok.inj same)

theorem zone_dotted {value : Text} (valid : normalizeRegistrableDomain rules value = .ok zone) :
    zone ≠ [] ∧ zone ≠ apex := by
  unfold normalizeRegistrableDomain at valid
  split at valid
  · cases valid
  dsimp only at valid
  split at valid
  · cases valid
  split at valid
  · rename_i label tld split
    split at valid
    · cases valid
    split at valid
    · cases valid
    cases valid
    constructor
    · intro empty
      rw [empty] at split
      simp at split
    · intro at_
      rw [at_] at split
      cases split
  · cases valid

theorem apex_addressable (plain : rules.Plain) (zone : Text) : Addressable rules zone apex := by
  apply addressable_of_fixed (cleaned_apex plain)
  have clean : orApex (rstripDots (rules.lower (rules.strip apex))) = apex := cleaned_apex plain
  unfold normalizeRecordName
  rw [clean]
  by_cases same : apex = zone
  · rw [if_pos same]
  have no : ('.' :: zone).isSuffixOf apex = false := by
    rw [Bool.eq_false_iff]
    intro yes
    have point := (List.isSuffixOf_iff_suffix.mp yes).subset List.mem_cons_self
    exact absurd point (by decide)
  rw [if_neg same]
  simp only [no, Bool.false_eq_true, if_false, if_true]

theorem point_suffix_append (front zone : Text) :
    ('.' :: zone ++ '.' :: zone) <:+ (front ++ '.' :: zone) ↔ ('.' :: zone) <:+ front := by
  constructor
  · intro ⟨lead, is⟩
    refine ⟨lead, ?_⟩
    rw [← List.append_assoc] at is
    exact List.append_cancel_right is
  · intro ⟨lead, is⟩
    refine ⟨lead, ?_⟩
    rw [← List.append_assoc, is]

theorem endsTwice_front (front zone : Text) :
    EndsTwice (front ++ '.' :: zone) zone ↔ front = zone ∨ ('.' :: zone) <:+ front := by
  unfold EndsTwice
  rw [point_suffix_append, List.append_left_inj]

theorem endsTwice_ends (twice : EndsTwice name zone) : ('.' :: zone) <:+ name := by
  rcases twice with is | ⟨lead, is⟩
  · exact ⟨zone, is.symm⟩
  · exact ⟨lead ++ '.' :: zone, by rw [← is, List.append_assoc]⟩

theorem endsTwice_long (twice : EndsTwice name zone) : 2 * zone.length + 1 ≤ name.length := by
  rcases twice with is | ends
  · have sizes := congrArg List.length is
    simp only [List.length_append, List.length_cons] at sizes
    omega
  · have sizes := ends.length_le
    simp only [List.length_append, List.length_cons] at sizes
    omega

/-- What a request is normalized to is addressed by itself unless the zone stands at the end of
the request twice. -/
theorem addressable_iff (plain : rules.Plain) (some_ : zone ≠ []) (named : zone ≠ apex)
    (accepted : normalizeRecordName rules name zone = .ok normal) :
    Addressable rules zone normal ↔ ¬ EndsTwice (cleaned rules name) zone := by
  have long := List.length_pos_of_ne_nil some_
  have kind := normalizes accepted
  generalize cleaned rules name = clean at kind
  cases kind with
  | own is =>
    refine iff_of_true (apex_addressable plain zone) ?_
    intro twice
    have size := endsTwice_long twice
    rw [is] at size
    omega
  | at_ is =>
    refine iff_of_true (apex_addressable plain zone) ?_
    intro twice
    have size := endsTwice_long twice
    rw [is] at size
    simp only [apex, List.length_singleton] at size
    omega
  | below front split lead =>
    refine iff_of_true (apex_addressable plain zone) ?_
    rw [split, endsTwice_front]
    rcases lead with empty | isApex
    · subst empty
      rintro (is | ends)
      · exact some_ is.symm
      · have size := ends.length_le
        simp at size
    · subst isApex
      rintro (is | ends)
      · exact named is.symm
      · have size := ends.length_le
        simp only [apex, List.length_cons, List.length_nil] at size
        omega
  | relative other ends notApex valid =>
    refine iff_of_true ?_ fun twice => ends (endsTwice_ends twice)
    exact addressable_of_fixed (cleaned_valid plain valid)
      ((fixed_iff plain valid notApex).mpr ⟨other, ends⟩)
  | absolute front other split notApex valid =>
    rw [split, endsTwice_front, not_or, ← fixed_iff plain valid notApex]
    exact ⟨fun addressable => addressable.fixed,
      addressable_of_fixed (cleaned_valid plain valid)⟩

theorem apex_spelled (accepted : normalizeRecordName rules name zone = .ok normal)
    (is : spelled (cleaned rules name) zone = zone) : normal = apex := by
  have kind := normalizes accepted
  generalize cleaned rules name = clean at kind is
  unfold spelled at is
  cases kind with
  | own | at_ | below => rfl
  | relative other ends notApex _ =>
    rw [if_neg notApex, if_neg (by simp [other, ends])] at is
    have sizes := congrArg List.length is
    simp only [List.length_append, List.length_cons] at sizes
    omega
  | absolute _ other split _ _ =>
    by_cases isApex : clean = apex
    · rw [isApex] at split
      have points := congrArg (fun text : Text => decide ('.' ∈ text)) split
      simp [apex] at points
    · rw [if_neg isApex, if_pos (Or.inr ⟨normal, split.symm⟩)] at is
      exact absurd is other

end Names

def namesOnce (rules : TextRules) (step : ZoneStep) (_ : ZoneDesk) : Prop :=
  match step with
  | .changeset call _ _ => ∀ fqdn, normalizeRegistrableDomain rules call.domain = .ok fqdn →
      ∀ change ∈ call.changes, ¬ EndsTwice (cleaned rules change.rrset.name) fqdn
  | _ => True

def onceNamed (rules : TextRules) (limits : ZoneLimits) : Protocol ZoneDesk ZoneStep :=
  ⟨zoneStep rules limits, namesOnce rules⟩

/-- Every record that `get_zone` returns is addressed by its name and type. -/
def StoredAddressable (rules : TextRules) (desk : ZoneDesk) : Prop :=
  ∀ fqdn, ∀ key ∈ desk.records fqdn, Addressable rules fqdn key.name

section Stored
variable {rules : TextRules} {limits : ZoneLimits} {desk : ZoneDesk} {fqdn : Text}

theorem key_apply {edit : RecordEdit} {rows : Zone} {key : RecordKey} (after : key ∈ edit.apply rows) :
    key ∈ rows ∨ key = edit.key := by
  cases edit with
  | put other row =>
    rcases Finmap.mem_insert.mp after with same | before
    · exact Or.inr same
    · exact Or.inl before
  | drop other => exact Or.inl (Finmap.mem_erase.mp after).2

theorem key_fold {key : RecordKey} (edits : List RecordEdit) (rows : Zone)
    (after : key ∈ edits.foldl UnitOfWork.Edit.apply rows) :
    key ∈ rows ∨ ∃ edit ∈ edits, key = edit.key := by
  induction edits generalizing rows with
  | nil => exact Or.inl after
  | cons edit rest ih =>
    rcases ih _ after with before | ⟨other, listed, is⟩
    · rcases key_apply before with earlier | is
      · exact Or.inl earlier
      · exact Or.inr ⟨edit, List.mem_cons_self, is⟩
    · exact Or.inr ⟨other, List.mem_cons_of_mem _ listed, is⟩

theorem editsOf_names {changes : List DNSChange} {edits : List RecordEdit}
    (valid : editsOf rules fqdn changes = .ok edits) :
    ∀ edit ∈ edits, ∃ change ∈ changes,
      normalizeRecordName rules change.rrset.name fqdn = .ok edit.key.name := by
  induction changes generalizing edits with
  | nil =>
    cases valid
    intro edit none
    cases none
  | cons change rest ih =>
    unfold editsOf at valid
    split at valid
    · cases valid
    rename_i rrset accepted
    split at valid
    · cases valid
    rename_i later others
    cases valid
    intro edit listed
    rcases List.mem_cons.mp listed with here | there
    · subst here
      refine ⟨change, List.mem_cons_self, ?_⟩
      rw [action_key]
      exact (validateRrset_key accepted).1
    · obtain ⟨origin, among, normal⟩ := ih others edit there
      exact ⟨origin, List.mem_cons_of_mem _ among, normal⟩

theorem update_addressable {zone : Zone} (stored : StoredAddressable rules desk)
    (named : ∀ key ∈ zone, Addressable rules fqdn key.name) {after : ZoneDesk}
    (records : after.records = Function.update desk.records fqdn zone) :
    StoredAddressable rules after := by
  intro name key there
  rw [records] at there
  by_cases same : name = fqdn
  · subst same
    rw [Function.update_self] at there
    exact named key there
  · rw [Function.update_of_ne same] at there
    exact stored name key there

theorem pushAndCommit_addressable {β : Type} {zone : PushedZone} {delivery : Delivery}
    {raises : Err → Err} {commit : Transaction ZoneDesk β} (fate : Fate)
    (stored : StoredAddressable rules desk)
    (commits : ∀ pushed, pushed.records = desk.records → StoredAddressable rules pushed →
      ∀ after value, commit pushed = .ok (after, value) → StoredAddressable rules after) :
    StoredAddressable rules (pushAndCommit fqdn zone delivery raises commit fate desk).1 := by
  have accepted : StoredAddressable rules (desk.accept fqdn zone) := stored
  cases delivery with
  | refused error => exact stored
  | unanswered error => exact accepted
  | answered =>
    have kept : StoredAddressable rules (transact commit fate (desk.accept fqdn zone)).1 :=
      transact_keeps fate accepted (commits (desk.accept fqdn zone) rfl accepted)
    exact kept

theorem changeset_addressable (plain : rules.Plain) (stored : StoredAddressable rules desk)
    (call : ChangesetCall) (delivery : Delivery) (fate : Fate)
    (once : namesOnce rules (.changeset call delivery fate) desk) :
    StoredAddressable rules (applyChangeset rules limits call delivery fate desk).1 := by
  unfold applyChangeset
  split
  · exact stored
  · exact stored
  · rename_i fqdn domain session planned
    have admits := plan_admits planned
    obtain ⟨some_, notApex⟩ := zone_dotted admits.name
    apply pushAndCommit_addressable fate stored
    intro pushed rows pushedStored after value done
    by_cases rewrites : Rewrites rules call fqdn desk
    · have replies : commitChangeset call fqdn domain session pushed = .ok (after, value) := done
      unfold commitChangeset at replies
      split at replies
      · rename_i written flushed
        obtain ⟨edits, valid, recreates⟩ := rewrites
        obtain ⟨edits', valid', edited, _⟩ := admits.edited
        rw [valid] at valid'
        cases valid'
        rw [rows, UnitOfWork.flush_recreates edited recreates] at flushed
        cases flushed
      · split at replies
        · cases replies
          exact pushedStored
        · cases replies
    · obtain ⟨_, commits⟩ := commit_folds pushed admits rewrites rows
      rw [commits] at done
      cases done
      obtain ⟨edits, valid, edited, _⟩ := admits.edited
      obtain ⟨_, wanted⟩ :=
        UnitOfWork.edits_wanted edits (UnitOfWork.load_tracks (desk.records fqdn)) edited
      apply update_addressable pushedStored _ rfl
      intro key there
      rw [wanted] at there
      rcases key_fold edits _ there with before | ⟨edit, listed, is⟩
      · exact stored fqdn key before
      · obtain ⟨change, among, normal⟩ := editsOf_names valid edit listed
        rw [is]
        exact (addressable_iff plain some_ notApex normal).mpr (once fqdn admits.name change among)

theorem attach_addressable (plain : rules.Plain) (stored : StoredAddressable rules desk)
    (seen : Option ManagedDomain) (vm : VmId) (ipv6 : Text) (delivery : Delivery) (fate : Fate) :
    StoredAddressable rules (attachVm seen fqdn vm ipv6 delivery fate desk).1 := by
  unfold attachVm
  split
  · exact stored
  split
  · exact stored
  split
  · exact stored
  split
  · exact stored
  split
  · exact stored
  split
  · exact stored
  apply pushAndCommit_addressable fate stored
  intro pushed rows pushedStored after value done
  cases done
  apply update_addressable pushedStored _ rfl
  intro key there
  rcases Finmap.mem_insert.mp there with same | before
  · rw [same]
    exact apex_addressable plain fqdn
  · exact stored fqdn key before

theorem detach_addressable (stored : StoredAddressable rules desk)
    (seen : Option ManagedDomain) (vm : VmId) (delivery : Delivery) (fate : Fate) :
    StoredAddressable rules (detachVm seen fqdn vm delivery fate desk).1 := by
  unfold detachVm
  split
  · exact stored
  split
  · exact stored
  split
  · exact stored
  split
  · apply pushAndCommit_addressable fate stored
    intro pushed rows pushedStored after value done
    cases done
    apply update_addressable pushedStored _ rfl
    intro key there
    exact stored fqdn key (Finmap.mem_erase.mp there).2
  · apply transact_keeps fate stored
    intro after value done
    cases done
    exact update_addressable stored (fun key there => stored fqdn key there) rfl

theorem zoneStep_addressable (plain : rules.Plain) (step : ZoneStep)
    (stored : StoredAddressable rules desk) (once : namesOnce rules step desk) :
    StoredAddressable rules (zoneStep rules limits step desk) := by
  cases step with
  | changeset call delivery fate =>
    exact changeset_addressable plain stored call delivery fate once
  | claim owner value vm fate =>
    apply transact_keeps fate stored
    intro after reply done
    unfold claimVmAttachment at done
    repeat' split at done
    all_goals cases done
    all_goals exact stored
  | attach seen fqdn vm ipv6 delivery fate =>
    exact attach_addressable plain stored seen vm ipv6 delivery fate
  | detach seen fqdn vm delivery fate => exact detach_addressable stored seen vm delivery fate
  | release fqdn vm fate =>
    apply transact_keeps fate stored
    intro after reply done
    unfold releaseVmAttachmentClaim at done
    repeat' split at done
    all_goals cases done
    all_goals exact stored

end Stored

/-- A normal form is its own, and addresses what is stored under it, if and only if the request
does not end in the zone twice; so do all stored names of a run of such requests. -/
theorem names_addressable (rules : TextRules) (plain : rules.Plain) (limits : ZoneLimits) :
    (∀ value zone name normal, normalizeRegistrableDomain rules value = .ok zone →
      normalizeRecordName rules name zone = .ok normal →
      (Addressable rules zone normal ↔ ¬ EndsTwice (cleaned rules name) zone) ∧
        (spelled (cleaned rules name) zone = zone → normal = apex)) ∧
    ∀ desk steps, (∀ fqdn, desk.records fqdn = ∅) → (onceNamed rules limits).admits desk steps →
      StoredAddressable rules ((onceNamed rules limits).run desk steps) := by
  constructor
  · intro value zone name normal valid accepted
    obtain ⟨some_, notApex⟩ := zone_dotted valid
    exact ⟨addressable_iff plain some_ notApex accepted, apex_spelled accepted⟩
  · intro desk steps empty admitted
    apply (onceNamed rules limits).run_keeps _ steps desk _ admitted
    · intro step mid stored once
      exact zoneStep_addressable plain step stored once
    · intro fqdn key there
      rw [empty] at there
      exact absurd there Finmap.notMem_empty

/-! A name in zone.dev, and one that ends in zone.dev twice. -/

theorem isPlain_between {c low high : Char} (above : low ≤ c) (below : c ≤ high)
    (spaces : ¬ low ≤ ' ' ∧ ¬ low ≤ '\t' ∧ ¬ low ≤ '\r' ∧ ¬ low ≤ '\n')
    (letters : ¬ low.val ≤ 'Z'.val ∨ ¬ 'A'.val ≤ high.val) :
    c.isWhitespace = false ∧ c.isUpper = false := by
  obtain ⟨blank, tab, feed, line⟩ := spaces
  constructor
  · simp only [Char.isWhitespace, Bool.or_eq_false_iff, decide_eq_false_iff_not]
    refine ⟨⟨⟨?_, ?_⟩, ?_⟩, ?_⟩
    · rintro rfl
      exact blank above
    · rintro rfl
      exact tab above
    · rintro rfl
      exact feed above
    · rintro rfl
      exact line above
  · refine decide_eq_false ?_
    rintro ⟨fromA, toZ⟩
    rcases letters with past | before
    · exact past (UInt32.le_trans above toZ)
    · exact before (UInt32.le_trans fromA below)

theorem isPlain_kept {c : Char} (plain : isPlain c = true) :
    c.isWhitespace = false ∧ c.toLower = c := by
  have small : c.isWhitespace = false ∧ c.isUpper = false := by
    unfold isPlain isAlnum at plain
    simp only [Bool.or_eq_true, Bool.and_eq_true, decide_eq_true_eq, List.mem_cons,
      List.not_mem_nil, or_false] at plain
    rcases plain with (⟨low, high⟩ | ⟨low, high⟩) | rfl | rfl | rfl | rfl | rfl
    · exact isPlain_between low high (by decide) (by decide)
    · exact isPlain_between low high (by decide) (by decide)
    all_goals decide
  refine ⟨small.1, ?_⟩
  have notUpper := of_decide_eq_false small.2
  unfold Char.toLower
  rw [dif_neg notUpper]

theorem plainRules_plain : plainRules.Plain := by
  intro text plain
  have ends (part : Text) (inside : ∀ c ∈ part, c ∈ text) :
      part.dropWhile Char.isWhitespace = part := by
    cases part with
    | nil => rfl
    | cons first rest =>
      have solid := (isPlain_kept (plain first (inside first List.mem_cons_self))).1
      rw [List.dropWhile_cons_of_neg (by simp [solid])]
  have stripped : plainRules.strip text = text := by
    change (text.dropWhile Char.isWhitespace).rdropWhile Char.isWhitespace = text
    rw [ends text fun c among => among, List.rdropWhile,
      ends text.reverse fun c among => List.mem_reverse.mp among, List.reverse_reverse]
  rw [stripped]
  have kept : text.map Char.toLower = text.map id :=
    List.map_congr_left fun c among => (isPlain_kept (plain c among)).2
  exact kept.trans (List.map_id text)

def twice : Text := "zone.dev.zone.dev".toList

def emptyDesk : ZoneDesk := { exampleDesk with records := fun _ => ∅ }

def wwwStep : ZoneStep := .changeset
  { owner := 0
    domain := exampleFqdn
    expectedRevision := 1
    changes := [⟨.upsert, exampleRrset www '1'⟩]
    idempotencyKey := www } .answered .done

theorem names_addressable_www : Addressable plainRules exampleFqdn www ∧
    StoredAddressable plainRules ((onceNamed plainRules ⟨10, 10⟩).run emptyDesk [wwwStep]) := by
  obtain ⟨names, stored⟩ := names_addressable plainRules plainRules_plain ⟨10, 10⟩
  constructor
  · apply (names exampleFqdn exampleFqdn www www (by decide +kernel) (by decide +kernel)).1.mpr
    unfold EndsTwice
    decide +kernel
  · apply stored emptyDesk [wwwStep] (fun _ => rfl)
    refine ⟨?_, trivial⟩
    intro fqdn named change among
    have is : fqdn = exampleFqdn :=
      (Except.ok.inj (named.symm.trans (by decide +kernel :
        normalizeRegistrableDomain plainRules exampleFqdn = .ok exampleFqdn)))
    rw [is, List.mem_singleton.mp among]
    unfold EndsTwice
    decide +kernel

/-- What is stored for zone.dev.zone.dev is read as the apex when it comes back. -/
theorem names_not_addressable :
    normalizeRecordName plainRules twice exampleFqdn = .ok exampleFqdn ∧
      normalizeRecordName plainRules exampleFqdn exampleFqdn = .ok apex ∧
      ¬ Addressable plainRules exampleFqdn exampleFqdn := by
  have back : normalizeRecordName plainRules exampleFqdn exampleFqdn = .ok apex := by
    decide +kernel
  refine ⟨by decide +kernel, back, ?_⟩
  intro addressable
  exact (addressable.other (by decide +kernel)).2 back

end HyruleCloud.Zones
