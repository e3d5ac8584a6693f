import Mathlib.Data.List.DropRight
import Mathlib.Logic.Function.Basic

/-!
What services/registry/lookup.py asks the registries about a subject, and what it reads from the
text of a WHOIS answer.
-/

namespace HyruleCloud.RegistryQueries

abbrev Text := List Char

local instance : LawfulBEq Text := inferInstance

/-- What is used of Python's texts: `splitlines`, `strip`, `lower` and `split()[0]`. -/
structure PythonText where
  lines : Text → List Text
  strip : Text → Text
  lower : Text → Text
  firstWord : Text → Text

inductive RegistrySubjectType where
  | domain
  | ip
  | ipPrefix
  | asn
  | entity
  deriving DecidableEq

/-- The value as a text, `str(subject.value)`. -/
structure RegistrySubject where
  type : RegistrySubjectType
  value : Text

def removePrefix (start text : Text) : Text :=
  if start.isPrefixOf text then text.drop start.length else text

def RegistrySubject.bare (subject : RegistrySubject) : Text :=
  removePrefix ['a', 's'] (removePrefix ['A', 'S'] subject.value)

def base (value : Text) : Text := value.takeWhile (· ≠ '/')

def rdapUrl (subject : RegistrySubject) : Text :=
  match subject.type with
  | .domain => "https://rdap.org/domain/".toList ++ subject.bare
  | .ip => "https://rdap.org/ip/".toList ++ subject.bare
  | .ipPrefix => "https://rdap.org/ip/".toList ++ base subject.bare
  | .asn => "https://rdap.org/autnum/".toList ++ subject.bare
  | .entity => "https://rdap.org/entity/".toList ++ subject.bare

/-- The query of `_whois_lookup_sync` -/
def whoisQuery (subject : RegistrySubject) : Text :=
  if subject.type = .asn then ['A', 'S'] ++ subject.bare else subject.bare

def wanted : List Text := ["registrar", "creation date", "created", "registry expiry date",
  "expiry date", "updated date", "name server", "nserver", "netname", "org-name", "orgname",
  "country", "originas", "route", "route6", "inetnum", "netrange"].map String.toList

def nameKeys : List Text := ["name server", "nserver"].map String.toList

def stored (key : Text) : Text := key.map fun c => if c = ' ' ∨ c = '-' then '_' else c

structure Parsed where
  fields : Text → Option Text := fun _ => none
  nameservers : List Text := []

def keyed (python : PythonText) (line : Text) : Option (Text × Text) :=
  if ':' ∉ line then none else
    let value := python.strip (line.dropWhile (· ≠ ':')).tail
    if value = [] then none
    else some (python.lower (python.strip (line.takeWhile (· ≠ ':'))), value)

def nameserver (python : PythonText) (value : Text) : Text :=
  python.lower ((python.firstWord value).rdropWhile (· = '.'))

def readLine (python : PythonText) (parsed : Parsed) (line : Text) : Parsed :=
  match keyed python line with
  | none => parsed
  | some (key, value) =>
    if key ∈ nameKeys then
      if nameserver python value ∈ parsed.nameservers then parsed
      else { parsed with nameservers := parsed.nameservers ++ [nameserver python value] }
    else if key ∈ wanted ∧ parsed.fields key = none then
      { parsed with fields := Function.update parsed.fields (stored key) (some value) }
    else parsed

def parseWhois (python : PythonText) (raw : Text) : Parsed :=
  (python.lines raw).foldl (readLine python) {}

/-! What is asked. -/

def Unmarked (name : Text) : Prop :=
  ¬ ['A', 'S'].isPrefixOf name = true ∧ ¬ ['a', 's'].isPrefixOf name = true

/-- The subject is called `name`; that of an AS number may have the mark in front of it. -/
def Named (subject : RegistrySubject) (name : Text) : Prop :=
  Unmarked name ∧ (subject.value = name ∨ subject.type = .asn ∧
    (subject.value = ['A', 'S'] ++ name ∨ subject.value = ['a', 's'] ++ name))

theorem bare_named {subject : RegistrySubject} {name : Text} (named : Named subject name) :
    subject.bare = name := by
  obtain ⟨⟨upper, lower⟩, given⟩ := named
  unfold RegistrySubject.bare
  rcases given with same | ⟨-, same | same⟩
  · rw [same, removePrefix, removePrefix, if_neg upper, if_neg lower]
  · rw [same, show removePrefix ['A', 'S'] (['A', 'S'] ++ name) = name from rfl, removePrefix,
      if_neg lower]
  · rw [same]
    rfl

/-- The registries are asked about the very subjects. -/
structure AsksNamed (rdapUrl whoisQuery : RegistrySubject → Text) : Prop where
  whois : ∀ subject name, Named subject name →
    whoisQuery subject = (if subject.type = .asn then ['A', 'S'] else []) ++ name
  rdap : ∀ subject name, Named subject name → ∃ path, rdapUrl subject =
    "https://rdap.org/".toList ++ path ++ if subject.type = .ipPrefix then base name else name
  apart : ∀ one other first second, one.type = other.type → Named one first → Named other second →
    (whoisQuery one = whoisQuery other → first = second) ∧
    (rdapUrl one = rdapUrl other →
      first = second ∨ one.type = .ipPrefix ∧ base first = base second)

theorem asks_named : AsksNamed rdapUrl whoisQuery where
  whois subject name named := by
    unfold whoisQuery
    rw [bare_named named]
    split
    · rfl
    · rfl
  rdap subject name named := by
    unfold rdapUrl
    rw [bare_named named]
    cases subject.type with
    | domain => exact ⟨"domain/".toList, rfl⟩
    | ip | ipPrefix => exact ⟨"ip/".toList, rfl⟩
    | asn => exact ⟨"autnum/".toList, rfl⟩
    | entity => exact ⟨"entity/".toList, rfl⟩
  apart one other first second same named named' := by
    unfold whoisQuery rdapUrl
    rw [bare_named named, bare_named named', ← same]
    constructor
    · intro asked
      split at asked
      · exact List.append_cancel_left asked
      · exact asked
    · intro asked
      cases kind : one.type <;> rw [kind] at asked
      case ipPrefix => exact Or.inr ⟨rfl, List.append_cancel_left asked⟩
      all_goals exact Or.inl (List.append_cancel_left asked)

/-! What is read. -/

section
variable {python : PythonText} {parsed : Parsed} {key line : Text}

def valueOf (python : PythonText) (key line : Text) : Option Text :=
  (keyed python line).bind fun entry => if entry.1 = key then some entry.2 else none

def valuesOf (python : PythonText) (key : Text) (lines : List Text) : List Text :=
  lines.filterMap (valueOf python key)

def nameOf (python : PythonText) (line : Text) : Option Text :=
  (keyed python line).bind fun entry =>
    if entry.1 ∈ nameKeys then some (nameserver python entry.2) else none

theorem stored_apart : ∀ key ∈ wanted, ∀ other ∈ wanted,
    (stored key = stored other → key = other) ∧
      (stored key ≠ key → stored other ≠ key) := by
  decide +kernel

theorem readLine_field (known : key ∈ wanted) (plain : key ∉ nameKeys) :
    (readLine python parsed line).fields (stored key) =
      if parsed.fields key = none then (valueOf python key line).or (parsed.fields (stored key))
      else parsed.fields (stored key) := by
  unfold readLine valueOf
  cases carried : keyed python line with
  | none => simp
  | some entry =>
    obtain ⟨other, value⟩ := entry
    by_cases same : other = key
    · subst same
      by_cases fresh : parsed.fields other = none
      · simp [plain, known, fresh]
      · simp [plain, fresh]
    · have apart : other ∈ wanted → stored key ≠ stored other :=
        fun listed equal => same ((stored_apart key known other listed).1 equal).symm
      dsimp only
      split
      · split <;> simp [same]
      split
      · rename_i taken
        simp [same, Function.update_of_ne (apart taken.1)]
      · simp [same]

theorem read_first (known : key ∈ wanted) (plain : key ∉ nameKeys) (spelled : stored key = key)
    (lines : List Text) : (lines.foldl (readLine python) parsed).fields key =
      (parsed.fields key).or (valuesOf python key lines).head? := by
  induction lines generalizing parsed with
  | nil => simp [valuesOf]
  | cons line rest ih =>
    have here : (readLine python parsed line).fields key =
        (parsed.fields key).or (valueOf python key line) := by
      rw [← spelled, readLine_field known plain, spelled]
      cases parsed.fields key <;> simp
    rw [List.foldl_cons, ih, here, Option.or_assoc]
    simp only [valuesOf, List.filterMap_cons]
    cases valueOf python key line <;> rfl

theorem read_last (known : key ∈ wanted) (plain : key ∉ nameKeys) (spelled : stored key ≠ key)
    (lines : List Text) (absent : parsed.fields key = none) :
    (lines.foldl (readLine python) parsed).fields (stored key) =
      (valuesOf python key lines).getLast?.or (parsed.fields (stored key)) := by
  induction lines generalizing parsed with
  | nil => simp [valuesOf]
  | cons line rest ih =>
    have later : (readLine python parsed line).fields key = none := by
      unfold readLine
      split
      · exact absent
      split
      · split <;> exact absent
      split
      · rename_i taken
        have apart := (stored_apart key known _ taken.1).2 spelled
        exact (Function.update_of_ne apart.symm _ _).trans absent
      · exact absent
    rw [List.foldl_cons, ih later, readLine_field known plain, if_pos absent, ← Option.or_assoc]
    simp only [valuesOf, List.filterMap_cons]
    cases valueOf python key line with
    | none => simp
    | some value => cases last : (rest.filterMap (valueOf python key)).getLast? <;>
        simp [List.getLast?_cons, last]

theorem readLine_names : (readLine python parsed line).nameservers =
    parsed.nameservers ++ ((nameOf python line).toList.removeAll parsed.nameservers) := by
  unfold readLine nameOf
  cases keyed python line with
  | none => simp
  | some entry =>
    dsimp only [Option.bind_some]
    split
    · split
      · rename_i listed
        simp [List.removeAll, listed]
      · rename_i fresh
        simp [List.removeAll, fresh]
    · split <;> simp

theorem read_names (lines seen : List Text) (known : parsed.nameservers = seen.eraseDups) :
    (lines.foldl (readLine python) parsed).nameservers =
      (seen ++ lines.filterMap (nameOf python)).eraseDups := by
  induction lines generalizing parsed seen with
  | nil => simpa using known
  | cons line rest ih =>
    have next : (readLine python parsed line).nameservers =
        (seen ++ (nameOf python line).toList).eraseDups := by
      rw [readLine_names, List.eraseDups_append, known]
      cases nameOf python line with
      | none => simp
      | some name =>
        by_cases listed : name ∈ seen <;> simp [List.removeAll, listed, List.eraseDups_cons]
    rw [List.foldl_cons, ih _ next, List.append_assoc, List.filterMap_cons]
    cases nameOf python line <;> rfl

end

/-- What the parser returns for a text. -/
structure ReadsFirst (python : PythonText) (raw : Text) : Prop where
  once : ∀ key ∈ wanted, key ∉ nameKeys → stored key = key →
    (parseWhois python raw).fields key = (valuesOf python key (python.lines raw)).head?
  single : ∀ key ∈ wanted, key ∉ nameKeys → (valuesOf python key (python.lines raw)).length ≤ 1 →
    (parseWhois python raw).fields (stored key) = (valuesOf python key (python.lines raw)).head?
  names : (parseWhois python raw).nameservers =
    ((python.lines raw).filterMap (nameOf python)).eraseDups

/-- ASCII texts of lines that end in a line feed. -/
def plainText : PythonText where
  lines text := text.splitOn '\n'
  strip text := (text.dropWhile (· = ' ')).rdropWhile (· = ' ')
  lower text := text.map Char.toLower
  firstWord text := text.takeWhile (· ≠ ' ')

end HyruleCloud.RegistryQueries
