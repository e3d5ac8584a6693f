import Mathlib

/-!
The DNS records that services/mx/checks.py reads with substring tests: the DKIM selectors, the
lookups of an SPF record and the MX host that is probed. The records are in presentation format,
which is ASCII.
-/

namespace HyruleCloud.MxChecks

abbrev Text := List Char

local instance : LawfulBEq Text := inferInstance

def stripQuotes (text : Text) : Text := (text.dropWhile (· = '"')).rdropWhile (· = '"')

def lower (text : Text) : Text := text.map Char.toLower

def upper (text : Text) : Text := text.map Char.toUpper

def contains (part text : Text) : Bool := text.tails.any (part.isPrefixOf ·)

/-- `str.count` of a token that is not empty; `skip` characters still belong to the last one. -/
def occurrences (token : Text) : Nat → Text → Nat
  | _, [] => 0
  | skip + 1, _ :: rest => occurrences token skip rest
  | 0, c :: rest =>
    if token.isPrefixOf (c :: rest) then occurrences token (token.length - 1) rest + 1
    else occurrences token 0 rest

def count (token text : Text) : Nat := occurrences token 0 text

/-- The selectors that `_dkim` reports as present. -/
def dkim (lookup : Text → List Text) (target : Text) (selectors : List Text) : List Text :=
  (if selectors = [] then ["default", "selector1", "selector2", "google", "mail"].map String.toList
    else selectors).filter fun selector =>
      (lookup (selector ++ "._domainkey.".toList ++ target)).any fun value =>
        contains "v=DKIM1".toList (upper value)

inductive SpfFinding where
  | missing
  | multiple
  | record (lookupCount : Nat) (warning : Bool)
  deriving DecidableEq

def lookupCount (record : Text) : Nat :=
  (["include:", " a", " mx", "ptr", "exists:", "redirect="].map fun token =>
    count token.toList record).sum

def spfRecords (answers : List Text) : List Text :=
  (answers.map stripQuotes).filter fun value => "v=spf1".toList.isPrefixOf (lower value)

/-- `_spf` -/
def spf (answers : List Text) : SpfFinding :=
  match spfRecords answers with
  | [] => .missing
  | [record] => .record (lookupCount record) (decide (10 < lookupCount record))
  | _ => .multiple

/-- An MX answer, with the digits of its preference. -/
structure MxRecord where
  digits : List Char
  exchange : Text
  numeric : ∀ c ∈ digits, '0' ≤ c ∧ c ≤ '9'
  oneWord : exchange ≠ [] ∧ ' ' ∉ exchange

def MxRecord.text (record : MxRecord) : Text := record.digits ++ ' ' :: record.exchange

/-- `text.split()[-1].rstrip(".")` -/
def hostOf (text : Text) : Text :=
  ((text.rdropWhile (· = ' ')).rtakeWhile (· ≠ ' ')).rdropWhile (· = '.')

/-- The host that `_smtp` connects to: `sorted` compares the texts of the answers. -/
def smtpHost (target : Text) (answers : List MxRecord) : Text :=
  match (answers.map MxRecord.text).insertionSort (· ≤ ·) with
  | [] => target
  | first :: _ => hostOf first

/-! What the records say. -/

def declares (value : Text) : Bool := contains "v=dkim1".toList (lower value)

/-- The lookups that a term of an SPF record costs: a mechanism `include`, `a`, `mx`, `ptr` or
`exists` with any qualifier, or the modifier `redirect`. -/
def cost (term : Text) : Nat :=
  let directive := if ['+', '-', '~', '?'].any ([·].isPrefixOf term) then term.tail else term
  let name := lower (directive.takeWhile fun c => c.isAlphanum || c = '-' || c = '_' || c = '.')
  match directive[name.length]? with
  | some '=' => if name = "redirect".toList ∧ directive = term then 1 else 0
  | none | some ':' | some '/' =>
    if name ∈ ["include", "a", "mx", "ptr", "exists"].map String.toList then 1 else 0
  | some _ => 0

def lookups (record : Text) : Nat := ((record.splitOn ' ').tail.map cost).sum

/-- The texts without a blank that the estimate looks for. -/
def texts (term : Text) : Nat :=
  (["include:", "ptr", "exists:", "redirect="].map fun token => count token.toList term).sum

/-- What a term adds to the estimate: the texts that it holds, and one if it begins with `a` or
with `mx`. -/
def written (term : Text) : Nat :=
  texts term + (if ['a'].isPrefixOf term then 1 else 0) +
    if ['m', 'x'].isPrefixOf term then 1 else 0

/-- `int` of digits that follow `value`. -/
def number (value : Nat) (digits : List Char) : Nat :=
  digits.foldl (fun value c => 10 * value + (c.toNat - 48)) value

def MxRecord.preference (record : MxRecord) : Nat := number 0 record.digits

def MxRecord.host (record : MxRecord) : Text := record.exchange.rdropWhile (· = '.')

/-! The estimate, term by term. -/

theorem texts_eq (term : Text) : texts term = count "include:".toList term +
    count "ptr".toList term + count "exists:".toList term + count "redirect=".toList term := by
  simp only [texts, List.map_cons, List.map_nil, List.sum_cons, List.sum_nil, Nat.add_zero,
    Nat.add_assoc]

def spaced (words : List Text) : Text := words.flatMap (' ' :: ·)

theorem intercalate_spaced (word : Text) (rest : List Text) :
    [' '].intercalate (word :: rest) = word ++ spaced rest := by
  induction rest generalizing word with
  | nil => simp [spaced]
  | cons next rest ih =>
    rw [List.intercalate_cons_cons, ih]
    simp [spaced]

theorem spaced_head (words : List Text) :
    spaced words = [] ∨ ∃ rest, spaced words = ' ' :: rest := by
  cases words with
  | nil => exact Or.inl rfl
  | cons word rest => exact Or.inr ⟨_, rfl⟩

section
variable {token : Text} (solid : ' ' ∉ token)
include solid

theorem prefix_word (word : Text) (words : List Text) :
    token.isPrefixOf (word ++ spaced words) = token.isPrefixOf word := by
  induction token generalizing word with
  | nil => rfl
  | cons c token ih =>
    cases word with
    | nil =>
      rcases spaced_head words with empty | ⟨rest, starts⟩
      · rw [empty, List.append_nil]
      · have apart : (c == ' ') = false := beq_false_of_ne fun same => solid (by simp [same])
        rw [starts, List.nil_append, List.isPrefixOf_cons_cons, apart]
        rfl
    | cons d word =>
      have next := ih (fun among => solid (List.mem_cons_of_mem _ among)) word
      simp only [List.cons_append, List.isPrefixOf_cons_cons, next]

theorem occurrences_word (words : List Text) (word : Text) (skip : Nat)
    (within : skip ≤ word.length) :
    occurrences token skip (word ++ spaced words) =
      occurrences token skip word + count token (spaced words) := by
  induction word generalizing skip with
  | nil =>
    obtain rfl : skip = 0 := Nat.le_zero.mp within
    simp [occurrences, count]
  | cons c word ih =>
    cases skip with
    | succ skip => exact ih skip (Nat.le_of_succ_le_succ within)
    | zero =>
      have same := prefix_word solid (c :: word) words
      rw [List.cons_append] at same ⊢
      simp only [occurrences, same]
      split
      · rename_i found
        have short := (List.isPrefixOf_iff_prefix.mp found).length_le
        rw [List.length_cons] at short
        rw [ih _ (by omega)]
        omega
      · exact ih 0 (Nat.zero_le _)

omit solid in
/-- A text that starts with a blank is found where a term begins, and nowhere else. -/
theorem occurrences_gap (words : List Text) (word : Text) (blank : ' ' ∉ word) (skip : Nat)
    (within : skip ≤ word.length) :
    occurrences (' ' :: token) skip (word ++ spaced words) =
      count (' ' :: token) (spaced words) := by
  induction word generalizing skip with
  | nil =>
    obtain rfl : skip = 0 := Nat.le_zero.mp within
    rfl
  | cons c word ih =>
    have inner : ' ' ∉ word := fun among => blank (List.mem_cons_of_mem _ among)
    cases skip with
    | succ skip => exact ih inner skip (Nat.le_of_succ_le_succ within)
    | zero =>
      have apart : (' ' == c) = false := beq_false_of_ne fun same => blank (by simp [← same])
      rw [List.cons_append, occurrences, List.isPrefixOf_cons_cons, apart, Bool.false_and,
        if_neg Bool.false_ne_true]
      exact ih inner 0 (Nat.zero_le _)

theorem count_words (found : token ≠ []) (words : List Text) :
    count token (spaced words) = (words.map (count token)).sum := by
  induction words with
  | nil => rfl
  | cons word rest ih =>
    have apart : token.isPrefixOf (' ' :: (word ++ spaced rest)) = false := by
      cases token with
      | nil => exact absurd rfl found
      | cons c token =>
        have apart : (c == ' ') = false := beq_false_of_ne fun same => solid (by simp [same])
        rw [List.isPrefixOf_cons_cons, apart, Bool.false_and]
    have start : spaced (word :: rest) = ' ' :: (word ++ spaced rest) := rfl
    rw [start, count, occurrences, apart, if_neg Bool.false_ne_true,
      occurrences_word solid rest word 0 (Nat.zero_le _), ih, List.map_cons, List.sum_cons]
    rfl

theorem count_starts (words : List Text) (blank : ∀ word ∈ words, ' ' ∉ word) :
    count (' ' :: token) (spaced words) =
      (words.map fun word => if token.isPrefixOf word then 1 else 0).sum := by
  induction words with
  | nil => rfl
  | cons word rest ih =>
    have here := blank word List.mem_cons_self
    have later := ih fun other among => blank other (List.mem_cons_of_mem _ among)
    have start : spaced (word :: rest) = ' ' :: (word ++ spaced rest) := rfl
    have same := prefix_word solid word rest
    rw [start, count, occurrences, List.isPrefixOf_cons_cons, same, List.map_cons, List.sum_cons,
      ← later]
    by_cases begins : token.isPrefixOf word = true
    · have short := (List.isPrefixOf_iff_prefix.mp begins).length_le
      simp only [begins, beq_self_eq_true, Bool.and_self, if_true]
      rw [List.length_cons, Nat.add_sub_cancel, occurrences_gap rest word here _ short,
        Nat.add_comm]
    · simp only [begins, beq_self_eq_true, Bool.and_false, Bool.false_eq_true, if_false]
      rw [occurrences_gap rest word here 0 (Nat.zero_le _), Nat.zero_add]

end

theorem lookupCount_written (version : Text) (terms : List Text)
    (blank : ∀ word ∈ version :: terms, ' ' ∉ word) :
    lookupCount ([' '].intercalate (version :: terms)) =
      texts version + (terms.map written).sum := by
  have inside : ∀ token : Text, ' ' ∉ token → token ≠ [] →
      count token (version ++ spaced terms) =
        count token version + (terms.map (count token)).sum := by
    intro token solid found
    rw [count, occurrences_word solid terms version 0 (Nat.zero_le _), count_words solid found]
    rfl
  have starts : ∀ token : Text, ' ' ∉ token → count (' ' :: token) (version ++ spaced terms) =
      (terms.map fun word => if token.isPrefixOf word then 1 else 0).sum := by
    intro token solid
    rw [count, occurrences_gap terms version (blank version List.mem_cons_self) 0 (Nat.zero_le _),
      count_starts solid terms fun word among => blank word (List.mem_cons_of_mem _ among)]
  rw [intercalate_spaced, lookupCount]
  simp only [List.map_cons, List.map_nil, List.sum_cons, List.sum_nil, Nat.add_zero]
  have blanks : (" a".toList = [' ', 'a']) ∧ " mx".toList = [' ', 'm', 'x'] := by decide
  rw [blanks.1, blanks.2, starts _ (by decide), starts _ (by decide)]
  repeat rw [inside _ (by decide) (by decide)]
  have parts : (terms.map written).sum = (terms.map (count "include:".toList)).sum +
      (terms.map (count "ptr".toList)).sum + (terms.map (count "exists:".toList)).sum +
      (terms.map (count "redirect=".toList)).sum +
      (terms.map fun word => if ['a'].isPrefixOf word then 1 else 0).sum +
      (terms.map fun word => if ['m', 'x'].isPrefixOf word then 1 else 0).sum := by
    clear blank inside starts
    induction terms with
    | nil => rfl
    | cons word rest ih =>
      simp only [List.map_cons, List.sum_cons, ih, written, texts_eq]
      omega
  rw [parts, texts_eq]
  omega

/-! The probed host. -/

theorem number_less {a b : Nat} (less : a < b) {first second : List Char}
    (same : first.length = second.length) (numeric : ∀ c ∈ first, '0' ≤ c ∧ c ≤ '9') :
    number a first < number b second := by
  induction first generalizing second a b with
  | nil =>
    obtain rfl : second = [] := List.length_eq_zero_iff.mp same.symm
    exact less
  | cons c first ih =>
    cases second with
    | nil => cases same
    | cons d second =>
      have small : c.toNat ≤ 57 := (numeric c List.mem_cons_self).2
      have next : 10 * a + (c.toNat - 48) < 10 * b + (d.toNat - 48) := by omega
      exact ih next (by simpa using same)
        fun other among => numeric other (List.mem_cons_of_mem _ among)

theorem number_order {first second x y : List Char} (a : Nat) (same : first.length = second.length)
    (numeric : ∀ c ∈ first, '0' ≤ c ∧ c ≤ '9') (order : first ++ x ≤ second ++ y) :
    number a first ≤ number a second := by
  induction first generalizing second a with
  | nil =>
    obtain rfl : second = [] := List.length_eq_zero_iff.mp same.symm
    exact Nat.le_refl _
  | cons c first ih =>
    cases second with
    | nil => cases same
    | cons d second =>
      have rest := fun other among => numeric other (List.mem_cons_of_mem _ among)
      have heads : c < d ∨ c = d ∧ first ++ x ≤ second ++ y := by
        rcases order.lt_or_eq with less | equal
        · exact (List.cons_lt_cons_iff.mp less).imp_right fun later => ⟨later.1, later.2.le⟩
        · obtain ⟨here, later⟩ := List.cons.inj equal
          exact Or.inr ⟨here, later.le⟩
      have lengths : first.length = second.length := by simpa using same
      rcases heads with less | ⟨rfl, later⟩
      · have below : c.toNat < d.toNat := less
        have low : 48 ≤ c.toNat := (numeric c List.mem_cons_self).1
        have next : 10 * a + (c.toNat - 48) < 10 * a + (d.toNat - 48) := by omega
        exact (number_less next lengths rest).le
      · exact ih _ lengths rest later

theorem host_text (record : MxRecord) : hostOf record.text = record.host := by
  obtain ⟨named, solid⟩ := record.oneWord
  have last : record.text.rdropWhile (· = ' ') = record.text := by
    obtain ⟨start, c, ends⟩ := List.eq_nil_or_concat record.exchange |>.resolve_left named
    have apart : c ≠ ' ' := fun same => solid (by simp [ends, same])
    rw [MxRecord.text, ends, List.concat_eq_append, ← List.cons_append, ← List.append_assoc,
      List.rdropWhile_concat_neg _ _ _ (by simpa using apart)]
  have word : record.text.rtakeWhile (· ≠ ' ') = record.exchange := by
    rw [List.rtakeWhile, MxRecord.text, List.reverse_append, List.reverse_cons, List.append_assoc,
      List.takeWhile_append_of_pos]
    · simp
    · intro c among
      simpa using fun same : c = ' ' => solid (same ▸ List.mem_reverse.mp among)
  rw [hostOf, last, word]
  rfl

theorem smtp_lowest {target : Text} {answers : List MxRecord} {width : Nat} (some : answers ≠ [])
    (wide : ∀ record ∈ answers, record.digits.length = width) :
    ∃ record ∈ answers, smtpHost target answers = record.host ∧
      ∀ other ∈ answers, record.preference ≤ other.preference := by
  have sorted := List.pairwise_insertionSort (· ≤ ·) (answers.map MxRecord.text)
  have same := List.perm_insertionSort (· ≤ ·) (answers.map MxRecord.text)
  unfold smtpHost
  split
  · rename_i empty
    rw [empty] at same
    simp [some] at same
  · rename_i first rest order
    rw [order] at same sorted
    obtain ⟨record, among, rfl⟩ := List.mem_map.mp (same.mem_iff.mp List.mem_cons_self)
    refine ⟨record, among, host_text record, fun other listed => ?_⟩
    have least : record.text ≤ other.text := by
      rcases List.mem_cons.mp (same.mem_iff.mpr (List.mem_map_of_mem listed)) with equal | later
      · exact equal.ge
      · exact List.rel_of_pairwise_cons sorted later
    exact number_order 0 ((wide record among).trans (wide other listed).symm) record.numeric least

/-! The selectors. -/

theorem contains_map {part text : Text} (f : Char → Char) (found : contains part text = true) :
    contains (part.map f) (text.map f) = true := by
  simp only [contains, List.any_eq_true, List.mem_tails, List.isPrefixOf_iff_prefix] at found ⊢
  obtain ⟨rest, ends, begins⟩ := found
  exact ⟨rest.map f, ends.map f, begins.map f⟩

theorem dkim_declared {lookup : Text → List Text} {target : Text} {selectors : List Text}
    {selector : Text} (present : selector ∈ dkim lookup target selectors) :
    ∃ value ∈ lookup (selector ++ "._domainkey.".toList ++ target), declares value := by
  obtain ⟨value, answered, found⟩ := List.any_eq_true.mp (List.mem_filter.mp present).2
  refine ⟨value, answered, ?_⟩
  have lowered := contains_map Char.toLower found
  have same : (upper value).map Char.toLower = lower value := by
    simp [upper, lower, Function.comp_def]
  rwa [same] at lowered

/-- What the three checks say of their answers. -/
structure ChecksSound (lookup : Text → List Text) (target : Text) (selectors answers : List Text)
    (exchanges : List MxRecord) : Prop where
  dkim : ∀ selector ∈ dkim lookup target selectors,
    ∃ value ∈ lookup (selector ++ "._domainkey.".toList ++ target), declares value
  spf : ∀ version terms, (∀ word ∈ version :: terms, ' ' ∉ word) →
    spfRecords answers = [[' '].intercalate (version :: terms)] →
    let estimate := texts version + (terms.map written).sum
    spf answers = .record estimate (decide (10 < estimate)) ∧
      (texts version = 0 → (∀ term ∈ terms, written term = cost term) →
        estimate = lookups ([' '].intercalate (version :: terms)))
  smtp : ∀ width, exchanges ≠ [] → (∀ record ∈ exchanges, record.digits.length = width) →
    ∃ record ∈ exchanges, smtpHost target exchanges = record.host ∧
      ∀ other ∈ exchanges, record.preference ≤ other.preference

end HyruleCloud.MxChecks
