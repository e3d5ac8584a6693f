import HyruleCloud.BlocklistRules
import HyruleCloud.Precedence
import Mathlib.Data.Prod.Lex
import Mathlib.Data.Multiset.Filter
import Mathlib.Data.Multiset.ZeroCons
import Mathlib.Logic.Function.Basic

/-!
The compiled rules of the blocklist sources and the check of a domain against them,
services/dns/blocklists.py. The table ignores a rule whose source, domain, match kind and
action it has already; `important` is not part of that key.
-/

namespace HyruleCloud.Blocklists

open Precedence

abbrev SourceId := Nat

local instance : LawfulBEq Text := inferInstance

/-- A row of `rules`. -/
structure RuleRow where
  sourceId : SourceId
  rule : ParsedRule

def ParsedRule.key (rule : ParsedRule) : Text × MatchKind × RuleAction :=
  (rule.domain, rule.matchKind, rule.action)

def RuleRow.key (row : RuleRow) : SourceId × Text × MatchKind × RuleAction :=
  (row.sourceId, row.rule.key)

/-! `compile_snapshot` -/

structure Compiling where
  table : List RuleRow
  batch : List RuleRow

/-- `executemany("INSERT OR IGNORE ..")` -/
def Compiling.flush (compiling : Compiling) : Compiling :=
  ⟨compiling.batch.foldl (insertNew RuleRow.key) compiling.table, []⟩

def Compiling.add (compiling : Compiling) (row : RuleRow) : Compiling :=
  let added : Compiling := ⟨compiling.table, compiling.batch ++ [row]⟩
  if 10000 ≤ added.batch.length then added.flush else added

def compileSource (table rows : List RuleRow) : List RuleRow :=
  (rows.foldl Compiling.add ⟨table, []⟩).flush.table

abbrev SourceFiles := List (SourceId × List Text)

def compileSnapshot (python : PythonText) (files : SourceFiles) : List RuleRow :=
  files.foldl (fun table file =>
    compileSource table ((parsedRules python file.2).map (RuleRow.mk file.1))) []

/-! `_check_sync` -/

inductive SourceStatus where
  | ok | info | stale | degraded | unavailable | error | unknown | disabled | notConfigured
  | sourceNotConfigured | rateLimited
  deriving DecidableEq

def SourceStatus.usable (status : SourceStatus) : Bool := status ∈ [.ok, .stale, .degraded]

inductive SourceOutcome where
  | listed | notListed | excepted | unavailable
  deriving DecidableEq

inductive Verdict where
  | listed | notListed | inconclusive

structure SourceInfo where
  sourceId : SourceId
  status : SourceStatus

structure SourceResult where
  sourceId : SourceId
  outcome : SourceOutcome
  matchedDomain : Option Text
  matchKind : Option MatchKind
  sourceStatus : SourceStatus

structure CheckResponse where
  verdict : Verdict
  checkedSourceCount : Nat
  matchedSourceCount : Nat
  requiredSourceCount : Nat
  results : List SourceResult
  isPartial : Bool

/-- `normalized.endswith("." + domain)` -/
def endsWith (normalized domain : Text) : Bool := ('.' :: domain).isSuffixOf normalized

def applies (normalized : Text) (rule : ParsedRule) : Bool :=
  !(rule.matchKind = .exact && rule.domain ≠ normalized) &&
    !(rule.matchKind = .wildcard && rule.domain = normalized) &&
    !(normalized ≠ rule.domain && !endsWith normalized rule.domain)

def rank (row : RuleRow) : Nat ×ₗ Nat ×ₗ Bool ×ₗ Bool :=
  toLex (row.rule.domain.count '.', toLex (row.rule.domain.length,
    toLex (row.rule.important, decide (row.rule.action = .allow))))

def considerRow (normalized : Text) (best : SourceId → Option RuleRow) (row : RuleRow) :
    SourceId → Option RuleRow :=
  if applies normalized row.rule then
    Function.update best row.sourceId (improve rank (best row.sourceId) row)
  else best

def bestMatches (normalized : Text) (rows : List RuleRow) : SourceId → Option RuleRow :=
  rows.foldl (considerRow normalized) fun _ => none

def sourceResult (best : SourceId → Option RuleRow) (info : SourceInfo) : SourceResult :=
  if info.status.usable then
    match best info.sourceId with
    | none => ⟨info.sourceId, .notListed, none, none, info.status⟩
    | some row => ⟨info.sourceId, if row.rule.action = .allow then .excepted else .listed,
        some row.rule.domain, some row.rule.matchKind, info.status⟩
  else ⟨info.sourceId, .unavailable, none, none, info.status⟩

/-- `rows` are those of the SELECT. -/
def checkRows (infos : List SourceInfo) (rows : List RuleRow) (normalized : Text) :
    CheckResponse :=
  let results := infos.map (sourceResult (bestMatches normalized rows))
  let matchedCount := results.countP (·.outcome = .listed)
  let isPartial := infos.any (·.status ≠ .ok)
  { verdict := if 0 < matchedCount then .listed
      else if isPartial then .inconclusive
      else .notListed
    checkedSourceCount := infos.countP (·.status.usable)
    matchedSourceCount := matchedCount
    requiredSourceCount := infos.length
    results := results
    isPartial := isPartial }

def selectRows (table : List RuleRow) (normalized : Text) : List RuleRow :=
  table.filter fun row => row.rule.domain ∈ domainSuffixes normalized

/-! What the rules say, whatever their order. -/

def specificity (rule : ParsedRule) : Nat := (labels rule.domain).length

def mostSpecific (rules : Multiset ParsedRule) (normalized : Text) : Multiset ParsedRule :=
  rules.filter fun rule => applies normalized rule = true ∧
    ∀ other ∈ rules, applies normalized other = true → specificity other ≤ specificity rule

/-- Among the most specific rules the important ones decide, if there are any; an exception
wins over a block. -/
def referenceOutcome (rules : Multiset ParsedRule) (normalized : Text) : SourceOutcome :=
  let top := mostSpecific rules normalized
  let important := top.filter fun rule => rule.important = true
  let deciding := if important = 0 then top else important
  if top = 0 then .notListed
  else if deciding.filter (fun rule => rule.action = .allow) = 0 then .listed
  else .excepted

def rulesOf (python : PythonText) (files : SourceFiles) (source : SourceId) : List ParsedRule :=
  (files.filter (·.1 = source)).flatMap fun file => parsedRules python file.2

def firstImportant (rules : List ParsedRule) (rule : ParsedRule) : Bool :=
  (rules.find? fun other => other.key = rule.key).any (·.important)

/-- Where an exception meets an important block at the most specific domain: if the first line
of such a block is important, so is the first line of an exception, unless no exception is
important; otherwise some exception is important. -/
def Unhidden (rules : List ParsedRule) (normalized : Text) : Prop :=
  let top := mostSpecific rules normalized
  (∃ rule ∈ top, rule.action = .allow) →
    (∃ rule ∈ top, rule.action = .block ∧ rule.important = true) →
      ((∃ rule ∈ top, rule.action = .block ∧ firstImportant rules rule = true) →
        (∃ rule ∈ top, rule.action = .allow ∧ rule.important = true) →
          ∃ rule ∈ top, rule.action = .allow ∧ firstImportant rules rule = true) ∧
      ((∀ rule ∈ top, rule.action = .block → firstImportant rules rule = false) →
        ∃ rule ∈ top, rule.action = .allow ∧ rule.important = true)

/-! The table keeps the first of each key. -/

section Compile

variable {python : PythonText} {files : SourceFiles} {table rows : List RuleRow}

theorem compileSource_eq (table rows : List RuleRow) :
    compileSource table rows = rows.foldl (insertNew RuleRow.key) table := by
  have batches : ∀ (rows : List RuleRow) (compiling : Compiling),
      (rows.foldl Compiling.add compiling).flush.table =
        rows.foldl (insertNew RuleRow.key) compiling.flush.table := by
    intro rows
    induction rows with
    | nil => exact fun _ => rfl
    | cons row rest ih =>
      intro compiling
      rw [List.foldl_cons, List.foldl_cons, ih]
      have flushed : (compiling.add row).flush.table =
          insertNew RuleRow.key compiling.flush.table row := by
        unfold Compiling.add
        dsimp only
        split
        · simp [Compiling.flush]
        · simp [Compiling.flush]
      rw [flushed]
  exact batches rows ⟨table, []⟩

def allRows (python : PythonText) (files : SourceFiles) : List RuleRow :=
  files.flatMap fun file => (parsedRules python file.2).map (RuleRow.mk file.1)

theorem compileSnapshot_eq (python : PythonText) (files : SourceFiles) :
    compileSnapshot python files = firsts RuleRow.key (allRows python files) := by
  unfold compileSnapshot firsts allRows
  generalize ([] : List RuleRow) = table
  induction files generalizing table with
  | nil => rfl
  | cons file rest ih =>
    rw [List.foldl_cons, List.flatMap_cons, List.foldl_append, compileSource_eq]
    exact ih _

theorem rulesOf_eq (python : PythonText) (files : SourceFiles) (source : SourceId) :
    rulesOf python files source =
      ((allRows python files).filter (·.sourceId = source)).map (·.rule) := by
  unfold rulesOf allRows
  induction files with
  | nil => rfl
  | cons file rest ih =>
    rw [List.flatMap_cons, List.filter_append, List.map_append, ← ih, List.filter_cons]
    by_cases same : file.1 = source
    · simp [same, List.filter_map, Function.comp_def]
    · simp [same, List.filter_map, Function.comp_def]

theorem mem_compileSnapshot (source : SourceId) (rule : ParsedRule) :
    ⟨source, rule⟩ ∈ compileSnapshot python files ↔
      rule ∈ firsts ParsedRule.key (rulesOf python files source) := by
  rw [compileSnapshot_eq, mem_firsts, mem_firsts, rulesOf_eq, List.find?_map, List.find?_filter]
  have tests : (fun row : RuleRow => decide (decide (row.sourceId = source) = true ∧
      ((fun other : ParsedRule => decide (other.key = rule.key)) ∘ (·.rule)) row = true)) =
      fun row => decide (row.key = RuleRow.key ⟨source, rule⟩) := by
    funext row
    simp [RuleRow.key]
  rw [tests, Option.map_eq_some_iff]
  constructor
  · intro found
    exact ⟨_, found, rfl⟩
  · rintro ⟨row, found, is⟩
    have same := List.find?_some found
    simp only [decide_eq_true_eq, RuleRow.key, Prod.mk.injEq] at same
    rw [found, ← is, ← same.1]

end Compile

section Applies

variable {normalized : Text} {rule other : ParsedRule}

theorem endsWith_iff {domain : Text} :
    endsWith normalized domain = true ↔ ∃ before, normalized = before ++ '.' :: domain := by
  unfold endsWith
  rw [List.isSuffixOf_iff_suffix]
  constructor
  · rintro ⟨before, is⟩
    exact ⟨before, is.symm⟩
  · rintro ⟨before, is⟩
    exact ⟨before, is.symm⟩

theorem applies_ends (applied : applies normalized rule = true) :
    normalized = rule.domain ∨ ∃ before, normalized = before ++ '.' :: rule.domain := by
  rw [← endsWith_iff]
  unfold applies at applied
  by_cases same : normalized = rule.domain
  · exact Or.inl same
  · cases ends : endsWith normalized rule.domain with
    | true => exact Or.inr rfl
    | false => simp [same, ends] at applied

theorem applies_selected (applied : applies normalized rule = true)
    (two : 2 ≤ (labels rule.domain).length) : rule.domain ∈ domainSuffixes normalized := by
  rcases applies_ends applied with same | ⟨before, same⟩
  · rw [same]
    exact (@mem_domainSuffixes [] rule.domain two).1
  · rw [same]
    exact (mem_domainSuffixes two).2

theorem applies_of_key (same : rule.key = other.key) :
    applies normalized rule = applies normalized other := by
  simp only [ParsedRule.key, Prod.mk.injEq] at same
  unfold applies
  rw [same.1, same.2.1]

theorem same_domain (applied : applies normalized rule = true)
    (too : applies normalized other = true)
    (depth : rule.domain.count '.' = other.domain.count '.') : rule.domain = other.domain := by
  -- both domains end the name, so the longer one ends with the shorter one
  have suffix : ∀ rule, applies normalized rule = true → rule.domain <:+ normalized := by
    intro rule applied
    rcases applies_ends applied with same | ⟨before, same⟩
    · exact same ▸ List.suffix_rfl
    · rw [same]
      exact ⟨before ++ ['.'], by simp⟩
  have deeper : ∀ {rule other : ParsedRule}, applies normalized rule = true →
      applies normalized other = true → rule.domain.count '.' = other.domain.count '.' →
      rule.domain.length < other.domain.length → False := by
    intro rule other applied too depth shorter
    rcases applies_ends applied with same | ⟨before, same⟩
    · have short := (suffix other too).length_le
      rw [same] at short
      omega
    · have ends : '.' :: rule.domain <:+ other.domain := by
        refine List.suffix_of_suffix_length_le ⟨before, same.symm⟩ (suffix other too) ?_
        exact shorter
      have counted := ends.sublist.count_le '.'
      rw [List.count_cons_self] at counted
      omega
  rcases Nat.lt_trichotomy rule.domain.length other.domain.length with shorter | equal | longer
  · exact absurd shorter fun less => deeper applied too depth less
  · exact List.IsSuffix.eq_of_length
      (List.suffix_of_suffix_length_le (suffix rule applied) (suffix other too) (le_of_eq equal))
      equal
  · exact absurd longer fun less => deeper too applied depth.symm less

end Applies

section Best

variable {normalized : Text} {rows : List RuleRow} {source : SourceId}

theorem bestMatches_eq (normalized : Text) (rows : List RuleRow) (source : SourceId) :
    bestMatches normalized rows source = pick rank
      (rows.filter fun row => row.sourceId = source ∧ applies normalized row.rule = true) := by
  induction rows using List.reverseRecOn with
  | nil => rfl
  | append_singleton rows row ih =>
    have step : bestMatches normalized (rows ++ [row]) =
        considerRow normalized (bestMatches normalized rows) row := by
      simp only [bestMatches, List.foldl_append, List.foldl_cons, List.foldl_nil]
    rw [step, List.filter_append]
    unfold considerRow
    by_cases applied : applies normalized row.rule = true
    · rw [if_pos applied]
      by_cases own : row.sourceId = source
      · subst own
        rw [Function.update_self, ih, List.filter_singleton]
        simp only [applied, pick, true_and, decide_true, cond_true, List.foldl_append,
          List.foldl_cons, List.foldl_nil]
      · rw [Function.update_of_ne (Ne.symm own), ih, List.filter_singleton]
        simp only [own, false_and, decide_false, cond_false, List.append_nil]
    · rw [if_neg applied, ih, List.filter_singleton]
      simp only [applied, Bool.false_eq_true, and_false, decide_false, cond_false, List.append_nil]

variable {python : PythonText} {files : SourceFiles}

theorem considered_iff (read : rows.Perm (selectRows (compileSnapshot python files) normalized))
    {row : RuleRow} :
    row ∈ rows.filter (fun row => row.sourceId = source ∧ applies normalized row.rule = true) ↔
      row.sourceId = source ∧ applies normalized row.rule = true ∧
        row.rule ∈ firsts ParsedRule.key (rulesOf python files source) := by
  rw [List.mem_filter, read.mem_iff]
  simp only [selectRows, List.mem_filter, decide_eq_true_eq]
  constructor
  · rintro ⟨⟨stored, _⟩, own, applied⟩
    refine ⟨own, applied, mem_compileSnapshot source row.rule |>.mp ?_⟩
    rw [← own]
    exact stored
  · rintro ⟨own, applied, kept⟩
    have stored := (mem_compileSnapshot source row.rule).mpr kept
    rw [← own] at stored
    refine ⟨⟨stored, applies_selected applied ?_⟩, own, applied⟩
    have listed := firsts_mem kept
    obtain ⟨file, _, parsed⟩ := List.mem_flatMap.mp listed
    exact parsedRules_labels parsed

end Best

section Deciding

variable {rules : List ParsedRule} {normalized : Text} {rule other : ParsedRule}

theorem mem_mostSpecific : rule ∈ mostSpecific rules normalized ↔
    rule ∈ rules ∧ applies normalized rule = true ∧
      ∀ other ∈ rules, applies normalized other = true → specificity other ≤ specificity rule := by
  simp only [mostSpecific, Multiset.mem_filter, Multiset.mem_coe]

theorem mostSpecific_none :
    mostSpecific rules normalized = 0 ↔ ∀ rule ∈ rules, applies normalized rule = false := by
  constructor
  · intro unmatched rule listed
    by_contra applied
    -- of the rules that apply, the one with the most labels is there
    have matched : rules.filter (applies normalized ·) ≠ [] := by
      refine List.ne_nil_of_mem (List.mem_filter.mpr ⟨listed, ?_⟩)
      simpa using applied
    obtain ⟨top, _, member, covers⟩ := @pick_top _ _ _ specificity _ matched
    rw [List.mem_filter] at member
    have stands : top ∈ mostSpecific rules normalized :=
      mem_mostSpecific.mpr ⟨member.1, member.2, fun other listed applied =>
        covers other (List.mem_filter.mpr ⟨listed, applied⟩)⟩
    rw [unmatched] at stands
    exact Multiset.notMem_zero top stands
  · intro unmatched
    refine Multiset.eq_zero_of_forall_notMem fun rule member => ?_
    have ⟨listed, applied, _⟩ := mem_mostSpecific.mp member
    rw [unmatched rule listed] at applied
    cases applied

theorem mostSpecific_first (member : rule ∈ mostSpecific rules normalized) :
    ∃ first ∈ firsts ParsedRule.key rules, first ∈ mostSpecific rules normalized ∧
      first.key = rule.key ∧ firstImportant rules rule = first.important := by
  have ⟨listed, applied, covers⟩ := mem_mostSpecific.mp member
  obtain ⟨first, kept, same⟩ := @firsts_cover _ _ _ ParsedRule.key rules rule listed
  refine ⟨first, kept, mem_mostSpecific.mpr ⟨firsts_mem kept, ?_, ?_⟩, same, ?_⟩
  · rw [applies_of_key same]
    exact applied
  · simp only [ParsedRule.key, Prod.mk.injEq] at same
    unfold specificity at covers ⊢
    rw [same.1]
    exact covers
  · have found := mem_firsts.mp kept
    rw [same] at found
    unfold firstImportant
    rw [found]
    rfl

theorem firstImportant_kept (kept : rule ∈ firsts ParsedRule.key rules) :
    firstImportant rules rule = rule.important := by
  unfold firstImportant
  rw [mem_firsts.mp kept]
  rfl

theorem action_cases (rule : ParsedRule) : rule.action = .block ∨ rule.action = .allow := by
  cases rule.action with
  | block => exact Or.inl rfl
  | allow => exact Or.inr rfl

theorem action_of_key (same : rule.key = other.key) : rule.action = other.action := by
  simp only [ParsedRule.key, Prod.mk.injEq] at same
  exact same.2.2

def Excepted (rules : List ParsedRule) (normalized : Text) (important : ParsedRule → Bool) :
    Prop :=
  (∃ rule ∈ mostSpecific rules normalized, rule.action = .allow) ∧
    ((∃ rule ∈ mostSpecific rules normalized, rule.action = .block ∧ important rule = true) →
      ∃ rule ∈ mostSpecific rules normalized, rule.action = .allow ∧ important rule = true)

theorem filter_zero {top : Multiset ParsedRule} {test : ParsedRule → Prop} [DecidablePred test] :
    top.filter test = 0 ↔ ¬ ∃ rule ∈ top, test rule := by
  rw [Multiset.filter_eq_nil]
  constructor
  · rintro unmatched ⟨rule, member, holds⟩
    exact unmatched rule member holds
  · intro unmatched rule member holds
    exact unmatched ⟨rule, member, holds⟩

theorem referenceOutcome_eq (rules : List ParsedRule) (normalized : Text)
    [Decidable (Excepted rules normalized (·.important))] :
    referenceOutcome rules normalized =
      if mostSpecific rules normalized = 0 then .notListed
      else if Excepted rules normalized (·.important) then .excepted
      else .listed := by
  unfold referenceOutcome
  by_cases unmatched : mostSpecific rules normalized = 0
  · rw [if_pos unmatched, if_pos unmatched]
  rw [if_neg unmatched, if_neg unmatched]
  by_cases plain : (mostSpecific rules normalized).filter (fun rule => rule.important = true) = 0
  · rw [if_pos plain]
    have unimportant := filter_zero.mp plain
    by_cases allowed : ∃ rule ∈ mostSpecific rules normalized, rule.action = .allow
    · rw [if_neg (fun unmatched => filter_zero.mp unmatched allowed), if_pos]
      refine ⟨allowed, fun ⟨rule, member, _, important⟩ => ?_⟩
      exact absurd ⟨rule, member, important⟩ unimportant
    · rw [if_pos (filter_zero.mpr allowed), if_neg fun excepted => allowed excepted.1]
  · rw [if_neg plain]
    have ⟨rule, member, important⟩ := not_not.mp fun unmatched => plain (filter_zero.mpr unmatched)
    by_cases allowed : ∃ rule ∈ mostSpecific rules normalized,
        rule.action = .allow ∧ rule.important = true
    · have kept := allowed
      obtain ⟨rule, member, allow, important⟩ := allowed
      rw [if_neg, if_pos]
      · exact ⟨⟨rule, member, allow⟩, fun _ => kept⟩
      · intro unmatched
        refine filter_zero.mp unmatched ⟨rule, Multiset.mem_filter.mpr ⟨member, important⟩, allow⟩
    · rw [if_pos, if_neg]
      · intro excepted
        refine allowed (excepted.2 ⟨rule, member, ?_, important⟩)
        refine (action_cases rule).resolve_right fun allow => ?_
        exact allowed ⟨rule, member, allow, important⟩
      · refine filter_zero.mpr ?_
        rintro ⟨rule, deciding, allow⟩
        have ⟨member, important⟩ := Multiset.mem_filter.mp deciding
        exact allowed ⟨rule, member, allow, important⟩

theorem Unhidden_iff : Unhidden rules normalized ↔
    (Excepted rules normalized (firstImportant rules) ↔
      Excepted rules normalized (·.important)) := by
  -- the first line of a key that decides is one of the rules that decide
  have seen : ∀ action, (∃ rule ∈ mostSpecific rules normalized,
      rule.action = action ∧ firstImportant rules rule = true) →
      ∃ rule ∈ mostSpecific rules normalized, rule.action = action ∧ rule.important = true := by
    rintro action ⟨rule, member, acts, first⟩
    obtain ⟨twin, _, stands, same, important⟩ := mostSpecific_first member
    exact ⟨twin, stands, (action_of_key same).trans acts, important ▸ first⟩
  unfold Unhidden Excepted
  dsimp only
  constructor
  · intro unhidden
    constructor
    · rintro ⟨allowed, answers⟩
      refine ⟨allowed, fun blocked => ?_⟩
      have ⟨_, unseen⟩ := unhidden allowed blocked
      by_cases hides : ∃ rule ∈ mostSpecific rules normalized,
          rule.action = .block ∧ firstImportant rules rule = true
      · exact seen _ (answers hides)
      · refine unseen fun rule member blocks => ?_
        by_contra first
        exact hides ⟨rule, member, blocks, by simpa using first⟩
    · rintro ⟨allowed, answers⟩
      refine ⟨allowed, fun blocked => ?_⟩
      have meets := seen _ blocked
      exact (unhidden allowed meets).1 blocked (answers meets)
  · intro agree allowed blocked
    constructor
    · intro kept answered
      exact (agree.mpr ⟨allowed, fun _ => answered⟩).2 kept
    · intro unseen
      refine (agree.mp ⟨allowed, ?_⟩).2 blocked
      rintro ⟨rule, member, blocks, first⟩
      rw [unseen rule member blocks] at first
      cases first

end Deciding

/-! The row that is picked, among those that are stored. -/

section Picked

variable {rules : List ParsedRule} {normalized : Text} {first second : RuleRow}

theorem rank_depth (below : rank first ≤ rank second) :
    first.rule.domain.count '.' ≤ second.rule.domain.count '.' := by
  unfold rank at below
  rw [Prod.Lex.toLex_le_toLex] at below
  rcases below with less | ⟨same, _⟩
  · exact le_of_lt less
  · exact le_of_eq same

theorem rank_flags (below : rank first ≤ rank second)
    (same : first.rule.domain = second.rule.domain) :
    (first.rule.important = true → second.rule.important = true) ∧
      (first.rule.important = second.rule.important →
        first.rule.action = .allow → second.rule.action = .allow) := by
  unfold rank at below
  rw [same] at below
  simp only [Prod.Lex.toLex_le_toLex, lt_irrefl, true_and, false_or] at below
  rcases below with less | ⟨equal, upTo⟩
  · constructor
    · intro important
      rw [important] at less
      exact absurd less (by simp)
    · intro equal
      rw [equal] at less
      exact absurd less (lt_irrefl _)
  · constructor
    · intro important
      rw [← equal]
      exact important
    · intro _ allow
      rw [allow] at upTo
      exact of_decide_eq_true (upTo (decide_eq_true rfl))

theorem picked_allow {chosen : RuleRow} (kept : chosen.rule ∈ firsts ParsedRule.key rules)
    (applied : applies normalized chosen.rule = true)
    (top : ∀ rule ∈ firsts ParsedRule.key rules, applies normalized rule = true →
      rank ⟨chosen.sourceId, rule⟩ ≤ rank chosen) :
    chosen.rule ∈ mostSpecific rules normalized ∧
      (chosen.rule.action = .allow ↔ Excepted rules normalized (firstImportant rules)) := by
  have stands : chosen.rule ∈ mostSpecific rules normalized := by
    refine mem_mostSpecific.mpr ⟨firsts_mem kept, applied, fun other listed too => ?_⟩
    obtain ⟨first, stored, same⟩ := @firsts_cover _ _ _ ParsedRule.key rules other listed
    rw [← applies_of_key same] at too
    have depth := rank_depth (top first stored too)
    simp only [ParsedRule.key, Prod.mk.injEq] at same
    unfold specificity
    rw [labels_length, labels_length, ← same.1]
    exact Nat.succ_le_succ depth
  -- a rule that decides has its first line in the table, of the same domain as the choice
  have beaten : ∀ rule ∈ mostSpecific rules normalized, ∃ first : ParsedRule,
      first.action = rule.action ∧ firstImportant rules rule = first.important ∧
        (first.important = true → chosen.rule.important = true) ∧
          (first.important = chosen.rule.important →
            first.action = .allow → chosen.rule.action = .allow) := by
    intro rule member
    obtain ⟨first, stored, deciding, same, important⟩ := mostSpecific_first member
    have ⟨listed, too, covers⟩ := mem_mostSpecific.mp deciding
    have depth : first.domain.count '.' = chosen.rule.domain.count '.' := by
      have up := covers chosen.rule (firsts_mem kept) applied
      have down := (mem_mostSpecific.mp stands).2.2 first listed too
      unfold specificity at up down
      rw [labels_length, labels_length] at up down
      omega
    have flags := rank_flags (top first stored too) (same_domain too applied depth)
    exact ⟨first, action_of_key same, important, flags.1, flags.2⟩
  refine ⟨stands, ?_⟩
  have own := firstImportant_kept kept
  constructor
  · intro allow
    refine ⟨⟨chosen.rule, stands, allow⟩, ?_⟩
    rintro ⟨rule, member, _, important⟩
    obtain ⟨first, _, same, raises, _⟩ := beaten rule member
    exact ⟨chosen.rule, stands, allow, own.trans (raises (same ▸ important))⟩
  · rintro ⟨⟨rule, member, allow⟩, answers⟩
    refine (action_cases chosen.rule).resolve_left fun block => ?_
    cases important : chosen.rule.important with
    | true =>
      obtain ⟨rule, member, allow, seen⟩ :=
        answers ⟨chosen.rule, stands, block, own.trans important⟩
      obtain ⟨first, acts, same, _, wins⟩ := beaten rule member
      have allowed := wins (same.symm.trans (seen.trans important.symm)) (acts.trans allow)
      rw [block] at allowed
      cases allowed
    | false =>
      obtain ⟨first, acts, _, raises, wins⟩ := beaten rule member
      have plain : first.important = false := by
        cases raised : first.important with
        | true =>
          rw [raises raised] at important
          cases important
        | false => rfl
      have allowed := wins (plain.trans important.symm) (acts.trans allow)
      rw [block] at allowed
      cases allowed

variable {python : PythonText} {files : SourceFiles} {rows : List RuleRow} {info : SourceInfo}

open Classical in
theorem sourceResult_eq
    (read : rows.Perm (selectRows (compileSnapshot python files) normalized))
    (usable : info.status.usable = true) :
    (sourceResult (bestMatches normalized rows) info).outcome =
      if mostSpecific (rulesOf python files info.sourceId) normalized = 0 then .notListed
      else if Excepted (rulesOf python files info.sourceId) normalized
        (firstImportant (rulesOf python files info.sourceId)) then .excepted
      else .listed := by
  unfold sourceResult
  rw [if_pos usable, bestMatches_eq]
  by_cases unmatched : mostSpecific (rulesOf python files info.sourceId) normalized = 0
  · rw [if_pos unmatched]
    have nothing : rows.filter (fun row =>
        row.sourceId = info.sourceId ∧ applies normalized row.rule = true) = [] := by
      refine List.eq_nil_iff_forall_not_mem.mpr fun row member => ?_
      have ⟨_, applied, kept⟩ := (considered_iff read).mp member
      rw [mostSpecific_none.mp unmatched _ (firsts_mem kept)] at applied
      cases applied
    rw [nothing, pick_nil]
  · rw [if_neg unmatched]
    obtain ⟨rule, deciding⟩ := Multiset.exists_mem_of_ne_zero unmatched
    obtain ⟨first, kept, stands, _⟩ := mostSpecific_first deciding
    have matched : rows.filter (fun row =>
        row.sourceId = info.sourceId ∧ applies normalized row.rule = true) ≠ [] := by
      refine List.ne_nil_of_mem ((@considered_iff _ _ _ _ _ read ⟨info.sourceId, first⟩).mpr ?_)
      exact ⟨rfl, (mem_mostSpecific.mp stands).2.1, kept⟩
    obtain ⟨chosen, picked, member, covers⟩ := @pick_top _ _ _ rank _ matched
    have ⟨own, applied, stored⟩ := (considered_iff read).mp member
    have ⟨_, allow⟩ := picked_allow stored applied fun rule kept too =>
      covers ⟨chosen.sourceId, rule⟩ ((considered_iff read).mpr ⟨own, too, kept⟩)
    rw [picked]
    simp only [allow]

end Picked

section Response

variable {python : PythonText} {files : SourceFiles} {infos : List SourceInfo}
  {rows : List RuleRow} {normalized : Text}

def expectedOutcome (python : PythonText) (files : SourceFiles) (normalized : Text)
    (info : SourceInfo) : SourceOutcome :=
  if info.status.usable then referenceOutcome (rulesOf python files info.sourceId) normalized
  else .unavailable

/-- Every source answers what its rules say just where no line hides the important one of an
earlier line with its key. -/
theorem check_answers_rules
    (read : rows.Perm (selectRows (compileSnapshot python files) normalized)) :
    (checkRows infos rows normalized).results.map (·.outcome) =
        infos.map (expectedOutcome python files normalized) ↔
      ∀ info ∈ infos, info.status.usable = true →
        Unhidden (rulesOf python files info.sourceId) normalized := by
  classical
  have one : ∀ info : SourceInfo,
      (sourceResult (bestMatches normalized rows) info).outcome =
          expectedOutcome python files normalized info ↔
        (info.status.usable = true →
          Unhidden (rulesOf python files info.sourceId) normalized) := by
    intro info
    unfold expectedOutcome
    by_cases usable : info.status.usable = true
    · rw [if_pos usable, sourceResult_eq read usable, referenceOutcome_eq, Unhidden_iff]
      by_cases unmatched : mostSpecific (rulesOf python files info.sourceId) normalized = 0
      · simp [unmatched, Excepted]
      simp only [unmatched, if_false, usable, true_implies]
      split
      · rename_i excepted
        split
        · rename_i too
          simp [excepted, too]
        · rename_i listed
          simp [excepted, listed]
      · rename_i listed
        split
        · rename_i too
          simp [listed, too]
        · rename_i too
          simp [listed, too]
    · simp [sourceResult, usable]
  unfold checkRows
  dsimp only
  rw [List.map_map, List.map_inj_left]
  exact forall₂_congr fun info _ => one info

end Response

def asciiText : PythonText where
  lower text := text.map Char.toLower
  toAscii text := some (text.map Char.toLower)
  isAddress _ := false
  isDigit := Char.isDigit
  sameWord first second := first.map Char.toLower = second.map Char.toLower

def outcomesOf (lines : List Text) (domain : Text) : List SourceOutcome :=
  (checkRows [⟨0, .ok⟩] (selectRows (compileSnapshot asciiText [(0, lines)]) domain)
    domain).results.map (·.outcome)

theorem important_block_answers_rules :
    outcomesOf ["||x.example^$important".toList, "@@||x.example^".toList] "a.x.example".toList =
      [⟨0, .ok⟩].map (expectedOutcome asciiText
        [(0, ["||x.example^$important".toList, "@@||x.example^".toList])]
        "a.x.example".toList) := by
  apply (check_answers_rules (List.Perm.refl _)).mpr
  intro info listed _
  rw [List.mem_singleton.mp listed]
  have plain : ∀ rule ∈ rulesOf asciiText
      [(0, ["||x.example^$important".toList, "@@||x.example^".toList])] 0,
      rule.action = .allow → rule.important = false := by decide +kernel
  have first : ∀ rule ∈ rulesOf asciiText
      [(0, ["||x.example^$important".toList, "@@||x.example^".toList])] 0,
      rule.important = true → firstImportant (rulesOf asciiText
        [(0, ["||x.example^$important".toList, "@@||x.example^".toList])] 0) rule = true := by
    decide +kernel
  intro _ blocked
  obtain ⟨block, deciding, blocks, important⟩ := blocked
  constructor
  · intro _ answered
    obtain ⟨rule, member, allow, raised⟩ := answered
    rw [plain rule (mem_mostSpecific.mp member).1 allow] at raised
    cases raised
  · intro unseen
    have hidden := unseen block deciding blocks
    rw [first block (mem_mostSpecific.mp deciding).1 important] at hidden
    cases hidden

/-- The table keeps the first block, which is not important, and the exception wins; with the
first two lines in the other order the block wins, as the rules say. -/
theorem plain_block_hides_important :
    outcomesOf ["||x.example^".toList, "||x.example^$important".toList, "@@||x.example^".toList]
        "x.example".toList = [.excepted] ∧
      [⟨0, .ok⟩].map (expectedOutcome asciiText
        [(0, ["||x.example^".toList, "||x.example^$important".toList, "@@||x.example^".toList])]
        "x.example".toList) = [.listed] ∧
      outcomesOf ["||x.example^$important".toList, "||x.example^".toList,
        "@@||x.example^".toList] "x.example".toList = [.listed] := by
  decide +kernel

end HyruleCloud.Blocklists
