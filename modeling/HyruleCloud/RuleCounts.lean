import HyruleCloud.BlocklistVerdicts
import Mathlib.Data.Finset.Card
import Mathlib.Data.Finset.Dedup

/-!
The rule counts of a blocklist source, services/dns/blocklists.py. `_rule_counts` collects the
keys of the rules in a set and `compile_snapshot` counts the rows that the table has kept.
-/

namespace HyruleCloud.Blocklists

open Precedence

abbrev RuleKey := Text × MatchKind × RuleAction

/-! `_rule_counts` -/

structure RuleCounting where
  uniqueRules : Finset RuleKey
  rejected : Nat

def isSkipped (line : Text) : Bool :=
  let stripped := strip (line.dropWhile (· = '\uFEFF'))
  stripped = [] || stripped.head?.any (· ∈ ['!', '#', '['])

def countLine (python : PythonText) (counting : RuleCounting) (line : Text) : RuleCounting :=
  if isSkipped line then counting
  else
    let parsed := parseRuleLines python line
    if parsed = [] then { counting with rejected := counting.rejected + 1 }
    else { counting with
      uniqueRules := counting.uniqueRules ∪ (parsed.map ParsedRule.key).toFinset }

def ruleCounts (python : PythonText) (lines : List Text) : Nat × Nat :=
  let counting := lines.foldl (countLine python) ⟨∅, 0⟩
  (counting.uniqueRules.card, counting.rejected)

/-! The counts of `compile_snapshot`. A source without a file is left out. -/

def sourceFiles (raw : SourceId → Option (List Text)) (sources : List SourceId) : SourceFiles :=
  sources.filterMap fun source => (raw source).map (source, ·)

/-- `SELECT COUNT(*) FROM rules WHERE source_id = ?` -/
def uniqueCount (table : List RuleRow) (source : SourceId) : Nat :=
  table.countP (·.sourceId = source)

structure CountedSnapshot where
  table : List RuleRow
  ruleCounts : List (SourceId × Nat)

def compileCounted (python : PythonText) (counted : CountedSnapshot)
    (file : SourceId × List Text) : CountedSnapshot :=
  let table := compileSource counted.table
    ((parsedRules python file.2).map (RuleRow.mk file.1))
  ⟨table, counted.ruleCounts ++ [(file.1, uniqueCount table file.1)]⟩

def countedSnapshot (python : PythonText) (files : SourceFiles) : CountedSnapshot :=
  files.foldl (compileCounted python) ⟨[], []⟩

example : ruleCounts asciiText ["! list".toList, "||x.example^".toList,
    "||X.example^$important".toList, "@@||x.example^".toList, "0.0.0.0 x.example".toList,
    "x.example##.ad".toList] = (3, 1) := by
  decide +kernel

section Counts

variable {python : PythonText} {raw : SourceId → Option (List Text)} {sources : List SourceId}

theorem skipped_parses {line : Text} (skipped : isSkipped line = true) :
    parseRuleLines python line = [] := by
  unfold isSkipped at skipped
  unfold parseRuleLines
  rw [if_pos (by simpa using skipped)]

theorem countLine_keys (python : PythonText) (counting : RuleCounting) (line : Text) :
    (countLine python counting line).uniqueRules =
      counting.uniqueRules ∪ ((parseRuleLines python line).map ParsedRule.key).toFinset := by
  unfold countLine
  dsimp only
  split
  · rename_i skipped
    simp [skipped_parses skipped]
  · split
    · rename_i rejected
      simp [rejected]
    · rfl

theorem ruleCounts_eq (python : PythonText) (lines : List Text) :
    (ruleCounts python lines).1 =
      ((parsedRules python lines).map ParsedRule.key).toFinset.card := by
  have keys : ∀ counting : RuleCounting,
      (lines.foldl (countLine python) counting).uniqueRules =
        counting.uniqueRules ∪ ((parsedRules python lines).map ParsedRule.key).toFinset := by
    induction lines with
    | nil =>
      intro counting
      simp [parsedRules]
    | cons line rest ih =>
      intro counting
      rw [List.foldl_cons, ih, countLine_keys, Finset.union_assoc, ← List.toFinset_append,
        ← List.map_append]
      rfl
  unfold ruleCounts
  dsimp only
  rw [keys, Finset.empty_union]

theorem uniqueCount_eq (python : PythonText) (files : SourceFiles) (source : SourceId) :
    uniqueCount (compileSnapshot python files) source =
      ((rulesOf python files source).map ParsedRule.key).toFinset.card := by
  have distinct : (((compileSnapshot python files).filter (·.sourceId = source)).map
      fun row => row.rule.key).Nodup := by
    have nodup := firsts_nodup RuleRow.key (allRows python files)
    rw [← compileSnapshot_eq] at nodup
    refine List.Nodup.map_on ?_ (nodup.of_map.filter _)
    intro row kept other too same
    have own := (List.mem_filter.mp kept)
    have another := (List.mem_filter.mp too)
    refine List.inj_on_of_nodup_map nodup own.1 another.1 ?_
    unfold RuleRow.key
    rw [same, of_decide_eq_true own.2, of_decide_eq_true another.2]
  rw [uniqueCount, List.countP_eq_length_filter, ← List.length_map,
    ← List.toFinset_card_of_nodup distinct]
  congr 1
  ext key
  simp only [List.mem_toFinset, List.mem_map, List.mem_filter, decide_eq_true_eq]
  constructor
  · rintro ⟨row, ⟨stored, own⟩, is⟩
    have kept := (@mem_compileSnapshot python files source row.rule).mp (own ▸ stored)
    exact ⟨row.rule, firsts_mem kept, is⟩
  · rintro ⟨rule, listed, is⟩
    obtain ⟨first, kept, same⟩ := @firsts_cover _ _ _ ParsedRule.key _ rule listed
    exact ⟨⟨source, first⟩, ⟨(mem_compileSnapshot source first).mpr kept, rfl⟩, same.trans is⟩

theorem mem_rulesOf {source : SourceId} {rule : ParsedRule} :
    rule ∈ rulesOf python (sourceFiles raw sources) source ↔
      source ∈ sources ∧ ∃ lines, raw source = some lines ∧ rule ∈ parsedRules python lines := by
  simp only [rulesOf, sourceFiles, List.mem_flatMap, List.mem_filter, List.mem_filterMap,
    Option.map_eq_some_iff, decide_eq_true_eq]
  constructor
  · rintro ⟨_, ⟨⟨own, listed, lines, stored, rfl⟩, rfl⟩, parsed⟩
    exact ⟨listed, lines, stored, parsed⟩
  · rintro ⟨listed, lines, stored, parsed⟩
    exact ⟨(source, lines), ⟨⟨source, listed, lines, stored, rfl⟩, rfl⟩, parsed⟩

theorem compiled_count (python : PythonText) (raw : SourceId → Option (List Text))
    (sources : List SourceId) (source : SourceId) :
    uniqueCount (compileSnapshot python (sourceFiles raw sources)) source =
      if source ∈ sources then ((raw source).map fun lines => (ruleCounts python lines).1).getD 0
      else 0 := by
  rw [uniqueCount_eq]
  split
  · rename_i listed
    cases stored : raw source with
    | none =>
      have nothing : rulesOf python (sourceFiles raw sources) source = [] := by
        refine List.eq_nil_iff_forall_not_mem.mpr fun rule member => ?_
        obtain ⟨_, lines, found, _⟩ := mem_rulesOf.mp member
        rw [stored] at found
        cases found
      simp [nothing]
    | some lines =>
      rw [Option.map_some, Option.getD_some, ruleCounts_eq]
      congr 1
      ext key
      simp [mem_rulesOf, listed, stored]
  · rename_i unlisted
    have nothing : rulesOf python (sourceFiles raw sources) source = [] :=
      List.eq_nil_iff_forall_not_mem.mpr fun rule member => unlisted (mem_rulesOf.mp member).1
    simp [nothing]

theorem countedSnapshot_table (python : PythonText) (files : SourceFiles) :
    (countedSnapshot python files).table = compileSnapshot python files := by
  induction files using List.reverseRecOn with
  | nil => rfl
  | append_singleton files file ih =>
    simp only [countedSnapshot, compileSnapshot, List.foldl_append, List.foldl_cons,
      List.foldl_nil, compileCounted] at ih ⊢
    rw [ih]

/-- The count that the quality gates judge is the one that is written beside the compiled
snapshot, and the number of rows which the snapshot ends with. -/
theorem rule_counts_agree (python : PythonText) (raw : SourceId → Option (List Text))
    (sources : List SourceId) :
    (countedSnapshot python (sourceFiles raw sources)).ruleCounts =
        (sourceFiles raw sources).map (fun file => (file.1, (ruleCounts python file.2).1)) ∧
      ∀ source, uniqueCount (countedSnapshot python (sourceFiles raw sources)).table source =
        if source ∈ sources then
          ((raw source).map fun lines => (ruleCounts python lines).1).getD 0
        else 0 := by
  constructor
  · induction sources using List.reverseRecOn with
    | nil => rfl
    | append_singleton sources source ih =>
      have counted := compiled_count python raw (sources ++ [source]) source
      rw [← countedSnapshot_table] at counted
      unfold sourceFiles at ih counted ⊢
      rw [List.filterMap_append] at counted ⊢
      cases stored : raw source with
      | none => simpa [stored] using ih
      | some lines =>
        simp only [stored, List.filterMap_cons, List.filterMap_nil, Option.map_some,
          List.map_append, List.map_cons, List.map_nil, ← ih] at counted ⊢
        simp only [List.mem_append, List.mem_singleton, or_true, if_true, Option.getD_some]
          at counted
        rw [← counted]
        simp [countedSnapshot, compileCounted]
  · intro source
    rw [countedSnapshot_table]
    exact compiled_count python raw sources source

end Counts

end HyruleCloud.Blocklists
