import Mathlib.Data.List.Induction
import Mathlib.Order.Lattice

/-!
Two ways of choosing from a list. `pick` goes through the list and changes its choice
only for a higher rank; `firsts` keeps the first element of each key.
-/

namespace Precedence

variable {α κ ρ : Type}

def improve [LT ρ] [DecidableLT ρ] (rank : α → ρ) (best : Option α) (next : α) : Option α :=
  match best with
  | none => some next
  | some chosen => if rank chosen < rank next then some next else some chosen

def pick [LT ρ] [DecidableLT ρ] (rank : α → ρ) (list : List α) : Option α :=
  list.foldl (improve rank) none

section Pick

variable [LinearOrder ρ] {rank : α → ρ} {list : List α} {best chosen : α}

theorem improve_some (next : α) : ∃ later, improve rank (some best) next = some later ∧
    (later = best ∨ later = next) ∧ rank best ≤ rank later ∧ rank next ≤ rank later := by
  unfold improve
  dsimp only
  split
  · rename_i higher
    exact ⟨next, rfl, Or.inr rfl, le_of_lt higher, le_refl _⟩
  · rename_i lower
    exact ⟨best, rfl, Or.inl rfl, le_refl _, le_of_not_gt lower⟩

theorem fold_improve (list : List α) (best : α) :
    ∃ chosen, list.foldl (improve rank) (some best) = some chosen ∧
      (chosen = best ∨ chosen ∈ list) ∧ rank best ≤ rank chosen ∧
        ∀ other ∈ list, rank other ≤ rank chosen := by
  induction list generalizing best with
  | nil => exact ⟨best, rfl, Or.inl rfl, le_refl _, nofun⟩
  | cons next rest ih =>
    obtain ⟨later, stepped, from_, above, covers⟩ := @improve_some α ρ _ rank best next
    obtain ⟨chosen, folded, member, top, dominates⟩ := ih later
    refine ⟨chosen, ?_, ?_, le_trans above top, ?_⟩
    · rw [List.foldl_cons, stepped]
      exact folded
    · rcases member with same | listed
      · rw [same]
        rcases from_ with kept | moved
        · exact Or.inl kept
        · exact Or.inr (moved ▸ List.mem_cons_self)
      · exact Or.inr (List.mem_cons_of_mem _ listed)
    · intro other listed
      rcases List.mem_cons.mp listed with same | before
      · exact same ▸ le_trans covers top
      · exact dominates other before

theorem pick_nil : pick rank ([] : List α) = none := rfl

theorem pick_top (nonempty : list ≠ []) : ∃ chosen, pick rank list = some chosen ∧ chosen ∈ list ∧
    ∀ other ∈ list, rank other ≤ rank chosen := by
  cases list with
  | nil => exact absurd rfl nonempty
  | cons first rest =>
    obtain ⟨chosen, folded, member, above, dominates⟩ := @fold_improve α ρ _ rank rest first
    refine ⟨chosen, folded, ?_, ?_⟩
    · rcases member with same | listed
      · exact same ▸ List.mem_cons_self
      · exact List.mem_cons_of_mem _ listed
    · intro other listed
      rcases List.mem_cons.mp listed with same | before
      · exact same ▸ above
      · exact dominates other before

end Pick

variable [DecidableEq κ]

def insertNew (key : α → κ) (table : List α) (next : α) : List α :=
  if table.any fun row => key row = key next then table else table ++ [next]

def firsts (key : α → κ) (list : List α) : List α := list.foldl (insertNew key) []

section Firsts

variable {key : α → κ} {list : List α} {row : α}

theorem firsts_append (key : α → κ) (list : List α) (next : α) :
    firsts key (list ++ [next]) = insertNew key (firsts key list) next := by
  simp only [firsts, List.foldl_append, List.foldl_cons, List.foldl_nil]

theorem mem_firsts : row ∈ firsts key list ↔
    list.find? (fun other => key other = key row) = some row := by
  induction list using List.reverseRecOn generalizing row with
  | nil => simp [firsts]
  | append_singleton list next ih =>
    rw [firsts_append, List.find?_append]
    unfold insertNew
    by_cases taken : ∃ other ∈ firsts key list, key other = key next
    · have known : (firsts key list).any (fun row => key row = key next) = true := by
        simpa using taken
      rw [if_pos known, ih]
      constructor
      · intro found
        rw [found]
        rfl
      · intro found
        cases before : list.find? (fun other => key other = key row) with
        | some other =>
          rw [before] at found
          exact found
        | none =>
          -- the new element would be the first of its key, but that key is there
          rw [before] at found
          simp only [Option.none_or, List.find?_singleton] at found
          split at found
          · cases found
            obtain ⟨other, kept, same⟩ := taken
            have listed := List.mem_of_find?_eq_some (ih.mp kept)
            have absent := List.find?_eq_none.mp before other listed
            simp [same] at absent
          · cases found
    · have fresh : (firsts key list).any (fun row => key row = key next) = false := by
        simpa using taken
      rw [fresh]
      simp only [Bool.false_eq_true, if_false, List.mem_append, List.mem_singleton, ih]
      constructor
      · rintro (found | same)
        · rw [found]
          rfl
        · subst same
          have absent : list.find? (fun other => key other = key row) = none := by
            cases before : list.find? (fun other => key other = key row) with
            | none => rfl
            | some other =>
              have same := List.find?_some before
              simp only [decide_eq_true_eq] at same
              refine absurd ⟨other, ih.mpr ?_, same⟩ taken
              rw [same]
              exact before
          rw [absent]
          simp
      · intro found
        cases before : list.find? (fun other => key other = key row) with
        | some other =>
          rw [before] at found
          exact Or.inl found
        | none =>
          rw [before] at found
          simp only [Option.none_or, List.find?_singleton] at found
          split at found
          · cases found
            exact Or.inr rfl
          · cases found

theorem firsts_cover (listed : row ∈ list) : ∃ first ∈ firsts key list, key first = key row := by
  cases found : list.find? (fun other => key other = key row) with
  | none =>
    have absent := List.find?_eq_none.mp found row listed
    simp at absent
  | some first =>
    have same := List.find?_some found
    simp only [decide_eq_true_eq] at same
    refine ⟨first, mem_firsts.mpr ?_, same⟩
    rw [same]
    exact found

theorem firsts_mem (kept : row ∈ firsts key list) : row ∈ list :=
  List.mem_of_find?_eq_some (mem_firsts.mp kept)

theorem firsts_nodup (key : α → κ) (list : List α) : ((firsts key list).map key).Nodup := by
  induction list using List.reverseRecOn with
  | nil => exact List.nodup_nil
  | append_singleton list next ih =>
    rw [firsts_append]
    unfold insertNew
    split
    · exact ih
    · rename_i fresh
      rw [List.map_append, List.map_singleton, List.nodup_append]
      refine ⟨ih, by simp, ?_⟩
      intro taken listed other added same
      rw [same, List.mem_singleton.mp added] at listed
      apply fresh
      simpa using listed

end Firsts

end Precedence
