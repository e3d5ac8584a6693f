import Mathlib.Data.List.Basic

/-!
A table under read-committed isolation. A statement reads the committed rows and the
drafts of its own transaction; a row that it writes or locks is held by its
transaction, with the row as the transaction leaves it, and nobody else writes that
row before the holder ends.
-/

namespace ReadCommitted

variable {π κ ρ : Type}

/-- `keys` are the keys that a scan goes through. A draft is its holder, and the row or
its deletion. -/
structure LockedTable (π κ ρ : Type) where
  keys : List κ
  committed : κ → Option ρ
  drafts : κ → Option (π × Option ρ)

namespace LockedTable

def write [DecidableEq κ] (table : LockedTable π κ ρ) (who : π) (keys : List κ)
    (row : κ → Option ρ) : LockedTable π κ ρ where
  keys := keys ∪ table.keys
  committed := table.committed
  drafts key := if key ∈ keys then some (who, row key) else table.drafts key

variable [DecidableEq π]

def holds (table : LockedTable π κ ρ) (who : π) (key : κ) : Bool :=
  match table.drafts key with
  | some (holder, _) => decide (holder = who)
  | none => false

/-- A statement that writes `keys` has to wait for another transaction. -/
def waits (table : LockedTable π κ ρ) (who : π) (keys : List κ) : Bool :=
  keys.any fun key => (table.drafts key).isSome && !table.holds who key

/-- The row that a statement of `who` reads. -/
def view (table : LockedTable π κ ρ) (who : π) (key : κ) : Option ρ :=
  match table.drafts key with
  | some (holder, row) => if holder = who then row else table.committed key
  | none => table.committed key

def select (table : LockedTable π κ ρ) (who : π) (fits : ρ → Bool) : List κ :=
  table.keys.filter fun key => (table.view who key).any fits

def rollback (table : LockedTable π κ ρ) (who : π) : LockedTable π κ ρ :=
  { table with drafts := fun key => if table.holds who key then none else table.drafts key }

def commit (table : LockedTable π κ ρ) (who : π) : LockedTable π κ ρ :=
  { table.rollback who with committed := table.view who }

section Drafts
variable {table : LockedTable π κ ρ} {who other : π} {key : κ} {keys : List κ} {draft : Option ρ}
  {row : κ → Option ρ}

theorem holds_iff : table.holds who key = true ↔ ∃ draft, table.drafts key = some (who, draft) := by
  unfold holds
  cases found : table.drafts key with
  | none => simp
  | some held =>
    obtain ⟨holder, draft⟩ := held
    simp

theorem view_held (held : table.drafts key = some (who, draft)) : table.view who key = draft := by
  simp [view, held]

theorem view_free (free : ∀ draft, table.drafts key ≠ some (who, draft)) :
    table.view who key = table.committed key := by
  unfold view
  cases found : table.drafts key with
  | none => rfl
  | some held =>
    obtain ⟨holder, draft⟩ := held
    have apart : holder ≠ who := by
      rintro rfl
      exact free draft found
    exact if_neg apart

theorem rollback_drafts :
    (table.rollback who).drafts key = some (other, draft) ↔
      other ≠ who ∧ table.drafts key = some (other, draft) := by
  unfold rollback
  by_cases held : table.holds who key = true
  · simp only [held, if_true, reduceCtorEq, false_iff, not_and]
    intro apart found
    obtain ⟨own, same⟩ := holds_iff.mp held
    rw [found] at same
    cases same
    exact apart rfl
  · simp only [held, if_false, Bool.false_eq_true]
    constructor
    · intro found
      refine ⟨?_, found⟩
      rintro rfl
      exact held (holds_iff.mpr ⟨draft, found⟩)
    · exact And.right

theorem commit_held (held : table.drafts key = some (who, draft)) :
    (table.commit who).committed key = draft :=
  view_held held

theorem commit_free (free : ∀ draft, table.drafts key ≠ some (who, draft)) :
    (table.commit who).committed key = table.committed key :=
  view_free free

theorem commit_other (apart : other ≠ who) (held : table.drafts key = some (other, draft)) :
    (table.commit who).committed key = table.committed key := by
  refine commit_free fun own taken => ?_
  rw [held] at taken
  cases taken
  exact apart rfl

theorem commit_rollback : (table.commit who).rollback who = table.commit who := by
  have ended : ∀ key, (table.commit who).holds who key = false := by
    intro key
    rw [Bool.eq_false_iff]
    intro held
    obtain ⟨draft, found⟩ := holds_iff.mp held
    exact (rollback_drafts.mp found).1 rfl
  unfold rollback
  simp only [ended, Bool.false_eq_true, if_false]

variable [DecidableEq κ]

theorem write_other (apart : other ≠ who) (free : table.waits who keys = false) :
    (table.write who keys row).drafts key = some (other, draft) ↔
      table.drafts key = some (other, draft) := by
  by_cases written : key ∈ keys
  · constructor
    · intro held
      simp only [write, written, if_true, Option.some.injEq, Prod.mk.injEq] at held
      exact absurd held.1.symm apart
    · intro held
      have waiting := List.any_eq_false.mp free key written
      simp [held, holds, apart] at waiting
  · simp [write, written]

omit [DecidableEq π] in
theorem write_own (held : (table.write who keys row).drafts key = some (who, draft)) :
    (key ∈ keys ∧ draft = row key) ∨ table.drafts key = some (who, draft) := by
  by_cases written : key ∈ keys
  · simp only [write, written, if_true, Option.some.injEq, Prod.mk.injEq] at held
    exact Or.inl ⟨written, held.2.symm⟩
  · simp only [write, written, if_false] at held
    exact Or.inr held

omit [DecidableEq π] in
theorem write_either {fits : κ → Option ρ → Prop} (own : ∀ key ∈ keys, fits key (row key))
    (held : (table.write who keys row).drafts key = some (who, draft)) :
    table.drafts key = some (who, draft) ∨ fits key draft := by
  rcases write_own held with ⟨written, rfl⟩ | before
  · exact Or.inr (own key written)
  · exact Or.inl before

end Drafts

end LockedTable

end ReadCommitted
