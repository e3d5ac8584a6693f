import Mathlib.Logic.Basic

/-!
The truth values of a WHERE clause. A comparison with NULL is unknown, the connectives are
Kleene's, and a row is selected if the clause is true.
-/

namespace ThreeValued

/-- `none` is unknown. -/
abbrev Truth := Option Bool

def either : Truth → Truth → Truth
  | some true, _ => some true
  | _, some true => some true
  | some false, some false => some false
  | _, _ => none

def both : Truth → Truth → Truth
  | some false, _ => some false
  | _, some false => some false
  | some true, some true => some true
  | _, _ => none

variable {α : Type}

def compare (test : α → α → Bool) : Option α → Option α → Truth
  | some a, some b => some (test a b)
  | _, _ => none

def isNotNull (column : Option α) : Truth := some column.isSome

def coalesce (column : Option α) (value : α) : Option α := some (column.getD value)

def selects (clause : Truth) : Bool := clause = some true

theorem selects_either (a b : Truth) : selects (either a b) = (selects a || selects b) := by
  rcases a with _ | _ | _ <;> rcases b with _ | _ | _ <;> rfl

theorem selects_both (a b : Truth) : selects (both a b) = (selects a && selects b) := by
  rcases a with _ | _ | _ <;> rcases b with _ | _ | _ <;> rfl

@[simp] theorem selects_some (b : Bool) : selects (some b) = b := by
  cases b <;> rfl

@[simp] theorem selects_isNotNull (column : Option α) :
    selects (isNotNull column) = column.isSome := by
  rw [isNotNull, selects_some]

theorem selects_compare (test : α → α → Bool) (column : Option α) (value : α) :
    selects (compare test column (some value)) = column.any fun stored => test stored value := by
  cases column with
  | none => rfl
  | some stored => exact selects_some (test stored value)

end ThreeValued
