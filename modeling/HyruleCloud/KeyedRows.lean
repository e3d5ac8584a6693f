import Mathlib.Data.List.Basic

/-!
Rows with a key, kept in a list: a row is replaced by the next row of its key, or added.
-/

namespace KeyedRows

variable {Row Key : Type} [DecidableEq Key] (key : Row → Key)

def upsert (rows : List Row) (row : Row) : List Row :=
  match rows with
  | [] => [row]
  | first :: rest => if key first = key row then row :: rest else first :: upsert rest row

def upserts (rows added : List Row) : List Row := added.foldl (upsert key) rows

def lookup (rows : List Row) (wanted : Key) : Option Row :=
  rows.find? fun row => key row = wanted

theorem lookup_cons (first : Row) (rest : List Row) (wanted : Key) :
    lookup key (first :: rest) wanted =
      if key first = wanted then some first else lookup key rest wanted := by
  unfold lookup
  by_cases here : key first = wanted
  · simp [here]
  · simp [here]

theorem lookup_upsert (rows : List Row) (row : Row) (wanted : Key) :
    lookup key (upsert key rows row) wanted =
      if key row = wanted then some row else lookup key rows wanted := by
  induction rows with
  | nil => exact lookup_cons key row [] wanted
  | cons first rest ih =>
    unfold upsert
    by_cases same : key first = key row
    · rw [if_pos same, lookup_cons, lookup_cons, same]
      split <;> rfl
    · rw [if_neg same, lookup_cons, lookup_cons, ih]
      by_cases here : key first = wanted
      · have other : key row ≠ wanted := fun is => same (here.trans is.symm)
        rw [if_pos here, if_neg other, if_pos here]
      · rw [if_neg here, if_neg here]

theorem lookup_upserts (rows added : List Row) (wanted : Key) :
    lookup key (upserts key rows added) wanted =
      (lookup key (upserts key [] added) wanted).or (lookup key rows wanted) := by
  induction added generalizing rows with
  | nil => simp [upserts, lookup]
  | cons row rest ih =>
    change lookup key (upserts key (upsert key rows row) rest) wanted =
      (lookup key (upserts key [row] rest) wanted).or _
    rw [ih (upsert key rows row), ih [row], lookup_upsert, Option.or_assoc, lookup_cons]
    congr 1
    by_cases here : key row = wanted
    · simp [here]
    · simp [here, lookup]

theorem upsert_keys (rows : List Row) (row : Row) :
    ∀ other ∈ upsert key rows row, other = row ∨ other ∈ rows := by
  induction rows with
  | nil => simp [upsert]
  | cons first rest ih =>
    intro other listed
    unfold upsert at listed
    split at listed
    · rcases List.mem_cons.mp listed with rfl | later
      · exact .inl rfl
      · exact .inr (List.mem_cons_of_mem _ later)
    · rcases List.mem_cons.mp listed with rfl | later
      · exact .inr List.mem_cons_self
      · rcases ih other later with rfl | before
        · exact .inl rfl
        · exact .inr (List.mem_cons_of_mem _ before)

theorem lookup_some {rows : List Row} {wanted : Key} {row : Row}
    (found : lookup key rows wanted = some row) : row ∈ rows ∧ key row = wanted := by
  constructor
  · exact List.mem_of_find?_eq_some found
  · simpa using List.find?_some found

def Distinct (rows : List Row) : Prop := (rows.map key).Nodup

section
variable {rows : List Row} (distinct : Distinct key rows)
include distinct

theorem distinct_upsert (row : Row) :
    Distinct key (upsert key rows row) := by
  induction rows with
  | nil => simp [upsert, Distinct]
  | cons first rest ih =>
    unfold Distinct at distinct ih
    rw [List.map_cons, List.nodup_cons] at distinct
    unfold upsert
    by_cases same : key first = key row
    · rw [if_pos same]
      unfold Distinct
      rw [List.map_cons, List.nodup_cons, ← same]
      exact distinct
    · rw [if_neg same]
      unfold Distinct
      rw [List.map_cons, List.nodup_cons]
      constructor
      · intro listed
        obtain ⟨other, is, equal⟩ := List.mem_map.mp listed
        rcases upsert_keys key rest row other is with rfl | before
        · exact same equal.symm
        · exact distinct.1 (equal ▸ List.mem_map_of_mem before)
      · exact ih distinct.2

theorem distinct_upserts (added : List Row) :
    Distinct key (upserts key rows added) := by
  induction added generalizing rows with
  | nil => exact distinct
  | cons row rest ih => exact ih (distinct_upsert key distinct row)

theorem mem_iff_lookup (row : Row) :
    row ∈ rows ↔ lookup key rows (key row) = some row := by
  induction rows with
  | nil => simp [lookup]
  | cons first rest ih =>
    unfold Distinct at distinct ih
    rw [List.map_cons, List.nodup_cons] at distinct
    rw [lookup_cons, List.mem_cons]
    by_cases here : key first = key row
    · rw [if_pos here]
      constructor
      · rintro (rfl | listed)
        · rfl
        · exact absurd (here ▸ List.mem_map_of_mem listed) distinct.1
      · intro same
        exact .inl (Option.some.inj same).symm
    · rw [if_neg here]
      constructor
      · rintro (rfl | listed)
        · exact absurd rfl here
        · exact (ih distinct.2).mp listed
      · intro found
        exact .inr ((ih distinct.2).mpr found)

end

end KeyedRows
