import Mathlib.Data.List.Basic
import Mathlib.Data.List.Range

/-!
A search that starts somewhere in a ring and takes the first place that is free.
-/

namespace Probing

/-- The places of a ring of `size`, from `start` once around. -/
def places (size start : Nat) : List Nat :=
  (List.range size).map fun offset => (start + offset) % size

def probe (size start : Nat) (free : Nat → Bool) : Option Nat := (places size start).find? free

section Probe

variable {size start place : Nat} {free : Nat → Bool}

theorem mem_places : place ∈ places size start ↔ place < size := by
  unfold places
  rw [List.mem_map]
  constructor
  · rintro ⟨offset, listed, is⟩
    rw [← is]
    exact Nat.mod_lt _ (Nat.zero_lt_of_lt (List.mem_range.mp listed))
  · intro below
    -- the offset is the distance from the start, around the ring
    refine ⟨(place + (size - start % size)) % size, List.mem_range.mpr ?_, ?_⟩
    · exact Nat.mod_lt _ (Nat.zero_lt_of_lt below)
    · have inside := Nat.mod_lt start (Nat.zero_lt_of_lt below)
      rw [Nat.add_mod_mod, ← Nat.mod_add_mod,
        show start % size + (place + (size - start % size)) = place + size by omega,
        Nat.add_mod_right, Nat.mod_eq_of_lt below]

theorem probe_some (found : probe size start free = some place) :
    place < size ∧ free place = true :=
  ⟨mem_places.mp (List.mem_of_find?_eq_some found), List.find?_some found⟩

theorem probe_none :
    probe size start free = none ↔ ∀ place, place < size → free place = false := by
  unfold probe
  rw [List.find?_eq_none]
  constructor
  · intro taken place below
    have not_free := taken place (mem_places.mpr below)
    rwa [Bool.not_eq_true] at not_free
  · intro taken place listed
    rw [taken place (mem_places.mp listed)]
    exact Bool.false_ne_true

end Probe

end Probing
