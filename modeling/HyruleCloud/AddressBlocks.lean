import Mathlib.Algebra.Order.Group.Nat
import Mathlib.Algebra.Ring.Nat
import Mathlib.Data.Nat.Basic

/-!
Aligned blocks of addresses of a width. A block has a prefix length, and its parts of a
longer prefix length are numbered by an index.
-/

namespace AddressBlocks

variable {width : Nat}

structure Block (width : Nat) where
  address : Nat
  prefixLength : Nat
  short : prefixLength ≤ width
  aligned : 2 ^ (width - prefixLength) ∣ address
  bounded : address < 2 ^ width

namespace Block

def size (block : Block width) : Nat := 2 ^ (width - block.prefixLength)

def contains (block : Block width) (address : Nat) : Bool :=
  block.address ≤ address && address < block.address + block.size

def Within (part block : Block width) : Prop :=
  ∀ address, part.contains address = true → block.contains address = true

def Apart (first second : Block width) : Prop :=
  ∀ address, first.contains address = true → second.contains address = false

theorem contains_iff (block : Block width) (address : Nat) : block.contains address = true ↔
    block.address ≤ address ∧ address < block.address + block.size := by
  simp [contains]

theorem end_le (block : Block width) : block.address + block.size ≤ 2 ^ width := by
  have whole : block.size ∣ 2 ^ width := Nat.pow_dvd_pow 2 (Nat.sub_le _ _)
  obtain ⟨count, is⟩ := block.aligned
  obtain ⟨total, all⟩ := whole
  have below := block.bounded
  rw [is, all] at below ⊢
  have fewer : count < total := Nat.lt_of_mul_lt_mul_left below
  calc block.size * count + block.size = block.size * (count + 1) := (Nat.mul_succ _ _).symm
    _ ≤ block.size * total := Nat.mul_le_mul_left _ fewer

def partCount (block : Block width) (length : Nat) : Nat := 2 ^ (length - block.prefixLength)

theorem partCount_mul (block : Block width) {length : Nat} (longer : block.prefixLength ≤ length)
    (short : length ≤ width) : block.partCount length * 2 ^ (width - length) = block.size := by
  unfold partCount size
  rw [← Nat.pow_add]
  congr 1
  omega

theorem part_end (block : Block width) {length index : Nat}
    (longer : block.prefixLength ≤ length) (short : length ≤ width)
    (below : index < block.partCount length) :
    index * 2 ^ (width - length) + 2 ^ (width - length) ≤ block.size := by
  rw [← partCount_mul block longer short, ← Nat.succ_mul]
  exact Nat.mul_le_mul_right _ below

def part (block : Block width) (length index : Nat) : Option (Block width) :=
  if fits : (block.prefixLength ≤ length ∧ length ≤ width) ∧ index < block.partCount length then
    some {
      address := block.address + index * 2 ^ (width - length)
      prefixLength := length
      short := fits.1.2
      aligned := Nat.dvd_add
        (Nat.dvd_trans (Nat.pow_dvd_pow 2 (Nat.sub_le_sub_left fits.1.1 width)) block.aligned)
        (Nat.dvd_mul_left _ _)
      bounded := by
        have inside := part_end block fits.1.1 fits.1.2 fits.2
        have whole := block.end_le
        have positive := Nat.two_pow_pos (width - length)
        omega }
  else none

section Part

variable {block first second : Block width} {length index other : Nat}

theorem part_some (found : block.part length index = some first) :
    (block.prefixLength ≤ length ∧ length ≤ width) ∧ index < block.partCount length ∧
      first.address = block.address + index * 2 ^ (width - length) ∧
        first.prefixLength = length := by
  unfold part at found
  split at found
  · rename_i fits
    cases found
    exact ⟨fits.1, fits.2, rfl, rfl⟩
  · cases found

theorem part_isSome (longer : block.prefixLength ≤ length) (short : length ≤ width)
    (below : index < block.partCount length) : ∃ part, block.part length index = some part := by
  unfold part
  rw [dif_pos ⟨⟨longer, short⟩, below⟩]
  exact ⟨_, rfl⟩

theorem part_within (found : block.part length index = some first) : first.Within block := by
  have ⟨⟨longer, short⟩, below, starts, is⟩ := part_some found
  have inside := part_end block longer short below
  intro address listed
  rw [contains_iff] at listed ⊢
  unfold size at listed
  rw [starts, is] at listed
  omega

theorem parts_apart (found : block.part length index = some first)
    (also : block.part length other = some second) (differ : index ≠ other) :
    first.Apart second := by
  have ⟨_, _, starts, is⟩ := part_some found
  have ⟨_, _, otherStarts, otherIs⟩ := part_some also
  intro address listed
  rw [contains_iff] at listed
  by_contra too
  rw [Bool.not_eq_false, contains_iff] at too
  unfold size at listed too
  rw [starts, is] at listed
  rw [otherStarts, otherIs] at too
  rcases Nat.lt_or_gt_of_ne differ with less | more
  · have step : (index + 1) * 2 ^ (width - length) ≤ other * 2 ^ (width - length) :=
      Nat.mul_le_mul_right _ less
    rw [Nat.succ_mul] at step
    omega
  · have step : (other + 1) * 2 ^ (width - length) ≤ index * 2 ^ (width - length) :=
      Nat.mul_le_mul_right _ more
    rw [Nat.succ_mul] at step
    omega

end Part

end Block

end AddressBlocks
