import Mathlib.Logic.Function.Basic

/-!
A number that only grows by additions, each of which returns the number that it made. The
log holds the additions, the newest first; an addition's serial is the number of those
before it. Some of the additions are acknowledged, in whatever order.
-/

namespace AdditionLog

open Function

structure Addition where
  amount : Nat
  result : Nat

def accrued : List Addition → Nat
  | [] => 0
  | addition :: rest => addition.amount + accrued rest

/-- Every addition returned the base and all that had been added. -/
def Stacked (base : Nat) : List Addition → Prop
  | [] => True
  | addition :: rest => addition.result = base + accrued (addition :: rest) ∧ Stacked base rest

def nth : List Addition → Nat → Option Addition
  | [], _ => none
  | addition :: rest, serial => if serial = rest.length then some addition else nth rest serial

def acknowledged (known : Nat → Bool) : List Addition → Nat
  | [] => 0
  | addition :: rest =>
    (if known rest.length then addition.amount else 0) + acknowledged known rest

variable {base bound : Nat} {known : Nat → Bool} {log : List Addition} {serial : Nat}
  {addition : Addition}

theorem nth_lt (found : nth log serial = some addition) : serial < log.length := by
  induction log with
  | nil => cases found
  | cons newest rest ih =>
    unfold nth at found
    split at found
    · rename_i here
      rw [here]
      exact Nat.lt_succ_self _
    · exact Nat.lt_succ_of_lt (ih found)

theorem nth_newest (addition : Addition) (log : List Addition) :
    nth (addition :: log) log.length = some addition := if_pos rfl

theorem nth_older (newest : Addition) (found : nth log serial = some addition) :
    nth (newest :: log) serial = some addition := by
  unfold nth
  rw [if_neg (Nat.ne_of_lt (nth_lt found))]
  exact found

theorem acknowledged_le_accrued : acknowledged known log ≤ accrued log := by
  induction log with
  | nil => exact Nat.le_refl 0
  | cons newest rest ih =>
    simp only [acknowledged, accrued]
    split <;> omega

theorem acknowledged_covered (stacked : Stacked base log) (started : base ≤ bound)
    (reached : ∀ serial addition, known serial = true → nth log serial = some addition →
      addition.result ≤ bound) :
    base + acknowledged known log ≤ bound := by
  induction log with
  | nil => exact started
  | cons newest rest ih =>
    obtain ⟨result, earlier⟩ := stacked
    by_cases told : known rest.length = true
    · have high := reached rest.length newest told (nth_newest newest rest)
      have within : acknowledged known (newest :: rest) ≤ accrued (newest :: rest) :=
        acknowledged_le_accrued
      omega
    · have room := ih earlier fun serial addition is found =>
        reached serial addition is (nth_older newest found)
      simpa [acknowledged, told] using room

theorem acknowledged_unknown (fresh : ∀ later, log.length ≤ later → known later = false)
    (newest : Addition) : acknowledged known (newest :: log) = acknowledged known log := by
  simp [acknowledged, fresh log.length (Nat.le_refl _)]

theorem acknowledged_beyond (value : Bool) (beyond : log.length ≤ serial) :
    acknowledged (update known serial value) log = acknowledged known log := by
  induction log with
  | nil => rfl
  | cons newest rest ih =>
    have shorter : rest.length < serial := beyond
    simp only [acknowledged, ih (Nat.le_of_lt shorter),
      update_of_ne (Nat.ne_of_lt shorter)]

theorem acknowledged_mark (found : nth log serial = some addition)
    (untold : known serial = false) :
    acknowledged (update known serial true) log =
      addition.amount + acknowledged known log := by
  induction log with
  | nil => cases found
  | cons newest rest ih =>
    by_cases here : serial = rest.length
    · subst here
      rw [nth_newest] at found
      cases found
      simp [acknowledged, untold, acknowledged_beyond]
    · unfold nth at found
      rw [if_neg here] at found
      simp only [acknowledged, ih found, update_of_ne (Ne.symm here)]
      omega

end AdditionLog
