import Mathlib.Data.Rat.Floor
import Mathlib.Data.List.TakeWhile
import Mathlib.Data.Nat.Digits.Lemmas
import Mathlib.Tactic.FieldSimp
import Mathlib.Tactic.Ring
import Mathlib.Tactic.Linarith

/-!
Decimal floating point: an integer coefficient and an exponent of ten. Sums, products and
quotients are rounded half to even to the digits of the context, and a number is written and
read in plain positional notation.
-/

namespace Decimals

/-- A value has many of these, one for each number of trailing zeros. -/
structure Decimal where
  coefficient : Int
  exponent : Int

def ofNat (n : Nat) : Decimal := ⟨n, 0⟩

/-- `n / d` to the nearest integer, a half to the even one. -/
def halfEven (n : Int) (d : Nat) : Int :=
  let low := n / d
  let rest := n % d
  if 2 * rest < d then low
  else if d < 2 * rest then low + 1
  else if low % 2 = 0 then low else low + 1

def digits (n : Int) : Nat := (Nat.digits 10 n.natAbs).length

namespace Decimal

def value (d : Decimal) : Rat := d.coefficient * (10 : Rat) ^ d.exponent

def unitsAt (d : Decimal) (exponent : Int) : Int :=
  d.coefficient * 10 ^ (d.exponent - exponent).toNat

/-- The coefficient at any exponent, rounded where places are lost. -/
def rescaled (d : Decimal) (exponent : Int) : Int :=
  if exponent ≤ d.exponent then d.unitsAt exponent
  else halfEven d.coefficient (10 ^ (exponent - d.exponent).toNat)

def le (a b : Decimal) : Bool :=
  let exponent := min a.exponent b.exponent
  decide (a.unitsAt exponent ≤ b.unitsAt exponent)

section Context
variable (precision : Nat)

/-- A rounding that carries into one more digit moves the exponent once more. -/
def round (d : Decimal) : Decimal :=
  let dropped := digits d.coefficient - precision
  if dropped = 0 then d
  else
    let kept := halfEven d.coefficient (10 ^ dropped)
    if digits kept ≤ precision then ⟨kept, d.exponent + dropped⟩
    else ⟨kept / 10, d.exponent + dropped + 1⟩

def add (a b : Decimal) : Decimal :=
  let exponent := min a.exponent b.exponent
  round precision ⟨a.unitsAt exponent + b.unitsAt exponent, exponent⟩

def mul (a b : Decimal) : Decimal :=
  round precision ⟨a.coefficient * b.coefficient, a.exponent + b.exponent⟩

/-- Enough digits of the quotient of two positive numbers, of which the last one tells whether
any remainder is left. -/
def div (a b : Decimal) : Decimal :=
  let shift : Int := digits b.coefficient - digits a.coefficient + precision + 1
  let above := a.coefficient * 10 ^ shift.toNat
  let below := b.coefficient * 10 ^ (-shift).toNat
  let quotient := above / below
  let sticky := if above % below ≠ 0 ∧ quotient % 5 = 0 then quotient + 1 else quotient
  round precision ⟨sticky, a.exponent - b.exponent - shift⟩

def quantize (d : Decimal) (places : Nat) : Option Decimal :=
  if digits (d.rescaled (-places)) ≤ precision then some ⟨d.rescaled (-places), -places⟩ else none

end Context

/-- The last `places` digits of `n`. -/
def fixedDigits : Nat → Nat → List Char
  | 0, _ => []
  | places + 1, n => fixedDigits places (n / 10) ++ [Nat.digitChar (n % 10)]

/-- `format(d, "f")` -/
def format (d : Decimal) : List Char :=
  let magnitude := d.coefficient.natAbs
  let written :=
    if 0 ≤ d.exponent then Nat.toDigits 10 (magnitude * 10 ^ d.exponent.toNat)
    else
      let places := (-d.exponent).toNat
      Nat.toDigits 10 (magnitude / 10 ^ places) ++ '.' :: fixedDigits places magnitude
  if d.coefficient < 0 then '-' :: written else written

end Decimal

def digitValue (c : Char) : Nat := c.toNat - 48

/-- The number that a row of digits continues from `n`. -/
def readDigits (n : Nat) (text : List Char) : Nat :=
  text.foldl (fun read c => 10 * read + digitValue c) n

def stripZeros (text : List Char) : List Char := (text.reverse.dropWhile (· = '0')).reverse

def padZeros (width : Nat) (text : List Char) : List Char :=
  text ++ List.replicate (width - text.length) '0'

def parse (text : List Char) : Option Decimal :=
  let whole := text.takeWhile (· ≠ '.')
  let fraction := (text.dropWhile (· ≠ '.')).tail
  if (whole ++ fraction).all Char.isDigit && decide (whole ++ fraction ≠ []) then
    some ⟨readDigits 0 (whole ++ fraction), -fraction.length⟩
  else none

theorem halfEven_exact (m : Int) {d : Nat} (positive : 0 < d) : halfEven (m * d) d = m := by
  have nonzero : (d : Int) ≠ 0 := by omega
  unfold halfEven
  simp only [Int.mul_ediv_cancel m nonzero, Int.mul_emod_left]
  rw [if_pos (by omega)]

theorem halfEven_near (n : Int) {d : Nat} (positive : 0 < d) :
    2 * (halfEven n d * d - n) ≤ d ∧ 2 * (n - halfEven n d * d) ≤ d := by
  have split := Int.emod_add_mul_ediv n d
  have low := Int.emod_nonneg n (by omega : (d : Int) ≠ 0)
  have high := Int.emod_lt_of_pos n (by omega : (0 : Int) < d)
  have whole : (d : Int) * (n / d) = n / d * d := Int.mul_comm _ _
  have next : (n / d + 1) * d = n / d * d + d := by ring
  unfold halfEven
  dsimp only
  split
  · omega
  split
  · rw [next]
    omega
  · split
    · omega
    · rw [next]
      omega

theorem halfEven_nonneg {n : Int} {d : Nat} (unsigned : 0 ≤ n) : 0 ≤ halfEven n d := by
  have low : 0 ≤ n / d := Int.ediv_nonneg unsigned (Int.natCast_nonneg d)
  unfold halfEven
  dsimp only
  split
  · exact low
  · split
    · omega
    · split <;> omega

theorem digits_le (n : Int) (k : Nat) : digits n ≤ k ↔ n.natAbs < 10 ^ k :=
  Nat.digits_length_le_iff (by decide) n.natAbs

namespace Decimal

theorem value_unitsAt (d : Decimal) {exponent : Int} (below : exponent ≤ d.exponent) :
    (d.unitsAt exponent : Rat) * (10 : Rat) ^ exponent = d.value := by
  have raised : ((10 : Rat) ^ (d.exponent - exponent).toNat) * (10 : Rat) ^ exponent =
      (10 : Rat) ^ d.exponent := by
    rw [← zpow_natCast, ← zpow_add₀ (by norm_num)]
    congr 1
    omega
  unfold unitsAt value
  push_cast
  rw [mul_assoc, raised]

variable {d : Decimal}

theorem rescaled_nonneg (unsigned : 0 ≤ d.coefficient) (exponent : Int) :
    0 ≤ d.rescaled exponent := by
  unfold rescaled
  split
  · exact Int.mul_nonneg unsigned (by positivity)
  · exact halfEven_nonneg unsigned

theorem le_iff (a b : Decimal) : a.le b = true ↔ a.value ≤ b.value := by
  have positive : (0 : Rat) < (10 : Rat) ^ min a.exponent b.exponent :=
    zpow_pos (by norm_num) _
  unfold le
  rw [← value_unitsAt a (min_le_left a.exponent b.exponent),
    ← value_unitsAt b (min_le_right a.exponent b.exponent), mul_le_mul_iff_left₀ positive,
    decide_eq_true_iff]
  norm_cast

variable {a b : Decimal}

section Context
variable {precision : Nat}

theorem round_exact (fits : digits d.coefficient ≤ precision) :
    round precision d = d := by
  unfold round
  rw [if_pos (by omega)]

theorem round_nonneg (unsigned : 0 ≤ d.coefficient) :
    0 ≤ (d.round precision).coefficient := by
  have kept := halfEven_nonneg (d := 10 ^ (digits d.coefficient - precision)) unsigned
  unfold round
  dsimp only
  split
  · exact unsigned
  · split
    · exact kept
    · exact Int.ediv_nonneg kept (by decide)

theorem add_nonneg (first : 0 ≤ a.coefficient) (second : 0 ≤ b.coefficient) :
    0 ≤ (a.add precision b).coefficient := by
  apply round_nonneg
  apply Int.add_nonneg
  · exact Int.mul_nonneg first (by positivity)
  · exact Int.mul_nonneg second (by positivity)

theorem mul_nonneg (first : 0 ≤ a.coefficient) (second : 0 ≤ b.coefficient) :
    0 ≤ (a.mul precision b).coefficient :=
  round_nonneg (Int.mul_nonneg first second)

theorem div_nonneg (above : 0 < a.coefficient) (below : 0 < b.coefficient) :
    0 ≤ (a.div precision b).coefficient := by
  apply round_nonneg
  dsimp only
  generalize Int.toNat _ = up
  generalize Int.toNat _ = down
  have quotient : 0 ≤ a.coefficient * 10 ^ up / (b.coefficient * 10 ^ down) :=
    Int.ediv_nonneg (by positivity) (by positivity)
  split
  · omega
  · exact quotient

theorem quantize_eq_some {q : Decimal} {places : Nat} :
    d.quantize precision places = some q ↔
      digits (d.rescaled (-places)) ≤ precision ∧ q = ⟨d.rescaled (-places), -places⟩ := by
  unfold quantize
  split
  · rename_i fits
    simp [fits, eq_comm]
  · rename_i wide
    simp [wide]

def Representable (precision : Nat) (x : Rat) : Prop :=
  ∃ (units : Int) (exponent : Int), x = units * (10 : Rat) ^ exponent ∧
    units.natAbs < 10 ^ precision

theorem round_zeros (representable : Representable precision d.value)
    (wide : precision < digits d.coefficient) :
    ∃ kept, d.coefficient = kept * (10 ^ (digits d.coefficient - precision) : Nat) ∧
      digits kept ≤ precision := by
  obtain ⟨units, exponent, same, few⟩ := representable
  have high : 10 ^ precision ≤ d.coefficient.natAbs := by
    have not := mt (digits_le d.coefficient precision).mpr (by omega)
    omega
  have above : d.exponent ≤ exponent := by
    by_contra below
    have raised : d.coefficient * 10 ^ (d.exponent - exponent).toNat = units := by
      have scaled := d.value_unitsAt (by omega : exponent ≤ d.exponent)
      rw [same] at scaled
      exact_mod_cast mul_right_cancel₀ (zpow_ne_zero exponent (by norm_num)) scaled
    have grows := Nat.le_mul_of_pos_right d.coefficient.natAbs
      (Nat.pow_pos (n := (d.exponent - exponent).toNat) (by decide : 0 < 10))
    have size := congrArg Int.natAbs raised
    rw [Int.natAbs_mul, Int.natAbs_pow] at size
    change d.coefficient.natAbs * 10 ^ (d.exponent - exponent).toNat = _ at size
    omega
  obtain ⟨zeros, is⟩ := Int.eq_ofNat_of_zero_le (Int.sub_nonneg.mpr above)
  have coefficient : d.coefficient = units * 10 ^ zeros := by
    have shifted : exponent = zeros + d.exponent := by omega
    have cancel : (d.coefficient : Rat) = units * 10 ^ zeros := by
      rw [shifted, zpow_add₀ (by norm_num), zpow_natCast, ← mul_assoc] at same
      exact mul_right_cancel₀ (zpow_ne_zero d.exponent (by norm_num)) same
    exact_mod_cast cancel
  have size : d.coefficient.natAbs = units.natAbs * 10 ^ zeros := by
    rw [coefficient, Int.natAbs_mul, Int.natAbs_pow]
    rfl
  have short : digits d.coefficient ≤ precision + zeros := by
    rw [digits_le, size, pow_add]
    exact Nat.mul_lt_mul_of_pos_right few (Nat.pow_pos (by decide))
  have pieces : (10 : Int) ^ zeros = 10 ^ (zeros - (digits d.coefficient - precision)) *
      10 ^ (digits d.coefficient - precision) := by
    rw [← pow_add]
    congr 1
    omega
  refine ⟨units * 10 ^ (zeros - (digits d.coefficient - precision)), ?_, ?_⟩
  · rw [Nat.cast_pow]
    change d.coefficient = _ * (10 : Int) ^ _
    rw [mul_assoc, ← pieces]
    exact coefficient
  · have all := (digits_le d.coefficient (digits d.coefficient)).mp (Nat.le_refl _)
    rw [digits_le]
    have whole : 10 ^ digits d.coefficient =
        10 ^ precision * 10 ^ (digits d.coefficient - precision) := by
      rw [← pow_add]
      congr 1
      omega
    have split : d.coefficient.natAbs =
        (units * 10 ^ (zeros - (digits d.coefficient - precision))).natAbs *
          10 ^ (digits d.coefficient - precision) := by
      have magnitude := congrArg Int.natAbs coefficient
      rw [pieces, ← mul_assoc, Int.natAbs_mul, Int.natAbs_pow] at magnitude
      exact magnitude
    rw [split, whole] at all
    exact Nat.lt_of_mul_lt_mul_right all

theorem value_round (representable : Representable precision d.value) :
    (round precision d).value = d.value := by
  by_cases fits : digits d.coefficient ≤ precision
  · rw [round_exact fits]
  obtain ⟨kept, split, few⟩ := round_zeros representable (by omega)
  have rounded : halfEven d.coefficient (10 ^ (digits d.coefficient - precision)) = kept := by
    have even := halfEven_exact kept (d := 10 ^ (digits d.coefficient - precision))
      (by positivity)
    rw [← split] at even
    exact even
  have coefficient : (d.coefficient : Rat) =
      kept * 10 ^ (digits d.coefficient - precision) := by
    exact_mod_cast split
  unfold round
  rw [if_neg (by omega), rounded, if_pos few]
  unfold value
  rw [zpow_add₀ (by norm_num), zpow_natCast, coefficient]
  ring

theorem value_add (representable : Representable precision (a.value + b.value)) :
    (add precision a b).value = a.value + b.value := by
  have sum : (⟨a.unitsAt (min a.exponent b.exponent) + b.unitsAt (min a.exponent b.exponent),
      min a.exponent b.exponent⟩ : Decimal).value = a.value + b.value := by
    rw [← value_unitsAt a (min_le_left a.exponent b.exponent),
      ← value_unitsAt b (min_le_right a.exponent b.exponent), ← add_mul]
    unfold value
    push_cast
    rfl
  rw [← sum] at representable
  exact (value_round representable).trans sum

theorem value_mul (representable : Representable precision (a.value * b.value)) :
    (mul precision a b).value = a.value * b.value := by
  have product : (⟨a.coefficient * b.coefficient, a.exponent + b.exponent⟩ : Decimal).value =
      a.value * b.value := by
    simp only [value]
    rw [zpow_add₀ (by norm_num)]
    push_cast
    ring
  rw [← product] at representable
  exact (value_round representable).trans product

end Context

end Decimal

def AllDigits (text : List Char) : Prop := ∀ c ∈ text, c.isDigit = true

theorem readDigits_append (n : Nat) (text more : List Char) :
    readDigits n (text ++ more) = readDigits (readDigits n text) more :=
  List.foldl_append

theorem digitValue_digitChar {n : Nat} (digit : n < 10) : digitValue (Nat.digitChar n) = n := by
  interval_cases n <;> rfl

theorem readDigits_zeros (n k : Nat) : readDigits n (List.replicate k '0') = n * 10 ^ k := by
  induction k generalizing n with
  | zero => simp [readDigits]
  | succ k ih =>
    have one : readDigits n (List.replicate (k + 1) '0') =
        readDigits (10 * n + 0) (List.replicate k '0') := rfl
    rw [one, ih, pow_succ]
    ring

theorem readDigits_toDigits (n : Nat) : readDigits 0 (Nat.toDigits 10 n) = n := by
  induction n using Nat.strong_induction_on with
  | _ n ih =>
    rw [Nat.toDigits_eq_if (by decide)]
    split
    · rename_i small
      exact (Nat.zero_add _).trans (digitValue_digitChar small)
    · rename_i large
      rw [readDigits_append, ih (n / 10) (by omega)]
      have last := digitValue_digitChar (Nat.mod_lt n (by decide : 0 < 10))
      change 10 * (n / 10) + digitValue (Nat.digitChar (n % 10)) = n
      omega

namespace Decimal

@[simp] theorem length_fixedDigits (places n : Nat) : (fixedDigits places n).length = places := by
  induction places generalizing n with
  | zero => rfl
  | succ places ih => simp [fixedDigits, ih]

theorem readDigits_fixedDigits (places n start : Nat) :
    readDigits start (fixedDigits places n) = start * 10 ^ places + n % 10 ^ places := by
  induction places generalizing n start with
  | zero => simp [fixedDigits, readDigits, Nat.mod_one]
  | succ places ih =>
    have last := digitValue_digitChar (Nat.mod_lt n (by decide : 0 < 10))
    have split : n % 10 ^ (places + 1) = 10 * (n / 10 % 10 ^ places) + n % 10 := by
      rw [pow_succ, Nat.mul_comm (10 ^ places) 10, Nat.mod_mul]
      omega
    rw [fixedDigits, readDigits_append, ih, split]
    change 10 * (start * 10 ^ places + n / 10 % 10 ^ places) +
      digitValue (Nat.digitChar (n % 10)) = _
    rw [last, pow_succ]
    ring

theorem allDigits_fixedDigits (places n : Nat) : AllDigits (fixedDigits places n) := by
  induction places generalizing n with
  | zero =>
    intro c none
    cases none
  | succ places ih =>
    intro c among
    rw [fixedDigits, List.mem_append, List.mem_singleton] at among
    rcases among with earlier | last
    · exact ih _ c earlier
    · subst last
      rw [Nat.isDigit_digitChar, decide_eq_true_iff]
      exact Nat.mod_lt n (by decide)

end Decimal

theorem allDigits_toDigits (n : Nat) : AllDigits (Nat.toDigits 10 n) := by
  intro c among
  exact Nat.isDigit_of_mem_toDigits (by decide) (by decide) among

theorem stripZeros_zeros (text : List Char) :
    ∃ k, stripZeros text ++ List.replicate k '0' = text := by
  have split := List.takeWhile_append_dropWhile (p := (· = '0')) (l := text.reverse)
  have zeros : text.reverse.takeWhile (· = '0') =
      List.replicate (text.reverse.takeWhile (· = '0')).length '0' := by
    rw [List.eq_replicate_iff]
    refine ⟨rfl, ?_⟩
    intro c among
    exact of_decide_eq_true (List.mem_takeWhile_imp (p := (· = '0')) among)
  refine ⟨(text.reverse.takeWhile (· = '0')).length, ?_⟩
  have turned := congrArg List.reverse split
  rw [List.reverse_append, List.reverse_reverse, zeros, List.reverse_replicate] at turned
  exact turned

variable {text : List Char}

theorem allDigits_stripZeros (all : AllDigits text) :
    AllDigits (stripZeros text) := by
  obtain ⟨k, split⟩ := stripZeros_zeros text
  intro c among
  apply all
  rw [← split]
  exact List.mem_append_left _ among

theorem allDigits_padZeros (all : AllDigits text) (width : Nat) :
    AllDigits (padZeros width text) := by
  intro c among
  rcases List.mem_append.mp among with own | zero
  · exact all c own
  · rw [List.eq_of_mem_replicate zero]
    rfl

/-- The number with these digits before the point and these after it. -/
def pointValue (whole fraction : List Char) : Rat :=
  readDigits 0 (whole ++ fraction) * (10 : Rat) ^ (-(fraction.length : Int))

theorem pointValue_zeros (whole fraction : List Char) (k : Nat) :
    pointValue whole (fraction ++ List.replicate k '0') = pointValue whole fraction := by
  unfold pointValue
  rw [← List.append_assoc, readDigits_append, readDigits_zeros, List.length_append,
    List.length_replicate]
  push_cast
  rw [neg_add, zpow_add₀ (by norm_num), zpow_neg _ (k : Int), zpow_natCast]
  field_simp

theorem pointValue_stripZeros (whole fraction : List Char) :
    pointValue whole (stripZeros fraction) = pointValue whole fraction := by
  obtain ⟨k, split⟩ := stripZeros_zeros fraction
  rw [← pointValue_zeros whole (stripZeros fraction) k, split]

theorem not_point (all : AllDigits text) : ∀ c ∈ text, c ≠ '.' := by
  intro c among point
  have digit := all c among
  rw [point] at digit
  cases digit

variable {whole : List Char}

theorem splits_point (digits : AllDigits whole) (fraction : List Char) :
    (whole ++ '.' :: fraction).takeWhile (· ≠ '.') = whole ∧
      (whole ++ '.' :: fraction).dropWhile (· ≠ '.') = '.' :: fraction := by
  have plain : ∀ c ∈ whole, decide (c ≠ '.') = true := by
    intro c among
    exact decide_eq_true (not_point digits c among)
  constructor
  · rw [List.takeWhile_append_of_pos plain]
    simp
  · rw [List.dropWhile_append_of_pos plain]
    simp

theorem parse_point {fraction : List Char} (some_ : whole ≠ []) (before : AllDigits whole)
    (after : AllDigits fraction) :
    ∃ d, parse (whole ++ '.' :: fraction) = some d ∧ d.value = pointValue whole fraction := by
  obtain ⟨took, dropped⟩ := splits_point before fraction
  refine ⟨⟨readDigits 0 (whole ++ fraction), -fraction.length⟩, ?_, ?_⟩
  · unfold parse
    rw [took, dropped]
    have digits : (whole ++ fraction).all Char.isDigit = true := by
      rw [List.all_eq_true]
      intro c among
      exact (List.mem_append.mp among).elim (before c) (after c)
    have filled : whole ++ fraction ≠ [] := by
      intro empty
      exact some_ (List.append_eq_nil_iff.mp empty).1
    simp only [List.tail_cons, digits, filled, ne_eq, not_false_eq_true, decide_true,
      Bool.and_self, if_true]
  · simp [Decimal.value, pointValue]

theorem parse_whole (some_ : whole ≠ []) (before : AllDigits whole) :
    ∃ d, parse whole = some d ∧ d.value = pointValue whole [] := by
  have plain : ∀ c ∈ whole, decide (c ≠ '.') = true := by
    intro c among
    exact decide_eq_true (not_point before c among)
  have took : whole.takeWhile (· ≠ '.') = whole := List.takeWhile_eq_self_iff.mpr plain
  have dropped : whole.dropWhile (· ≠ '.') = [] := List.dropWhile_eq_nil_iff.mpr plain
  refine ⟨⟨readDigits 0 whole, 0⟩, ?_, ?_⟩
  · unfold parse
    rw [took, dropped]
    have digits : whole.all Char.isDigit = true := List.all_eq_true.mpr before
    simp [digits, some_]
  · simp [Decimal.value, pointValue]

namespace Decimal

theorem format_shape {d : Decimal} (unsigned : 0 ≤ d.coefficient) :
    (∃ n, d.format = Nat.toDigits 10 n ∧ d.value = pointValue (Nat.toDigits 10 n) []) ∨
    ∃ n fraction, d.format = Nat.toDigits 10 n ++ '.' :: fraction ∧ AllDigits fraction ∧
      d.value = pointValue (Nat.toDigits 10 n) fraction := by
  obtain ⟨m, is⟩ := Int.eq_ofNat_of_zero_le unsigned
  unfold format
  rw [if_neg (by omega)]
  split
  · rename_i whole
    left
    refine ⟨_, rfl, ?_⟩
    simp only [value, pointValue, List.append_nil, readDigits_toDigits]
    have raised : (10 : Rat) ^ d.exponent = 10 ^ d.exponent.toNat := by
      rw [← zpow_natCast, Int.toNat_of_nonneg whole]
    rw [raised, is]
    simp
  · rename_i below
    right
    refine ⟨_, _, rfl, allDigits_fixedDigits _ _, ?_⟩
    have places : -(((-d.exponent).toNat : Nat) : Int) = d.exponent := by omega
    simp only [value, pointValue, readDigits_append, readDigits_toDigits,
      readDigits_fixedDigits, Nat.div_add_mod', length_fixedDigits, places, is, Int.natAbs_natCast]
    rfl

theorem parse_format {d : Decimal} (unsigned : 0 ≤ d.coefficient) :
    ∃ read, parse d.format = some read ∧ read.value = d.value := by
  rcases format_shape unsigned with ⟨n, written, same⟩ | ⟨n, fraction, written, digits, same⟩
  · rw [written, same]
    exact parse_whole Nat.toDigits_ne_nil (allDigits_toDigits n)
  · rw [written, same]
    exact parse_point Nat.toDigits_ne_nil (allDigits_toDigits n) digits

end Decimal

end Decimals
