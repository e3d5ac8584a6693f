import Mathlib.Data.List.Infix
import Mathlib.Data.Nat.Basic
import Mathlib.Tactic.IntervalCases

/-!
The textual forms of internet addresses. An IPv6 text has groups of one to four hexadecimal
digits, an abbreviation `::` for at least one zero group, perhaps an IPv4 address for the last
two groups, and perhaps a zone.
-/

namespace AddressTexts

abbrev Text := List Char

def join (separator : Char) (pieces : List Text) : Text := [separator].intercalate pieces

variable {separator : Char}

theorem split_join {pieces : List Text}
    (apart : ∀ piece ∈ pieces, separator ∉ piece) (some : pieces ≠ []) :
    (join separator pieces).splitOn separator = pieces :=
  List.splitOn_intercalate separator apart some

theorem join_cons (separator : Char) (piece next : Text) (rest : List Text) :
    join separator (piece :: next :: rest) = piece ++ separator :: join separator (next :: rest) := by
  simp [join, List.intercalate]

theorem join_append (separator : Char) (before : List Text) (last added : Text) :
    join separator (before ++ [last]) ++ added = join separator (before ++ [last ++ added]) := by
  induction before with
  | nil => simp [join]
  | cons piece rest inductive_ =>
    cases rest with
    | nil => simp [join]
    | cons next rest =>
      simp only [List.cons_append, join_cons] at inductive_ ⊢
      rw [List.append_assoc, List.cons_append, inductive_]

theorem join_inj {pieces others : List Text}
    (apart : ∀ piece ∈ pieces, separator ∉ piece) (some : pieces ≠ [])
    (otherApart : ∀ piece ∈ others, separator ∉ piece) (otherSome : others ≠ [])
    (same : join separator pieces = join separator others) : pieces = others := by
  rw [← split_join apart some, same, split_join otherApart otherSome]

theorem mem_join {first second : Text} {rest : List Text} :
    separator ∈ join separator (first :: second :: rest) := by
  exact List.mem_append_right _ List.mem_cons_self

variable {letter : Char}

theorem not_mem_join {pieces : List Text} (differ : letter ≠ separator)
    (apart : ∀ piece ∈ pieces, letter ∉ piece) : letter ∉ join separator pieces := by
  induction pieces with
  | nil => simp [join]
  | cons piece rest inductive_ =>
    have tail := inductive_ fun later among => apart later (List.mem_cons_of_mem _ among)
    cases rest with
    | nil => simpa [join] using apart piece List.mem_cons_self
    | cons next rest =>
      intro among
      rcases List.mem_append.mp among with here | later
      · exact apart piece List.mem_cons_self here
      · rcases List.mem_cons.mp later with same | later
        · exact differ same
        · exact tail later

def decimal (number : Nat) : Text := Nat.toDigits 10 number

def hexadecimal (number : Nat) : Text := Nat.toDigits 16 number

theorem decimal_inj {first second : Nat} (same : decimal first = decimal second) :
    first = second := by
  have read := congrArg (Nat.ofDigitChars 10 · 0) same
  simpa [decimal, Nat.ofDigitChars_ten_toDigits] using read

def hexDigits : Text := "0123456789abcdefABCDEF".toList

def digitValue (digit : Char) : Nat :=
  if digit.toNat < 58 then digit.toNat - 48
  else if digit.toNat < 71 then digit.toNat - 55
  else digit.toNat - 87

def hexValue (digits : Text) : Nat :=
  digits.foldl (fun value digit => value * 16 + digitValue digit) 0

theorem digitValue_digitChar {digit : Nat} (below : digit < 16) :
    digitValue digit.digitChar = digit := by
  interval_cases digit <;> rfl

theorem digitChar_mem {digit : Nat} (below : digit < 16) : digit.digitChar ∈ hexDigits := by
  interval_cases digit <;> decide

theorem hexadecimal_mem {number : Nat} {digit : Char} (among : digit ∈ hexadecimal number) :
    digit ∈ hexDigits := by
  induction number using Nat.strong_induction_on with
  | _ number inductive_ =>
    unfold hexadecimal at among
    rw [Nat.toDigits_eq_if (by decide)] at among
    split at among
    · rename_i small
      rw [List.mem_singleton.mp among]
      exact digitChar_mem small
    · rename_i large
      rcases List.mem_append.mp among with before | last
      · exact inductive_ _ (by omega) before
      · rw [List.mem_singleton.mp last]
        exact digitChar_mem (Nat.mod_lt _ (by decide))

theorem hexValue_hexadecimal (number : Nat) : hexValue (hexadecimal number) = number := by
  induction number using Nat.strong_induction_on with
  | _ number inductive_ =>
    unfold hexadecimal
    rw [Nat.toDigits_eq_if (by decide)]
    split
    · rename_i small
      simp [hexValue, digitValue_digitChar small]
    · rename_i large
      have before := inductive_ (number / 16) (by omega)
      unfold hexValue hexadecimal at before
      unfold hexValue
      rw [List.foldl_append, before]
      simp only [List.foldl_cons, List.foldl_nil, digitValue_digitChar (Nat.mod_lt number (by decide : 16 > 0))]
      omega

theorem digitValue_lt (digit : Char) (digital : digit ∈ hexDigits) : digitValue digit < 16 := by
  have all : hexDigits.all (digitValue · < 16) = true := by rfl
  exact of_decide_eq_true (List.all_eq_true.mp all digit digital)

theorem hexValue_lt {digits : Text} (digital : ∀ digit ∈ digits, digit ∈ hexDigits) :
    hexValue digits < 16 ^ digits.length := by
  induction digits using List.reverseRecOn with
  | nil => decide
  | append_singleton digits digit inductive_ =>
    have before := inductive_ fun other among => digital other (List.mem_append_left _ among)
    have last := digitValue_lt digit (digital digit (by simp))
    have read : hexValue (digits ++ [digit]) = hexValue digits * 16 + digitValue digit := by
      simp [hexValue]
    rw [read, List.length_append, List.length_singleton, Nat.pow_succ]
    omega

structure Group where
  digits : Text
  written : digits ≠ []
  short : digits.length ≤ 4
  digital : ∀ digit ∈ digits, digit ∈ hexDigits

namespace Group

def value (group : Group) : Nat := hexValue group.digits

def Shortest (group : Group) : Prop := group.digits = hexadecimal group.value

def ofNumber (number : Nat) (below : number < 65536) : Group where
  digits := hexadecimal number
  written := Nat.toDigits_ne_nil
  short := (Nat.length_toDigits_le_iff (by decide) (by decide)).mpr below
  digital := fun _ among => hexadecimal_mem among

theorem value_ofNumber (number : Nat) (below : number < 65536) :
    (ofNumber number below).value = number := hexValue_hexadecimal number

theorem value_lt (group : Group) : group.value < 65536 :=
  lt_of_lt_of_le (hexValue_lt group.digital) (Nat.pow_le_pow_right (by decide) group.short)

theorem colonless (group : Group) : ':' ∉ group.digits := by
  intro among
  exact absurd (group.digital _ among) (by decide)

end Group

structure Quad where
  first : Fin 256
  second : Fin 256
  third : Fin 256
  fourth : Fin 256

namespace Quad

def text (quad : Quad) : Text :=
  join '.' [decimal quad.first, decimal quad.second, decimal quad.third, decimal quad.fourth]

def groups (quad : Quad) : List Nat :=
  [quad.first * 256 + quad.second, quad.third * 256 + quad.fourth]

end Quad

theorem decimal_digits {number : Nat} (among : letter ∈ decimal number) :
    letter.isDigit = true :=
  Nat.isDigit_of_mem_toDigits (by decide) (by decide) among

/-- An IPv6 text. What follows a `::` is apart from what stands before it. -/
structure Spelling where
  front : List Group
  back : Option (List Group)
  quad : Option Quad
  zone : Option Text
  complete : match back with
    | none => front.length + (quad.elim 0 fun _ => 2) = 8
    | some back => front.length + back.length + (quad.elim 0 fun _ => 2) ≤ 7
  zoned : ∀ name ∈ zone, ':' ∉ name

namespace Spelling

def ending (spelling : Spelling) (back : List Group) : List Text :=
  back.map Group.digits ++ (spelling.quad.map Quad.text).toList

def pieces (spelling : Spelling) : List Text :=
  match spelling.back with
  | none => spelling.front.map Group.digits ++ (spelling.quad.map Quad.text).toList
  | some back =>
    (if spelling.front = [] then [[]] else spelling.front.map Group.digits) ++ [] ::
      (if spelling.ending back = [] then [[]] else spelling.ending back)

def suffix (spelling : Spelling) : Text := spelling.zone.elim [] fun name => '%' :: name

def text (spelling : Spelling) : Text := join ':' spelling.pieces ++ spelling.suffix

def groups (spelling : Spelling) : List Nat :=
  let quad := (spelling.quad.map Quad.groups).getD []
  match spelling.back with
  | none => spelling.front.map Group.value ++ quad
  | some back =>
    let written := spelling.front.length + back.length + quad.length
    spelling.front.map Group.value ++ List.replicate (8 - written) 0 ++
      back.map Group.value ++ quad

variable {spelling : Spelling}

def mapped (spelling : Spelling) : Bool := spelling.groups.take 6 = [0, 0, 0, 0, 0, 65535]

theorem quad_colonless (quad : Quad) : ':' ∉ quad.text := by
  apply not_mem_join (by decide)
  intro piece among listed
  simp only [List.mem_cons, List.not_mem_nil, or_false] at among
  rcases among with rfl | rfl | rfl | rfl <;> exact absurd (decimal_digits listed) (by decide)

variable {piece : Text}

theorem digits_colonless {groups : List Group}
    (among : piece ∈ groups.map Group.digits) : ':' ∉ piece := by
  obtain ⟨group, -, rfl⟩ := List.mem_map.mp among
  exact group.colonless

theorem ending_colonless (spelling : Spelling) {back : List Group} (among : piece ∈ spelling.ending back) :
    ':' ∉ piece := by
  rcases List.mem_append.mp among with digits | quad
  · exact digits_colonless digits
  · obtain ⟨text, -, rfl⟩ := Option.map_eq_some_iff.mp (Option.mem_toList.mp quad)
    exact quad_colonless text

theorem pieces_colonless (among : piece ∈ spelling.pieces) : ':' ∉ piece := by
  unfold pieces at among
  split at among
  · exact ending_colonless spelling among
  rcases List.mem_append.mp among with front | rest
  · split at front
    · simp_all
    · exact digits_colonless front
  · rcases List.mem_cons.mp rest with rfl | rest
    · exact List.not_mem_nil
    · split at rest
      · simp_all
      · exact ending_colonless spelling rest

theorem suffix_colonless : ':' ∉ spelling.suffix := by
  unfold suffix
  cases zone : spelling.zone with
  | none => exact List.not_mem_nil
  | some name =>
    have apart := spelling.zoned name zone
    simpa using apart

theorem complete_none (is : spelling.back = none) :
    spelling.front.length + (spelling.quad.elim 0 fun _ => 2) = 8 := by
  have complete := spelling.complete
  rw [is] at complete
  exact complete

theorem complete_some {back : List Group} (is : spelling.back = some back) :
    spelling.front.length + back.length + (spelling.quad.elim 0 fun _ => 2) ≤ 7 := by
  have complete := spelling.complete
  rw [is] at complete
  exact complete

theorem groups_length : spelling.groups.length = 8 := by
  unfold groups
  cases is : spelling.back with
  | none =>
    have complete := complete_none is
    cases quad : spelling.quad <;> simp [quad, Quad.groups] at complete ⊢ <;> omega
  | some back =>
    have complete := complete_some is
    cases quad : spelling.quad <;> simp [quad, Quad.groups] at complete ⊢ <;> omega

theorem groups_lt {number : Nat} (among : number ∈ spelling.groups) : number < 65536 := by
  have written {groups : List Group} (listed : number ∈ groups.map Group.value) :
      number < 65536 := by
    obtain ⟨group, -, rfl⟩ := List.mem_map.mp listed
    exact group.value_lt
  have quads (listed : number ∈ (spelling.quad.map Quad.groups).getD []) : number < 65536 := by
    cases carried : spelling.quad with
    | none => simp [carried] at listed
    | some quad =>
      simp only [carried, Option.map_some, Option.getD_some, Quad.groups, List.mem_cons,
        List.not_mem_nil, or_false] at listed
      omega
  unfold groups at among
  split at among
  · exact (List.mem_append.mp among).elim written quads
  simp only [List.mem_append, or_assoc] at among
  rcases among with front | zeros | back | quad
  · exact written front
  · rw [List.eq_of_mem_replicate zeros]
    decide
  · exact written back
  · exact quads quad

def full (numbers : List Nat) (below : ∀ number ∈ numbers, number < 65536)
    (eight : numbers.length = 8) : Spelling where
  front := numbers.pmap Group.ofNumber below
  back := none
  quad := none
  zone := none
  complete := by simpa using eight
  zoned := by simp

theorem groups_full (numbers : List Nat) (below : ∀ number ∈ numbers, number < 65536)
    (eight : numbers.length = 8) : (full numbers below eight).groups = numbers := by
  simp [groups, full, List.map_pmap, Group.value_ofNumber]

theorem full_shortest {numbers : List Nat} {below : ∀ number ∈ numbers, number < 65536}
    {eight : numbers.length = 8} {group : Group} (among : group ∈ (full numbers below eight).front) :
    group.Shortest := by
  obtain ⟨number, listed, rfl⟩ := List.mem_pmap.mp among
  exact congrArg hexadecimal (Group.value_ofNumber number (below number listed)).symm

theorem groups_take (long : 4 ≤ spelling.front.length) :
    spelling.groups.take 4 = (spelling.front.take 4).map Group.value := by
  rw [List.map_take]
  unfold groups
  split
  · rw [List.take_append_of_le_length (by simpa using long)]
  · rw [List.append_assoc, List.append_assoc, List.take_append_of_le_length (by simpa using long)]

theorem split_text (some : spelling.pieces ≠ []) : spelling.text.splitOn ':' =
    spelling.pieces.dropLast ++ [spelling.pieces.getLast some ++ spelling.suffix] := by
  have whole := List.dropLast_append_getLast some
  have last : ':' ∉ spelling.pieces.getLast some := pieces_colonless (List.getLast_mem some)
  have joined : spelling.text = join ':'
      (spelling.pieces.dropLast ++ [spelling.pieces.getLast some ++ spelling.suffix]) := by
    rw [← join_append, whole]
    rfl
  rw [joined]
  apply split_join
  · intro piece among
    rcases List.mem_append.mp among with before | only
    · exact pieces_colonless (List.mem_of_mem_dropLast before)
    · rw [List.mem_singleton.mp only, List.mem_append]
      exact not_or.mpr ⟨last, suffix_colonless⟩
  · simp

theorem back_of_short (short : spelling.front.length < 4) :
    ∃ back, spelling.back = some back := by
  cases is : spelling.back with
  | none =>
    have complete := complete_none is
    cases quad : spelling.quad <;> simp [quad] at complete <;> omega
  | some back => exact ⟨back, rfl⟩

theorem pieces_long (spelling : Spelling) : 3 ≤ spelling.pieces.length := by
  unfold pieces
  cases is : spelling.back with
  | none =>
    have complete := complete_none is
    cases quad : spelling.quad <;> simp [quad] at complete ⊢ <;> omega
  | some back =>
    have front : 1 ≤ (if spelling.front = [] then [[]]
        else spelling.front.map Group.digits).length := by
      split
      · simp
      · rename_i written
        simpa [Nat.one_le_iff_ne_zero] using written
    have last : 1 ≤ (if spelling.ending back = [] then [[]] else spelling.ending back).length := by
      split
      · simp
      · rename_i written
        simpa [Nat.one_le_iff_ne_zero] using written
    simp only [List.length_append, List.length_cons]
    omega

theorem pieces_some : spelling.pieces ≠ [] := by
  intro none
  have long := spelling.pieces_long
  simp [none] at long

theorem take_long (long : 4 ≤ spelling.front.length) :
    (spelling.text.splitOn ':').take 4 = (spelling.front.take 4).map Group.digits := by
  obtain ⟨rest, more, split⟩ : ∃ rest, rest ≠ [] ∧
      spelling.pieces = (spelling.front.take 4).map Group.digits ++ rest := by
    have whole : spelling.front.map Group.digits =
        (spelling.front.take 4).map Group.digits ++ (spelling.front.drop 4).map Group.digits := by
      rw [← List.map_append, List.take_append_drop]
    unfold pieces
    cases is : spelling.back with
    | none =>
      have complete := complete_none is
      refine ⟨(spelling.front.drop 4).map Group.digits ++ (spelling.quad.map Quad.text).toList, ?_,
        by dsimp only; rw [whole, List.append_assoc]⟩
      cases quad : spelling.quad <;> simp [quad] at complete ⊢
      omega
    | some back =>
      have written : spelling.front ≠ [] := by
        intro none
        simp [none] at long
      refine ⟨(spelling.front.drop 4).map Group.digits ++ [] ::
        (if spelling.ending back = [] then [[]] else spelling.ending back), by simp, ?_⟩
      dsimp only
      rw [if_neg written, whole, List.append_assoc]
  rw [split_text pieces_some, List.take_append_of_le_length]
  · simp only [split, List.dropLast_append_of_ne_nil more]
    rw [List.take_append_of_le_length (by simp; omega), List.take_of_length_le (by simp)]
  · have longer : 1 ≤ rest.length := List.length_pos_iff.mpr more
    simp only [split, List.length_dropLast, List.length_append, List.length_map, List.length_take]
    omega

theorem take_short (short : spelling.front.length < 4) :
    [] ∈ (spelling.text.splitOn ':').take 4 := by
  obtain ⟨back, is⟩ := back_of_short short
  obtain ⟨before, after, few, more, split⟩ : ∃ before after, before.length < 4 ∧ after ≠ [] ∧
      spelling.pieces = before ++ [] :: after := by
    unfold pieces
    rw [is]
    refine ⟨_, _, ?_, ?_, rfl⟩
    · split
      · decide
      · simpa using short
    · split
      · decide
      · rename_i written
        exact written
  rw [split_text pieces_some]
  have kept : spelling.pieces.dropLast = before ++ [] :: after.dropLast := by
    rw [split, List.dropLast_append_of_ne_nil (by simp), List.dropLast_cons_of_ne_nil more]
  rw [kept, List.append_assoc, List.take_append]
  apply List.mem_append_right
  obtain ⟨left, is⟩ : ∃ left, 4 - before.length = left + 1 := ⟨3 - before.length, by omega⟩
  rw [is, List.cons_append, List.take_succ_cons]
  exact List.mem_cons_self

theorem colon_mem : ':' ∈ spelling.text := by
  have long := spelling.pieces_long
  apply List.mem_append_left
  match pieces : spelling.pieces with
  | [] => simp [pieces] at long
  | [_] => simp [pieces] at long
  | _ :: _ :: _ => exact mem_join

end Spelling

inductive AddressText where
  | v4 (quad : Quad)
  | v6 (spelling : Spelling)

def AddressText.text : AddressText → Text
  | .v4 quad => quad.text
  | .v6 spelling => spelling.text

end AddressTexts
