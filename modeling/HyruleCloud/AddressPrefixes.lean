import HyruleCloud.AddressTexts

/-!
The prefix of a client's address under which its requests are counted, cut out of the text of
the address. It is the text of the address's network where the text writes the first four
groups of an unmapped address in front of any `::`, each as short as it can be.
-/

namespace HyruleCloud.AddressPrefixes

open AddressTexts

/-- A `/24` of IPv4 or a `/64` of IPv6. -/
inductive Network where
  | v4 (first second third : Nat)
  | v6 (first second third fourth : Nat)
  deriving DecidableEq

def network : AddressText → Network
  | .v4 quad => .v4 quad.first quad.second quad.third
  | .v6 spelling =>
    let groups := spelling.groups
    if spelling.mapped then
      .v4 (groups.getD 6 0 / 256) (groups.getD 6 0 % 256) (groups.getD 7 0 / 256)
    else .v6 (groups.getD 0 0) (groups.getD 1 0) (groups.getD 2 0) (groups.getD 3 0)

def ipPrefix (ip : Text) : Text :=
  if ':' ∈ ip then join ':' ((ip.splitOn ':').take 4)
  else join '.' ((ip.splitOn '.').take 3)

/-- The digest stands for the hexadecimal SHA-256 of a text in UTF-8. -/
def deriveIpPrefixHash (digest : Text → Text) (pepper : Text) (ip : Option Text) : Option Text :=
  match ip with
  | none => none
  | some ip => if ip = [] then none else some (digest (ipPrefix ip ++ pepper))

/-- The text of a network that the addresses written in full have in common. -/
def Network.label : Network → Text
  | .v4 first second third => join '.' ([first, second, third].map decimal)
  | .v6 first second third fourth => join ':' ([first, second, third, fourth].map hexadecimal)

/-- The text writes the `/64` of an unmapped address in full, and each group as short as it
can be; IPv4 texts have one form. -/
def WritesPlainly : AddressText → Prop
  | .v4 _ => True
  | .v6 spelling => spelling.mapped = false ∧ 4 ≤ spelling.front.length ∧
      ∀ group ∈ spelling.front.take 4, group.Shortest

theorem dotless {number : Nat} {letter : Char} (letterly : letter.isDigit = false) :
    letter ∉ decimal number := by
  intro among
  rw [decimal_digits among] at letterly
  cases letterly

theorem colonless {number : Nat} : ':' ∉ hexadecimal number := by
  intro among
  exact absurd (hexadecimal_mem among) (by decide)

variable {numbers : List Nat}

theorem decimals_apart {letter : Char} (letterly : letter.isDigit = false) :
    ∀ piece ∈ numbers.map decimal, letter ∉ piece := by
  intro piece among
  obtain ⟨number, -, rfl⟩ := List.mem_map.mp among
  exact dotless letterly

theorem hexadecimals_apart :
    ∀ piece ∈ numbers.map hexadecimal, ':' ∉ piece := by
  intro piece among
  obtain ⟨number, -, rfl⟩ := List.mem_map.mp among
  exact colonless

theorem label_v4_colonless (first second third : Nat) :
    ':' ∉ (Network.v4 first second third).label :=
  not_mem_join (by decide) (decimals_apart (by decide))

theorem hexadecimal_inj {first second : Nat} (same : hexadecimal first = hexadecimal second) :
    first = second := by
  rw [← hexValue_hexadecimal first, same, hexValue_hexadecimal]

theorem label_inj {first second : Network} (same : first.label = second.label) :
    first = second := by
  cases first with
  | v4 a b c =>
    cases second with
    | v4 d e f =>
      have pieces := join_inj (decimals_apart (by decide)) (by simp) (decimals_apart (by decide))
        (by simp) same
      simp only [List.map_cons, List.map_nil, List.cons.injEq, and_true] at pieces
      obtain ⟨one, two, three⟩ := pieces
      rw [decimal_inj one, decimal_inj two, decimal_inj three]
    | v6 d e f g =>
      exact absurd (same ▸ mem_join) (label_v4_colonless a b c)
  | v6 a b c d =>
    cases second with
    | v4 e f g => exact absurd (same ▸ mem_join) (label_v4_colonless e f g)
    | v6 e f g h =>
      have pieces := join_inj hexadecimals_apart (by simp) hexadecimals_apart (by simp) same
      simp only [List.map_cons, List.map_nil, List.cons.injEq, and_true] at pieces
      obtain ⟨one, two, three, four⟩ := pieces
      rw [hexadecimal_inj one, hexadecimal_inj two, hexadecimal_inj three, hexadecimal_inj four]

theorem prefix_v4 (quad : Quad) :
    ipPrefix quad.text = (network (.v4 quad)).label := by
  have apart : ∀ piece ∈ [decimal quad.first, decimal quad.second, decimal quad.third,
      decimal quad.fourth], '.' ∉ piece := by
    intro piece among
    apply decimals_apart (by decide) piece
    show piece ∈ [quad.first.val, quad.second.val, quad.third.val, quad.fourth.val].map decimal
    exact among
  unfold ipPrefix
  rw [if_neg (Spelling.quad_colonless quad)]
  unfold Quad.text
  rw [split_join apart (by simp)]
  rfl

theorem prefix_v6 (spelling : Spelling) :
    ipPrefix spelling.text = join ':' ((spelling.text.splitOn ':').take 4) :=
  if_pos spelling.colon_mem

theorem first_four (long : 4 ≤ numbers.length) :
    [numbers.getD 0 0, numbers.getD 1 0, numbers.getD 2 0, numbers.getD 3 0] = numbers.take 4 := by
  match numbers with
  | _ :: _ :: _ :: _ :: _ => rfl

theorem label_unmapped {spelling : Spelling} (unmapped : spelling.mapped = false) :
    (network (.v6 spelling)).label = join ':' ((spelling.groups.take 4).map hexadecimal) := by
  rw [← first_four (by rw [Spelling.groups_length]; decide)]
  simp [network, unmapped, Network.label]

theorem pieces_apart (spelling : Spelling) :
    ∀ piece ∈ (spelling.text.splitOn ':').take 4, ':' ∉ piece := by
  intro piece among
  have listed := List.mem_of_mem_take among
  rw [Spelling.split_text Spelling.pieces_some] at listed
  rcases List.mem_append.mp listed with before | only
  · exact Spelling.pieces_colonless (List.mem_of_mem_dropLast before)
  · rw [List.mem_singleton.mp only, List.mem_append]
    exact not_or.mpr ⟨Spelling.pieces_colonless (List.getLast_mem _), Spelling.suffix_colonless⟩

theorem taken_long (spelling : Spelling) : 3 ≤ ((spelling.text.splitOn ':').take 4).length := by
  have pieces := spelling.pieces_long
  rw [Spelling.split_text Spelling.pieces_some]
  simp only [List.length_take, List.length_append, List.length_dropLast, List.length_singleton]
  omega

theorem prefix_colon (spelling : Spelling) : ':' ∈ ipPrefix spelling.text := by
  rw [prefix_v6]
  have long := taken_long spelling
  match found : (spelling.text.splitOn ':').take 4 with
  | [] => simp [found] at long
  | [_] => simp [found] at long
  | _ :: _ :: _ => exact mem_join

theorem prefix_label (address : AddressText) :
    ipPrefix address.text = (network address).label ↔ WritesPlainly address := by
  cases address with
  | v4 quad => exact ⟨fun _ => trivial, fun _ => prefix_v4 quad⟩
  | v6 spelling =>
    show ipPrefix spelling.text = _ ↔ _
    by_cases mapped : spelling.mapped = true
    · constructor
      · intro same
        have colon := same ▸ prefix_colon spelling
        simp only [network, mapped, if_true] at colon
        exact absurd colon (label_v4_colonless _ _ _)
      · intro plain
        rw [plain.1] at mapped
        cases mapped
    · have unmapped : spelling.mapped = false := by simpa using mapped
      rw [label_unmapped unmapped, prefix_v6]
      constructor
      · intro same
        have some := List.length_pos_iff.mp (lt_of_lt_of_le (by decide) (taken_long spelling))
        have also : (spelling.groups.take 4).map hexadecimal ≠ [] := by
          intro none
          simpa [Spelling.groups_length] using congrArg List.length none
        have pieces := join_inj (pieces_apart spelling) some hexadecimals_apart also same
        have long : 4 ≤ spelling.front.length := by
          by_contra short
          have empty := pieces ▸ Spelling.take_short (by omega)
          obtain ⟨number, -, none⟩ := List.mem_map.mp empty
          exact Nat.toDigits_ne_nil none
        refine ⟨unmapped, long, ?_⟩
        rw [Spelling.take_long long, Spelling.groups_take long, List.map_map] at pieces
        exact fun group among => List.map_inj_left.mp pieces group among
      · rintro ⟨-, long, shortest⟩
        rw [Spelling.take_long long, Spelling.groups_take long, List.map_map]
        exact congrArg _ (List.map_inj_left.mpr shortest)

theorem text_some (address : AddressText) : address.text ≠ [] := by
  intro none
  cases address with
  | v4 quad => exact absurd (none ▸ mem_join : '.' ∈ ([] : Text)) List.not_mem_nil
  | v6 spelling => exact absurd (none ▸ spelling.colon_mem : ':' ∈ ([] : Text)) List.not_mem_nil

theorem plain_exists (address : AddressText) :
    ∃ other, WritesPlainly other ∧ network other = network address := by
  cases address with
  | v4 quad => exact ⟨.v4 quad, trivial, rfl⟩
  | v6 spelling =>
    by_cases mapped : spelling.mapped = true
    · have small (place : Nat) : spelling.groups.getD place 0 < 65536 := by
        rw [List.getD_eq_getElem?_getD]
        cases found : spelling.groups[place]? with
        | none => decide
        | some number => exact Spelling.groups_lt (List.mem_of_getElem? found)
      have sixth := small 6
      have seventh := small 7
      let first : Fin 256 := ⟨spelling.groups.getD 6 0 / 256, by omega⟩
      let second : Fin 256 := ⟨spelling.groups.getD 6 0 % 256, by omega⟩
      let third : Fin 256 := ⟨spelling.groups.getD 7 0 / 256, by omega⟩
      refine ⟨.v4 ⟨first, second, third, 0⟩, trivial, ?_⟩
      simp [network, mapped, first, second, third]
    · have unmapped : spelling.mapped = false := by simpa using mapped
      let written := Spelling.full spelling.groups (fun _ => Spelling.groups_lt)
        Spelling.groups_length
      have same : written.groups = spelling.groups := Spelling.groups_full _ _ _
      refine ⟨.v6 written, ⟨?_, ?_, ?_⟩, ?_⟩
      · simpa [Spelling.mapped, same] using unmapped
      · show 4 ≤ (spelling.groups.pmap Group.ofNumber _).length
        rw [List.length_pmap, Spelling.groups_length]
        decide
      · exact fun group among => Spelling.full_shortest (List.mem_of_mem_take among)
      · simp [network, Spelling.mapped, same]

section Digests

variable {digest : Text → Text} {pepper : Text}

theorem hash_some (address : AddressText) : deriveIpPrefixHash digest pepper (some address.text) =
    some (digest (ipPrefix address.text ++ pepper)) :=
  if_neg (text_some address)

theorem keyed_plain (injective : Function.Injective digest) (address : AddressText) :
    (∀ other, WritesPlainly other → (deriveIpPrefixHash digest pepper (some address.text) =
      deriveIpPrefixHash digest pepper (some other.text) ↔ network address = network other)) ↔
        WritesPlainly address := by
  simp only [hash_some, Option.some.injEq, injective.eq_iff, List.append_cancel_right_eq]
  constructor
  · intro right
    obtain ⟨other, plain, same⟩ := plain_exists address
    rw [← prefix_label, (right other plain).mpr same.symm, (prefix_label other).mpr plain, same]
  · intro plain other also
    rw [(prefix_label address).mpr plain, (prefix_label other).mpr also]
    exact ⟨label_inj, congrArg Network.label⟩

end Digests

end HyruleCloud.AddressPrefixes
