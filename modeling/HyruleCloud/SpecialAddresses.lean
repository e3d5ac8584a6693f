import HyruleCloud.AddressBlocks

/-!
The special-purpose address registries, and what Python's `ipaddress` says of an address by
them. A more specific allocation that is globally reachable is an exception to the block that
it lies in.

An IPv6 address may carry an IPv4 address: a mapped one, a 6to4 one and one of NAT64.
-/

namespace SpecialAddresses

open AddressBlocks

def around (width address length : Nat) : Block width where
  address := address % 2 ^ width / 2 ^ (width - min length width) * 2 ^ (width - min length width)
  prefixLength := min length width
  short := Nat.min_le_right _ _
  aligned := Nat.dvd_mul_left _ _
  bounded := lt_of_le_of_lt (Nat.div_mul_le_self _ _) (Nat.mod_lt _ (Nat.two_pow_pos _))

section Places

variable {width address : Nat} {first second : Block width}

theorem contains_later (ends : first.address + first.size ≤ second.address)
    (inside : first.contains address = true) : second.contains address = false := by
  have below := (Block.contains_iff first address).mp inside
  by_contra also
  have above := (Block.contains_iff second address).mp (Bool.not_eq_false _ ▸ also)
  omega

theorem contains_outer (starts : second.address ≤ first.address)
    (ends : first.address + first.size ≤ second.address + second.size)
    (inside : first.contains address = true) : second.contains address = true := by
  have between := (Block.contains_iff first address).mp inside
  exact (Block.contains_iff second address).mpr ⟨by omega, by omega⟩

end Places

def listed {width : Nat} (blocks : List (Block width)) (address : Nat) : Bool :=
  blocks.any (·.contains address)

theorem listed_iff {width : Nat} {blocks : List (Block width)} {address : Nat} :
    listed blocks address = true ↔ ∃ block ∈ blocks, block.contains address = true :=
  List.any_eq_true

def block4 (first second third fourth length : Nat) : Block 32 :=
  around 32 (((first * 256 + second) * 256 + third) * 256 + fourth) length

def shared : Block 32 := block4 100 64 0 0 10

/-- The blocks that the registry marks as not globally reachable, but for those within another. -/
def unreachable4 : List (Block 32) :=
  [block4 0 0 0 0 8, block4 10 0 0 0 8, shared, block4 127 0 0 0 8, block4 169 254 0 0 16,
    block4 172 16 0 0 12, block4 192 0 0 0 24, block4 192 0 2 0 24, block4 192 88 99 2 32,
    block4 192 168 0 0 16, block4 198 18 0 0 15, block4 198 51 100 0 24, block4 203 0 113 0 24,
    block4 240 0 0 0 4]

def reachable4 : List (Block 32) := [block4 192 0 0 9 32, block4 192 0 0 10 32]

def unreachableV4 (address : Nat) : Bool :=
  listed unreachable4 address && !listed reachable4 address

def loopbackV4 (address : Nat) : Bool := (block4 127 0 0 0 8).contains address

def linkLocalV4 (address : Nat) : Bool := (block4 169 254 0 0 16).contains address

def multicastV4 (address : Nat) : Bool := (block4 224 0 0 0 4).contains address

def reservedV4 (address : Nat) : Bool := (block4 240 0 0 0 4).contains address

def unspecifiedV4 (address : Nat) : Bool := address = 0

def privateV4 (address : Nat) : Bool := unreachableV4 address && !shared.contains address

def block6 (groups : List Nat) (length : Nat) : Block 128 :=
  around 128 (groups.foldl (· * 65536 + ·) 0 * 65536 ^ (8 - groups.length)) length

def mappedBlock : Block 128 := block6 [0, 0, 0, 0, 0, 0xffff] 96

def sixToFour : Block 128 := block6 [0x2002] 16

def nat64 : Block 128 := block6 [0x64, 0xff9b] 96

def unreachable6 : List (Block 128) :=
  [block6 [0, 0, 0, 0, 0, 0, 0, 1] 128, block6 [0] 128, mappedBlock, block6 [0x64, 0xff9b, 1] 48,
    block6 [0x100] 64, block6 [0x100, 0, 0, 1] 64, block6 [0x2001] 23,
    block6 [0x2001, 0xdb8] 32, block6 [0x3fff] 20, block6 [0x5f00] 16, block6 [0xfc00] 7,
    block6 [0xfe80] 10]

def reachable6 : List (Block 128) :=
  [block6 [0x2001, 1, 0, 0, 0, 0, 0, 1] 128, block6 [0x2001, 1, 0, 0, 0, 0, 0, 2] 128,
    block6 [0x2001, 3] 32, block6 [0x2001, 4, 0x112] 48, block6 [0x2001, 0x20] 28,
    block6 [0x2001, 0x30] 28]

def reserved6 : List (Block 128) :=
  [block6 [0] 8, block6 [0x100] 8, block6 [0x200] 7, block6 [0x400] 6, block6 [0x800] 5,
    block6 [0x1000] 4, block6 [0x4000] 3, block6 [0x6000] 3, block6 [0x8000] 3, block6 [0xa000] 3,
    block6 [0xc000] 3, block6 [0xe000] 4, block6 [0xf000] 5, block6 [0xf800] 6, block6 [0xfe00] 9]

def unreachableV6 (address : Nat) : Bool :=
  listed unreachable6 address && !listed reachable6 address

def loopbackV6 (address : Nat) : Bool := address = 1

def linkLocalV6 (address : Nat) : Bool := (block6 [0xfe80] 10).contains address

def multicastV6 (address : Nat) : Bool := (block6 [0xff00] 8).contains address

def unspecifiedV6 (address : Nat) : Bool := address = 0

def privateV6 (address : Nat) : Bool := unreachableV6 address || sixToFour.contains address

inductive Ip where
  | v4 (address : Nat)
  | v6 (address : Nat)

def ipv4Mapped (address : Nat) : Option Nat :=
  if mappedBlock.contains address then some (address % 2 ^ 32) else none

def embedded : Ip → List Nat
  | .v4 _ => []
  | .v6 address =>
    if mappedBlock.contains address then [address % 2 ^ 32]
    else if sixToFour.contains address then [address / 2 ^ 80 % 2 ^ 32]
    else if nat64.contains address then [address % 2 ^ 32]
    else []

def publicV4 (address : Nat) : Bool :=
  !(unreachableV4 address || multicastV4 address || unspecifiedV4 address || loopbackV4 address)

def publicV6 (address : Nat) : Bool :=
  !(unreachableV6 address || multicastV6 address || unspecifiedV6 address || loopbackV6 address)

def Public (ip : Ip) : Prop :=
  (match ip with
    | .v4 address => publicV4 address
    | .v6 address => publicV6 address) = true ∧
    ∀ address ∈ embedded ip, publicV4 address = true

/-- Later releases read every flag of a mapped address off the IPv4 address, earlier ones only
`is_private`. -/
structure Release where
  mappedFollows : Bool

def Release.flag (release : Release) (four six : Nat → Bool) : Ip → Bool
  | .v4 address => four address
  | .v6 address =>
    match ipv4Mapped address with
    | some inner => if release.mappedFollows then four inner else six address
    | none => six address

def isPrivate (ip : Ip) : Bool := (Release.mk true).flag privateV4 privateV6 ip

def isLoopback (release : Release) (ip : Ip) : Bool := release.flag loopbackV4 loopbackV6 ip

def isLinkLocal (release : Release) (ip : Ip) : Bool := release.flag linkLocalV4 linkLocalV6 ip

def isMulticast (release : Release) (ip : Ip) : Bool := release.flag multicastV4 multicastV6 ip

def isReserved (release : Release) (ip : Ip) : Bool :=
  release.flag reservedV4 (listed reserved6) ip

def isUnspecified (release : Release) (ip : Ip) : Bool :=
  release.flag unspecifiedV4 unspecifiedV6 ip

section Registries

variable {address : Nat}

theorem unlisted {width : Nat} {block : Block width} {blocks : List (Block width)}
    (later : ∀ other ∈ blocks, block.address + block.size ≤ other.address)
    (inside : block.contains address = true) : listed blocks address = false := by
  by_contra also
  obtain ⟨other, among, holds⟩ := listed_iff.mp (Bool.not_eq_false _ ▸ also)
  rw [contains_later (later other among) inside] at holds
  cases holds

theorem shared_unreachable (inside : shared.contains address = true) :
    unreachableV4 address = true := by
  have known : listed unreachable4 address = true := listed_iff.mpr ⟨shared, by simp [unreachable4], inside⟩
  have except : listed reachable4 address = false := unlisted (by decide +kernel) inside
  rw [unreachableV4, known, except]
  rfl

theorem mapped_unreachable (inside : mappedBlock.contains address = true) :
    unreachableV6 address = true := by
  have known : listed unreachable6 address = true :=
    listed_iff.mpr ⟨mappedBlock, by simp [unreachable6], inside⟩
  have except : listed reachable6 address = false := unlisted (by decide +kernel) inside
  rw [unreachableV6, known, except]
  rfl

theorem reserved_low (inside : (block6 [0] 8).contains address = true) :
    listed reserved6 address = true :=
  listed_iff.mpr ⟨_, List.mem_cons_self, inside⟩

theorem mapped_reserved (inside : mappedBlock.contains address = true) :
    listed reserved6 address = true :=
  reserved_low (contains_outer (by decide +kernel) (by decide +kernel) inside)

theorem nat64_reserved (inside : nat64.contains address = true) :
    listed reserved6 address = true :=
  reserved_low (contains_outer (by decide +kernel) (by decide +kernel) inside)

end Registries

end SpecialAddresses
