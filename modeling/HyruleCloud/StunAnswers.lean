import Mathlib.Data.List.Basic
import Mathlib.Data.Nat.Bitwise

/-!
The answer to a STUN binding request, services/voip/stun_probe.py. The attributes of the body
are walked one by one until a mapped address is read; a slice of the body ends where the body
ends, whatever length an attr declares.
-/

namespace HyruleCloud.StunAnswers

abbrev Bytes := List UInt8

/-- `struct.unpack(">H")`, `struct.unpack(">I")` -/
def bigEndian (bytes : Bytes) : Nat := bytes.foldl (fun value byte => 256 * value + byte.toNat) 0

/-- `struct.pack(">H")` -/
def packH (value : Nat) : Bytes := [UInt8.ofNat (value / 256), UInt8.ofNat value]

def magicCookie : Bytes := [0x21, 0x12, 0xA4, 0x42]

def bindingSuccess : Nat := 0x0101

def attrXorMappedAddress : Nat := 0x0020

inductive AddressFamily where
  | inet | inet6
  deriving DecidableEq

def AddressFamily.size : AddressFamily → Nat
  | .inet => 4
  | .inet6 => 16

def AddressFamily.code : AddressFamily → UInt8
  | .inet => 0x01
  | .inet6 => 0x02

/-- What a text of `inet_ntop` stands for. -/
structure Address where
  family : AddressFamily
  packed : Bytes
  sized : packed.length = family.size
  deriving DecidableEq

def inetNtop (family : AddressFamily) (packed : Bytes) : Except String Address :=
  if sized : packed.length = family.size then .ok ⟨family, packed, sized⟩
  else .error "invalid length of packed IP address string"

/-! `_parse_xor_mapped_address` -/

def familyOf (value : Bytes) : Option AddressFamily :=
  if value[1]? = some AddressFamily.inet.code then some .inet
  else if value[1]? = some AddressFamily.inet6.code then some .inet6
  else none

def mask (txid : Bytes) : AddressFamily → Bytes
  | .inet => magicCookie
  | .inet6 => magicCookie ++ txid

/-- The attribute at the start of what is left of the body: `declared` is its length field and
`value` the slice. -/
structure RawAttribute where
  type : Nat
  declared : Nat
  value : Bytes

def rawAttribute (body : Bytes) : RawAttribute :=
  let attrLen := bigEndian ((body.drop 2).take 2)
  ⟨bigEndian (body.take 2), attrLen, (body.drop 4).take attrLen⟩

/-- `body[offset:]` for the next offset -/
def afterAttribute (body : Bytes) : Bytes :=
  let attrLen := (rawAttribute body).declared
  body.drop (4 + attrLen + (4 - attrLen % 4) % 4)

def mappedAddress (txid : Bytes) (attr : RawAttribute) :
    Option (Except String (Address × Nat)) :=
  let value := attr.value
  if attr.type = attrXorMappedAddress ∧ 8 ≤ value.length then
    let xport := bigEndian ((value.drop 2).take 2) ^^^ 0x2112
    (familyOf value).map fun family =>
      let raw := ((value.drop 4).take family.size).zipWith (· ^^^ ·) (mask txid family)
      (inetNtop family raw).map fun address => (address, xport)
  else none

def scan (txid body : Bytes) : Except String (Option (Address × Nat)) :=
  if 4 ≤ body.length then
    match mappedAddress txid (rawAttribute body) with
    | some answer => answer.map some
    | none => scan txid (afterAttribute body)
  else .ok none
termination_by body.length
decreasing_by
  simp only [afterAttribute, List.length_drop]
  omega

def msgLen (data : Bytes) : Nat := bigEndian ((data.drop 2).take 2)

def isAnswer (data txid : Bytes) : Bool :=
  20 ≤ data.length && bigEndian (data.take 2) = bindingSuccess &&
    (data.drop 4).take 4 = magicCookie && (data.drop 8).take 12 = txid

def bodyOf (data : Bytes) : Bytes := (data.drop 20).take (msgLen data)

def parseXorMappedAddress (data txid : Bytes) : Except String (Option (Address × Nat)) :=
  if isAnswer data txid then scan txid (bodyOf data) else .ok none

/-! What is sent: attributes in their frames. -/

structure Attribute where
  type : Nat
  value : Bytes
  padding : Bytes
  typed : type < 65536
  sized : value.length < 65536
  padded : padding.length = (4 - value.length % 4) % 4

def Attribute.encode (attr : Attribute) : Bytes :=
  packH attr.type ++ packH attr.value.length ++ attr.value ++ attr.padding

def response (txid : Bytes) (attributes : List Attribute) : Bytes :=
  let body := attributes.flatMap Attribute.encode
  packH bindingSuccess ++ packH body.length ++ magicCookie ++ txid ++ body

def mappedValue (txid : Bytes) (reserved : UInt8) (address : Address) (port : Nat) : Bytes :=
  reserved :: address.family.code :: packH (port ^^^ 0x2112) ++
    address.packed.zipWith (· ^^^ ·) (mask txid address.family)

/-! What is received: the attributes of any body, as the walk cuts them. -/

def attributes (body : Bytes) : List RawAttribute :=
  if 4 ≤ body.length then rawAttribute body :: attributes (afterAttribute body) else []
termination_by body.length
decreasing_by
  simp only [afterAttribute, List.length_drop]
  omega

/-- Cut off by the end of the body, or not of the length of its family. -/
def RawAttribute.Misfit (attr : RawAttribute) : Prop :=
  attr.value.length < attr.declared ∨ attr.declared < 8 ∨
    ∃ family ∈ familyOf attr.value, attr.declared ≠ 4 + family.size

def Malformed (data : Bytes) : Prop :=
  data.length < 20 + msgLen data ∨
    ∃ attr ∈ (attributes (bodyOf data)).find? (·.type = attrXorMappedAddress),
      attr.Misfit

abbrev RawAttribute.Converts (attr : RawAttribute) : Prop :=
  attr.type = attrXorMappedAddress ∧ 8 ≤ attr.value.length ∧ (familyOf attr.value).isSome

/-- The attribute that is converted: the first one of its type with eight bytes and a family. -/
def converted (data txid : Bytes) : Option RawAttribute :=
  if isAnswer data txid then (attributes (bodyOf data)).find? (·.Converts) else none

structure ParsesSoundly (data txid : Bytes) : Prop where
  returns : ∃ result, parseXorMappedAddress data txid = .ok result
  reads : ∀ (before : List Attribute) (attr : Attribute) (after : List Attribute)
    (reserved : UInt8) (address : Address) (port : Nat),
    txid.length = 12 → data = response txid (before ++ attr :: after) →
      ((before ++ attr :: after).flatMap Attribute.encode).length < 65536 →
      (∀ other ∈ before, other.type ≠ attrXorMappedAddress) →
      attr.type = attrXorMappedAddress → port < 65536 →
      attr.value = mappedValue txid reserved address port →
      parseXorMappedAddress data txid = .ok (some (address, port))
  rejects : Malformed data → parseXorMappedAddress data txid = .ok none

section Encoding

variable {txid : Bytes} {address : Address} {port : Nat}

theorem bigEndian_packH {value : Nat} (small : value < 65536) :
    bigEndian (packH value) = value := by
  simp only [bigEndian, packH, List.foldl_cons, List.foldl_nil, UInt8.toNat_ofNat']
  omega

theorem rawAttribute_encode (attr : Attribute) (rest : Bytes) :
    rawAttribute (attr.encode ++ rest) =
      ⟨attr.type, attr.value.length, attr.value⟩ := by
  have typed := bigEndian_packH attr.typed
  have sized := bigEndian_packH attr.sized
  have value : (attr.encode ++ rest).drop 4 = attr.value ++ (attr.padding ++ rest) :=
    List.append_assoc ..
  rw [rawAttribute, value]
  dsimp only [Attribute.encode, packH, List.cons_append, List.nil_append, List.take, List.drop]
    at typed sized ⊢
  rw [typed, sized, List.take_left]

theorem afterAttribute_encode (attr : Attribute) (rest : Bytes) :
    afterAttribute (attr.encode ++ rest) = rest := by
  unfold afterAttribute
  rw [rawAttribute_encode]
  refine List.drop_left' ?_
  simp only [Attribute.encode, packH, List.length_append, List.length_cons, List.length_nil,
    attr.padded]

theorem zipWith_xor (packed mask : Bytes) (covered : packed.length ≤ mask.length) :
    (packed.zipWith (· ^^^ ·) mask).zipWith (· ^^^ ·) mask = packed := by
  induction packed generalizing mask with
  | nil => simp
  | cons byte rest ih =>
    cases mask with
    | nil => simp at covered
    | cons key keys =>
      simp only [List.zipWith_cons_cons, UInt8.xor_assoc, UInt8.xor_self, UInt8.xor_zero]
      rw [ih keys (by simpa using covered)]

theorem mask_length (own : txid.length = 12) (family : AddressFamily) :
    (mask txid family).length = family.size := by
  cases family with
  | inet => rfl
  | inet6 => exact List.length_append.trans (congrArg (4 + ·) own)

theorem mappedAddress_encode {reserved : UInt8} {attr : RawAttribute}
    (type : attr.type = attrXorMappedAddress) (own : txid.length = 12)
    (small : port < 65536) (value : attr.value = mappedValue txid reserved address port) :
    mappedAddress txid attr = some (.ok (address, port)) := by
  have masked := mask_length own address.family
  have length : (address.packed.zipWith (· ^^^ ·) (mask txid address.family)).length =
      address.family.size := by
    rw [List.length_zipWith, address.sized, masked, Nat.min_self]
  have known : familyOf attr.value = some address.family := by
    rw [value]
    unfold familyOf mappedValue
    cases address.family <;> rfl
  have sent : bigEndian ((attr.value.drop 2).take 2) ^^^ 0x2112 = port := by
    have kept := bigEndian_packH (@Nat.xor_lt_two_pow port 0x2112 16 small (by decide))
    rw [show (attr.value.drop 2).take 2 = packH (port ^^^ 0x2112) by rw [value]; rfl, kept,
      Nat.xor_assoc, Nat.xor_self, Nat.xor_zero]
  have tail : attr.value.drop 4 = address.packed.zipWith (· ^^^ ·) (mask txid address.family) := by
    rw [value]
    rfl
  have raw : (((attr.value.drop 4).take address.family.size).zipWith (· ^^^ ·)
      (mask txid address.family)) = address.packed := by
    rw [tail, List.take_of_length_le (le_of_eq length)]
    exact zipWith_xor _ _ (by rw [address.sized, masked])
  have long : 8 ≤ attr.value.length := by
    rw [← tail, List.length_drop] at length
    cases family : address.family <;> rw [family, AddressFamily.size] at length <;> omega
  unfold mappedAddress
  dsimp only
  rw [if_pos ⟨type, long⟩, known, sent, Option.map_some, raw]
  simp [inetNtop, address.sized, Except.map]

theorem scan_encode {before after : List Attribute} {attr : Attribute} {reserved : UInt8}
    (others : ∀ other ∈ before, other.type ≠ attrXorMappedAddress)
    (type : attr.type = attrXorMappedAddress) (own : txid.length = 12)
    (small : port < 65536) (value : attr.value = mappedValue txid reserved address port) :
    scan txid ((before ++ attr :: after).flatMap Attribute.encode) =
      .ok (some (address, port)) := by
  have framed : ∀ (attr : Attribute) (rest : Bytes),
      4 ≤ (attr.encode ++ rest).length := by
    intro attr rest
    simp only [Attribute.encode, packH, List.length_append, List.length_cons]
    omega
  induction before with
  | nil =>
    rw [List.nil_append, List.flatMap_cons, scan, if_pos (framed _ _), rawAttribute_encode,
      mappedAddress_encode type own small value]
    rfl
  | cons other rest ih =>
    have passed : mappedAddress txid ⟨other.type, other.value.length, other.value⟩ = none :=
      if_neg fun both => others other List.mem_cons_self both.1
    rw [List.cons_append, List.flatMap_cons, scan, if_pos (framed _ _), rawAttribute_encode,
      passed]
    dsimp only
    rw [afterAttribute_encode]
    exact ih fun other listed => others other (List.mem_cons_of_mem _ listed)

theorem response_parses {attributes : List Attribute} (own : txid.length = 12)
    (short : (attributes.flatMap Attribute.encode).length < 65536) :
    parseXorMappedAddress (response txid attributes) txid =
      scan txid (attributes.flatMap Attribute.encode) := by
  have sized := bigEndian_packH short
  have id_ : (txid ++ attributes.flatMap Attribute.encode).take 12 = txid := List.take_left' own
  have rest : (txid ++ attributes.flatMap Attribute.encode).drop 12 =
      attributes.flatMap Attribute.encode := List.drop_left' own
  have answer : isAnswer (response txid attributes) txid = true := by
    unfold isAnswer response
    simp only [packH, magicCookie, List.cons_append, List.nil_append,
      List.take_succ_cons, List.take_zero, List.drop_succ_cons, List.drop_zero, id_,
      List.length_cons, List.length_append, own]
    simp [bigEndian, bindingSuccess]
  unfold parseXorMappedAddress
  rw [if_pos answer]
  unfold bodyOf msgLen response
  simp only [packH, magicCookie, List.cons_append, List.nil_append,
    List.take_succ_cons, List.take_zero, List.drop_succ_cons, List.drop_zero, rest] at sized ⊢
  rw [sized, List.take_length]

end Encoding

/-! One attribute decides what is returned. -/

section Converted

variable {data txid body : Bytes}

theorem mappedAddress_none {attr : RawAttribute} :
    mappedAddress txid attr = none ↔ ¬ attr.Converts := by
  unfold mappedAddress
  dsimp only
  split
  · rename_i address
    simp [address.1, address.2]
  · rename_i other
    exact iff_of_true rfl fun all => other ⟨all.1, all.2.1⟩

def answered (txid : Bytes) (attr : Option RawAttribute) : Except String (Option (Address × Nat)) :=
  ((attr.bind (mappedAddress txid)).map (·.map some)).getD (.ok none)

theorem scan_eq (txid body : Bytes) :
    scan txid body = answered txid ((attributes body).find? (·.Converts)) := by
  induction body using scan.induct txid with
  | case1 body framed answer found =>
    rw [scan, attributes, if_pos framed, if_pos framed, found, List.find?_cons_of_pos]
    · simp [answered, found]
    · by_contra other
      rw [mappedAddress_none.mpr (by simpa using other)] at found
      cases found
  | case2 body framed passed ih =>
    rw [scan, attributes, if_pos framed, if_pos framed, passed, List.find?_cons_of_neg]
    · exact ih
    · simpa using mappedAddress_none.mp passed
  | case3 body ended =>
    rw [scan, attributes, if_neg ended, if_neg ended]
    rfl

theorem parse_converted (data txid : Bytes) :
    parseXorMappedAddress data txid = answered txid (converted data txid) := by
  unfold parseXorMappedAddress converted
  split
  · exact scan_eq txid (bodyOf data)
  · rfl

/-- An IPv6 address of less than 16 bytes -/
def RawAttribute.Short (attr : RawAttribute) : Prop :=
  familyOf attr.value = some .inet6 ∧ attr.value.length < 20

theorem converted_parses {attr : RawAttribute} (chosen : converted data txid = some attr) :
    (attr.Short → ∃ error, parseXorMappedAddress data txid = .error error) ∧
      (¬ attr.Short → ∃ address, parseXorMappedAddress data txid = .ok (some address)) := by
  rw [parse_converted, chosen]
  unfold converted at chosen
  split at chosen
  · rename_i answer
    have own : txid.length = 12 := by
      simp only [isAnswer, Bool.and_eq_true, decide_eq_true_eq] at answer
      rw [← answer.2, List.length_take, List.length_drop]
      omega
    have address := List.find?_some chosen
    have ⟨type, long, known⟩ := of_decide_eq_true address
    obtain ⟨family, known⟩ := Option.isSome_iff_exists.mp known
    have length : (((attr.value.drop 4).take family.size).zipWith (· ^^^ ·)
        (mask txid family)).length = min family.size (attr.value.length - 4) := by
      simp [mask_length own]
    have shorter : attr.Short ↔ attr.value.length - 4 < family.size := by
      unfold RawAttribute.Short
      rw [known]
      cases family with
      | inet => exact iff_of_false nofun (by simp only [AddressFamily.size]; omega)
      | inet6 => simp only [AddressFamily.size, true_and]; omega
    unfold answered mappedAddress inetNtop
    rw [Option.bind_some]
    dsimp only
    rw [if_pos ⟨type, long⟩, known, Option.map_some, shorter]
    constructor
    · intro short
      rw [dif_neg (by omega)]
      exact ⟨_, rfl⟩
    · intro whole
      rw [dif_pos (by omega)]
      exact ⟨_, rfl⟩
  · cases chosen

end Converted

/-- The parser does what it should just where nothing is converted, or the string is not
malformed and the attribute that is converted has all bytes of its address. -/
theorem parses_soundly_iff (data txid : Bytes) : ParsesSoundly data txid ↔
    ∀ attr, converted data txid = some attr → ¬ Malformed data ∧ ¬ attr.Short := by
  constructor
  · intro sound attr chosen
    have ⟨raises, returns⟩ := converted_parses chosen
    have whole : ¬ attr.Short := by
      intro short
      obtain ⟨error, raised⟩ := raises short
      obtain ⟨result, returned⟩ := sound.returns
      rw [raised] at returned
      cases returned
    refine ⟨fun malformed => ?_, whole⟩
    obtain ⟨address, returned⟩ := returns whole
    rw [sound.rejects malformed] at returned
    cases returned
  · intro fits
    constructor
    · cases chosen : converted data txid with
      | none => exact ⟨none, by rw [parse_converted, chosen]; rfl⟩
      | some attr =>
        obtain ⟨address, returned⟩ := (converted_parses chosen).2 (fits attr chosen).2
        exact ⟨_, returned⟩
    · intro before attr after reserved address port own sent short others type small value
      rw [sent, response_parses own short]
      exact scan_encode others type own small value
    · intro malformed
      cases chosen : converted data txid with
      | none => exact (parse_converted data txid).trans (by rw [chosen]; rfl)
      | some attr => exact absurd malformed (fits attr chosen).1

/-- A mapped address of family 2 in eight bytes. -/
def shortAnswer : Bytes :=
  packH bindingSuccess ++ packH 12 ++ magicCookie ++ List.replicate 12 0 ++
    (packH attrXorMappedAddress ++ packH 8 ++ [0, 2, 0, 0, 0, 0, 0, 0])

theorem short_answer_raises : ¬ ParsesSoundly shortAnswer (List.replicate 12 0) := by
  intro sound
  obtain ⟨result, returned⟩ := sound.returns
  have raised : parseXorMappedAddress shortAnswer (List.replicate 12 0) =
      .error "invalid length of packed IP address string" := by
    have answer : isAnswer shortAnswer (List.replicate 12 0) = true := by decide
    have found : mappedAddress (List.replicate 12 0) (rawAttribute (bodyOf shortAnswer)) =
        some (.error "invalid length of packed IP address string") := by decide +kernel
    rw [parseXorMappedAddress, if_pos answer, scan, if_pos (by decide), found]
    rfl
  rw [raised] at returned
  cases returned

end HyruleCloud.StunAnswers
