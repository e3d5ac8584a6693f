import HyruleCloud.ProbeConnections
import HyruleCloud.SpecialAddresses

/-!
The gate of the active probes against the special-purpose registries. The gate reads flags of
`ipaddress`; what it lets pass is public but for shared space, which is neither private nor
global, and for mapped addresses where these have the flags of the IPv4 address.
-/

namespace HyruleCloud.ProbeTargets

open PublicProbes SpecialAddresses

def describe (release : Release) (print : Ip → String) (ip : Ip) : IpAddress where
  text := print ip
  isPrivate := isPrivate ip
  isLoopback := isLoopback release ip
  isLinkLocal := isLinkLocal release ip
  isMulticast := isMulticast release ip
  isReserved := isReserved release ip
  isUnspecified := isUnspecified release ip

def reading (platform : Platform) (release : Release) (print : Ip → String)
    (read : Text → Option Ip) : Platform :=
  { platform with ipAddress := fun text => (read text).map (describe release print) }

def Clear (release : Release) : Ip → Prop
  | .v4 address => shared.contains address = false
  | .v6 address => release.mappedFollows = true → mappedBlock.contains address = false

def assertPort (port : Option Int) (allowedPorts : List Int) : Except Failure Unit :=
  match port with
  | none => .ok ()
  | some port =>
    let allowed := if allowedPorts = [] then allowedTcpPorts else allowedPorts
    if port < 1 ∨ 65535 < port then .error (.unsafeTarget "invalid TCP port")
    else if port ∈ blockedPorts then .error (.unsafeTarget s!"blocked TCP port: {port}")
    else if port ∉ allowed then
      .error (.unsafeTarget s!"TCP port {port} is not in the public diagnostic allowlist")
    else .ok ()

/-- `assert_safe_active_probe_target`, with the resolver for the address family asked for. -/
def safeTarget (platform : Platform) (resolve : Text → Option (List Text)) (target : Text)
    (port : Option Int) (allowedPorts : List Int) : Except Failure (List Text) := do
  let host ← normalizeHost platform target
  assertPort port allowedPorts
  publicAddresses platform host (resolve host)

section Flags

variable {release : Release} {print : Ip → String} {ip : Ip}

theorem unblocked (passes : isBlockedIp (describe release print ip) = false) :
    isPrivate ip = false ∧ isLoopback release ip = false ∧ isLinkLocal release ip = false ∧
      isMulticast release ip = false ∧ isReserved release ip = false ∧
        isUnspecified release ip = false := by
  simpa [isBlockedIp, describe, and_assoc] using passes

theorem public_v4 {address : Nat} (passes : isBlockedIp (describe release print (.v4 address)) = false) :
    Public (.v4 address) ↔ Clear release (.v4 address) := by
  obtain ⟨kept, loopback, -, multicast, -, unspecified⟩ := unblocked passes
  change privateV4 address = false at kept
  change loopbackV4 address = false at loopback
  change multicastV4 address = false at multicast
  change unspecifiedV4 address = false at unspecified
  show (publicV4 address = true ∧ ∀ inner ∈ [], publicV4 inner = true) ↔
    shared.contains address = false
  unfold privateV4 at kept
  unfold publicV4
  rw [loopback, multicast, unspecified]
  constructor
  · rintro ⟨reachable, -⟩
    by_contra inside
    rw [shared_unreachable (by simpa using inside)] at reachable
    cases reachable
  · intro outside
    rw [outside] at kept
    simp only [Bool.not_false, Bool.and_true] at kept
    simp [kept]

theorem public_mapped {address : Nat} (mapped : mappedBlock.contains address = true)
    (passes : isBlockedIp (describe release print (.v6 address)) = false) :
    Public (.v6 address) ↔ Clear release (.v6 address) := by
  obtain ⟨-, -, -, -, reserved, -⟩ := unblocked passes
  constructor
  · rintro ⟨reachable, -⟩
    change publicV6 address = true at reachable
    unfold publicV6 at reachable
    rw [mapped_unreachable mapped] at reachable
    cases reachable
  · intro clear
    by_cases follows : release.mappedFollows = true
    · rw [clear follows] at mapped
      cases mapped
    · have held : listed reserved6 address = true := mapped_reserved mapped
      simp [isReserved, Release.flag, ipv4Mapped, mapped, follows, held] at reserved

theorem public_plain {address : Nat} (plain : mappedBlock.contains address = false)
    (passes : isBlockedIp (describe release print (.v6 address)) = false) :
    Public (.v6 address) := by
  have none : ipv4Mapped address = none := if_neg (by simp [plain])
  obtain ⟨kept, loopback, -, multicast, reserved, unspecified⟩ := unblocked passes
  unfold isPrivate at kept
  unfold isLoopback at loopback
  unfold isMulticast at multicast
  unfold isReserved at reserved
  unfold isUnspecified at unspecified
  unfold Release.flag at kept loopback multicast reserved unspecified
  simp only [none] at kept loopback multicast reserved unspecified
  obtain ⟨reachable, tunnelled⟩ := Bool.or_eq_false_iff.mp kept
  have translated : nat64.contains address = false := by
    by_contra inside
    rw [nat64_reserved (by simpa using inside)] at reserved
    cases reserved
  constructor
  · show publicV6 address = true
    simp [publicV6, reachable, multicast, unspecified, loopback]
  · simp [embedded, plain, tunnelled, translated]

theorem public_iff (passes : isBlockedIp (describe release print ip) = false) :
    Public ip ↔ Clear release ip := by
  cases ip with
  | v4 address => exact public_v4 passes
  | v6 address =>
    cases mapped : mappedBlock.contains address with
    | true => exact public_mapped mapped passes
    | false => exact ⟨fun _ _ => mapped, fun _ => public_plain mapped passes⟩

end Flags

theorem collected {platform : Platform} {found answers addresses : List Text}
    (known : collectAddresses platform found answers = .ok addresses) :
    (∀ answer ∈ answers, ∃ ip, platform.ipAddress answer = some ip ∧ isBlockedIp ip = false) ∧
      ∀ address, address ∈ addresses ↔ address ∈ found ∨ address ∈ answers := by
  induction answers generalizing found with
  | nil =>
    cases known
    simp
  | cons answer rest inductive_ =>
    unfold collectAddresses at known
    cases is : platform.ipAddress answer with
    | none =>
      rw [is] at known
      cases known
    | some ip =>
      rw [is] at known
      dsimp only at known
      split at known
      · cases known
      rename_i passes
      have here : ∃ ip, platform.ipAddress answer = some ip ∧ isBlockedIp ip = false :=
        ⟨ip, is, by simpa using passes⟩
      split at known
      · rename_i present
        obtain ⟨later, members⟩ := inductive_ known
        refine ⟨List.forall_mem_cons.mpr ⟨here, later⟩, fun address => ?_⟩
        have already : answer ∈ found := by simpa using present
        rw [members, List.mem_cons]
        constructor
        · exact Or.imp_right .inr
        · rintro (before | rfl | after)
          · exact .inl before
          · exact .inl already
          · exact .inr after
      · obtain ⟨later, members⟩ := inductive_ known
        refine ⟨List.forall_mem_cons.mpr ⟨here, later⟩, fun address => ?_⟩
        rw [members, List.mem_append, List.mem_singleton, List.mem_cons, or_assoc]

section Gate

variable (platform : Platform) (release : Release) (print : Ip → String) (read : Text → Option Ip)
  (resolve : Text → Option (List Text)) (target : Text) (port : Option Int)
  (allowedPorts : List Int)

def gate : Except Failure (List Text) :=
  safeTarget (reading platform release print read) resolve target port allowedPorts

def Answered (answer : Text) : Prop :=
  ∃ host answers, normalizeHost platform target = .ok host ∧ resolve host = some answers ∧
    answer ∈ answers

def OnlyPublic : Prop :=
  (∀ addresses, gate platform release print read resolve target port allowedPorts = .ok addresses →
    ∀ address ∈ addresses, ∃ ip, read address = some ip ∧ Public ip) ∧
  ((∃ answer ip, Answered platform resolve target answer ∧ read answer = some ip ∧ ¬ Public ip) →
    ∃ failure, gate platform release print read resolve target port allowedPorts = .error failure)

variable {platform release print read resolve target port allowedPorts} {addresses : List Text}

theorem returned_answers
    (returned : gate platform release print read resolve target port allowedPorts = .ok addresses) :
    (∀ address, address ∈ addresses ↔ Answered platform resolve target address) ∧
      ∀ address ∈ addresses, ∃ ip, read address = some ip ∧
        isBlockedIp (describe release print ip) = false := by
  unfold gate safeTarget at returned
  have same : normalizeHost (reading platform release print read) target =
      normalizeHost platform target := rfl
  rw [same] at returned
  cases named : normalizeHost platform target with
  | error failure =>
    rw [named] at returned
    cases returned
  | ok host =>
    rw [named] at returned
    simp only [bind, Except.bind] at returned
    split at returned
    · cases returned
    unfold publicAddresses at returned
    simp only [bind, Except.bind] at returned
    split at returned
    · cases returned
    cases answer : resolve host with
    | none =>
      rw [answer] at returned
      cases returned
    | some answers =>
      rw [answer] at returned
      dsimp only at returned
      split at returned
      · cases returned
      rename_i found known
      split at returned
      · cases returned
      cases returned
      obtain ⟨passed, members⟩ := collected known
      have listed (address : Text) : address ∈ addresses ↔ address ∈ answers := by
        rw [members]
        simp
      refine ⟨fun address => ?_, fun address among => ?_⟩
      · rw [listed]
        constructor
        · exact fun among => ⟨host, answers, named, answer, among⟩
        · rintro ⟨other, others, also, given, among⟩
          rw [named] at also
          cases also
          rw [answer] at given
          cases given
          exact among
      · obtain ⟨described, reads, unblocked⟩ := passed address ((listed address).mp among)
        obtain ⟨ip, is, rfl⟩ := Option.map_eq_some_iff.mp reads
        exact ⟨ip, is, unblocked⟩

/-- The gate keeps non-public addresses out exactly when no answer of the resolver in a call
that returns is in shared space, or mapped with the flags of its IPv4 address. -/
theorem targets_public :
    OnlyPublic platform release print read resolve target port allowedPorts ↔
      ∀ addresses,
        gate platform release print read resolve target port allowedPorts = .ok addresses →
        ∀ answer, Answered platform resolve target answer → ∀ ip, read answer = some ip →
          Clear release ip := by
  constructor
  · rintro ⟨-, refuses⟩ addresses returned answer answered ip is
    obtain ⟨members, passed⟩ := returned_answers returned
    obtain ⟨other, also, unblocked⟩ := passed answer ((members answer).mpr answered)
    rw [is] at also
    cases also
    apply (public_iff unblocked).mp
    by_contra special
    obtain ⟨failure, raised⟩ := refuses ⟨answer, ip, answered, is, special⟩
    rw [returned] at raised
    cases raised
  · intro clear
    constructor
    · intro addresses returned address among
      obtain ⟨members, passed⟩ := returned_answers returned
      obtain ⟨ip, is, unblocked⟩ := passed address among
      exact ⟨ip, is, (public_iff unblocked).mpr
        (clear addresses returned address ((members address).mp among) ip is)⟩
    · rintro ⟨answer, ip, answered, is, special⟩
      cases result : gate platform release print read resolve target port allowedPorts with
      | error failure => exact ⟨failure, rfl⟩
      | ok addresses =>
        obtain ⟨members, passed⟩ := returned_answers result
        obtain ⟨other, also, unblocked⟩ := passed answer ((members answer).mpr answered)
        rw [is] at also
        cases also
        exact absurd ((public_iff unblocked).mpr (clear addresses result answer answered ip is)) special

end Gate

section Carrier

def carrierAddress : Text := "100.64.0.1".toList

def carrierRead (text : Text) : Option Ip :=
  if text = carrierAddress then some (.v4 (100 * 2 ^ 24 + 64 * 2 ^ 16 + 1)) else none

/-- A name that resolves into the shared space of a carrier. -/
theorem targets_not_public :
    gate openPlatform ⟨true⟩ (fun _ => "") carrierRead (fun _ => some [carrierAddress])
        "example.org".toList (some 443) [] = .ok [carrierAddress] ∧
      ¬ ∀ platform release print read resolve target port allowedPorts,
        OnlyPublic platform release print read resolve target port allowedPorts := by
  have returned : gate openPlatform ⟨true⟩ (fun _ => "") carrierRead
      (fun _ => some [carrierAddress]) "example.org".toList (some 443) [] =
        .ok [carrierAddress] := by
    decide +kernel
  refine ⟨returned, fun kept => ?_⟩
  obtain ⟨ip, is, clean, -⟩ := (kept _ _ _ _ _ _ _ _).1 _ returned carrierAddress (by simp)
  cases is
  exact absurd clean (by decide +kernel)

end Carrier

end HyruleCloud.ProbeTargets
