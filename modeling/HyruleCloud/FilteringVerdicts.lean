import Mathlib.Data.List.Basic

/-!
The verdicts of the filtering profiles, services/dns/filtering.py. One classification serves
all profiles and does not read the signals that a profile documents.
-/

namespace HyruleCloud.FilteringVerdicts

/-- The texts of `blocking_signals`. -/
inductive BlockingSignal where
  | nullAddress | nxdomainWithResolvingControl | edeBlocked
  deriving DecidableEq

structure ResolverProfile where
  profileId : String
  filteredEndpoint : String
  controlEndpoint : String
  blockingSignals : List BlockingSignal
  deriving DecidableEq

def cloudflareControl : String := "https://cloudflare-dns.com/dns-query"

def mullvadControl : String := "https://dns.mullvad.net/dns-query"

/-- `RESOLVER_PROFILES` -/
def resolverProfiles : List ResolverProfile :=
  [⟨"cloudflare_security", "https://security.cloudflare-dns.com/dns-query", cloudflareControl,
      [.nullAddress, .nxdomainWithResolvingControl, .edeBlocked]⟩,
    ⟨"quad9_secure", "https://dns.quad9.net/dns-query", "https://dns10.quad9.net/dns-query",
      [.nxdomainWithResolvingControl, .edeBlocked]⟩,
    ⟨"adguard_default", "https://dns.adguard-dns.com/dns-query",
      "https://unfiltered.adguard-dns.com/dns-query",
      [.nullAddress, .nxdomainWithResolvingControl, .edeBlocked]⟩,
    ⟨"controld_malware", "https://freedns.controld.com/p1", "https://freedns.controld.com/p0",
      [.nullAddress, .nxdomainWithResolvingControl, .edeBlocked]⟩,
    ⟨"controld_ads_tracking", "https://freedns.controld.com/p2",
      "https://freedns.controld.com/p0",
      [.nullAddress, .nxdomainWithResolvingControl, .edeBlocked]⟩,
    ⟨"cleanbrowsing_security", "https://doh.cleanbrowsing.org/doh/security-filter/",
      cloudflareControl, [.nxdomainWithResolvingControl, .edeBlocked]⟩,
    ⟨"mullvad_adblock", "https://adblock.dns.mullvad.net/dns-query", mullvadControl,
      [.nxdomainWithResolvingControl, .edeBlocked]⟩,
    ⟨"mullvad_base", "https://base.dns.mullvad.net/dns-query", mullvadControl,
      [.nxdomainWithResolvingControl, .edeBlocked]⟩]

structure DNSFilteringObservation where
  recordType : String
  rcode : Option String
  answers : List String
  edeCodes : List Nat
  error : Option String

inductive DNSFilteringProfileStatus where
  | blocked | allowed | inconclusive | unavailable
  deriving DecidableEq

def nonNullAnswers (observation : DNSFilteringObservation) : List String :=
  observation.answers.filter (· ∉ ["0.0.0.0", "::", "0:0:0:0:0:0:0:0"])

def DNSFilteringObservation.resolves (observation : DNSFilteringObservation) : Bool :=
  nonNullAnswers observation ≠ []

def DNSFilteringObservation.failed (observation : DNSFilteringObservation) : Bool :=
  observation.error.any (· ≠ "")

def DNSFilteringObservation.shows (observation : DNSFilteringObservation) :
    BlockingSignal → Bool
  | .nullAddress => observation.answers.any (· ∉ nonNullAnswers observation)
  | .nxdomainWithResolvingControl => observation.rcode = some "NXDOMAIN"
  | .edeBlocked => 15 ∈ observation.edeCodes

def blockSignals (observation : DNSFilteringObservation) : List String :=
  let returned (signal : BlockingSignal) (text : String) : List String :=
    if observation.shows signal then [observation.recordType ++ text] else []
  returned .nullAddress " returned a null address" ++
    (returned .nxdomainWithResolvingControl " returned NXDOMAIN" ++
      returned .edeBlocked " returned EDE 15 (Blocked)")

def classify (filtered control : List DNSFilteringObservation) :
    DNSFilteringProfileStatus × String :=
  if control.any (·.resolves) then
    let read := filtered.filter (!·.failed)
    let signals := read.flatMap blockSignals
    let allowedSignals := read.countP (·.resolves)
    if signals ≠ [] ∧ allowedSignals ≠ 0 then
      (.inconclusive, "address families produced conflicting block and allow evidence")
    else if signals ≠ [] then (.blocked, "; ".intercalate signals)
    else if allowedSignals ≠ 0 then (.allowed, "filtered resolver returned usable addresses")
    else if filtered.all (·.failed) then (.unavailable, "filtered resolver was unavailable")
    else (.inconclusive, "no documented blocking signal was observed")
  else if control.all (·.failed) then (.unavailable, "control resolver was unavailable")
  else (.inconclusive, "control resolver did not resolve the domain")

abbrev Observations := String → String → DNSFilteringObservation

def observe (observations : Observations) (endpoint : String) : List DNSFilteringObservation :=
  ["A", "AAAA"].map (observations endpoint)

/-- The verdict of `_collect` on a profile. -/
def profileVerdict (observations : Observations) (profile : ResolverProfile) :
    DNSFilteringProfileStatus × String :=
  classify (observe observations profile.filteredEndpoint)
    (observe observations profile.controlEndpoint)

def Observed (filtered : List DNSFilteringObservation) (signal : BlockingSignal) : Prop :=
  ∃ observation ∈ filtered, observation.failed = false ∧ observation.shows signal = true

/-- The filtered resolver answers with signals alone, and the list has none of them. -/
structure Unlisted (listed : List BlockingSignal)
    (filtered control : List DNSFilteringObservation) : Prop where
  resolves : control.any (·.resolves) = true
  unusable : ∀ observation ∈ filtered, observation.failed = false → observation.resolves = false
  signals : ∃ signal, Observed filtered signal
  unlisted : ∀ signal ∈ listed, ¬ Observed filtered signal

section Verdicts

variable {filtered control : List DNSFilteringObservation}

theorem blockSignals_nonempty {observation : DNSFilteringObservation} :
    blockSignals observation ≠ [] ↔ ∃ signal, observation.shows signal = true := by
  unfold blockSignals
  constructor
  · intro signals
    by_contra silent
    rw [not_exists] at silent
    exact signals (by simp [silent])
  · rintro ⟨signal, shown⟩
    cases signal with
    | nullAddress => simp [shown]
    | nxdomainWithResolvingControl => simp [shown]
    | edeBlocked => simp [shown]

theorem classify_blocked : (classify filtered control).1 = .blocked ↔
    control.any (·.resolves) = true ∧
      (∀ observation ∈ filtered, observation.failed = false → observation.resolves = false) ∧
        ∃ signal, Observed filtered signal := by
  have signals : (filtered.filter (!·.failed)).flatMap blockSignals ≠ [] ↔
      ∃ signal, Observed filtered signal := by
    rw [ne_eq, List.flatMap_eq_nil_iff]
    constructor
    · intro some
      by_contra none
      refine some fun observation read => ?_
      have ⟨listed, answered⟩ := List.mem_filter.mp read
      by_contra shown
      obtain ⟨signal, shows⟩ := blockSignals_nonempty.mp shown
      exact none ⟨signal, observation, listed, by simpa using answered, shows⟩
    · rintro ⟨signal, observation, listed, answered, shows⟩ none
      refine blockSignals_nonempty.mpr ⟨signal, shows⟩ (none observation ?_)
      exact List.mem_filter.mpr ⟨listed, by simp [answered]⟩
  have usable : (filtered.filter (!·.failed)).countP (·.resolves) = 0 ↔
      ∀ observation ∈ filtered, observation.failed = false → observation.resolves = false := by
    simp [List.countP_eq_zero]
  rw [← signals, ← usable]
  unfold classify
  dsimp only
  split
  · rename_i resolving
    split
    · rename_i conflicting
      simp [conflicting.2]
    · rename_i agreeing
      split
      · rename_i blocked
        have none := not_not.mp fun allowed => agreeing ⟨blocked, allowed⟩
        exact iff_of_true rfl ⟨resolving, none, blocked⟩
      · rename_i silent
        refine iff_of_false ?_ fun blocked => silent blocked.2.2
        split
        · nofun
        · split
          · nofun
          · nofun
  · rename_i unresolved
    refine iff_of_false ?_ fun blocked => unresolved blocked.1
    split
    · nofun
    · nofun

end Verdicts

/-- A verdict `blocked` shows a signal that its profile documents, but where the filtered
resolver answers with other signals alone; in the profiles of the table, with null addresses
which the profile does not document. -/
theorem blocked_documented_iff (observations : Observations) (profile : ResolverProfile) :
    let filtered := observe observations profile.filteredEndpoint
    let control := observe observations profile.controlEndpoint
    (((profileVerdict observations profile).1 = .blocked →
        ∃ signal ∈ profile.blockingSignals, Observed filtered signal) ↔
      ¬ Unlisted profile.blockingSignals filtered control) ∧
    (profile ∈ resolverProfiles →
      (Unlisted profile.blockingSignals filtered control ↔
        .nullAddress ∉ profile.blockingSignals ∧ control.any (·.resolves) = true ∧
          (∀ observation ∈ filtered, observation.failed = false →
            observation.resolves = false ∧ observation.rcode ≠ some "NXDOMAIN" ∧
              15 ∉ observation.edeCodes) ∧
          ∃ observation ∈ filtered, observation.failed = false ∧
            ∃ answer ∈ observation.answers, answer ∉ nonNullAnswers observation)) := by
  intro filtered control
  constructor
  · unfold profileVerdict
    rw [classify_blocked]
    constructor
    · intro documented unlisted
      obtain ⟨signal, listed, shown⟩ :=
        documented ⟨unlisted.resolves, unlisted.unusable, unlisted.signals⟩
      exact unlisted.unlisted signal listed shown
    · rintro grounded ⟨resolves, unusable, signals⟩
      by_contra undocumented
      refine grounded ⟨resolves, unusable, signals, fun signal listed shown => ?_⟩
      exact undocumented ⟨signal, listed, shown⟩
  · intro known
    have others : .nxdomainWithResolvingControl ∈ profile.blockingSignals ∧
        .edeBlocked ∈ profile.blockingSignals := by
      have all : ∀ profile ∈ resolverProfiles,
          .nxdomainWithResolvingControl ∈ profile.blockingSignals ∧
            .edeBlocked ∈ profile.blockingSignals := by decide
      exact all profile known
    constructor
    · rintro ⟨resolves, unusable, ⟨signal, shown⟩, unlisted⟩
      have null : signal = .nullAddress := by
        cases signal with
        | nullAddress => rfl
        | nxdomainWithResolvingControl => exact absurd shown (unlisted _ others.1)
        | edeBlocked => exact absurd shown (unlisted _ others.2)
      subst null
      refine ⟨fun listed => unlisted _ listed shown, resolves, fun observation member read => ?_,
        ?_⟩
      · refine ⟨unusable observation member read, fun nxdomain => ?_, fun ede => ?_⟩
        · exact unlisted _ others.1 ⟨observation, member, read, decide_eq_true nxdomain⟩
        · exact unlisted _ others.2 ⟨observation, member, read, decide_eq_true ede⟩
      · obtain ⟨observation, member, read, shows⟩ := shown
        refine ⟨observation, member, read, ?_⟩
        simpa [DNSFilteringObservation.shows] using shows
    · rintro ⟨undocumented, resolves, plain, observation, member, read, shows⟩
      refine ⟨resolves, fun other listed answered => (plain other listed answered).1,
        ⟨.nullAddress, observation, member, read, ?_⟩, ?_⟩
      · simpa [DNSFilteringObservation.shows] using shows
      · rintro signal listed ⟨other, present, answered, seen⟩
        have ⟨_, nxdomain, ede⟩ := plain other present answered
        cases signal with
        | nullAddress => exact undocumented listed
        | nxdomainWithResolvingControl => exact nxdomain (of_decide_eq_true seen)
        | edeBlocked => exact ede (of_decide_eq_true seen)

/-- The control of Quad9 resolves the name, and the filtered resolver answers 0.0.0.0. -/
def nullAnswer : Observations := fun endpoint recordType =>
  ⟨recordType, some "NOERROR", if endpoint = "https://dns.quad9.net/dns-query" then ["0.0.0.0"]
    else ["192.0.2.1"], [], none⟩

theorem undocumented_null_blocks : ∃ profile ∈ resolverProfiles,
    (profileVerdict nullAnswer profile).1 = .blocked ∧
      ∀ signal ∈ profile.blockingSignals,
        ¬ Observed (observe nullAnswer profile.filteredEndpoint) signal := by
  refine ⟨⟨"quad9_secure", "https://dns.quad9.net/dns-query", "https://dns10.quad9.net/dns-query",
    [.nxdomainWithResolvingControl, .edeBlocked]⟩, by decide, by decide, ?_⟩
  unfold Observed
  decide

end HyruleCloud.FilteringVerdicts
