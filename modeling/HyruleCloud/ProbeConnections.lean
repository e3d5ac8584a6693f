import HyruleCloud.PublicProbes

/-!
Where the connections of a diagnostic request go. A handshake and a banner go to an address
that a check of the same request returned. The HTTP client resolves the name once more, and
follows redirects for a mail policy, so its connections are checked only as far as the
resolver and the servers agree with the check.
-/

namespace HyruleCloud.PublicProbes

open CheckedUse

def permits (seen : List Text) (endpoint : Endpoint) : Prop :=
  endpoint.address ∈ seen ∧ (endpoint.port : Int) ∈ allowedTcpPorts

instance (seen : List Text) (endpoint : Endpoint) : Decidable (permits seen endpoint) :=
  inferInstanceAs (Decidable (_ ∧ _))

def Kept {α : Type} (seen : List Text) (probe : Probe α) : Prop :=
  Covered permits seen probe.events

section Rules

variable {α β : Type} {seen : List Text}

theorem kept_pure (value : α) : Kept seen (pure value : Probe α) := trivial

theorem kept_fail (failure : Failure) : Kept seen (.fail failure : Probe α) := trivial

theorem lift_bind (result : Except Failure α) (next : α → Probe β) :
    Kept seen (lift result >>= next) ↔ ∀ value, result = .ok value → Kept seen (next value) := by
  unfold Kept
  rw [covered_bind]
  simp [lift, Covered, checkedItems]

theorem caught_bind (work : Probe α) (next : Except Failure α → Probe β) :
    Kept seen (work.caught >>= next) ↔
      Kept seen work ∧ Kept (seen ++ checkedItems work.events) (next work.result) := by
  unfold Kept
  rw [covered_bind]
  simp [Work.caught]

theorem caught_kept (work : Probe α) :
    Kept seen (do let _ ← work.caught; pure () : Probe Unit) ↔ Kept seen work := by
  rw [caught_bind]
  simp [kept_pure]

theorem uses_bind (endpoints : List Endpoint) (next : Unit → Probe β) :
    Kept seen (Work.use endpoints >>= next) ↔
      (∀ endpoint ∈ endpoints, permits seen endpoint) ∧ Kept seen (next ()) := by
  have none_checked :
      checkedItems (endpoints.map Event.used : List (Event Text Endpoint)) = [] := by
    induction endpoints with
    | nil => rfl
    | cons endpoint rest ih => simpa [checkedItems] using ih
  unfold Kept
  rw [covered_bind]
  simp only [Work.use, covered_uses, none_checked, List.append_nil]
  exact and_congr_right fun _ => ⟨fun all => all () trivial, fun kept _ _ => kept⟩

end Rules

section Tools

variable {α : Type} {platform : Platform} {world : World} {seen : List Text}

theorem resolve_kept (lookup : Lookup) (host : Text) :
    Kept seen (resolvePublicAddresses platform world lookup host) := by
  unfold resolvePublicAddresses
  split
  · trivial
  · trivial

theorem resolve_bind (lookup : Lookup) (host : Text) (next : List Text → Probe α) :
    Kept seen (resolvePublicAddresses platform world lookup host >>= next) ↔
      ∀ addresses, publicAddresses platform host (world.resolve lookup host) = .ok addresses →
        Kept (seen ++ addresses) (next addresses) := by
  unfold Kept
  rw [covered_bind]
  unfold resolvePublicAddresses
  cases publicAddresses platform host (world.resolve lookup host) with
  | error failure => simp [Work.fail, Covered]
  | ok addresses => simp [Work.check, Covered, checkedItems]

def GatePasses (platform : Platform) (world : World) (lookup : Lookup) (target : Text)
    (port : Int) (addresses : List Text) : Prop :=
  ∃ host, normalizeHost platform target = .ok host ∧ assertSafePort port = .ok () ∧
    publicAddresses platform host (world.resolve lookup host) = .ok addresses

theorem gate_bind (lookup : Lookup) (target : Text) (port : Int)
    (next : List Text → Probe α) :
    Kept seen (assertSafeActiveProbeTarget platform world lookup target port >>= next) ↔
      ∀ addresses, GatePasses platform world lookup target port addresses →
        Kept (seen ++ addresses) (next addresses) := by
  unfold Kept
  unfold assertSafeActiveProbeTarget GatePasses
  cases named : normalizeHost platform target with
  | error failure => simp [lift, bind, Work.andThen, Covered]
  | ok host =>
    cases safe : assertSafePort port with
    | error failure => simp [lift, bind, Work.andThen, Covered]
    | ok _ =>
      unfold resolvePublicAddresses
      cases known : publicAddresses platform host (world.resolve lookup host) with
      | error failure => simp [lift, bind, Work.andThen, Work.fail, Covered, known]
      | ok addresses =>
        simp [lift, bind, Work.andThen, Work.check, Covered, known]

theorem gate_kept (lookup : Lookup) (target : Text) (port : Int) :
    Kept seen (assertSafeActiveProbeTarget platform world lookup target port) := by
  unfold assertSafeActiveProbeTarget
  rw [lift_bind]
  intro host _
  rw [lift_bind]
  intro _ _
  exact resolve_kept lookup host

theorem safe_port {port : Int} (safe : assertSafePort port = .ok ()) :
    (1 ≤ port ∧ port ≤ 65535) ∧ port ∈ allowedTcpPorts := by
  unfold assertSafePort at safe
  split at safe
  · cases safe
  split at safe
  · cases safe
  split at safe
  · cases safe
  · constructor
    · omega
    · exact Decidable.not_not.mp ‹_›

theorem connection_kept (lookup : Lookup) (address : Text) (port : Int) :
    Kept seen (createConnection platform world lookup address port) ↔
      ∀ number, platform.service port = some number → permits seen ⟨address, number⟩ := by
  unfold createConnection
  cases platform.service port with
  | none => simp [kept_fail]
  | some number =>
    rw [uses_bind]
    split <;> simp [kept_pure, kept_fail]

theorem first_kept (lookup : Lookup) (addresses : List Text) (port : Int) :
    Kept (seen ++ addresses) (connectFirst platform world lookup addresses port) ↔
      ∀ first rest number, addresses = first :: rest → platform.service port = some number →
        (number : Int) ∈ allowedTcpPorts := by
  cases addresses with
  | nil => simp [connectFirst, kept_fail]
  | cons first rest =>
    change Kept _ (createConnection platform world lookup first port) ↔ _
    rw [connection_kept]
    constructor
    · intro all _ _ number _ dialled
      exact (all number dialled).2
    · intro all number dialled
      constructor
      · simp
      · exact all first rest number rfl dialled

theorem safe_service {port : Int} {number : Nat} (safe : assertSafePort port = .ok ())
    (dialled : platform.service port = some number) : (number : Int) ∈ allowedTcpPorts := by
  obtain ⟨⟨low, high⟩, listed⟩ := safe_port safe
  have same : port = (port.toNat : Int) := by omega
  rw [same, platform.service_port port.toNat (by omega)] at dialled
  cases dialled
  rwa [← same]

theorem handshake_kept (lookup : Lookup) (host : Text) (port : Int) :
    Kept seen (tlsHandshake platform world lookup host port) := by
  unfold tlsHandshake
  rw [gate_bind]
  rintro addresses ⟨_, _, safe, _⟩
  rw [first_kept]
  intro _ _ number _ dialled
  exact safe_service safe dialled

theorem protocols_kept (host : Text) (port : Int) (versions : List TlsVersion) :
    Kept seen (tlsProtocolProbe platform world host port versions) := by
  induction versions generalizing seen with
  | nil => exact kept_pure ()
  | cons version rest ih =>
    unfold tlsProtocolProbe
    rw [caught_bind]
    exact ⟨handshake_kept _ host port, ih⟩

/-- The client's own lookup brings up known addresses only, and the URL's port is listed. -/
def HopKept (platform : Platform) (world : World) (known : Text → Prop) (hop : Nat)
    (url : Text) : Prop :=
  ∀ port answer, clientHop platform world hop url = .ok (port, answer) →
    ∀ address ∈ tried (world.accepts (.client hop)) answer,
      known address ∧ (port : Int) ∈ allowedTcpPorts

def ChainKept (platform : Platform) (world : World) (known : Text → Prop) :
    Nat → Nat → Text → Prop
  | 0, hop, url => HopKept platform world known hop url
  | left + 1, hop, url => HopKept platform world known hop url ∧
      ∀ port answer next, clientHop platform world hop url = .ok (port, answer) →
        answer.any (world.accepts (.client hop)) → world.redirect hop = some next →
        ChainKept platform world known left (hop + 1) next

theorem get_unfold (follow : Bool) (left hop : Nat) (url : Text) :
    Kept seen (httpGet platform world follow left hop url) ↔
      HopKept platform world (· ∈ seen) hop url ∧
      ∀ port answer next more, clientHop platform world hop url = .ok (port, answer) →
        answer.any (world.accepts (.client hop)) → follow = true →
        world.redirect hop = some next → left = more + 1 →
        Kept seen (httpGet platform world follow more (hop + 1) next) := by
  conv_lhs => unfold httpGet
  rw [lift_bind]
  constructor
  · intro all
    constructor
    · intro port answer at_hop address dialled
      have kept := all (port, answer) at_hop
      rw [uses_bind] at kept
      exact kept.1 ⟨address, port⟩ (List.mem_map_of_mem dialled)
    · intro port answer next more at_hop accepted follows redirected left_more
      have kept := all (port, answer) at_hop
      rw [uses_bind, if_pos accepted] at kept
      subst follows left_more
      simpa only [redirected] using kept.2
  · rintro ⟨hop_kept, rest⟩ ⟨port, answer⟩ at_hop
    rw [uses_bind]
    constructor
    · intro endpoint listed
      obtain ⟨address, dialled, rfl⟩ := List.mem_map.mp listed
      exact hop_kept port answer at_hop address dialled
    · split
      · rename_i accepted
        split
        · rename_i next more redirected
          exact rest port answer next more at_hop accepted rfl redirected rfl
        · exact kept_pure ()
      · exact kept_fail _

theorem get_kept (left hop : Nat) (url : Text) :
    Kept seen (httpGet platform world false left hop url) ↔
      HopKept platform world (· ∈ seen) hop url := by
  rw [get_unfold]
  simp

theorem chain_kept (left hop : Nat) (url : Text) :
    Kept seen (httpGet platform world true left hop url) ↔
      ChainKept platform world (· ∈ seen) left hop url := by
  induction left generalizing hop url with
  | zero =>
    rw [get_unfold]
    simp [ChainKept]
  | succ left ih =>
    rw [get_unfold]
    apply and_congr Iff.rfl
    constructor
    · intro rest port answer next at_hop accepted redirected
      exact (ih _ _).mp (rest port answer next left at_hop accepted rfl redirected rfl)
    · intro rest port answer next more at_hop accepted _ redirected left_more
      cases left_more
      exact (ih _ _).mpr (rest port answer next at_hop accepted redirected)

/-- `safe_url` passes: the URL it gives back and what its lookup returned. -/
def UrlPasses (platform : Platform) (world : World) (defaultScheme target url : Text)
    (addresses : List Text) : Prop :=
  ∃ host, checkedUrl platform defaultScheme target = .ok (url, host) ∧
    publicAddresses platform host (world.resolve .url host) = .ok addresses

theorem safe_url_bind (defaultScheme target : Text) (next : Text → Probe α) :
    Kept seen (safeUrl platform world defaultScheme target >>= next) ↔
      ∀ url addresses, UrlPasses platform world defaultScheme target url addresses →
        Kept (seen ++ addresses) (next url) := by
  unfold safeUrl
  rw [bind_assoc, lift_bind]
  constructor
  · rintro all url addresses ⟨host, passes, known⟩
    have kept := all (url, host) passes
    rw [bind_assoc, resolve_bind] at kept
    exact kept addresses known
  · rintro all ⟨url, host⟩ passes
    rw [bind_assoc, resolve_bind]
    intro addresses known
    exact all url addresses ⟨host, passes, known⟩

end Tools

section Requests

variable {platform : Platform} {world : World} {seen : List Text}

theorem tls_deep_kept (body : WebTLSDeepRequest) :
    Kept seen (runWebTlsDeep platform world body) := by
  unfold runWebTlsDeep
  rw [gate_bind]
  intro addresses _
  rw [caught_bind]
  constructor
  · exact handshake_kept _ _ _
  · exact protocols_kept _ _ _

def TcpPortListed (platform : Platform) (world : World) (tool : MXTool) (target : Text)
    (port : Option Int) : Prop :=
  ∀ host asked addresses number, tcpEndpoint platform tool target port = .ok (host, asked) →
    publicAddresses platform host (world.resolve .probe host) = .ok addresses →
    platform.service asked = some number → (number : Int) ∈ allowedTcpPorts

theorem collected_nonempty {host : Text} {answer : Option (List Text)}
    {addresses : List Text} (known : publicAddresses platform host answer = .ok addresses) :
    ∃ first rest, addresses = first :: rest := by
  unfold publicAddresses at known
  cases public_host : assertPublicHost platform host with
  | error failure =>
    rw [public_host] at known
    cases known
  | ok _ =>
    rw [public_host] at known
    cases answer with
    | none => cases known
    | some infos =>
      simp only [bind, Except.bind] at known
      cases collected : collectAddresses platform [] infos with
      | error failure =>
        rw [collected] at known
        cases known
      | ok found =>
        rw [collected] at known
        cases found with
        | nil => cases known
        | cons first rest =>
          cases known
          exact ⟨first, rest, rfl⟩

theorem tcp_bind {α : Type} (tool : MXTool) (target : Text) (port : Option Int)
    (next : Bool → Probe α)
    (rest : ∀ connected checked, Kept (seen ++ checked) (next connected)) :
    Kept seen (tcp platform world tool target port >>= next) ↔
      TcpPortListed platform world tool target port := by
  unfold tcp
  rw [bind_assoc, lift_bind]
  constructor
  · intro all host asked addresses number named known dialled
    have kept := all (host, asked) named
    rw [bind_assoc, resolve_bind] at kept
    have first := kept addresses known
    rw [bind_assoc, caught_bind, first_kept] at first
    obtain ⟨address, others, is⟩ := collected_nonempty known
    exact first.1 address others number is dialled
  · rintro all ⟨host, asked⟩ named
    rw [bind_assoc, resolve_bind]
    intro addresses known
    rw [bind_assoc, caught_bind, first_kept]
    constructor
    · intro _ _ number _ dialled
      exact all host asked addresses number named known dialled
    · rw [pure_bind, List.append_assoc]
      exact rest _ _

theorem banner_kept (host : Text) : Kept seen (smtpBanner platform world host 25) := by
  unfold smtpBanner
  rw [resolve_bind]
  intro addresses _
  rw [first_kept]
  intro _ _ number _ dialled
  exact safe_service (by decide) dialled

theorem mail_port_listed (host : Text) :
    TcpPortListed platform world .smtp host (some 25) := by
  intro name asked addresses number named _ dialled
  have mail : asked = 25 := by
    unfold tcpEndpoint at named
    dsimp only at named
    split at named
    · exact (Prod.mk.inj (Except.ok.inj named)).2.symm
    · exact (Prod.mk.inj (Except.ok.inj named)).2.symm
  subst mail
  exact safe_service (by decide) dialled

theorem smtp_kept (target : Text) : Kept seen (smtp platform world target) := by
  unfold smtp
  rw [lift_bind]
  intro _ _
  rw [lift_bind]
  intro host _
  rw [tcp_bind]
  · exact mail_port_listed host
  · intro connected checked
    cases connected with
    | true =>
      change Kept _ (do let _ ← (smtpBanner platform world host 25).caught; pure ())
      rw [caught_kept]
      exact banner_kept host
    | false => exact kept_pure ()

theorem mx_http_kept (tool : MXTool) (target : Text) :
    Kept seen (mxHttp platform world tool target) ↔
      ∀ url addresses, UrlPasses platform world tool.value target url addresses →
        HopKept platform world (· ∈ seen ++ addresses) 0 url := by
  unfold mxHttp
  rw [safe_url_bind]
  apply forall_congr'
  intro url
  apply forall_congr'
  intro addresses
  rw [caught_kept, get_kept]

theorem mta_sts_kept (target : Text) :
    Kept seen (mtaSts platform world target) ↔
      (askable ("_mta-sts.".toList ++ target) = .ok () → ∀ url addresses,
        UrlPasses platform world "https".toList (policyUrl target) url addresses →
          ChainKept platform world (· ∈ seen ++ addresses) maxRedirects 0 url) := by
  unfold mtaSts
  rw [lift_bind]
  constructor
  · intro all may url addresses passes
    have kept := all () may
    rw [caught_kept, safe_url_bind] at kept
    exact (chain_kept _ _ _).mp (kept url addresses passes)
  · rintro all ⟨⟩ may
    rw [caught_kept, safe_url_bind]
    intro url addresses passes
    exact (chain_kept _ _ _).mpr (all may url addresses passes)

theorem certificate_kept (body : WebCheckRequest) (host : Text) (port : Nat) :
    Kept seen (certificateFinding platform world body host port) := by
  unfold certificateFinding
  split
  · rw [caught_kept]
    exact handshake_kept _ _ _
  · exact kept_pure ()

theorem gate_checked (lookup : Lookup) (target : Text) (port : Int) (address : Text) :
    address ∈ checkedItems
        (assertSafeActiveProbeTarget platform world lookup target port).events ↔
      ∃ addresses, GatePasses platform world lookup target port addresses ∧
        address ∈ addresses := by
  unfold assertSafeActiveProbeTarget GatePasses
  cases named : normalizeHost platform target with
  | error failure => simp [lift, bind, Work.andThen, checkedItems]
  | ok host =>
    cases safe : assertSafePort port with
    | error failure => simp [lift, bind, Work.andThen, checkedItems]
    | ok _ =>
      unfold resolvePublicAddresses
      cases known : publicAddresses platform host (world.resolve lookup host) with
      | error failure =>
        simp [lift, bind, Work.andThen, Work.fail, checkedItems, known]
      | ok addresses =>
        simp [lift, bind, Work.andThen, Work.check, checkedItems, known]

def DnsReturned (platform : Platform) (world : World) (body : WebCheckRequest) (host : Text)
    (port : Nat) (address : Text) : Prop :=
  body.checks.contains .dns = true ∧ ∃ addresses,
    GatePasses platform world .dnsCheck host port addresses ∧ address ∈ addresses

theorem dns_finding_checked (body : WebCheckRequest) (host : Text) (port : Nat)
    (address : Text) :
    address ∈ checkedItems (dnsFinding platform world body host port).events ↔
      DnsReturned platform world body host port address := by
  unfold dnsFinding DnsReturned
  by_cases wanted : body.checks.contains .dns = true
  · rw [if_pos wanted, ← gate_checked]
    simp only [wanted, true_and]
    simp [bind, pure, Work.done, Work.andThen, Work.caught]
  · rw [if_neg wanted]
    simp only [wanted, false_and, Bool.false_eq_true]
    simp [pure, Work.done, checkedItems]

theorem dns_finding_bind {α : Type} (body : WebCheckRequest) (host : Text) (port : Nat)
    (next : Unit → Probe α) :
    Kept seen (dnsFinding platform world body host port >>= next) ↔
      Kept (seen ++ checkedItems (dnsFinding platform world body host port).events)
        (next ()) := by
  have quiet : Kept seen (dnsFinding platform world body host port) := by
    unfold dnsFinding
    split
    · rw [caught_kept]
      exact gate_kept _ _ _
    · exact kept_pure ()
  have finished : (dnsFinding platform world body host port).result = .ok () := by
    unfold dnsFinding
    split
    · rfl
    · rfl
  have split := covered_bind permits seen
    (dnsFinding platform world body host port) next
  unfold Kept at quiet ⊢
  rw [split]
  constructor
  · intro both
    exact both.2 () finished
  · intro rest
    exact ⟨quiet, fun _ _ => rest⟩

theorem fetch_bind (body : WebCheckRequest) (url host : Text) (port : Nat) :
    Kept seen (do
        fetchUrl platform world body url
        certificateFinding platform world body host port) ↔
      (body.fetches = true → HopKept platform world (· ∈ seen) 0 url) := by
  have split := covered_bind permits seen
    (fetchUrl platform world body url)
    (fun _ => certificateFinding platform world body host port)
  unfold Kept
  rw [split]
  have fetched : Covered permits seen (fetchUrl platform world body url).events ↔
      (body.fetches = true → HopKept platform world (· ∈ seen) 0 url) := by
    unfold fetchUrl
    by_cases fetches : body.fetches = true
    · rw [if_pos fetches, ← get_kept maxRedirects]
      simp only [fetches, true_imp_iff]
      exact caught_kept _
    · rw [if_neg fetches]
      exact ⟨fun _ wanted => absurd wanted fetches, fun _ => kept_pure ()⟩
  rw [fetched]
  constructor
  · intro both
    exact both.1
  · intro kept
    exact ⟨kept, fun _ _ => certificate_kept body host port⟩

def WebFetchKept (platform : Platform) (world : World) (body : WebCheckRequest) : Prop :=
  body.fetches = true → ∀ url addresses host gated port,
    UrlPasses platform world "https".toList body.target url addresses →
    normalizeHost platform url = .ok host →
    GatePasses platform world .gate host (gatePort url) gated →
    urlPort platform url = .ok port →
    HopKept platform world (fun address => address ∈ addresses ∨ address ∈ gated ∨
      DnsReturned platform world body host port address) 0 url

theorem hop_kept_congr {known other : Text → Prop} {hop : Nat} {url : Text}
    (same : ∀ address, known address ↔ other address) :
    HopKept platform world known hop url ↔ HopKept platform world other hop url := by
  have equal : known = other := funext fun address => propext (same address)
  rw [equal]

theorem web_check_kept (body : WebCheckRequest) :
    Kept [] (runWebCheck platform world body) ↔ WebFetchKept platform world body := by
  have known (addresses gated : List Text) (host : Text) (port : Nat) (address : Text) :
      address ∈ [] ++ addresses ++ gated ++
          checkedItems (dnsFinding platform world body host port).events ↔
        address ∈ addresses ∨ address ∈ gated ∨
          DnsReturned platform world body host port address := by
    rw [List.nil_append, List.mem_append, List.mem_append, dns_finding_checked, or_assoc]
  unfold runWebCheck WebFetchKept
  rw [safe_url_bind]
  constructor
  · intro all fetches url addresses host gated port passes named gate ported
    have kept := all url addresses passes
    rw [lift_bind] at kept
    have at_host := kept host named
    rw [gate_bind] at at_host
    have after_gate := at_host gated gate
    rw [lift_bind] at after_gate
    have at_port := after_gate port ported
    rw [dns_finding_bind, fetch_bind] at at_port
    exact (hop_kept_congr (known addresses gated host port)).mp (at_port fetches)
  · intro all url addresses passes
    rw [lift_bind]
    intro host named
    rw [gate_bind]
    intro gated gate
    rw [lift_bind]
    intro port ported
    rw [dns_finding_bind, fetch_bind]
    intro fetches
    exact (hop_kept_congr (known addresses gated host port)).mpr
      (all fetches url addresses host gated port passes named gate ported)

def MxKept (platform : Platform) (world : World) (port : Option Nat) (tool : MXTool)
    (target : Text) : Prop :=
  match tool with
  | .http | .https => ∀ url addresses,
      UrlPasses platform world tool.value target url addresses →
        HopKept platform world (· ∈ addresses) 0 url
  | .mtaSts => askable ("_mta-sts.".toList ++ target) = .ok () → ∀ url addresses,
      UrlPasses platform world "https".toList (policyUrl target) url addresses →
        ChainKept platform world (· ∈ addresses) maxRedirects 0 url
  | .tcp => TcpPortListed platform world .tcp target (port.map Nat.cast)
  | .smtp | .other _ => True

theorem run_check_kept (req : MXCheckRequest) :
    Kept [] (runCheck platform world req) ↔ ∀ tool target,
      normalizeRequest platform req = .ok (tool, target) →
        MxKept platform world req.port tool target := by
  unfold runCheck
  rw [lift_bind]
  constructor
  · intro all tool target named
    have kept := all (tool, target) named
    cases tool with
    | http | https => exact (mx_http_kept _ _).mp kept
    | mtaSts => exact (mta_sts_kept _).mp kept
    | tcp =>
      rw [tcp_bind _ _ _ _ fun _ _ => kept_pure ()] at kept
      exact kept
    | smtp | other => trivial
  · rintro all ⟨tool, target⟩ named
    have kept := all tool target named
    cases tool with
    | http | https => exact (mx_http_kept _ _).mpr kept
    | mtaSts => exact (mta_sts_kept _).mpr kept
    | tcp =>
      rw [tcp_bind _ _ _ _ fun _ _ => kept_pure ()]
      exact kept
    | smtp => exact smtp_kept target
    | other value => exact kept_pure ()

end Requests

def StaysChecked (platform : Platform) (world : World) : Request → Prop
  | .webCheck body => WebFetchKept platform world body
  | .tlsDeep _ => True
  | .mxCheck req => ∀ tool target, normalizeRequest platform req = .ok (tool, target) →
      MxKept platform world req.port tool target

/-- Every connection of a request goes to an address that a lookup of the request checked
before, and to a port of the allow-list, exactly when the request stays checked. -/
theorem connections_checked (platform : Platform) (world : World) (request : Request) :
    Covered permits [] (serve platform world request).events ↔
      StaysChecked platform world request := by
  cases request with
  | webCheck body => exact web_check_kept body
  | tlsDeep body => exact ⟨fun _ => trivial, fun _ => tls_deep_kept body⟩
  | mxCheck req => exact run_check_kept req

section Runs

def openPlatform : Platform where
  strip := id
  lower := id
  isSpace := (· = ' ')
  int := fun _ => none
  ipAddress := fun text =>
    if text = "example.org".toList then none
    else some ⟨"", text = "10.0.0.1".toList, false, false, false, false, false⟩
  checkNetloc := fun _ => true
  service := fun port => some port.toNat
  service_port := by simp

def publicAddress : Text := "192.0.2.1".toList

def rebindingWorld : World where
  resolve := fun lookup _ =>
    some [if lookup = .client 0 then "10.0.0.1".toList else publicAddress]
  mailExchangers := fun _ => []
  accepts := fun _ _ => true
  redirect := fun _ => none

/-- A listed tool connects to the port of a database; another fetches from a private address. -/
theorem probes_leave_the_checks :
    (serve openPlatform rebindingWorld
        (.mxCheck ⟨some .tcp, some "example.org".toList, none, some 6379⟩)).events =
      [.checked [publicAddress], .used ⟨publicAddress, 6379⟩] ∧
    (serve openPlatform rebindingWorld
        (.mxCheck ⟨some .https, some "example.org".toList, none, none⟩)).events =
      [.checked [publicAddress], .used ⟨"10.0.0.1".toList, 443⟩] ∧
    ¬ ∀ platform world request,
      Covered permits [] (serve platform world request).events := by
  constructor
  · decide +kernel
  · constructor
    · decide +kernel
    · intro always
      have listed := always openPlatform rebindingWorld
        (.mxCheck ⟨some .tcp, some "example.org".toList, none, some 6379⟩)
      have dialled := covered_split listed [.checked [publicAddress]] [] ⟨publicAddress, 6379⟩
        (by decide +kernel)
      exact absurd dialled (by decide +kernel)

end Runs

end HyruleCloud.PublicProbes
