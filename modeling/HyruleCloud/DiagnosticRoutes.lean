import HyruleCloud.BlocklistRules
import HyruleCloud.SettledLedgers
import Mathlib.Algebra.GroupWithZero.Nat

/-!
The paid BGP and DNS routes, api/bgp.py and api/dns.py, on the gate of a request. Most charge
first, by `require_payment`, and build and answer the request afterwards; the blocklist and
filtering checks verify the payment, answer, and settle last.
-/

namespace HyruleCloud.DiagnosticRoutes

open PaymentGates AdminWaivers
open Blocklists (Text strip rstrip normalizeDomain)

inductive BgpSubjectType where
  | network | ip | asn
  deriving DecidableEq

inductive SubjectValue where
  | text (value : Text) | number (value : Int)

structure BgpSubject where
  type : BgpSubjectType
  value : SubjectValue

inductive BgpDataset where
  | publicRouting | liveLookingGlass | rpki | peeringdb | as215932RouterTables
  deriving DecidableEq

structure BgpLookupRequest where
  subject : BgpSubject
  datasets : List BgpDataset := [.publicRouting, .rpki]

inductive BgpStreamRecordType where
  | updates | ribs

inductive RecordType where
  | a | aaaa | caa | cname | dnskey | ds | mx | naptr | ns | ptr | soa | srv | txt | tlsa | any

def RecordType.value : RecordType → String
  | a => "A" | aaaa => "AAAA" | caa => "CAA" | cname => "CNAME" | dnskey => "DNSKEY"
  | ds => "DS" | mx => "MX" | naptr => "NAPTR" | ns => "NS" | ptr => "PTR" | soa => "SOA"
  | srv => "SRV" | txt => "TXT" | tlsa => "TLSA" | any => "ANY"

/-- `Field(min_length=1, max_length=253)` -/
def Named (name : Text) : Prop := 1 ≤ name.length ∧ name.length ≤ 253

instance (name : Text) : Decidable (Named name) := inferInstanceAs (Decidable (_ ∧ _))

/-- `Field(ge=500, le=30000)` -/
def Timely (timeoutMs : Nat) : Prop := 500 ≤ timeoutMs ∧ timeoutMs ≤ 30000

/-- `DNSLookupRequest` -/
structure DnsLookupRequest where
  name : Text
  type : RecordType := .a
  resolver : Text := "system".toList
  dnssec : Bool := false
  trace : Bool := false
  timeoutMs : Nat := 3000
  named : Named name
  timely : Timely timeoutMs

/-- `DNSPropagationRequest`, or `DNSAuthorityCompareRequest` with its `recursive_resolvers`:
neither looks at the texts of the resolvers. -/
structure DnsCompareRequest where
  name : Text
  type : RecordType := .a
  resolvers : List Text
  authoritative : Bool := true
  timeoutMs : Nat := 3000
  named : Named name
  timely : Timely timeoutMs

/-- `DNSDomainCheckRequest` -/
structure DnsDomainCheckRequest where
  domain : Text
  named : Named domain

inductive Route where
  | bgpLookup (body : BgpLookupRequest)
  | bgpPrefix (network : Text)
  | bgpIp (address : Text)
  | bgpAsn (asn : Text)
  | createBgpstreamJob (recordType : BgpStreamRecordType)
  | downloadBgpRouterSnapshot (snapshotId : Text)
  | dnsLookup (body : DnsLookupRequest)
  | dnsResolve (name : Text) (type : RecordType)
  | dnsReverse (address : Text)
  | dnsTrace (name : Text) (type : RecordType)
  | dnsDnssec (name : Text)
  | dnsServers (domain : Text)
  | dnsZoneCheck (domain : Text)
  | dnsPropagation (body : DnsCompareRequest)
  | dnsAuthorityVsRecursive (body : DnsCompareRequest)
  | dnsResolverDetect
  | dnsDnssecReport (name : Text)
  | dnsBlocklistCheck (body : DnsDomainCheckRequest)
  | dnsFilteringCheck (body : DnsDomainCheckRequest)

inductive Price where
  | bgpLookup | bgpLookingGlass | bgpstreamHour | bgpstreamRib | bgpRouterTable
  | dnsLookup | dnsBlocklistCheck | dnsFilteringCheck

structure SnapshotRow where
  artifactPath : Option Text

/-- How the check of a domain ends: `failed` is an exception that no handler catches. -/
inductive CheckOutcome where
  | answered | unavailable | failed

inductive FilteringOutcome where
  | answered (meetsQualityFloor : Bool) | notResolvable | failed

/-- What a handler finds while it serves one request. `upper` and `isDecimal` are those of
`str`; `reverseName` is dnspython's `from_address` and `nameserver` its check of a name
server, both outside the repository. The cache is looked up by its key, at each lookup of the
request anew. -/
structure Host where
  gate : Option Gate
  price : Price → Usd
  -- `validate_admin_dispatch`, of a request that an administrator may have waived
  dispatch : Except Raised Unit
  upper : Text → Text
  isDecimal : Char → Bool
  domains : Blocklists.PythonText
  bgpAnswers : BgpLookupRequest → Bool
  workerEnabled : Bool
  -- whether the row of a new job is written, where there is a session factory
  jobStored : Bool
  downloadEnabled : Bool
  -- no session factory; a read that raises, or the row
  snapshots : Option (Text → Option (Option SnapshotRow))
  fileExists : Text → Bool
  cached : Nat → Text → Bool
  systemConfigured : Bool
  nameserver : Text → Bool
  reverseName : Text → Option Text
  inFlight : Bool
  blocklistsReady : Bool
  blocklists : CheckOutcome
  filteringEnabled : Bool
  filtering : Option FilteringOutcome

/-- `failed` is what a call outside ends with; a refusal is the handler's own. -/
inductive Reply where
  | result
  | payment (response : GateResponse)
  | refused (statusCode : Nat)
  | failed
  deriving DecidableEq

namespace Host
variable (host : Host)

/-- Whether `int` reads the text: a sign, and digits with single underscores between them, no
more of them than `sys.int_info` lets through. -/
def readsInt (text : Text) : Bool :=
  let body := match strip text with
    | '+' :: digits | '-' :: digits => digits
    | digits => digits
  let pieces := body.splitOn '_'
  pieces.all (fun piece => piece ≠ [] && piece.all host.isDecimal) &&
    (pieces.map List.length).sum ≤ 4300

/-- `str.removeprefix` -/
def removePrefix (start text : Text) : Text :=
  if start.isPrefixOf text then text.drop start.length else text

/-- `_normalize_asn`, where it does not raise -/
def normalizesAsn : SubjectValue → Bool
  | .number _ => true
  | .text value => host.readsInt (removePrefix "AS".toList (host.upper (strip value)))

def lookupBgp (body : BgpLookupRequest) : Reply :=
  if body.subject.type = .asn && !host.normalizesAsn body.subject.value then .refused 500
  else if host.bgpAnswers body then .result
  else .failed

def snapshotDownload (snapshotId : Text) : Reply :=
  match host.snapshots with
  | none => .refused 404
  | some read =>
    match read snapshotId with
    | none => .failed
    | some row =>
      match row.bind SnapshotRow.artifactPath with
      | none => .refused 404
      | some path =>
        if path = [] then .refused 404
        else if host.fileExists path then .result
        else .refused 410

def cacheKey (request : DnsLookupRequest) : Text :=
  let flag (value : Bool) : Text := if value then "True".toList else "False".toList
  request.name ++ '|' :: request.type.value.toList ++ '|' :: request.resolver ++
    '|' :: flag request.dnssec ++ '|' :: flag request.trace

/-- `_resolve_sync`, as the lookup of that number in its request. What the name servers answer
never makes it raise. -/
def resolve (turn : Nat) (request : DnsLookupRequest) : Reply :=
  if host.cached turn (cacheKey request) then .result
  else if request.resolver = "system".toList then
    if host.systemConfigured then .result else .failed
  else if request.resolver = "default".toList then .result
  else if host.nameserver request.resolver then .result
  else .refused 500

def resolveAll (turn : Nat) : List DnsLookupRequest → Reply
  | [] => .result
  | request :: rest =>
    match host.resolve turn request with
    | .result => resolveAll (turn + 1) rest
    | raised => raised

/-- A lookup of the routes that take a name: pydantic looks at the name first. -/
def resolveName (name : Text) (type : RecordType) (dnssec trace : Bool) : Reply :=
  if named : Named name then
    host.resolve 0 { name, type, dnssec, trace, named, timely := ⟨by decide, by decide⟩ }
  else .refused 500

def reverse (address : Text) : Reply :=
  match host.reverseName address with
  | none => .refused 500
  | some pointer => host.resolveName pointer .ptr false false

/-- `_RESOLVERS.get(resolver_name, resolver_name)` -/
def resolverOf (name : Text) : Text :=
  if name = "cloudflare".toList then "1.1.1.1".toList
  else if name = "google".toList then "8.8.8.8".toList
  else if name = "quad9".toList then "9.9.9.9".toList
  else if name = "opendns".toList then "208.67.222.222".toList
  else if name = "default".toList then "system".toList
  else name

def propagationLookups (body : DnsCompareRequest) : List DnsLookupRequest :=
  body.resolvers.map fun name => {
    name := body.name
    type := body.type
    resolver := resolverOf name
    timeoutMs := body.timeoutMs
    named := body.named
    timely := body.timely }

/-- The baseline and the recursive resolvers, whose names are used as they come. -/
def authorityLookups (body : DnsCompareRequest) : List DnsLookupRequest :=
  let request (resolver : Text) (trace : Bool) : DnsLookupRequest := {
    name := body.name
    type := body.type
    resolver
    trace
    timeoutMs := body.timeoutMs
    named := body.named
    timely := body.timely }
  request "system".toList body.authoritative ::
    body.resolvers.map fun resolver => request resolver false

def billed (gate : Gate) (price : Price) (extra : Extra) : Gate :=
  { gate with amount := host.price price, extraBody := some extra }

def noGate : GateResponse := { statusCode := 402, error := "payment_required" }

/-- `paid_diagnostic_delivery_guard` -/
def deliveryGuard (gate : Gate) : GateM Unit :=
  if truthy gate.paymentHeader || gate.devBypassed then pure () else answered host.dispatch

/-- `require_payment`, and what follows it -/
def charged (price : Price) (delivery : Reply) : GateM Reply := do
  match host.gate with
  | none => return .payment noGate
  | some gate =>
    match ← (host.billed gate price []).checkPayment with
    | .inl response => return .payment response
    | .inr _ =>
      host.deliveryGuard gate
      return delivery

/-- `_verify_deferred`, the answer, and `_settle_deferred` -/
def deferred (price : Price) (domain : Text) (delivery : Reply) : GateM Reply := do
  match host.gate with
  | none => return .payment noGate
  | some gate =>
    let billed := host.billed gate price [("domain", .text (String.ofList domain))]
    match ← billed.verifyOnly with
    | .inl response => return .payment response
    | .inr verified =>
      host.deliveryGuard gate
      if delivery = .result then
        if ← billed.settleVerified verified then return .result
        else return .refused 402
      else return delivery

def checked (price : Price) (body : DnsDomainCheckRequest) (available : Bool)
    (delivery : Reply) : GateM Reply :=
  match normalizeDomain host.domains body.domain with
  | none => pure (.refused 422)
  | some domain =>
    if !available then pure (.refused 503)
    else if host.inFlight then pure (.refused 409)
    else host.deferred price domain delivery

def checkBlocklists : Reply :=
  match host.blocklists with
  | .answered => .result
  | .unavailable => .refused 503
  | .failed => .failed

def checkFiltering : Reply :=
  match host.filtering with
  | none => .refused 503
  | some (.answered meetsQualityFloor) => if meetsQualityFloor then .result else .refused 503
  | some .notResolvable => .refused 422
  | some .failed => .failed

/-- `_lookup_price_attr` -/
def lookupPrice (body : BgpLookupRequest) : Price :=
  if .liveLookingGlass ∈ body.datasets then .bgpLookingGlass else .bgpLookup

def bgpSubject (type : BgpSubjectType) (value : Text) : BgpLookupRequest :=
  { subject := ⟨type, .text value⟩ }

def jobPrice : BgpStreamRecordType → Price
  | .ribs => .bgpstreamRib
  | .updates => .bgpstreamHour

def serve : Route → GateM Reply
  | .bgpLookup body => host.charged (lookupPrice body) (host.lookupBgp body)
  | .bgpPrefix network => host.charged .bgpLookup (host.lookupBgp (bgpSubject .network network))
  | .bgpIp address => host.charged .bgpLookup (host.lookupBgp (bgpSubject .ip address))
  | .bgpAsn asn => host.charged .bgpLookup (host.lookupBgp (bgpSubject .asn asn))
  | .createBgpstreamJob recordType =>
    if !host.workerEnabled then pure (.refused 501)
    else host.charged (jobPrice recordType) (if host.jobStored then .result else .failed)
  | .downloadBgpRouterSnapshot snapshotId =>
    if !host.downloadEnabled then pure (.refused 501)
    else host.charged .bgpRouterTable (host.snapshotDownload snapshotId)
  | .dnsLookup body => host.charged .dnsLookup (host.resolve 0 body)
  | .dnsResolve name type => host.charged .dnsLookup (host.resolveName name type false false)
  | .dnsReverse address => host.charged .dnsLookup (host.reverse address)
  | .dnsTrace name type => host.charged .dnsLookup (host.resolveName name type false true)
  | .dnsDnssec name => host.charged .dnsLookup (host.resolveName name .ds true false)
  | .dnsServers domain => host.charged .dnsLookup (host.resolveName domain .ns false false)
  | .dnsZoneCheck domain => host.charged .dnsLookup (host.resolveName domain .soa true false)
  | .dnsPropagation body =>
    host.charged .dnsLookup (host.resolveAll 0 (propagationLookups body))
  | .dnsAuthorityVsRecursive body =>
    host.charged .dnsLookup (host.resolveAll 0 (authorityLookups body))
  | .dnsResolverDetect => host.charged .dnsLookup .result
  | .dnsDnssecReport name => host.charged .dnsLookup (host.resolveName name .ds true true)
  | .dnsBlocklistCheck body =>
    host.checked .dnsBlocklistCheck body host.blocklistsReady host.checkBlocklists
  | .dnsFilteringCheck body =>
    host.checked .dnsFilteringCheck body host.filteringEnabled host.checkFiltering

end Host

end HyruleCloud.DiagnosticRoutes
