import HyruleCloud.CheckedUse

/-!
The public web and mail diagnostics, as far as they look names up and open connections. The
resolver answers every lookup anew; the contacted servers accept or refuse and may redirect.
The text functions of the standard library and the platform's reading of a service number
are parameters.
-/

namespace HyruleCloud.PublicProbes

open CheckedUse

abbrev Text := List Char

local instance : LawfulBEq Text := inferInstance

/-- What `ipaddress.ip_address` says of an address. -/
structure IpAddress where
  text : String
  isPrivate : Bool
  isLoopback : Bool
  isLinkLocal : Bool
  isMulticast : Bool
  isReserved : Bool
  isUnspecified : Bool

structure Platform where
  strip : Text → Text
  lower : Text → Text
  isSpace : Char → Bool
  int : Text → Option Int
  ipAddress : Text → Option IpAddress
  /-- Bracketed hosts and their characters under normalisation. -/
  checkNetloc : Text → Bool
  service : Int → Option Nat
  service_port : ∀ port : Nat, port ≤ 65535 → service port = some port

inductive TlsVersion where
  | tlsV1 | tlsV1_1 | tlsV1_2 | tlsV1_3
  deriving DecidableEq

inductive Lookup where
  | url | gate | dnsCheck | certificate | probe | banner
  | protocol (version : TlsVersion)
  | client (hop : Nat)
  deriving DecidableEq

structure World where
  /-- `getaddrinfo`, `none` where it raises. -/
  resolve : Lookup → Text → Option (List Text)
  mailExchangers : Text → List Text
  accepts : Lookup → Text → Bool
  /-- The URL that the reply of a hop redirects to. -/
  redirect : Nat → Option Text

structure Endpoint where
  address : Text
  port : Nat
  deriving DecidableEq

inductive Failure where
  | unsafeTarget (message : String)
  | valueError
  | input (message : String)
  | connection
  deriving DecidableEq

abbrev Probe := Work Text Endpoint Failure

def before (mark : Char) (text : Text) : Text := text.takeWhile (· ≠ mark)

def after (mark : Char) (text : Text) : Text := (text.dropWhile (· ≠ mark)).drop 1

def afterLast (mark : Char) (text : Text) : Text := (text.reverse.takeWhile (· ≠ mark)).reverse

def dropEnd (drops : Char → Bool) (text : Text) : Text := (text.reverse.dropWhile drops).reverse

def startsWith (start : String) (text : Text) : Bool := start.toList.isPrefixOf text

def separator : Text := [':', '/', '/']

def hasSeparator (text : Text) : Bool := text.tails.any fun rest => separator.isPrefixOf rest

def isDigit (character : Char) : Bool := '0' ≤ character ∧ character ≤ '9'

def isLetter (character : Char) : Bool :=
  ('a' ≤ character ∧ character ≤ 'z') ∨ ('A' ≤ character ∧ character ≤ 'Z')

def isSchemeChar (character : Char) : Bool :=
  isLetter character || isDigit character || ['+', '-', '.'].contains character

def decimal (digits : Text) : Nat :=
  digits.foldl (fun value digit => value * 10 + (digit.toNat - '0'.toNat)) 0

/-! `urlparse`, as far as a URL's scheme, host and port go. -/

structure ParsedUrl where
  scheme : Text
  netloc : Text

/-- Leading control characters and blanks are dropped, and so are tabs and line ends. -/
def cleanUrl (url : Text) : Text :=
  (url.dropWhile fun character => character.toNat ≤ 32).filter fun character =>
    !(['\t', '\r', '\n'].contains character)

def splitScheme (platform : Platform) (url : Text) : Text × Text :=
  let name := before ':' url
  if url.contains ':' && (name.head?.any isLetter) && name.all isSchemeChar then
    (platform.lower name, after ':' url)
  else ([], url)

def urlparse (platform : Platform) (text : Text) : Option ParsedUrl :=
  let (scheme, rest) := splitScheme platform (cleanUrl text)
  if startsWith "//" rest then
    let netloc := (rest.drop 2).takeWhile fun character => !(['/', '?', '#'].contains character)
    if platform.checkNetloc netloc then some ⟨scheme, netloc⟩ else none
  else some ⟨scheme, []⟩

namespace ParsedUrl

def hostinfo (url : ParsedUrl) : Text × Text :=
  let info := afterLast '@' url.netloc
  if info.contains '[' then
    let bracketed := after '[' info
    (before ']' bracketed, after ':' (after ']' bracketed))
  else (before ':' info, after ':' info)

/-- The host in lower case, but for the zone after a percent sign; empty for no host. -/
def hostname (platform : Platform) (url : ParsedUrl) : Text :=
  let host := url.hostinfo.1
  platform.lower (before '%' host) ++ host.dropWhile (· ≠ '%')

/-- `none` where the property raises, zero for no port. -/
def port (url : ParsedUrl) : Option Nat :=
  let text := url.hostinfo.2
  if text.isEmpty then some 0
  else if text.all isDigit && decimal text ≤ 65535 then some (decimal text)
  else none

/-- `parsed.port or (443 if scheme == "https" else 80)`. -/
def portOrDefault (url : ParsedUrl) : Option Nat :=
  url.port.map fun port =>
    if port = 0 then (if url.scheme = "https".toList then 443 else 80) else port

end ParsedUrl

def blockedPorts : List Int := [0, 135, 137, 138, 139, 445, 3306, 5432, 6379, 11211, 27017]

def allowedTcpPorts : List Int :=
  [22, 25, 53, 80, 110, 143, 443, 465, 587, 993, 995, 2525, 5060, 5061, 8080, 8443]

def isBlockedIp (ip : IpAddress) : Bool :=
  ip.isPrivate || ip.isLoopback || ip.isLinkLocal || ip.isMulticast || ip.isReserved ||
    ip.isUnspecified

def normalizeHost (platform : Platform) (target : Text) : Except Failure Text :=
  let value := platform.strip target
  let named (host : Text) : Except Failure Text :=
    if host.isEmpty then .error (.unsafeTarget "target host is empty")
    else .ok (platform.lower (dropEnd (· = '.') host))
  if value.isEmpty then .error (.unsafeTarget "target is empty")
  else if hasSeparator value then
    match urlparse platform value with
    | none => .error .valueError
    | some parsed => named (parsed.hostname platform)
  else
    let host := before '/' value
    if startsWith "[" host && host.contains ']' then named (before ']' (host.drop 1))
    else if host.count ':' = 1 then named (before ':' host)
    else named host

def assertPublicHost (platform : Platform) (host : Text) : Except Failure Unit :=
  match platform.ipAddress host with
  | none => .ok ()
  | some ip =>
    if isBlockedIp ip then .error (.unsafeTarget s!"blocked non-public target: {ip.text}")
    else .ok ()

/-- The loop over the answers: one that is not public ends the request. -/
def collectAddresses (platform : Platform) : List Text → List Text → Except Failure (List Text)
  | addresses, [] => .ok addresses
  | addresses, address :: rest =>
    match platform.ipAddress address with
    | none => .error .valueError
    | some ip =>
      if isBlockedIp ip then
        .error (.unsafeTarget s!"blocked resolved non-public target: {ip.text}")
      else if addresses.contains address then collectAddresses platform addresses rest
      else collectAddresses platform (addresses ++ [address]) rest

def publicAddresses (platform : Platform) (host : Text) (answer : Option (List Text)) :
    Except Failure (List Text) := do
  assertPublicHost platform host
  match answer with
  | none => .error (.unsafeTarget "unable to resolve target")
  | some infos =>
    let addresses ← collectAddresses platform [] infos
    if addresses.isEmpty then
      .error (.unsafeTarget "target resolved to no usable addresses")
    else .ok addresses

def assertSafePort (port : Int) : Except Failure Unit :=
  if port < 1 ∨ 65535 < port then .error (.unsafeTarget "invalid TCP port")
  else if port ∈ blockedPorts then .error (.unsafeTarget s!"blocked TCP port: {port}")
  else if port ∉ allowedTcpPorts then
    .error (.unsafeTarget s!"TCP port {port} is not in the public diagnostic allowlist")
  else .ok ()

def lift {α : Type} (result : Except Failure α) : Probe α := ⟨[], result⟩

section Tools

variable (platform : Platform) (world : World)

def resolvePublicAddresses (lookup : Lookup) (host : Text) : Probe (List Text) :=
  match publicAddresses platform host (world.resolve lookup host) with
  | .error failure => .fail failure
  | .ok addresses => .check addresses

def assertSafeActiveProbeTarget (lookup : Lookup) (target : Text) (port : Int) :
    Probe (List Text) := do
  let host ← lift (normalizeHost platform target)
  lift (assertSafePort port)
  resolvePublicAddresses platform world lookup host

def withScheme (defaultScheme urlOrHost : Text) : Text :=
  let value := platform.strip urlOrHost
  if hasSeparator value then value else defaultScheme ++ separator ++ value

/-- The URL and the host that `safe_url` looks up. -/
def checkedUrl (defaultScheme urlOrHost : Text) : Except Failure (Text × Text) :=
  let value := withScheme platform defaultScheme urlOrHost
  match urlparse platform value with
  | none => .error .valueError
  | some parsed =>
    if parsed.scheme ∈ ["http".toList, "https".toList] then
      (normalizeHost platform value).map fun _ => (value, parsed.hostname platform)
    else .error (.unsafeTarget "only http and https URLs are allowed")

def safeUrl (defaultScheme urlOrHost : Text) : Probe Text := do
  let (value, host) ← lift (checkedUrl platform defaultScheme urlOrHost)
  let _ ← resolvePublicAddresses platform world .url host
  pure value

/-- `socket.create_connection` to an address. -/
def createConnection (lookup : Lookup) (address : Text) (port : Int) : Probe Unit :=
  match platform.service port with
  | none => .fail .connection
  | some number => do
    .use [⟨address, number⟩]
    if world.accepts lookup address then pure () else .fail .connection

/-- `addresses[0]` is taken. -/
def connectFirst (lookup : Lookup) (addresses : List Text) (port : Int) : Probe Unit :=
  match addresses with
  | [] => .fail .valueError
  | address :: _ => createConnection platform world lookup address port

def tlsHandshake (lookup : Lookup) (host : Text) (port : Int) : Probe Unit := do
  let addresses ← assertSafeActiveProbeTarget platform world lookup host port
  connectFirst platform world lookup addresses port

def tlsCertificate (host : Text) (port : Int) : Probe Unit :=
  tlsHandshake platform world .certificate host port

def tlsProtocolProbe (host : Text) (port : Int) : List TlsVersion → Probe Unit
  | [] => pure ()
  | version :: rest => do
    let _ ← (tlsHandshake platform world (.protocol version) host port).caught
    tlsProtocolProbe host port rest

/-- The addresses that the HTTP client tries: up to the first that accepts. -/
def tried (accepts : Text → Bool) : List Text → List Text
  | [] => []
  | address :: rest => if accepts address then [address] else address :: tried accepts rest

def maxRedirects : Nat := 20

def clientHop (hop : Nat) (url : Text) : Except Failure (Nat × List Text) :=
  match urlparse platform url with
  | none => .error .valueError
  | some parsed =>
    match parsed.portOrDefault, world.resolve (.client hop) (parsed.hostname platform) with
    | some port, some answer => .ok (port, answer)
    | _, _ => .error .connection

/-- `httpx`: it resolves the URL's host and connects to the URL's port, for every URL of a
chain of redirects that it follows. -/
def httpGet (follow : Bool) (left hop : Nat) (url : Text) : Probe Unit := do
  let (port, answer) ← lift (clientHop platform world hop url)
  .use ((tried (world.accepts (.client hop)) answer).map fun address => ⟨address, port⟩)
  if answer.any (world.accepts (.client hop)) then
    match follow, world.redirect hop, left with
    | true, some next, more + 1 => httpGet follow more (hop + 1) next
    | _, _, _ => pure ()
  else .fail .connection

end Tools

inductive WebCheck where
  | dns | http | https | tls | cert | headers | cdnWaf | down
  deriving DecidableEq

structure WebCheckRequest where
  target : Text
  checks : List WebCheck

structure WebTLSDeepRequest where
  host : Text
  port : Nat := 443

/-- `other`: a tool that looks up records or registries, or starts a program. -/
inductive MXTool where
  | http | https | mtaSts | tcp | smtp
  | other (value : Text)
  deriving DecidableEq

def MXTool.value : MXTool → Text
  | .http => "http".toList
  | .https => "https".toList
  | .mtaSts => "mta-sts".toList
  | .tcp => "tcp".toList
  | .smtp => "smtp".toList
  | .other value => value

def MXTool.ofValue (value : Text) : MXTool :=
  if value = "http".toList then .http
  else if value = "https".toList then .https
  else if value = "mta-sts".toList then .mtaSts
  else if value = "tcp".toList then .tcp
  else if value = "smtp".toList then .smtp
  else .other value

structure MXCheckRequest where
  tool : Option MXTool
  target : Option Text
  command : Option Text
  port : Option Nat

inductive Request where
  | webCheck (body : WebCheckRequest)
  | tlsDeep (body : WebTLSDeepRequest)
  | mxCheck (body : MXCheckRequest)

section Checks

variable (platform : Platform) (world : World)

def WebCheckRequest.fetches (body : WebCheckRequest) : Bool :=
  body.checks.contains .http || body.checks.contains .https || body.checks.contains .down ||
    body.checks.contains .headers || body.checks.contains .cdnWaf

def WebCheckRequest.handshakes (body : WebCheckRequest) : Bool :=
  body.checks.contains .tls || body.checks.contains .cert

def gatePort (url : Text) : Int := if startsWith "https://" url then 443 else 80

def urlPort (url : Text) : Except Failure Nat :=
  match (urlparse platform url).bind ParsedUrl.portOrDefault with
  | none => .error .valueError
  | some port => .ok port

def dnsFinding (body : WebCheckRequest) (host : Text) (port : Nat) : Probe Unit :=
  if body.checks.contains .dns then do
    let _ ← (assertSafeActiveProbeTarget platform world .dnsCheck host port).caught
    pure ()
  else pure ()

def fetchUrl (body : WebCheckRequest) (url : Text) : Probe Unit :=
  if body.fetches then do
    let _ ← (httpGet platform world false maxRedirects 0 url).caught
    pure ()
  else pure ()

def certificateFinding (body : WebCheckRequest) (host : Text) (port : Nat) : Probe Unit :=
  if body.handshakes then do
    let _ ← (tlsCertificate platform world host port).caught
    pure ()
  else pure ()

def runWebCheck (body : WebCheckRequest) : Probe Unit := do
  let url ← safeUrl platform world "https".toList body.target
  let host ← lift (normalizeHost platform url)
  let _ ← assertSafeActiveProbeTarget platform world .gate host (gatePort url)
  let port ← lift (urlPort platform url)
  dnsFinding platform world body host port
  fetchUrl platform world body url
  certificateFinding platform world body host port

def tlsVersions : List TlsVersion := [.tlsV1, .tlsV1_1, .tlsV1_2, .tlsV1_3]

def runWebTlsDeep (body : WebTLSDeepRequest) : Probe Unit := do
  let _ ← assertSafeActiveProbeTarget platform world .gate body.host body.port
  let _ ← (tlsCertificate platform world body.host body.port).caught
  tlsProtocolProbe platform world body.host body.port tlsVersions

def normalizeRequest (req : MXCheckRequest) : Except Failure (MXTool × Text) :=
  match req.command with
  | some (first :: rest) =>
    let command := first :: rest
    let toolText := before ':' command
    let target := after ':' command
    if !command.contains ':' || toolText.isEmpty || target.isEmpty then
      .error (.input "command must be in SuperTool form, e.g. mx:example.com")
    else .ok (.ofValue (platform.lower (platform.strip toolText)), platform.strip target)
  | _ =>
    match req.tool, req.target with
    | some tool, some (first :: rest) => .ok (tool, platform.strip (first :: rest))
    | _, _ =>
      .error (.input "tool and target are required when command is not supplied")

def mxHttp (tool : MXTool) (target : Text) : Probe Unit := do
  let url ← safeUrl platform world tool.value target
  let _ ← (httpGet platform world false maxRedirects 0 url).caught
  pure ()

def askable (name : Text) : Except Failure Unit :=
  if name.length < 1 ∨ 253 < name.length then .error .valueError else .ok ()

def policyUrl (target : Text) : Text :=
  "https://mta-sts.".toList ++ target ++ "/.well-known/mta-sts.txt".toList

def mtaSts (target : Text) : Probe Unit := do
  lift (askable ("_mta-sts.".toList ++ target))
  let fetch : Probe Unit := do
    let url ← safeUrl platform world "https".toList (policyUrl target)
    httpGet platform world true maxRedirects 0 url
  let _ ← fetch.caught
  pure ()

def tcpEndpoint (tool : MXTool) (target : Text) (port : Option Int) :
    Except Failure (Text × Int) :=
  let orDefault (port : Int) : Int :=
    if port = 0 then (if tool = .smtp then 25 else 443) else port
  if target.contains ':' && !startsWith "[" target && target.count ':' = 1 then
    match port, platform.int (after ':' target) with
    | some port, _ => .ok (before ':' target, orDefault port)
    | none, some port => .ok (before ':' target, orDefault port)
    | none, none => .error .valueError
  else .ok (target, orDefault (port.getD 0))

def tcp (tool : MXTool) (target : Text) (port : Option Int) : Probe Bool := do
  let (host, number) ← lift (tcpEndpoint platform tool target port)
  let addresses ← resolvePublicAddresses platform world .probe host
  let connected ← (connectFirst platform world .probe addresses number).caught
  pure connected.isOk

def smtpBanner (host : Text) (port : Int) : Probe Unit := do
  let addresses ← resolvePublicAddresses platform world .banner host
  connectFirst platform world .banner addresses port

def lastWord (value : Text) : Option Text :=
  let trimmed := dropEnd platform.isSpace value
  if trimmed.isEmpty then none
  else some (trimmed.reverse.takeWhile fun character => !platform.isSpace character).reverse

def least (first : Text) (values : List Text) : Text :=
  values.foldl (fun best value => if value < best then value else best) first

def smtpHost (target : Text) : Except Failure Text :=
  match world.mailExchangers target with
  | [] => .ok target
  | first :: rest =>
    match lastWord platform (least first rest) with
    | none => .error .valueError
    | some exchange => .ok (dropEnd (· = '.') exchange)

def smtp (target : Text) : Probe Unit := do
  lift (askable target)
  let host ← lift (smtpHost platform world target)
  let connected ← tcp platform world .smtp host (some 25)
  if connected then do
    let _ ← (smtpBanner platform world host 25).caught
    pure ()
  else pure ()

def runCheck (req : MXCheckRequest) : Probe Unit := do
  let (tool, target) ← lift (normalizeRequest platform req)
  match tool with
  | .http | .https => mxHttp platform world tool target
  | .mtaSts => mtaSts platform world target
  | .tcp => do
    let _ ← tcp platform world tool target (req.port.map Nat.cast)
    pure ()
  | .smtp => smtp platform world target
  | .other _ => pure ()

def serve : Request → Probe Unit
  | .webCheck body => runWebCheck platform world body
  | .tlsDeep body => runWebTlsDeep platform world body
  | .mxCheck body => runCheck platform world body

end Checks

end HyruleCloud.PublicProbes
