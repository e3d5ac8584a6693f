import HyruleCloud.ZoneConvergence

/-!
The delegation of a domain and its DNSSEC keys at the registrar, domains/service.py. The
jobs `_apply_nameservers`, `_apply_dnssec` and `_ensure_managed_zone` read the row of the
domain once, change the registrar in separate calls, and write the row back without a lock.
A call that fails, or a check that raises, stops the attempt of a job between two calls.
-/

namespace HyruleCloud.RegistrarKeys

open Interaction Zones

structure DnsKey where
  flags : Nat
  protocol : Nat
  alg : Nat
  pubKey : Text
  deriving DecidableEq

structure DSRecord where
  keyTag : Nat
  algorithm : Nat
  digestType : Nat
  digest : Text
  deriving DecidableEq

structure DelegatedDomain extends ManagedDomain where
  nameservers : List Text := []
  dsRecords : List DSRecord := []

structure Registration where
  nameservers : List Text
  dnssecKeys : List DnsKey

abbrev Authority := Finset Text

def authority (nameservers : List Text) : Authority := nameservers.toFinset

/-- `makeDs` has the DS records of a key, under each digest that can be made. -/
structure KeyRules where
  managedNameservers : List Text
  makeDs : DnsKey → List DSRecord
  serves : Authority → DnsKey → Prop

inductive KeyJobKind where
  | nameservers (mode : NameserverMode) (nameservers : List Text)
  | dnssec (mode : DnssecMode) (submitted : List DSRecord)
  | fulfilOrder
  | reconcileDomain
  deriving DecidableEq

inductive KeyCall where
  -- `set_dnssec_keys` with none
  | clearKeys
  | updateNameservers (nameservers : List Text)
  -- `_ensure_managed_zone`, before its call of `update_nameservers` and after it
  | readZone (mode : Option DnssecMode)
  | fetchKeys
  | setManagedKeys
  | activate
  -- `_apply_dnssec`
  | resolveKeys (submitted : List DSRecord)
  | setKeys
  -- the last commits
  | writeDelegation (mode : NameserverMode) (nameservers : List Text) (incompatible : Bool)
  | writeDnssec (mode : DnssecMode)

structure Locals where
  managedDnssec : Bool := false
  keys : List DnsKey := []
  dsRecords : List DSRecord := []

structure KeyWork where
  job : OperationId
  kind : KeyJobKind
  call : KeyCall
  rest : List KeyCall
  locals : Locals := {}

def KeyWork.todo (work : KeyWork) : List KeyCall := work.call :: work.rest

/-- A job that is queued, or running. `owing`: an attempt has ended ahead of its commit. -/
structure KeyJob where
  kind : KeyJobKind
  owing : Bool
  deriving DecidableEq

structure KeyDesk where
  row : DelegatedDomain
  registrar : Registration
  works : ProcessId → Option KeyWork
  jobs : Table OperationId KeyJob

section Matching

def DSRecord.fingerprint (ds : DSRecord) : DSRecord :=
  { ds with digest := ds.digest.map Char.toUpper }

/-- `_resolve_matching_dnskeys`; the resolver may have no answer. -/
def resolveMatchingDnskeys (makeDs : DnsKey → List DSRecord) (answer : Option (List DnsKey))
    (submitted : List DSRecord) : Except Err (List DnsKey × List DSRecord) :=
  if submitted = [] then .error (.domainProblem 422 "dnssec_records_required")
  else match answer with
    | none => .error (.domainProblem 422 "dnskey_unavailable")
    | some keys =>
      let expected := submitted.map DSRecord.fingerprint
      let matchedKeys := (keys.filter fun key => (makeDs key).any (expected.contains ·)).eraseDups
      let matchedDs := keys.flatMap fun key => (makeDs key).filter (expected.contains ·)
      if matchedKeys = [] ∨ ¬ expected ⊆ matchedDs then
        .error (.domainProblem 422 "dnssec_mismatch")
      else .ok (matchedKeys, matchedDs)

end Matching

section Jobs

/-- `_ensure_managed_zone` -/
def ensureManagedZone (rules : KeyRules) (mode : Option DnssecMode) : List KeyCall :=
  [.readZone mode, .fetchKeys, .updateNameservers rules.managedNameservers, .setManagedKeys,
    .activate]

def incompatibleDnssec (mode : NameserverMode) (domain : DelegatedDomain) : Bool :=
  (mode = .managed && domain.dnssecMode = .external) ||
    (mode = .external && domain.dnssecMode = .managed)

/-- `_apply_nameservers`; the row decides what it has to do. -/
def applyNameservers (rules : KeyRules) (mode : NameserverMode) (nameservers : List Text)
    (domain : DelegatedDomain) : Except Err (List KeyCall) :=
  match mode, externalDelegationRefusal domain.toManagedDomain with
  | .external, some error => .error error
  | _, _ =>
    if domain.openproviderId = none then .error (.runtime "domain has no registrar id")
    else
      let incompatible := incompatibleDnssec mode domain
      let clears := if incompatible then [KeyCall.clearKeys] else []
      let moves := match mode with
        | .managed => ensureManagedZone rules (if incompatible then some .off else none)
        | .external => [.updateNameservers nameservers]
      .ok (clears ++ moves ++ [.writeDelegation mode nameservers incompatible])

/-- `_apply_dnssec` -/
def applyDnssec (rules : KeyRules) (mode : DnssecMode) (submitted : List DSRecord)
    (domain : DelegatedDomain) : Except Err (List KeyCall) :=
  if domain.openproviderId = none then .error (.runtime "domain has no registrar id")
  else match mode with
    | .managed =>
      if domain.nameserverMode ≠ .managed then .error (.domainProblem 409 "managed_dns_disabled")
      else .ok (ensureManagedZone rules (some .managed) ++ [.writeDnssec .managed])
    | .external =>
      if domain.nameserverMode ≠ .external then .error (.domainProblem 409 "external_dns_required")
      else .ok [.resolveKeys submitted, .setKeys, .writeDnssec .external]
    | .off => .ok [.clearKeys, .writeDnssec .off]

def callsOf (rules : KeyRules) (kind : KeyJobKind) (domain : DelegatedDomain) :
    Except Err (List KeyCall) :=
  match kind with
  | .nameservers mode nameservers => applyNameservers rules mode nameservers domain
  | .dnssec mode submitted => applyDnssec rules mode submitted domain
  | .fulfilOrder => .ok (ensureManagedZone rules none)
  | .reconcileDomain =>
    if domain.nameserverMode = .managed then .ok (ensureManagedZone rules none) else .ok []

/-- One call, with what DNS control or the resolver answers it. `none` raises. -/
def KeyCall.run (rules : KeyRules) (answer : Option (List DnsKey)) (call : KeyCall)
    (locals : Locals) (row : DelegatedDomain) (registrar : Registration) :
    Option (Locals × DelegatedDomain × Registration) :=
  match call with
  | .clearKeys => some (locals, row, { registrar with dnssecKeys := [] })
  | .updateNameservers nameservers =>
    some (locals, row, { registrar with nameservers := nameservers })
  | .readZone mode =>
    let managed := match mode with
      | some mode => mode = .managed
      | none => row.dnssecMode = .managed
    some ({ locals with managedDnssec := managed }, row, registrar)
  | .fetchKeys =>
    if locals.managedDnssec then match answer with
      | none | some [] => none
      | some keys => some ({ locals with keys := keys }, row, registrar)
    else some ({ locals with keys := [] }, row, registrar)
  | .setManagedKeys =>
    if locals.managedDnssec then
      some (locals, row, { registrar with dnssecKeys := locals.keys })
    else some (locals, row, registrar)
  | .activate => some (locals, { row with
      nameserverMode := .managed
      nameservers := rules.managedNameservers
      dnssecStatus := if row.dnssecMode = .managed then .active else row.dnssecStatus }, registrar)
  | .resolveKeys submitted => match resolveMatchingDnskeys rules.makeDs answer submitted with
      | .error _ => none
      | .ok (keys, dsRecords) =>
        some ({ locals with keys := keys, dsRecords := dsRecords }, row, registrar)
  | .setKeys => some (locals, row, { registrar with dnssecKeys := locals.keys })
  | .writeDelegation mode nameservers incompatible =>
    let moved := { row with nameserverMode := mode, nameservers := nameservers }
    some (locals, if incompatible then
      { moved with dnssecMode := .off, dnssecStatus := .off, dsRecords := [] } else moved,
      registrar)
  | .writeDnssec mode => some (locals, { row with
      dnssecMode := mode
      dnssecStatus := if mode ≠ .off then .active else .off
      dsRecords := locals.dsRecords }, registrar)

def ahead : List KeyCall → Bool
  | [.activate, .writeDnssec _] => true
  | [.writeDnssec mode] => mode ≠ .off
  | [.writeDelegation .managed _ incompatible] => incompatible
  | _ => false

end Jobs

namespace KeyDesk

def goOn (w : ProcessId) (work : Option KeyWork) (desk : KeyDesk) : KeyDesk :=
  { desk with works := Function.update desk.works w work }

def hasJob (desk : KeyDesk) (job : OperationId) (kind : KeyJobKind) : Bool :=
  (desk.jobs job).any fun row => row.kind = kind

def markJob (job : OperationId) (kind : KeyJobKind) (mark : Bool → Bool) (desk : KeyDesk) :
    KeyDesk :=
  match desk.jobs job with
  | some row =>
    if row.kind = kind then
      { desk with jobs := desk.jobs.put job { row with owing := mark row.owing } }
    else desk
  | none => desk

def start (rules : KeyRules) (w : ProcessId) (job : OperationId) (desk : KeyDesk) : KeyDesk :=
  match desk.works w, desk.jobs job with
  | none, some row => match callsOf rules row.kind desk.row with
      | .ok (call :: rest) =>
        goOn w (some { job := job, kind := row.kind, call := call, rest := rest }) desk
      | _ => desk
  | _, _ => desk

def stop (w : ProcessId) (desk : KeyDesk) : KeyDesk :=
  match desk.works w with
  | none => desk
  | some work =>
    goOn w none (markJob work.job work.kind (fun owing => owing || ahead work.todo) desk)

def next (rules : KeyRules) (w : ProcessId) (answer : Option (List DnsKey)) (desk : KeyDesk) :
    KeyDesk :=
  match desk.works w with
  | none => desk
  | some work => match work.call.run rules answer work.locals desk.row desk.registrar with
      | none => stop w desk
      | some (locals, row, registrar) =>
        let moved := { desk with row := row, registrar := registrar }
        match work.rest with
        | [] => goOn w none (markJob work.job work.kind (fun _ => false) moved)
        | call :: rest =>
          goOn w (some { work with call := call, rest := rest, locals := locals }) moved

def writeColumns (change : DelegatedDomain → DelegatedDomain) (desk : KeyDesk) : KeyDesk :=
  { desk with row := { change desk.row with
    nameserverMode := desk.row.nameserverMode
    dnssecMode := desk.row.dnssecMode } }

def enqueue (job : OperationId) (kind : KeyJobKind) (desk : KeyDesk) : KeyDesk :=
  match desk.jobs job with
  | some _ => desk
  | none => { desk with jobs := desk.jobs.put job ⟨kind, false⟩ }

end KeyDesk

inductive KeyStep where
  | start (w : ProcessId) (job : OperationId)
  | next (w : ProcessId) (answer : Option (List DnsKey))
  | stop (w : ProcessId)
  | columns (change : DelegatedDomain → DelegatedDomain)
  | enqueue (job : OperationId) (kind : KeyJobKind)
  -- the job is done, or given up
  | drop (job : OperationId)

def keyStep (rules : KeyRules) (step : KeyStep) (desk : KeyDesk) : KeyDesk :=
  match step with
  | .start w job => desk.start rules w job
  | .next w answer => desk.next rules w answer
  | .stop w => desk.stop w
  | .columns change => desk.writeColumns change
  | .enqueue job kind => desk.enqueue job kind
  | .drop job => { desk with jobs := desk.jobs.erase job }

def Answers (rules : KeyRules) (call : KeyCall) (answer : Option (List DnsKey))
    (registrar : Registration) : Prop :=
  match call with
  | .fetchKeys => ∀ keys, answer = some keys →
      ∀ key ∈ keys, rules.serves (authority rules.managedNameservers) key
  | .resolveKeys _ => ∀ keys, answer = some keys →
      ∀ key ∈ keys, rules.serves (authority registrar.nameservers) key
  | _ => True

def mayAnswer (rules : KeyRules) (step : KeyStep) (desk : KeyDesk) : Prop :=
  match step with
  | .next w answer => ∀ work, desk.works w = some work →
      Answers rules work.call answer desk.registrar
  | _ => True

def keyJobs (rules : KeyRules) : Protocol KeyDesk KeyStep := ⟨keyStep rules, mayAnswer rules⟩

def KeepsAuthority (kind : KeyJobKind) (desk : KeyDesk) : Prop :=
  match kind with
  | .nameservers .external nameservers => desk.row.dnssecMode = .external →
      authority nameservers = authority desk.registrar.nameservers
  | .fulfilOrder => desk.row.dnssecMode ≠ .external
  | _ => True

/-- The jobs of the domain come one after the other. An attempt that has ended ahead of its
commit is made again first, and its job is not given up. No job takes a domain with external
DNSSEC to other nameservers and leaves its keys. -/
def keepsOrder (step : KeyStep) (desk : KeyDesk) : Prop :=
  match step with
  | .start _ job => (∀ v, desk.works v = none) ∧
      (∀ other row, desk.jobs other = some row → row.owing = true → other = job) ∧
      ∀ row, desk.jobs job = some row → KeepsAuthority row.kind desk
  | .stop w => ∀ work, desk.works w = some work → ahead work.todo = true →
      desk.hasJob work.job work.kind = true
  | .drop job => ∀ row, desk.jobs job = some row → row.owing = false
  | _ => True

def orderedKeyJobs (rules : KeyRules) : Protocol KeyDesk KeyStep :=
  ⟨keyStep rules, fun step desk => mayAnswer rules step desk ∧ keepsOrder step desk⟩

def FromAuthority (rules : KeyRules) (registrar : Registration) : Prop :=
  ∀ key ∈ registrar.dnssecKeys, rules.serves (authority registrar.nameservers) key

structure RowAgrees (row : DelegatedDomain) (registrar : Registration) : Prop where
  managed : row.dnssecMode = .managed → row.nameserverMode = .managed
  external : row.dnssecMode = .external → row.nameserverMode = .external
  off : row.dnssecMode = .off → registrar.dnssecKeys = []

structure KeysQuiescent (desk : KeyDesk) : Prop where
  works : ∀ w, desk.works w = none
  jobs : ∀ job, desk.jobs job = none

/-- The row agrees, and under managed DNSSEC the keys are those of the managed zone. -/
structure Settled (rules : KeyRules) (row : DelegatedDomain) (registrar : Registration) :
    Prop where
  agrees : RowAgrees row registrar
  own : row.dnssecMode = .managed →
    ∀ key ∈ registrar.dnssecKeys, rules.serves (authority rules.managedNameservers) key
  source : FromAuthority rules registrar

/-- Where a run begins, such as with a domain that has just been registered: managed, without
keys at the registrar. -/
structure KeysStart (rules : KeyRules) (desk : KeyDesk) : Prop where
  works : ∀ w, desk.works w = none
  jobs : ∀ job row, desk.jobs job = some row → row.owing = false
  settled : Settled rules desk.row desk.registrar

end HyruleCloud.RegistrarKeys
