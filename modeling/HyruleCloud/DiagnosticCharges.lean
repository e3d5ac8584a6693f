import HyruleCloud.DiagnosticRoutes

/-!
What a paid BGP or DNS request may be charged for. A route that charges first settles before
it looks at what it was asked, so its requests have to be answerable; a check that settles last
settles what it has answered.
-/

namespace HyruleCloud.DiagnosticRoutes

open PaymentGates AdminWaivers
open Blocklists (Text)

/-- A settled request has its result, or one of the calls outside has failed. -/
inductive Delivered : Reply → Prop where
  | result : Delivered .result
  | failed : Delivered .failed

namespace Host
variable (host : Host)

/-- A payment is settled for the request only if the handler does not refuse it. -/
def SettlesOnlyAnswers (route : Route) : Prop :=
  ¬ Unsettled (Gate.perform (host.serve route) {}).2 →
    ∃ reply, (Gate.perform (host.serve route) {}).1 = .ok reply ∧ Delivered reply

def chargesFirst : Route → Option Price
  | .bgpLookup body => some (lookupPrice body)
  | .bgpPrefix _ | .bgpIp _ | .bgpAsn _ => some .bgpLookup
  | .createBgpstreamJob recordType =>
    if host.workerEnabled then some (jobPrice recordType) else none
  | .downloadBgpRouterSnapshot _ => if host.downloadEnabled then some .bgpRouterTable else none
  | .dnsBlocklistCheck _ | .dnsFilteringCheck _ => none
  | _ => some .dnsLookup

def Pays (price : Price) : Prop :=
  ∃ gate, host.gate = some gate ∧ (host.billed gate price []).Settles

/-- The resolver is one that dnspython takes, or the answer is still there. -/
def Accepts (turn : Nat) (request : DnsLookupRequest) : Prop :=
  host.cached turn (cacheKey request) = true ∨ request.resolver = "system".toList ∨
    request.resolver = "default".toList ∨ host.nameserver request.resolver = true

def Unconfigured (turn : Nat) (request : DnsLookupRequest) : Prop :=
  host.cached turn (cacheKey request) = false ∧ request.resolver = "system".toList ∧
    host.systemConfigured = false

/-- Every resolver up to the first lookup that fails is accepted. -/
def AcceptsAll (turn : Nat) : List DnsLookupRequest → Prop
  | [] => True
  | request :: rest =>
    host.Accepts turn request ∧
      (host.Unconfigured turn request ∨ AcceptsAll (turn + 1) rest)

/-- The row is there, names an artifact, and the artifact is there. -/
def Stored (snapshotId : Text) : Prop :=
  ∃ read, host.snapshots = some read ∧ (read snapshotId = none ∨
    ∃ path, read snapshotId = some (some ⟨some path⟩) ∧ path ≠ [] ∧ host.fileExists path = true)

def Answerable : Route → Prop
  | .bgpLookup body =>
    body.subject.type = .asn → host.normalizesAsn body.subject.value = true
  | .bgpAsn asn => host.normalizesAsn (.text asn) = true
  | .downloadBgpRouterSnapshot snapshotId => host.Stored snapshotId
  | .dnsLookup body => host.Accepts 0 body
  | .dnsReverse address => ∃ pointer, host.reverseName address = some pointer ∧ Named pointer
  | .dnsPropagation body => host.AcceptsAll 0 (propagationLookups body)
  | .dnsAuthorityVsRecursive body => host.AcceptsAll 0 (authorityLookups body)
  | .dnsResolve name _ | .dnsTrace name _ | .dnsDnssec name | .dnsServers name
  | .dnsZoneCheck name | .dnsDnssecReport name => Named name
  | _ => True

theorem lookupBgp_delivered (body : BgpLookupRequest) :
    Delivered (host.lookupBgp body) ↔
      (body.subject.type = .asn → host.normalizesAsn body.subject.value = true) := by
  unfold lookupBgp
  split
  · case isTrue refused =>
    simp only [Bool.and_eq_true, decide_eq_true_eq, Bool.not_eq_true'] at refused
    constructor
    · nofun
    · intro normalizes
      rw [normalizes refused.1] at refused
      exact absurd refused.2 (by decide)
  · case isFalse passed =>
    simp only [Bool.and_eq_true, decide_eq_true_eq, Bool.not_eq_true', not_and,
      Bool.not_eq_false] at passed
    constructor
    · exact fun _ => passed
    · intro _
      split
      · exact .result
      · exact .failed

theorem resolve_delivered (turn : Nat) (request : DnsLookupRequest) :
    Delivered (host.resolve turn request) ↔ host.Accepts turn request := by
  unfold resolve Accepts
  split
  · case isTrue cached => exact ⟨fun _ => .inl cached, fun _ => .result⟩
  split
  · case isTrue system =>
    refine ⟨fun _ => .inr (.inl system), fun _ => ?_⟩
    split
    · exact .result
    · exact .failed
  split
  · case isTrue default => exact ⟨fun _ => .inr (.inr (.inl default)), fun _ => .result⟩
  split
  · case isTrue accepted => exact ⟨fun _ => .inr (.inr (.inr accepted)), fun _ => .result⟩
  case isFalse cached system default refused =>
  constructor
  · nofun
  · rintro (known | known | known | known)
    · exact absurd known cached
    · exact absurd known system
    · exact absurd known default
    · exact absurd known refused

theorem resolve_failed (turn : Nat) (request : DnsLookupRequest) :
    host.resolve turn request = .failed ↔ host.Unconfigured turn request := by
  unfold resolve Unconfigured
  split
  · case isTrue cached => simp [cached]
  case isFalse cached =>
  split
  · case isTrue system => cases host.systemConfigured <;> simp [cached, system]
  case isFalse other =>
  refine ⟨?_, fun known => absurd known.2.1 other⟩
  split
  · nofun
  · split <;> nofun

theorem resolveAll_delivered (requests : List DnsLookupRequest) (turn : Nat) :
    Delivered (host.resolveAll turn requests) ↔ host.AcceptsAll turn requests := by
  induction requests generalizing turn with
  | nil => exact ⟨fun _ => trivial, fun _ => .result⟩
  | cons request rest later =>
    have accepted := host.resolve_delivered turn request
    have failed := host.resolve_failed turn request
    unfold resolveAll AcceptsAll
    generalize host.resolve turn request = reply at accepted failed ⊢
    cases reply with
    | result =>
      rw [later (turn + 1), ← accepted, ← failed]
      constructor
      · exact fun known => ⟨.result, .inr known⟩
      · rintro ⟨_, impossible | known⟩
        · cases impossible
        · exact known
    | failed => exact ⟨fun _ => ⟨accepted.mp .failed, .inl (failed.mp rfl)⟩, fun _ => .failed⟩
    | payment | refused => exact ⟨nofun, fun known => accepted.mpr known.1⟩

theorem resolveName_delivered (name : Text) (type : RecordType) (dnssec trace : Bool) :
    Delivered (host.resolveName name type dnssec trace) ↔ Named name := by
  unfold resolveName
  split
  · case isTrue named =>
    rw [resolve_delivered]
    exact ⟨fun _ => named, fun _ => .inr (.inl rfl)⟩
  · case isFalse unnamed => exact ⟨nofun, fun named => absurd named unnamed⟩

theorem reverse_delivered (address : Text) :
    Delivered (host.reverse address) ↔
      ∃ pointer, host.reverseName address = some pointer ∧ Named pointer := by
  unfold reverse
  split
  · case h_1 unread =>
    rw [unread]
    constructor
    · nofun
    · rintro ⟨pointer, read, _⟩
      cases read
  · case h_2 pointer read =>
    rw [resolveName_delivered, read]
    simp

theorem snapshot_delivered (snapshotId : Text) :
    Delivered (host.snapshotDownload snapshotId) ↔ host.Stored snapshotId := by
  unfold snapshotDownload Stored
  cases host.snapshots with
  | none => exact ⟨nofun, nofun⟩
  | some read =>
    simp only [Option.some.injEq, exists_eq_left']
    rcases read snapshotId with _ | _ | ⟨_ | path⟩
    · exact ⟨fun _ => .inl rfl, fun _ => .failed⟩
    · exact ⟨nofun, by simp⟩
    · exact ⟨nofun, by simp⟩
    · by_cases empty : path = []
      · simp only [Option.bind_some, if_pos empty]
        exact ⟨nofun, by simp [empty]⟩
      · simp only [Option.bind_some, if_neg empty]
        split
        · case isTrue stored => exact ⟨fun _ => .inr ⟨path, rfl, empty, stored⟩, fun _ => .result⟩
        case isFalse missing =>
        constructor
        · nofun
        · rintro (impossible | ⟨other, same, _, stored⟩)
          · cases impossible
          · cases same
            exact absurd stored missing

open SettlesOnly

theorem guard_nothing (gate : Gate) : SettlesNothing (host.deliveryGuard gate) := by
  unfold deliveryGuard
  split
  · exact of_pure _
  · exact of_answered _

theorem charged_pays {price : Price} (pays : host.Pays price) (delivery : Reply) :
    ∃ after, Gate.perform (host.charged price delivery) {} = (.ok delivery, after) ∧
      ¬ Unsettled after := by
  obtain ⟨gate, found, settles⟩ := pays
  obtain ⟨payer, after, checked, written⟩ := Gate.check_pays _ settles
  obtain ⟨_, _, _, reaches, _⟩ := settles
  -- no administrator waives a request that carries a payment
  have carried : truthy gate.paymentHeader = true := reaches.header
  have unguarded : host.deliveryGuard gate = pure () := by
    unfold deliveryGuard
    rw [carried]
    rfl
  refine ⟨after, ?_, written⟩
  unfold charged
  simp only [found]
  rw [Gate.perform_bind, checked]
  rw [unguarded]
  rfl

theorem charged_keeps {price : Price} (unpaid : ¬ host.Pays price) (delivery : Reply) :
    Unsettled (Gate.perform (host.charged price delivery) {}).2 := by
  unfold charged
  cases found : host.gate with
  | none => exact unsettled_fresh
  | some gate =>
    have kept := Gate.check_keeps _ fun settles => unpaid ⟨gate, found, settles⟩
    rw [Gate.perform_bind]
    rcases checked : Gate.perform (host.billed gate price []).checkPayment {} with
      ⟨_ | _ | payer, after⟩ <;> rw [checked] at kept
    · exact kept
    · exact kept
    · exact nothing_kept (of_bind (host.guard_nothing gate) fun _ => of_pure _) kept

theorem charged_delivers (price : Price) (delivery : Reply) :
    (¬ Unsettled (Gate.perform (host.charged price delivery) {}).2 →
      ∃ reply, (Gate.perform (host.charged price delivery) {}).1 = .ok reply ∧ Delivered reply) ↔
    (host.Pays price → Delivered delivery) := by
  by_cases pays : host.Pays price
  · obtain ⟨after, performed, written⟩ := host.charged_pays pays delivery
    rw [performed]
    constructor
    · intro answers _
      obtain ⟨reply, same, delivered⟩ := answers written
      cases same
      exact delivered
    · exact fun delivers _ => ⟨delivery, rfl, delivers pays⟩
  · have kept := host.charged_keeps pays delivery
    exact ⟨fun _ paid => absurd paid pays, fun _ written => absurd kept written⟩

theorem deferred_settles (price : Price) (domain : Text) (delivery : Reply) :
    SettlesOnly (· = .result) (host.deferred price domain delivery) := by
  unfold deferred
  cases host.gate with
  | none => exact of_nothing (of_pure _)
  | some gate =>
    refine of_bind (Gate.verifyOnly_nothing _) fun outcome => ?_
    split
    · exact of_nothing (of_pure _)
    refine of_bind (host.guard_nothing gate) fun _ => ?_
    split
    · refine of_accepted (Gate.settleVerified_settles _ _) (fun paid => ?_) fun paid accepted => ?_
      · split <;> exact of_pure _
      · rw [accepted]
        exact fun _ => ⟨.result, rfl, rfl⟩
    · exact of_nothing (of_pure _)

theorem checked_settles (price : Price) (body : DnsDomainCheckRequest) (available : Bool)
    (delivery : Reply) : SettlesOnly (· = .result) (host.checked price body available delivery) := by
  unfold checked
  split
  · exact of_nothing (of_pure _)
  split
  · exact of_nothing (of_pure _)
  · split
    · exact of_nothing (of_pure _)
    · exact host.deferred_settles price _ delivery

variable {route : Route}

theorem first_answers {price : Price} {delivery : Reply}
    (serves : host.serve route = host.charged price delivery)
    (charges : host.chargesFirst route = some price)
    (answers : Delivered delivery ↔ host.Answerable route) :
    host.SettlesOnlyAnswers route ↔
      ∀ price, host.chargesFirst route = some price → host.Pays price →
        host.Answerable route := by
  unfold SettlesOnlyAnswers
  rw [serves, charged_delivers, answers, charges]
  simp

theorem last_answers (settles : SettlesOnly (· = .result) (host.serve route))
    (uncharged : host.chargesFirst route = none) :
    host.SettlesOnlyAnswers route ↔
      ∀ price, host.chargesFirst route = some price → host.Pays price →
        host.Answerable route := by
  rw [uncharged]
  refine ⟨fun _ _ => nofun, fun _ written => ?_⟩
  rcases settles {} unsettled_fresh with kept | ⟨reply, ended, rfl⟩
  · exact absurd kept written
  · exact ⟨.result, ended, .result⟩

end Host

def paidSettlement : Settlement := ⟨true, some "0xA11CE", some "0x5E771E", none⟩

def paidGate : Gate where
  config := ⟨"", ["eip155:8453"], "0xHYRULE"⟩
  initialized := true
  sdk := {
    initializes := true
    buildPaymentRequirements := fun _ => some [⟨"eip155:8453", "0xUSDC"⟩]
    createPaymentRequiredResponse := fun _ _ => some ()
    decodeSignatureHeader := fun _ => some (.payload ⟨.fields (some "0xA11CE"), none⟩)
    decodeAgain := fun _ => some (.payload ⟨.fields (some "0xA11CE"), none⟩)
    findMatchingRequirements := fun requirements _ => some requirements.head?
    verifyPayment := fun _ _ => some ⟨true, some "0xA11CE", none⟩
    settlePayment := fun _ _ => some paidSettlement
    encodeResponseHeader := fun _ => some "eyJzdWNjZXNzIjp0cnVlfQ==" }
  admin := ⟨.ok none, .ok none, .ok (), true, ""⟩
  request := ⟨some "eyJ4NDAyVmVyc2lvbiI6Mn0=", none, none⟩
  amount := 0
  extraBody := none

def paidHost : Host where
  gate := some paidGate
  price _ := 1
  dispatch := .ok ()
  upper text := text.map Char.toUpper
  isDecimal := Char.isDigit
  domains := {
    lower := fun text => text
    toAscii := some
    isAddress := fun _ => false
    isDigit := Char.isDigit
    sameWord := fun first second => first = second }
  bgpAnswers _ := true
  workerEnabled := false
  jobStored := true
  downloadEnabled := true
  snapshots := some fun _ => some none
  fileExists _ := false
  cached _ _ := false
  systemConfigured := true
  nameserver := fun text => text = "9.9.9.9".toList
  reverseName address :=
    if address = "192.0.2.1".toList then some "1.2.0.192.in-addr.arpa.".toList else none
  inFlight := false
  blocklistsReady := true
  blocklists := .answered
  filteringEnabled := true
  filtering := some (.answered true)

theorem paid_pays (price : Price) : paidHost.Pays price := by
  refine ⟨paidGate, rfl, ⟨⟨.fields (some "0xA11CE"), none⟩, ⟨"eip155:8453", "0xUSDC"⟩,
    ⟨true, some "0xA11CE", none⟩⟩, paidSettlement, _, ?_, rfl, rfl, rfl⟩
  exact {
    header := rfl
    ready := rfl
    decoded := rfl
    matched := ⟨_, rfl, rfl⟩
    verified := rfl
    valid := rfl }

theorem paid_unanswered {price : Price} {delivery : Reply} {route : Route}
    (serves : paidHost.serve route = paidHost.charged price delivery)
    (refused : ¬ Delivered delivery) : ¬ paidHost.SettlesOnlyAnswers route := by
  unfold Host.SettlesOnlyAnswers
  rw [serves, Host.charged_delivers]
  exact fun delivers => refused (delivers (paid_pays price))

end HyruleCloud.DiagnosticRoutes
