import HyruleCloud.DnsRecords

/-!
DNS changesets, `apply_changeset` of domains/service.py. The changes are folded over the
objects of one session and over a dictionary beside it; DNS control receives the
result before the session is committed.
-/

namespace HyruleCloud.Zones

open Function

inductive NameserverMode where
  | managed | external
  deriving DecidableEq

inductive DnssecMode where
  | managed | external | off
  deriving DecidableEq

inductive ZoneDnssecStatus where
  | pending | active | error | off
  deriving DecidableEq

/-- The columns of `domains` that the writers of a zone read. -/
structure ManagedDomain where
  ownerAccountId : Option AccountId
  status : DomainStatus := .active
  openproviderId : Option Nat := none
  nameserverMode : NameserverMode := .managed
  dnssecMode : DnssecMode := .managed
  dnssecStatus : ZoneDnssecStatus := .pending
  zoneRevision : Nat := 1
  vmId : Option VmId := none
  vmIpv6 : Option Text := none
  deriving DecidableEq

structure ZoneLimits where
  maxDnsRrsets : Nat
  maxDnsChanges : Nat

structure DNSZoneResponse where
  domain : Text
  revision : Nat
  records : Zone
  dnssecMode : DnssecMode
  dnssecStatus : ZoneDnssecStatus
  deriving DecidableEq

/-- `guard` is the `dispatch_guard` of an administrator and what it raises, if anything. -/
structure ChangesetCall where
  owner : AccountId
  domain : Text
  expectedRevision : Nat
  changes : List DNSChange
  idempotencyKey : Text
  guard : Option (Option Err) := none

/-- A row of `domain_idempotency` of the kind `dns_changeset:{fqdn}`; the hash of a
request is the request. -/
structure StoredReply where
  request : Nat × List DNSChange
  response : DNSZoneResponse

structure PushedZone where
  revision : Nat
  records : Zone
  deriving DecidableEq

/-- `control` are the zones that DNS control has accepted under a name, the latest first. -/
structure ZoneDesk where
  enabled : AccountId → Bool
  domains : Table Text ManagedDomain
  records : Text → Zone
  replies : Table (AccountId × Text × Text) StoredReply
  control : Text → List PushedZone

inductive Delivery where
  | answered
  | refused (error : Err)
  | unanswered (error : Err)

def ZoneDesk.accept (desk : ZoneDesk) (fqdn : Text) (zone : PushedZone) : ZoneDesk :=
  { desk with control := update desk.control fqdn (zone :: desk.control fqdn) }

/-- `apply_zone` -/
def applyZone (fqdn : Text) (zone : PushedZone) (delivery : Delivery) (desk : ZoneDesk) :
    ZoneDesk × Option Err :=
  match delivery with
  | .answered => (desk.accept fqdn zone, none)
  | .refused error => (desk, some error)
  | .unanswered error => (desk.accept fqdn zone, some error)

def pushAndCommit {β : Type} (fqdn : Text) (zone : PushedZone) (delivery : Delivery)
    (raises : Err → Err) (commit : Transaction ZoneDesk β) (fate : Fate) (desk : ZoneDesk) :
    ZoneDesk × Except Err β :=
  match applyZone fqdn zone delivery desk with
  | (pushed, some error) => (pushed, .error (raises error))
  | (pushed, none) => transact commit fate pushed

def ZoneDesk.held (desk : ZoneDesk) (fqdn : Text) : Option PushedZone := (desk.control fqdn).head?

def ChangesetCall.request (call : ChangesetCall) : Nat × List DNSChange :=
  (call.expectedRevision, call.changes)

/-- `dispatch_guard`, or else `_lock_customer_owner`. -/
def accountGuard (guard : Option (Option Err)) (owner : AccountId) (desk : ZoneDesk) : Option Err :=
  match guard with
  | some raised => raised
  | none => if desk.enabled owner then none else some (.domainProblem 403 "account_disabled")

def dispatchGuard (call : ChangesetCall) (desk : ZoneDesk) : Option Err :=
  accountGuard call.guard call.owner desk

def storedReply (call : ChangesetCall) (fqdn : Text) (desk : ZoneDesk) :
    Option (Except Err DNSZoneResponse) :=
  match desk.replies (call.owner, fqdn, call.idempotencyKey) with
  | none => none
  | some stored =>
    if stored.request = call.request then some (.ok stored.response)
    else some (.error (.domainProblem 409 "idempotency_conflict"))

abbrev ZoneSession := UnitOfWork.Session RecordKey RecordData

def applyChange (rules : TextRules) (domain : ManagedDomain) (fqdn : Text) (session : ZoneSession)
    (change : DNSChange) : Except Err ZoneSession :=
  match validateRrset rules change.rrset fqdn with
  | .error error => .error error
  | .ok rrset =>
    if domain.vmIpv6.isSome ∧ rrset.key = apexAaaa then
      .error (.domainProblem 409 "vm_apex_record_managed")
    else match session.edit (change.action.edit rrset) with
      -- the session refuses to delete an object that it has not inserted yet
      | none => .error (.runtime "Instance is not persisted")
      | some next => .ok next

def cnameConflict (zone : Zone) : Prop :=
  ∃ key ∈ zone.keys, key.type = .cname ∧ ∃ other ∈ zone.keys, other.name = key.name ∧ other ≠ key

instance (zone : Zone) : Decidable (cnameConflict zone) :=
  inferInstanceAs (Decidable (∃ key ∈ zone.keys, _ ∧ ∃ other ∈ zone.keys, _))

inductive Plan where
  | answer (response : DNSZoneResponse)
  | push (fqdn : Text) (domain : ManagedDomain) (session : ZoneSession)

/-- The part under the lock of the domain; its second look at the stored reply finds
what the first one did. -/
def planPush (rules : TextRules) (limits : ZoneLimits) (call : ChangesetCall) (fqdn : Text)
    (desk : ZoneDesk) : Except Err Plan :=
  match desk.domains fqdn with
  | none => .error (.domainProblem 404 "domain_not_found")
  | some domain =>
    if domain.ownerAccountId ≠ some call.owner then
      .error (.domainProblem 404 "domain_not_found")
    else if domain.nameserverMode ≠ .managed then
      .error (.domainProblem 409 "external_nameservers")
    else if domain.zoneRevision ≠ call.expectedRevision then
      .error (.domainProblem 412 "zone_revision_mismatch")
    else match call.changes.foldlM (applyChange rules domain fqdn)
        (UnitOfWork.load (desk.records fqdn)) with
      | .error error => .error error
      | .ok session =>
        if cnameConflict session.wanted then .error (.domainProblem 422 "cname_conflict")
        else if limits.maxDnsRrsets < session.wanted.keys.card then
          .error (.domainProblem 422 "zone_limit_exceeded")
        else .ok (.push fqdn domain session)

def planChangeset (rules : TextRules) (limits : ZoneLimits) (call : ChangesetCall)
    (desk : ZoneDesk) : Except Err Plan :=
  match normalizeRegistrableDomain rules call.domain with
  | .error error => .error error
  | .ok fqdn =>
    if limits.maxDnsChanges < call.changes.length then
      .error (.domainProblem 422 "too_many_dns_changes")
    else match dispatchGuard call desk with
      | some error => .error error
      | none => match storedReply call fqdn desk with
          | some (.error error) => .error error
          | some (.ok response) => .ok (.answer response)
          | none => planPush rules limits call fqdn desk

def nextZone (domain : ManagedDomain) (session : ZoneSession) : PushedZone :=
  ⟨domain.zoneRevision + 1, session.wanted⟩

def commitChangeset (call : ChangesetCall) (fqdn : Text) (domain : ManagedDomain)
    (session : ZoneSession) : Transaction ZoneDesk DNSZoneResponse := fun desk =>
  let response := {
    domain := fqdn
    revision := domain.zoneRevision + 1
    records := session.wanted
    dnssecMode := domain.dnssecMode
    dnssecStatus := domain.dnssecStatus }
  match session.flush (desk.records fqdn) with
  | some rows => .ok ({ desk with
      domains := desk.domains.put fqdn { domain with zoneRevision := domain.zoneRevision + 1 }
      records := update desk.records fqdn rows
      replies := desk.replies.put (call.owner, fqdn, call.idempotencyKey)
        ⟨call.request, response⟩ }, response)
  | none => match storedReply call fqdn desk with
      | some (.ok winner) => .ok (desk, winner)
      | _ => .error (.domainProblem 409 "idempotency_conflict")

def applyChangeset (rules : TextRules) (limits : ZoneLimits) (call : ChangesetCall)
    (delivery : Delivery) (fate : Fate) (desk : ZoneDesk) : ZoneDesk × Except Err DNSZoneResponse :=
  match planChangeset rules limits call desk with
  | .error error => (desk, .error error)
  | .ok (.answer response) => (desk, .ok response)
  | .ok (.push fqdn domain session) =>
    pushAndCommit fqdn (nextZone domain session) delivery
      (fun _ => .domainProblem 503 "managed_dns_unavailable")
      (commitChangeset call fqdn domain session) fate desk

/-- The left-to-right fold of the changes over the RRsets before them. -/
def foldChanges (rules : TextRules) (fqdn : Text) (changes : List DNSChange) (zone : Zone) :
    Option Zone :=
  match editsOf rules fqdn changes with
  | .error _ => none
  | .ok edits => some (edits.foldl UnitOfWork.Edit.apply zone)

/-- The response, the committed rows and DNS control agree on the folded zone. -/
structure Applied (rules : TextRules) (call : ChangesetCall) (before after : ZoneDesk)
    (response : DNSZoneResponse) (fqdn : Text) (domain : ManagedDomain) : Prop where
  name : normalizeRegistrableDomain rules call.domain = .ok fqdn
  found : before.domains fqdn = some domain
  folded : foldChanges rules fqdn call.changes (before.records fqdn) = some response.records
  revision : response.revision = domain.zoneRevision + 1
  rows : after.records = update before.records fqdn response.records
  stored : after.domains = before.domains.put fqdn
    { domain with zoneRevision := response.revision }
  pushed : after.held fqdn = some ⟨response.revision, response.records⟩

/-- The committed rows, the revisions and the zones of DNS control are what they were. -/
structure Unmoved (before after : ZoneDesk) : Prop where
  rows : after.records = before.records
  domains : after.domains = before.domains
  held : ∀ name, after.held name = before.held name

/-- The same call gets the same response and changes nothing, as long as its stored reply
is there and the account may still write. -/
def Replays (rules : TextRules) (limits : ZoneLimits) (call : ChangesetCall) (after : ZoneDesk)
    (response : DNSZoneResponse) : Prop :=
  ∀ later delivery fate, (∀ fqdn, later.replies (call.owner, fqdn, call.idempotencyKey) =
      after.replies (call.owner, fqdn, call.idempotencyKey)) →
    dispatchGuard call later = none →
    applyChangeset rules limits call delivery fate later = (later, .ok response)

structure ChangesetKept (rules : TextRules) (limits : ZoneLimits) (call : ChangesetCall)
    (before : ZoneDesk) (outcome : ZoneDesk × Except Err DNSZoneResponse) : Prop where
  returned : ∀ response, outcome.2 = .ok response →
    (outcome.1 = before ∧ ∃ fqdn, storedReply call fqdn before = some (.ok response)) ∨
      ∃ fqdn domain, Applied rules call before outcome.1 response fqdn domain
  raised : ∀ error, outcome.2 = .error error → Unmoved before outcome.1
  replayed : ∀ response, outcome.2 = .ok response →
    Replays rules limits call outcome.1 response

/-- A change deletes an RRset of the zone and a later one puts it there again. -/
def Rewrites (rules : TextRules) (call : ChangesetCall) (fqdn : Text) (desk : ZoneDesk) : Prop :=
  ∃ edits, editsOf rules fqdn call.changes = .ok edits ∧
    UnitOfWork.Recreates (desk.records fqdn) edits

/-- The call passes every check, and then its push or its commit goes wrong. -/
def Strands (rules : TextRules) (limits : ZoneLimits) (call : ChangesetCall) (delivery : Delivery)
    (fate : Fate) (desk : ZoneDesk) : Prop :=
  ∃ fqdn domain session, planChangeset rules limits call desk = .ok (.push fqdn domain session) ∧
    match delivery with
    | .refused _ => False
    | .unanswered _ => desk.held fqdn ≠ some (nextZone domain session)
    | .answered => (fate = .lost ∧ ¬ Rewrites rules call fqdn desk) ∨
        ((fate = .failed ∨ Rewrites rules call fqdn desk) ∧
          desk.held fqdn ≠ some (nextZone domain session))

section Plans
variable {rules : TextRules} {limits : ZoneLimits} {call : ChangesetCall} {desk : ZoneDesk}
  {fqdn : Text} {domain : ManagedDomain} {session : ZoneSession}

theorem applyChange_edit {next : ZoneSession} {change : DNSChange}
    (done : applyChange rules domain fqdn session change = .ok next) :
    ∃ rrset, validateRrset rules change.rrset fqdn = .ok rrset ∧
      session.edit (change.action.edit rrset) = some next ∧
      (domain.vmIpv6.isSome → rrset.key ≠ apexAaaa) := by
  unfold applyChange at done
  split at done
  · cases done
  rename_i rrset valid
  split at done
  · cases done
  rename_i allowed
  split at done
  · cases done
  · rename_i later edited
    cases done
    exact ⟨rrset, valid, edited, fun attached same => allowed ⟨attached, same⟩⟩

def SparesApex (edits : List RecordEdit) : Prop := ∀ edit ∈ edits, edit.key ≠ apexAaaa

theorem action_key (action : DNSChangeAction) (rrset : DNSRRSet) :
    (action.edit rrset).key = rrset.key := by
  cases action <;> rfl

theorem applyChanges_edits {final : ZoneSession} (changes : List DNSChange)
    (done : changes.foldlM (applyChange rules domain fqdn) session = .ok final) :
    ∃ edits, editsOf rules fqdn changes = .ok edits ∧ session.edits edits = some final ∧
      (domain.vmIpv6.isSome → SparesApex edits) := by
  induction changes generalizing session with
  | nil =>
    cases done
    exact ⟨[], rfl, rfl, fun _ _ none => nomatch none⟩
  | cons change rest ih =>
    rw [List.foldlM_cons] at done
    cases first : applyChange rules domain fqdn session change with
    | error error =>
      rw [first] at done
      cases done
    | ok next =>
      rw [first] at done
      obtain ⟨rrset, valid, edited, guarded⟩ := applyChange_edit first
      obtain ⟨edits, rules, edited', untouched⟩ := ih done
      refine ⟨change.action.edit rrset :: edits, ?_, ?_, fun attached => ?_⟩
      · simp only [editsOf, valid, rules]
      · simp only [UnitOfWork.Session.edits, edited, edited']
      · intro edit listed
        rcases List.mem_cons.mp listed with rfl | later
        · rw [action_key]
          exact guarded attached
        · exact untouched attached edit later

structure Admits (rules : TextRules) (limits : ZoneLimits) (call : ChangesetCall) (desk : ZoneDesk)
    (fqdn : Text) (domain : ManagedDomain) (session : ZoneSession) : Prop where
  name : normalizeRegistrableDomain rules call.domain = .ok fqdn
  size : call.changes.length ≤ limits.maxDnsChanges
  fresh : storedReply call fqdn desk = none
  found : desk.domains fqdn = some domain
  edited : ∃ edits, editsOf rules fqdn call.changes = .ok edits ∧
    (UnitOfWork.load (desk.records fqdn)).edits edits = some session ∧
    (domain.vmIpv6.isSome → SparesApex edits)
  room : session.wanted.keys.card ≤ limits.maxDnsRrsets

theorem plan_admits
    (planned : planChangeset rules limits call desk = .ok (.push fqdn domain session)) :
    Admits rules limits call desk fqdn domain session := by
  unfold planChangeset at planned
  split at planned
  · cases planned
  rename_i name normalized
  split at planned
  · cases planned
  rename_i size
  split at planned
  · cases planned
  split at planned
  · cases planned
  · cases planned
  · rename_i fresh
    unfold planPush at planned
    split at planned
    · cases planned
    rename_i found
    split at planned
    · cases planned
    split at planned
    · cases planned
    split at planned
    · cases planned
    split at planned
    · cases planned
    rename_i changed
    split at planned
    · cases planned
    split at planned
    · cases planned
    rename_i room
    cases planned
    exact ⟨normalized, not_lt.mp size, fresh, found,
      applyChanges_edits call.changes changed, not_lt.mp room⟩

theorem plan_answers {response : DNSZoneResponse}
    (planned : planChangeset rules limits call desk = .ok (.answer response)) :
    ∃ fqdn, normalizeRegistrableDomain rules call.domain = .ok fqdn ∧
      call.changes.length ≤ limits.maxDnsChanges ∧
      storedReply call fqdn desk = some (.ok response) := by
  unfold planChangeset at planned
  split at planned
  · cases planned
  rename_i name normalized
  split at planned
  · cases planned
  rename_i size
  split at planned
  · cases planned
  split at planned
  · cases planned
  · rename_i stored
    cases planned
    exact ⟨name, normalized, not_lt.mp size, stored⟩
  · unfold planPush at planned
    repeat' split at planned
    all_goals cases planned

theorem stored_replays {after : ZoneDesk} {response : DNSZoneResponse}
    (name : normalizeRegistrableDomain rules call.domain = .ok fqdn)
    (size : call.changes.length ≤ limits.maxDnsChanges)
    (stored : storedReply call fqdn after = some (.ok response)) :
    Replays rules limits call after response := by
  intro later delivery fate kept allowed
  have again : storedReply call fqdn later = some (.ok response) := by
    rw [storedReply, kept fqdn]
    exact stored
  have planned : planChangeset rules limits call later = .ok (.answer response) := by
    simp only [planChangeset, name, if_neg (not_lt.mpr size), allowed, again]
  simp only [applyChangeset, planned]

end Plans

section Commits
variable {rules : TextRules} {limits : ZoneLimits} {call : ChangesetCall} {desk pushed : ZoneDesk}
  {fqdn : Text} {domain : ManagedDomain} {session : ZoneSession}

theorem commit_rewrites (pushed : ZoneDesk) (admits : Admits rules limits call desk fqdn domain session)
    (rewrites : Rewrites rules call fqdn desk) (rows : pushed.records = desk.records)
    (replies : pushed.replies = desk.replies) :
    commitChangeset call fqdn domain session pushed =
      .error (.domainProblem 409 "idempotency_conflict") := by
  obtain ⟨edits, valid, recreates⟩ := rewrites
  obtain ⟨edits', valid', edited, _⟩ := admits.edited
  rw [valid] at valid'
  cases valid'
  have fresh : storedReply call fqdn pushed = none := by
    rw [storedReply, replies]
    exact admits.fresh
  simp only [commitChangeset, rows, UnitOfWork.flush_recreates edited recreates, fresh]

def committed (call : ChangesetCall) (fqdn : Text) (domain : ManagedDomain) (zone : Zone)
    (desk : ZoneDesk) : ZoneDesk × DNSZoneResponse :=
  let response := {
    domain := fqdn
    revision := domain.zoneRevision + 1
    records := zone
    dnssecMode := domain.dnssecMode
    dnssecStatus := domain.dnssecStatus }
  ({ desk with
    domains := desk.domains.put fqdn { domain with zoneRevision := domain.zoneRevision + 1 }
    records := update desk.records fqdn zone
    replies := desk.replies.put (call.owner, fqdn, call.idempotencyKey)
      ⟨call.request, response⟩ }, response)

theorem commit_folds (pushed : ZoneDesk) (admits : Admits rules limits call desk fqdn domain session)
    (once : ¬ Rewrites rules call fqdn desk) (rows : pushed.records = desk.records) :
    foldChanges rules fqdn call.changes (desk.records fqdn) = some session.wanted ∧
      commitChangeset call fqdn domain session pushed =
        .ok (committed call fqdn domain session.wanted pushed) := by
  obtain ⟨edits, valid, edited, _⟩ := admits.edited
  obtain ⟨_, wanted⟩ :=
    UnitOfWork.edits_wanted edits (UnitOfWork.load_tracks (desk.records fqdn)) edited
  have flushed : session.flush (pushed.records fqdn) = some session.wanted := by
    rw [rows, wanted]
    exact UnitOfWork.flush_fold edited fun twice => once ⟨edits, valid, twice⟩
  constructor
  · simp only [foldChanges, valid, wanted]
    rfl
  · simp only [commitChangeset, flushed, committed]

theorem accept_unmoved {zone : PushedZone} :
    Unmoved desk (desk.accept fqdn zone) ↔ desk.held fqdn = some zone := by
  constructor
  · intro unmoved
    have same := unmoved.held fqdn
    simp only [ZoneDesk.held, ZoneDesk.accept, update_self, List.head?_cons] at same ⊢
    exact same.symm
  · intro already
    refine ⟨rfl, rfl, fun name => ?_⟩
    by_cases same : name = fqdn
    · subst same
      rw [already]
      simp [ZoneDesk.held, ZoneDesk.accept]
    · simp [ZoneDesk.held, ZoneDesk.accept, same]

theorem committed_kept (admits : Admits rules limits call desk fqdn domain session)
    (folded : foldChanges rules fqdn call.changes (desk.records fqdn) = some session.wanted) :
    let (after, response) := committed call fqdn domain session.wanted
      (desk.accept fqdn (nextZone domain session))
    ChangesetKept rules limits call desk (after, .ok response) := by
  refine ⟨fun response returned => ?_, nofun, fun response returned => ?_⟩
  · cases returned
    refine Or.inr ⟨fqdn, domain, admits.name, admits.found, folded, rfl, rfl, rfl, ?_⟩
    simp only [ZoneDesk.held, ZoneDesk.accept, update_self, List.head?_cons]
    rfl
  · cases returned
    refine stored_replays admits.name admits.size ?_
    simp [storedReply]

theorem committed_moves {zone : Zone} (found : desk.domains fqdn = some domain) :
    ¬ Unmoved desk (committed call fqdn domain zone pushed).1 := by
  intro unmoved
  have same := congrFun unmoved.domains fqdn
  simp only [committed, put_same, found, Option.some.injEq] at same
  have revision := congrArg ManagedDomain.zoneRevision same
  simp at revision

end Commits

section
variable {rules : TextRules} {limits : ZoneLimits} {call : ChangesetCall} {before after : ZoneDesk}
  {error : Err}

/-- A call that is refused before its push, or whose reply is stored, keeps the claim of
its zone; so does one whose push is refused. -/
theorem unmoved_kept (unmoved : Unmoved before after) :
    ChangesetKept rules limits call before (after, .error error) :=
  ⟨nofun, fun _ _ => unmoved, nofun⟩

theorem error_kept_iff :
    ChangesetKept rules limits call before (after, .error error) ↔ Unmoved before after :=
  ⟨fun kept => kept.raised error rfl, unmoved_kept⟩

end

/-- A changeset is applied everywhere or nowhere, and replayed, unless it passes its
checks and then its push or its commit goes wrong. -/
theorem changeset_kept_iff (rules : TextRules) (limits : ZoneLimits) (call : ChangesetCall)
    (delivery : Delivery) (fate : Fate) (desk : ZoneDesk) :
    ChangesetKept rules limits call desk
        (applyChangeset rules limits call delivery fate desk) ↔
      ¬ Strands rules limits call delivery fate desk := by
  cases planned : planChangeset rules limits call desk with
  | error error =>
    have calm : ¬ Strands rules limits call delivery fate desk := by
      rintro ⟨_, _, _, other, _⟩
      rw [planned] at other
      cases other
    simp only [applyChangeset, planned, error_kept_iff, calm, not_false_iff, iff_true]
    exact ⟨rfl, rfl, fun _ => rfl⟩
  | ok plan =>
    cases plan with
    | answer response =>
      have calm : ¬ Strands rules limits call delivery fate desk := by
        rintro ⟨_, _, _, other, _⟩
        rw [planned] at other
        cases other
      obtain ⟨fqdn, name, size, stored⟩ := plan_answers planned
      simp only [applyChangeset, planned, calm, not_false_iff, iff_true]
      refine ⟨fun other returned => ?_, nofun, fun other returned => ?_⟩
      · cases returned
        exact Or.inl ⟨rfl, fqdn, stored⟩
      · cases returned
        exact stored_replays name size stored
    | push fqdn domain session =>
      have admits := plan_admits planned
      have strands : Strands rules limits call delivery fate desk ↔ _ :=
        ⟨fun ⟨_, _, _, other, wrong⟩ => by rw [planned] at other; cases other; exact wrong,
          fun wrong => ⟨fqdn, domain, session, planned, wrong⟩⟩
      rw [strands]
      simp only [applyChangeset, planned, pushAndCommit]
      cases delivery with
      | refused error =>
        simp only [applyZone, error_kept_iff, not_false_iff, iff_true]
        exact ⟨rfl, rfl, fun _ => rfl⟩
      | unanswered error =>
        simp only [applyZone, error_kept_iff, not_not]
        exact accept_unmoved
      | answered =>
        simp only [applyZone]
        by_cases rewrites : Rewrites rules call fqdn desk
        · have conflict := commit_rewrites (desk.accept fqdn (nextZone domain session))
            admits rewrites rfl rfl
          cases fate <;> simp only [transact, conflict, error_kept_iff, accept_unmoved,
            rewrites, not_true, and_false, or_true, true_and, false_or, not_not]
        · obtain ⟨folded, commits⟩ := commit_folds
            (desk.accept fqdn (nextZone domain session)) admits rewrites rfl
          cases fate with
          | failed =>
            simp only [transact, error_kept_iff, accept_unmoved, rewrites]
            simp
          | lost =>
            simp only [transact, commits, error_kept_iff, rewrites, not_false_iff, and_true,
              true_or, not_true, iff_false]
            exact committed_moves admits.found
          | done =>
            simp only [transact, commits, rewrites, reduceCtorEq, false_and, or_false,
              not_false_iff, iff_true]
            exact committed_kept admits folded

/-- Python's texts in ASCII, and values that are written canonically. -/
def plainRules : TextRules where
  strip text := (text.dropWhile Char.isWhitespace).rdropWhile Char.isWhitespace
  lower text := text.map Char.toLower
  canonical _ _ value := some value

def exampleFqdn : Text := "zone.dev".toList

def exampleRrset (name : Text) (last : Char) : DNSRRSet where
  name := name
  type := .a
  ttl := 300
  values := ["192.0.2.".toList ++ [last]]

def www : Text := "www".toList

def exampleDesk : ZoneDesk where
  enabled _ := true
  domains name := if name = exampleFqdn then some { ownerAccountId := some 0 } else none
  records name := if name = exampleFqdn then
    Finmap.singleton ⟨www, .a⟩ ⟨300, (exampleRrset www '1').values⟩ else ∅
  replies _ := none
  control name := if name = exampleFqdn then
    [⟨1, Finmap.singleton ⟨www, .a⟩ ⟨300, (exampleRrset www '1').values⟩⟩] else []

/-- The address of `www` is replaced, by a delete and an upsert. -/
def replaceCall : ChangesetCall where
  owner := 0
  domain := exampleFqdn
  expectedRevision := 1
  changes := [⟨.delete, exampleRrset www '1'⟩, ⟨.upsert, exampleRrset www '2'⟩]
  idempotencyKey := "replace".toList

/-- DNS control gets the new zone, and the session cannot commit it. -/
theorem replaced_rrset_strands :
    ¬ ∀ (rules : TextRules) (limits : ZoneLimits) (call : ChangesetCall) (desk : ZoneDesk),
      ChangesetKept rules limits call desk
        (applyChangeset rules limits call .answered .done desk) := by
  intro always
  have kept := always plainRules ⟨500, 100⟩ replaceCall exampleDesk
  have unmoved := kept.raised (.domainProblem 409 "idempotency_conflict") (by decide +kernel)
  have revision := congrArg (Option.map PushedZone.revision) (unmoved.held exampleFqdn)
  exact absurd revision (by decide +kernel)

end HyruleCloud.Zones
