import HyruleCloud.VmAttachments

/-!
The nameservers of a domain, domains/service.py: a request to delegate the domain to
external nameservers is checked when it is queued and again when its job begins, and
the job writes the mode at its end. What the registrar and DNS control answer in between
decides only whether the job goes on.
-/

namespace HyruleCloud.Zones

open Interaction Function

structure NameserverRequest where
  owner : AccountId
  domain : Text
  mode : NameserverMode
  nameservers : List Text
  idempotencyKey : Text
  guard : Option (Option Err) := none

structure NameserverOperation where
  owner : AccountId
  fqdn : Text
  mode : NameserverMode
  nameservers : List Text
  status : OperationStatus := .queued

/-- An execution of `_apply_nameservers`, with the row that it has read. -/
structure Delegating where
  operation : OperationId
  fqdn : Text
  mode : NameserverMode
  seen : ManagedDomain

/-- `queued` finds the operation of a job by its dedupe key. -/
structure DelegationDesk where
  zones : ZoneDesk
  operations : Table OperationId NameserverOperation
  queued : Table (AccountId × Text) OperationId
  running : ProcessId → Option Delegating

/-- `_assert_external_delegation_allowed` -/
def externalDelegationRefusal (domain : ManagedDomain) : Option Err :=
  if domain.vmId ≠ none ∨ domain.vmIpv6 ≠ none then
    some (.domainProblem 409 "domain_attached_to_vm")
  else none

def queuedReplay (request : NameserverRequest) (fqdn : Text) (desk : DelegationDesk) :
    Option (Except Err OperationId) :=
  match desk.queued (request.owner, request.idempotencyKey) with
  | none => none
  | some id => match desk.operations id with
      | none => none
      | some operation =>
        if operation.fqdn ≠ fqdn ∨ operation.mode ≠ request.mode ∨
            operation.nameservers ≠ request.nameservers then
          some (.error (.domainProblem 409 "idempotency_conflict"))
        else some (.ok id)

/-- The check under `reject_vm_attachment`. -/
def attachmentRefusal (request : NameserverRequest) (fqdn : Text) (desk : DelegationDesk) :
    Option Err :=
  match request.mode with
  | .managed => none
  | .external => match desk.zones.domains fqdn with
      | none => some (.domainProblem 404 "domain_not_found")
      | some domain =>
        if domain.ownerAccountId ≠ some request.owner then
          some (.domainProblem 404 "domain_not_found")
        else externalDelegationRefusal domain

/-- `_enqueue_domain_operation` for the nameservers of a domain; `seen` is what
`_owned_domain` found. -/
def enqueueDomainOperation (rules : TextRules) (request : NameserverRequest)
    (seen : Option ManagedDomain) (id : OperationId) : Transaction DelegationDesk OperationId :=
  fun desk =>
    if request.idempotencyKey = [] ∨ 128 < request.idempotencyKey.length then
      .error (.domainProblem 400 "idempotency_key_required")
    else match normalizeRegistrableDomain rules request.domain with
      | .error error => .error error
      | .ok fqdn => match seen, accountGuard request.guard request.owner desk.zones with
          | none, _ => .error (.domainProblem 404 "domain_not_found")
          | some _, some error => .error error
          | some _, none => match queuedReplay request fqdn desk with
              | some (.error error) => .error error
              | some (.ok id) => .ok (desk, id)
              | none => match attachmentRefusal request fqdn desk with
                  | some error => .error error
                  | none =>
                    let operation := {
                      owner := request.owner
                      fqdn := fqdn
                      mode := request.mode
                      nameservers := request.nameservers }
                    match desk.operations id, desk.queued (request.owner, request.idempotencyKey) with
                    | none, none => .ok ({ desk with
                        operations := desk.operations.put id operation
                        queued := desk.queued.put (request.owner, request.idempotencyKey) id }, id)
                    | _, _ => .error (.domainProblem 409 "operation_conflict")

/-- `_operation_and_domain` -/
def operationAndDomain (id : OperationId) : Transaction DelegationDesk Delegating := fun desk =>
  match desk.operations id with
  | none => .error (.runtime "domain operation disappeared")
  | some operation => match desk.zones.domains operation.fqdn with
      | none => .error (.runtime "managed domain disappeared")
      | some domain =>
        if domain.ownerAccountId ≠ some operation.owner then
          .error (.domainProblem 409 "domain_owner_changed")
        else .ok ({ desk with
          operations := desk.operations.put id { operation with status := .running } },
          ⟨id, operation.fqdn, operation.mode, domain⟩)

/-- What `_apply_nameservers` raises before it asks the registrar. -/
def Delegating.refusal (task : Delegating) : Option Err :=
  match task.mode, externalDelegationRefusal task.seen with
  | .external, some error => some error
  | _, _ =>
    if task.seen.openproviderId = none then some (.runtime "domain has no registrar id") else none

def Delegating.incompatibleDnssec (task : Delegating) : Bool :=
  (task.mode = .managed && task.seen.dnssecMode = .external) ||
    (task.mode = .external && task.seen.dnssecMode = .managed)

def DelegationDesk.writeDomain (desk : DelegationDesk) (fqdn : Text)
    (change : ManagedDomain → ManagedDomain) : DelegationDesk :=
  match desk.zones.domains fqdn with
  | none => desk
  | some domain =>
    { desk with zones := { desk.zones with domains := desk.zones.domains.put fqdn (change domain) } }

/-- The commit of `_ensure_managed_zone`. -/
def commitManagedZone (task : Delegating) : Transaction DelegationDesk Unit := fun desk =>
  .ok (desk.writeDomain task.fqdn fun domain => { domain with
    nameserverMode := .managed
    dnssecStatus := if domain.dnssecMode = .managed then .active else domain.dnssecStatus }, ())

/-- The last session of `_apply_nameservers`. -/
def commitNameservers (task : Delegating) : Transaction DelegationDesk Unit := fun desk =>
  let written := desk.writeDomain task.fqdn fun domain => { domain with
    nameserverMode := task.mode
    dnssecMode := if task.incompatibleDnssec then .off else domain.dnssecMode
    dnssecStatus := if task.incompatibleDnssec then .off else domain.dnssecStatus }
  match written.operations task.operation with
  | none => .ok (written, ())
  | some operation => .ok ({ written with
      operations := written.operations.put task.operation
        { operation with status := .succeeded } }, ())

inductive DelegationStep where
  | enqueue (request : NameserverRequest) (seen : Option ManagedDomain) (id : OperationId)
      (fate : Fate)
  | begin (w : ProcessId) (id : OperationId) (fate : Fate)
  | manage (w : ProcessId) (fate : Fate)
  | finish (w : ProcessId) (fate : Fate)
  | stop (w : ProcessId)
  | zone (step : ZoneStep)

def delegationStep (rules : TextRules) (limits : ZoneLimits) (step : DelegationStep)
    (desk : DelegationDesk) : DelegationDesk :=
  match step with
  | .enqueue request seen id fate =>
    (transact (enqueueDomainOperation rules request seen id) fate desk).1
  | .begin w id fate => match desk.running w with
      | some _ => desk
      | none => match transact (operationAndDomain id) fate desk with
          | (after, .error _) => after
          | (after, .ok task) => match task.refusal with
              | some _ => after
              | none => { after with running := update after.running w (some task) }
  | .manage w fate => match desk.running w with
      | none => desk
      | some task =>
        if task.mode = .managed then (transact (commitManagedZone task) fate desk).1 else desk
  | .finish w fate => match desk.running w with
      | none => desk
      | some task =>
        let after := (transact (commitNameservers task) fate desk).1
        { after with running := update after.running w none }
  -- the job raises, or its process dies
  | .stop w => { desk with running := update desk.running w none }
  | .zone step => { desk with zones := zoneStep rules limits step desk.zones }

def delegations (rules : TextRules) (limits : ZoneLimits) :
    Protocol DelegationDesk DelegationStep :=
  ⟨delegationStep rules limits, fun _ _ => True⟩

def ZoneStep.attachesTo (rules : TextRules) (step : ZoneStep) (fqdn : Text) : Prop :=
  match step with
  | .claim _ value _ _ => normalizeRegistrableDomain rules value = .ok fqdn
  | .attach _ name _ _ _ _ => name = fqdn
  | _ => False

/-- A domain gets a VM only while no execution is about to delegate it elsewhere. -/
def BetweenDelegations (rules : TextRules) (step : DelegationStep) (desk : DelegationDesk) : Prop :=
  match step with
  | .zone step => ∀ fqdn, step.attachesTo rules fqdn →
      ∀ w task, desk.running w = some task → task.mode = .external → task.fqdn ≠ fqdn
  | _ => True

def separateDelegations (rules : TextRules) (limits : ZoneLimits) :
    Protocol DelegationDesk DelegationStep :=
  ⟨delegationStep rules limits, BetweenDelegations rules⟩

def NeverBoth (desk : DelegationDesk) : Prop :=
  ∀ fqdn domain, desk.zones.domains fqdn = some domain → domain.nameserverMode = .external →
    domain.vmId = none

/-- A step of a zone keeps the mode of every domain, and gives a VM only to a managed
domain that the step is about. -/
def KeepsModes (rules : TextRules) (step : ZoneStep) (before after : ZoneDesk) : Prop :=
  after.domains = before.domains ∨ ∃ fqdn domain written, before.domains fqdn = some domain ∧
    after.domains = before.domains.put fqdn written ∧
    written.nameserverMode = domain.nameserverMode ∧
    (written.vmId = domain.vmId ∨ written.vmId = none ∨
      (domain.nameserverMode = .managed ∧ step.attachesTo rules fqdn))

section ZoneSteps
variable {rules : TextRules} {limits : ZoneLimits} {desk : ZoneDesk} {fqdn : Text}

variable (desk fqdn) in
theorem pushAndCommit_domains {β : Type} (pushed : PushedZone) (delivery : Delivery) (fate : Fate)
    (raises : Err → Err) (commit : Transaction ZoneDesk β) :
    let outcome := pushAndCommit fqdn pushed delivery raises commit fate desk
    outcome.1.domains = desk.domains ∨
      ∃ after value, commit (desk.accept fqdn pushed) = .ok (after, value) ∧
        outcome.1.domains = after.domains := by
  cases delivery with
  | refused | unanswered => exact Or.inl rfl
  | answered =>
    simp only [pushAndCommit, applyZone]
    generalize ran : transact commit fate (desk.accept fqdn pushed) = outcome
    rcases transact_cases _ _ _ _ _ ran with ⟨same, _⟩ | ⟨value, commits, _⟩ | ⟨value, commits, _⟩
    · rw [same]
      exact Or.inl rfl
    · exact Or.inr ⟨_, value, commits, rfl⟩
    · exact Or.inr ⟨_, value, commits, rfl⟩

theorem changeset_modes (call : ChangesetCall) (delivery : Delivery) (fate : Fate) :
    KeepsModes rules (.changeset call delivery fate) desk
      (zoneStep rules limits (.changeset call delivery fate) desk) := by
  simp only [zoneStep, applyChangeset]
  split
  · exact Or.inl rfl
  · exact Or.inl rfl
  · rename_i fqdn domain session planned
    have admits := plan_admits planned
    rcases pushAndCommit_domains desk fqdn (nextZone domain session) delivery
      fate (fun _ => .domainProblem 503 "managed_dns_unavailable")
      (commitChangeset call fqdn domain session) with same | ⟨after, response, commits, same⟩
    · exact Or.inl same
    · rw [commitChangeset] at commits
      split at commits
      · cases commits
        exact Or.inr ⟨fqdn, domain, _, admits.found, same, rfl, Or.inl rfl⟩
      · split at commits
        · cases commits
          exact Or.inl same
        · cases commits

theorem claim_modes (owner : AccountId) (value : Text) (vm : VmId) (fate : Fate) :
    KeepsModes rules (.claim owner value vm fate) desk
      (zoneStep rules limits (.claim owner value vm fate) desk) := by
  cases result : claimVmAttachment rules owner value vm desk with
  | error error => exact Or.inl (congrArg ZoneDesk.domains (transact_aborts result))
  | ok claimed =>
    rcases transact_either fate result with same | same
    · exact Or.inl (congrArg ZoneDesk.domains same)
    rcases claimVmAttachment_done result with kept | ⟨fqdn, domain, name, found, managed, claims⟩
    · exact Or.inl (congrArg ZoneDesk.domains (same.trans kept))
    · exact Or.inr ⟨fqdn, domain, _, found, congrArg ZoneDesk.domains (same.trans claims), rfl,
        Or.inr (Or.inr ⟨managed, name⟩)⟩

theorem attach_modes (seen : Option ManagedDomain) (fqdn : Text) (vm : VmId) (ipv6 : Text)
    (delivery : Delivery) (fate : Fate) :
    KeepsModes rules (.attach seen fqdn vm ipv6 delivery fate) desk
      (zoneStep rules limits (.attach seen fqdn vm ipv6 delivery fate) desk) := by
  simp only [zoneStep, attachVm]
  split
  · exact Or.inl rfl
  split
  · exact Or.inl rfl
  split
  · exact Or.inl rfl
  rename_i current found
  split
  · exact Or.inl rfl
  split
  · exact Or.inl rfl
  rename_i managed
  split
  · exact Or.inl rfl
  rcases pushAndCommit_domains desk fqdn _ delivery fate id
    (commitZone fqdn _ _) with same | ⟨after, _, commits, same⟩
  · exact Or.inl same
  · cases commits
    exact Or.inr ⟨fqdn, current, _, found, same, rfl,
      Or.inr (Or.inr ⟨not_not.mp managed, rfl⟩)⟩

theorem detach_modes (seen : Option ManagedDomain) (fqdn : Text) (vm : VmId)
    (delivery : Delivery) (fate : Fate) :
    KeepsModes rules (.detach seen fqdn vm delivery fate) desk
      (zoneStep rules limits (.detach seen fqdn vm delivery fate) desk) := by
  simp only [zoneStep, detachVm]
  split
  · exact Or.inl rfl
  split
  · exact Or.inl rfl
  rename_i current found
  split
  · exact Or.inl rfl
  split
  · rcases pushAndCommit_domains desk fqdn _ delivery fate id
      (commitZone fqdn _ _) with same | ⟨after, _, commits, same⟩
    · exact Or.inl same
    · cases commits
      exact Or.inr ⟨fqdn, current, _, found, same, rfl, Or.inr (Or.inl rfl)⟩
  · have commits : commitZone fqdn { current with vmId := none, vmIpv6 := none }
        (desk.records fqdn) desk = .ok (_, ()) := rfl
    rcases transact_either fate commits with same | same
    · exact Or.inl (congrArg ZoneDesk.domains same)
    · rw [same]
      exact Or.inr ⟨fqdn, current, _, found, rfl, rfl, Or.inr (Or.inl rfl)⟩

theorem release_modes (fqdn : Text) (vm : VmId) (fate : Fate) :
    KeepsModes rules (.release fqdn vm fate) desk
      (zoneStep rules limits (.release fqdn vm fate) desk) := by
  cases result : releaseVmAttachmentClaim fqdn vm desk with
  | error error => exact Or.inl (congrArg ZoneDesk.domains (transact_aborts result))
  | ok released =>
    rcases transact_either fate result with same | same
    · exact Or.inl (congrArg ZoneDesk.domains same)
    rcases releaseVmAttachmentClaim_done result with kept | ⟨domain, found, _, releases⟩
    · exact Or.inl (congrArg ZoneDesk.domains (same.trans kept))
    · exact Or.inr ⟨fqdn, domain, _, found, congrArg ZoneDesk.domains (same.trans releases),
        rfl, Or.inr (Or.inl rfl)⟩

theorem zoneStep_modes (step : ZoneStep) :
    KeepsModes rules step desk (zoneStep rules limits step desk) := by
  cases step with
  | changeset call delivery fate => exact changeset_modes call delivery fate
  | claim owner value vm fate => exact claim_modes owner value vm fate
  | attach seen fqdn vm ipv6 delivery fate => exact attach_modes seen fqdn vm ipv6 delivery fate
  | detach seen fqdn vm delivery fate => exact detach_modes seen fqdn vm delivery fate
  | release fqdn vm fate => exact release_modes fqdn vm fate

end ZoneSteps

/-- Whoever is about to delegate a domain elsewhere finds it without a VM. -/
structure Separate (desk : DelegationDesk) : Prop where
  never : NeverBoth desk
  delegating : ∀ w task domain, desk.running w = some task → task.mode = .external →
    desk.zones.domains task.fqdn = some domain → domain.vmId = none

variable {id : OperationId} {task : Delegating} {w : ProcessId}

variable {change : ManagedDomain → ManagedDomain}

section Delegations
variable {rules : TextRules} {limits : ZoneLimits} {desk after : DelegationDesk}

theorem enqueue_frame {request : NameserverRequest} {seen : Option ManagedDomain}
    {reply : OperationId}
    (done : enqueueDomainOperation rules request seen id desk = .ok (after, reply)) :
    after.zones = desk.zones ∧ after.running = desk.running := by
  unfold enqueueDomainOperation at done
  repeat' split at done
  all_goals cases done
  · exact ⟨rfl, rfl⟩
  · exact ⟨rfl, rfl⟩

theorem operationAndDomain_reads (done : operationAndDomain id desk = .ok (after, task)) :
    after.zones = desk.zones ∧ after.running = desk.running ∧
      desk.zones.domains task.fqdn = some task.seen := by
  unfold operationAndDomain at done
  split at done
  · cases done
  split at done
  · cases done
  rename_i found
  split at done
  · cases done
  · cases done
    exact ⟨rfl, rfl, found⟩

theorem refusal_none (allowed : task.refusal = none) (external : task.mode = .external) :
    task.seen.vmId = none := by
  by_contra attached
  have refused : externalDelegationRefusal task.seen =
      some (.domainProblem 409 "domain_attached_to_vm") := if_pos (Or.inl attached)
  simp [Delegating.refusal, external, refused] at allowed

theorem writeDomain_found {fqdn name : Text}
    {domain : ManagedDomain} (found : (desk.writeDomain fqdn change).zones.domains name = some domain) :
    desk.zones.domains name = some domain ∨
      name = fqdn ∧ ∃ before, desk.zones.domains fqdn = some before ∧ domain = change before := by
  unfold DelegationDesk.writeDomain at found
  split at found
  · exact Or.inl found
  rename_i before there
  rcases update_cases found with ⟨rfl, ⟨⟩⟩ | ⟨_, found⟩
  · exact Or.inr ⟨rfl, before, there, rfl⟩
  · exact Or.inl found

@[simp] theorem writeDomain_running (fqdn : Text) (change : ManagedDomain → ManagedDomain) :
    (desk.writeDomain fqdn change).running = desk.running := by
  unfold DelegationDesk.writeDomain
  split <;> rfl

variable (separate : Separate desk)
include separate

theorem writeDomain_separate {fqdn : Text}
    (vm : ∀ domain, (change domain).vmId = domain.vmId)
    (mode : ∀ domain, desk.zones.domains fqdn = some domain →
      (change domain).nameserverMode = .external → domain.vmId = none) :
    Separate (desk.writeDomain fqdn change) where
  never name domain found external := by
    rcases writeDomain_found found with there | ⟨rfl, before, there, rfl⟩
    · exact separate.never name domain there external
    · rw [vm]
      exact mode before there external
  delegating w task domain running external found := by
    rw [writeDomain_running] at running
    rcases writeDomain_found found with there | ⟨same, before, there, rfl⟩
    · exact separate.delegating w task domain running external there
    · rw [vm]
      exact separate.delegating w task before running external (same ▸ there)

theorem separate_of_frame (zones : after.zones = desk.zones)
    (running : after.running = desk.running) : Separate after where
  never name domain found := by
    rw [zones] at found
    exact separate.never name domain found
  delegating w task domain runs external found := by
    rw [running] at runs
    rw [zones] at found
    exact separate.delegating w task domain runs external found

theorem stop_separate : Separate { desk with running := update desk.running w none } where
  never := separate.never
  delegating v task domain runs external found := by
    by_cases mine : v = w
    · subst mine
      simp at runs
    · simp only [update_of_ne mine] at runs
      exact separate.delegating v task domain runs external found

theorem transact_separate {β : Type} {tx : Transaction DelegationDesk β} {fate : Fate}
    (keeps : ∀ after value, tx desk = .ok (after, value) → Separate after) :
    Separate (transact tx fate desk).1 := by
  generalize ran : transact tx fate desk = outcome
  rcases transact_cases _ _ _ _ _ ran with ⟨same, _⟩ | ⟨value, done, _⟩ | ⟨value, done, _⟩
  · rw [same]
    exact separate
  · exact keeps _ value done
  · exact keeps _ value done

theorem commitNameservers_separate {value : Unit}
    (running : desk.running w = some task) (done : commitNameservers task desk = .ok (after, value)) :
    Separate after := by
  have written : Separate (desk.writeDomain task.fqdn fun domain => { domain with
      nameserverMode := task.mode
      dnssecMode := if task.incompatibleDnssec then .off else domain.dnssecMode
      dnssecStatus := if task.incompatibleDnssec then .off else domain.dnssecStatus }) :=
    writeDomain_separate separate (fun _ => rfl) fun domain found external =>
      separate.delegating w task domain running external found
  unfold commitNameservers at done
  dsimp only at done
  split at done
  · cases done
    exact written
  · cases done
    exact separate_of_frame written rfl rfl

theorem zone_separate {step : ZoneStep}
    (between : BetweenDelegations rules (.zone step) desk) :
    Separate { desk with zones := zoneStep rules limits step desk.zones } := by
  have modes : KeepsModes rules step desk.zones (zoneStep rules limits step desk.zones) :=
    zoneStep_modes step
  rcases modes with same | ⟨fqdn, before, written, found, domains, mode, vm⟩
  · constructor
    · intro name domain there
      simp only [same] at there
      exact separate.never name domain there
    · intro w task domain running external there
      simp only [same] at there
      exact separate.delegating w task domain running external there
  · constructor
    · intro name domain there external
      simp only [domains] at there
      rcases update_cases there with ⟨rfl, ⟨⟩⟩ | ⟨_, there⟩
      · rw [mode] at external
        rcases vm with kept | none | ⟨managed, _⟩
        · rw [kept]
          exact separate.never name before found external
        · exact none
        · rw [managed] at external
          cases external
      · exact separate.never name domain there external
    · intro w task domain running external there
      simp only [domains] at there
      by_cases here : task.fqdn = fqdn
      · rw [here, put_same] at there
        cases there
        rcases vm with kept | none | ⟨_, attaches⟩
        · rw [kept]
          exact separate.delegating w task before running external (here ▸ found)
        · exact none
        · exact absurd here (between fqdn attaches w task running external)
      · rw [put_other _ _ here] at there
        exact separate.delegating w task domain running external there

theorem begin_separate {fate : Fate} :
    Separate (delegationStep rules limits (.begin w id fate) desk) := by
  simp only [delegationStep]
  split
  · exact separate
  generalize ran : transact (operationAndDomain id) fate desk = outcome
  obtain ⟨after, reply⟩ := outcome
  have read : Separate after := by
    have kept : Separate (transact (operationAndDomain id) fate desk).1 := by
      refine transact_separate separate fun after task done => ?_
      obtain ⟨zones, running, _⟩ := operationAndDomain_reads done
      exact separate_of_frame separate zones running
    rw [ran] at kept
    exact kept
  cases reply with
  | error error => exact read
  | ok task =>
    dsimp only
    split
    · exact read
    rename_i allowed
    have reads : operationAndDomain id desk = .ok (after, task) := by
      rcases transact_cases _ _ _ _ _ ran with ⟨_, _, failed, _⟩ | ⟨value, done, _, same⟩ |
        ⟨_, _, _, lost⟩
      · cases failed
      · cases same
        exact done
      · cases lost
    obtain ⟨zones, running, seen⟩ := operationAndDomain_reads reads
    refine ⟨read.never, fun v other domain runs external found => ?_⟩
    rcases update_cases runs with ⟨rfl, ⟨⟩⟩ | ⟨_, runs⟩
    · simp only [zones, seen, Option.some.injEq] at found
      subst found
      exact refusal_none allowed external
    · exact read.delegating v other domain runs external found

omit separate

theorem delegationStep_separate (step : DelegationStep) (separate : Separate desk)
    (between : BetweenDelegations rules step desk) :
    Separate (delegationStep rules limits step desk) := by
  cases step with
  | enqueue request seen id fate =>
    refine transact_separate separate fun after reply done => ?_
    obtain ⟨zones, running⟩ := enqueue_frame done
    exact separate_of_frame separate zones running
  | begin w id fate => exact begin_separate separate
  | manage w fate =>
    simp only [delegationStep]
    split
    · exact separate
    split
    · refine transact_separate separate fun after reply done => ?_
      cases done
      exact writeDomain_separate separate (fun _ => rfl) (fun _ _ => nofun)
    · exact separate
  | finish w fate =>
    simp only [delegationStep]
    split
    · exact separate
    · rename_i task running
      exact stop_separate (transact_separate separate fun after reply done =>
        commitNameservers_separate separate running done)
  | stop w => exact stop_separate separate
  | zone step => exact zone_separate separate between

end Delegations

/-- In every run in which a domain gets a VM only between delegations, no domain whose
nameservers are external has a VM. -/
theorem external_domain_unattached (rules : TextRules) (limits : ZoneLimits)
    (desk : DelegationDesk) (steps : List DelegationStep) (start : NeverBoth desk)
    (idle : ∀ w, desk.running w = none)
    (admitted : (separateDelegations rules limits).admits desk steps) :
    NeverBoth ((separateDelegations rules limits).run desk steps) := by
  have separate : Separate desk := by
    refine ⟨start, fun w task domain running => ?_⟩
    rw [idle w] at running
    cases running
  exact (Protocol.run_keeps (separateDelegations rules limits)
    (fun step _ separate between => delegationStep_separate step separate between)
    steps desk separate admitted).never

def registeredExample : ManagedDomain where
  ownerAccountId := some 0
  openproviderId := some 1

def delegatedDesk : DelegationDesk where
  zones := { exampleDesk with
    domains := fun name => if name = exampleFqdn then some registeredExample else none }
  operations _ := none
  queued _ := none
  running _ := none

def elsewhereRequest : NameserverRequest where
  owner := 0
  domain := exampleFqdn
  mode := .external
  nameservers := ["ns1.example.net".toList, "ns2.example.net".toList]
  idempotencyKey := "elsewhere".toList

def enqueueExample : DelegationStep := .enqueue elsewhereRequest (some registeredExample) 0 .done

theorem delegatedDesk_never : NeverBoth delegatedDesk := by
  intro fqdn domain found external
  simp only [delegatedDesk] at found
  split at found <;> cases found
  cases external

def claimExample : DelegationStep := .zone (.claim 0 exampleFqdn exampleVm .done)

def releaseExample : DelegationStep := .zone (.release exampleFqdn exampleVm .done)

/-- The claim of a VM is released before the domain goes elsewhere. -/
theorem released_domain_delegated :
    NeverBoth ((separateDelegations plainRules ⟨500, 100⟩).run delegatedDesk
      [claimExample, releaseExample, enqueueExample, .begin 0 0 .done, .finish 0 .done]) :=
  external_domain_unattached plainRules ⟨500, 100⟩ delegatedDesk _ delegatedDesk_never
    (fun _ => rfl) ⟨fun _ _ _ _ => nofun, fun _ => nofun, trivial, trivial, trivial, trivial⟩

/-- A VM is claimed between the check of the job and its commit. -/
theorem delegated_domain_attached :
    ¬ ∀ (rules : TextRules) (limits : ZoneLimits) (desk : DelegationDesk)
      (steps : List DelegationStep), NeverBoth desk → (∀ w, desk.running w = none) →
      (delegations rules limits).admits desk steps →
      NeverBoth ((delegations rules limits).run desk steps) := by
  intro always
  have never := always plainRules ⟨500, 100⟩ delegatedDesk
    [enqueueExample, .begin 0 0 .done, claimExample, .finish 0 .done] delegatedDesk_never
    (fun _ => rfl) ⟨trivial, trivial, trivial, trivial, trivial⟩
  have attached := never exampleFqdn _ rfl (by decide +kernel)
  exact absurd attached (by decide +kernel)

end HyruleCloud.Zones
