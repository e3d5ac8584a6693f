import HyruleCloud.ExternalDelegation

/-!
The two copies of one zone, domains/service.py: the committed row and records of a domain,
and the zone that DNS control holds. A changeset, an attachment and a detachment keep the
row locked from their read to their commit and push in between; `_ensure_managed_zone`
pushes what it has read without a lock; an external delegation deletes the zone. DNS
control takes a whole zone, unless it holds a higher revision.
-/

namespace HyruleCloud.Zones

open Interaction Function

abbrev ZoneJobId := Nat

/-- `attach_vm` and `detach_vm`; the jobs that end in `_ensure_managed_zone`; and the
nameserver jobs to external nameservers. -/
inductive ZoneJobKind where
  | write | manage | delegate
  deriving DecidableEq

/-- A job that is queued, or running. `touched`: an attempt has changed the zone of DNS
control, and has ended before its commit. -/
structure ZoneJob where
  kind : ZoneJobKind
  touched : Bool

/-- An operation, before the statement of its name. A changeset is nobody's job. -/
inductive CopyWork where
  | pushing (job : Option ZoneJobId) (written : ManagedDomain) (zone : Zone)
  | writing (job : Option ZoneJobId) (written : ManagedDomain) (zone : Zone)
  -- of `_ensure_managed_zone`; `accepted` says what its push has come to
  | reading (job : ZoneJobId) (revision : Nat)
  | refreshing (job : ZoneJobId) (revision : Nat) (records : Zone)
  | managing (job : ZoneJobId) (accepted : Bool)
  -- `_ensure_managed_zone` has returned, and `_apply_nameservers` writes the mode once more
  | settling (job : ZoneJobId)
  -- of an external delegation
  | deleting (job : ZoneJobId) (seen : ManagedDomain)
  | delegating (job : ZoneJobId) (seen : ManagedDomain)

structure CopyDesk where
  row : ManagedDomain
  records : Zone
  control : Option PushedZone
  -- the lock of the row
  holder : Option ProcessId
  works : ProcessId → Option CopyWork
  jobs : ZoneJobId → Option ZoneJob

namespace CopyWork

def job : CopyWork → Option ZoneJobId
  | pushing job _ _ => job
  | writing job _ _ => job
  | reading job _ => some job
  | refreshing job _ _ => some job
  | managing job _ => some job
  | settling job => some job
  | deleting job _ => some job
  | delegating job _ => some job

def kind : CopyWork → ZoneJobKind
  | pushing _ _ _ => .write
  | writing _ _ _ => .write
  | reading _ _ => .manage
  | refreshing _ _ _ => .manage
  | managing _ _ => .manage
  | settling _ => .manage
  | deleting _ _ => .delegate
  | delegating _ _ => .delegate

/-- The zone of DNS control has been changed, and nothing is committed yet. -/
def touched : CopyWork → Bool
  | writing _ _ _ => true
  | managing _ accepted => accepted
  | delegating _ seen => seen.nameserverMode = .managed
  | _ => false

end CopyWork

namespace CopyDesk

def zoneDesk (desk : CopyDesk) (fqdn : Text) : ZoneDesk where
  enabled _ := true
  domains name := if name = fqdn then some desk.row else none
  records _ := desk.records
  replies _ := none
  control _ := []

def held (desk : CopyDesk) : PushedZone := ⟨desk.row.zoneRevision, desk.records⟩

def goOn (w : ProcessId) (work : Option CopyWork) (desk : CopyDesk) : CopyDesk :=
  { desk with works := update desk.works w work }

def hasJob (desk : CopyDesk) (job : ZoneJobId) (kind : ZoneJobKind) : Bool :=
  (desk.jobs job).any fun row => row.kind = kind

def isLeft (desk : CopyDesk) (work : CopyWork) : Bool :=
  match work.job with
  | none => false
  | some job => desk.hasJob job work.kind

def markJob (work : CopyWork) (mark : Bool → Bool) (desk : CopyDesk) : CopyDesk :=
  match work.job with
  | none => desk
  | some job =>
    if desk.hasJob job work.kind then
      let marked := (desk.jobs job).map fun row => { row with touched := mark row.touched }
      { desk with jobs := update desk.jobs job marked }
    else desk

/-- The row is locked with what the operation is about to write. -/
def lockRow (w : ProcessId) (job : Option ZoneJobId) (written : ManagedDomain) (zone : Zone)
    (desk : CopyDesk) : CopyDesk :=
  match desk.works w, desk.holder with
  | none, none => goOn w (some (.pushing job written zone)) { desk with holder := some w }
  | _, _ => desk

/-- What `attach_vm` is about to write. -/
def attachment (vm : VmId) (ipv6 : Text) (desk : CopyDesk) : Option (ManagedDomain × Zone) :=
  let current := desk.row
  if current.vmId ≠ none ∧ current.vmId ≠ some vm then none
  else if current.nameserverMode ≠ .managed then none
  else match attachedRecord current desk.records ipv6 with
    | .error _ => none
    | .ok record => some ({ current with
        vmId := some vm
        vmIpv6 := some ipv6
        zoneRevision := current.zoneRevision + 1 }, desk.records.insert apexAaaa record)

/-- What `detach_vm` is about to write, when it pushes. -/
def detachment (vm : VmId) (desk : CopyDesk) : Option (ManagedDomain × Zone) :=
  let current := desk.row
  if current.vmId ≠ some vm then none
  else if ownsApex current desk.records ∧ current.nameserverMode = .managed then
    some ({ current with
      vmId := none
      vmIpv6 := none
      zoneRevision := current.zoneRevision + 1 }, desk.records.erase apexAaaa)
  else none

def lockPlanned (w : ProcessId) (job : Option ZoneJobId) (planned : Option (ManagedDomain × Zone))
    (desk : CopyDesk) : CopyDesk :=
  match planned with
  | none => desk
  | some (written, zone) => lockRow w job written zone desk

/-- What `apply_changeset` is about to write. -/
def changed (rules : TextRules) (limits : ZoneLimits) (fqdn : Text) (call : ChangesetCall)
    (desk : CopyDesk) : Option (ManagedDomain × Zone) :=
  match planPush rules limits call fqdn (desk.zoneDesk fqdn) with
  | .ok (.push _ domain session) =>
    some ({ domain with zoneRevision := domain.zoneRevision + 1 }, session.wanted)
  | _ => none

def takes (desk : CopyDesk) (revision : Nat) : Bool :=
  match desk.control with
  | none => true
  | some zone => zone.revision ≤ revision

def leave (w : ProcessId) (desk : CopyDesk) : CopyDesk :=
  goOn w none { desk with holder := if desk.holder = some w then none else desk.holder }

/-- The operation raises, its process dies, or its job has no more of the mode to write. -/
def stop (w : ProcessId) (desk : CopyDesk) : CopyDesk :=
  match desk.works w with
  | none => desk
  | some work => leave w (markJob work (fun touched => touched || work.touched) desk)

/-- `strict`: DNS control answers a lower revision with an error. -/
def push (strict : Bool) (w : ProcessId) (desk : CopyDesk) : CopyDesk :=
  match desk.works w with
  | some (.pushing job written zone) =>
    if desk.takes written.zoneRevision then
      goOn w (some (.writing job written zone))
        { desk with control := some ⟨written.zoneRevision, zone⟩ }
    else if strict then stop w desk
    else goOn w (some (.writing job written zone)) desk
  | some (.refreshing job revision records) =>
    if desk.takes revision then
      goOn w (some (.managing job true)) { desk with control := some ⟨revision, records⟩ }
    else if strict then stop w desk
    else goOn w (some (.managing job false)) desk
  | _ => desk

/-- The records are read after the row, in a statement of their own. -/
def read (w : ProcessId) (desk : CopyDesk) : CopyDesk :=
  match desk.works w with
  | some (.reading job revision) => goOn w (some (.refreshing job revision desk.records)) desk
  | _ => desk

/-- `delete_zone`, unless the domain was delegated before. -/
def delete (w : ProcessId) (desk : CopyDesk) : CopyDesk :=
  match desk.works w with
  | some (.deleting job seen) =>
    if seen.nameserverMode = .managed then
      goOn w (some (.delegating job seen)) { desk with control := none }
    else goOn w (some (.delegating job seen)) desk
  | _ => desk

def commit (w : ProcessId) (desk : CopyDesk) : CopyDesk :=
  match desk.works w with
  | some (.writing job written zone) =>
    leave w (markJob (.writing job written zone) (fun _ => false)
      { desk with row := written, records := zone })
  | some (.managing job accepted) =>
    if desk.holder.isSome then desk
    else goOn w (some (.settling job)) (markJob (.managing job accepted) (fun _ => false)
      { desk with
        row := { desk.row with
          nameserverMode := .managed
          dnssecStatus :=
            if desk.row.dnssecMode = .managed then .active else desk.row.dnssecStatus } })
  | some (.settling _) =>
    if desk.holder.isSome then desk
    else leave w { desk with row := { desk.row with nameserverMode := .managed } }
  | some (.delegating job seen) =>
    if desk.holder.isSome then desk
    else
      let incompatible := seen.dnssecMode = .managed
      leave w (markJob (.delegating job seen) (fun _ => false) { desk with
        row := { desk.row with
          nameserverMode := .external
          dnssecMode := if incompatible then .off else desk.row.dnssecMode
          dnssecStatus := if incompatible then .off else desk.row.dnssecStatus } })
  | _ => desk

/-- `_ensure_managed_zone` reads the row. -/
def ensure (w : ProcessId) (job : ZoneJobId) (desk : CopyDesk) : CopyDesk :=
  if (desk.works w).isSome || !desk.hasJob job .manage then desk
  else goOn w (some (.reading job desk.row.zoneRevision)) desk

/-- `_operation_and_domain` locks the row for its read, and `_apply_nameservers` looks at
what it has read. -/
def delegate (w : ProcessId) (job : ZoneJobId) (desk : CopyDesk) : CopyDesk :=
  if (desk.works w).isSome || desk.holder.isSome || !desk.hasJob job .delegate then desk
  else match externalDelegationRefusal desk.row with
    | some _ => desk
    | none => goOn w (some (.deleting job desk.row)) desk

def writeColumns (change : ManagedDomain → ManagedDomain) (desk : CopyDesk) : CopyDesk :=
  match desk.holder with
  | some _ => desk
  | none => { desk with row := { change desk.row with
      nameserverMode := desk.row.nameserverMode
      zoneRevision := desk.row.zoneRevision } }

def enqueue (job : ZoneJobId) (kind : ZoneJobKind) (desk : CopyDesk) : CopyDesk :=
  match desk.jobs job with
  | some _ => desk
  | none => { desk with jobs := update desk.jobs job (some ⟨kind, false⟩) }

end CopyDesk

inductive CopyStep where
  | changeset (w : ProcessId) (call : ChangesetCall)
  | attach (w : ProcessId) (job : ZoneJobId) (vm : VmId) (ipv6 : Text)
  | detach (w : ProcessId) (job : ZoneJobId) (vm : VmId)
  | ensure (w : ProcessId) (job : ZoneJobId)
  | delegate (w : ProcessId) (job : ZoneJobId)
  | read (w : ProcessId)
  | push (w : ProcessId)
  | delete (w : ProcessId)
  | commit (w : ProcessId)
  | stop (w : ProcessId)
  | columns (change : ManagedDomain → ManagedDomain)
  | enqueue (job : ZoneJobId) (kind : ZoneJobKind)
  -- the job is done, or given up
  | drop (job : ZoneJobId)

structure CopyRules where
  text : TextRules
  limits : ZoneLimits
  fqdn : Text
  strict : Bool

open CopyDesk in
def copyStep (rules : CopyRules) (step : CopyStep) (desk : CopyDesk) : CopyDesk :=
  match step with
  | .changeset w call =>
    lockPlanned w none (desk.changed rules.text rules.limits rules.fqdn call) desk
  | .attach w job vm ipv6 =>
    if desk.hasJob job .write then lockPlanned w (some job) (desk.attachment vm ipv6) desk
    else desk
  | .detach w job vm =>
    if desk.hasJob job .write then lockPlanned w (some job) (desk.detachment vm) desk else desk
  | .ensure w job => desk.ensure w job
  | .delegate w job => desk.delegate w job
  | .read w => desk.read w
  | .push w => desk.push rules.strict w
  | .delete w => desk.delete w
  | .commit w => desk.commit w
  | .stop w => desk.stop w
  | .columns change => desk.writeColumns change
  | .enqueue job kind => desk.enqueue job kind
  | .drop job => { desk with jobs := update desk.jobs job none }

/-- A job with `_ensure_managed_zone` and an external delegation keep apart, no zone is
pushed between a deletion and the commit of its delegation, and an operation that has
changed the zone of DNS control is not given up before its commit. -/
def mayCopy (step : CopyStep) (desk : CopyDesk) : Prop :=
  match step with
  | .ensure _ _ => ∀ v work, desk.works v = some work → work.kind ≠ .delegate
  | .delegate _ _ => ∀ v work, desk.works v = some work → work.kind ≠ .manage
  | .push _ => ∀ v job seen, desk.works v = some (.delegating job seen) →
      seen.nameserverMode ≠ .managed
  | .stop w => ∀ work, desk.works w = some work → work.touched = true → desk.isLeft work = true
  | .drop job => ∀ row, desk.jobs job = some row → row.touched = false
  | _ => True

def copies (rules : CopyRules) : Protocol CopyDesk CopyStep := ⟨copyStep rules, mayCopy⟩

structure Quiescent (desk : CopyDesk) : Prop where
  works : ∀ w, desk.works w = none
  jobs : ∀ job, desk.jobs job = none

def Synced (desk : CopyDesk) : Prop :=
  match desk.row.nameserverMode with
  | .managed => desk.control = some desk.held
  | .external => desk.control = none

/-- Where a run begins: nothing is in progress, and the copies agree or, for a domain that
has just been registered, the job that pushes its first zone is still to be done. -/
structure CopiesStart (desk : CopyDesk) : Prop where
  works : ∀ w, desk.works w = none
  holder : desk.holder = none
  jobs : ∀ job row, desk.jobs job = some row → row.touched = true → row.kind = .manage
  synced : Synced desk ∨ (desk.control = none ∧ ∃ job, desk.jobs job = some ⟨.manage, true⟩)

end HyruleCloud.Zones
