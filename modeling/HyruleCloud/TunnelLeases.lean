import HyruleCloud.Protocol
import HyruleCloud.Store

/-!
The calls of `TunnelService` over the daemon and the table, services/tunnel/service.py.
A call stops at each of its awaits, so the daemon's change and the table's are two steps.
The writes succeed and nothing crashes; the daemon answers as the steps say. The callers
know only the ids that `provision` has returned to them.
-/

namespace HyruleCloud.TunnelLeases

open Interaction

abbrev LeaseToken := Nat

structure TunnelId where
  process : ProcessId
  serial : Nat
  deriving DecidableEq

/-- `endpoint` is the host with its two ports; an expiry that `_parse_ts` cannot read is none. -/
structure Lease where
  token : Option LeaseToken
  endpoint : Nat
  expiresAt : Option Time

inductive LeaseStatus where
  | active | provisioning
  deriving DecidableEq

structure TunnelRow where
  idempotencyKey : Option Nat
  tokenHash : Option LeaseToken
  endpoint : Nat
  allowlistCidrs : List Nat
  status : LeaseStatus
  createdAt : Time
  expiresAt : Time

/-- The arguments of `provision`. -/
structure TunnelTerms where
  hours : Nat
  allowlistCidrs : List Nat
  idempotencyKey : Option Nat

/-- The seconds of `tunnel_grace_period_minutes` and `tunnel_provisional_ttl_minutes`. -/
structure TunnelConfig where
  grace : Nat
  provisionalTtl : Nat

inductive Stage where
  | idle
  | leased (id : TunnelId) (terms : TunnelTerms) (lease : Lease)
  | unwanted (id : TunnelId) (terms : TunnelTerms) (lease : Lease)
  | undiscarded (id : TunnelId) (terms : TunnelTerms) (lease : Lease)
  | recovering (id : TunnelId) (row : TunnelRow)
  | recreated (id : TunnelId) (lease : Lease)
  | rowless (id : TunnelId)
  | revoking (id : TunnelId)
  | revoked (id : TunnelId)
  | extending (id : TunnelId) (hours : Nat)
  | granted (id : TunnelId) (newExpiry : Time) (since : Nat)
  | found (id : TunnelId) (newExpiry : Time) (since : Nat) (row : TunnelRow)
  | sweeping (candidates : List TunnelId)
  | reaped (id : TunnelId) (candidates : List TunnelId)

/-- A row that `extend` has returned; `since` counts the sweeps' revocations before the
daemon has granted it. -/
structure Extension where
  tunnelId : TunnelId
  expiresAt : Time
  since : Nat

structure Reaping where
  tunnelId : TunnelId
  time : Time
  serial : Nat

/-- `leases` is the daemon's. A row is in the table only if its id is in `provisioned` or in
`marked`, where the two inserts put it. -/
structure LeaseDesk where
  now : Time
  rows : TunnelId → Option TunnelRow
  provisioned : List TunnelId
  marked : List TunnelId
  leases : TunnelId → Option Lease
  stages : ProcessId → Stage
  drawn : Nat
  extensions : List Extension
  reapings : List Reaping

namespace LeaseDesk

variable (desk : LeaseDesk)

def goOn (w : ProcessId) (stage : Stage) : LeaseDesk :=
  { desk with stages := Function.update desk.stages w stage }

def setLease (id : TunnelId) (lease : Option Lease) : LeaseDesk :=
  { desk with leases := Function.update desk.leases id lease }

def setRow (id : TunnelId) (row : Option TunnelRow) : LeaseDesk :=
  { desk with rows := Function.update desk.rows id row }

def listed : List TunnelId := desk.provisioned ++ desk.marked

def due (config : TunnelConfig) (id : TunnelId) : Bool :=
  match desk.rows id with
  | none => false
  | some row => row.expiresAt + config.grace < desk.now ||
      (row.status = .provisioning && row.createdAt + config.provisionalTtl < desk.now)

end LeaseDesk

inductive CreateReply where
  | refused | unanswered | answered

/-- `create_lease` returns the lease that is there, else the daemon makes `fresh`. -/
def createLease (id : TunnelId) (fresh : Lease) (reply : CreateReply) (desk : LeaseDesk) :
    LeaseDesk × Option Lease :=
  let lease := (desk.leases id).getD fresh
  match reply with
  | .refused => (desk, none)
  | .unanswered => (desk.setLease id (some lease), none)
  | .answered => (desk.setLease id (some lease), some lease)

/-- `took` iff the lease is gone although this was not confirmed. -/
inductive RevokeReply where
  | confirmed
  | unconfirmed (took : Bool)
  deriving DecidableEq

def RevokeReply.takes : RevokeReply → Bool
  | .confirmed => true
  | .unconfirmed took => took

/-- `revoke_lease` -/
def revokeLease (id : TunnelId) (reply : RevokeReply) (desk : LeaseDesk) : LeaseDesk :=
  if reply.takes then desk.setLease id none else desk

/-- `_parse_ts`, with the default that its callers give it. -/
def parseTs (expiresAt : Option Time) (hours : Nat) (desk : LeaseDesk) : Time :=
  expiresAt.getD (desk.now + hours * 3600)

/-! `provision` -/

def provision (w : ProcessId) (terms : TunnelTerms) (fresh : Lease) (reply : CreateReply)
    (desk : LeaseDesk) : LeaseDesk :=
  let id : TunnelId := ⟨w, desk.drawn⟩
  match createLease id fresh reply { desk with drawn := desk.drawn + 1 } with
  | (desk, none) => desk
  | (desk, some lease) => desk.goOn w
      (if lease.token.isSome then .leased id terms lease else .unwanted id terms lease)

def newRow (terms : TunnelTerms) (lease : Lease) (desk : LeaseDesk) : TunnelRow where
  idempotencyKey := terms.idempotencyKey
  tokenHash := lease.token
  endpoint := lease.endpoint
  allowlistCidrs := terms.allowlistCidrs
  status := .active
  createdAt := desk.now
  expiresAt := parseTs lease.expiresAt terms.hours desk

def conflicts (key : Option Nat) (desk : LeaseDesk) : Bool :=
  key.isSome && desk.listed.any fun id => match desk.rows id with
    | some row => row.idempotencyKey = key
    | none => false

def insertRow (w : ProcessId) (id : TunnelId) (terms : TunnelTerms) (lease : Lease)
    (desk : LeaseDesk) : LeaseDesk :=
  if conflicts terms.idempotencyKey desk then desk.goOn w (.unwanted id terms lease)
  else { desk.setRow id (some (newRow terms lease desk)) with
    provisioned := id :: desk.provisioned }.goOn w .idle

def discardLease (w : ProcessId) (id : TunnelId) (terms : TunnelTerms) (lease : Lease)
    (reply : RevokeReply) (desk : LeaseDesk) : LeaseDesk :=
  (revokeLease id reply desk).goOn w
    (if reply = .confirmed then .idle else .undiscarded id terms lease)

def persistProvisionalMarker (w : ProcessId) (id : TunnelId) (terms : TunnelTerms) (lease : Lease)
    (desk : LeaseDesk) : LeaseDesk :=
  let marker := { newRow terms lease desk with idempotencyKey := none, status := .provisioning }
  { desk.setRow id (some marker) with marked := id :: desk.marked }.goOn w .idle

/-! `recover_lease` -/

def recoverLease (w : ProcessId) (id : TunnelId) (desk : LeaseDesk) : LeaseDesk :=
  match desk.rows id with
  | none => desk
  | some row => desk.goOn w (.recovering id row)

def recreateLease (w : ProcessId) (id : TunnelId) (fresh : Lease) (reply : CreateReply)
    (desk : LeaseDesk) : LeaseDesk :=
  match createLease id fresh reply desk with
  | (desk, none) => desk.goOn w .idle
  | (desk, some lease) => desk.goOn w (.recreated id lease)

def resyncRow (w : ProcessId) (id : TunnelId) (lease : Lease) (desk : LeaseDesk) : LeaseDesk :=
  match desk.rows id with
  | none => desk.goOn w (.rowless id)
  | some row => (desk.setRow id (some { row with
      tokenHash := lease.token
      endpoint := lease.endpoint })).goOn w .idle

/-! `revoke` and `extend`, of an id that its caller knows -/

def startRevoke (w : ProcessId) (id : TunnelId) (desk : LeaseDesk) : LeaseDesk :=
  if id ∈ desk.provisioned then desk.goOn w (.revoking id) else desk

def startExtend (w : ProcessId) (id : TunnelId) (hours : Nat) (desk : LeaseDesk) : LeaseDesk :=
  if id ∈ desk.provisioned then desk.goOn w (.extending id hours) else desk

/-- `extend_lease`; the reply is the new expiry, or an error. -/
def extendLease (w : ProcessId) (id : TunnelId) (hours : Nat) (reply : Option (Option Time))
    (desk : LeaseDesk) : LeaseDesk :=
  match desk.leases id, reply with
  | some lease, some expiresAt =>
    (desk.setLease id (some { lease with expiresAt := expiresAt })).goOn w
      (.granted id (parseTs expiresAt hours desk) desk.reapings.length)
  | _, _ => desk.goOn w .idle

def findRow (w : ProcessId) (id : TunnelId) (newExpiry : Time) (since : Nat) (desk : LeaseDesk) :
    LeaseDesk :=
  match desk.rows id with
  | none => desk.goOn w .idle
  | some row => desk.goOn w (.found id newExpiry since row)

def TunnelRow.advance (row : TunnelRow) (newExpiry : Time) : TunnelRow :=
  { row with expiresAt := if row.expiresAt < newExpiry then newExpiry else row.expiresAt }

/-- The session keeps the row that it has read, and evaluates the UPDATE on it too: this row
is returned, not the one in the table. -/
def advanceRow (w : ProcessId) (id : TunnelId) (newExpiry : Time) (since : Nat) (row : TunnelRow)
    (desk : LeaseDesk) : LeaseDesk :=
  let advanced := desk.setRow id ((desk.rows id).map (·.advance newExpiry))
  { advanced with
    extensions := ⟨id, (row.advance newExpiry).expiresAt, since⟩ :: desk.extensions }.goOn w .idle

/-! `sweep_expiries` -/

def Stage.sweepOn : List TunnelId → Stage
  | [] => .idle
  | candidates => .sweeping candidates

def sweepExpiries (config : TunnelConfig) (w : ProcessId) (candidates : List TunnelId)
    (desk : LeaseDesk) : LeaseDesk :=
  if candidates.isPerm (desk.listed.filter (desk.due config)) then
    desk.goOn w (.sweepOn candidates)
  else desk

def reap (w : ProcessId) (id : TunnelId) (candidates : List TunnelId) (reply : RevokeReply)
    (desk : LeaseDesk) : LeaseDesk :=
  let reaped := if reply.takes && (desk.leases id).isSome then
      { desk with reapings := ⟨id, desk.now, desk.reapings.length⟩ :: desk.reapings }
    else desk
  (revokeLease id reply reaped).goOn w
    (if reply = .confirmed then .reaped id candidates else .sweepOn candidates)

def deleteRow (w : ProcessId) (id : TunnelId) (next : Stage) (desk : LeaseDesk) : LeaseDesk :=
  (desk.setRow id none).goOn w next

inductive LeaseStep where
  | tick
  | lapse (id : TunnelId)
  | provision (w : ProcessId) (terms : TunnelTerms) (fresh : Lease) (reply : CreateReply)
  | insert (w : ProcessId)
  | discard (w : ProcessId) (reply : RevokeReply)
  | mark (w : ProcessId)
  | recover (w : ProcessId) (id : TunnelId)
  | recreate (w : ProcessId) (fresh : Lease) (reply : CreateReply)
  | resync (w : ProcessId)
  | tidy (w : ProcessId) (reply : RevokeReply)
  | revoke (w : ProcessId) (id : TunnelId)
  | tearDown (w : ProcessId) (reply : RevokeReply)
  | delete (w : ProcessId)
  | extend (w : ProcessId) (id : TunnelId) (hours : Nat)
  | grant (w : ProcessId) (reply : Option (Option Time))
  | find (w : ProcessId)
  | advance (w : ProcessId)
  | sweep (w : ProcessId) (candidates : List TunnelId)
  | reap (w : ProcessId) (reply : RevokeReply)

def leaseStep (config : TunnelConfig) (step : LeaseStep) (desk : LeaseDesk) : LeaseDesk :=
  match step with
  | .tick => { desk with now := desk.now + 1 }
  -- the daemon ends or loses a lease
  | .lapse id => desk.setLease id none
  | .provision w terms fresh reply => match desk.stages w with
      | .idle => provision w terms fresh reply desk
      | _ => desk
  | .insert w => match desk.stages w with
      | .leased id terms lease => insertRow w id terms lease desk
      | _ => desk
  | .discard w reply => match desk.stages w with
      | .unwanted id terms lease => discardLease w id terms lease reply desk
      | _ => desk
  | .mark w => match desk.stages w with
      | .undiscarded id terms lease => persistProvisionalMarker w id terms lease desk
      | _ => desk
  | .recover w id => match desk.stages w with
      | .idle => recoverLease w id desk
      | _ => desk
  | .recreate w fresh reply => match desk.stages w with
      | .recovering id _ => recreateLease w id fresh reply desk
      | _ => desk
  | .resync w => match desk.stages w with
      | .recreated id lease => resyncRow w id lease desk
      | _ => desk
  | .tidy w reply => match desk.stages w with
      -- what `revoke_lease` returns here is not looked at
      | .rowless id => (revokeLease id reply desk).goOn w .idle
      | _ => desk
  | .revoke w id => match desk.stages w with
      | .idle => startRevoke w id desk
      | _ => desk
  | .tearDown w reply => match desk.stages w with
      | .revoking id =>
        (revokeLease id reply desk).goOn w (if reply = .confirmed then .revoked id else .idle)
      | _ => desk
  | .delete w => match desk.stages w with
      | .revoked id => deleteRow w id .idle desk
      | .reaped id candidates => deleteRow w id (.sweepOn candidates) desk
      | _ => desk
  | .extend w id hours => match desk.stages w with
      | .idle => startExtend w id hours desk
      | _ => desk
  | .grant w reply => match desk.stages w with
      | .extending id hours => extendLease w id hours reply desk
      | _ => desk
  | .find w => match desk.stages w with
      | .granted id newExpiry since => findRow w id newExpiry since desk
      | _ => desk
  | .advance w => match desk.stages w with
      | .found id newExpiry since row => advanceRow w id newExpiry since row desk
      | _ => desk
  | .sweep w candidates => match desk.stages w with
      | .idle => sweepExpiries config w candidates desk
      | _ => desk
  | .reap w reply => match desk.stages w with
      | .sweeping (id :: candidates) => reap w id candidates reply desk
      | _ => desk

def tunnelLeases (config : TunnelConfig) : Protocol LeaseDesk LeaseStep where
  step := leaseStep config
  may _ _ := True

structure LeaseStart (desk : LeaseDesk) : Prop where
  stages : ∀ w, desk.stages w = .idle
  extensions : desk.extensions = []
  reapings : desk.reapings = []
  serials : ∀ id ∈ desk.listed, id.serial < desk.drawn
  listed : ∀ id row, desk.rows id = some row → id ∈ desk.listed
  active : ∀ id ∈ desk.provisioned, ∀ row, desk.rows id = some row → row.status = .active
  tracked : ∀ id, (desk.leases id).isSome → (desk.rows id).isSome

/-- Once every call has ended no lease is without its row, and no sweep revokes a tunnel
before the expiry, and the grace, of a row that an extension has returned. -/
structure LeasesKept (config : TunnelConfig) (desk : LeaseDesk) : Prop where
  tracked : (∀ w, desk.stages w = .idle) → ∀ id,
    (desk.leases id).isSome → (desk.rows id).isSome
  kept : ∀ extension ∈ desk.extensions, ∀ reaping ∈ desk.reapings,
    reaping.tunnelId = extension.tunnelId → extension.since ≤ reaping.serial →
      extension.expiresAt + config.grace < reaping.time

end HyruleCloud.TunnelLeases
