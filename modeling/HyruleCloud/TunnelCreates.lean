import HyruleCloud.Protocol
import HyruleCloud.Store

/-!
The creation of a tunnel and its replay, api/tunnel.py and services/tunnel/service.py.
A request is a process; it stops at each of its awaits, where it may crash. The daemon,
the facilitator and the database answer as the steps say. A header and its sha256 are
one name here, and so are a token and its hash.
-/

namespace HyruleCloud.Tunnels

open Interaction Function

abbrev ApiId := Nat
abbrev Authorization := Nat
abbrev LeaseToken := Nat

/-- What a request presents as its payment; a bypass has no payment header. -/
inductive PaymentMeans where
  | authorization (auth : Authorization)
  | devBypass
  | adminWaiver (waiver : Nat)
  | nothing

structure TunnelRequest where
  api : ApiId
  means : PaymentMeans
  hours : Nat
  allowlistCidrs : List Nat

/-- The document that `_request_hash` digests. -/
structure RequestHash where
  hours : Nat
  allowlistCidrs : List Nat
  deriving DecidableEq

/-- A tunnel id records the authorization of the request that has drawn it. -/
structure TunnelId where
  authorization : Option Authorization
  serial : Nat
  deriving DecidableEq

/-- `endpoint` is the host with its two ports. -/
structure Lease where
  token : Option LeaseToken
  endpoint : Nat

/-- `payment_response_headers` -/
inductive PaymentHeader where
  | settlement (success : Bool)
  | adminBypass
  deriving DecidableEq

inductive LeaseStatus where
  | active | provisioning

/-- In `paymentTx`, `some none` is the empty string. -/
structure TunnelRow where
  tunnelId : TunnelId
  idempotencyKey : Option Authorization
  requestHash : Option RequestHash
  tokenHash : Option LeaseToken
  endpoint : Nat
  status : LeaseStatus := .active
  paymentTx : Option (Option Tx) := none
  settlementHeader : Option PaymentHeader := none

structure TunnelResponse where
  tunnelId : TunnelId
  token : LeaseToken
  endpoint : Nat
  header : Option PaymentHeader
  deriving DecidableEq

structure TunnelError where
  status : Nat
  detail : String
  deriving DecidableEq

structure TunnelConfig where
  tunnelMinHours : Nat
  tunnelMaxHours : Nat

/-- What `settle_verified` returns and leaves in the state of the request. -/
structure SettleResult where
  ok : Bool
  paymentTx : Option Tx
  header : Option PaymentHeader

/-- Where the handler of a request stands, after the await of its name. -/
inductive Stage where
  | idle
  | admitted (request : TunnelRequest)
  | payable (request : TunnelRequest)
  | verified (request : TunnelRequest)
  | leased (request : TunnelRequest) (row : TunnelRow) (token : LeaseToken)
  | outrun (request : TunnelRequest)
  | provisioned (request : TunnelRequest) (row : TunnelRow) (token : LeaseToken)
  | settled (request : TunnelRequest) (row : TunnelRow) (token : LeaseToken) (result : SettleResult)
  | unsettled (request : TunnelRequest) (row : TunnelRow) (token : LeaseToken)
      (result : SettleResult)
  | unstamped (request : TunnelRequest) (id : TunnelId)
  | revoked (request : TunnelRequest) (id : TunnelId)
  | replaying (request : TunnelRequest) (existing : TunnelRow)
  | recreated (request : TunnelRequest) (existing : TunnelRow) (lease : Lease)
  | recovered (request : TunnelRequest) (existing : TunnelRow) (token : LeaseToken)
  | unpaid (request : TunnelRequest) (existing : TunnelRow) (token : LeaseToken)
  | reverified (request : TunnelRequest) (existing : TunnelRow) (token : LeaseToken)
  | resettled (request : TunnelRequest) (existing : TunnelRow) (token : LeaseToken)
      (result : SettleResult)
  | answering (request : TunnelRequest) (response : TunnelResponse)

/-- `leases` is the daemon's, `settled` the facilitator's. -/
structure TunnelDesk where
  rows : List TunnelRow
  leases : TunnelId → Option Lease
  settled : List Authorization
  inflight : List (ApiId × Authorization)
  stages : ProcessId → Stage
  drawn : Nat
  replies : List (Except TunnelError TunnelResponse)

def TunnelRequest.idempotencyKey (request : TunnelRequest) : Option Authorization :=
  match request.means with
  | .authorization auth => some auth
  | _ => none

def TunnelRequest.hash (request : TunnelRequest) : RequestHash :=
  ⟨request.hours, request.allowlistCidrs.mergeSort⟩

def Stage.request : Stage → Option TunnelRequest
  | .idle => none
  | .admitted request | .payable request | .verified request | .outrun request => some request
  | .leased request _ _ | .provisioned request _ _ | .settled request _ _ _ => some request
  | .unsettled request _ _ _ | .unstamped request _ | .revoked request _ => some request
  | .replaying request _ | .recreated request _ _ | .recovered request _ _ => some request
  | .unpaid request _ _ | .reverified request _ _ | .resettled request _ _ _ => some request
  | .answering request _ => some request

namespace TunnelDesk

variable (desk : TunnelDesk)

def get (id : TunnelId) : Option TunnelRow :=
  desk.rows.find? fun row => row.tunnelId = id

def findByIdempotencyKey (key : Authorization) : Option TunnelRow :=
  desk.rows.find? fun row => row.idempotencyKey = some key

def goOn (w : ProcessId) (stage : Stage) : TunnelDesk :=
  { desk with stages := update desk.stages w stage }

/-- The handler ends, and `_tunnel_authorization_guard` forgets its authorization. -/
def leave (w : ProcessId) : TunnelDesk :=
  { desk with
    inflight := match (desk.stages w).request with
      | none => desk.inflight
      | some request => desk.inflight.filter fun held =>
        !(held.1 = request.api && some held.2 = request.idempotencyKey)
    stages := update desk.stages w .idle }

def reply (w : ProcessId) (answer : Except TunnelError TunnelResponse) : TunnelDesk :=
  { desk.leave w with replies := answer :: desk.replies }

def fail (w : ProcessId) (status : Nat) (detail : String) : TunnelDesk :=
  desk.reply w (.error ⟨status, detail⟩)

def setLease (id : TunnelId) (lease : Option Lease) : TunnelDesk :=
  { desk with leases := update desk.leases id lease }

def write (id : TunnelId) (change : TunnelRow → TunnelRow) : TunnelDesk :=
  { desk with rows := desk.rows.map fun row => if row.tunnelId = id then change row else row }

def remove (id : TunnelId) : TunnelDesk :=
  { desk with rows := desk.rows.filter fun row => row.tunnelId ≠ id }

end TunnelDesk

inductive DaemonReply where
  | refused (portsExhausted : Bool)
  | unanswered
  | answered

/-- `create_lease` is idempotent; `fresh` is the lease that the daemon makes if it has none. -/
def createLease (id : TunnelId) (fresh : Lease) (reply : DaemonReply) (desk : TunnelDesk) :
    TunnelDesk × Except Bool Lease :=
  let lease := (desk.leases id).getD fresh
  match reply with
  | .refused portsExhausted => (desk, .error portsExhausted)
  | .unanswered => (desk.setLease id (some lease), .error false)
  | .answered => (desk.setLease id (some lease), .ok lease)

/-- The lease of a tunnel that is not provisioned is revoked; where that is not confirmed,
`_persist_provisional_marker` leaves a row for the sweep. -/
def discard (row : TunnelRow) (confirmed marked : Bool) (desk : TunnelDesk) : TunnelDesk :=
  if confirmed then desk.setLease row.tunnelId none
  else if marked && (desk.get row.tunnelId).isNone then
    { desk with rows := { row with
      idempotencyKey := none
      requestHash := none
      status := .provisioning } :: desk.rows }
  else desk

/-! `create_tunnel` -/

def enterGuard (config : TunnelConfig) (w : ProcessId) (request : TunnelRequest) (desk : TunnelDesk) :
    TunnelDesk :=
  let least := config.tunnelMinHours
  let most := config.tunnelMaxHours
  if request.hours < least || most < request.hours then
    desk.fail w 422 s!"hours must be between {least} and {most}"
  else match request.idempotencyKey with
    | none => desk.goOn w (.admitted request)
    | some auth =>
      if (request.api, auth) ∈ desk.inflight then
        desk.fail w 409 "payment authorization already in flight"
      else { desk with inflight := (request.api, auth) :: desk.inflight }.goOn w (.admitted request)

/-- `_replay_create`, up to its first await. -/
def startReplay (w : ProcessId) (request : TunnelRequest) (existing : TunnelRow)
    (desk : TunnelDesk) : TunnelDesk :=
  if existing.requestHash ≠ none ∧ existing.requestHash ≠ some request.hash then
    desk.fail w 409 "payment authorization already used for a different tunnel request"
  else desk.goOn w (.replaying request existing)

def findExisting (w : ProcessId) (request : TunnelRequest) (desk : TunnelDesk) : TunnelDesk :=
  match request.idempotencyKey.bind desk.findByIdempotencyKey with
  | none => desk.goOn w (.payable request)
  | some existing => startReplay w request existing desk

/-- `verify_only`; `refusal` is the response of a payment that it does not accept. -/
def verifyOnly (w : ProcessId) (request : TunnelRequest) (verified : Stage)
    (refusal : Option TunnelError) (desk : TunnelDesk) : TunnelDesk :=
  match request.means, refusal with
  | .nothing, none => desk
  | _, some error => desk.reply w (.error error)
  | _, none => desk.goOn w verified

/-- `provision`, up to the insert of the row. -/
def provision (w : ProcessId) (request : TunnelRequest) (fresh : Lease) (reply : DaemonReply)
    (confirmed marked : Bool) (desk : TunnelDesk) : TunnelDesk :=
  let id : TunnelId := ⟨request.idempotencyKey, desk.drawn⟩
  match createLease id fresh reply { desk with drawn := desk.drawn + 1 } with
  | (desk, .error true) => desk.fail w 503 "no free tunnel ports available"
  | (desk, .error false) => desk.fail w 502 "tunnel provisioning failed"
  | (desk, .ok lease) =>
    let row : TunnelRow := {
      tunnelId := id
      idempotencyKey := request.idempotencyKey
      requestHash := some request.hash
      tokenHash := lease.token
      endpoint := lease.endpoint }
    match lease.token with
    | none => (discard row confirmed marked desk).fail w 502 "tunnel provisioning failed"
    | some token => desk.goOn w (.leased request row token)

def insertRow (w : ProcessId) (request : TunnelRequest) (row : TunnelRow) (token : LeaseToken)
    (fate : Fate) (confirmed marked : Bool) (desk : TunnelDesk) : TunnelDesk :=
  let inserted := { desk with rows := row :: desk.rows }
  match fate, (row.idempotencyKey.bind desk.findByIdempotencyKey).isSome with
  | .failed, _ => (discard row confirmed marked desk).fail w 500 "Internal Server Error"
  | _, true => (discard row confirmed marked desk).goOn w (.outrun request)
  | .lost, false => (discard row confirmed marked inserted).fail w 500 "Internal Server Error"
  | .done, false => inserted.goOn w (.provisioned request row token)

def findWinner (w : ProcessId) (request : TunnelRequest) (desk : TunnelDesk) : TunnelDesk :=
  match request.idempotencyKey.bind desk.findByIdempotencyKey with
  | none => desk.fail w 409 "concurrent create; retry"
  | some existing => startReplay w request existing desk

/-- `took` iff the facilitator settles although no answer arrives. -/
inductive SettleReply where
  | succeeded (transaction : Option Nat)
  | refused
  | unanswered (took : Bool)

def SettleReply.takes : SettleReply → Bool
  | .succeeded _ => true
  | .refused => false
  | .unanswered took => took

def settleResult (means : PaymentMeans) (reply : SettleReply) : SettleResult :=
  match means, reply with
  | .devBypass, _ => ⟨true, some .devBypass, none⟩
  | .adminWaiver waiver, _ => ⟨true, some (.adminBypass waiver), some .adminBypass⟩
  | _, .succeeded transaction => ⟨true, transaction.map Tx.chain, some (.settlement true)⟩
  | _, .refused => ⟨false, none, some (.settlement false)⟩
  | _, .unanswered _ => ⟨false, none, none⟩

/-- `settle_verified` -/
def settleVerified (means : PaymentMeans) (reply : SettleReply) (desk : TunnelDesk) :
    TunnelDesk × SettleResult :=
  let settled := match means with
    | .authorization auth => if reply.takes then auth :: desk.settled else desk.settled
    | _ => desk.settled
  ({ desk with settled := settled }, settleResult means reply)

/-- `mark_settled`; the callers do not look at what it returns. -/
def markSettled (id : TunnelId) (result : SettleResult) (saved : Bool) (desk : TunnelDesk) :
    TunnelDesk :=
  if saved then
    desk.write id fun row => { row with
      paymentTx := some result.paymentTx
      settlementHeader := result.header }
  else desk

def lookAgain (w : ProcessId) (request : TunnelRequest) (row : TunnelRow) (token : LeaseToken)
    (result : SettleResult) (desk : TunnelDesk) : TunnelDesk :=
  match desk.get row.tunnelId with
  | none => desk.goOn w (.unstamped request row.tunnelId)
  | some settledRow =>
    if settledRow.paymentTx.isSome then
      desk.goOn w (.answering request ⟨row.tunnelId, token, settledRow.endpoint, result.header⟩)
    else desk.goOn w (.unstamped request row.tunnelId)

/-! `_replay_create` -/

def recoverLease (w : ProcessId) (request : TunnelRequest) (existing : TunnelRow) (fresh : Lease)
    (reply : DaemonReply) (desk : TunnelDesk) : TunnelDesk :=
  match desk.get existing.tunnelId with
  | none => desk.fail w 410 "tunnel no longer available"
  | some _ => match createLease existing.tunnelId fresh reply desk with
      | (desk, .error _) => desk.fail w 503 "tunnel control plane unavailable; retry"
      | (desk, .ok lease) => desk.goOn w (.recreated request existing lease)

/-- The row is made to agree with the lease that the daemon has. -/
def resyncRow (w : ProcessId) (request : TunnelRequest) (existing : TunnelRow) (lease : Lease)
    (confirmed : Bool) (desk : TunnelDesk) : TunnelDesk :=
  match desk.get existing.tunnelId with
  | none =>
    (if confirmed then desk.setLease existing.tunnelId none else desk).fail w 410
      "tunnel no longer available"
  | some _ =>
    let synced := desk.write existing.tunnelId fun row => { row with
      tokenHash := lease.token
      endpoint := lease.endpoint }
    match lease.token with
    | none => synced.fail w 410 "tunnel no longer available"
    | some token => synced.goOn w (.recovered request existing token)

def refetchRow (w : ProcessId) (request : TunnelRequest) (existing : TunnelRow)
    (token : LeaseToken) (desk : TunnelDesk) : TunnelDesk :=
  let existing := (desk.get existing.tunnelId).getD existing
  if existing.paymentTx.isSome then
    desk.goOn w (.answering request
      ⟨existing.tunnelId, token, existing.endpoint, existing.settlementHeader⟩)
  else desk.goOn w (.unpaid request existing token)

inductive TunnelStep where
  | arrive (w : ProcessId) (request : TunnelRequest)
  | find (w : ProcessId)
  | verify (w : ProcessId) (refusal : Option TunnelError)
  | provision (w : ProcessId) (fresh : Lease) (reply : DaemonReply) (confirmed marked : Bool)
  | insert (w : ProcessId) (fate : Fate) (confirmed marked : Bool)
  | settle (w : ProcessId) (reply : SettleReply)
  | stamp (w : ProcessId) (saved : Bool)
  | lookAgain (w : ProcessId)
  | revoke (w : ProcessId) (confirmed : Bool)
  | delete (w : ProcessId) (saved : Bool)
  | recover (w : ProcessId) (fresh : Lease) (reply : DaemonReply)
  | resync (w : ProcessId) (confirmed : Bool)
  | refetch (w : ProcessId)
  | respond (w : ProcessId)
  | crash (w : ProcessId)
  | forget (id : TunnelId)
  | remove (id : TunnelId)

def tunnelStep (config : TunnelConfig) (step : TunnelStep) (desk : TunnelDesk) : TunnelDesk :=
  match step with
  | .arrive w request => match desk.stages w with
      | .idle => enterGuard config w request desk
      | _ => desk
  | .find w => match desk.stages w with
      | .admitted request => findExisting w request desk
      | .outrun request => findWinner w request desk
      | _ => desk
  | .verify w refusal => match desk.stages w with
      | .payable request => verifyOnly w request (.verified request) refusal desk
      | .unpaid request existing token =>
        verifyOnly w request (.reverified request existing token) refusal desk
      | _ => desk
  | .provision w fresh reply confirmed marked => match desk.stages w with
      | .verified request => provision w request fresh reply confirmed marked desk
      | _ => desk
  | .insert w fate confirmed marked => match desk.stages w with
      | .leased request row token => insertRow w request row token fate confirmed marked desk
      | _ => desk
  | .settle w reply => match desk.stages w with
      | .provisioned request row token =>
        let (desk, result) := settleVerified request.means reply desk
        desk.goOn w (if result.ok then .settled request row token result
          else .unsettled request row token result)
      | .reverified request existing token =>
        let (desk, result) := settleVerified request.means reply desk
        desk.goOn w (.resettled request existing token result)
      | _ => desk
  | .stamp w saved => match desk.stages w with
      -- a replay goes on whether the settlement has succeeded or not
      | .settled request row token result | .resettled request row token result =>
        (markSettled row.tunnelId result saved desk).goOn w (.answering request
          ⟨row.tunnelId, token, row.endpoint, result.header⟩)
      | _ => desk
  | .lookAgain w => match desk.stages w with
      | .unsettled request row token result => lookAgain w request row token result desk
      | _ => desk
  | .revoke w confirmed => match desk.stages w with
      | .unstamped request id =>
        if confirmed then (desk.setLease id none).goOn w (.revoked request id)
        else desk.fail w 402 "payment settlement failed"
      | _ => desk
  | .delete w saved => match desk.stages w with
      | .revoked _ id =>
        if saved then (desk.remove id).fail w 402 "payment settlement failed"
        else desk.fail w 500 "Internal Server Error"
      | _ => desk
  | .recover w fresh reply => match desk.stages w with
      | .replaying request existing => recoverLease w request existing fresh reply desk
      | _ => desk
  | .resync w confirmed => match desk.stages w with
      | .recreated request existing lease => resyncRow w request existing lease confirmed desk
      | _ => desk
  | .refetch w => match desk.stages w with
      | .recovered request existing token => refetchRow w request existing token desk
      | _ => desk
  | .respond w => match desk.stages w with
      | .answering _ response => desk.reply w (.ok response)
      | _ => desk
  | .crash w => desk.leave w
  -- the owner, the sweep, or the daemon itself
  | .forget id => desk.setLease id none
  | .remove id => desk.remove id

def tunnels (config : TunnelConfig) : Protocol TunnelDesk TunnelStep :=
  ⟨tunnelStep config, fun _ _ => True⟩

/-- A settlement of the tunnel's authorization has succeeded, or it has none. -/
def Paid (desk : TunnelDesk) (id : TunnelId) : Prop :=
  ∀ auth, id.authorization = some auth → auth ∈ desk.settled

/-- A replay goes on after a failed settlement only if the authorization has been settled. -/
def RefusedIfSettled (step : TunnelStep) (desk : TunnelDesk) : Prop :=
  match step with
  | .stamp w _ => match desk.stages w with
      | .resettled request _ _ result =>
        result.ok = false → ∀ auth, request.idempotencyKey = some auth → auth ∈ desk.settled
      | _ => True
  | _ => True

def earnestTunnels (config : TunnelConfig) : Protocol TunnelDesk TunnelStep :=
  ⟨tunnelStep config, RefusedIfSettled⟩

structure TunnelsPaid (desk : TunnelDesk) : Prop where
  delivered : ∀ response, .ok response ∈ desk.replies → Paid desk response.tunnelId
  stamped : ∀ row ∈ desk.rows, row.paymentTx.isSome → Paid desk row.tunnelId

structure TunnelStart (desk : TunnelDesk) : Prop where
  keys : ∀ row ∈ desk.rows, ∀ auth, row.idempotencyKey = some auth →
    row.tunnelId.authorization = some auth
  stamped : ∀ row ∈ desk.rows, row.paymentTx.isSome → Paid desk row.tunnelId
  stages : ∀ w, desk.stages w = .idle
  replies : desk.replies = []

/-- A row with a key was drawn for it, and a stamped one is paid for. -/
structure RowSafe (desk : TunnelDesk) (row : TunnelRow) : Prop where
  key : ∀ auth, row.idempotencyKey = some auth → row.tunnelId.authorization = some auth
  stamped : row.paymentTx.isSome → Paid desk row.tunnelId

/-- The tunnel in the hands of a request was drawn for its authorization, and what it
delivers is paid for. -/
def StageSafe (desk : TunnelDesk) : Stage → Prop
  | .leased request row _ => row.tunnelId.authorization = request.idempotencyKey ∧
      row.idempotencyKey = request.idempotencyKey ∧ row.paymentTx = none
  | .provisioned request row _ | .unsettled request row _ _ =>
    row.tunnelId.authorization = request.idempotencyKey
  | .replaying request existing | .recreated request existing _ | .recovered request existing _ =>
    existing.tunnelId.authorization = request.idempotencyKey ∧
      (existing.paymentTx.isSome → Paid desk existing.tunnelId)
  | .unpaid request existing _ | .reverified request existing _ =>
    existing.tunnelId.authorization = request.idempotencyKey
  | .settled _ row _ _ => Paid desk row.tunnelId
  | .resettled request existing _ result =>
    existing.tunnelId.authorization = request.idempotencyKey ∧
      (result.ok = true → Paid desk existing.tunnelId)
  | .answering _ response => Paid desk response.tunnelId
  | _ => True

structure TunnelsSafe (desk : TunnelDesk) : Prop where
  rows : ∀ row ∈ desk.rows, RowSafe desk row
  stages : ∀ w, StageSafe desk (desk.stages w)
  replies : ∀ response, .ok response ∈ desk.replies → Paid desk response.tunnelId

variable {fresh : Lease} {reply : DaemonReply} {confirmed marked saved : Bool}
  {config : TunnelConfig} {existing : TunnelRow} {token : LeaseToken} {result : SettleResult}

section Steps
variable {desk : TunnelDesk} {w : ProcessId} {stage : Stage} {id : TunnelId} {row : TunnelRow}
  {request : TunnelRequest}

variable (safe : TunnelsSafe desk)
include safe

theorem goOn_safe (own : StageSafe desk stage) :
    TunnelsSafe (desk.goOn w stage) where
  rows row listed := { safe.rows row listed with }
  stages v := by
    by_cases mine : v = w
    · subst mine
      have runs : (desk.goOn v stage).stages v = stage := update_self _ _ _
      rw [runs]
      exact own
    · have runs : (desk.goOn w stage).stages v = desk.stages v := update_of_ne mine _ _
      rw [runs]
      exact safe.stages v
  replies := safe.replies

theorem leave_safe : TunnelsSafe (desk.leave w) where
  rows row listed := { safe.rows row listed with }
  stages := by
    have idled : TunnelsSafe (desk.goOn w .idle) := goOn_safe safe trivial
    exact idled.stages
  replies := safe.replies

theorem reply_safe {answer : Except TunnelError TunnelResponse}
    (paid : ∀ response, answer = .ok response → Paid desk response.tunnelId) :
    TunnelsSafe (desk.reply w answer) where
  rows row listed := { safe.rows row listed with }
  stages := (leave_safe safe).stages
  replies response listed := by
    rcases List.mem_cons.mp listed with same | before
    · exact paid response same.symm
    · exact safe.replies response before

theorem fail_safe {status : Nat} {detail : String} :
    TunnelsSafe (desk.fail w status detail) :=
  reply_safe safe nofun

theorem rows_safe {rows : List TunnelRow}
    (kept : ∀ row ∈ rows, RowSafe desk row) : TunnelsSafe { desk with rows := rows } where
  rows row listed := { kept row listed with }
  stages := safe.stages
  replies := safe.replies

theorem setLease_safe {lease : Option Lease} :
    TunnelsSafe (desk.setLease id lease) where
  rows row listed := { safe.rows row listed with }
  stages := safe.stages
  replies := safe.replies

theorem insert_safe (fresh : RowSafe desk row) :
    TunnelsSafe { desk with rows := row :: desk.rows } := by
  refine rows_safe safe fun other listed => ?_
  rcases List.mem_cons.mp listed with rfl | old
  · exact fresh
  · exact safe.rows other old

omit safe

theorem write_safe (id : TunnelId) (change : TunnelRow → TunnelRow) (safe : TunnelsSafe desk)
    (kept : ∀ row ∈ desk.rows, row.tunnelId = id → RowSafe desk (change row)) :
    TunnelsSafe (desk.write id change) := by
  refine rows_safe safe fun written listed => ?_
  obtain ⟨row, old, rfl⟩ := List.mem_map.mp listed
  split
  · rename_i same
    exact kept row old same
  · exact safe.rows row old

theorem remove_safe (safe : TunnelsSafe desk) : TunnelsSafe (desk.remove id) :=
  rows_safe safe fun row listed => safe.rows row (List.mem_filter.mp listed).1

theorem get_tunnelId (found : desk.get id = some row) : row.tunnelId = id := by
  have same := List.find?_some found
  exact of_decide_eq_true same

theorem get_mem (found : desk.get id = some row) : row ∈ desk.rows :=
  List.mem_of_find?_eq_some found

theorem createLease_safe (id : TunnelId) (fresh : Lease) (reply : DaemonReply)
    (safe : TunnelsSafe desk) :
    TunnelsSafe (createLease id fresh reply desk).1 := by
  cases reply with
  | refused portsExhausted => exact safe
  | unanswered | answered => exact setLease_safe safe

theorem createLease_settled : (createLease id fresh reply desk).1.settled = desk.settled := by
  cases reply <;> rfl

include safe

theorem discard_safe (unstamped : row.paymentTx = none) :
    TunnelsSafe (discard row confirmed marked desk) := by
  unfold discard
  split
  · exact setLease_safe safe
  split
  · refine insert_safe safe ⟨nofun, fun stamped => ?_⟩
    rw [unstamped] at stamped
    cases stamped
  · exact safe

theorem enterGuard_safe : TunnelsSafe (enterGuard config w request desk) := by
  unfold enterGuard
  dsimp only
  split
  · exact fail_safe safe
  split
  · exact goOn_safe safe trivial
  split
  · exact fail_safe safe
  · refine goOn_safe ⟨fun row listed => ?_, safe.stages, safe.replies⟩ trivial
    exact { safe.rows row listed with }

theorem startReplay_safe
    (found : request.idempotencyKey.bind desk.findByIdempotencyKey = some existing) :
    TunnelsSafe (startReplay w request existing desk) := by
  obtain ⟨auth, key, found⟩ := Option.bind_eq_some_iff.mp found
  have listed : existing ∈ desk.rows := List.mem_of_find?_eq_some found
  have same := List.find?_some found
  have row := safe.rows existing listed
  unfold startReplay
  split
  · exact fail_safe safe
  · refine goOn_safe safe ⟨?_, row.stamped⟩
    rw [key]
    exact row.key auth (of_decide_eq_true same)

theorem findExisting_safe : TunnelsSafe (findExisting w request desk) := by
  unfold findExisting
  split
  · exact goOn_safe safe trivial
  · exact startReplay_safe safe ‹_›

theorem findWinner_safe : TunnelsSafe (findWinner w request desk) := by
  unfold findWinner
  split
  · exact fail_safe safe
  · exact startReplay_safe safe ‹_›

theorem verifyOnly_safe {refusal : Option TunnelError}
    (own : StageSafe desk stage) : TunnelsSafe (verifyOnly w request stage refusal desk) := by
  unfold verifyOnly
  split
  · exact safe
  · exact reply_safe safe nofun
  · exact goOn_safe safe own

theorem provision_safe : TunnelsSafe (provision w request fresh reply confirmed marked desk) := by
  have counted : TunnelsSafe { desk with drawn := desk.drawn + 1 } := by
    refine ⟨fun row listed => ?_, safe.stages, safe.replies⟩
    exact { safe.rows row listed with }
  have created := createLease_safe ⟨request.idempotencyKey, desk.drawn⟩ fresh reply counted
  unfold provision
  dsimp only
  split
  · rename_i made
    rw [made] at created
    exact fail_safe created
  · rename_i made
    rw [made] at created
    exact fail_safe created
  · rename_i made
    rw [made] at created
    split
    · exact fail_safe (discard_safe created rfl)
    · exact goOn_safe created ⟨rfl, rfl, rfl⟩

theorem insertRow_safe {fate : Fate}
    (runs : desk.stages w = .leased request row token) :
    TunnelsSafe (insertRow w request row token fate confirmed marked desk) := by
  have own := safe.stages w
  rw [runs] at own
  obtain ⟨drawn, key, unstamped⟩ := own
  have inserted : TunnelsSafe { desk with rows := row :: desk.rows } := by
    refine insert_safe safe ⟨fun auth holds => ?_, fun stamped => ?_⟩
    · rw [drawn, ← key]
      exact holds
    · rw [unstamped] at stamped
      cases stamped
  unfold insertRow
  split
  · exact fail_safe (discard_safe safe unstamped)
  · exact goOn_safe (discard_safe safe unstamped) trivial
  · exact fail_safe (discard_safe inserted unstamped)
  · exact goOn_safe inserted drawn

omit safe

theorem paid_grows {after : TunnelDesk} (grows : desk.settled ⊆ after.settled)
    (paid : Paid desk id) : Paid after id :=
  fun auth holds => grows (paid auth holds)

theorem stage_grows {after : TunnelDesk} (grows : desk.settled ⊆ after.settled)
    (safe : StageSafe desk stage) : StageSafe after stage := by
  cases stage with
  | settled | answering => exact paid_grows grows safe
  | replaying | recreated | recovered =>
    exact ⟨safe.1, fun stamped => paid_grows grows (safe.2 stamped)⟩
  | resettled => exact ⟨safe.1, fun ok => paid_grows grows (safe.2 ok)⟩
  | _ => exact safe

theorem settleVerified_safe {means : PaymentMeans} {reply : SettleReply}
    (safe : TunnelsSafe desk) : TunnelsSafe (settleVerified means reply desk).1 := by
  have grows : desk.settled ⊆ (settleVerified means reply desk).1.settled := by
    unfold settleVerified
    split
    · split
      · exact List.subset_cons_self _ _
      · exact List.Subset.refl _
    · exact List.Subset.refl _
  refine ⟨fun row listed => ⟨(safe.rows row listed).key, fun stamped => ?_⟩, fun v => ?_,
    fun response listed => ?_⟩
  · exact paid_grows grows ((safe.rows row listed).stamped stamped)
  · exact stage_grows grows (safe.stages v)
  · exact paid_grows grows (safe.replies response listed)

theorem settleVerified_paid {reply : SettleReply}
    (drawn : id.authorization = request.idempotencyKey)
    (ok : (settleVerified request.means reply desk).2.ok = true) :
    Paid (settleVerified request.means reply desk).1 id := by
  intro auth holds
  rw [drawn] at holds
  unfold TunnelRequest.idempotencyKey at holds
  cases means : request.means with
  | authorization held =>
    rw [means] at holds ok
    cases holds
    cases reply with
    | succeeded transaction => exact List.mem_cons_self
    | refused | unanswered => cases ok
  | devBypass | adminWaiver | nothing => simp [means] at holds

theorem markSettled_safe (safe : TunnelsSafe desk) (paid : Paid desk id) :
    TunnelsSafe (markSettled id result saved desk) := by
  unfold markSettled
  split
  · refine write_safe _ _ safe fun row listed same => ⟨(safe.rows row listed).key, fun _ => ?_⟩
    subst same
    exact paid
  · exact safe

theorem markSettled_paid {other : TunnelId} (paid : Paid desk other) :
    Paid (markSettled id result saved desk) other := by
  unfold markSettled
  split
  · exact paid
  · exact paid

include safe

theorem lookAgain_safe : TunnelsSafe (lookAgain w request row token result desk) := by
  unfold lookAgain
  split
  · exact goOn_safe safe trivial
  rename_i settledRow found
  split
  · rename_i stamped
    refine goOn_safe safe ?_
    have paid := (safe.rows settledRow (get_mem found)).stamped stamped
    rw [get_tunnelId found] at paid
    exact paid
  · exact goOn_safe safe trivial

theorem recoverLease_safe (runs : desk.stages w = .replaying request existing) :
    TunnelsSafe (recoverLease w request existing fresh reply desk) := by
  have own := safe.stages w
  rw [runs] at own
  have created := createLease_safe existing.tunnelId fresh reply safe
  unfold recoverLease
  split
  · exact fail_safe safe
  split
  · rename_i made
    rw [made] at created
    exact fail_safe created
  · rename_i made
    have settled := congrArg (fun outcome => outcome.1.settled) made
    rw [createLease_settled] at settled
    rw [made] at created
    refine goOn_safe created ⟨own.1, fun stamped => ?_⟩
    exact paid_grows (fun auth listed => settled ▸ listed) (own.2 stamped)

theorem resyncRow_safe {lease : Lease}
    (runs : desk.stages w = .recreated request existing lease) :
    TunnelsSafe (resyncRow w request existing lease confirmed desk) := by
  have own := safe.stages w
  rw [runs] at own
  unfold resyncRow
  split
  · refine fail_safe ?_
    split
    · exact setLease_safe safe
    · exact safe
  · have synced := write_safe existing.tunnelId
      (fun row => { row with tokenHash := lease.token, endpoint := lease.endpoint }) safe
      fun row listed _ => { safe.rows row listed with }
    split
    · exact fail_safe synced
    · exact goOn_safe synced own

theorem refetchRow_safe (runs : desk.stages w = .recovered request existing token) :
    TunnelsSafe (refetchRow w request existing token desk) := by
  have own := safe.stages w
  rw [runs] at own
  obtain ⟨drawn, paid⟩ := own
  unfold refetchRow
  dsimp only
  cases found : desk.get existing.tunnelId with
  | none =>
    split
    · rename_i stamped
      exact goOn_safe safe (paid stamped)
    · exact goOn_safe safe drawn
  | some row =>
    have same := get_tunnelId found
    split
    · rename_i stamped
      exact goOn_safe safe ((safe.rows row (get_mem found)).stamped stamped)
    · refine goOn_safe safe ?_
      rw [← same] at drawn
      exact drawn

theorem settle_safe {reply : SettleReply} :
    TunnelsSafe (tunnelStep config (.settle w reply) desk) := by
  have own := safe.stages w
  simp only [tunnelStep]
  split
  · rename_i runs
    rw [runs] at own
    refine goOn_safe (settleVerified_safe safe) ?_
    split
    · rename_i ok
      exact settleVerified_paid own ok
    · exact own
  · rename_i runs
    rw [runs] at own
    exact goOn_safe (settleVerified_safe safe) ⟨own, settleVerified_paid own⟩
  · exact safe

theorem stamp_safe (earnest : RefusedIfSettled (.stamp w saved) desk) :
    TunnelsSafe (tunnelStep config (.stamp w saved) desk) := by
  have own := safe.stages w
  simp only [tunnelStep]
  simp only [RefusedIfSettled] at earnest
  split
  · rename_i runs
    rw [runs] at own
    exact goOn_safe (markSettled_safe safe own) (markSettled_paid own)
  · rename_i existing token result runs
    rw [runs] at own earnest
    obtain ⟨drawn, ok⟩ := own
    -- a failed settlement is where the condition is needed
    have paid : Paid desk existing.tunnelId := by
      cases failed : result.ok with
      | true => exact ok failed
      | false =>
        intro auth holds
        rw [drawn] at holds
        exact earnest failed auth holds
    exact goOn_safe (markSettled_safe safe paid) (markSettled_paid paid)
  · exact safe

omit safe

theorem tunnelStep_safe (step : TunnelStep) (safe : TunnelsSafe desk)
    (earnest : RefusedIfSettled step desk) : TunnelsSafe (tunnelStep config step desk) := by
  cases step with
  | arrive w request =>
    simp only [tunnelStep]
    split
    · exact enterGuard_safe safe
    · exact safe
  | find w =>
    simp only [tunnelStep]
    split
    · exact findExisting_safe safe
    · exact findWinner_safe safe
    · exact safe
  | verify w refusal =>
    have own := safe.stages w
    simp only [tunnelStep]
    split
    · exact verifyOnly_safe safe trivial
    · rename_i runs
      rw [runs] at own
      exact verifyOnly_safe safe own
    · exact safe
  | provision w fresh reply confirmed marked =>
    simp only [tunnelStep]
    split
    · exact provision_safe safe
    · exact safe
  | insert w fate confirmed marked =>
    simp only [tunnelStep]
    split
    · exact insertRow_safe safe ‹_›
    · exact safe
  | settle w reply => exact settle_safe safe
  | stamp w saved => exact stamp_safe safe earnest
  | lookAgain w =>
    simp only [tunnelStep]
    split
    · exact lookAgain_safe safe
    · exact safe
  | revoke w confirmed =>
    simp only [tunnelStep]
    split
    · split
      · exact goOn_safe (setLease_safe safe) trivial
      · exact fail_safe safe
    · exact safe
  | delete w saved =>
    simp only [tunnelStep]
    split
    · split
      · exact fail_safe (remove_safe safe)
      · exact fail_safe safe
    · exact safe
  | recover w fresh reply =>
    simp only [tunnelStep]
    split
    · exact recoverLease_safe safe ‹_›
    · exact safe
  | resync w confirmed =>
    simp only [tunnelStep]
    split
    · exact resyncRow_safe safe ‹_›
    · exact safe
  | refetch w =>
    simp only [tunnelStep]
    split
    · exact refetchRow_safe safe ‹_›
    · exact safe
  | respond w =>
    have own := safe.stages w
    simp only [tunnelStep]
    split
    · rename_i runs
      rw [runs] at own
      refine reply_safe safe fun response same => ?_
      cases same
      exact own
    · exact safe
  | crash w => exact leave_safe safe
  | forget id => exact setLease_safe safe
  | remove id => exact remove_safe safe

end Steps

/-- In every run in which a replay goes on after a failed settlement only where the
authorization has been settled, what is delivered or stamped has been paid for. -/
theorem tunnels_paid (config : TunnelConfig) (desk : TunnelDesk) (steps : List TunnelStep)
    (start : TunnelStart desk) (admitted : (earnestTunnels config).admits desk steps) :
    TunnelsPaid ((earnestTunnels config).run desk steps) := by
  have begins : TunnelsSafe desk := by
    constructor
    · exact fun row listed => ⟨start.keys row listed, start.stamped row listed⟩
    · intro w
      rw [start.stages w]
      trivial
    · intro response listed
      rw [start.replies] at listed
      cases listed
  have safe := @Protocol.run_keeps _ _ (earnestTunnels config) TunnelsSafe
    (fun step _ safe earnest => tunnelStep_safe step safe earnest) steps desk begins admitted
  exact ⟨safe.replies, fun row listed => (safe.rows row listed).stamped⟩

def emptyTunnels : TunnelDesk where
  rows := []
  leases _ := none
  settled := []
  inflight := []
  stages _ := .idle
  drawn := 0
  replies := []

theorem emptyTunnels_start : TunnelStart emptyTunnels where
  keys _ none := by cases none
  stamped _ none := by cases none
  stages _ := rfl
  replies := rfl

def hourlyTunnels : TunnelConfig := ⟨1, 24⟩

def paidRequest : TunnelRequest := ⟨0, .authorization 5, 1, []⟩

def abandonedCreate : List TunnelStep :=
  [.arrive 0 paidRequest, .find 0, .verify 0 none, .provision 0 ⟨some 9, 0⟩ .answered true true,
    .insert 0 .done true true, .crash 0]

def replayedCreate (reply : SettleReply) : List TunnelStep :=
  abandonedCreate ++ [.arrive 1 paidRequest, .find 1, .recover 1 ⟨some 9, 0⟩ .answered,
    .resync 1 true, .refetch 1, .verify 1 none, .settle 1 reply, .stamp 1 true, .respond 1]

/-- The replay delivers the token although the only settlement is refused. -/
theorem unpaid_tunnel_delivered :
    ¬ TunnelsPaid ((tunnels hourlyTunnels).run emptyTunnels (replayedCreate .refused)) := by
  have unsettled : ((tunnels hourlyTunnels).run emptyTunnels (replayedCreate .refused)).settled =
      [] := by decide +kernel
  have replied : ((tunnels hourlyTunnels).run emptyTunnels (replayedCreate .refused)).replies =
      [.ok ⟨⟨some 5, 0⟩, 9, 0, some (.settlement false)⟩] := by decide +kernel
  intro paid
  have settled := paid.delivered _ (by rw [replied]; exact List.mem_singleton_self _) 5 rfl
  rw [unsettled] at settled
  cases settled

/-- The facilitator settles without an answer; the next replay meets a refusal. -/
def lostAnswer : List TunnelStep :=
  abandonedCreate ++ [.arrive 1 paidRequest, .find 1, .recover 1 ⟨some 9, 0⟩ .answered,
    .resync 1 true, .refetch 1, .verify 1 none, .settle 1 (.unanswered true), .crash 1,
    .arrive 2 paidRequest, .find 2, .recover 2 ⟨some 9, 0⟩ .answered,
    .resync 2 true, .refetch 2, .verify 2 none, .settle 2 .refused, .stamp 2 true, .respond 2]

/-- Where the authorization has been settled, the replay is right to deliver. -/
theorem settled_tunnel_delivered :
    TunnelsPaid ((earnestTunnels hourlyTunnels).run emptyTunnels lostAnswer) := by
  refine tunnels_paid hourlyTunnels emptyTunnels lostAnswer emptyTunnels_start ?_
  refine (earnestTunnels hourlyTunnels).passes_admits
    (fun step desk => match step with
      | .stamp w _ => match desk.stages w with
          | .resettled request _ _ _ => request.idempotencyKey.all (desk.settled.contains ·)
          | _ => true
      | _ => true) ?_ _ _ (by decide +kernel)
  intro step desk passed
  cases step with
  | stamp w saved =>
    simp only [earnestTunnels, RefusedIfSettled]
    dsimp only at passed
    split
    · rename_i runs
      rw [runs] at passed
      intro _ auth key
      simpa [key] using passed
    · trivial
  | _ => trivial

end HyruleCloud.Tunnels
