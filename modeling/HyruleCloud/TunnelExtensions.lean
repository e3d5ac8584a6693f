import HyruleCloud.AdditionLog
import HyruleCloud.TunnelLeases

/-!
The paid extensions of one tunnel, from the request to the answer, beside revocations and
sweeps of the same tunnel: `extend_tunnel` in api/tunnel.py and `TunnelService.extend`. The
daemon adds to a lease in one step and returns the new expiry; its answer may be lost. Every
statement of the database may fail, and a commit may be applied although it raises.
-/

namespace HyruleCloud.TunnelExtensions

open Interaction AdditionLog
open TunnelLeases (RevokeReply)

structure ExtensionConfig where
  /-- The seconds of `tunnel_grace_period_minutes`. -/
  grace : Nat
  priceTunnelHourly : Nat
  tunnelMinHours : Nat
  tunnelMaxHours : Nat

/-- What `check_payment` has done: a waived request is not charged. -/
inductive Charge where
  | settled (tx : Nat)
  | waived
  deriving DecidableEq

/-- Where a call stands. `serial` numbers the daemon's additions, `attempt` the tries to
write the new expiry. -/
inductive Stage where
  | idle
  | checking (hours : Nat)
  | paying (hours : Nat)
  | extending (hours : Nat) (charge : Charge)
  | granted (hours : Nat) (charge : Charge) (serial : Nat) (newExpiry : Time) (attempt : Nat)
  | found (hours : Nat) (charge : Charge) (serial : Nat) (newExpiry : Time) (attempt : Nat)
  | failed (hours : Nat) (charge : Charge)
  | revoking
  | revoked
  | sweeping
  | reaped

/-- The answer to a request, and whether row and lease were there when a success was
reported. -/
inductive Answer where
  | extended (serial : Nat) (row lease : Bool)
  | error
  deriving DecidableEq

structure Ending where
  charge : Charge
  hours : Nat
  answer : Answer
  deriving DecidableEq

/-- A `refund_owed` event. -/
structure RefundEvent where
  originalTx : Nat
  amount : Nat

/-- `row` is the expiry of the tunnel's row, `lease` that of the daemon's lease. `reapings`
holds the times at which a sweep has revoked the lease. -/
structure ExtensionDesk where
  now : Time
  row : Option Time
  lease : Option Time
  stages : ProcessId → Stage
  settled : Nat
  additions : List Addition
  reported : Nat → Bool
  endings : List Ending
  refunds : List RefundEvent
  reapings : List Time

namespace ExtensionDesk

variable (config : ExtensionConfig) (desk : ExtensionDesk)

def goOn (w : ProcessId) (stage : Stage) : ExtensionDesk :=
  { desk with stages := Function.update desk.stages w stage }

def due : Bool := desk.row.any fun expiresAt => expiresAt + config.grace < desk.now

def amount (hours : Nat) : Nat := config.priceTunnelHourly * hours

/-! `extend_tunnel` -/

def request (w : ProcessId) (hours : Nat) : ExtensionDesk :=
  if desk.row.isSome ∧ config.tunnelMinHours ≤ hours ∧ hours ≤ config.tunnelMaxHours then
    desk.goOn w (.checking hours)
  else desk

def preflight (w : ProcessId) (hours : Nat) (answered : Bool) : ExtensionDesk :=
  desk.goOn w (if answered && desk.lease.isSome then .paying hours else .idle)

inductive PaymentAnswer where
  | refused | settled | waived

def checkPayment (w : ProcessId) (hours : Nat) : PaymentAnswer → ExtensionDesk
  | .refused => desk.goOn w .idle
  | .settled => { desk with settled := desk.settled + 1 }.goOn w
      (.extending hours (.settled desk.settled))
  | .waived => desk.goOn w (.extending hours .waived)

inductive GrantReply where
  | refused | unanswered | answered
  deriving DecidableEq

/-- `extend_lease`: the daemon adds the seconds to a lease that is there. -/
def extendLease (w : ProcessId) (hours : Nat) (charge : Charge) (reply : GrantReply) :
    ExtensionDesk :=
  match desk.lease, reply with
  | none, _ | _, .refused => desk.goOn w (.failed hours charge)
  | some expiresAt, reply =>
    let newExpiry := expiresAt + hours * 3600
    { desk with
      lease := some newExpiry
      additions := ⟨hours * 3600, newExpiry⟩ :: desk.additions }.goOn w
      (if reply = GrantReply.answered then .granted hours charge desk.additions.length newExpiry 0
      else .failed hours charge)

/-- The loop of `extend` tries five times, then gives up. -/
def tryAgain (w : ProcessId) (hours : Nat) (charge : Charge) (serial : Nat) (newExpiry : Time)
    (attempt : Nat) : ExtensionDesk :=
  desk.goOn w (if attempt + 1 < 5 then .granted hours charge serial newExpiry (attempt + 1)
    else .failed hours charge)

def findRow (w : ProcessId) (hours : Nat) (charge : Charge) (serial : Nat) (newExpiry : Time)
    (attempt : Nat) (works : Bool) : ExtensionDesk :=
  if works then
    desk.goOn w (if desk.row.isSome then .found hours charge serial newExpiry attempt
      else .failed hours charge)
  else desk.tryAgain w hours charge serial newExpiry attempt

def advance (newExpiry : Time) : ExtensionDesk :=
  { desk with row := desk.row.map fun expiresAt =>
      if expiresAt < newExpiry then newExpiry else expiresAt }

/-- The success is answered from the row that the session holds, whether the table still has
it or not. -/
def report (w : ProcessId) (hours : Nat) (charge : Charge) (serial : Nat) : ExtensionDesk :=
  { desk with
    reported := Function.update desk.reported serial true
    endings := ⟨charge, hours, .extended serial desk.row.isSome desk.lease.isSome⟩ ::
      desk.endings }.goOn w .idle

inductive Commit where
  | failed | unknown | done

def advanceRow (w : ProcessId) (hours : Nat) (charge : Charge) (serial : Nat)
    (newExpiry : Time) (attempt : Nat) : Commit → ExtensionDesk
  | .failed => desk.tryAgain w hours charge serial newExpiry attempt
  | .unknown => (desk.advance newExpiry).tryAgain w hours charge serial newExpiry attempt
  | .done => (desk.advance newExpiry).report w hours charge serial

/-- `_extend_failed_after_payment`: the event's write is best effort, the answer an error. -/
def failAfterPayment (w : ProcessId) (hours : Nat) (charge : Charge) (works : Bool) :
    ExtensionDesk :=
  let refunds := match charge with
    | .waived => desk.refunds
    | .settled tx => if works then ⟨tx, amount config hours⟩ :: desk.refunds else desk.refunds
  { desk with
    refunds := refunds
    endings := ⟨charge, hours, .error⟩ :: desk.endings }.goOn w .idle

/-! `revoke` and `sweep_expiries` -/

def startRevoke (w : ProcessId) : ExtensionDesk :=
  if desk.row.isSome then desk.goOn w .revoking else desk

def tearDown (w : ProcessId) (reply : RevokeReply) : ExtensionDesk :=
  { desk with lease := if reply.takes then none else desk.lease }.goOn w
    (if reply = RevokeReply.confirmed then .revoked else .idle)

/-- The tunnel is a candidate of the sweep if its row is due now. -/
def sweep (w : ProcessId) : ExtensionDesk :=
  if desk.due config then desk.goOn w .sweeping else desk

def reap (w : ProcessId) (reply : RevokeReply) : ExtensionDesk :=
  { desk with
    lease := if reply.takes then none else desk.lease
    reapings := if reply.takes && desk.lease.isSome then desk.now :: desk.reapings
      else desk.reapings }.goOn w (if reply = RevokeReply.confirmed then .reaped else .idle)

def deleteRow (w : ProcessId) (works : Bool) : ExtensionDesk :=
  { desk with row := if works then none else desk.row }.goOn w .idle

end ExtensionDesk

open ExtensionDesk

inductive ExtensionStep where
  | tick
  | lapse
  | request (w : ProcessId) (hours : Nat)
  | preflight (w : ProcessId) (answered : Bool)
  | pay (w : ProcessId) (payment : PaymentAnswer)
  | grant (w : ProcessId) (reply : GrantReply)
  | find (w : ProcessId) (works : Bool)
  | advance (w : ProcessId) (commit : Commit)
  | refund (w : ProcessId) (works : Bool)
  | revoke (w : ProcessId)
  | tearDown (w : ProcessId) (reply : RevokeReply)
  | sweep (w : ProcessId)
  | reap (w : ProcessId) (reply : RevokeReply)
  | delete (w : ProcessId) (works : Bool)

def extensionStep (config : ExtensionConfig) (step : ExtensionStep) (desk : ExtensionDesk) :
    ExtensionDesk :=
  match step with
  | .tick => { desk with now := desk.now + 1 }
  -- the daemon ends or loses the lease
  | .lapse => { desk with lease := none }
  | .request w hours => match desk.stages w with
      | .idle => desk.request config w hours
      | _ => desk
  | .preflight w answered => match desk.stages w with
      | .checking hours => desk.preflight w hours answered
      | _ => desk
  | .pay w payment => match desk.stages w with
      | .paying hours => desk.checkPayment w hours payment
      | _ => desk
  | .grant w reply => match desk.stages w with
      | .extending hours charge => desk.extendLease w hours charge reply
      | _ => desk
  | .find w works => match desk.stages w with
      | .granted hours charge serial newExpiry attempt =>
        desk.findRow w hours charge serial newExpiry attempt works
      | _ => desk
  | .advance w commit => match desk.stages w with
      | .found hours charge serial newExpiry attempt =>
        desk.advanceRow w hours charge serial newExpiry attempt commit
      | _ => desk
  | .refund w works => match desk.stages w with
      | .failed hours charge => desk.failAfterPayment config w hours charge works
      | _ => desk
  | .revoke w => match desk.stages w with
      | .idle => desk.startRevoke w
      | _ => desk
  | .tearDown w reply => match desk.stages w with
      | .revoking => desk.tearDown w reply
      | _ => desk
  | .sweep w => match desk.stages w with
      | .idle => desk.sweep config w
      | _ => desk
  | .reap w reply => match desk.stages w with
      | .sweeping => desk.reap w reply
      | _ => desk
  | .delete w works => match desk.stages w with
      | .revoked | .reaped => desk.deleteRow w works
      | _ => desk

def tunnelExtensions (config : ExtensionConfig) : Protocol ExtensionDesk ExtensionStep where
  step := extensionStep config
  may _ _ := True

/-- The tunnel is created and nothing else has happened: `provision` gives the row the expiry
of the lease. -/
structure FreshTunnel (base : Time) (desk : ExtensionDesk) : Prop where
  row : desk.row = some base
  lease : desk.lease = some base
  stages : ∀ w, desk.stages w = .idle
  additions : desk.additions = []
  reported : ∀ serial, desk.reported serial = false
  endings : desk.endings = []
  reapings : desk.reapings = []

/-- The seconds of the requests that were answered with success. -/
def deliveredSeconds : List Ending → Nat
  | [] => 0
  | ending :: rest => match ending.answer with
      | .extended _ _ _ => ending.hours * 3600 + deliveredSeconds rest
      | .error => deliveredSeconds rest

/-- Every settled request that is answered has its hours or its refund: the hours of all
successes are in the lease and in the row together, no sweep has revoked the lease before they
were over, no success was reported without row and lease. -/
structure ExtensionsPaidFor (config : ExtensionConfig) (base : Time) (desk : ExtensionDesk) :
    Prop where
  lease : ∀ expiresAt, desk.lease = some expiresAt →
    base + deliveredSeconds desk.endings ≤ expiresAt
  row : ∀ expiresAt, desk.row = some expiresAt →
    base + deliveredSeconds desk.endings ≤ expiresAt
  reapings : ∀ time ∈ desk.reapings,
    base + deliveredSeconds desk.endings + config.grace < time
  present : ∀ ending ∈ desk.endings, ∀ serial row lease,
    ending.answer = .extended serial row lease → row = true ∧ lease = true
  refunded : ∀ ending ∈ desk.endings, ∀ tx, ending.answer = .error →
    ending.charge = .settled tx → ⟨tx, amount config ending.hours⟩ ∈ desk.refunds

end HyruleCloud.TunnelExtensions
