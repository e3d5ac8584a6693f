import HyruleCloud.ReadCommitted
import HyruleCloud.Protocol
import HyruleCloud.Store
import Mathlib.Algebra.BigOperators.Group.Finset.Piecewise

/-!
The quota of the administrators' payment waivers, middleware/x402.py. A call stops at each
of its statements; every call reads its own clock, in seconds. The row of a window is its
count. A transaction hash is the serial of its draw.
-/

namespace HyruleCloud.AdminWaivers

open Interaction ReadCommitted

inductive OperationClass where
  | realCost | diagnostic
  deriving DecidableEq

/-- `AdminBypassContext` -/
structure BypassContext where
  accountId : AccountId
  operationClass : OperationClass
  deriving DecidableEq

/-- The columns of `uq_admin_bypass_usage_window`. -/
structure UsageKey where
  actorAccountId : AccountId
  operationClass : OperationClass
  windowStartedAt : Nat
  deriving DecidableEq

inductive Dialect where
  | upserts | rowLocks

structure WaiverConfig where
  adminCostLimit : Nat
  adminDiagnosticLimit : Nat
  dialect : Dialect

structure Waiver where
  txHash : Nat
  key : UsageKey

/-- An `admin_bypass` row of the ledger. -/
structure AuditRow where
  txHash : Nat
  actorAccountId : AccountId
  operationClass : OperationClass
  deriving DecidableEq

structure WaiverError where
  status : Nat
  detail : String

/-- Where a call of `_apply_admin_bypass` stands, after the statement of its name. -/
inductive Stage where
  | idle
  | entered (context : BypassContext)
  | live (context : BypassContext)
  | begun (key : UsageKey) (cutoff : Nat)
  | pruned (key : UsageKey)
  | absent (key : UsageKey)
  | locked (key : UsageKey) (count : Nat)
  | counted (key : UsageKey) (consumed : Bool)
  | consumed (key : UsageKey)
  | unaudited (key : UsageKey)
  | uncounted (key : UsageKey)

/-- `entered` are the processes that have made a call, `pruned` the windows whose row a
prune has deleted, and `horizon` is the latest of the cutoffs up to which rows were pruned. -/
structure WaiverDesk where
  usage : LockedTable ProcessId UsageKey Nat
  audits : List AuditRow
  stages : ProcessId → Stage
  drawn : Nat
  waivers : List Waiver
  errors : List WaiverError
  entered : Finset ProcessId
  pruned : UsageKey → Bool
  horizon : Nat

namespace WaiverDesk

variable (desk : WaiverDesk)

def goOn (w : ProcessId) (stage : Stage) : WaiverDesk :=
  { desk with stages := Function.update desk.stages w stage }

/-- The exception ends the call, and its transaction if one is open. -/
def fail (w : ProcessId) (error : WaiverError) : WaiverDesk :=
  { desk.goOn w .idle with
    usage := desk.usage.rollback w
    errors := error :: desk.errors }

def set (w : ProcessId) (key : UsageKey) (count : Nat) : WaiverDesk :=
  { desk with usage := desk.usage.write w [key] fun _ => some count }

def commit (w : ProcessId) : WaiverDesk :=
  { desk with
    usage := desk.usage.commit w
    pruned := fun key => desk.pruned key || desk.usage.drafts key = some (w, none) }

end WaiverDesk

def serverError : WaiverError := ⟨500, "Internal Server Error"⟩

/-- `_ADMIN_BYPASS_RETENTION` -/
def retention : Nat := 2 * 24 * 3600

def OperationClass.windowStart (operationClass : OperationClass) (now : Nat) : Nat :=
  match operationClass with
  | .realCost => now - now % 3600
  | .diagnostic => now - now % 60

def WaiverConfig.limit (config : WaiverConfig) (operationClass : OperationClass) : Nat :=
  match operationClass with
  | .realCost => config.adminCostLimit
  | .diagnostic => config.adminDiagnosticLimit

def OperationClass.name (operationClass : OperationClass) : String :=
  match operationClass with
  | .realCost => "real_cost"
  | .diagnostic => "diagnostic"

/-! `_consume_admin_quota` -/

def beginConsume (w : ProcessId) (context : BypassContext) (now : Nat) (desk : WaiverDesk) :
    WaiverDesk :=
  let window := context.operationClass.windowStart now
  desk.goOn w (.begun ⟨context.accountId, context.operationClass, window⟩ (now - retention))

def prune (w : ProcessId) (key : UsageKey) (cutoff : Nat) (desk : WaiverDesk) : WaiverDesk :=
  let old := desk.usage.keys.filter fun row =>
    row.windowStartedAt < cutoff && (desk.usage.view w row).isSome
  if desk.usage.waits w old then desk
  else { desk with
    usage := desk.usage.write w old fun _ => none
    horizon := max desk.horizon cutoff }.goOn w (.pruned key)

def upsertCount (config : WaiverConfig) (w : ProcessId) (key : UsageKey) (desk : WaiverDesk) :
    WaiverDesk :=
  if desk.usage.waits w [key] then desk
  else match desk.usage.view w key with
    | none => (desk.set w key 1).goOn w (.counted key true)
    | some count =>
      if count < config.limit key.operationClass then
        (desk.set w key (count + 1)).goOn w (.counted key true)
      else desk.goOn w (.counted key false)

def lockCount (w : ProcessId) (key : UsageKey) (desk : WaiverDesk) : WaiverDesk :=
  if desk.usage.waits w [key] then desk
  else match desk.usage.view w key with
    | none => desk.goOn w (.absent key)
    | some count => (desk.set w key count).goOn w (.locked key count)

def insertCount (w : ProcessId) (key : UsageKey) (desk : WaiverDesk) : WaiverDesk :=
  if desk.usage.waits w [key] then desk
  else match desk.usage.view w key with
    | none => (desk.set w key 1).goOn w (.counted key true)
    | some _ => desk.fail w serverError

def updateCount (config : WaiverConfig) (w : ProcessId) (key : UsageKey) (count : Nat)
    (desk : WaiverDesk) : WaiverDesk :=
  if count < config.limit key.operationClass then
    (desk.set w key (count + 1)).goOn w (.counted key true)
  else desk.goOn w (.counted key false)

def commitConsume (w : ProcessId) (key : UsageKey) (consumed : Bool) (fate : Fate)
    (desk : WaiverDesk) : WaiverDesk :=
  match fate with
  | .failed => desk.fail w serverError
  | .lost => (desk.commit w).fail w serverError
  | .done =>
    if consumed then (desk.commit w).goOn w (.consumed key)
    else (desk.commit w).fail w
      ⟨429, s!"Admin {key.operationClass.name} waiver limit reached"⟩

/-! `_record_required`, `_restore_admin_quota_after_failure` -/

/-- `timedOut saved`: the bounded wait ends, whether the row has been saved or not. -/
inductive AuditOutcome where
  | saved | failed
  | timedOut (saved : Bool)

def recordRequired (w : ProcessId) (key : UsageKey) (outcome : AuditOutcome) (desk : WaiverDesk) :
    WaiverDesk :=
  let txHash := desk.drawn
  let row : AuditRow := ⟨txHash, key.actorAccountId, key.operationClass⟩
  let drawn := { desk with drawn := desk.drawn + 1 }
  match outcome with
  | .saved => { drawn with
      audits := row :: desk.audits
      waivers := ⟨txHash, key⟩ :: desk.waivers }.goOn w .idle
  | .timedOut true => { drawn with audits := row :: desk.audits }.goOn w (.unaudited key)
  | .failed | .timedOut false => drawn.goOn w (.unaudited key)

def restoreCount (w : ProcessId) (key : UsageKey) (desk : WaiverDesk) : WaiverDesk :=
  if desk.usage.waits w [key] then desk
  else match desk.usage.view w key with
    | some (count + 1) => (desk.set w key count).goOn w (.uncounted key)
    | _ => desk.goOn w (.uncounted key)

/-- Whatever becomes of the restoration, the call fails as the audit has. -/
def commitRestore (w : ProcessId) (fate : Fate) (desk : WaiverDesk) : WaiverDesk :=
  let ended := match fate with
    | .failed => desk
    | .done | .lost => desk.commit w
  ended.fail w ⟨503, "Admin waiver audit unavailable"⟩

inductive WaiverStep where
  | enter (w : ProcessId) (context : BypassContext)
  | recheck (w : ProcessId) (live : Option BypassContext)
  | begin (w : ProcessId) (now : Nat)
  | prune (w : ProcessId)
  | count (w : ProcessId)
  | commit (w : ProcessId) (fate : Fate)
  | audit (w : ProcessId) (outcome : AuditOutcome)
  | restore (w : ProcessId)
  | crash (w : ProcessId)

def waiverStep (config : WaiverConfig) (step : WaiverStep) (desk : WaiverDesk) : WaiverDesk :=
  match step with
  | .enter w context => match desk.stages w with
      | .idle => { desk with entered := insert w desk.entered }.goOn w (.entered context)
      | _ => desk
  -- `_admin_context` reads the session and the account again
  | .recheck w live => match desk.stages w with
      | .entered context =>
        if live = some context then desk.goOn w (.live context)
        else desk.fail w ⟨403, "Admin waiver authorization expired"⟩
      | _ => desk
  | .begin w now => match desk.stages w with
      | .live context => beginConsume w context now desk
      | _ => desk
  | .prune w => match desk.stages w with
      | .begun key cutoff => prune w key cutoff desk
      | _ => desk
  | .count w => match desk.stages w with
      | .pruned key => match config.dialect with
          | .upserts => upsertCount config w key desk
          | .rowLocks => lockCount w key desk
      | .absent key => insertCount w key desk
      | .locked key count => updateCount config w key count desk
      | _ => desk
  | .commit w fate => match desk.stages w with
      | .counted key consumed => commitConsume w key consumed fate desk
      | .uncounted _ => commitRestore w fate desk
      | _ => desk
  | .audit w outcome => match desk.stages w with
      | .consumed key => recordRequired w key outcome desk
      | _ => desk
  | .restore w => match desk.stages w with
      | .unaudited key => restoreCount w key desk
      | _ => desk
  -- the process ends, or the request is cancelled
  | .crash w => { desk with usage := desk.usage.rollback w }.goOn w .idle

def adminWaivers (config : WaiverConfig) : Protocol WaiverDesk WaiverStep where
  step := waiverStep config
  may _ _ := True

/-- The window that a call has consumed, and not yet restored or used. -/
def Stage.holds : Stage → Option UsageKey
  | .consumed key | .unaudited key | .uncounted key => some key
  | _ => none

def Stage.window : Stage → Option UsageKey
  | .begun key _ | .pruned key | .absent key | .locked key _ | .counted key _ => some key
  | .consumed key | .unaudited key | .uncounted key => some key
  | _ => none

namespace WaiverDesk

variable (desk : WaiverDesk)

def stored (key : UsageKey) : Nat := (desk.usage.committed key).getD 0

def granted (key : UsageKey) : Nat := desk.waivers.countP (·.key = key)

/-- The calls that are between the consumption and the restoration. -/
def pending (key : UsageKey) : Nat :=
  (desk.entered.filter fun w => (desk.stages w).holds = some key).card

end WaiverDesk

def Waiver.audit (waiver : Waiver) : AuditRow :=
  ⟨waiver.txHash, waiver.key.actorAccountId, waiver.key.operationClass⟩

/-- The count of a window is that of its waivers and of its pending calls; nobody works in
a window whose row has been pruned; the audit rows are those of the waivers, one for each. -/
structure QuotaKept (config : WaiverConfig) (desk : WaiverDesk) : Prop where
  counted : ∀ key, desk.pruned key = false →
    desk.stored key = desk.granted key + desk.pending key
  limited : ∀ key, desk.stored key ≤ config.limit key.operationClass
  unpruned : ∀ w key, (desk.stages w).window = some key → desk.pruned key = false
  audited : desk.audits.Perm (desk.waivers.map Waiver.audit)
  apart : (desk.audits.map (·.txHash)).Nodup

structure WaiverStart (config : WaiverConfig) (desk : WaiverDesk) : Prop where
  stages : ∀ w, desk.stages w = .idle
  drafts : ∀ key, desk.usage.drafts key = none
  counts : ∀ key, desk.stored key = desk.granted key
  limited : ∀ key, desk.stored key ≤ config.limit key.operationClass
  audits : desk.audits = desk.waivers.map Waiver.audit
  apart : (desk.audits.map (·.txHash)).Nodup
  drawn : ∀ row ∈ desk.audits, row.txHash < desk.drawn
  pruned : ∀ key, desk.pruned key = false
  horizon : desk.horizon = 0

end HyruleCloud.AdminWaivers
