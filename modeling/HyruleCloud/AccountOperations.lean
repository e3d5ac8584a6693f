import HyruleCloud.AdminStops

/-!
The account operations of admin_operations.py: disabling and enabling an account queues an
operation, and workers take the operations from the queue, one VM after the other. The row
of the account is locked from the check of its state to the end of an operation, and every
VM is handled in a transaction of its own.
-/

namespace HyruleCloud.Lifecycle

open Interaction Expiry Function

/-- `suspend_account_resources` and `resume_account_resources` -/
inductive OperationKind where
  | suspend | resume
  deriving DecidableEq

inductive OperationStatus where
  | queued | running | failed | completed
  deriving DecidableEq

structure AdminOperation where
  kind : OperationKind
  status : OperationStatus := .queued
  createdAt : Time
  startedAt : Option Time := none

structure AccountVm where
  desk : LifecycleDesk
  powered : Bool

/-- The provider tells the power state; the call that follows returns, or it takes effect
all the same. -/
structure ProviderAnswer where
  tells : Bool
  returns : Bool
  takes : Bool

/-- A call of `start_vm` by an operation. -/
structure ResumedGuest where
  vm : ExpiringVm
  retention : Option VmRetention
  deriving DecidableEq

inductive WorkerPhase where
  | selected
  | claimed (id : OperationId)
  -- holds the lock of the account
  | working (id : OperationId) (kind : OperationKind) (now : Time) (rest : List VmId)
  | failing (id : OperationId)
  | raised (id : OperationId)

/-- One account, its queue and the VMs `ids`. `independent` is the reason of a VM that others
than the workers have suspended. -/
structure OperationDesk where
  now : Time
  account : AccountId
  enabled : Bool
  operations : List AdminOperation
  ids : List VmId
  vms : VmId → AccountVm
  workers : ProcessId → Option WorkerPhase
  lease : Option ProcessId
  independent : VmId → Option Suspension
  resumed : List ResumedGuest

def wanted (enabled : Bool) : OperationKind :=
  if enabled then .resume else .suspend

def isEligible (now : Time) (operation : AdminOperation) : Bool :=
  match operation.status, operation.startedAt with
  | .queued, _ => true
  | .running, none => true
  | .running, some started => decide (started + 900 < now)
  | _, _ => false

def isFresh (now : Time) (operation : AdminOperation) : Bool :=
  match operation.status, operation.startedAt with
  | .running, some started => decide (now ≤ started + 900)
  | _, _ => false

def precedes (operation other : AdminOperation) : Bool :=
  (operation.status = .running && other.status ≠ .running) ||
    ((operation.status = .running) = (other.status = .running) &&
      operation.createdAt < other.createdAt)

def isNext (id : OperationId) (desk : OperationDesk) : Bool :=
  match desk.operations[id]? with
  | none => false
  | some operation => isEligible desk.now operation &&
      desk.operations.all fun other => !isEligible desk.now other || !precedes other operation

def setStatus (id : OperationId) (status : OperationStatus) (desk : OperationDesk) :
    OperationDesk :=
  { desk with operations := desk.operations.modify id fun operation =>
      { operation with status := status } }

def setPhase (w : ProcessId) (phase : Option WorkerPhase) (desk : OperationDesk) : OperationDesk :=
  { desk with workers := update desk.workers w phase }

def setVm (v : VmId) (vm : AccountVm) (desk : OperationDesk) : OperationDesk :=
  { desk with vms := update desk.vms v vm }

/-- `_supersede_failed_inverse_operations` -/
def supersede (inverse : OperationKind) (operations : List AdminOperation) : List AdminOperation :=
  operations.map fun operation =>
    if operation.kind = inverse ∧ operation.status = .failed then
      { operation with status := .completed }
    else operation

/-- `disable_account` and `enable_account` -/
def requestState (enabled : Bool) : Transaction OperationDesk Unit := fun desk =>
  .ok ({ desk with
    enabled := enabled
    operations := supersede (wanted !enabled) desk.operations ++
      [{ kind := wanted enabled, createdAt := desk.now }] }, ())

/-- `retry_admin_operation` -/
def retryOperation (id : OperationId) : Transaction OperationDesk Unit := fun desk =>
  match desk.operations[id]? with
  | none => .error (.http 404)
  | some operation =>
    if operation.status ≠ .failed then .error (.http 409)
    else if operation.kind ≠ wanted desk.enabled then .error (.http 409)
    else .ok ({ desk with operations := desk.operations.modify id fun operation =>
      { operation with status := .queued, startedAt := none } }, ())

def claimOperation (id : OperationId) : Transaction OperationDesk Unit := fun desk =>
  .ok ({ desk with operations := desk.operations.modify id fun operation =>
    { operation with status := .running, startedAt := some desk.now } }, ())

def finishOperation (id : OperationId) (status : OperationStatus) :
    Transaction OperationDesk Unit := fun desk => .ok (setStatus id status desk, ())

def observe (answer : ProviderAnswer) (vm : AccountVm) : PowerState :=
  if !answer.tells then .unreachable else if vm.powered then .running else .halted

inductive Visit where
  | skips
  | raises
  | commits (row : ExpiringVm × Option TransferHandoff)

def visitVm (kind : OperationKind) (now : Time) (answer : ProviderAnswer) (vm : AccountVm)
    (row : ExpiringVm) : Visit :=
  let power := observe answer vm
  match kind with
  | .suspend =>
    if row.status = .destroyed then .skips
    else if row.xcpngUuid.isSome && !turnsOff power answer.returns then .raises
    else match suspendAccount power answer.returns row with
      | none => .skips
      | some written => .commits (written, vm.desk.transfer)
  | .resume =>
    if row.suspension ≠ some .accountDisabled then .skips
    else match (resumeAccount now power answer.returns row vm.desk.transfer).row with
      | none => .raises
      | some written => .commits written

/-- The operation calls `start_vm`. -/
def startsGuest (kind : OperationKind) (now : Time) (answer : ProviderAnswer) (vm : AccountVm)
    (row : ExpiringVm) : Bool :=
  kind = .resume &&
    (resumeAccount now (observe answer vm) answer.returns row vm.desk.transfer).starts.isSome

def visitedPower (kind : OperationKind) (now : Time) (answer : ProviderAnswer) (vm : AccountVm)
    (row : ExpiringVm) : Bool :=
  match kind with
  | .suspend =>
    if row.status ≠ .destroyed ∧ row.xcpngUuid.isSome ∧ answer.tells then
      vm.powered && !(answer.returns || answer.takes)
    else vm.powered
  | .resume =>
    vm.powered || (startsGuest kind now answer vm row && (answer.returns || answer.takes))

/-- The VM `v` for an operation that goes on with `rest`. -/
def visitStep (w : ProcessId) (id : OperationId) (kind : OperationKind) (now : Time) (v : VmId)
    (rest : List VmId) (answer : ProviderAnswer) (fate : Fate) (desk : OperationDesk) :
    OperationDesk :=
  let goes := setPhase w (some (.working id kind now rest))
  let fails := setPhase w (some (.failing id))
  let vm := desk.vms v
  match vm.desk.vm with
  | none => goes desk
  | some row =>
    if row.owner.1 ≠ some desk.account then goes desk
    else
      let noted := { desk with resumed := if startsGuest kind now answer vm row then
        ⟨row, vm.desk.retention⟩ :: desk.resumed else desk.resumed }
      let left (after : LifecycleDesk) := setVm v
        { desk := after, powered := visitedPower kind now answer vm row } noted
      match visitVm kind now answer vm row with
      | .skips => goes (left vm.desk)
      | .raises => fails (left vm.desk)
      | .commits written => match transact (commitRow written) fate vm.desk with
        | (after, .ok _) => goes (left after)
        | (after, .error _) => fails (left after)

def leaseStep (w : ProcessId) (id : OperationId) (fate : Fate) (desk : OperationDesk) :
    OperationDesk :=
  match desk.lease, desk.operations[id]? with
  | some _, _ => desk
  | none, none => setPhase w (some (.raised id)) desk
  | none, some operation =>
    if operation.kind ≠ wanted desk.enabled then
      -- the other request has won
      match transact (finishOperation id .completed) fate desk with
      | (after, .ok _) => setPhase w none after
      | (after, .error _) => setPhase w (some (.raised id)) after
    else
      let owned := desk.ids.filter fun v => match (desk.vms v).desk.vm with
        | none => false
        | some row => row.owner.1 = some desk.account
      { setPhase w (some (.working id operation.kind desk.now owned)) desk with
        lease := some w }

def finishStep (w : ProcessId) (fate : Fate) (desk : OperationDesk) : OperationDesk :=
  match desk.workers w with
  | some (.working id _ _ []) =>
    match transact (finishOperation id .completed) fate desk with
    | (after, .ok _) => { setPhase w none after with lease := none }
    | (after, .error _) => { setPhase w (some (.raised id)) after with lease := none }
  | some (.failing id) =>
    let after := (transact (finishOperation id .failed) fate desk).1
    { setPhase w (some (.raised id)) after with lease := none }
  | _ => desk

def markStep (w : ProcessId) (id : OperationId) (fate : Fate) (desk : OperationDesk) :
    OperationDesk :=
  match desk.operations[id]? with
  | none => setPhase w none desk
  | some operation =>
    if operation.status = .running then
      setPhase w none (transact (finishOperation id .failed) fate desk).1
    else setPhase w none desk

inductive WorkerStep where
  | select | claim (id : OperationId) (fate : Fate) | lease (fate : Fate)
  | visit (answer : ProviderAnswer) (fate : Fate) | finish (fate : Fate) | mark (fate : Fate)
  | crash

def workerStep (w : ProcessId) (step : WorkerStep) (desk : OperationDesk) : OperationDesk :=
  match step, desk.workers w with
  | .select, none =>
    if desk.operations.any (isEligible desk.now) && !desk.operations.any (isFresh desk.now) then
      setPhase w (some .selected) desk
    else desk
  | .claim id fate, some .selected =>
    if desk.lease.isSome || !isNext id desk then setPhase w none desk
    else match transact (claimOperation id) fate desk with
      | (after, .ok _) => setPhase w (some (.claimed id)) after
      | (after, .error _) => setPhase w none after
  | .lease fate, some (.claimed id) => leaseStep w id fate desk
  | .visit answer fate, some (.working id kind now (v :: rest)) =>
    visitStep w id kind now v rest answer fate desk
  | .finish fate, _ => finishStep w fate desk
  | .mark fate, some (.raised id) => markStep w id fate desk
  | .crash, _ => { setPhase w none desk with
      lease := if desk.lease = some w then none else desk.lease }
  | _, _ => desk

def vmDesk (v : VmId) (desk : OperationDesk) : LifecycleDesk :=
  { (desk.vms v).desk with
    now := desk.now
    accounts := update (desk.vms v).desk.accounts desk.account (some desk.enabled) }

def isOutside : ExpiryStep → Bool
  | .tick _ | .create _ _ => false
  | step => isOwnStep step

def independentReason (vm : Option ExpiringVm) : Option Suspension :=
  match vm with
  | none => none
  | some row =>
    if row.status = .suspended ∧
        (row.suspension = some .manualAdmin ∨ row.suspension = some .expired) then row.suspension
    else none

def leaveVm (v : VmId) (vm : AccountVm) (desk : OperationDesk) : OperationDesk :=
  { setVm v vm desk with
    independent := update desk.independent v (independentReason vm.desk.vm) }

def actedPower (action : PowerAction) (answer : ProviderAnswer) (vm : AccountVm) (reaches : Bool) :
    Bool :=
  let takes := reaches && answer.tells && (answer.returns || answer.takes)
  match action with
  | .start => vm.powered || takes
  | .reboot => vm.powered
  | .shutdown | .suspend => vm.powered && !takes

def reachesProvider (action : PowerAction) (desk : LifecycleDesk) : Bool :=
  match desk.vm with
  | none => false
  | some row => (vmAction action (vmOwnerEnabled desk.accounts row) desk.now .halted true row).isSome

def powerStep (config : ExpiryConfig) (v : VmId) (action : PowerAction) (answer : ProviderAnswer)
    (fate : Fate) (desk : OperationDesk) : OperationDesk :=
  let vm := desk.vms v
  let found := vmDesk v desk
  let actor := Actor.power action (observe answer vm) answer.returns
  leaveVm v
    { desk := act config (.actor actor fate) found
      powered := actedPower action answer vm (reachesProvider action found) } desk

inductive OperationStep where
  | wait (elapsed : Time)
  | request (enabled : Bool) (fate : Fate)
  | retry (id : OperationId) (fate : Fate)
  | worker (w : ProcessId) (step : WorkerStep)
  -- `halts`: the guest is off afterwards
  | outside (v : VmId) (step : ExpiryStep) (halts : Bool)
  | power (v : VmId) (action : PowerAction) (answer : ProviderAnswer) (fate : Fate)

def operationStep (config : ExpiryConfig) (step : OperationStep) (desk : OperationDesk) :
    OperationDesk :=
  match step with
  | .wait elapsed => { desk with now := desk.now + elapsed }
  | .request enabled fate =>
    if desk.lease.isSome then desk else (transact (requestState enabled) fate desk).1
  | .retry id fate => (transact (retryOperation id) fate desk).1
  | .worker w step => workerStep w step desk
  | .outside v step halts =>
    if isOutside step then leaveVm v
      { desk := act config (.expiry step) (vmDesk v desk)
        powered := (desk.vms v).powered && !halts } desk
    else desk
  | .power v action answer fate =>
    if desk.lease.isSome then desk else powerStep config v action answer fate desk

end HyruleCloud.Lifecycle
