import HyruleCloud.VmExpiry

/-!
Who may start, keep and delete the guest of one VM. The columns that `VmExpiry` has are
joined by what the other actors write: `reconcile_transfer_resume` of orchestrator.py,
admin_operations.py for a disabled account, the actions of api/admin.py, the claim and
the detachment of api/auth.py, and the restore of vm_retention.py. Every locked part is
one step. The verifier of retained guests writes columns that nobody else reads.
-/

namespace HyruleCloud.Lifecycle

open Interaction Expiry Function

abbrev OperationId := Nat

/-- The handoff of `_TRANSFER_RESUME_KEY`. -/
structure TransferHandoff where
  owner : AccountId
  xcpngUuid : Option Nat

/-- The columns of a retention row that decide about its restore. -/
structure Evidence where
  owner : VmOwner
  restore : Option OperationId

inductive RestoreState where
  | pending | authorized | completed
  deriving DecidableEq

/-- A row of `vm_restores`; `previousExpiry` is of its snapshot. -/
structure VmRestore where
  id : OperationId
  actor : AccountId
  days : Nat
  reason : String
  previousExpiry : Time
  newExpiry : Time
  state : RestoreState

/-- Who calls `start_vm` to resume a guest. -/
inductive Resumer where
  | extension | transfer | account
  deriving DecidableEq

/-- A call of `start_vm` and the row that was locked for it. -/
structure GuestStart where
  caller : Resumer
  ownerEnabled : Bool
  vm : ExpiringVm
  kept : Bool
  deriving DecidableEq

/-- A call of `xcpng.destroy_vm` and the retention row at that time. -/
structure GuestErasure where
  xcpngUuid : Nat
  retention : Option VmRetention

/-- `evidence` belongs to the retention row, when there is one. `owed` is a paid extension
of a VM suspended for its expiry, until that VM has run and stopped again; `kept` is a
retention since which no administrator has started the guest. -/
structure LifecycleDesk extends ExpiryDesk where
  accounts : AccountId → Option Bool
  transfer : Option TransferHandoff
  evidence : Evidence
  restores : List VmRestore
  usedElsewhere : OperationId → Bool
  owed : Bool
  kept : Bool
  starts : List GuestStart
  erasures : List GuestErasure

def isRunning (vm : ExpiringVm) : Bool :=
  vm.status = .ready || vm.status = .running

def isPast (expiresAt : Option Time) (now : Time) : Bool :=
  match expiresAt with
  | none => false
  | some expiry => decide (expiry ≤ now)

/-- `vm_owner_enabled` -/
def vmOwnerEnabled (accounts : AccountId → Option Bool) (vm : ExpiringVm) : Bool :=
  match vm.owner.1 with
  | none => true
  | some account => accounts account = some true

def turnsOff (power : PowerState) (stops : Bool) : Bool :=
  power = .halted || (power = .running && stops)

/-- What an actor decides under the lock: a resume that calls `start_vm`, and the row that
is then committed. -/
structure Decision where
  starts : Option Resumer := none
  row : Option (ExpiringVm × Option TransferHandoff) := none

def withPower (caller : Resumer) (power : PowerState) (starts : Bool)
    (row : ExpiringVm × Option TransferHandoff) : Decision :=
  match power with
  | .running => { row := some row }
  | .halted => { starts := some caller, row := if starts then some row else none }
  | .other | .unreachable => {}

/-- `_reconcile_extension_resume_locked` -/
def resumeExtension (enabled : Bool) (power : PowerState) (starts : Bool) (vm : ExpiringVm)
    (transfer : Option TransferHandoff) : Decision :=
  match vm.resume with
  | none => {}
  | some handoff =>
    if vm.status ≠ .suspended ∨ vm.deletionStartedAt.isSome ∨
        vm.xcpngUuid ≠ some handoff.xcpngUuid ∨ vm.owner ≠ handoff.owner ∨
        isRestricted vm.suspension then
      { row := some ({ vm with resume := none }, transfer) }
    else if !enabled then {}
    else withPower .extension power starts
      ({ vm with status := .running, suspension := none, resume := none }, transfer)

/-- `reconcile_transfer_resume` -/
def resumeTransfer (accounts : AccountId → Option Bool) (now : Time) (power : PowerState)
    (starts : Bool) (vm : ExpiringVm) (transfer : Option TransferHandoff) : Decision :=
  match vm.owner.1, transfer with
  | none, _ => {}
  | _, none => {}
  | some account, some handoff =>
    if account ≠ handoff.owner then { row := some (vm, none) }
    else if accounts account ≠ some true then {}
    else if vm.deletionStartedAt.isSome then { row := some (vm, none) }
    else if isPast vm.expiresAt now then
      { row := some ({ vm with suspension := some .expired }, none) }
    else if vm.status = .destroyed ∨ vm.status = .failed then
      { row := some ({ vm with suspension := none }, none) }
    else if (vm.status = .provisioning ∨ vm.status = .suspended) ∧ vm.xcpngUuid.isSome then
      withPower .transfer power starts ({ vm with
        status := if vm.status = .provisioning then .provisioning else .running
        suspension := none }, none)
    else if vm.status = .suspended then
      { row := some ({ vm with status := .provisioning, suspension := none }, none) }
    else { row := some ({ vm with suspension := none }, none) }

/-- `resume_account_resources`, for one VM of the account. -/
def resumeAccount (now : Time) (power : PowerState) (starts : Bool) (vm : ExpiringVm)
    (transfer : Option TransferHandoff) : Decision :=
  if vm.suspension ≠ some .accountDisabled then {}
  else if vm.status = .destroyed ∨ vm.status = .failed then
    { row := some ({ vm with suspension := none }, transfer) }
  else if isPast vm.expiresAt now then
    { row := some ({ vm with suspension := some .expired }, transfer) }
  else if vm.status = .provisioning then
    match vm.xcpngUuid with
    | some _ => withPower .account power starts ({ vm with suspension := none }, transfer)
    | none => { row := some ({ vm with suspension := none }, transfer) }
  else match vm.xcpngUuid with
    | some _ => withPower .account power starts
        ({ vm with status := .running, suspension := none }, transfer)
    | none => { row := some ({ vm with status := .provisioning, suspension := none }, transfer) }

/-- `suspend_account_resources`, for one VM of the account. -/
def suspendAccount (power : PowerState) (stops : Bool) (vm : ExpiringVm) : Option ExpiringVm :=
  if vm.status = .destroyed then none
  else if vm.status = .failed ∧ vm.xcpngUuid = none then none
  else if vm.xcpngUuid.isSome && !turnsOff power stops then none
  -- an administrator's stop and an expiry are kept
  else if vm.status = .suspended ∧
      (vm.suspension = some .manualAdmin ∨ vm.suspension = some .expired) then none
  else some { vm with
    status := if vm.status = .provisioning ∨ vm.status = .failed then vm.status else .suspended
    suspension := some .accountDisabled }

inductive PowerAction where
  | start | reboot | shutdown | suspend
  deriving DecidableEq

/-- `vm_action`; `works` iff the provider does what it is asked for. -/
def vmAction (action : PowerAction) (enabled : Bool) (now : Time) (power : PowerState)
    (works : Bool) (vm : ExpiringVm) : Option ExpiringVm :=
  let powersOn := action = .start ∨ action = .reboot
  if powersOn ∧ !enabled then none
  else if vm.deletionStartedAt.isSome ∨ vm.status = .destroyed then none
  else if powersOn ∧ vm.status = .failed then none
  else if vm.status = .provisioning then none
  else if action = .start ∧ isPast vm.expiresAt now then none
  else if powersOn ∧ vm.suspension = some .accountDisabled then none
  else if vm.xcpngUuid = none then none
  else match action with
    | .start =>
      if power = .running ∨ (power = .halted ∧ works) then
        some { vm with status := .running, suspension := none }
      else none
    | .reboot => if works then some vm else none
    | .shutdown | .suspend =>
      if turnsOff power works then some { vm with
        status := if vm.status = .failed then .failed else .suspended
        suspension := if vm.suspension = some .accountDisabled then vm.suspension
          else some .manualAdmin }
      else none

/-- `extend_vm_expiry` -/
def extendVmExpiry (days : Nat) (now : Time) (vm : ExpiringVm) : Option ExpiringVm :=
  match vm.expiresAt with
  | none => none
  | some expiry =>
    if vm.deletionStartedAt.isSome || hasEnded vm.status then none
    else some { vm with expiresAt := some (max expiry now + days * 86400) }

/-- `transfer_vm`, and `transfer_domain` for the VM that the domain is attached to. -/
def transferVm (target : AccountId) (wallet : Option Wallet) (vm : ExpiringVm)
    (transfer : Option TransferHandoff) : Option (ExpiringVm × Option TransferHandoff) :=
  if vm.deletionStartedAt.isSome ∨ vm.status = .destroyed then none
  else if vm.resume.isSome then none
  else if vm.status = .provisioning then none
  else
    let owned := { vm with owner := (some target, wallet) }
    if vm.suspension = some .accountDisabled then
      if vm.status = .failed then some ({ owned with suspension := none }, transfer)
      else some (owned, some ⟨target, vm.xcpngUuid⟩)
    else some (owned, transfer)

/-- `claim_vm`, for a caller who has proven the VM to be his. -/
def claimVm (account : AccountId) (retained : Bool) (vm : ExpiringVm) : Option ExpiringVm :=
  if vm.owner.1.isSome then none
  else if vm.deletionStartedAt.isSome ∨ vm.status = .destroyed ∨ retained then none
  else some { vm with owner := (some account, vm.owner.2) }

/-- `_delete_account_resources` with the policy `detach`. -/
def detachVm (retained : Bool) (vm : ExpiringVm) : Option ExpiringVm :=
  if retained then none
  -- a destroyed VM is not looked at, and the database clears its owner
  else if vm.status ≠ .destroyed ∧ (vm.suspension = some .accountDisabled ∨ vm.resume.isSome) then
    none
  else some { vm with owner := (none, vm.owner.2) }

/-- The last locked part of `_provision_vm_owned`. -/
def deliverVm (uuid : Nat) (power : PowerState) (stops : Bool) (vm : ExpiringVm) :
    Option ExpiringVm :=
  if vm.deletionStartedAt.isSome then none
  else if vm.status ≠ .provisioning ∧ ¬(isRestricted vm.suspension ∧ vm.status = .suspended) then
    none
  else if vm.xcpngUuid ≠ some uuid then none
  else if vm.suspension.isSome then
    if turnsOff power stops then some { vm with status := .suspended } else none
  else some { vm with status := .ready }

def failVm (power : PowerState) (stops : Bool) (vm : ExpiringVm) : Option ExpiringVm :=
  if vm.status ≠ .provisioning then none
  else if vm.xcpngUuid.isSome && !turnsOff power stops then none
  else some { vm with status := .failed }

/-- `blank` iff nothing is left of the reason when it is stripped. -/
structure RestoreRequest where
  id : OperationId
  actor : AccountId
  days : Nat
  reason : String
  blank : Bool

def findRestore (id : OperationId) (desk : LifecycleDesk) : Option VmRestore :=
  desk.restores.find? fun restore => restore.id = id

def writeRestore (id : OperationId) (state : RestoreState) (restores : List VmRestore) :
    List VmRestore :=
  restores.map fun restore => if restore.id = id then { restore with state := state } else restore

/-- The guest and the owner are still those of the retention row. -/
def isEvident (evidence : Evidence) (record : VmRetention) (vm : ExpiringVm) : Bool :=
  vm.deletionStartedAt.isSome && vm.xcpngUuid = some record.sourceVmUuid &&
    vm.owner = evidence.owner

/-- `prepare_restore` -/
def prepareRestore (request : RestoreRequest) : Transaction LifecycleDesk Unit := fun desk =>
  match findRestore request.id desk, desk.vm, desk.retention with
  | some restore, _, _ =>
    if restore.days = request.days ∧ restore.reason = request.reason then .ok (desk, ())
    else .error (.value "Restore operation ID was already used for another request")
  | none, some vm, some record =>
    if desk.usedElsewhere request.id then
      .error (.value "Restore operation ID was already used for another request")
    else match vm.expiresAt with
      | none => .error (.value "VM is not eligible for retained recovery")
      | some expiry =>
        if record.state ≠ .retained ∨ desk.evidence.restore.isSome ∨
            !isEvident desk.evidence record vm ∨
            ¬(1 ≤ request.days ∧ request.days ≤ 365) ∨ request.blank then
          .error (.value "VM is not eligible for retained recovery")
        else .ok ({ desk with
          retention := some { record with state := .restoring }
          evidence := { desk.evidence with restore := some request.id }
          restores := ⟨request.id, request.actor, request.days, request.reason, expiry,
            max expiry desk.now + request.days * 86400, .pending⟩ :: desk.restores }, ())
  | none, _, _ => .error (.value "VM is not eligible for retained recovery")

/-- `authorize_restore` -/
def authorizeRestore (restore : VmRestore) (vm : ExpiringVm) : Transaction LifecycleDesk Unit :=
  fun desk =>
    if vm.expiresAt ≠ some restore.previousExpiry ∨ restore.newExpiry ≤ desk.now then
      .error (.value "Recovery identity or authorization deadline changed")
    else .ok ({ desk with
      vm := some { vm with
        expiresAt := some restore.newExpiry
        suspension := some .manualAdmin }
      restores := writeRestore restore.id .authorized desk.restores }, ())

/-- `complete_restore` -/
def completeRestore (restore : VmRestore) (vm : ExpiringVm) : Transaction LifecycleDesk Unit :=
  fun desk => .ok ({ desk with
    vm := some { vm with
      expiresAt := some restore.newExpiry
      deletionStartedAt := none
      suspension := some .manualAdmin }
    retention := none
    restores := writeRestore restore.id .completed desk.restores }, ())

/-- One locked round of `restore_retained_vm`, for an operation that it has found;
`restores` iff the provider restores the settings of the guest. -/
def continueRestore (restore : VmRestore) (finalize restores : Bool) (vm : ExpiringVm)
    (record : VmRetention) : Transaction LifecycleDesk Unit := fun desk =>
  if record.state ≠ .restoring ∨ desk.evidence.restore ≠ some restore.id ∨
      !isEvident desk.evidence record vm ∨ vm.status ≠ .suspended then .error (.http 409)
  else if !vmOwnerEnabled desk.accounts vm ∨
      (vm.owner.1 = none ∧ vm.suspension = some .accountDisabled) then .error (.http 409)
  else if restore.state = .pending then authorizeRestore restore vm desk
  else if restore.newExpiry ≤ desk.now ∨ vm.expiresAt ≠ some restore.newExpiry then
    .error (.http 409)
  else if !finalize then .ok (desk, ())
  else if !restores then .error (.http 503)
  else completeRestore restore vm desk

def visitRestore (id : OperationId) (finalize restores : Bool) : Transaction LifecycleDesk Unit :=
  fun desk => match findRestore id desk with
  | none => .error (.http 409)
  | some restore =>
    if restore.state = .completed then .ok (desk, ())
    else match desk.vm, desk.retention with
      | some vm, some record => continueRestore restore finalize restores vm record desk
      | _, _ => .error (.http 409)

/-- Those who lock the row of the VM, decide about it and commit. -/
inductive Actor where
  | suspendResources (account : AccountId) (power : PowerState) (stops : Bool)
  | resumeResources (account : AccountId) (power : PowerState) (starts : Bool)
  | resumeExtension (power : PowerState) (starts : Bool)
  | resumeTransfer (power : PowerState) (starts : Bool)
  | power (action : PowerAction) (power : PowerState) (works : Bool)
  | grant (days : Nat)
  | transfer (target : AccountId) (wallet : Option Wallet)
  | claim (account : AccountId)
  | guest (uuid : Nat)
  | deliver (uuid : Nat) (power : PowerState) (stops : Bool)
  | fail (power : PowerState) (stops : Bool)

inductive LifecycleStep where
  | expiry (step : ExpiryStep)
  | erase (w : ProcessId)
  | register (account : AccountId)
  | account (account : AccountId) (enabled : Bool)
  | close (account : AccountId) (fate : Fate)
  | actor (actor : Actor) (fate : Fate)
  | restore (request : RestoreRequest) (fate : Fate)
  | visit (id : OperationId) (finalize restores : Bool) (fate : Fate)
  | elsewhere (id : OperationId)

/-- The steps of `VmExpiry` that are taken here: its accounts, its resume and what it
leaves to others have steps of their own. -/
def isOwnStep : ExpiryStep → Bool
  | .account _ | .elsewhere _ | .resume _ _ _ => false
  | _ => true

/-- The columns of `VmExpiry`, with the owner's account looked up. -/
def expiryDesk (desk : LifecycleDesk) : ExpiryDesk :=
  { desk.toExpiryDesk with
    ownerEnabled := match desk.vm with
      | none => false
      | some vm => vmOwnerEnabled desk.accounts vm }

def noteRetention (before : LifecycleDesk) (desk : LifecycleDesk) : LifecycleDesk :=
  match before.retention, desk.retention, desk.vm with
  | none, some _, some vm => { desk with evidence := ⟨vm.owner, none⟩, kept := true }
  | _, _, _ => desk

def commitRow (row : ExpiringVm × Option TransferHandoff) : Transaction LifecycleDesk Unit :=
  fun desk => .ok ({ desk with vm := some row.1, transfer := row.2 }, ())

def closeAccount (account : AccountId) : Transaction LifecycleDesk Unit := fun desk =>
  let closed := { desk with accounts := update desk.accounts account none }
  match desk.vm with
  | none => .ok (closed, ())
  | some vm =>
    if vm.owner.1 ≠ some account then .ok (closed, ())
    else match detachVm desk.retention.isSome vm with
      | none => .error (.http 409)
      | some detached => .ok ({ closed with vm := some detached }, ())

def decideRow (actor : Actor) (vm : ExpiringVm) (desk : LifecycleDesk) : Decision :=
  let enabled := vmOwnerEnabled desk.accounts vm
  let writes (row : Option ExpiringVm) : Decision :=
    { row := row.map fun vm => (vm, desk.transfer) }
  match actor with
  | .suspendResources account power stops =>
    if desk.accounts account = some false ∧ vm.owner.1 = some account then
      writes (suspendAccount power stops vm)
    else {}
  | .resumeResources account power starts =>
    if desk.accounts account = some true ∧ vm.owner.1 = some account then
      resumeAccount desk.now power starts vm desk.transfer
    else {}
  | .resumeExtension power starts => resumeExtension enabled power starts vm desk.transfer
  | .resumeTransfer power starts =>
    resumeTransfer desk.accounts desk.now power starts vm desk.transfer
  | .power action power works => writes (vmAction action enabled desk.now power works vm)
  | .grant days => writes (extendVmExpiry days desk.now vm)
  | .transfer target wallet =>
    if desk.accounts target = some true then
      { row := transferVm target wallet vm desk.transfer }
    else {}
  | .claim account =>
    if desk.accounts account = some true then
      writes (claimVm account desk.retention.isSome vm)
    else {}
  | .guest uuid =>
    if vm.xcpngUuid = none ∨ vm.xcpngUuid = some uuid then
      writes (some { vm with xcpngUuid := some uuid })
    else {}
  | .deliver uuid power stops => writes (deliverVm uuid power stops vm)
  | .fail power stops => writes (failVm power stops vm)

/-- The calls of `start_vm` are noted before the commit: a resume's, and a start by an
administrator. -/
def noteStart (actor : Actor) (vm : ExpiringVm) (decision : Decision) (desk : LifecycleDesk) :
    LifecycleDesk :=
  { desk with
    starts := match decision.starts with
      | none => desk.starts
      | some caller => ⟨caller, vmOwnerEnabled desk.accounts vm, vm, desk.kept⟩ :: desk.starts
    kept := match actor with
      | .power .start _ _ => desk.kept && decision.row.isNone
      | _ => desk.kept }

def actOn (actor : Actor) (fate : Fate) (vm : ExpiringVm) (desk : LifecycleDesk) :
    LifecycleDesk :=
  let decision := decideRow actor vm desk
  let noted := noteStart actor vm decision desk
  match decision.row with
  | none => noted
  | some row => (transact (commitRow row) fate noted).1

def act (config : ExpiryConfig) (step : LifecycleStep) (desk : LifecycleDesk) : LifecycleDesk :=
  match step with
  | .expiry step =>
    if isOwnStep step then noteRetention desk { desk with
      toExpiryDesk := expiryStep config step (expiryDesk desk) }
    else desk
  -- also allowed again, for a guest that is known to be gone
  | .erase w => match desk.deletions w with
      | none => desk
      | some deletion => match deletion.xcpngUuid, deletion.manifest with
          | some uuid, none =>
            { desk with erasures := ⟨uuid, desk.retention⟩ :: desk.erasures }
          | _, _ => desk
  | .register account =>
    if desk.accounts account = none then
      { desk with accounts := update desk.accounts account (some true) }
    else desk
  | .account account enabled =>
    if (desk.accounts account).isSome then
      { desk with accounts := update desk.accounts account (some enabled) }
    else desk
  | .close account fate =>
    if desk.accounts account = some true then (transact (closeAccount account) fate desk).1
    else desk
  | .restore request fate => (transact (prepareRestore request) fate desk).1
  | .visit id finalize restores fate => (transact (visitRestore id finalize restores) fate desk).1
  | .elsewhere id =>
    if (findRestore id desk).isSome then desk
    else { desk with usedElsewhere := update desk.usedElsewhere id true }
  | .actor actor fate => match desk.vm with
      | none => desk
      | some vm => actOn actor fate vm desk

/-- A paid extension has been committed while the VM was suspended for its expiry. -/
def hasPaid (before after : LifecycleDesk) : Bool :=
  before.receipts.length < after.receipts.length &&
    (match after.vm with
      | none => false
      | some vm => vm.status = .suspended && vm.suspension = some .expired)

def hasStopped (before after : LifecycleDesk) : Bool :=
  (match before.vm with
    | none => false
    | some vm => isRunning vm) &&
  (match after.vm with
    | none => false
    | some vm => !isRunning vm)

def noteOwed (before after : LifecycleDesk) : LifecycleDesk :=
  { after with owed := (before.owed && !hasStopped before after) || hasPaid before after }

def lifecycleStep (config : ExpiryConfig) (step : LifecycleStep) (desk : LifecycleDesk) :
    LifecycleDesk :=
  noteOwed desk (act config step desk)

end HyruleCloud.Lifecycle
