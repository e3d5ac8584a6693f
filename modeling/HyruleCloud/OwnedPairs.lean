import HyruleCloud.VmAttachments

/-!
A VM and the domain that names it, under all that gives one of them to another account:
`transfer_vm` and `transfer_domain` of api/admin.py, `claim_vm` of api/auth.py, the end of a
provisioning, bundles, and the attachments of domains/service.py. A transfer is a transaction
of several statements that holds rows. What writes one row under its lock is one step, and it
waits while a transfer holds that row.
-/

namespace HyruleCloud.OwnedPairs

open Interaction Function
open Zones (Text ManagedDomain ZoneDesk Delivery NameserverMode TextRules)

/-- `owner_wallet`; an account without a wallet leaves a marker. -/
inductive OwnerWallet where
  | payer (wallet : Wallet)
  | account (id : AccountId)
  deriving DecidableEq

/-- The columns of `vms` that are read or written here, `extension_resume_pending` and
`transfer_resume_pending` of its metadata among them. -/
structure OwnedVm where
  ownerAccountId : Option AccountId
  ownerWallet : Option OwnerWallet := none
  anonManagementTokenHash : Option Text := none
  status : VMStatus := .provisioning
  deletionStarted : Bool := false
  suspension : Option Suspension := none
  suspendedBy : Option AccountId := none
  xcpngUuid : Option Nat := none
  domain : Option Text := none
  ipv6 : Option Text := none
  extensionResume : Bool := false
  transferResume : Option (AccountId × Option Nat) := none
  deriving DecidableEq

structure DomainHolder where
  ownerWallet : Option OwnerWallet := none
  anonManagementTokenHash : Option Text := none

inductive VmWorkKind where
  | attach | detach
  deriving DecidableEq

/-- A job `attach_vm` or `detach_vm`, under its dedupe key. -/
structure VmJob where
  ownerAccountId : AccountId
  fqdn : Text
  ipv6 : Text := []
  pending : Bool := true

/-- A call of `attach_vm` or `detach_vm`, by a job of the queue or by the orchestrator. -/
structure VmWork where
  kind : VmWorkKind
  byJob : Bool
  ownerAccountId : AccountId
  fqdn : Text
  vm : VmId
  ipv6 : Text := []

/-- What `transfer_domain` has read before it locks. -/
structure DomainCall where
  fqdn : Text
  target : AccountId
  source : Option AccountId
  vm : Option VmId
  vmSource : Option AccountId := none
  wallet : OwnerWallet := .account target

/-- A transfer that holds its rows; `attached` is the VM in its look for pending work. -/
structure PairTransfer where
  target : AccountId
  wallet : OwnerWallet
  vm : Option VmId
  fqdn : Option Text
  attached : Option VmId
  fromDomain : Bool

structure BundleOrder where
  ownerAccountId : AccountId
  fqdn : Text
  vm : VmId
  payer : Wallet
  tokenHash : Text
  fallbackAutoDomain : Bool := false

inductive BundlePhase where
  | claiming | reserving | activating | releasing | unclaiming

def BundleOrder.firstPhase (order : BundleOrder) : BundlePhase :=
  if order.fallbackAutoDomain then .reserving else .claiming

def BundleOrder.domain (order : BundleOrder) : Option Text :=
  if order.fallbackAutoDomain then none else some order.fqdn

inductive Stage where
  | idle
  | answered (result : Except Err Unit)
  | vmSeen (vm : VmId) (target : AccountId) (wallet : OwnerWallet) (source : Option AccountId)
  | vmHeld (vm : VmId) (target : AccountId) (wallet : OwnerWallet)
  | domainFound (vm : VmId) (target : AccountId) (wallet : OwnerWallet) (fqdn : Text)
  | domainSeen (call : DomainCall)
  | ownersSeen (call : DomainCall)
  | bundleSeen (call : DomainCall) (snapshot : Option VmId)
  | bundleVm (call : DomainCall) (snapshot held : Option VmId)
  | holding (transfer : PairTransfer)
  | noOperation (transfer : PairTransfer)
  | clear (transfer : PairTransfer)
  | working (work : VmWork)
  | owned (work : VmWork) (seen : Option ManagedDomain)
  | retrying (work : VmWork)
  | bundling (order : BundleOrder) (phase : BundlePhase)

/-- `operations` and `work` tell of a domain whether an operation or a job of its own is
pending. `formerDomains` and `formerVms` hold from whom the last transfer took a row. -/
structure PairDesk where
  zones : ZoneDesk
  holders : Text → DomainHolder
  vms : Table VmId OwnedVm
  wallets : AccountId → Option Wallet
  retained : VmId → Bool
  operations : Text → Bool
  work : Text → Bool
  jobs : Table (VmWorkKind × VmId) VmJob
  vmLocks : VmId → Option ProcessId
  domainLocks : Text → Option ProcessId
  stages : ProcessId → Stage
  formerDomains : Text → Option (Option AccountId)
  formerVms : VmId → Option (Option AccountId)

namespace PairDesk

variable (desk : PairDesk)

def goOn (w : ProcessId) (stage : Stage) : PairDesk :=
  { desk with stages := update desk.stages w stage }

def free (w : ProcessId) : PairDesk :=
  { desk with
    vmLocks := fun vm => if desk.vmLocks vm = some w then none else desk.vmLocks vm
    domainLocks := fun fqdn =>
      if desk.domainLocks fqdn = some w then none else desk.domainLocks fqdn }

def answer (w : ProcessId) (result : Except Err Unit) : PairDesk :=
  (desk.free w).goOn w (.answered result)

def refuse (w : ProcessId) (status : Nat) : PairDesk := desk.answer w (.error (.http status))

def lockVm (w : ProcessId) (vm : VmId) : PairDesk :=
  { desk with vmLocks := update desk.vmLocks vm (some w) }

def lockDomain (w : ProcessId) (fqdn : Text) : PairDesk :=
  { desk with domainLocks := update desk.domainLocks fqdn (some w) }

def setVm (vm : VmId) (row : OwnedVm) : PairDesk := { desk with vms := desk.vms.put vm row }

/-- The `vm_id` of a domain is this VM. -/
def Names (fqdn : Text) (vm : VmId) : Prop :=
  ∃ domain, desk.zones.domains fqdn = some domain ∧ domain.vmId = some vm

/-! `transfer_vm` and `transfer_domain` -/

/-- `_transfer_wallet_identity` -/
def transferWallet (target : AccountId) : OwnerWallet :=
  match desk.wallets target with
  | some address => .payer address
  | none => .account target

/-- The snapshot of the owner, `_assert_transfer_accounts` and the wallet. -/
def transferVm (w : ProcessId) (vm : VmId) (target : AccountId) : PairDesk :=
  match desk.vms vm with
  | none => desk.refuse w 404
  | some row =>
    if desk.zones.enabled target then
      desk.goOn w (.vmSeen vm target (desk.transferWallet target) row.ownerAccountId)
    else desk.refuse w 409

def isUntransferable (row : OwnedVm) : Bool :=
  row.deletionStarted || row.status = .destroyed || row.extensionResume ||
    row.status = .provisioning

def holdVm (w : ProcessId) (vm : VmId) (target : AccountId) (wallet : OwnerWallet)
    (source : Option AccountId) : PairDesk :=
  if (desk.vmLocks vm).isSome then desk
  else match desk.vms vm with
    | none => desk.refuse w 404
    | some row =>
      if row.ownerAccountId ≠ source || isUntransferable row then desk.refuse w 409
      else (desk.lockVm w vm).goOn w (.vmHeld vm target wallet)

/-- What `scalar_one_or_none` makes of the domains that name a VM. -/
inductive Selected where
  | none
  | one (fqdn : Text)
  | several

def Selects (vm : VmId) : Selected → Prop
  | .none => ∀ fqdn, ¬ desk.Names fqdn vm
  | .one fqdn => desk.Names fqdn vm ∧ ∀ other, desk.Names other vm → other = fqdn
  | .several => ∃ fqdn other, desk.Names fqdn vm ∧ desk.Names other vm ∧ fqdn ≠ other

def selectDomain (w : ProcessId) (vm : VmId) (target : AccountId) (wallet : OwnerWallet) :
    Selected → PairDesk
  | .none => desk.goOn w (.holding ⟨target, wallet, some vm, none, some vm, false⟩)
  | .one fqdn => desk.goOn w (.domainFound vm target wallet fqdn)
  | .several => desk.answer w (.error .database)

/-- The lock on the row that the select has found; its condition is tested again. -/
def holdFound (w : ProcessId) (vm : VmId) (target : AccountId) (wallet : OwnerWallet)
    (fqdn : Text) : PairDesk :=
  if (desk.domainLocks fqdn).isSome then desk
  else if (desk.zones.domains fqdn).any fun domain => domain.vmId = some vm then
    (desk.lockDomain w fqdn).goOn w
      (.holding ⟨target, wallet, some vm, some fqdn, some vm, false⟩)
  else desk.goOn w (.holding ⟨target, wallet, some vm, none, some vm, false⟩)

def transferDomain (w : ProcessId) (fqdn : Text) (target : AccountId) : PairDesk :=
  match desk.zones.domains fqdn with
  | none => desk.refuse w 404
  | some domain => desk.goOn w (.domainSeen
      { fqdn := fqdn, target := target, source := domain.ownerAccountId, vm := domain.vmId })

/-- The owner of the VM, `_assert_transfer_accounts` and the wallet. -/
def seeOwners (w : ProcessId) (call : DomainCall) : PairDesk :=
  if desk.zones.enabled call.target then
    desk.goOn w (.ownersSeen { call with
      vmSource := call.vm.bind fun vm => (desk.vms vm).bind OwnedVm.ownerAccountId
      wallet := desk.transferWallet call.target })
  else desk.refuse w 409

/-! The statements of `_lock_domain_transfer_bundle` -/

def seeBundle (w : ProcessId) (call : DomainCall) : PairDesk :=
  match desk.zones.domains call.fqdn with
  | none => desk.refuse w 404
  | some domain => desk.goOn w (.bundleSeen call domain.vmId)

def holdBundleVm (w : ProcessId) (call : DomainCall) (snapshot : Option VmId) : PairDesk :=
  match snapshot with
  | none => desk.goOn w (.bundleVm call snapshot none)
  | some vm => match desk.vms vm with
      | none => desk.goOn w (.bundleVm call snapshot none)
      | some _ =>
        if (desk.vmLocks vm).isSome then desk
        else (desk.lockVm w vm).goOn w (.bundleVm call snapshot (some vm))

def holdBundle (w : ProcessId) (call : DomainCall) (snapshot held : Option VmId) : PairDesk :=
  if (desk.domainLocks call.fqdn).isSome then desk
  else match desk.zones.domains call.fqdn with
    | none => desk.refuse w 404
    | some domain =>
      let vmOwner := held.bind fun vm => (desk.vms vm).bind OwnedVm.ownerAccountId
      if domain.vmId ≠ snapshot ∨ domain.ownerAccountId ≠ call.source ∨ domain.vmId ≠ call.vm ∨
          (held.isSome ∧ vmOwner ≠ call.vmSource) then desk.refuse w 409
      else (desk.lockDomain w call.fqdn).goOn w
        (.holding ⟨call.target, call.wallet, held, some call.fqdn, domain.vmId, true⟩)

/-! `_pending_domain_work` -/

def pendingOperation (transfer : PairTransfer) : Bool := transfer.fqdn.any desk.operations

def pendingJob (transfer : PairTransfer) : Bool :=
  transfer.fqdn.any desk.work || transfer.attached.any fun vm =>
    (desk.jobs (.attach, vm)).any VmJob.pending || (desk.jobs (.detach, vm)).any VmJob.pending

def seeOperations (w : ProcessId) (transfer : PairTransfer) : PairDesk :=
  if desk.pendingOperation transfer then desk.refuse w 409
  else desk.goOn w (.noOperation transfer)

/-- `transfer_domain` looks at the VM only now. -/
def seeJobs (w : ProcessId) (transfer : PairTransfer) : PairDesk :=
  let row := transfer.vm.bind desk.vms
  if desk.pendingJob transfer || (transfer.fromDomain && row.any isUntransferable) then
    desk.refuse w 409
  else desk.goOn w (.clear transfer)

def movedVm (transfer : PairTransfer) (row : OwnedVm) : OwnedVm :=
  let moved := { row with
    ownerAccountId := some transfer.target
    ownerWallet := some transfer.wallet
    anonManagementTokenHash := none }
  if row.suspension = some .accountDisabled then
    if row.status = .failed ∨ row.status = .destroyed then
      { moved with suspension := none, suspendedBy := none }
    else { moved with transferResume := some (transfer.target, row.xcpngUuid) }
  else moved

def moveVm (transfer : PairTransfer) : PairDesk :=
  match transfer.vm with
  | none => desk
  | some vm => match desk.vms vm with
      | none => desk
      | some row => { desk.setVm vm (movedVm transfer row) with
          formerVms := update desk.formerVms vm (some row.ownerAccountId) }

def moveDomain (transfer : PairTransfer) : PairDesk :=
  match transfer.fqdn with
  | none => desk
  | some fqdn => match desk.zones.domains fqdn with
      | none => desk
      | some domain => { desk with
          zones := { desk.zones with
            domains := desk.zones.domains.put fqdn
              { domain with ownerAccountId := some transfer.target } }
          holders := update desk.holders fqdn ⟨some transfer.wallet, none⟩
          formerDomains := update desk.formerDomains fqdn (some domain.ownerAccountId) }

def move (transfer : PairTransfer) : Transaction PairDesk Unit := fun desk =>
  .ok ((desk.moveVm transfer).moveDomain transfer, ())

def commitTransfer (w : ProcessId) (transfer : PairTransfer) (fate : Fate) : PairDesk :=
  let (after, result) := transact (move transfer) fate desk
  after.answer w result

/-! `claim_vm` -/

/-- A token, or a signature of the wallet or of the SSH key and whether it is accepted. -/
inductive ClaimProof where
  | token (token : Option Text)
  | signature (accepted : Bool)

def isProven (hash : Text → Text) (row : OwnedVm) : ClaimProof → Bool
  | .token (some token) => row.anonManagementTokenHash = some (hash token)
  | .token none => false
  | .signature accepted => accepted

def claimVm (hash : Text → Text) (vm : VmId) (account : AccountId) (proof : ClaimProof) :
    Transaction PairDesk Unit := fun desk =>
  if !desk.zones.enabled account then .error (.http 403)
  else match desk.vms vm with
    | none => .error (.http 404)
    | some row =>
      if row.ownerAccountId.isSome then .error (.http 409)
      else if !isProven hash row proof then .error (.http 403)
      else if row.deletionStarted || row.status = .destroyed || desk.retained vm then
        .error (.http 409)
      else .ok (desk.setVm vm { row with
        ownerAccountId := some account
        anonManagementTokenHash := none }, ())

/-! `attach_vm`, `detach_vm` and their jobs -/

/-- `_owned_domain` -/
def ownedDomain (owner : AccountId) (fqdn : Text) : Option ManagedDomain :=
  (desk.zones.domains fqdn).filter fun domain => domain.ownerAccountId = some owner

def perform (work : VmWork) (seen : Option ManagedDomain) (delivery : Delivery) (fate : Fate) :
    ZoneDesk × Except Err Unit :=
  match work.kind with
  | .attach => Zones.attachVm seen work.fqdn work.vm work.ipv6 delivery fate desk.zones
  | .detach => Zones.detachVm seen work.fqdn work.vm delivery fate desk.zones

/-- The job is done, or `_retry_or_fail_job` queues it again or gives up. -/
def endJob (work : VmWork) (pending : Bool) : PairDesk :=
  match desk.jobs (work.kind, work.vm) with
  | none => desk
  | some job => { desk with jobs := desk.jobs.put (work.kind, work.vm) { job with pending } }

def conclude (w : ProcessId) (work : VmWork) (again : Bool) (result : Except Err Unit) : PairDesk :=
  match result with
  | .ok _ => if work.byJob then (desk.endJob work false).answer w result else desk.answer w result
  | .error _ =>
    if work.byJob then (desk.endJob work again).answer w result else desk.goOn w (.retrying work)

def write (w : ProcessId) (work : VmWork) (seen : Option ManagedDomain) (delivery : Delivery)
    (fate : Fate) (again : Bool) : PairDesk :=
  if (desk.domainLocks work.fqdn).isSome then desk
  else
    let (zones, result) := desk.perform work seen delivery fate
    { desk with zones := zones }.conclude w work again result

/-- `_enqueue_vm_job` -/
def enqueueVmJob (work : VmWork) : Transaction PairDesk Unit := fun desk =>
  match desk.jobs (work.kind, work.vm) with
  | some _ => .ok (desk, ())
  | none => .ok ({ desk with
      jobs := desk.jobs.put (work.kind, work.vm)
        { ownerAccountId := work.ownerAccountId, fqdn := work.fqdn, ipv6 := work.ipv6 } }, ())

def enqueue (w : ProcessId) (work : VmWork) (fate : Fate) : PairDesk :=
  let (after, result) := transact (enqueueVmJob work) fate desk
  after.answer w result

def runJob (w : ProcessId) (kind : VmWorkKind) (vm : VmId) : PairDesk :=
  match desk.jobs (kind, vm) with
  | none => desk
  | some job =>
    if job.pending then
      desk.goOn w (.working ⟨kind, true, job.ownerAccountId, job.fqdn, vm, job.ipv6⟩)
    else desk

/-! The end of `_provision_vm_owned` -/

def mayFinish (row : OwnedVm) : Bool :=
  row.status = .provisioning || (row.status = .suspended &&
    (row.suspension = some .accountDisabled || row.suspension = some .manualAdmin))

def finishRow (row : OwnedVm) (ipv6 : Text) : OwnedVm :=
  { row with
    ipv6 := some ipv6
    status := if row.suspension.isSome then .suspended else .ready }

/-- The attachment of the custom domain that `_register_custom_domain` makes, for the owner
whom the row has now. -/
def attachmentOf (row : OwnedVm) (vm : VmId) (ipv6 : Text) : Option VmWork :=
  match row.domain, row.ownerAccountId with
  | some fqdn, some owner => some
      { kind := .attach, byJob := false, ownerAccountId := owner, fqdn := fqdn, vm := vm
        ipv6 := ipv6 }
  | _, _ => none

def finishVm (vm : VmId) (ipv6 : Text) : Transaction PairDesk (Option VmWork) := fun desk =>
  match desk.vms vm with
  | none => .ok (desk, none)
  | some row =>
    if row.deletionStarted || !mayFinish row then .ok (desk, none)
    else .ok (desk.setVm vm (finishRow row ipv6), attachmentOf row vm ipv6)

def finish (w : ProcessId) (vm : VmId) (ipv6 : Text) (fate : Fate) : PairDesk :=
  if (desk.vmLocks vm).isSome then desk
  else match transact (finishVm vm ipv6) fate desk with
    | (after, .ok (some work)) => after.goOn w (.working work)
    | (after, .ok none) => after.answer w (.ok ())
    | (after, .error error) => after.answer w (.error error)

/-! `claim_vm_attachment` and `_provision_bundle` -/

def claimWaits (rules : TextRules) (value : Text) : Bool :=
  match Zones.normalizeRegistrableDomain rules value with
  | .ok fqdn => (desk.domainLocks fqdn).isSome
  | .error _ => false

def onZones (tx : Transaction ZoneDesk Unit) : Transaction PairDesk Unit := fun desk =>
  match tx desk.zones with
  | .ok (zones, _) => .ok ({ desk with zones }, ())
  | .error error => .error error

def claimVmAttachment (rules : TextRules) (owner : AccountId) (value : Text) (vm : VmId) :
    Transaction PairDesk Unit := onZones (Zones.claimVmAttachment rules owner value vm)

def claim (rules : TextRules) (owner : AccountId) (value : Text) (vm : VmId) (fate : Fate) :
    PairDesk :=
  if desk.claimWaits rules value then desk
  else (transact (claimVmAttachment rules owner value vm) fate desk).1

/-- `release_vm_attachment_claim`, with the row that its select finds. -/
def releaseClaim (fqdn : Text) (vm : VmId) : Transaction PairDesk Unit :=
  onZones (Zones.releaseVmAttachmentClaim fqdn vm)

/-- A row of `vms` is new, and nobody has transferred it yet. -/
def createVm (vm : VmId) (row : OwnedVm) : PairDesk :=
  { desk.setVm vm row with formerVms := update desk.formerVms vm none }

/-- `reserve_vm`, or the VM that an earlier run of the order has reserved. -/
def reserveVm (vm : VmId) (owner : Option AccountId) (tokenHash : Text) (domain : Option Text) :
    Transaction PairDesk Unit := fun desk =>
  match desk.vms vm with
  | some row =>
    if row.ownerAccountId ≠ owner ∨ row.domain ≠ domain then
      .error (.runtime "planned VM id is already bound to another order")
    else .ok (desk, ())
  | none => .ok (desk.createVm vm
      { ownerAccountId := owner, anonManagementTokenHash := some tokenHash, domain := domain }, ())

/-- `activate_vm_reservation` without an account of the settlement. -/
def activateVm (order : BundleOrder) : Transaction PairDesk Unit := fun desk =>
  match desk.vms order.vm with
  | none => .error (.runtime "the bundle VM reservation disappeared")
  | some row =>
    if row.ownerAccountId.any fun owner => !desk.zones.enabled owner then .error .accountDisabled
    else .ok (desk.setVm order.vm { row with ownerWallet := some (.payer order.payer) }, ())

/-- `release_vm_reservation` -/
def releaseReservation (fqdn : Text) (vm : VmId) : Transaction PairDesk Unit := fun desk =>
  match desk.vms vm with
  | none => .ok (desk, ())
  | some row =>
    if row.ownerWallet = none ∧ row.status = .provisioning then
      onZones (Zones.releaseVmAttachmentClaim fqdn vm) { desk with vms := desk.vms.erase vm }
    else .ok (desk, ())

def proceed (w : ProcessId) (next : Stage) (failed : Err → Stage)
    (tx : Transaction PairDesk Unit) (fate : Fate) : PairDesk :=
  match transact tx fate desk with
  | (after, .ok _) => after.goOn w next
  | (after, .error error) => after.goOn w (failed error)

def bundle (rules : TextRules) (w : ProcessId) (order : BundleOrder) (phase : BundlePhase)
    (fate : Fate) : PairDesk :=
  let released (_ : Err) : Stage := .bundling order .releasing
  match phase with
  | .claiming =>
    if desk.claimWaits rules order.fqdn then desk
    else desk.proceed w (.bundling order .reserving) (fun error => .answered (.error error))
      (claimVmAttachment rules order.ownerAccountId order.fqdn order.vm) fate
  | .reserving =>
    desk.proceed w (.bundling order .activating) released
      (reserveVm order.vm (some order.ownerAccountId) order.tokenHash order.domain) fate
  | .activating =>
    if (desk.vmLocks order.vm).isSome then desk
    else desk.proceed w (.answered (.ok ())) released (activateVm order) fate
  | .releasing =>
    if (desk.vmLocks order.vm).isSome || (desk.domainLocks order.fqdn).isSome then desk
    else desk.proceed w (.bundling order .unclaiming) (fun error => .answered (.error error))
      (releaseReservation order.fqdn order.vm) fate
  | .unclaiming =>
    if (desk.domainLocks order.fqdn).isSome then desk
    else desk.proceed w (.answered (.error .database)) (fun error => .answered (.error error))
      (if order.fallbackAutoDomain then fun desk => .ok (desk, ())
        else releaseClaim order.fqdn order.vm) fate

end PairDesk

open PairDesk

structure VmLifecycle where
  status : VMStatus
  deletionStarted : Bool
  suspension : Option Suspension
  extensionResume : Bool

inductive PairStep where
  | transferVm (w : ProcessId) (vm : VmId) (target : AccountId)
  | transferDomain (w : ProcessId) (fqdn : Text) (target : AccountId)
  | select (w : ProcessId) (found : Selected)
  | goOn (w : ProcessId) (fate : Fate)
  | claimVm (vm : VmId) (account : AccountId) (proof : ClaimProof) (fate : Fate)
  | finish (w : ProcessId) (vm : VmId) (ipv6 : Text) (fate : Fate)
  | detach (w : ProcessId) (owner : AccountId) (fqdn : Text) (vm : VmId)
  | runJob (w : ProcessId) (kind : VmWorkKind) (vm : VmId)
  | write (w : ProcessId) (delivery : Delivery) (fate : Fate) (again : Bool)
  | claim (owner : AccountId) (value : Text) (vm : VmId) (fate : Fate)
  | release (fqdn : Text) (vm : VmId) (fate : Fate)
  | provisionBundle (w : ProcessId) (order : BundleOrder)
  | reserve (vm : VmId) (owner : Option AccountId) (tokenHash : Text) (domain : Option Text)
  | lifecycle (vm : VmId) (state : VmLifecycle)
  | drop (vm : VmId)
  | domainState (fqdn : Text) (status : DomainStatus) (mode : NameserverMode)
  | pending (fqdn : Text) (operation work : Bool)
  | account (id : AccountId) (enabled : Bool)

def nextStatement (rules : TextRules) (w : ProcessId) (fate : Fate) (desk : PairDesk) : PairDesk :=
  match desk.stages w with
  | .vmSeen vm target wallet source => desk.holdVm w vm target wallet source
  | .domainFound vm target wallet fqdn => desk.holdFound w vm target wallet fqdn
  | .domainSeen call => desk.seeOwners w call
  | .ownersSeen call => desk.seeBundle w call
  | .bundleSeen call snapshot => desk.holdBundleVm w call snapshot
  | .bundleVm call snapshot held => desk.holdBundle w call snapshot held
  | .holding transfer => desk.seeOperations w transfer
  | .noOperation transfer => desk.seeJobs w transfer
  | .clear transfer => desk.commitTransfer w transfer fate
  | .working work => desk.goOn w (.owned work (desk.ownedDomain work.ownerAccountId work.fqdn))
  | .retrying work => desk.enqueue w work fate
  | .bundling order phase => desk.bundle rules w order phase fate
  | .idle | .answered _ | .vmHeld .. | .owned .. => desk

def Stage.isFree : Stage → Bool
  | .idle | .answered _ => true
  | _ => false

def takeUp (w : ProcessId) (desk after : PairDesk) : PairDesk :=
  if (desk.stages w).isFree then after else desk

def pairStep (rules : TextRules) (hash : Text → Text) (step : PairStep) (desk : PairDesk) :
    PairDesk :=
  match step with
  | .transferVm w vm target => takeUp w desk (desk.transferVm w vm target)
  | .transferDomain w fqdn target => takeUp w desk (desk.transferDomain w fqdn target)
  | .select w found => match desk.stages w with
      | .vmHeld vm target wallet => desk.selectDomain w vm target wallet found
      | _ => desk
  | .goOn w fate => nextStatement rules w fate desk
  | .claimVm vm account proof fate =>
    if (desk.vmLocks vm).isSome then desk
    else (transact (PairDesk.claimVm hash vm account proof) fate desk).1
  | .finish w vm ipv6 fate => takeUp w desk (desk.finish w vm ipv6 fate)
  | .detach w owner fqdn vm => takeUp w desk (desk.goOn w (.working
      { kind := .detach, byJob := false, ownerAccountId := owner, fqdn := fqdn, vm := vm }))
  | .runJob w kind vm => takeUp w desk (desk.runJob w kind vm)
  | .write w delivery fate again => match desk.stages w with
      | .owned work seen => desk.write w work seen delivery fate again
      | _ => desk
  | .claim owner value vm fate => desk.claim rules owner value vm fate
  | .release fqdn vm fate =>
    if (desk.domainLocks fqdn).isSome then desk
    else (transact (releaseClaim fqdn vm) fate desk).1
  | .provisionBundle w order => takeUp w desk (desk.goOn w (.bundling order order.firstPhase))
  | .reserve vm owner tokenHash domain =>
    (transact (reserveVm vm owner tokenHash domain) .done desk).1
  | .lifecycle vm state =>
    if (desk.vmLocks vm).isSome then desk
    else match desk.vms vm with
      | none => desk
      | some row => desk.setVm vm { row with
          status := state.status
          deletionStarted := state.deletionStarted
          suspension := state.suspension
          extensionResume := state.extensionResume }
  | .drop vm => if (desk.vmLocks vm).isSome then desk else { desk with vms := desk.vms.erase vm }
  | .domainState fqdn status mode =>
    if (desk.domainLocks fqdn).isSome then desk
    else match desk.zones.domains fqdn with
      | none => desk
      | some domain => { desk with zones := { desk.zones with
          domains := desk.zones.domains.put fqdn
            { domain with status := status, nameserverMode := mode } } }
  | .pending fqdn operation work => { desk with
      operations := update desk.operations fqdn operation
      work := update desk.work fqdn work }
  | .account id enabled => { desk with zones := { desk.zones with
      enabled := update desk.zones.enabled id enabled } }

/-- The select by `vm_id` finds the committed rows. -/
def Reads (step : PairStep) (desk : PairDesk) : Prop :=
  match step with
  | .select w found => ∀ vm target wallet, desk.stages w = .vmHeld vm target wallet →
      desk.Selects vm found
  | _ => True

def ownerTransfers (rules : TextRules) (hash : Text → Text) : Protocol PairDesk PairStep :=
  ⟨pairStep rules hash, Reads⟩

/-- `can_manage_vm` -/
def canManageVm (hash : Text → Text) (row : OwnedVm) (token : Text) : Bool :=
  row.anonManagementTokenHash = some (hash token)

/-- The test of `claim_legacy_domain`. -/
def opensDomain (hash : Text → Text) (holder : DomainHolder) (token : Text) : Bool :=
  holder.anonManagementTokenHash = some (hash token)

/-- A domain belongs to the owner of the VM that it names, and no token opens what a transfer
has moved. -/
structure PairsKept (hash : Text → Text) (desk : PairDesk) : Prop where
  owners : ∀ fqdn domain vm row, desk.zones.domains fqdn = some domain →
    domain.vmId = some vm → desk.vms vm = some row → domain.ownerAccountId = row.ownerAccountId
  vmTokens : ∀ vm row token, (desk.formerVms vm).isSome → desk.vms vm = some row →
    canManageVm hash row token = false
  domainTokens : ∀ fqdn token, (desk.formerDomains fqdn).isSome →
    opensDomain hash (desk.holders fqdn) token = false

def IsFormerOwner (desk : PairDesk) (work : VmWork) : Prop :=
  (desk.formerDomains work.fqdn = some (some work.ownerAccountId) ∧
    ∀ domain, desk.zones.domains work.fqdn = some domain →
      domain.ownerAccountId ≠ some work.ownerAccountId) ∨
  (desk.formerVms work.vm = some (some work.ownerAccountId) ∧
    ∃ row, desk.vms work.vm = some row ∧ row.ownerAccountId ≠ some work.ownerAccountId)

def JobHarmless (rules : TextRules) (hash : Text → Text) (step : PairStep) (desk : PairDesk) :
    Prop :=
  ∀ w work seen delivery fate again, step = .write w delivery fate again →
    desk.stages w = .owned work seen → work.byJob = true → IsFormerOwner desk work →
    (pairStep rules hash step desk).zones = desk.zones ∧
      (pairStep rules hash step desk).vms = desk.vms

end HyruleCloud.OwnedPairs
