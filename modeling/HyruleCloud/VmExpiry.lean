import HyruleCloud.Store
import HyruleCloud.Protocol

/-!
The expiry of one VM, orchestrator.py: paid extensions, the pass of `check_expiries`, and
`destroy_vm` for the pass and for the owner. Every decision that writes is taken under
`locked_vm`, so the part of a request that holds the lock is one step; the payment of
an extension is made inside it. The scan of the pass, its look at the VM and the
deletion are three steps.
-/

namespace HyruleCloud.Expiry

open Interaction Function

/-- `get_vm_power_state`; `unreachable` iff it raises. -/
inductive PowerState where
  | running | halted | other | unreachable
  deriving DecidableEq

abbrev VmOwner := Option AccountId × Option Wallet

/-- The handoff of `_EXTENSION_RESUME_KEY`. -/
structure ResumeHandoff where
  xcpngUuid : Nat
  owner : VmOwner
  deriving DecidableEq

structure ExpiringVm where
  owner : VmOwner
  status : VMStatus := .provisioning
  expiresAt : Option Time
  deletionStartedAt : Option Time := none
  suspension : Option Suspension := none
  xcpngUuid : Option Nat := none
  providerDeletedUuid : Option Nat := none
  hasPrefix : Bool := true
  resume : Option ResumeHandoff := none
  deriving DecidableEq

inductive RetentionState where
  | prepared | retained | restoring
  deriving DecidableEq

structure VmRetention where
  sourceVmUuid : Nat
  state : RetentionState
  deriving DecidableEq

structure ExpiryConfig where
  grace : Time
  retentionEnabled : Bool

/-- A payment event `extend_applied`. -/
structure ExtensionReceipt where
  days : Nat
  newExpiry : Time

/-- What a pass knows of the VM: it has found it, or it has decided to delete it. -/
inductive Sweep where
  | scanned
  | due (expiredBefore : Time)

/-- A `destroy_vm` after its claim. -/
structure Deletion where
  xcpngUuid : Option Nat
  manifest : Option Nat
  expiring : Bool

/-- `expiryClaims` are the times at which `destroy_vm` has claimed the VM for its expiry. -/
structure ExpiryDesk where
  now : Time
  ownerEnabled : Bool
  vm : Option ExpiringVm
  retention : Option VmRetention
  receipts : List ExtensionReceipt
  expiryClaims : List Time
  sweeps : ProcessId → Option Sweep
  deletions : ProcessId → Option Deletion

def isRestricted (suspension : Option Suspension) : Bool :=
  suspension = some .accountDisabled || suspension = some .manualAdmin

def hasEnded (status : VMStatus) : Bool :=
  status = .destroyed || status = .failed || status = .provisioning

/-- An expiry is noted as the reason unless an account or an administrator has one. -/
def suspendedForExpiry (suspension : Option Suspension) : Option Suspension :=
  if isRestricted suspension then suspension else some .expired

def vmCanExtend (vm : ExpiringVm) : Bool :=
  vm.expiresAt.isSome && vm.deletionStartedAt.isNone && !hasEnded vm.status &&
    !isRestricted vm.suspension

/-- `none` iff the source returns `False`. -/
def reconcileExtensionPower (vm : ExpiringVm) (power : PowerState) (now : Time) :
    Option ExpiringVm :=
  match vm.expiresAt with
  | none => some vm
  | some expiry =>
    if vm.deletionStartedAt.isSome || hasEnded vm.status || isRestricted vm.suspension then some vm
    else if now ≤ expiry ∨ vm.xcpngUuid = none ∨ vm.status = .suspended then some vm
    else match power with
      | .running => some vm
      | .halted => some { vm with
          status := .suspended
          suspension := suspendedForExpiry vm.suspension }
      | .other | .unreachable => none

/-- The row that `extend_vm` commits, and its receipt. -/
def extendVm (vm : ExpiringVm) (days : Nat) (power : PowerState) (ownerEnabled : Bool) (now : Time) :
    Option (ExpiringVm × ExtensionReceipt) :=
  match reconcileExtensionPower vm power now with
  | none => none
  | some vm =>
    if !vmCanExtend vm || !ownerEnabled then none
    else match vm.expiresAt with
      | none => none
      | some expiry =>
        let expiry := max expiry now + days * 86400
        let resume := match vm.status, vm.xcpngUuid with
          | .suspended, some uuid => some ⟨uuid, vm.owner⟩
          | _, _ => vm.resume
        some ({ vm with expiresAt := some expiry, resume := resume }, ⟨days, expiry⟩)

/-- `power` is what the request finds before the payment, `powerAgain` after it. -/
structure ExtendRequest where
  identityMatches : Bool
  days : Nat
  power : PowerState
  pays : Bool
  powerAgain : PowerState

/-- The request `extend_vm` of api/routes.py, up to its commit. -/
def extendRequest (request : ExtendRequest) (desk : ExpiryDesk) :
    Except Err (ExpiringVm × ExtensionReceipt) :=
  match desk.vm with
  | none => .error (.http 404)
  | some vm =>
    if !request.identityMatches then .error (.http 404)
    else match reconcileExtensionPower vm request.power desk.now with
      | none => .error (.http 503)
      | some vm =>
        if !vmCanExtend vm || !desk.ownerEnabled then .error (.http 409)
        else if !request.pays then .error (.http 402)
        else if request.days = 0 then .error (.value "Extension days must be positive")
        else match extendVm vm request.days request.powerAgain desk.ownerEnabled desk.now with
          | none => .error (.http 409)
          | some extended => .ok extended

def commitExtension (request : ExtendRequest) : Transaction ExpiryDesk Unit := fun desk =>
  match extendRequest request desk with
  | .error error => .error error
  | .ok (vm, receipt) => .ok ({ desk with
      vm := some vm
      receipts := receipt :: desk.receipts }, ())

/-- `_reconcile_extension_resume_locked` -/
def resumeVm (power : PowerState) (starts : Bool) : Transaction ExpiryDesk Unit := fun desk =>
  match desk.vm with
  | none => .ok (desk, ())
  | some vm => match vm.resume with
      | none => .ok (desk, ())
      | some handoff =>
        if vm.status ≠ .suspended ∨ vm.deletionStartedAt.isSome ∨
            vm.xcpngUuid ≠ some handoff.xcpngUuid ∨ vm.owner ≠ handoff.owner ∨
            isRestricted vm.suspension then
          .ok ({ desk with vm := some { vm with resume := none } }, ())
        else if !desk.ownerEnabled then .ok (desk, ())
        else if power = .running ∨ (power = .halted ∧ starts) then
          .ok ({ desk with vm := some { vm with
            status := .running
            suspension := none
            resume := none } }, ())
        else .ok (desk, ())

def isGone (vm : ExpiringVm) : Bool :=
  vm.status = .destroyed && !vm.hasPrefix &&
    (vm.xcpngUuid.isNone || vm.providerDeletedUuid = vm.xcpngUuid)

/-- The select of `check_expiries`. -/
def isCandidate (vm : ExpiringVm) (retention : Option VmRetention) (now : Time) : Bool :=
  !isGone vm &&
    (match retention with
      | some record => record.state = .prepared
      | none => true) &&
    (vm.deletionStartedAt.isSome ||
      (vm.status ≠ .failed && (match vm.expiresAt with
        | some expiry => decide (expiry < now)
        | none => false)))

inductive SweepOutcome where
  | skip
  | suspend (vm : ExpiringVm)
  | due (expiredBefore : Time)

/-- What the pass decides about the row that it has locked; `suspends` iff the provider
stops the guest. -/
def sweepVm (config : ExpiryConfig) (now : Time) (suspends : Bool) (vm : ExpiringVm) :
    SweepOutcome :=
  if isGone vm then .skip
  else match vm.deletionStartedAt, vm.expiresAt with
    | some _, _ => .due (now - config.grace)
    | none, none => .skip
    | none, some expiry =>
      if vm.status = .failed then .skip
      else if expiry + config.grace < now then .due (now - config.grace)
      else if now ≤ expiry ∨ vm.status = .suspended then .skip
      else if vm.status = .provisioning ∧ vm.xcpngUuid = none then .skip
      else if vm.xcpngUuid.isSome && !suspends then .skip
      else .suspend { vm with
        status := if vm.status = .provisioning then .provisioning else .suspended
        suspension := suspendedForExpiry vm.suspension }

structure Claim where
  vm : ExpiringVm
  retention : Option VmRetention
  deletion : Deletion

def isSpared (expiredBefore : Option Time) (vm : ExpiringVm) : Bool :=
  match expiredBefore, vm.expiresAt with
  | none, _ => false
  | some _, none => true
  | some cutoff, some expiry => vm.status = .failed || decide (cutoff ≤ expiry)

/-- The first locked part of `destroy_vm`; `none` iff it returns without a claim.
`captures` iff the provider describes the guest for its retention. -/
def claimDeletion (config : ExpiryConfig) (expiredBefore : Option Time) (captures : Bool)
    (now : Time) (vm : ExpiringVm) (retention : Option VmRetention) : Except Err (Option Claim) :=
  let fresh := vm.deletionStartedAt.isNone
  if isGone vm then .ok none
  else if fresh && vm.status ≠ .destroyed && isSpared expiredBefore vm then .ok none
  else
    let claimed := { vm with deletionStartedAt := some (vm.deletionStartedAt.getD now) }
    let claim (retention : Option VmRetention) : Claim :=
      ⟨claimed, retention, vm.xcpngUuid, retention.map VmRetention.sourceVmUuid,
        expiredBefore.isSome⟩
    match retention with
    | some record =>
      if record.state = .restoring then .ok none
      else if record.state = .retained ∧ expiredBefore.isSome then .ok none
      else if vm.xcpngUuid ≠ some record.sourceVmUuid then
        .error (.runtime "Retention manifest does not match the claimed guest")
      else .ok (some (claim retention))
    | none => match vm.xcpngUuid with
        | some uuid =>
          if vm.status ≠ .destroyed ∧ fresh ∧ expiredBefore.isSome ∧ config.retentionEnabled then
            if captures then .ok (some (claim (some ⟨uuid, .prepared⟩)))
            else .error (.provider "capture_vm_protection")
          else .ok (some (claim none))
        | none => .ok (some (claim none))

/-- The claim is committed before the provider is asked to delete anything. -/
def commitClaim (config : ExpiryConfig) (expiredBefore : Option Time) (captures : Bool) :
    Transaction ExpiryDesk (Option Deletion) := fun desk =>
  match desk.vm with
  | none => .ok (desk, none)
  | some vm => match claimDeletion config expiredBefore captures desk.now vm desk.retention with
      | .error error => .error error
      | .ok none => .ok (desk, none)
      | .ok (some claim) => .ok ({ desk with
          vm := some claim.vm
          retention := claim.retention
          expiryClaims := if vm.deletionStartedAt.isNone && expiredBefore.isSome
            then desk.now :: desk.expiryClaims else desk.expiryClaims }, some claim.deletion)

def retainVm (deletion : Deletion) (manifest : Nat) (protects : Bool) :
    Transaction ExpiryDesk Unit := fun desk =>
  match desk.vm, desk.retention with
  | none, _ => .ok (desk, ())
  | some vm, record =>
    if vm.xcpngUuid ≠ some manifest ∨ vm.deletionStartedAt = none then .ok (desk, ())
    else match record with
      | none => .error (.runtime "Retention evidence changed during provider deletion")
      | some record =>
        if record.sourceVmUuid ≠ manifest then
          .error (.runtime "Retention evidence changed during provider deletion")
        else if record.state = .restoring then .ok (desk, ())
        else if record.state = .retained ∧ deletion.expiring then .ok (desk, ())
        else if !protects then .error (.provider "protect_retained_vm")
        else .ok ({ desk with
          vm := some { vm with
            status := .suspended
            suspension := suspendedForExpiry vm.suspension }
          retention := some { record with state := .retained } }, ())

/-- The last locked part; `cleaned` iff nothing of the guest can use its addresses. -/
def finishDeletion (deletion : Deletion) (cleaned : Bool) : Transaction ExpiryDesk Unit :=
  fun desk => match desk.vm with
  | none => .ok (desk, ())
  | some vm => .ok ({ desk with vm := some { vm with
      status := .destroyed
      providerDeletedUuid := deletion.xcpngUuid.orElse fun _ => vm.providerDeletedUuid
      hasPrefix := if cleaned ∧ vm.xcpngUuid = deletion.xcpngUuid then false else vm.hasPrefix } },
      ())

inductive ExpiryStep where
  | tick (elapsed : Time)
  | create (owner : VmOwner) (expiresAt : Time)
  | account (enabled : Bool)
  | elsewhere (vm : ExpiringVm)
  | extend (request : ExtendRequest) (fate : Fate)
  | resume (power : PowerState) (starts : Bool) (fate : Fate)
  | scan (w : ProcessId)
  | look (w : ProcessId) (suspends : Bool) (fate : Fate)
  | expire (w : ProcessId) (captures : Bool) (fate : Fate)
  | destroy (w : ProcessId) (captures : Bool) (fate : Fate)
  | retain (w : ProcessId) (protects : Bool) (fate : Fate)
  | finish (w : ProcessId) (cleaned : Bool) (fate : Fate)
  | stop (w : ProcessId)

def lookStep (config : ExpiryConfig) (w : ProcessId) (suspends : Bool) (fate : Fate)
    (desk : ExpiryDesk) : ExpiryDesk :=
  let next (sweep : Option Sweep) (desk : ExpiryDesk) :=
    { desk with sweeps := update desk.sweeps w sweep }
  match desk.vm with
  | none => next none desk
  | some vm => match sweepVm config desk.now suspends vm with
      | .skip => next none desk
      | .due expiredBefore => next (some (.due expiredBefore)) desk
      | .suspend suspended =>
        next none (transact (fun desk => .ok ({ desk with vm := some suspended }, ())) fate desk).1

def claimStep (config : ExpiryConfig) (w : ProcessId) (expiredBefore : Option Time)
    (captures : Bool) (fate : Fate) (desk : ExpiryDesk) : ExpiryDesk :=
  match transact (commitClaim config expiredBefore captures) fate desk with
  | (after, .ok deletion) => { after with deletions := update after.deletions w deletion }
  | (after, .error _) => after

def expiryStep (config : ExpiryConfig) (step : ExpiryStep) (desk : ExpiryDesk) : ExpiryDesk :=
  match step with
  | .tick elapsed => { desk with now := desk.now + elapsed }
  | .create owner expiresAt => match desk.vm with
      | none => { desk with vm := some { owner := owner, expiresAt := some expiresAt } }
      | some _ => desk
  | .account enabled => { desk with ownerEnabled := enabled }
  | .elsewhere written => match desk.vm with
      | none => desk
      | some vm => { desk with vm := some { written with
          expiresAt := vm.expiresAt
          deletionStartedAt := vm.deletionStartedAt } }
  | .extend request fate => (transact (commitExtension request) fate desk).1
  | .resume power starts fate => (transact (resumeVm power starts) fate desk).1
  | .scan w => match desk.vm with
      | none => desk
      | some vm =>
        if isCandidate vm desk.retention desk.now then
          { desk with sweeps := update desk.sweeps w (some .scanned) }
        else desk
  | .look w suspends fate => match desk.sweeps w with
      | some .scanned => lookStep config w suspends fate desk
      | _ => desk
  | .expire w captures fate => match desk.sweeps w with
      | some (.due expiredBefore) =>
        claimStep config w (some expiredBefore) captures fate
          { desk with sweeps := update desk.sweeps w none }
      | _ => desk
  | .destroy w captures fate => match desk.deletions w with
      | none => claimStep config w none captures fate desk
      | some _ => desk
  | .retain w protects fate => match desk.deletions w with
      | none => desk
      | some deletion => match deletion.xcpngUuid, deletion.manifest with
          | some _, some manifest =>
            let after := (transact (retainVm deletion manifest protects) fate desk).1
            { after with deletions := update after.deletions w none }
          | _, _ => desk
  | .finish w cleaned fate => match desk.deletions w with
      | none => desk
      | some deletion => match deletion.xcpngUuid, deletion.manifest with
          | some _, some _ => desk
          | _, _ =>
            let after := (transact (finishDeletion deletion cleaned) fate desk).1
            { after with deletions := update after.deletions w none }
  -- the provider raises, or the process dies
  | .stop w => { desk with
      sweeps := update desk.sweeps w none
      deletions := update desk.deletions w none }

/-- `DESTROYED` is written by `destroy_vm` alone; nothing else writes the expiry or the
claim. -/
def mayExpire (step : ExpiryStep) (_ : ExpiryDesk) : Prop :=
  match step with
  | .elsewhere vm => vm.status ≠ .destroyed
  | _ => True

def expiries (config : ExpiryConfig) : Protocol ExpiryDesk ExpiryStep :=
  ⟨expiryStep config, mayExpire⟩

structure ExpiryStart (desk : ExpiryDesk) : Prop where
  receipts : desk.receipts = []
  claims : desk.expiryClaims = []
  sweeps : ∀ w, desk.sweeps w = none
  deletions : ∀ w, desk.deletions w = none
  destroyed : ∀ vm, desk.vm = some vm → vm.status = .destroyed → vm.deletionStartedAt.isSome

/-- A state of a run and a later one: a claim for the expiry came after the grace period
of every paid extension, and a claimed VM is not extended any more. -/
structure ExtensionsHonoured (config : ExpiryConfig) (mid final : ExpiryDesk) : Prop where
  never_early : ∀ claimed ∈ final.expiryClaims, ∀ receipt ∈ final.receipts,
    receipt.newExpiry + config.grace < claimed
  never_late : ∀ vm, mid.vm = some vm → vm.deletionStartedAt.isSome →
    final.receipts = mid.receipts

variable {power : PowerState} {now : Time} {w : ProcessId} {fate : Fate} {value : Unit}
  {suspends captures : Bool} {expiredBefore : Option Time}

theorem reconcile_keeps {vm reconciled : ExpiringVm}
    (done : reconcileExtensionPower vm power now = some reconciled) :
    reconciled.expiresAt = vm.expiresAt ∧ reconciled.deletionStartedAt = vm.deletionStartedAt := by
  unfold reconcileExtensionPower at done
  repeat' split at done
  all_goals cases done
  all_goals exact ⟨rfl, rfl⟩

theorem canExtend_unclaimed {vm : ExpiringVm} (can : vmCanExtend vm = true) :
    vm.deletionStartedAt = none ∧ vm.status ≠ .destroyed := by
  simp only [vmCanExtend, Bool.and_eq_true, Bool.not_eq_true', Option.isNone_iff_eq_none] at can
  refine ⟨can.1.1.2, fun destroyed => ?_⟩
  have ended := can.1.2
  rw [destroyed] at ended
  cases ended

/-- What an extension does to the row: only a VM that is not claimed gets one, and its
expiry does not get earlier. -/
structure Extends (vm extended : ExpiringVm) (receipt : ExtensionReceipt) : Prop where
  unclaimed : vm.deletionStartedAt = none
  later : ∀ expiry, vm.expiresAt = some expiry → expiry ≤ receipt.newExpiry
  expiry : extended.expiresAt = some receipt.newExpiry
  alive : extended.status ≠ .destroyed

theorem extendVm_extends {vm extended : ExpiringVm} {days : Nat} {enabled : Bool}
    {receipt : ExtensionReceipt}
    (done : extendVm vm days power enabled now = some (extended, receipt)) :
    Extends vm extended receipt := by
  unfold extendVm at done
  split at done
  · cases done
  rename_i reconciled powered
  obtain ⟨same, unclaimed⟩ := reconcile_keeps powered
  split at done
  · cases done
  rename_i allowed
  have can : vmCanExtend reconciled = true := by
    by_contra cannot
    simp [cannot] at allowed
  obtain ⟨free, alive⟩ := canExtend_unclaimed can
  split at done
  · cases done
  rename_i expiry found
  cases done
  refine ⟨unclaimed ▸ free, fun before there => ?_, rfl, alive⟩
  rw [same, there] at found
  cases found
  exact (Nat.le_max_left _ _).trans (Nat.le_add_right _ _)

theorem extendRequest_extends {request : ExtendRequest} {desk : ExpiryDesk}
    {extended : ExpiringVm} {receipt : ExtensionReceipt}
    (done : extendRequest request desk = .ok (extended, receipt)) :
    ∃ vm, desk.vm = some vm ∧ Extends vm extended receipt := by
  unfold extendRequest at done
  split at done
  · cases done
  rename_i vm found
  split at done
  · cases done
  split at done
  · cases done
  rename_i reconciled powered
  obtain ⟨same, unclaimed⟩ := reconcile_keeps powered
  split at done
  · cases done
  split at done
  · cases done
  split at done
  · cases done
  split at done
  · cases done
  rename_i applied
  cases done
  have extends_ := extendVm_extends applied
  exact ⟨vm, found, unclaimed ▸ extends_.unclaimed,
    fun expiry there => extends_.later expiry (same.trans there), extends_.expiry,
    extends_.alive⟩

def IsClaimed (desk : ExpiryDesk) : Prop :=
  ∃ vm, desk.vm = some vm ∧ vm.deletionStartedAt.isSome

structure ExpirySafe (config : ExpiryConfig) (desk : ExpiryDesk) : Prop where
  destroyed : ∀ vm, desk.vm = some vm → vm.status = .destroyed → vm.deletionStartedAt.isSome
  deleting : ∀ w deletion, desk.deletions w = some deletion → IsClaimed desk
  claimed : desk.expiryClaims ≠ [] → IsClaimed desk
  paid : ∀ receipt ∈ desk.receipts, ∃ vm expiry, desk.vm = some vm ∧
    vm.expiresAt = some expiry ∧ receipt.newExpiry ≤ expiry
  due : ∀ w expiredBefore, desk.sweeps w = some (.due expiredBefore) →
    expiredBefore ≤ desk.now - config.grace
  early : ∀ claimed ∈ desk.expiryClaims, ∀ receipt ∈ desk.receipts,
    receipt.newExpiry + config.grace < claimed

def ClaimStays (before after : ExpiryDesk) : Prop :=
  IsClaimed before → IsClaimed after ∧ after.receipts = before.receipts

structure RowKept (before after : ExpiringVm) : Prop where
  expiry : after.expiresAt = before.expiresAt
  claim : before.deletionStartedAt.isSome → after.deletionStartedAt.isSome
  destroyed : after.status = .destroyed → after.deletionStartedAt.isSome

section Steps
variable {config : ExpiryConfig} {desk after : ExpiryDesk} {vm written : ExpiringVm}

theorem row_claimed (kept : RowKept vm written) (found : desk.vm = some vm)
    (now : after.vm = some written) (claimed : IsClaimed desk) : IsClaimed after := by
  obtain ⟨row, there, started⟩ := claimed
  rw [found] at there
  cases there
  exact ⟨written, now, kept.claim started⟩

variable (safe : ExpirySafe config desk)
include safe

theorem row_safe (found : desk.vm = some vm)
    (kept : RowKept vm written) (retention : Option VmRetention) :
    ExpirySafe config { desk with vm := some written, retention := retention } :=
  { safe with
    destroyed := fun row there => by
      cases there
      exact kept.destroyed
    deleting := fun w deletion runs =>
      row_claimed kept found rfl (safe.deleting w deletion runs)
    claimed := fun some => row_claimed kept found rfl (safe.claimed some)
    paid := fun receipt listed => by
      obtain ⟨row, expiry, there, holds, le⟩ := safe.paid receipt listed
      rw [found] at there
      cases there
      exact ⟨written, expiry, rfl, kept.expiry.trans holds, le⟩ }

theorem sweep_safe {sweep : Option Sweep}
    (due : ∀ cutoff, sweep = some (.due cutoff) → cutoff ≤ desk.now - config.grace) :
    ExpirySafe config { desk with sweeps := update desk.sweeps w sweep } := by
  refine { safe with due := fun v cutoff runs => ?_ }
  by_cases mine : v = w
  · subst mine
    simp only [update_self] at runs
    exact due cutoff runs
  · simp only [update_of_ne mine] at runs
    exact safe.due v cutoff runs

theorem deletion_safe {deletion : Option Deletion}
    (claimed : deletion.isSome → IsClaimed desk) :
    ExpirySafe config { desk with deletions := update desk.deletions w deletion } := by
  refine { safe with deleting := fun v other runs => ?_ }
  by_cases mine : v = w
  · subst mine
    simp only [update_self] at runs
    exact claimed (by rw [runs]; rfl)
  · simp only [update_of_ne mine] at runs
    exact safe.deleting v other runs

omit safe

def StepKept (config : ExpiryConfig) (before after : ExpiryDesk) : Prop :=
  ExpirySafe config after ∧ ClaimStays before after

include safe

theorem stepKept_refl : StepKept config desk desk :=
  ⟨safe, fun claimed => ⟨claimed, rfl⟩⟩

theorem row_kept (found : desk.vm = some vm)
    (kept : RowKept vm written) (retention : Option VmRetention) :
    StepKept config desk { desk with vm := some written, retention := retention } :=
  ⟨row_safe safe found kept retention, fun claimed => ⟨row_claimed kept found rfl claimed, rfl⟩⟩

theorem transact_kept {β : Type} {tx : Transaction ExpiryDesk β}
    (keeps : ∀ after value, tx desk = .ok (after, value) → StepKept config desk after) :
    StepKept config desk (transact tx fate desk).1 := by
  generalize ran : transact tx fate desk = outcome
  rcases transact_cases _ _ _ _ _ ran with ⟨same, _⟩ | ⟨value, done, _⟩ | ⟨value, done, _⟩
  · rw [same]
    exact stepKept_refl safe
  · exact keeps _ value done
  · exact keeps _ value done

theorem extend_kept {request : ExtendRequest}
    (done : commitExtension request desk = .ok (after, value)) : StepKept config desk after := by
  unfold commitExtension at done
  split at done
  · cases done
  rename_i extended receipt applied
  cases done
  obtain ⟨vm, found, extends_⟩ := extendRequest_extends applied
  have unclaimed : ¬ IsClaimed desk := by
    rintro ⟨row, there, started⟩
    rw [found] at there
    cases there
    rw [extends_.unclaimed] at started
    cases started
  have noClaims : desk.expiryClaims = [] := by
    by_contra some
    exact unclaimed (safe.claimed some)
  refine ⟨⟨?_, ?_, ?_, ?_, safe.due, ?_⟩, fun claimed => absurd claimed unclaimed⟩
  · intro row there destroyed
    cases there
    exact absurd destroyed extends_.alive
  · exact fun w deletion runs => absurd (safe.deleting w deletion runs) unclaimed
  · exact fun some => absurd noClaims some
  · intro paid listed
    refine ⟨extended, receipt.newExpiry, rfl, extends_.expiry, ?_⟩
    rcases List.mem_cons.mp listed with rfl | before
    · exact le_refl _
    obtain ⟨row, expiry, there, holds, le⟩ := safe.paid paid before
    rw [found] at there
    cases there
    exact le.trans (extends_.later expiry holds)
  · intro claimed listed
    simp only [noClaims] at listed
    cases listed

theorem resume_kept {starts : Bool}
    (done : resumeVm power starts desk = .ok (after, value)) : StepKept config desk after := by
  unfold resumeVm at done
  split at done
  · cases done
    exact stepKept_refl safe
  · rename_i vm found
    split at done
    · cases done
      exact stepKept_refl safe
    · split at done
      · cases done
        refine row_kept safe found ?_ _
        exact ⟨rfl, fun started => started, safe.destroyed vm found⟩
      · split at done
        · cases done
          exact stepKept_refl safe
        · split at done
          · cases done
            refine row_kept safe found ?_ _
            exact ⟨rfl, fun started => started, nofun⟩
          · cases done
            exact stepKept_refl safe

omit safe

theorem sweepVm_due {expiredBefore : Time}
    (decided : sweepVm config now suspends vm = .due expiredBefore) :
    expiredBefore = now - config.grace := by
  unfold sweepVm at decided
  repeat' split at decided
  all_goals cases decided
  all_goals rfl

theorem sweepVm_suspends (decided : sweepVm config now suspends vm = .suspend written) :
    RowKept vm written := by
  unfold sweepVm at decided
  repeat' split at decided
  all_goals cases decided
  · exact ⟨rfl, fun started => started, nofun⟩
  · exact ⟨rfl, fun started => started, nofun⟩

theorem look_kept (safe : ExpirySafe config desk) :
    StepKept config desk (lookStep config w suspends fate desk) := by
  unfold lookStep
  split
  · exact ⟨sweep_safe safe nofun, fun claimed => ⟨claimed, rfl⟩⟩
  rename_i vm found
  split
  · exact ⟨sweep_safe safe nofun, fun claimed => ⟨claimed, rfl⟩⟩
  · rename_i expiredBefore decided
    refine ⟨sweep_safe safe fun cutoff same => ?_, fun claimed => ⟨claimed, rfl⟩⟩
    cases same
    exact (sweepVm_due decided).le
  · rename_i suspended decided
    have kept : StepKept config desk (transact (fun desk : ExpiryDesk =>
        .ok ({ desk with vm := some suspended }, ())) fate desk).1 := by
      refine transact_kept safe fun after value done => ?_
      cases done
      exact row_kept safe found (sweepVm_suspends decided) _
    exact ⟨sweep_safe kept.1 nofun, fun claimed => kept.2 claimed⟩

theorem grace_passed {bound expiry cutoff now grace : Nat} (le : bound ≤ expiry)
    (before : expiry < cutoff) (cut : cutoff ≤ now - grace) : bound + grace < now := by
  omega

/-- What a claim commits: the row is claimed, and a fresh claim for the expiry finds an
expiry before the cutoff. -/
structure Claimed (expiredBefore : Option Time) (vm : ExpiringVm) (claim : Claim) : Prop where
  expiry : claim.vm.expiresAt = vm.expiresAt
  started : claim.vm.deletionStartedAt.isSome
  expired : vm.deletionStartedAt = none → vm.status ≠ .destroyed → ∀ cutoff,
    expiredBefore = some cutoff → ∃ expiry, vm.expiresAt = some expiry ∧ expiry < cutoff

theorem claimDeletion_claims {retention : Option VmRetention} {claim : Claim}
    (done : claimDeletion config expiredBefore captures now vm retention = .ok (some claim)) :
    Claimed expiredBefore vm claim := by
  unfold claimDeletion at done
  dsimp only at done
  split at done
  · cases done
  split at done
  · cases done
  rename_i kept
  have expired : vm.deletionStartedAt = none → vm.status ≠ .destroyed → ∀ cutoff,
      expiredBefore = some cutoff → ∃ expiry, vm.expiresAt = some expiry ∧ expiry < cutoff := by
    intro free alive cutoff same
    subst same
    cases there : vm.expiresAt with
    | none => simp [isSpared, free, alive, there] at kept
    | some expiry =>
      refine ⟨expiry, rfl, ?_⟩
      by_contra later
      simp [isSpared, free, alive, there, not_lt.mp later] at kept
  repeat' split at done
  all_goals cases done
  all_goals exact ⟨rfl, rfl, expired⟩

include safe

theorem commitClaim_kept {deletion : Option Deletion}
    (due : ∀ cutoff, expiredBefore = some cutoff → cutoff ≤ desk.now - config.grace)
    (done : commitClaim config expiredBefore captures desk = .ok (after, deletion)) :
    StepKept config desk after ∧ (deletion.isSome → IsClaimed after) := by
  unfold commitClaim at done
  split at done
  · cases done
    exact ⟨stepKept_refl safe, nofun⟩
  · rename_i vm found
    split at done
    · cases done
    · cases done
      exact ⟨stepKept_refl safe, nofun⟩
    · rename_i claim claims
      cases done
      have claimed := claimDeletion_claims claims
      have row : RowKept vm claim.vm :=
        ⟨claimed.expiry, fun _ => claimed.started, fun _ => claimed.started⟩
      obtain ⟨kept, stays⟩ := row_kept safe found row claim.retention
      refine ⟨⟨{ kept with claimed := fun _ => ⟨claim.vm, rfl, claimed.started⟩, early := ?_ },
        stays⟩, fun _ => ⟨claim.vm, rfl, claimed.started⟩⟩
      intro time listed receipt paid
      split at listed
      · rename_i fresh
        rcases List.mem_cons.mp listed with rfl | before
        · simp only [Bool.and_eq_true, Option.isNone_iff_eq_none, Option.isSome_iff_exists]
            at fresh
          obtain ⟨free, cutoff, expiring⟩ := fresh
          have alive : vm.status ≠ .destroyed := by
            intro destroyed
            have started := safe.destroyed vm found destroyed
            rw [free] at started
            cases started
          obtain ⟨expiry, there, before⟩ := claimed.expired free alive cutoff expiring
          obtain ⟨row, bound, here, holds, le⟩ := safe.paid receipt paid
          rw [found] at here
          cases here
          rw [there] at holds
          cases holds
          have cut := due cutoff expiring
          exact grace_passed le before cut
        · exact safe.early time before receipt paid
      · exact safe.early time listed receipt paid

theorem claim_kept
    (due : ∀ cutoff, expiredBefore = some cutoff → cutoff ≤ desk.now - config.grace) :
    StepKept config desk (claimStep config w expiredBefore captures fate desk) := by
  unfold claimStep
  generalize ran : transact (commitClaim config expiredBefore captures) fate desk = outcome
  rcases transact_cases _ _ _ _ _ ran with ⟨same, _, failed, _⟩ | ⟨value, done, _, reply⟩ |
    ⟨value, done, _, reply⟩
  · obtain ⟨after, answer⟩ := outcome
    cases same
    cases failed
    exact stepKept_refl safe
  · obtain ⟨after, answer⟩ := outcome
    cases reply
    obtain ⟨kept, claimed⟩ := commitClaim_kept safe due done
    exact ⟨deletion_safe kept.1 claimed, fun before => kept.2 before⟩
  · obtain ⟨after, answer⟩ := outcome
    cases reply
    exact (commitClaim_kept safe due done).1

theorem retain_kept {deletion : Deletion} {manifest : Nat} {protects : Bool}
    (done : retainVm deletion manifest protects desk = .ok (after, value)) :
    StepKept config desk after := by
  unfold retainVm at done
  split at done
  · cases done
    exact stepKept_refl safe
  · rename_i vm record found
    split at done
    · cases done
      exact stepKept_refl safe
    · repeat' split at done
      all_goals cases done
      · exact stepKept_refl safe
      · exact stepKept_refl safe
      · refine row_kept safe found ?_ _
        exact ⟨rfl, fun started => started, nofun⟩

theorem finish_kept {deletion : Deletion} {cleaned : Bool}
    (claimed : IsClaimed desk) (done : finishDeletion deletion cleaned desk = .ok (after, value)) :
    StepKept config desk after := by
  obtain ⟨vm, found, started⟩ := claimed
  simp only [finishDeletion, found] at done
  cases done
  refine row_kept safe found ?_ _
  exact ⟨rfl, fun started => started, fun _ => started⟩

omit safe

theorem ended_kept (kept : StepKept config desk after) :
    StepKept config desk { after with deletions := update after.deletions w none } :=
  ⟨deletion_safe kept.1 nofun, fun claimed => kept.2 claimed⟩

theorem expiryStep_kept (step : ExpiryStep) (safe : ExpirySafe config desk)
    (may : mayExpire step desk) : StepKept config desk (expiryStep config step desk) := by
  cases step with
  | tick elapsed =>
    refine ⟨{ safe with due := ?_ },
      fun claimed => ⟨claimed, rfl⟩⟩
    intro w cutoff runs
    have before := safe.due w cutoff runs
    exact before.trans (Nat.sub_le_sub_right (Nat.le_add_right _ _) _)
  | create owner expiresAt =>
    simp only [expiryStep]
    split
    · rename_i absent
      have unclaimed : ¬ IsClaimed desk := by
        rintro ⟨vm, found, _⟩
        rw [absent] at found
        cases found
      refine ⟨⟨?_, fun w deletion runs => absurd (safe.deleting w deletion runs) unclaimed,
        fun some => absurd (safe.claimed some) unclaimed, ?_, safe.due, safe.early⟩,
        fun claimed => absurd claimed unclaimed⟩
      · intro vm there destroyed
        cases there
        cases destroyed
      · intro receipt listed
        obtain ⟨vm, _, found, _⟩ := safe.paid receipt listed
        rw [absent] at found
        cases found
    · exact stepKept_refl safe
  | account enabled =>
    exact ⟨{ safe with },
      fun claimed => ⟨claimed, rfl⟩⟩
  | elsewhere written =>
    simp only [expiryStep]
    split
    · exact stepKept_refl safe
    · rename_i vm found
      refine row_kept safe found ?_ _
      exact ⟨rfl, fun started => started, fun destroyed => absurd destroyed may⟩
  | extend request fate => exact transact_kept safe fun after value done => extend_kept safe done
  | resume power starts fate =>
    exact transact_kept safe fun after value done => resume_kept safe done
  | scan w =>
    simp only [expiryStep]
    split
    · exact stepKept_refl safe
    · split
      · exact ⟨sweep_safe safe nofun, fun claimed => ⟨claimed, rfl⟩⟩
      · exact stepKept_refl safe
  | look w suspends fate =>
    simp only [expiryStep]
    split
    · exact look_kept safe
    · exact stepKept_refl safe
  | expire w captures fate =>
    simp only [expiryStep]
    split
    · rename_i expiredBefore decided
      have due := safe.due w expiredBefore decided
      refine claim_kept (sweep_safe safe nofun) fun cutoff same => ?_
      cases same
      exact due
    · exact stepKept_refl safe
  | destroy w captures fate =>
    simp only [expiryStep]
    split
    · exact claim_kept safe nofun
    · exact stepKept_refl safe
  | retain w protects fate =>
    simp only [expiryStep]
    split
    · exact stepKept_refl safe
    · split
      · exact ended_kept (transact_kept safe fun after value done => retain_kept safe done)
      · exact stepKept_refl safe
  | finish w cleaned fate =>
    simp only [expiryStep]
    split
    · exact stepKept_refl safe
    rename_i deletion runs
    split
    · exact stepKept_refl safe
    · exact ended_kept (transact_kept safe fun after value done =>
        finish_kept safe (safe.deleting w deletion runs) done)
  | stop w =>
    have swept : StepKept config desk
        { desk with sweeps := update desk.sweeps w none } :=
      ⟨sweep_safe safe nofun, fun claimed => ⟨claimed, rfl⟩⟩
    exact ended_kept swept

end Steps

/-- In every run, a VM is claimed for its expiry only after the grace period of all its
paid extensions, and gets no extension once it is claimed. -/
theorem extensions_honoured (config : ExpiryConfig) (desk : ExpiryDesk)
    (first rest : List ExpiryStep) (start : ExpiryStart desk)
    (admitted : (expiries config).admits desk (first ++ rest)) :
    ExtensionsHonoured config ((expiries config).run desk first)
      ((expiries config).run desk (first ++ rest)) := by
  have safe : ExpirySafe config desk := by
    constructor
    · exact start.destroyed
    · intro w deletion runs
      rw [start.deletions w] at runs
      cases runs
    · exact fun some => absurd start.claims some
    · intro receipt listed
      rw [start.receipts] at listed
      cases listed
    · intro w cutoff runs
      rw [start.sweeps w] at runs
      cases runs
    · intro claimed listed
      rw [start.claims] at listed
      cases listed
  have keeps := @Protocol.run_keeps _ _ (expiries config) (ExpirySafe config)
    (fun step _ safe may => (expiryStep_kept step safe may).1)
  have early := (keeps _ desk safe admitted).early
  rw [Protocol.admits_append] at admitted
  refine ⟨early, fun vm found started => ?_⟩
  rw [Protocol.run_append]
  have stays := @Protocol.run_related _ _ (expiries config) (ExpirySafe config) ClaimStays
    (fun _ claimed => ⟨claimed, rfl⟩)
    (fun _ _ _ first rest claimed =>
      have next := first claimed
      have last := rest next.1
      ⟨last.1, last.2.trans next.2⟩)
    (fun step _ safe may => expiryStep_kept step safe may) rest _ (keeps _ desk safe admitted.1)
    admitted.2
  exact (stays ⟨vm, found, started⟩).2

def emptyExpiry : ExpiryDesk where
  now := 0
  ownerEnabled := true
  vm := none
  retention := none
  receipts := []
  expiryClaims := []
  sweeps _ := none
  deletions _ := none

def runningVm : ExpiringVm where
  owner := (none, none)
  status := .running
  expiresAt := none
  xcpngUuid := some 1

def boughtAndExtended : List ExpiryStep :=
  [.create (none, none) 100, .elsewhere runningVm, .tick 50,
    .extend ⟨true, 1, .running, true, .running⟩ .done]

/-- A pass finds it after the grace period of an hour, and deletes it. -/
def expiredAndDeleted : List ExpiryStep :=
  [.tick 100000, .scan 0, .look 0 true .done, .expire 0 true .done, .finish 0 true .done]

theorem emptyExpiry_start : ExpiryStart emptyExpiry where
  receipts := rfl
  claims := rfl
  sweeps _ := rfl
  deletions _ := rfl
  destroyed _ found := by cases found

theorem boughtAndExtended_may :
    (expiries ⟨3600, false⟩).admits emptyExpiry (boughtAndExtended ++ expiredAndDeleted) := by
  have alive : runningVm.status ≠ .destroyed := nofun
  exact ⟨trivial, alive, trivial, trivial, trivial, trivial, trivial, trivial, trivial, trivial⟩

theorem extended_vm_expires : ExtensionsHonoured ⟨3600, false⟩
      ((expiries ⟨3600, false⟩).run emptyExpiry boughtAndExtended)
      ((expiries ⟨3600, false⟩).run emptyExpiry (boughtAndExtended ++ expiredAndDeleted)) :=
  extensions_honoured ⟨3600, false⟩ emptyExpiry boughtAndExtended expiredAndDeleted
    emptyExpiry_start boughtAndExtended_may

end HyruleCloud.Expiry
