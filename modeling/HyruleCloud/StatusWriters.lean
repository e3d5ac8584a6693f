import HyruleCloud.AdminStops

/-!
Everything that writes the status of one VM. The writers of `GuestLifecycle` lock the row
and look at it again. Three more belong to orchestrator.py and domains/service.py: a
simulated provisioning, which locks the row without looking at its status,
`mark_vm_failed`, and the failure of a bundle, which both read the row without a lock.
`provisioned_at` is written with the delivery and never cleared.
-/

namespace HyruleCloud.Statuses

open Interaction Expiry Lifecycle

/-- A simulated `_provision_vm_owned`: it has read the status, then that there is neither a
receipt nor a guest. -/
inductive Attempt where
  | begun | simulating

/-- Who fails a VM after an unlocked read: `mark_vm_failed`, or `_retry_or_fail_job` for
the VM of a bundle. -/
inductive FailureWriter where
  | markVmFailed | retryOrFailJob

/-- `receipt` iff a row of `vm_guest_results` exists. An unlocked writer notes the status
that it has read. -/
structure StatusDesk where
  lifecycle : LifecycleDesk
  provisionedAt : Option Time
  receipt : Bool
  attempts : ProcessId → Option Attempt
  failures : ProcessId → Option VMStatus

def goesOnFailing : FailureWriter → VMStatus → Bool
  | .markVmFailed, status => status ≠ .destroyed && status ≠ .failed
  | .retryOrFailJob, status => status = .provisioning || status = .failed

def setVm (vm : ExpiringVm) (desk : StatusDesk) : StatusDesk :=
  { desk with lifecycle := { desk.lifecycle with vm := some vm } }

/-- The locked part of `_simulate_provisioning`. -/
def simulatedVm (vm : ExpiringVm) : ExpiringVm :=
  { vm with status := if isRestricted vm.suspension then .suspended else .ready }

def simulateProvisioning : Transaction StatusDesk Unit := fun desk =>
  match desk.lifecycle.vm with
  | none => .ok (desk, ())
  | some vm => .ok ({ setVm (simulatedVm vm) desk with
      provisionedAt := some desk.lifecycle.now }, ())

/-- The flush writes the columns that differ from what was read, and asks nothing. -/
def failedVm (read : VMStatus) (vm : ExpiringVm) : ExpiringVm :=
  { vm with
    status := if read = .failed then vm.status else .failed
    hasPrefix := false }

def writeFailure (read : VMStatus) : Transaction StatusDesk Unit := fun desk =>
  match desk.lifecycle.vm with
  | none => .ok (desk, ())
  | some vm => .ok (setVm (failedVm read vm) desk, ())

inductive StatusStep where
  | lifecycle (step : LifecycleStep)
  | report
  | begin_ (w : ProcessId)
  | inspect (w : ProcessId)
  | simulate (w : ProcessId) (fate : Fate)
  | readVm (writer : FailureWriter) (w : ProcessId)
  | failVm (w : ProcessId) (fate : Fate)

/-- The delivery of `_provision_vm_owned` is committed. -/
def delivers (step : LifecycleStep) (desk : LifecycleDesk) : Bool :=
  match step, desk.vm with
  | .actor (.deliver uuid power stops) fate, some vm =>
    (deliverVm uuid power stops vm).isSome && fate ≠ .failed
  | _, _ => false

def setAttempt (w : ProcessId) (attempt : Option Attempt) (desk : StatusDesk) : StatusDesk :=
  { desk with attempts := Function.update desk.attempts w attempt }

def setFailure (w : ProcessId) (read : Option VMStatus) (desk : StatusDesk) : StatusDesk :=
  { desk with failures := Function.update desk.failures w read }

def statusStep (config : ExpiryConfig) (step : StatusStep) (desk : StatusDesk) : StatusDesk :=
  match step with
  | .lifecycle step => { desk with
      lifecycle := lifecycleStep config step desk.lifecycle
      provisionedAt := if delivers step desk.lifecycle then some desk.lifecycle.now
        else desk.provisionedAt }
  | .report => { desk with receipt := true }
  | .begin_ w => match desk.lifecycle.vm with
      | none => desk
      | some vm => if vm.status = .provisioning then setAttempt w (some .begun) desk else desk
  -- a real attempt that was interrupted is not simulated
  | .inspect w => match desk.attempts w, desk.lifecycle.vm with
      | some .begun, some vm =>
        if desk.receipt || vm.xcpngUuid.isSome then setAttempt w none desk
        else setAttempt w (some .simulating) desk
      | _, _ => desk
  | .simulate w fate => match desk.attempts w with
      | some .simulating => setAttempt w none (transact simulateProvisioning fate desk).1
      | _ => desk
  | .readVm writer w => match desk.lifecycle.vm with
      | none => desk
      | some vm =>
        if goesOnFailing writer vm.status then setFailure w (some vm.status) desk else desk
  | .failVm w fate => match desk.failures w with
      | none => desk
      | some read => setFailure w none (transact (writeFailure read) fate desk).1

def startsGuest (account : AccountId) (vm : ExpiringVm) (desk : LifecycleDesk) : Bool :=
  desk.accounts account = some true && vm.owner.1 = some account &&
    vm.suspension = some .accountDisabled && vm.xcpngUuid.isSome && !hasEnded vm.status &&
    !isPast vm.expiresAt desk.now

/-- A simulation ends on a VM that has not ended, and that nobody deletes unless it stays
suspended; an unlocked failure is written to a VM that is neither destroyed nor was ever
provisioned, and so is that of an attempt; the resume of an account starts no guest that is
being deleted; and no VM is retained after it has failed. -/
def mayWrite (step : StatusStep) (desk : StatusDesk) : Prop :=
  ∀ vm, desk.lifecycle.vm = some vm → match step with
  | .simulate w _ => desk.attempts w = some .simulating →
      vm.status ≠ .destroyed ∧ vm.status ≠ .failed ∧
        (vm.deletionStartedAt.isSome → isRestricted vm.suspension = true ∨ vm.status = .ready)
  | .failVm w _ => ∀ read, desk.failures w = some read → read ≠ .failed →
      vm.status ≠ .destroyed ∧ desk.provisionedAt = none
  | .lifecycle (.actor (.fail _ _) _) => vm.status = .provisioning → desk.provisionedAt = none
  | .lifecycle (.actor (.resumeResources account _ _) _) =>
    startsGuest account vm desk.lifecycle = true → vm.deletionStartedAt = none
  | .lifecycle (.expiry (.retain w _ _)) => ∀ deletion, desk.lifecycle.deletions w = some deletion →
      deletion.manifest.isSome → vm.status ≠ .failed
  | _ => True

def statuses (config : ExpiryConfig) : Protocol StatusDesk StatusStep :=
  ⟨statusStep config, mayWrite⟩

structure StatusStart (desk : StatusDesk) : Prop where
  vm : desk.lifecycle.vm = none
  provisionedAt : desk.provisionedAt = none
  deletions : ∀ w, desk.lifecycle.deletions w = none

/-- `deletion_started_at` is set in every state of a run. -/
def ClaimHeld (config : ExpiryConfig) (desk : StatusDesk) (steps : List StatusStep) : Prop :=
  ∀ done, done <+: steps → IsClaimed ((statuses config).run desk done).lifecycle

structure StatusesKept (config : ExpiryConfig) (desk : StatusDesk) (steps : List StatusStep) :
    Prop where
  destroyed : ∀ vm, desk.lifecycle.vm = some vm → vm.status = .destroyed →
    ∃ row, ((statuses config).run desk steps).lifecycle.vm = some row ∧ row.status = .destroyed
  failed : ∀ vm, desk.lifecycle.vm = some vm → vm.status = .failed →
    ∃ row, ((statuses config).run desk steps).lifecycle.vm = some row ∧
      (row.status = .failed ∨ row.status = .destroyed)
  provisioned : desk.provisionedAt.isSome →
    ∀ row, ((statuses config).run desk steps).lifecycle.vm = some row → row.status ≠ .failed
  claimed : ClaimHeld config desk steps → ∀ vm, desk.lifecycle.vm = some vm →
    ∀ row, ((statuses config).run desk steps).lifecycle.vm = some row → isRunning row = true →
      row.status = vm.status

end HyruleCloud.Statuses
