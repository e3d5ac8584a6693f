import HyruleCloud.Erasure
import HyruleCloud.FailureMessages

/-!
VM creation, provisioning, bundle failure and recovery with the texts of all exceptions:
`_provision_vm_owned`, `_simulate_provisioning` and `mark_vm_failed` of orchestrator.py, the
failed request of api/routes.py and `_retry_or_fail_job` of domains/service.py. A step is a
statement that may raise, and its argument tells how it ends.
-/

namespace HyruleCloud.FailureTexts

open Interaction

inductive Reply (β : Type) where
  | ok (value : β)
  | raised (error : Raised)

/-- How the clone is obtained, or recovered before its UUID was stored. -/
inductive CloneReply where
  | gone
  | tracked
  | recovered (uuid : Nat)
  | created (uuid : Nat)
  | restricted (uuid : Nat)
  | recoveryFailed
  | pending (cause : Option Raised)
  | superseded
  | raised (error : Raised)

inductive Power where
  | running | halted | unknown

inductive GuestOutcome where
  | succeeded | setupFailed | initFailed | unverified | superseded

inductive FinalReceipt where
  | matching | changed | unsuccessful

structure Probes where
  ssh : Bool
  dnsVerified : Bool
  dnsResolution : DNSResolutionStatus

inductive Stage where
  | idle
  | telling (vm : VmId) (events : List EventContent) (next : Stage)
  | started (vm : VmId)
  | simulating (vm : VmId)
  | cloning (vm : VmId)
  | restricting (vm : VmId)
  | checkingReceipt (vm : VmId)
  | awaitingIpv6 (vm : VmId)
  | publishing (vm : VmId) (ipv6 : String)
  | probing (vm : VmId) (ipv6 : String)
  | waitingForGuest (vm : VmId) (ipv6 : String) (probes : Probes)
  | finishing (vm : VmId) (ipv6 : String) (probes : Probes)
  | attaching (vm : VmId) (fqdn : String)
  | enqueuing (vm : VmId)
  | failing (vm : VmId) (failure : Failure)
  | releasing (vm : VmId) (failure : Failure)
  | refunding (vm : VmId) (failure : Failure)
  | marking (vm : VmId) (reason : String)

structure FailureDesk where
  now : Time
  vms : Table VmId GuestVm
  events : VmId → List VMEventRow
  stages : ProcessId → Stage
  logs : List String
  refunds : List (VmId × String)
  orderErrors : Table OrderId String
  jobErrors : Table OrderId String

structure ProvisionConfig where
  realProvisioning : Bool
  hostname : VmId → String

/-- `message[:500] if message else None` -/
def storedMessage (message : Option String) : Option String :=
  if isBlank message then none
  else message.map fun text => String.ofList (text.toList.take 500)

namespace FailureDesk

variable (config : ProvisionConfig) (desk : FailureDesk)

def goOn (w : ProcessId) (stage : Stage) : FailureDesk :=
  { desk with stages := Function.update desk.stages w stage }

def log (line : String) : FailureDesk := { desk with logs := line :: desk.logs }

def setVm (vm : VmId) (row : GuestVm) : FailureDesk := { desk with vms := desk.vms.put vm row }

def addEvent (vm : VmId) (content : EventContent) : FailureDesk :=
  { desk with events := Function.update desk.events vm (desk.events vm ++
      [⟨desk.now, { content with message := storedMessage content.message }⟩]) }

def addRefund (vm : VmId) (reason : String) : FailureDesk :=
  { desk with refunds := (vm, reason) :: desk.refunds }

def remaining (vm : VmId) (events : List EventContent) (next : Stage) : Stage :=
  if events.isEmpty then next else .telling vm events next

/-- `record_vm_event` never raises. -/
def tell (w : ProcessId) (vm : VmId) (events : List EventContent) (next : Stage)
    (reply : Reply Unit) : FailureDesk :=
  match events, reply with
  | [], _ => desk.goOn w next
  | content :: rest, .ok _ => (desk.addEvent vm content).goOn w (remaining vm rest next)
  | _ :: rest, .raised error => (desk.log error.text).goOn w (remaining vm rest next)

def provision (w : ProcessId) (vm : VmId) (reply : Reply Unit) : FailureDesk :=
  match reply with
  | .raised error => desk.log error.text
  | .ok _ => match desk.vms vm with
      | none => desk
      | some row =>
        if row.status ≠ .provisioning then desk
        else if row.provisionStarted then desk.goOn w (.started vm)
        else (desk.setVm vm { row with provisionStarted := true }).goOn w
          (.telling vm [⟨.provisioningStarted, some "Provisioning started.", none⟩]
            (.started vm))

def simulatedEvent : EventContent :=
  ⟨.provisioningSimulated, some ("SIMULATED provisioning: this deployment ran in simulation " ++
    "mode. No real virtual machine, DNS record, or network was created."), some .simulated⟩

def configEvents (row : GuestVm) : List EventContent :=
  ⟨.cloudInitPrepared,
    some "First-boot configuration prepared (SSH key, firewall defaults).",
    some (.config row.os row.openPorts)⟩ ::
  (if isBlank row.setupScript then []
    else [⟨.setupScriptInjected, some ("Your setup script was injected into first-boot " ++
      "user-data and will run as root once the VM boots. Completion must be verified before " ++
      "the VM is ready; detailed output remains in /var/log/hyrule-setup.log inside your VM."),
      none⟩])

/-- The row is read and the first-boot configuration rendered. Without real provisioning an
interrupted real attempt is left alone. -/
def prepare (w : ProcessId) (vm : VmId) (receipt : Bool) (reply : Reply Unit) : FailureDesk :=
  match config.realProvisioning, reply with
  | true, .raised error => desk.goOn w (.failing vm (.raised error))
  | true, .ok _ => match desk.vms vm with
      | none => desk.goOn w .idle
      | some row => desk.goOn w (.telling vm (configEvents row) (.cloning vm))
  | false, .raised error => (desk.log error.text).goOn w .idle
  | false, .ok _ =>
    if receipt || (desk.vms vm).any fun row => row.xcpngUuid.isSome then desk.goOn w .idle
    else desk.goOn w (.telling vm [simulatedEvent] (.simulating vm))

/-- `_simulate_provisioning` -/
def simulate (w : ProcessId) (vm : VmId) (fakeIpv6 : String) (reply : Reply Unit) : FailureDesk :=
  match reply with
  | .raised error => (desk.log error.text).goOn w .idle
  | .ok _ => match desk.vms vm with
      | none => desk.goOn w .idle
      | some row =>
        let restricted := row.suspension = some .accountDisabled ∨
          row.suspension = some .manualAdmin
        (desk.setVm vm { row with
          ipv6 := some fakeIpv6
          status := if restricted then .suspended else .ready
          launchProof := { row.launchProof with
            dnsAaaaVerified := some true
            sshSmokeStatus := some .passed
            dnsResolutionStatus := some .passed } }).goOn w
          (.telling vm [⟨.ready, some ("SIMULATED: the VM was marked ready without real " ++
            "infrastructure."), some (.simulatedReady row.hostname fakeIpv6)⟩] .idle)

def createdEvent (row : GuestVm) : EventContent :=
  ⟨.vmCreated, some "Virtual machine created and powered on.", some (.machine row.resources)⟩

def adopt (w : ProcessId) (vm : VmId) (uuid : Nat) : FailureDesk :=
  match desk.vms vm with
  | none => desk.goOn w .idle
  | some row => (desk.setVm vm { row with xcpngUuid := some uuid }).goOn w
      (.telling vm [createdEvent row] (.restricting vm))

def clone (w : ProcessId) (vm : VmId) : CloneReply → FailureDesk
  | .gone => desk.goOn w .idle
  | .tracked => desk.goOn w (.restricting vm)
  | .recovered uuid | .created uuid => desk.adopt w vm uuid
  | .restricted uuid => match desk.vms vm with
      | none => desk.goOn w .idle
      | some row => (desk.setVm vm { row with xcpngUuid := some uuid }).goOn w .idle
  | .recoveryFailed => desk.goOn w (.failing vm (.provisioningFailed guestRecoveryFailure none))
  | .pending cause => desk.goOn w (.failing vm (.recoveryPending cause))
  | .superseded => desk.goOn w (.failing vm .generationChanged)
  | .raised error => desk.goOn w (.failing vm (.raised error))

/-- `_stop_restricted_provisioned_guest` -/
def restrict (w : ProcessId) (vm : VmId) : Reply Bool → FailureDesk
  | .ok true => desk.goOn w .idle
  | .ok false => desk.goOn w (.checkingReceipt vm)
  | .raised error => desk.goOn w (.failing vm (.raised error))

def checkReceipt (w : ProcessId) (vm : VmId) : Reply Bool → FailureDesk
  | .ok true => desk.goOn w (.awaitingIpv6 vm)
  | .ok false => desk.goOn w (.failing vm (.provisioningFailed guestReportFailure none))
  | .raised error => desk.goOn w (.failing vm (.raised error))

def noIpv6 (expected : String) : Raised where
  mro := ["TimeoutError", "OSError", "Exception", "BaseException", "object"]
  text := "VM did not report expected IPv6 " ++ expected ++ " within 120s"

def awaitIpv6 (w : ProcessId) (vm : VmId) (expected : String) :
    Reply (Option String) → FailureDesk
  | .ok none => desk.goOn w (.failing vm (.raised (noIpv6 expected)))
  | .ok (some ipv6) => desk.goOn w (.telling vm
      [⟨.networkReady, some "The VM booted and brought up its IPv6 address.",
        some (.network ipv6)⟩] (.publishing vm ipv6))
  | .raised error => desk.goOn w (.failing vm (.raised error))

def publish (w : ProcessId) (vm : VmId) (ipv6 : String) : Reply Unit → FailureDesk
  | .ok _ => desk.goOn w (.telling vm
      [⟨.dnsCreated, some "DNS AAAA record published for your hostname.",
        some (.record (config.hostname vm) ipv6)⟩] (.probing vm ipv6))
  | .raised error => desk.goOn w (.failing vm (.provisioningFailed dnsFailure (some error)))

def sshEvent (reachable : Bool) : EventContent :=
  if reachable then ⟨.sshReachable, some "SSH accepted a TCP connection on port 22.", none⟩
  else ⟨.sshUnreachable, some ("SSH was not reachable on port 22 within the check window. " ++
    "Delivery is pending guest initialization verification; " ++
    "first boot may still be in progress."), none⟩

def probe (w : ProcessId) (vm : VmId) (ipv6 : String) : Reply Probes → FailureDesk
  | .ok probes => desk.goOn w (.telling vm [sshEvent probes.ssh] (.waitingForGuest vm ipv6 probes))
  | .raised error => desk.goOn w (.failing vm (.raised error))

/-- `_wait_for_guest_result` -/
def waitForGuest (w : ProcessId) (vm : VmId) (ipv6 : String) (probes : Probes) :
    Reply GuestOutcome → FailureDesk
  | .ok .succeeded => desk.goOn w (.finishing vm ipv6 probes)
  | .ok .setupFailed => desk.goOn w (.failing vm (.provisioningFailed guestSetupFailure none))
  | .ok .initFailed => desk.goOn w (.failing vm (.provisioningFailed guestInitFailure none))
  | .ok .unverified => desk.goOn w (.failing vm (.provisioningFailed guestReportFailure none))
  | .ok .superseded => desk.goOn w (.failing vm .generationChanged)
  | .raised error => desk.goOn w (.failing vm (.raised error))

def mayFinish (row : GuestVm) : Bool :=
  !row.deletionStarted && (row.status = .provisioning || (row.status = .suspended &&
    (row.suspension = some .accountDisabled || row.suspension = some .manualAdmin)))

def finishedProof (proof : LaunchProofMeta) (probes : Probes) : LaunchProofMeta :=
  { proof with
    sshSmokeStatus := some (if probes.ssh then .passed else .failed)
    dnsAaaaVerified := some probes.dnsVerified
    dnsResolutionStatus := some probes.dnsResolution
    customerMessage := if probes.dnsResolution = .failed then none else proof.customerMessage }

def readyEvent (row : GuestVm) (ipv6 : String) (probes : Probes) : EventContent :=
  ⟨.ready, some "Your VM is ready.",
    some (.ready row.hostname ipv6 probes.dnsVerified probes.ssh)⟩

def stopped (row : GuestVm) (power : Reply Power) : Except Failure Unit :=
  if row.suspension = none then .ok ()
  else match power with
    | .raised error => .error (.recoveryPending (some error))
    | .ok .unknown => .error (.recoveryPending none)
    | .ok _ => .ok ()

def finish (w : ProcessId) (vm : VmId) (ipv6 : String) (probes : Probes) (receipt : FinalReceipt)
    (power : Reply Power) (commit : Reply Unit) : FailureDesk :=
  match desk.vms vm with
  | none => desk.goOn w .idle
  | some row =>
    if !mayFinish row then desk.goOn w .idle
    else match receipt with
      | .changed => desk.goOn w (.failing vm .generationChanged)
      | .unsuccessful => desk.goOn w (.failing vm (.provisioningFailed guestReportFailure none))
      | .matching => match stopped row power, commit with
          | .error failure, _ => desk.goOn w (.failing vm failure)
          | .ok _, .raised error =>
            desk.goOn w (.failing vm (if row.suspension = none then .raised error
              else .recoveryPending (some error)))
          | .ok _, .ok _ => (desk.setVm vm { row with
              ipv6 := some ipv6
              status := if row.suspension = none then .ready else .suspended
              launchProof := finishedProof row.launchProof probes }).goOn w
              (.telling vm [readyEvent row ipv6 probes] (match row.domain with
                | none => .idle
                | some fqdn => .attaching vm fqdn))

/-- `_register_custom_domain` -/
def attach (w : ProcessId) (vm : VmId) (fqdn : String) : Reply Unit → FailureDesk
  | .ok _ => desk.goOn w (.telling vm [⟨.customDomainAttached,
      some "Your custom domain now points at this VM.", some (.domain fqdn)⟩] .idle)
  | .raised error => (desk.log error.text).goOn w (.telling vm [⟨.customDomainAttachFailed,
      some ("Your custom domain could not be pointed at this VM yet. The VM is running and " ++
        "the attachment will be retried; the auto subdomain works in the meantime."),
      some (.domain fqdn)⟩] (.enqueuing vm))

def enqueue (w : ProcessId) : Reply Unit → FailureDesk
  | .ok _ => desk.goOn w .idle
  | .raised error => (desk.log error.text).goOn w .idle

def failedEvent (message : String) : EventContent := ⟨.provisioningFailed, some message, none⟩

def guestStopped (row : GuestVm) (power : Reply Power) : Bool :=
  row.xcpngUuid.isNone || match power with
    | .ok .unknown | .raised _ => false
    | .ok _ => true

def powerText : Reply Power → String
  | .raised error => error.text
  | .ok _ => "failed_provision_guest_power_unknown"

def committed (w : ProcessId) (after : FailureDesk) (commit : Reply Unit) : FailureDesk :=
  match commit with
  | .ok _ => after
  | .raised error => (desk.log error.text).goOn w .idle

def failRow (w : ProcessId) (vm : VmId) (failure : Failure) (message : String)
    (power : Reply Power) (commit : Reply Unit) : FailureDesk :=
  let told : Stage := .telling vm [failedEvent message] (.releasing vm failure)
  match desk.vms vm with
  | none => desk.committed w (desk.goOn w told) commit
  | some row =>
    if row.status ≠ .provisioning then desk.goOn w .idle
    else if !guestStopped row power then (desk.log (powerText power)).goOn w .idle
    else desk.committed w ((desk.setVm vm { row with
      status := .failed
      error := some message
      launchProof := { row.launchProof with customerMessage := some message } }).goOn w told)
      commit

def fail (w : ProcessId) (vm : VmId) (failure : Failure) (power : Reply Power)
    (commit : Reply Unit) : FailureDesk :=
  let noted := desk.log (internalFailureDetail failure)
  match failure with
  | .generationChanged | .recoveryPending _ => noted.goOn w .idle
  | .provisioningFailed .. | .raised _ =>
    noted.failRow w vm failure (customerFailureMessage (.exception failure)) power commit

def release (w : ProcessId) (vm : VmId) (failure : Failure) : Reply Unit → FailureDesk
  | .ok _ => desk.goOn w (.refunding vm failure)
  | .raised error => (desk.log error.text).goOn w (.refunding vm failure)

def refund (w : ProcessId) (vm : VmId) (failure : Failure) : Reply Unit → FailureDesk
  | .ok _ => (desk.addRefund vm (internalFailureDetail failure)).goOn w .idle
  | .raised error => (desk.log error.text).goOn w .idle

def createFailed (w : ProcessId) (vm : VmId) (error : Raised) : Reply Unit → FailureDesk
  | .ok _ => ((desk.log error.text).addRefund vm ("vm_create_failed: " ++ error.text)).goOn w
      (.marking vm ("create failed post-charge: " ++ error.text))
  | .raised later => (desk.log error.text).log later.text

/-- `mark_vm_failed` -/
def mark (w : ProcessId) (vm : VmId) (reason : String) (reply : Reply Unit) : FailureDesk :=
  let noted := desk.log reason
  let message := customerFailureMessage (.reason reason)
  match reply with
  | .raised error => (noted.log error.text).goOn w .idle
  | .ok _ => match desk.vms vm with
      | none => noted.goOn w .idle
      | some row =>
        if row.status = .destroyed ∨ row.status = .failed then noted.goOn w .idle
        else (noted.setVm vm { row with
          status := .failed
          error := some message
          ipv6Prefix := none }).goOn w (.telling vm [failedEvent message] .idle)

def failBundleVm (vm : VmId) (error : Raised) : FailureDesk :=
  match desk.vms vm with
  | none => desk
  | some row =>
    if row.status = .provisioning ∨ row.status = .failed then desk.setVm vm { row with
      status := .failed
      error := some (customerFailureMessage (.exception (.raised error)))
      ipv6Prefix := none }
    else desk

/-- `_retry_or_fail_job`; `vm` is the planned VM of a delivered domain, if it is still only
claimed. -/
def retryOrFailJob (order : OrderId) (vm : Option VmId) (again : Bool) (error : Raised)
    (commit : Reply Unit) : FailureDesk :=
  match commit with
  | .raised later => desk.log later.text
  | .ok _ =>
    let noted := { desk with jobErrors := desk.jobErrors.put order error.text }
    if again then noted
    else
      let failed := { noted.log error.text with
        orderErrors := noted.orderErrors.put order error.text }
      match vm with
      | none => failed
      | some vm => failed.failBundleVm vm error

end FailureDesk

inductive ProvisionStep where
  | tick
  | create (vm : VmId) (row : GuestVm)
  | lifecycle (vm : VmId) (status : VMStatus) (suspension : Option Suspension) (deletion : Bool)
  | provision (w : ProcessId) (vm : VmId) (reply : Reply Unit)
  | tell (w : ProcessId) (reply : Reply Unit)
  | prepare (w : ProcessId) (receipt : Bool) (reply : Reply Unit)
  | simulate (w : ProcessId) (fakeIpv6 : String) (reply : Reply Unit)
  | clone (w : ProcessId) (reply : CloneReply)
  | restrict (w : ProcessId) (reply : Reply Bool)
  | checkReceipt (w : ProcessId) (reply : Reply Bool)
  | awaitIpv6 (w : ProcessId) (expected : String) (reply : Reply (Option String))
  | publish (w : ProcessId) (reply : Reply Unit)
  | probe (w : ProcessId) (reply : Reply Probes)
  | waitForGuest (w : ProcessId) (reply : Reply GuestOutcome)
  | finish (w : ProcessId) (receipt : FinalReceipt) (power : Reply Power) (commit : Reply Unit)
  | attach (w : ProcessId) (reply : Reply Unit)
  | enqueue (w : ProcessId) (reply : Reply Unit)
  | fail (w : ProcessId) (power : Reply Power) (commit : Reply Unit)
  | release (w : ProcessId) (reply : Reply Unit)
  | refund (w : ProcessId) (reply : Reply Unit)
  | createFailed (w : ProcessId) (vm : VmId) (error : Raised) (refund : Reply Unit)
  | markVmFailed (w : ProcessId) (vm : VmId) (reason : String)
  | mark (w : ProcessId) (reply : Reply Unit)
  | retryOrFailJob (order : OrderId) (vm : Option VmId) (again : Bool) (error : Raised)
      (commit : Reply Unit)

def provisionStep (config : ProvisionConfig) (step : ProvisionStep) (desk : FailureDesk) :
    FailureDesk :=
  match step with
  | .tick => { desk with now := desk.now + 1 }
  | .create vm row => match desk.vms vm with
      | some _ => desk
      | none => desk.setVm vm row
  | .lifecycle vm status suspension deletion => match desk.vms vm with
      | none => desk
      | some row => desk.setVm vm { row with
          status := status, suspension := suspension, deletionStarted := deletion }
  | .provision w vm reply => match desk.stages w with
      | .idle => desk.provision w vm reply
      | _ => desk
  | .tell w reply => match desk.stages w with
      | .telling vm events next => desk.tell w vm events next reply
      | _ => desk
  | .prepare w receipt reply => match desk.stages w with
      | .started vm => desk.prepare config w vm receipt reply
      | _ => desk
  | .simulate w fakeIpv6 reply => match desk.stages w with
      | .simulating vm => desk.simulate w vm fakeIpv6 reply
      | _ => desk
  | .clone w reply => match desk.stages w with
      | .cloning vm => desk.clone w vm reply
      | _ => desk
  | .restrict w reply => match desk.stages w with
      | .restricting vm => desk.restrict w vm reply
      | _ => desk
  | .checkReceipt w reply => match desk.stages w with
      | .checkingReceipt vm => desk.checkReceipt w vm reply
      | _ => desk
  | .awaitIpv6 w expected reply => match desk.stages w with
      | .awaitingIpv6 vm => desk.awaitIpv6 w vm expected reply
      | _ => desk
  | .publish w reply => match desk.stages w with
      | .publishing vm ipv6 => desk.publish config w vm ipv6 reply
      | _ => desk
  | .probe w reply => match desk.stages w with
      | .probing vm ipv6 => desk.probe w vm ipv6 reply
      | _ => desk
  | .waitForGuest w reply => match desk.stages w with
      | .waitingForGuest vm ipv6 probes => desk.waitForGuest w vm ipv6 probes reply
      | _ => desk
  | .finish w receipt power commit => match desk.stages w with
      | .finishing vm ipv6 probes => desk.finish w vm ipv6 probes receipt power commit
      | _ => desk
  | .attach w reply => match desk.stages w with
      | .attaching vm fqdn => desk.attach w vm fqdn reply
      | _ => desk
  | .enqueue w reply => match desk.stages w with
      | .enqueuing _ => desk.enqueue w reply
      | _ => desk
  | .fail w power commit => match desk.stages w with
      | .failing vm failure => desk.fail w vm failure power commit
      | _ => desk
  | .release w reply => match desk.stages w with
      | .releasing vm failure => desk.release w vm failure reply
      | _ => desk
  | .refund w reply => match desk.stages w with
      | .refunding vm failure => desk.refund w vm failure reply
      | _ => desk
  | .createFailed w vm error refund => match desk.stages w with
      | .idle => desk.createFailed w vm error refund
      | _ => desk
  | .markVmFailed w vm reason => match desk.stages w with
      | .idle => desk.goOn w (.marking vm reason)
      | _ => desk
  | .mark w reply => match desk.stages w with
      | .marking vm reason => desk.mark w vm reason reply
      | _ => desk
  | .retryOrFailJob order vm again error commit =>
    desk.retryOrFailJob order vm again error commit

def provisionings (config : ProvisionConfig) : Protocol FailureDesk ProvisionStep :=
  ⟨provisionStep config, fun _ _ => True⟩

structure CustomerView where
  error : Option String
  launchProofMetadata : LaunchProofMeta
  events : List VMEventRow
  launchProof : LaunchProof
  logs : VMLogs

def FailureDesk.customerView (desk : FailureDesk) (vm : VmId) (quote : Option QuoteStatus) :
    Option CustomerView :=
  (desk.vms vm).map fun row =>
    { error := row.error
      launchProofMetadata := row.launchProof
      events := desk.events vm
      launchProof := buildLaunchProof row quote
      logs := vmLogs row (desk.events vm) }

end HyruleCloud.FailureTexts
