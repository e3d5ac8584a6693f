import HyruleCloud.Store

/-!
What a customer is told of a provisioning: the fixed messages of services/vm_events.py, the
columns, the metadata and the events of a VM, and the views that merge them,
`build_launch_proof` of services/launch_proof.py and `vm_log_events`.
-/

namespace HyruleCloud.FailureTexts

/-- An exception of somebody else's code: the names of its classes along `__mro__`, and
`str` of it. -/
structure Raised where
  mro : List String
  text : String

inductive Failure where
  | provisioningFailed (customerMessage : String) (cause : Option Raised)
  | generationChanged
  | recoveryPending (cause : Option Raised)
  | raised (error : Raised)

def guestSetupFailure : String :=
  "Your setup script failed. The VM is retained for diagnosis; " ++
  "check /var/log/hyrule-setup.log in your VM. Contact support for recovery or refund status."

def guestInitFailure : String :=
  "Cloud-init did not complete successfully. The VM is retained for diagnosis; " ++
  "check cloud-init status in your VM. Contact support for recovery or refund status."

def guestReportFailure : String :=
  "Guest initialization could not be verified before the deadline. " ++
  "The VM is retained for diagnosis. Contact support for recovery or refund status."

def guestRecoveryFailure : String :=
  "Provisioning was interrupted and needs operator recovery. " ++
  "Contact support for guest recovery or refund status."

def orderStopped : String :=
  "The order was stopped. Contact support to review any payment or refund."

def timeoutFailure : String :=
  "Your VM did not come online within the provisioning window. " ++ orderStopped

def capacityFailure : String :=
  "There was not enough free capacity to build your VM. " ++ orderStopped

def dnsFailure : String := "Your VM's DNS record could not be published. " ++ orderStopped

def internalFailure : String :=
  "Provisioning failed because of a problem on our side. " ++ orderStopped

def legacyOrderStopped : String := "The order was stopped and any payment is refunded."

/-- `_LEGACY_FAILURE_MESSAGES` -/
def legacyFailureMessages : List (String × String) :=
  [("Your VM did not come online within the provisioning window. " ++ legacyOrderStopped,
      timeoutFailure),
    ("There was not enough free capacity to build your VM. " ++ legacyOrderStopped,
      capacityFailure),
    ("Your VM's DNS record could not be published. " ++ legacyOrderStopped, dnsFailure),
    ("Provisioning failed because of a problem on our side. " ++ legacyOrderStopped,
      internalFailure)]

def normalizeLegacyFailureMessage (message : String) : String :=
  (legacyFailureMessages.lookup message).getD message

/-- `_TYPE_NAME_MESSAGES` -/
def typeNameMessages : List (String × String) :=
  [("TimeoutError", timeoutFailure), ("VMCapacityError", capacityFailure)]

inductive FailureSource where
  | exception (failure : Failure)
  | reason (text : String)

def Raised.customerMessage (error : Raised) : String :=
  (error.mro.findSome? fun name => typeNameMessages.lookup name).getD internalFailure

def customerFailureMessage : FailureSource → String
  | .exception (.provisioningFailed message _) => message
  | .exception (.raised error) => error.customerMessage
  | .exception _ | .reason _ => internalFailure

def Raised.named (error : Raised) : String := error.mro.headD "" ++ ": " ++ error.text

def withCause (described : String) : Option Raised → String
  | none => described
  | some cause => described ++ " <- " ++ cause.named

/-- `internal_failure_detail` -/
def internalFailureDetail : Failure → String
  | .provisioningFailed message cause =>
    withCause ("ProvisioningFailedError: " ++ message) cause
  | .generationChanged => "GuestGenerationChangedError: "
  | .recoveryPending cause => withCause "GuestRecoveryPendingError: " cause
  | .raised error => error.named

inductive SSHSmokeStatus where
  | notRun | passed | failed

inductive DNSResolutionStatus where
  | notRun | passed | failed
  deriving DecidableEq

/-- The `launch_proof` of the metadata. -/
structure LaunchProofMeta where
  dnsAaaaVerified : Option Bool := none
  sshSmokeStatus : Option SSHSmokeStatus := none
  dnsResolutionStatus : Option DNSResolutionStatus := none
  rollbackAvailable : Bool := false
  operatorMessage : Option String := none
  customerMessage : Option String := none

structure Resources where
  vcpu : Nat
  ramMb : Nat
  diskGb : Nat

/-- The columns of `vms` that a provisioning reads and writes. -/
structure GuestVm where
  status : VMStatus := .provisioning
  error : Option String := none
  launchProof : LaunchProofMeta := {}
  ipv6 : Option String := none
  ipv6Prefix : Option String := none
  hostname : Option String := none
  os : String := "debian-13"
  openPorts : List Nat := [22]
  setupScript : Option String := none
  resources : Resources := ⟨1, 1024, 10⟩
  domain : Option String := none
  ownerAccountId : Option AccountId := none
  paymentTx : Option String := none
  costTotal : Usd := 0
  provisionStarted : Bool := false
  deletionStarted : Bool := false
  suspension : Option Suspension := none
  xcpngUuid : Option Nat := none
  createdAt : Time := 0

inductive VMEventKey where
  | provisioningStarted | provisioningSimulated | cloudInitPrepared | setupScriptInjected
  | vmCreated | networkReady | dnsCreated | sshReachable | sshUnreachable
  | customDomainAttached | customDomainAttachFailed | ready | provisioningFailed

inductive EventDetail where
  | config (os : String) (openPorts : List Nat)
  | machine (resources : Resources)
  | network (ipv6 : String)
  | record (hostname ipv6 : String)
  | ready (hostname : Option String) (ipv6 : String) (dnsAaaaVerified sshReachable : Bool)
  | domain (fqdn : String)
  | simulated
  | simulatedReady (hostname : Option String) (ipv6 : String)

structure EventContent where
  event : VMEventKey
  message : Option String := none
  detail : Option EventDetail := none

/-- A row of `vm_events`; the rows of a VM are kept in the order of `event_id`. -/
structure VMEventRow where
  createdAt : Time
  content : EventContent

inductive LaunchProofStatus where
  | paymentRequired | provisioning | provisioned | degraded | failed | rolledBack
  deriving DecidableEq

inductive PaymentStatus where
  | paid | paymentRequired | notRequired

structure LaunchProof where
  launchProofStatus : LaunchProofStatus
  paymentStatus : PaymentStatus
  dnsAaaaVerified : Bool
  sshSmokeStatus : SSHSmokeStatus
  dnsResolutionStatus : DNSResolutionStatus
  rollbackAvailable : Bool
  operatorMessage : Option String
  customerMessage : Option String

def isBlank (text : Option String) : Bool := text = none || text = some ""

def paymentStatus (row : GuestVm) : Option QuoteStatus → PaymentStatus
  | some .created => .paymentRequired
  | some _ => .paid
  | none =>
    if !isBlank row.paymentTx then .paid
    else if row.costTotal = 0 then .notRequired
    else .paid

def launchStatus (row : GuestVm) (quote : Option QuoteStatus) : LaunchProofStatus :=
  match row.status with
  | .destroyed => .rolledBack
  | .failed => .failed
  | .ready | .running | .suspended => .provisioned
  | .provisioning => if quote = some .created then .paymentRequired else .provisioning

def sshSmoke (row : GuestVm) : SSHSmokeStatus :=
  match row.launchProof.sshSmokeStatus with
  | some status => status
  | none => match row.status with
      | .ready | .running => .passed
      | .failed => .failed
      | _ => .notRun

def dnsResolutionCustomerMessage : String :=
  "The launch-time probe could not resolve DNS names using the resolver " ++
  "configured for your VM. This check runs from Hyrule, not inside your VM. " ++
  "If DNS also fails inside your VM, you can configure a working DNS64 resolver " ++
  "in /etc/resolv.conf (for example: nameserver 2001:4860:4860::6464). " ++
  "Contact support for help or to discuss a refund."

def dnsResolutionOperatorMessage : String :=
  "launch-time resolver probe failed: Hyrule could not resolve the probe " ++
  "hostname through HYRULE_CUSTOMER_IPV6_DNS. The probe runs centrally, " ++
  "not inside the guest. Check resolver health and guest reachability " ++
  "before inferring customer impact or fleet-wide scope."

def vmReadyMessage : String := "Your VM is ready."

def failedVmMessage : String :=
  "Provisioning could not be completed. " ++
  "Contact support for help and to review any payment or refund."

def preparingMessage : String :=
  "Your VM is being prepared. This usually takes about 60 seconds."

def proofMessages (row : GuestVm) : Option String × Option String :=
  let operator := row.launchProof.operatorMessage.map normalizeLegacyFailureMessage
  let customer := row.launchProof.customerMessage.map normalizeLegacyFailureMessage
  let orElse (fallback : String) := if isBlank customer then some fallback else customer
  match row.status with
  | .failed =>
    (if !isBlank operator then operator
      else if isBlank row.error then none
      else row.error.map normalizeLegacyFailureMessage, orElse failedVmMessage)
  | .provisioning => (operator, orElse preparingMessage)
  | .ready | .running => (operator, orElse vmReadyMessage)
  | .suspended | .destroyed => (operator, customer)

def buildLaunchProof (row : GuestVm) (quote : Option QuoteStatus) : LaunchProof :=
  let resolution := row.launchProof.dnsResolutionStatus.getD .notRun
  let degraded := resolution = .failed ∧ launchStatus row quote = .provisioned
  let (operator, customer) := proofMessages row
  { launchProofStatus := if degraded then .degraded else launchStatus row quote
    paymentStatus := paymentStatus row quote
    dnsAaaaVerified := row.launchProof.dnsAaaaVerified.getD
      (!isBlank row.ipv6 && !isBlank row.hostname)
    sshSmokeStatus := sshSmoke row
    dnsResolutionStatus := resolution
    rollbackAvailable := row.status ≠ .destroyed ∧
      (row.launchProof.rollbackAvailable = true ∨ row.status = .failed)
    operatorMessage := if degraded ∧ isBlank operator then some dnsResolutionOperatorMessage
      else operator
    customerMessage := if degraded ∧ (isBlank customer ∨ customer = some vmReadyMessage) then
      some dnsResolutionCustomerMessage else customer }

structure VMLogEvent where
  ts : Time
  event : VMEventKey
  message : Option String
  detail : Option EventDetail

def logEvent (row : VMEventRow) : VMLogEvent :=
  ⟨row.createdAt, row.content.event,
    row.content.message.map normalizeLegacyFailureMessage, row.content.detail⟩

/-- `vm_log_events`; events that are not there or cannot be read leave the legacy entry. -/
def vmLogEvents (row : GuestVm) (events : List VMEventRow) : List VMLogEvent :=
  match events with
  | [] => [⟨row.createdAt, .provisioningStarted, some "Provisioning started.", none⟩]
  | events => events.map logEvent

/-- `VMLogsResponse` -/
structure VMLogs where
  status : VMStatus
  events : List VMLogEvent
  error : Option String

def vmLogs (row : GuestVm) (events : List VMEventRow) : VMLogs :=
  ⟨row.status, vmLogEvents row events, row.error.map normalizeLegacyFailureMessage⟩

end HyruleCloud.FailureTexts
