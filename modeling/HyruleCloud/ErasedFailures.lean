import HyruleCloud.FailureTexts

/-!
The texts of exceptions are erased from steps, stages and whatever operators read. A step of
the erased provisioning writes what the step itself writes for the customer.
-/

namespace HyruleCloud.FailureTexts

open Interaction Function

def Raised.erase (error : Raised) : Raised := { error with text := "" }

def Failure.erase : Failure → Failure
  | .provisioningFailed message cause => .provisioningFailed message (cause.map Raised.erase)
  | .generationChanged => .generationChanged
  | .recoveryPending cause => .recoveryPending (cause.map Raised.erase)
  | .raised error => .raised error.erase

def Reply.erase {β : Type} : Reply β → Reply β
  | .ok value => .ok value
  | .raised error => .raised error.erase

def CloneReply.erase : CloneReply → CloneReply
  | .pending cause => .pending (cause.map Raised.erase)
  | .raised error => .raised error.erase
  | reply => reply

def Stage.erase : Stage → Stage
  | .telling vm events next => .telling vm events next.erase
  | .failing vm failure => .failing vm failure.erase
  | .releasing vm failure => .releasing vm failure.erase
  | .refunding vm failure => .refunding vm failure.erase
  | .marking vm _ => .marking vm ""
  | stage => stage

def ProvisionStep.erase : ProvisionStep → ProvisionStep
  | .provision w vm reply => .provision w vm reply.erase
  | .tell w reply => .tell w reply.erase
  | .prepare w receipt reply => .prepare w receipt reply.erase
  | .simulate w fakeIpv6 reply => .simulate w fakeIpv6 reply.erase
  | .clone w reply => .clone w reply.erase
  | .restrict w reply => .restrict w reply.erase
  | .checkReceipt w reply => .checkReceipt w reply.erase
  | .awaitIpv6 w expected reply => .awaitIpv6 w expected reply.erase
  | .publish w reply => .publish w reply.erase
  | .probe w reply => .probe w reply.erase
  | .waitForGuest w reply => .waitForGuest w reply.erase
  | .finish w receipt power commit => .finish w receipt power.erase commit.erase
  | .attach w reply => .attach w reply.erase
  | .enqueue w reply => .enqueue w reply.erase
  | .fail w power commit => .fail w power.erase commit.erase
  | .release w reply => .release w reply.erase
  | .refund w reply => .refund w reply.erase
  | .createFailed w vm error reply => .createFailed w vm error.erase reply.erase
  | .markVmFailed w vm _ => .markVmFailed w vm ""
  | .mark w reply => .mark w reply.erase
  | .retryOrFailJob order vm again error commit =>
    .retryOrFailJob order vm again error.erase commit.erase
  | step => step

def FailureDesk.erase (desk : FailureDesk) : FailureDesk :=
  { desk with
    stages := fun w => (desk.stages w).erase
    logs := []
    refunds := []
    orderErrors := fun _ => none
    jobErrors := fun _ => none }

/-- Two runs make the same steps, and their exceptions and reasons differ in text only. -/
def SameButTexts (first second : List ProvisionStep) : Prop :=
  first.map ProvisionStep.erase = second.map ProvisionStep.erase

@[simp] theorem reply_ok {β : Type} (value : β) : (Reply.ok value).erase = .ok value := rfl

@[simp] theorem reply_raised {β : Type} (error : Raised) :
    (Reply.raised error : Reply β).erase = .raised error.erase := rfl

@[simp] theorem erase_raised (error : Raised) : error.erase.erase = error.erase := rfl

@[simp] theorem erase_causes (cause : Option Raised) :
    (cause.map Raised.erase).map Raised.erase = cause.map Raised.erase := by
  cases cause with
  | none => rfl
  | some error => rfl

@[simp] theorem erase_failure (failure : Failure) : failure.erase.erase = failure.erase := by
  cases failure with
  | provisioningFailed | recoveryPending => simp only [Failure.erase, erase_causes]
  | generationChanged => rfl
  | raised error => rfl

@[simp] theorem erase_stage (stage : Stage) : stage.erase.erase = stage.erase := by
  induction stage with
  | telling vm events next ih => simp only [Stage.erase, ih]
  | failing | releasing | refunding => simp only [Stage.erase, erase_failure]
  | _ => rfl

@[simp] theorem customerMessage_erase (failure : Failure) :
    customerFailureMessage (.exception failure.erase) =
      customerFailureMessage (.exception failure) := by
  cases failure with
  | _ => rfl

namespace FailureDesk

variable {config : ProvisionConfig} {desk : FailureDesk} {w : ProcessId} {vm : VmId}

@[simp] theorem erase_goOn (stage : Stage) :
    (desk.goOn w stage).erase = desk.erase.goOn w stage.erase := by
  have stages : (fun v => (update desk.stages w stage v).erase) =
      update (fun v => (desk.stages v).erase) w stage.erase := by
    funext v
    by_cases same : v = w
    · subst same
      rw [update_self, update_self]
    · rw [update_of_ne same, update_of_ne same]
  simp only [erase, goOn, stages]

@[simp] theorem erase_log (line : String) : (desk.log line).erase = desk.erase := rfl

@[simp] theorem erase_setVm (row : GuestVm) : (desk.setVm vm row).erase = desk.erase.setVm vm row := rfl

@[simp] theorem erase_addEvent (content : EventContent) :
    (desk.addEvent vm content).erase = desk.erase.addEvent vm content := rfl

@[simp] theorem erase_addRefund (reason : String) : (desk.addRefund vm reason).erase = desk.erase := rfl

@[simp] theorem erase_erase : desk.erase.erase = desk.erase := by
  simp only [erase, erase_stage]

@[simp] theorem erase_vms : desk.erase.vms = desk.vms := rfl

@[simp] theorem erase_stages : desk.erase.stages w = (desk.stages w).erase := rfl

theorem erase_remaining (events : List EventContent) (next : Stage) :
    (remaining vm events next).erase = (remaining vm events next.erase).erase := by
  unfold remaining
  split
  · simp
  · simp [Stage.erase]

theorem erase_tell (events : List EventContent) (next : Stage) (reply : Reply Unit) :
    (desk.tell w vm events next reply).erase =
      (desk.erase.tell w vm events next.erase reply.erase).erase := by
  cases events with
  | nil => simp [tell]
  | cons content rest => cases reply with
      | ok value =>
        simp only [tell, reply_ok, erase_goOn, erase_addEvent, erase_erase,
          erase_remaining rest next]
      | raised error =>
        simp only [tell, reply_raised, erase_goOn, erase_log, erase_erase,
          erase_remaining rest next]

theorem erase_provision (reply : Reply Unit) :
    (desk.provision w vm reply).erase = (desk.erase.provision w vm reply.erase).erase := by
  cases reply with
  | raised error => simp [provision]
  | ok value =>
    cases found : desk.vms vm with
    | none => simp [provision, found]
    | some row =>
      by_cases running : row.status = .provisioning
      · by_cases started : row.provisionStarted = true
        · simp [provision, found, running, started]
        · simp [provision, found, running, started]
      · simp [provision, found, running]

theorem erase_prepare (receipt : Bool) (reply : Reply Unit) :
    (desk.prepare config w vm receipt reply).erase =
      (desk.erase.prepare config w vm receipt reply.erase).erase := by
  cases real : config.realProvisioning with
  | true => cases reply with
      | raised error => simp [prepare, real, Stage.erase, Failure.erase]
      | ok value =>
        cases found : desk.vms vm with
        | none | some => simp [prepare, real, found]
  | false => cases reply with
      | raised error => simp [prepare, real]
      | ok value =>
        cases paused : receipt || (desk.vms vm).any fun row => row.xcpngUuid.isSome with
        | true => simp only [prepare, real, reply_ok, erase_vms, paused, if_true, erase_goOn,
            erase_erase]
        | false => simp only [prepare, real, reply_ok, erase_vms, paused, Bool.false_eq_true,
            if_false, erase_goOn, erase_erase]

theorem erase_simulate (fakeIpv6 : String) (reply : Reply Unit) :
    (desk.simulate w vm fakeIpv6 reply).erase =
      (desk.erase.simulate w vm fakeIpv6 reply.erase).erase := by
  cases reply with
  | raised error => simp [simulate]
  | ok value =>
    cases found : desk.vms vm with
    | none | some => simp [simulate, found]

theorem erase_clone (reply : CloneReply) :
    (desk.clone w vm reply).erase = (desk.erase.clone w vm reply.erase).erase := by
  have adopted (uuid : Nat) : (desk.adopt w vm uuid).erase = (desk.erase.adopt w vm uuid).erase := by
    cases found : desk.vms vm with
    | none | some => simp [adopt, found]
  cases reply with
  | recovered uuid | created uuid => exact adopted uuid
  | restricted uuid =>
    cases found : desk.vms vm with
    | none | some => simp [clone, CloneReply.erase, found]
  | pending cause => simp only [clone, CloneReply.erase, erase_goOn, Stage.erase, Failure.erase,
      erase_causes, erase_erase]
  | raised error => simp [clone, CloneReply.erase, Stage.erase, Failure.erase]
  | _ => simp [clone, CloneReply.erase]

theorem erase_restrict (reply : Reply Bool) :
    (desk.restrict w vm reply).erase = (desk.erase.restrict w vm reply.erase).erase := by
  cases reply with
  | raised error => simp [restrict, Stage.erase, Failure.erase]
  | ok restricted => cases restricted with
      | true | false => simp [restrict]

theorem erase_checkReceipt (reply : Reply Bool) :
    (desk.checkReceipt w vm reply).erase = (desk.erase.checkReceipt w vm reply.erase).erase := by
  cases reply with
  | raised error => simp [checkReceipt, Stage.erase, Failure.erase]
  | ok stored => cases stored with
      | true | false => simp [checkReceipt]

theorem erase_awaitIpv6 (expected : String) (reply : Reply (Option String)) :
    (desk.awaitIpv6 w vm expected reply).erase =
      (desk.erase.awaitIpv6 w vm expected reply.erase).erase := by
  cases reply with
  | raised error => simp [awaitIpv6, Stage.erase, Failure.erase]
  | ok reported => cases reported with
      | none | some => simp [awaitIpv6]

theorem erase_publish (ipv6 : String) (reply : Reply Unit) :
    (desk.publish config w vm ipv6 reply).erase =
      (desk.erase.publish config w vm ipv6 reply.erase).erase := by
  cases reply with
  | raised error => simp [publish, Stage.erase, Failure.erase]
  | ok value => simp [publish]

theorem erase_probe (ipv6 : String) (reply : Reply Probes) :
    (desk.probe w vm ipv6 reply).erase = (desk.erase.probe w vm ipv6 reply.erase).erase := by
  cases reply with
  | raised error => simp [probe, Stage.erase, Failure.erase]
  | ok probes => simp [probe]

theorem erase_waitForGuest (ipv6 : String) (probes : Probes) (reply : Reply GuestOutcome) :
    (desk.waitForGuest w vm ipv6 probes reply).erase =
      (desk.erase.waitForGuest w vm ipv6 probes reply.erase).erase := by
  cases reply with
  | raised error => simp [waitForGuest, Stage.erase, Failure.erase]
  | ok outcome => cases outcome with
      | _ => simp [waitForGuest]

theorem stopped_erase (row : GuestVm) (power : Reply Power) :
    stopped row power.erase = (stopped row power).mapError Failure.erase := by
  unfold stopped
  split
  · rfl
  cases power with
  | raised error => rfl
  | ok state => cases state with
      | _ => rfl

theorem erase_finish (ipv6 : String) (probes : Probes) (receipt : FinalReceipt)
    (power : Reply Power) (commit : Reply Unit) :
    (desk.finish w vm ipv6 probes receipt power commit).erase =
      (desk.erase.finish w vm ipv6 probes receipt power.erase commit.erase).erase := by
  cases found : desk.vms vm with
  | none => simp [finish, found]
  | some row =>
    by_cases may : mayFinish row = true
    · cases receipt with
      | changed | unsuccessful => simp [finish, found, may]
      | matching =>
        cases halted : stopped row power with
        | error failure =>
          simp [finish, found, may, stopped_erase, halted, Except.mapError, Stage.erase]
        | ok value => cases commit with
            | ok done =>
              simp [finish, found, may, stopped_erase, halted, Except.mapError]
            | raised error =>
              by_cases free : row.suspension = none
              · simp [finish, found, may, stopped_erase, halted, Except.mapError,
                  free, Stage.erase, Failure.erase]
              · simp [finish, found, may, stopped_erase, halted, Except.mapError,
                  free, Stage.erase, Failure.erase]
    · simp [finish, found, may]

theorem erase_attach (fqdn : String) (reply : Reply Unit) :
    (desk.attach w vm fqdn reply).erase = (desk.erase.attach w vm fqdn reply.erase).erase := by
  cases reply with
  | raised | ok => simp [attach]

theorem erase_enqueue (reply : Reply Unit) :
    (desk.enqueue w reply).erase = (desk.erase.enqueue w reply.erase).erase := by
  cases reply with
  | raised | ok => simp [enqueue]

theorem guestStopped_erase (row : GuestVm) (power : Reply Power) :
    guestStopped row power.erase = guestStopped row power := by
  cases power with
  | raised | ok => rfl

theorem erase_committed {noted after other written : FailureDesk} (commit : Reply Unit)
    (before : noted.erase = other.erase) (same : after.erase = written.erase) :
    (noted.committed w after commit).erase = (other.committed w written commit.erase).erase := by
  cases commit with
  | raised error => simp [committed, before]
  | ok value => exact same

theorem erase_failRow {noted other : FailureDesk} (same : noted.erase = other.erase)
    (failure : Failure) (message : String) (power : Reply Power) (commit : Reply Unit) :
    (noted.failRow w vm failure message power commit).erase =
      (other.failRow w vm failure.erase message power.erase commit.erase).erase := by
  have vms : noted.erase.vms = other.erase.vms := by rw [same]
  rw [erase_vms, erase_vms] at vms
  unfold failRow
  rw [vms]
  cases other.vms vm with
  | none =>
    apply erase_committed commit same
    simp [same, Stage.erase]
  | some row =>
    simp only [guestStopped_erase]
    split
    · simp [same]
    split
    · simp [same]
    · apply erase_committed commit same
      simp [same, Stage.erase]

theorem erase_fail (failure : Failure) (power : Reply Power) (commit : Reply Unit) :
    (desk.fail w vm failure power commit).erase =
      (desk.erase.fail w vm failure.erase power.erase commit.erase).erase := by
  have noted (line other : String) : (desk.log line).erase = (desk.erase.log other).erase := by
    simp
  cases failure with
  | generationChanged | recoveryPending => simp [fail, Failure.erase]
  | provisioningFailed message cause =>
    exact erase_failRow (noted _ _) (.provisioningFailed message cause) message power commit
  | raised error => exact erase_failRow (noted _ _) (.raised error) error.customerMessage power commit

theorem erase_release (failure : Failure) (reply : Reply Unit) :
    (desk.release w vm failure reply).erase =
      (desk.erase.release w vm failure.erase reply.erase).erase := by
  cases reply with
  | raised | ok => simp [release, Stage.erase]

theorem erase_refund (failure : Failure) (reply : Reply Unit) :
    (desk.refund w vm failure reply).erase =
      (desk.erase.refund w vm failure.erase reply.erase).erase := by
  cases reply with
  | raised | ok => simp [refund]

theorem erase_createFailed (error : Raised) (reply : Reply Unit) :
    (desk.createFailed w vm error reply).erase =
      (desk.erase.createFailed w vm error.erase reply.erase).erase := by
  cases reply with
  | raised later => simp [createFailed]
  | ok value => simp [createFailed, Stage.erase]

theorem erase_mark (reason : String) (reply : Reply Unit) :
    (desk.mark w vm reason reply).erase = (desk.erase.mark w vm "" reply.erase).erase := by
  cases reply with
  | raised error => simp [mark]
  | ok value =>
    cases found : desk.vms vm with
    | none => simp [mark, found]
    | some row =>
      by_cases ended : row.status = .destroyed ∨ row.status = .failed
      · simp [mark, found, ended]
      · simp [mark, found, ended, customerFailureMessage]

theorem erase_failBundleVm {other : FailureDesk} (error : Raised)
    (same : desk.erase = other.erase) :
    (desk.failBundleVm vm error).erase = (other.failBundleVm vm error.erase).erase := by
  have vms : desk.erase.vms = other.erase.vms := by rw [same]
  rw [erase_vms, erase_vms] at vms
  unfold failBundleVm
  rw [vms]
  split
  · exact same
  split
  · rw [erase_setVm, erase_setVm, same]
    rfl
  · exact same

theorem erase_retryOrFailJob (order : OrderId) (planned : Option VmId) (again : Bool)
    (error : Raised) (commit : Reply Unit) :
    (desk.retryOrFailJob order planned again error commit).erase =
      (desk.erase.retryOrFailJob order planned again error.erase commit.erase).erase := by
  have kept : desk.erase = desk.erase.erase := erase_erase.symm
  cases commit with
  | raised later => exact kept
  | ok value =>
    cases again with
    | true => exact kept
    | false => cases planned with
        | none => exact kept
        | some vm => exact erase_failBundleVm error kept

end FailureDesk

open FailureDesk

theorem erase_provisionStep (config : ProvisionConfig) (step : ProvisionStep)
    (desk : FailureDesk) :
    (provisionStep config step desk).erase =
      (provisionStep config step.erase desk.erase).erase := by
  cases step
  case tick => simp only [provisionStep, ProvisionStep.erase, FailureDesk.erase, erase_stage]
  case create | lifecycle =>
    simp only [provisionStep, ProvisionStep.erase, erase_vms]
    split
    · exact erase_erase.symm
    · simp
  case retryOrFailJob order vm again error commit =>
    exact erase_retryOrFailJob order vm again error commit
  -- the other steps look at the stage of their process
  all_goals
    simp only [provisionStep, ProvisionStep.erase, erase_stages]
    generalize desk.stages _ = stage
    cases stage <;> simp only [Stage.erase, erase_erase]
  case provision => exact erase_provision _
  case tell => exact erase_tell _ _ _
  case prepare => exact erase_prepare _ _
  case simulate => exact erase_simulate _ _
  case clone => exact erase_clone _
  case restrict => exact erase_restrict _
  case checkReceipt => exact erase_checkReceipt _
  case awaitIpv6 => exact erase_awaitIpv6 _ _
  case publish => exact erase_publish _ _
  case probe => exact erase_probe _ _
  case waitForGuest => exact erase_waitForGuest _ _ _
  case finish => exact erase_finish _ _ _ _ _
  case attach => exact erase_attach _ _
  case enqueue => exact erase_enqueue _
  case fail => exact erase_fail _ _ _
  case release => exact erase_release _ _
  case refund => exact erase_refund _ _
  case createFailed => exact erase_createFailed _ _
  case markVmFailed => simp [Stage.erase]
  case mark => exact erase_mark _ _

theorem provisionings_erase (config : ProvisionConfig) :
    (provisionings config).Erases FailureDesk.erase ProvisionStep.erase :=
  erase_provisionStep config

theorem customerView_erase (desk : FailureDesk) (vm : VmId) (quote : Option QuoteStatus) :
    desk.erase.customerView vm quote = desk.customerView vm quote := rfl

/-- Two runs that make the same steps look the same to customers, whatever the exceptions and
the internal reasons say. -/
theorem failure_texts_unseen (config : ProvisionConfig) (first second : List ProvisionStep)
    (start other : FailureDesk) (steps : SameButTexts first second)
    (starts : start.erase = other.erase) (vm : VmId) (quote : Option QuoteStatus) :
    ((provisionings config).run start first).customerView vm quote =
      ((provisionings config).run other second).customerView vm quote := by
  have ends := Protocol.run_erased _ (provisionings_erase config) first second start other steps
    starts
  rw [← customerView_erase, ends, customerView_erase]

def guestConfig : ProvisionConfig where
  realProvisioning := true
  hostname _ := "vm.example.net"

def guestVm : VmId := ⟨.request 0, 0⟩

def paidDesk : FailureDesk where
  now := 0
  vms vm := if vm = guestVm then some { paymentTx := some "0xab", costTotal := 5 } else none
  events _ := []
  stages _ := .idle
  logs := []
  refunds := []
  orderErrors _ := none
  jobErrors _ := none

/-- The record cannot be published; `text` is what the DNS server says. -/
def dnsFailureRun (text : String) : List ProvisionStep :=
  [.provision 0 guestVm (.ok ()), .tell 0 (.ok ()), .prepare 0 false (.ok ()), .tell 0 (.ok ()),
    .clone 0 (.created 1), .tell 0 (.ok ()), .restrict 0 (.ok false), .checkReceipt 0 (.ok true),
    .awaitIpv6 0 "2001:db8::2" (.ok (some "2001:db8::2")), .tell 0 (.ok ()),
    .publish 0 (.raised ⟨["DNSControlError", "Exception"], text⟩),
    .fail 0 (.ok .halted) (.ok ()), .tell 0 (.ok ()), .release 0 (.ok ()), .refund 0 (.ok ())]

def dnsFailureEnd (text : String) : FailureDesk :=
  (provisionings guestConfig).run paidDesk (dnsFailureRun text)

/-- The refund tells the two failures apart, the customer's view does not. -/
theorem dns_failures_look_alike :
    (dnsFailureEnd "10.0.0.5 refused").customerView guestVm none =
      (dnsFailureEnd "10.0.0.7 is down").customerView guestVm none ∧
    (dnsFailureEnd "10.0.0.5 refused").refunds ≠ (dnsFailureEnd "10.0.0.7 is down").refunds := by
  constructor
  · apply failure_texts_unseen guestConfig _ _ paidDesk paidDesk
    · rfl
    · rfl
  · decide +kernel

end HyruleCloud.FailureTexts
