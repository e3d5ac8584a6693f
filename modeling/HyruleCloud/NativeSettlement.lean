import HyruleCloud.CreateVm

/-!
The settlement of a native intent, services/intents.py: the poll that observes a
deposit, the single-shot trigger, the handoff to the VM checkout or to the
fulfillment of a domain order, and the two recovery passes.
-/

namespace HyruleCloud

open Interaction

structure Handoff.Worker where
  worker : Nat
  process : ProcessId
  intent : IntentId

/-- The id that `_persist_planned_vm_id` draws. -/
def plannedId (intent : IntentId) : VmId := ⟨.intent intent, 0⟩

def refundIntent (intent : IntentId) (reason : String) (vm : Option VmId := none) :
    Checkout Unit := do
  let _ ← ask (.recordNativeIntentRefund intent reason vm)

/-- What a handoff step decided: go on, or the intent has been refunded. -/
inductive Verdict where
  | proceed | refunded

def refundAndStop (intent : IntentId) (reason : String) (vm : Option VmId := none) :
    Checkout Verdict := do
  refundIntent intent reason vm
  pure .refunded

/-- The complete binding of a durable quote, revalidated at settlement. -/
def quoteBound (quote : VMQuoteRow) (row : CryptoIntentRow) (order : VMCreateRequest) : Bool :=
  (quote.ownerAccountId.isNone || quote.ownerAccountId == row.ownerAccountId) &&
    quote.orderPayload == { order with quoteId := none } &&
    row.amountUsd == some quote.amountUsd

def claimIntentQuote (job : Handoff.Worker) (row : CryptoIntentRow) (order : VMCreateRequest) :
    Checkout Verdict :=
  match order.quoteId with
  | none => pure .proceed
  | some quoteId => do
    match ← ask (.getQuote quoteId) with
    | none => refundAndStop job.intent "quote_missing_at_settlement"
    | some quote =>
      if quote.status = .consumed then refundAndStop job.intent "quote_already_consumed"
      else do
        let now ← ask .clock
        if quote.expiresAt < now then
          refundAndStop job.intent "quote_expired_at_settlement"
        else if quoteBound quote row order = false then
          refundAndStop job.intent "quote_binding_mismatch_at_settlement"
        else if ← ask (.claimQuote job.process quoteId (.intent job.intent)) then
          pure .proceed
        else refundAndStop job.intent "quote_already_consumed"

def intentReservationArgs (row : CryptoIntentRow) (order : VMCreateRequest) : InsertArgs :=
  { ownerWallet := none
    ownerAccountId := row.ownerAccountId
    total := row.amountUsd.getD 0
    domain := order.domain }

def reserveIntentVm (job : Handoff.Worker) (row : CryptoIntentRow) (order : VMCreateRequest)
    (planned : VmId) : Checkout Verdict := do
  match ← (ask (.reserveVm planned (intentReservationArgs row order))).attempt with
  | .ok _ => pure .proceed
  | .error .accountDisabled =>
    refundAndStop job.intent "account_disabled_at_settlement" (some planned)
  | .error (.runtime _) =>
    refundAndStop job.intent "vm_capacity_unavailable_at_settlement" (some planned)
  | .error other => .raise other

def bestEffort (step : Checkout Unit) : Checkout Unit := step.rescue fun _ => pure ()

def claimIntentDomain (job : Handoff.Worker) (row : CryptoIntentRow) (order : VMCreateRequest)
    (planned : VmId) : Checkout Verdict :=
  match order.domainMode, row.ownerAccountId, order.domain with
  | .custom, some owner, some fqdn => do
    match ← (ask (.claimVmAttachment owner fqdn planned)).attempt with
    | .ok _ => pure .proceed
    | .error _ =>
      bestEffort (ask (.releaseVmReservation planned))
      refundAndStop job.intent "custom_domain_unavailable_at_settlement" (some planned)
  | _, _, _ => pure .proceed

def intentActivateArgs (job : Handoff.Worker) (row : CryptoIntentRow) : ActivateArgs :=
  { ownerWallet := .intent job.intent
    paymentTx := row.txHash.map .native
    retailAmount := row.amountUsd }

def releaseClaimedDomain (claimedDomain : Bool) (vm : VmId) : Checkout Unit :=
  if claimedDomain then ask (.releaseVmAttachmentClaim vm) else pure ()

def activateIntentVm (job : Handoff.Worker) (row : CryptoIntentRow) (planned : VmId)
    (claimedDomain : Bool) : Checkout Verdict := do
  match ← (ask (.activateVmReservation planned (intentActivateArgs job row) false)).attempt with
  | .ok true => pure .proceed
  | .ok false => .raise (.runtime "native VM reservation disappeared before activation")
  | .error .accountDisabled =>
    releaseClaimedDomain claimedDomain planned
    ask (.releaseVmReservation planned)
    refundAndStop job.intent "account_disabled_at_settlement" (some planned)
  | .error other => .raise other

def writePrice (row : CryptoIntentRow) (planned : VmId) : Checkout Bool :=
  match row.amountUsd with
  | some amount => (ask (.persistChargedAmount planned amount)).retry 3
  | none => pure true

def writeLink (order : VMCreateRequest) (planned : VmId) : Checkout Bool :=
  match order.quoteId with
  | some quoteId => (ask (.linkQuoteVm quoteId planned)).retry 3
  | none => pure true

/-- Bookkeeping, the delivery fence, and the start of provisioning. -/
def deliverIntentVm (job : Handoff.Worker) (row : CryptoIntentRow) (order : VMCreateRequest)
    (token : Time) (planned : VmId) : Checkout Unit := do
  let _ ← writePrice row planned
  let _ ← writeLink order planned
  ask (.markProvisioned job.intent token planned)
  ask (.startProvisioning planned)

structure Progress where
  planned : Option VmId := none
  reserved : Bool := false
  claimedDomain : Bool := false

/-- `_cleanup_native_vm_candidate` -/
def cleanupCandidate (vm : Option VmId) (claimedDomain : Bool) : Checkout Unit :=
  match vm with
  | none => pure ()
  | some vm => do
    bestEffort (ask (.releaseVmReservation vm))
    bestEffort (ask (.markVmFailed vm))
    bestEffort (releaseClaimedDomain claimedDomain vm)

/-- The two handlers of `_trigger_provisioning`. A superseded worker only cleans
up; any other failure records the refund, or marks the intent FAILED. -/
def handoffFailed (job : Handoff.Worker) (progress : Progress) (error : Err) : Checkout Unit :=
  match error with
  | .handoffFenced => cleanupCandidate progress.planned progress.claimedDomain
  | _ => do
    (refundIntent job.intent "provisioning_failed" progress.planned).rescue fun _ =>
      ask (.setIntentStatus job.intent .failed)
    cleanupCandidate (if progress.reserved then progress.planned else none)
      progress.claimedDomain

/-- A step of the handoff under its handlers: `none` when the handoff is over. -/
def guardedStep {α : Type} (job : Handoff.Worker) (progress : Progress) (step : Checkout α) :
    Checkout (Option α) := do
  match ← step.attempt with
  | .ok value => pure (some value)
  | .error error =>
    handoffFailed job progress error
    pure none

def planIntentVm (job : Handoff.Worker) (row : CryptoIntentRow) :
    Checkout (VMCreateRequest × VmId) :=
  match row.orderPayload, row.vmId with
  | some (.vm order), some planned => pure (order, planned)
  | some (.vm order), none => do
    let planned ← ask (.persistPlannedVmId job.intent (plannedId job.intent))
    pure (order, planned)
  | _, _ => .raise (.value "VMCreateRequest")

/-- The quote is claimed and a reservation is made, each under the fence. -/
def admitIntentVm (job : Handoff.Worker) (row : CryptoIntentRow) (order : VMCreateRequest)
    (token : Time) (planned : VmId) : Checkout Verdict := do
  ask (.requireCurrentVmHandoff job.intent token)
  match ← claimIntentQuote job row order with
  | .refunded => pure .refunded
  | .proceed =>
    if order.domainMode = .custom ∧ (row.ownerAccountId = none ∨ order.domain = none) then
      refundAndStop job.intent "custom_domain_unavailable_at_settlement"
    else do
      ask (.requireCurrentVmHandoff job.intent token)
      reserveIntentVm job row order planned

def attachIntentDomain (job : Handoff.Worker) (row : CryptoIntentRow) (order : VMCreateRequest)
    (token : Time) (planned : VmId) : Checkout Verdict := do
  ask (.requireCurrentVmHandoff job.intent token)
  claimIntentDomain job row order planned

def fenceClaim (job : Handoff.Worker) (token : Time) (claimedDomain : Bool) : Checkout Unit :=
  if claimedDomain then ask (.requireCurrentVmHandoff job.intent token) else pure ()

def finishIntentVm (job : Handoff.Worker) (row : CryptoIntentRow) (order : VMCreateRequest)
    (token : Time) (planned : VmId) : Checkout Unit := do
  let claimedDomain := order.domainMode == .custom
  fenceClaim job token claimedDomain
  match ← activateIntentVm job row planned claimedDomain with
  | .refunded => pure ()
  | .proceed =>
    ask (.requireCurrentVmHandoff job.intent token)
    deliverIntentVm job row order token planned

/-- `_trigger_provisioning` for a VM order, in the stages at which its handlers
know more. -/
def vmHandoff (job : Handoff.Worker) (row : CryptoIntentRow) (token : Time) : Checkout Unit := do
  match ← guardedStep job {} (planIntentVm job row) with
  | none => pure ()
  | some (order, planned) =>
    match ← guardedStep job { planned := some planned }
        (admitIntentVm job row order token planned) with
    | none | some .refunded => pure ()
    | some .proceed =>
      match ← guardedStep job { planned := some planned, reserved := true }
          (attachIntentDomain job row order token planned) with
      | none | some .refunded => pure ()
      | some .proceed =>
        let _ ← guardedStep job
          { planned := some planned, reserved := true
            claimedDomain := order.domainMode == .custom }
          (finishIntentVm job row order token planned)

def settlementArgs (intent : IntentId) (row : CryptoIntentRow) : MarkArgs :=
  { payer := .intent intent
    txHash := row.txHash.map .native
    paymentNetwork := some "native"
    paymentAsset := some (match row.asset with | .btc => "BTC" | .xmr => "XMR") }

def handedStatus (order : DomainOrderRow) : IntentStatus :=
  if order.status = .refundDue ∨ order.status = .refunded then .refundManual else .provisioned

/-- `_trigger_provisioning` for a domain order. -/
def domainHandoff (intent : IntentId) (row : CryptoIntentRow) : Checkout Unit :=
  match row.resourceId with
  | none => refundIntent intent "domain_fulfillment_unavailable"
  | some id =>
    let handing : Checkout Unit := do
      let order ← ask (.nativeOrderSettled id (settlementArgs intent row))
      ask (.setIntentStatus intent (handedStatus order))
    handing.rescue fun _ => do
      -- the order commit can succeed although its answer is lost
      let order ← ask (.getOrder id)
      match order.filter fun order => order.status ≠ .awaitingPayment with
      | some order => ask (.setIntentStatus intent (handedStatus order))
      | none => refundIntent intent "domain_fulfillment_handoff_failed"

/-- `_trigger_provisioning` -/
def triggerProvisioning (job : Handoff.Worker) : Checkout Unit := do
  match ← ask (.triggerHandoff job.worker job.intent) with
  | none => pure ()
  | some row => match row.provisioningTriggeredAt with
      | none => pure ()
      | some token =>
        if row.resourceType = .domainOrder then domainHandoff job.intent row
        else vmHandoff job row token

/-- `poll_one_intent`: one scan of the address of a live intent. Whoever sees the
deposit settled triggers the handoff. -/
def pollOneIntent (job : Handoff.Worker) : Checkout Unit := do
  match ← ask (.getIntent job.intent) with
  | none => pure ()
  | some row =>
    if row.status.isTerminal then pure ()
    else match ← (ask (.scanAddress job.intent)).attempt with
      | .error _ => pure ()
      | .ok scan => do
        match ← ask (.applyIntentScan job.intent scan) with
        | none => pure ()
        | some row => if row.status = .settled then triggerProvisioning job else pure ()

/-- `_resume_domain_handoff`: a domain order whose handoff worker is gone. -/
def resumeDomainHandoff (intent : IntentId) : Checkout Unit := do
  match ← ask (.getIntent intent) with
  | none => pure ()
  | some row => match row.resourceId with
      | none => pure ()
      | some id =>
        if row.status ≠ .provisioning ∨ row.resourceType ≠ .domainOrder then pure ()
        else match ← (ask (.nativeOrderSettled id (settlementArgs intent row))).attempt with
          | .error _ => pure ()
          | .ok order => ask (.finishResumedHandoff intent (handedStatus order))

def undoPlannedVm (row : CryptoIntentRow) : Checkout Unit :=
  match row.vmId with
  | none => pure ()
  | some planned => do
    ask (.releaseVmReservation planned)
    ask (.markVmFailed planned)
    match row.orderPayload with
    | some (.vm order) => releaseClaimedDomain (order.domainMode == .custom) planned
    | _ => pure ()

/-- `_recover_interrupted_vm_provisioning` -/
def recoverInterruptedVm (intent : IntentId) : Checkout Unit := do
  match ← ask (.takeRecoveryLease intent) with
  | none => pure ()
  | some row =>
    bestEffort do
      undoPlannedVm row
      refundIntent intent "provisioning_interrupted" row.vmId

end HyruleCloud
