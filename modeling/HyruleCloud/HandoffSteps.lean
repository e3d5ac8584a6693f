import HyruleCloud.NativeSettlement

/-!
What a VM handoff, its recovery and its refund ask for. They neither scan nor
trigger, and the only status they write by hand is FAILED.
-/

namespace HyruleCloud

open Interaction

def HandoffAsk {β : Type} : CheckoutReq β → Prop
  | .setIntentStatus _ status => status = .failed
  | .finishResumedHandoff _ _ | .applyIntentScan _ _ | .triggerHandoff _ _ => False
  | _ => True

def StepAsk {β : Type} : CheckoutReq β → Prop
  | .recordNativeIntentRefund _ reason _ => reason ≠ "provisioning_interrupted"
  | .startProvisioning _ | .takeRecoveryLease _ => False
  | request => HandoffAsk request

section Asks
variable (job : Handoff.Worker) (row : CryptoIntentRow) (order : VMCreateRequest) (planned : VmId)

theorem steps_ask {β : Type} (request : CheckoutReq β) (asks : StepAsk request) :
    Within StepAsk (ask request) := (within_perform request).mpr asks

section
variable (intent : IntentId) (reason : String) (vm : Option VmId)
  (own : reason ≠ "provisioning_interrupted")
include own

theorem steps_refundIntent :
    Within StepAsk (refundIntent intent reason vm) :=
  within_bind (steps_ask _ own) fun _ => trivial

theorem steps_refundAndStop :
    Within StepAsk (refundAndStop intent reason vm) :=
  within_bind (steps_refundIntent intent reason vm own) fun _ => trivial

end

theorem steps_bestEffort (step : Checkout Unit) (asks : Within StepAsk step) :
    Within StepAsk (bestEffort step) := within_rescue asks fun _ => trivial

theorem steps_releaseClaimedDomain (claimed : Bool) (vm : VmId) :
    Within StepAsk (releaseClaimedDomain claimed vm) := by
  cases claimed with
  | false => trivial
  | true => exact steps_ask _ trivial

theorem steps_claimIntentQuote : Within StepAsk (claimIntentQuote job row order) := by
  simp only [claimIntentQuote]
  cases order.quoteId with
  | none => trivial
  | some quoteId =>
    refine within_bind (steps_ask _ trivial) fun found => ?_
    cases found with
    | none => exact steps_refundAndStop _ _ _ (by decide)
    | some quote =>
      dsimp only
      split
      · exact steps_refundAndStop _ _ _ (by decide)
      refine within_bind (steps_ask _ trivial) fun now => ?_
      split
      · exact steps_refundAndStop _ _ _ (by decide)
      split
      · exact steps_refundAndStop _ _ _ (by decide)
      refine within_bind (steps_ask _ trivial) fun won => ?_
      split
      · trivial
      · exact steps_refundAndStop _ _ _ (by decide)

theorem steps_reserveIntentVm : Within StepAsk (reserveIntentVm job row order planned) := by
  refine within_bind (within_attempt (steps_ask _ trivial)) fun reserved => ?_
  cases reserved with
  | ok _ => trivial
  | error error =>
    cases error <;> first | trivial | exact steps_refundAndStop _ _ _ (by decide)

theorem steps_claimIntentDomain : Within StepAsk (claimIntentDomain job row order planned) := by
  simp only [claimIntentDomain]
  split
  · refine within_bind (within_attempt (steps_ask _ trivial)) fun claimed => ?_
    cases claimed with
    | ok _ => trivial
    | error error =>
      exact within_bind (steps_bestEffort _ (steps_ask _ trivial))
        fun _ => steps_refundAndStop _ _ _ (by decide)
  · trivial

theorem steps_activateIntentVm (claimed : Bool) :
    Within StepAsk (activateIntentVm job row planned claimed) := by
  refine within_bind (within_attempt (steps_ask _ trivial)) fun activated => ?_
  cases activated with
  | ok activated => cases activated <;> trivial
  | error error =>
    cases error <;> first
      | trivial
      | exact within_bind (steps_releaseClaimedDomain _ _) fun _ =>
        within_bind (steps_ask _ trivial) fun _ => steps_refundAndStop _ _ _ (by decide)

theorem steps_cleanupCandidate (vm : Option VmId) (claimed : Bool) :
    Within StepAsk (cleanupCandidate vm claimed) := by
  cases vm with
  | none => trivial
  | some vm =>
    exact within_bind (steps_bestEffort _ (steps_ask _ trivial)) fun _ =>
      within_bind (steps_bestEffort _ (steps_ask _ trivial)) fun _ =>
        steps_bestEffort _ (steps_releaseClaimedDomain _ _)

theorem steps_handoffFailed (progress : Progress) (error : Err) :
    Within StepAsk (handoffFailed job progress error) := by
  have other : Within StepAsk (do
      (refundIntent job.intent "provisioning_failed" progress.planned).rescue fun _ =>
        ask (.setIntentStatus job.intent .failed)
      cleanupCandidate (if progress.reserved then progress.planned else none)
        progress.claimedDomain : Checkout Unit) :=
    within_bind (within_rescue (steps_refundIntent _ _ _ (by decide)) fun _ =>
        steps_ask _ rfl)
      fun _ => steps_cleanupCandidate _ _
  cases error <;> first | exact other | exact steps_cleanupCandidate _ _

theorem steps_guardedStep {α : Type} (progress : Progress) (step : Checkout α)
    (asks : Within StepAsk step) : Within StepAsk (guardedStep job progress step) := by
  refine within_bind (within_attempt asks) fun result => ?_
  cases result with
  | ok value => trivial
  | error error => exact within_bind (steps_handoffFailed job progress error) fun _ => trivial

theorem steps_planIntentVm : Within StepAsk (planIntentVm job row) := by
  simp only [planIntentVm]
  split
  · trivial
  · exact within_bind (steps_ask _ trivial) fun _ => trivial
  · trivial

theorem steps_admitIntentVm (token : Time) :
    Within StepAsk (admitIntentVm job row order token planned) := by
  refine within_bind (steps_ask _ trivial) fun _ =>
    within_bind (steps_claimIntentQuote job row order) fun verdict => ?_
  cases verdict with
  | refunded => trivial
  | proceed =>
    dsimp only
    split
    · exact steps_refundAndStop _ _ _ (by decide)
    · exact within_bind (steps_ask _ trivial) fun _ => steps_reserveIntentVm job row order planned

theorem steps_writePrice : Within StepAsk (writePrice row planned) := by
  simp only [writePrice]
  cases row.amountUsd with
  | none => trivial
  | some amount => exact within_retry (steps_ask (.persistChargedAmount planned amount) trivial) 3

theorem steps_writeLink : Within StepAsk (writeLink order planned) := by
  simp only [writeLink]
  cases order.quoteId with
  | none => trivial
  | some quoteId => exact within_retry (steps_ask (.linkQuoteVm quoteId planned) trivial) 3

theorem steps_fenceClaim (token : Time) (claimed : Bool) :
    Within StepAsk (fenceClaim job token claimed) := by
  simp only [fenceClaim]
  split
  · exact steps_ask _ trivial
  · trivial

theorem steps_attachIntentDomain (token : Time) :
    Within StepAsk (attachIntentDomain job row order token planned) :=
  within_bind (steps_ask _ trivial) fun _ => steps_claimIntentDomain job row order planned

theorem steps_undoPlannedVm : Within StepAsk (undoPlannedVm row) := by
  simp only [undoPlannedVm]
  cases row.vmId with
  | none => trivial
  | some planned =>
    refine within_bind (steps_ask _ trivial) fun _ => within_bind (steps_ask _ trivial) fun _ => ?_
    split
    · exact steps_releaseClaimedDomain _ _
    · trivial

/-! The whole handoff, with its start of provisioning, and the recovery. -/

theorem asks_steps {α : Type} {p : Checkout α} (steps : Within StepAsk p) :
    Within HandoffAsk p := by
  refine within_mono steps fun request step => ?_
  cases request <;> first | exact step | trivial

theorem asks_ask {β : Type} (request : CheckoutReq β) (asks : HandoffAsk request) :
    Within HandoffAsk (ask request) := (within_perform request).mpr asks

theorem asks_refundIntent (intent : IntentId) (reason : String) (vm : Option VmId) :
    Within HandoffAsk (refundIntent intent reason vm) :=
  within_bind (asks_ask _ trivial) fun _ => trivial

theorem asks_guardedStep {α : Type} (progress : Progress) (step : Checkout α)
    (asks : Within HandoffAsk step) : Within HandoffAsk (guardedStep job progress step) := by
  refine within_bind (within_attempt asks) fun result => ?_
  cases result with
  | ok value => trivial
  | error error =>
    exact within_bind (asks_steps (steps_handoffFailed job progress error)) fun _ => trivial

theorem asks_deliverIntentVm (token : Time) :
    Within HandoffAsk (deliverIntentVm job row order token planned) :=
  within_bind (asks_steps (steps_writePrice row planned)) fun _ =>
    within_bind (asks_steps (steps_writeLink order planned)) fun _ =>
      within_bind (asks_ask _ trivial) fun _ => asks_ask _ trivial

theorem asks_finishIntentVm (token : Time) :
    Within HandoffAsk (finishIntentVm job row order token planned) := by
  refine within_bind (asks_steps (steps_fenceClaim job token _)) fun _ =>
    within_bind (asks_steps (steps_activateIntentVm job row planned _)) ?_
  intro verdict
  cases verdict with
  | refunded => trivial
  | proceed =>
    exact within_bind (asks_ask _ trivial) fun _ => asks_deliverIntentVm job row order planned token

theorem asks_vmHandoff (token : Time) : Within HandoffAsk (vmHandoff job row token) := by
  refine within_bind (asks_steps (steps_guardedStep job _ _ (steps_planIntentVm job row)))
    fun planning => ?_
  cases planning with
  | none => trivial
  | some plan =>
    obtain ⟨order, planned⟩ := plan
    refine within_bind (asks_steps (steps_guardedStep job _ _
      (steps_admitIntentVm job row order planned token))) fun admitted => ?_
    rcases admitted with _ | _ | _
    · trivial
    · refine within_bind (asks_steps (steps_guardedStep job _ _
        (steps_attachIntentDomain job row order planned token))) fun attached => ?_
      rcases attached with _ | _ | _
      · trivial
      · exact within_bind (asks_guardedStep job _ _
          (asks_finishIntentVm job row order planned token)) fun _ => trivial
      · trivial
    · trivial

theorem asks_recoverInterruptedVm (intent : IntentId) :
    Within HandoffAsk (recoverInterruptedVm intent) := by
  refine within_bind (asks_ask _ trivial) fun found => ?_
  cases found with
  | none => trivial
  | some row =>
    exact within_rescue (within_bind (asks_steps (steps_undoPlannedVm row)) fun _ =>
      asks_refundIntent _ _ _) fun _ => trivial

end Asks

end HyruleCloud
