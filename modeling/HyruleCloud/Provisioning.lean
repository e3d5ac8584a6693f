import HyruleCloud.IntentEngine
import HyruleCloud.XoClient
import HyruleCloud.Episodes

/-!
Background provisioning of one VM, `_provision_vm` of orchestrator.py, with the
guest lifecycle of providers/xcpng.py below it and the refund of a failed VM
above it. The advisory lock of services/provisioning_attempt.py admits one
attempt at a time, so attempts run one after the other and may die anywhere.
-/

namespace HyruleCloud

open Interaction

inductive Restriction where
  | gone | restricted | free

/-- What the failure handler reads in the session that commits FAILED. -/
structure FailedCharge where
  ownerWallet : Option Wallet := none
  amount : Option Usd := none
  paymentTx : Option Tx := none
  settled : Option PaymentEventRow := none

inductive ProvisionReq : Type → Type where
  | exchange (command : XoCommand) : ProvisionReq Uuid
  | findLabel (label : Label) : ProvisionReq (List Uuid)
  | powerState (guest : Uuid) : ProvisionReq Power
  | guestExists (guest : Uuid) : ProvisionReq Bool
  | reconnect : ProvisionReq Unit
  | beginProvisioning (vm : VmId) : ProvisionReq Bool
  | getVm (vm : VmId) : ProvisionReq (Option VMRow)
  | renderConfig (vm : VmId) : ProvisionReq Unit
  | capacityLock : ProvisionReq Unit
  | getReceipt (vm : VmId) : ProvisionReq (Option Receipt)
  | prepareGuestResult (vm : VmId) : ProvisionReq Generation
  | adoptGuest (vm : VmId) (generation : Generation) (guest : Uuid) : ProvisionReq Unit
  | storeUuid (vm : VmId) (guest : Uuid) : ProvisionReq Unit
  | checkRestriction (vm : VmId) (guest : Uuid) : ProvisionReq Restriction
  | waitForIpv6 (guest : Uuid) : ProvisionReq Unit
  | publishDns (vm : VmId) : ProvisionReq Unit
  | guestResult (vm : VmId) (generation : Generation) : ProvisionReq Unit
  | readyToFinish (vm : VmId) (guest : Uuid) (generation : Generation) :
      ProvisionReq (Option Bool)
  | finishProvisioning (vm : VmId) (suspended : Bool) : ProvisionReq Unit
  | commitFailed (vm : VmId) : ProvisionReq FailedCharge
  | releaseVmAttachmentClaim (vm : VmId) : ProvisionReq Unit
  | quoteForVm (vm : VmId) : ProvisionReq (Option VMQuoteRow)
  | recordOwed (args : OwedArgs) : ProvisionReq Unit
  | intentOfVm (vm : VmId) : ProvisionReq (Option IntentId)
  | recordNativeIntentRefund (intent : IntentId) (reason : String) (vm : VmId) :
      ProvisionReq Bool

/-- What happens between two requests of an attempt: a delayed command takes
effect, the guest reports, an administrator suspends the VM or its owner. -/
inductive Meanwhile where
  | late (index : Nat)
  | report (vm : VmId) (generation : Generation) (succeeded : Bool)
  | suspend (vm : VmId) (reason : Option Suspension)
  | disable (account : AccountId) (disabled : Bool)

inductive ProvisionAnswer where
  | commit (fate : Fate)
  | clocked (now : Time) (fate : Fate)
  | exchange (fate : ExchangeFate)
  | refuse (detail : String)

structure ProvisionChoice where
  meanwhile : List Meanwhile := []
  answer : ProvisionAnswer

def runDelayed (index : Nat) (s : Site) : Site :=
  match s.delayed[index]? with
  | some command => command.effect { s with delayed := s.delayed.eraseIdx index }
  | none => s

/-- `accept_guest_result`: the first report for the current generation stands. -/
def acceptGuestResult (vm : VmId) (generation : Generation) (succeeded : Bool) (s : Site) : Site :=
  match s.receipts vm with
  | some receipt =>
    if receipt.generation = generation ∧ receipt.received = none then
      { s with receipts := s.receipts.put vm { receipt with received := some succeeded } }
    else s
  | none => s

def Meanwhile.run (event : Meanwhile) (s : Site) : Site :=
  match event with
  | .late index => runDelayed index s
  | .report vm generation succeeded => acceptGuestResult vm generation succeeded s
  | .suspend vm reason => match s.vms vm with
      | some row => { s with vms := s.vms.put vm { row with suspension := reason } }
      | none => s
  | .disable account disabled => { s with disabled := Function.update s.disabled account disabled }

def meanwhile (events : List Meanwhile) (s : Site) : Site :=
  events.foldl (fun s event => event.run s) s

def onSite {β : Type} (tx : Transaction Store β) : Transaction Site β := fun s =>
  match tx s.toStore with
  | .ok (store, value) => .ok ({ s with toStore := store }, value)
  | .error error => .error error

def siteRead {β : Type} (read : Site → β) : Transaction Site β := fun s => .ok (s, read s)

/-- `prepare_guest_result`: a fresh identity for the guest about to be created. -/
def prepareGuestResult (vm : VmId) : Transaction Site Generation := fun s =>
  match s.vms vm with
  | none => .error (.http 409)
  | some row =>
    if row.status = .provisioning ∧ row.xcpngUuid = none then
      .ok ({ s with
        receipts := s.receipts.put vm { generation := s.nextGeneration }
        nextGeneration := s.nextGeneration + 1 }, s.nextGeneration)
    else .error (.http 409)

def currentGeneration (vm : VmId) (generation : Generation) (s : Site) : Bool :=
  (s.receipts vm).any (·.generation == generation)

/-- The closing session of `_recover_pre_uuid_guest`. -/
def adoptGuest (vm : VmId) (generation : Generation) (guest : Uuid) : Transaction Site Unit :=
  fun s => match s.vms vm with
  | none => .error .generationChanged
  | some row =>
    if row.status ≠ .provisioning ∨ currentGeneration vm generation s = false then
      .error .generationChanged
    else if row.xcpngUuid.any (· != guest) then .error .generationChanged
    else .ok ({ s with vms := s.vms.put vm { row with xcpngUuid := some guest } }, ())

def storeUuid (vm : VmId) (guest : Uuid) : Transaction Site Unit := fun s =>
  match s.vms vm with
  | none => .ok (s, ())
  | some row =>
    if row.xcpngUuid.any (· != guest) then .error .generationChanged
    else .ok ({ s with vms := s.vms.put vm { row with xcpngUuid := some guest } }, ())

def adminSuspended (row : VMRow) : Bool :=
  row.suspension == some .accountDisabled || row.suspension == some .manualAdmin

def restrictionOf (vm : VmId) (guest : Uuid) (s : Site) : Restriction :=
  match s.vms vm with
  | none => .gone
  | some row =>
    if row.xcpngUuid ≠ some guest ∨ row.status = .destroyed then .gone
    else if adminSuspended row || ownerDisabled s.toStore row.ownerAccountId then .restricted
    else .free

/-- One poll of `_wait_for_guest_result` that ends it. -/
def guestResult (vm : VmId) (generation : Generation) : Transaction Site Unit := fun s =>
  match s.receipts vm with
  | none => .error (.provisioningFailed "guest_report")
  | some receipt =>
    if receipt.generation ≠ generation then .error .generationChanged
    else match receipt.received with
      | some true => .ok (s, ())
      | some false => .error (.provisioningFailed "guest_init")
      | none => .error (.provisioningFailed "guest_report")

/-- The checks of the final session; its result says whether the guest has to
stay suspended, or `none` when there is nothing left to finish. -/
def readyToFinish (vm : VmId) (guest : Uuid) (generation : Generation) :
    Transaction Site (Option Bool) := fun s =>
  match s.vms vm with
  | none => .ok (s, none)
  | some row =>
    if row.status ≠ .provisioning ∧ ¬(adminSuspended row ∧ row.status = .suspended) then
      .ok (s, none)
    else if row.xcpngUuid ≠ some guest ∨ currentGeneration vm generation s = false then
      .error .generationChanged
    else if (s.receipts vm).any (·.received == some true) then
      .ok (s, some row.suspension.isSome)
    else .error (.provisioningFailed "guest_report")

def finishProvisioning (vm : VmId) (suspended : Bool) : Transaction Store Unit := fun s =>
  match s.vms vm with
  | none => .ok (s, ())
  | some row => .ok ({ s with
      vms := s.vms.put vm { row with status := if suspended then .suspended else .ready } }, ())

def commitFailed (vm : VmId) : Transaction Store FailedCharge := fun s =>
  match s.vms vm with
  | none => .ok (s, {})
  | some row => .ok ({ s with vms := s.vms.put vm { row with status := .failed } }, {
      ownerWallet := row.ownerWallet
      amount := some row.costTotal
      paymentTx := row.paymentTx
      settled := row.paymentTx.bind fun tx => settledEvent tx s })

def inSession {β : Type} (tx : Transaction Site β) (answer : ProvisionAnswer) (s : Site) :
    Option (Site × Except Err β) :=
  match answer with
  | .commit fate => some (transact tx fate s)
  | _ => none

/-- A step outside the model: it succeeds, or it fails with some error. -/
def external (failure : String → Err) (answer : ProvisionAnswer) (s : Site) :
    Option (Site × Except Err Unit) :=
  match answer with
  | .commit .done => some (s, .ok ())
  | .refuse detail => some (s, .error (failure detail))
  | _ => none

def exchanged {β : Type} (run : ExchangeFate → Site → Site × Except Err β)
    (answer : ProvisionAnswer) (s : Site) : Option (Site × Except Err β) :=
  match answer with
  | .exchange fate => some (run fate s)
  | _ => none

def ProvisionReq.answered {β : Type} (request : ProvisionReq β) (answer : ProvisionAnswer)
    (s : Site) : Option (Site × Except Err β) :=
  match request with
  | .exchange command => exchanged (exchangeCommand command) answer s
  | .findLabel label => exchanged (exchangeQuery fun s => some (guestsLabelled label s)) answer s
  | .powerState guest => exchanged (exchangeQuery fun s => (s.guests guest).map (·.power)) answer s
  | .guestExists guest => exchanged (exchangeQuery fun s => some (s.guests guest).isSome) answer s
  | .reconnect => external (fun _ => .connectionClosed) answer s
  | .beginProvisioning vm =>
    inSession (siteRead fun s => (s.vms vm).any (·.status == .provisioning)) answer s
  | .getVm vm => inSession (siteRead fun s => s.vms vm) answer s
  | .renderConfig _ => external .value answer s
  | .capacityLock => inSession (siteRead fun _ => ()) answer s
  | .getReceipt vm => inSession (siteRead fun s => s.receipts vm) answer s
  | .prepareGuestResult vm => inSession (HyruleCloud.prepareGuestResult vm) answer s
  | .adoptGuest vm generation guest =>
    inSession (HyruleCloud.adoptGuest vm generation guest) answer s
  | .storeUuid vm guest => inSession (HyruleCloud.storeUuid vm guest) answer s
  | .checkRestriction vm guest => inSession (siteRead (restrictionOf vm guest)) answer s
  | .waitForIpv6 _ => external (fun _ => .timeout) answer s
  | .publishDns _ => external (fun _ => .provisioningFailed "dns") answer s
  | .guestResult vm generation => inSession (HyruleCloud.guestResult vm generation) answer s
  | .readyToFinish vm guest generation =>
    inSession (HyruleCloud.readyToFinish vm guest generation) answer s
  | .finishProvisioning vm suspended =>
    inSession (onSite (HyruleCloud.finishProvisioning vm suspended)) answer s
  | .commitFailed vm => inSession (onSite (HyruleCloud.commitFailed vm)) answer s
  | .releaseVmAttachmentClaim vm =>
    inSession (onSite (HyruleCloud.releaseVmAttachmentClaim vm)) answer s
  | .quoteForVm vm => inSession (siteRead fun s => (s.quoteOf vm).bind s.vmQuotes) answer s
  | .recordOwed args => match answer with
      | .commit .failed => some (s, .ok ())
      | .commit _ => some ({ s with toStore := HyruleCloud.recordOwed args s.toStore }, .ok ())
      | _ => none
  | .intentOfVm vm => inSession (siteRead fun s => s.intentOf vm) answer s
  | .recordNativeIntentRefund intent reason vm => match answer with
      | .clocked now fate => some (transact
          (onSite (HyruleCloud.recordNativeIntentRefund intent reason (some vm) now)) fate s)
      | _ => none

def ProvisionReq.exec {β : Type} (request : ProvisionReq β) (choice : ProvisionChoice) (s : Site) :
    Option (Site × Except Err β) :=
  request.answered choice.answer (meanwhile choice.meanwhile s)

abbrev Provision (α : Type) := Proc ProvisionReq Err α

def step {β : Type} (request : ProvisionReq β) : Provision β := Proc.perform request

/-- `_xo_call`: a closed socket is reopened once and the exchange is repeated. -/
def xoQuery {β : Type} (request : ProvisionReq β) : Provision β :=
  (step request).rescue fun error => match error with
    | .connectionClosed => do
      step .reconnect
      step request
    | other => .raise other

/-- `_xo_call` of a command: a clone that already landed is adopted by its label. -/
def xoCall (command : XoCommand) : Provision Uuid :=
  (step (.exchange command)).rescue fun error => match error with
    | .connectionClosed => do
      step .reconnect
      match command with
      | .create label => do
        match ← step (.findLabel label) with
        | existing :: _ => pure existing
        | [] => step (.exchange command)
      | _ => step (.exchange command)
    | other => .raise other

def ignoreErrors {α : Type} (program : Provision α) : Provision Unit :=
  ((do let _ ← program; pure ()) : Provision Unit).rescue fun _ => pure ()

/-- `create_vm` of the provider: any error after the clone deletes the clone. -/
def createGuest (label : Label) : Provision Uuid := do
  let guest ← xoCall (.create label)
  ((do
    let _ ← xoCall (.configure guest)
    let _ ← xoCall (.start guest)
    pure guest) : Provision Uuid).rescue fun error => do
      ignoreErrors (xoCall (.delete guest))
      .raise error

/-- `destroy_vm` of the provider -/
def destroyGuest (guest : Uuid) : Provision Unit :=
  ((do let _ ← xoCall (.delete guest); pure ()) : Provision Unit).rescue fun error => do
    if ← xoQuery (.guestExists guest) then .raise error else pure ()

def destroyGuests : List Uuid → Provision Unit
  | [] => pure ()
  | guest :: rest => do
    destroyGuest guest
    destroyGuests rest

def haltGuest (guest : Uuid) : Provision Unit := do
  match ← xoQuery (.powerState guest) with
  | .running => do
    let _ ← xoCall (.stop guest)
    pure ()
  | .halted => pure ()
  | .unknown => .raise (.runtime "unexpected power state")

def haltGuests : List Uuid → Provision Unit
  | [] => pure ()
  | guest :: rest => do
    haltGuest guest
    haltGuests rest

def adoptCandidate (vm : VmId) (generation : Generation) (guest : Uuid) : Provision Uuid := do
  match ← (xoQuery (.powerState guest)).attempt with
  | .ok .running => do
    step (.adoptGuest vm generation guest)
    pure guest
  | .ok .halted => .raise (.provisioningFailed "guest_recovery")
  | _ => .raise .recoveryPending

/-- `_recover_pre_uuid_guest` -/
def recoverPreUuidGuest (vm : VmId) : Provision (Option Uuid) := do
  match ← step (.getReceipt vm) with
  | none => pure none
  | some receipt => do
    match ← xoQuery (.findLabel ⟨vm, some receipt.generation⟩) with
    | [] => do
      let legacy ← xoQuery (.findLabel ⟨vm, none⟩)
      if receipt.received.isSome ∨ legacy ≠ [] then
        .raise (.provisioningFailed "guest_recovery")
      else pure none
    | [guest] => do
      let adopted ← adoptCandidate vm receipt.generation guest
      pure (some adopted)
    | candidates => do
      ignoreErrors (haltGuests candidates)
      .raise .recoveryPending

/-- `_stop_restricted_provisioned_guest`: `true` ends the attempt. -/
def stopRestricted (vm : VmId) (guest : Uuid) : Provision Bool := do
  match ← step (.checkRestriction vm guest) with
  | .gone => pure true
  | .free => pure false
  | .restricted => do
    ignoreErrors (xoCall (.stop guest))
    pure true

def unlessRestricted (vm : VmId) (guest : Uuid) : Provision (Option Uuid) := do
  if ← stopRestricted vm guest then pure none else pure (some guest)

def createFreshGuest (vm : VmId) : Provision (Option Uuid) := do
  let stale ← xoQuery (.findLabel ⟨vm, none⟩)
  destroyGuests stale
  let generation ← step (.prepareGuestResult vm)
  let guest ← createGuest ⟨vm, some generation⟩
  step (.storeUuid vm guest)
  unlessRestricted vm guest

def acquireGuest (vm : VmId) : Provision (Option Uuid) := do
  step .capacityLock
  match ← step (.getVm vm) with
  | none => pure none
  | some row => match row.xcpngUuid with
      | some guest => pure (some guest)
      | none => do
        match ← recoverPreUuidGuest vm with
        | some guest => unlessRestricted vm guest
        | none => createFreshGuest vm

/-- A suspended VM is delivered halted; any doubt leaves the attempt open. -/
def finishSuspended (vm : VmId) (guest : Uuid) : Provision Unit :=
  ((do
    haltGuest guest
    step (.finishProvisioning vm true)) : Provision Unit).rescue fun _ => .raise .recoveryPending

def deliverGuest (vm : VmId) (guest : Uuid) : Provision Unit := do
  if ← stopRestricted vm guest then pure ()
  else do
    match ← step (.getReceipt vm) with
    | none => .raise (.provisioningFailed "guest_report")
    | some receipt => do
      step (.waitForIpv6 guest)
      step (.publishDns vm)
      step (.guestResult vm receipt.generation)
      match ← step (.readyToFinish vm guest receipt.generation) with
      | none => pure ()
      | some true => finishSuspended vm guest
      | some false => step (.finishProvisioning vm false)

def trackedGuest (vm : VmId) (row : VMRow) : Provision (Option Uuid) :=
  match row.xcpngUuid with
  | some guest => pure (some guest)
  | none => acquireGuest vm

/-- The guarded body of `_provision_vm_owned`. -/
def bringUp (vm : VmId) : Provision Unit := do
  match ← step (.getVm vm) with
  | none => pure ()
  | some row => do
    step (.renderConfig vm)
    if row.hasPrefix = false then .raise (.value "no allocated IPv6 prefix")
    else do
      match ← trackedGuest vm row with
      | none => pure ()
      | some guest => deliverGuest vm guest

/-- `_record_native_refund`: `false` when no intent is linked, or its obligation
was already complete. -/
def recordNativeRefund (vm : VmId) (reason : String) : Provision Bool := do
  match ← step (.intentOfVm vm) with
  | none => pure false
  | some intent => step (.recordNativeIntentRefund intent reason vm)

def recordUnsettled (vm : VmId) (charge : FailedCharge) (reason : String) : Provision Unit := do
  let quote ← step (.quoteForVm vm)
  step (.recordOwed {
    resourcePath := "/v1/vm/create"
    payer := some (charge.ownerWallet.getD .unknown)
    amount := match quote with
      | some quote => some quote.amountUsd
      | none => charge.amount
    originalTx := charge.paymentTx
    reason := reason
    vmId := some vm })

def FailedCharge.isCharged (charge : FailedCharge) : Bool :=
  (charge.paymentTx.isSome || charge.amount.any (0 < ·)) && !charge.paymentTx.any (·.isBypass)

/-- `_record_vm_refund` -/
def recordVmRefund (vm : VmId) (charge : FailedCharge) (reason : String) : Provision Unit :=
  match charge.settled with
  | some event => step (.recordOwed {
      resourcePath := "/v1/vm/create"
      payer := some (event.payerWallet.getD .unknown)
      amount := event.amountUsd
      originalTx := charge.paymentTx
      reason := reason
      network := event.network
      asset := event.asset
      vmId := some vm })
  | none =>
    if looksLikeEvmWallet charge.ownerWallet then recordUnsettled vm charge reason
    else do
      if ← recordNativeRefund vm reason then pure ()
      else if charge.isCharged then recordUnsettled vm charge reason
      else pure ()

/-- `internal_failure_detail` -/
def failureDetail : Err → String
  | .provisioningFailed reason => reason
  | .value detail => detail
  | .runtime detail => detail
  | _ => "provisioning_failed"

/-- Refund only after the guest of the row is stopped: `false` gives up. -/
def stopFailedGuest (guest : Option Uuid) : Provision Bool :=
  match guest with
  | none => pure true
  | some guest => do
    match ← (haltGuest guest).attempt with
    | .ok _ => pure true
    | .error _ => pure false

def settleFailure (vm : VmId) (error : Err) : Provision Unit := do
  let charge ← step (.commitFailed vm)
  ignoreErrors (step (.releaseVmAttachmentClaim vm))
  recordVmRefund vm charge (failureDetail error)

def failProvisioning (vm : VmId) (error : Err) : Provision Unit := do
  match ← step (.getVm vm) with
  | none => settleFailure vm error
  | some row =>
    if row.status ≠ .provisioning then pure ()
    else do
      if ← stopFailedGuest row.xcpngUuid then settleFailure vm error else pure ()

/-- The handlers of `_provision_vm_owned`. -/
def attemptFailed (vm : VmId) (error : Err) : Provision Unit :=
  match error with
  | .generationChanged | .recoveryPending => pure ()
  | other => failProvisioning vm other

/-- `_provision_vm_owned` -/
def provisionVm (vm : VmId) : Provision Unit := do
  if ← step (.beginProvisioning vm) then (bringUp vm).rescue (attemptFailed vm) else pure ()

/-- The attempts at one VM, each a process that may die where its oracle ends. -/
def runAttempts (vm : VmId) (attempts : List (List ProvisionChoice)) (s : Site) : Site :=
  attempts.foldl (fun s choices => ((provisionVm vm).play ProvisionReq.exec choices s).2) s

theorem runAttempts_episodes (S : Setting ProvisionReq Err Site ProvisionChoice)
    (same : ∀ {β : Type}, (S.exec : ProvisionReq β → _) = ProvisionReq.exec) (vm : VmId)
    (attempts : List (List ProvisionChoice)) (s : Site) :
    runEpisodes S (fun _ : Unit => provisionVm vm) (attempts.map fun choices => ((), choices)) s =
      runAttempts vm attempts s := by
  obtain ⟨exec, permits, mayCrash⟩ := S
  obtain rfl : @exec = @ProvisionReq.exec := funext fun _ => same
  induction attempts generalizing s with
  | nil => rfl
  | cons choices rest ih => exact ih _

section Outcomes
variable {β : Type} {tx : Transaction Site β} {answer : ProvisionAnswer} {s s' : Site}
  {reply : Except Err β}

theorem inSession_ends (ran : inSession tx answer s = some (s', reply)) :
    SessionEnds s s' reply tx := by
  cases answer with
  | commit fate =>
    simp only [inSession, Option.some.injEq] at ran
    exact transact_ends tx s s' reply fate ran
  | _ => simp [inSession] at ran

theorem inSession_read {read : Site → β}
    (ran : inSession (siteRead read) answer s = some (s', reply)) :
    s' = s ∧ (reply = .ok (read s) ∨ reply = .error .database) := by
  rcases inSession_ends ran with ⟨same, error, rfl, rfl | absurd⟩ | ⟨value, done, ends⟩
  · exact ⟨same, Or.inr rfl⟩
  · cases absurd
  · cases done
    exact ⟨rfl, ends⟩

theorem external_same {failure : String → Err} {reply : Except Err Unit}
    (ran : external failure answer s = some (s', reply)) : s' = s := by
  simp only [external] at ran
  split at ran <;> cases ran <;> rfl

theorem onSite_ok {tx : Transaction Store β} {value : β} (done : onSite tx s = .ok (s', value)) :
    ∃ store, tx s.toStore = .ok (store, value) ∧ s' = { s with toStore := store } := by
  simp only [onSite] at done
  split at done <;> cases done
  exact ⟨_, by assumption, rfl⟩

theorem query_same {read : Site → Option β}
    (ran : exchanged (exchangeQuery read) answer s = some (s', reply)) : s' = s := by
  cases answer with
  | exchange fate =>
    simp only [exchanged, Option.some.injEq] at ran
    cases fate <;> simp only [exchangeQuery] at ran
    · split at ran <;> cases ran <;> rfl
    · cases ran; rfl
    · cases ran; rfl
  | _ => simp [exchanged] at ran

theorem command_ends {command : XoCommand} {reply : Except Err Uuid}
    (ran : exchanged (exchangeCommand command) answer s = some (s', reply)) :
    (s' = s ∧ ∃ error, reply = .error error) ∨
    (s' = command.effect s ∧ (∀ guest, reply = .ok guest → command.answer s = some guest)) ∨
    (s' = { s with delayed := s.delayed ++ [command] } ∧ (∃ error, reply = .error error) ∧
      ∃ closed, answer = .exchange (.lost closed .delayed)) := by
  cases answer with
  | exchange fate =>
    simp only [exchanged, Option.some.injEq] at ran
    cases fate with
    | answered =>
      simp only [exchangeCommand] at ran
      split at ran <;> cases ran
      · rename_i guest known
        refine Or.inr (Or.inl ⟨rfl, fun other same => ?_⟩)
        cases same
        exact known
      · exact Or.inl ⟨rfl, _, rfl⟩
    | refused =>
      cases ran
      exact Or.inl ⟨rfl, _, rfl⟩
    | lost closed loss =>
      cases ran
      cases loss with
      | never => exact Or.inl ⟨rfl, _, rfl⟩
      | applied => exact Or.inr (Or.inl ⟨rfl, fun _ absurd => by cases absurd⟩)
      | delayed => exact Or.inr (Or.inr ⟨rfl, ⟨_, rfl⟩, closed, rfl⟩)
  | _ => simp [exchanged] at ran

end Outcomes

section Harmless

/-- The requests that neither give the VM a guest nor record its failure: they
read, stop, delete and deliver. -/
def Harmless {β : Type} : ProvisionReq β → Prop
  | .exchange (.create _) | .exchange (.start _) => False
  | .prepareGuestResult _ | .adoptGuest _ _ _ | .storeUuid _ _ => False
  | .commitFailed _ | .recordOwed _ | .recordNativeIntentRefund _ _ _ => False
  | _ => True

def Neutral {β : Type} : ProvisionReq β → Prop
  | .finishProvisioning _ _ => False
  | request => Harmless request

theorem neutral_harmless {α : Type} {p : Provision α} (neutral : Within Neutral p) :
    Within Harmless p := by
  refine within_mono neutral fun request here => ?_
  cases request with
  | finishProvisioning vm suspended => exact here.elim
  | _ => exact here

variable {allowed : {β : Type} → ProvisionReq β → Prop}

theorem step_within {β : Type} (request : ProvisionReq β) (here : allowed request) :
    Within allowed (step request) := (within_perform request).mpr here

theorem ignoreErrors_within {α : Type} {p : Provision α} (here : Within allowed p) :
    Within allowed (ignoreErrors p) :=
  within_rescue (within_bind here fun _ => trivial) fun _ => trivial

theorem xoQuery_within {β : Type} (request : ProvisionReq β) (reopens : allowed .reconnect)
    (here : allowed request) : Within allowed (xoQuery request) := by
  refine within_rescue (step_within request here) fun error => ?_
  cases error with
  | connectionClosed => exact within_bind (step_within _ reopens) fun _ => step_within _ here
  | _ => trivial

theorem xoCall_within (command : XoCommand) (reopens : allowed .reconnect)
    (lists : ∀ label, allowed (.findLabel label)) (here : allowed (.exchange command)) :
    Within allowed (xoCall command) := by
  have again : Within allowed (step (.exchange command)) := step_within _ here
  refine within_rescue again fun error => ?_
  cases error with
  | connectionClosed =>
    refine within_bind (step_within _ reopens) fun _ => ?_
    cases command with
    | create label =>
      refine within_bind (step_within _ (lists label)) fun found => ?_
      cases found with
      | nil => exact again
      | cons existing rest => trivial
    | _ => exact again
  | _ => trivial

theorem createGuest_within (label : Label) (reopens : allowed .reconnect)
    (lists : ∀ label, allowed (.findLabel label))
    (commands : ∀ command, allowed (.exchange command)) : Within allowed (createGuest label) := by
  have call (command : XoCommand) : Within allowed (xoCall command) :=
    xoCall_within command reopens lists (commands command)
  refine within_bind (call _) fun guest => within_rescue ?_ fun error => ?_
  · exact within_bind (call _) fun _ => within_bind (call _) fun _ => trivial
  · exact within_bind (ignoreErrors_within (call _)) fun _ => trivial

theorem recordVmRefund_within (vm : VmId) (charge : FailedCharge) (reason : String)
    (quotes : allowed (.quoteForVm vm)) (owes : ∀ args, allowed (.recordOwed args))
    (intents : allowed (.intentOfVm vm))
    (refunds : ∀ intent, allowed (.recordNativeIntentRefund intent reason vm)) :
    Within allowed (recordVmRefund vm charge reason) := by
  have unsettled : Within allowed (recordUnsettled vm charge reason) :=
    within_bind (step_within _ quotes) fun _ => step_within _ (owes _)
  have native : Within allowed (recordNativeRefund vm reason) := by
    refine within_bind (step_within _ intents) fun intent => ?_
    cases intent with
    | none => trivial
    | some intent => exact step_within _ (refunds intent)
  unfold recordVmRefund
  split
  · exact step_within _ (owes _)
  split
  · exact unsettled
  refine within_bind native fun recorded => ?_
  split
  · trivial
  · split
    · exact unsettled
    · trivial

theorem destroyGuests_neutral (guests : List Uuid) : Within Neutral (destroyGuests guests) := by
  induction guests with
  | nil => trivial
  | cons guest rest ih =>
    have deleted : Within Neutral (xoCall (.delete guest)) :=
      xoCall_within _ trivial (fun _ => trivial) trivial
    refine within_bind (within_rescue (within_bind deleted fun _ => trivial) fun error => ?_)
      fun _ => ih
    refine within_bind (xoQuery_within _ trivial trivial) fun still => ?_
    split <;> trivial

theorem stop_neutral (guest : Uuid) : Within Neutral (xoCall (.stop guest)) :=
  xoCall_within _ trivial (fun _ => trivial) trivial

theorem haltGuest_neutral (guest : Uuid) : Within Neutral (haltGuest guest) := by
  refine within_bind (xoQuery_within _ trivial trivial) fun power => ?_
  cases power with
  | running => exact within_bind (stop_neutral guest) fun _ => trivial
  | halted | unknown => trivial

theorem haltGuests_neutral (guests : List Uuid) : Within Neutral (haltGuests guests) := by
  induction guests with
  | nil => trivial
  | cons guest rest ih => exact within_bind (haltGuest_neutral guest) fun _ => ih

theorem stopRestricted_neutral (vm : VmId) (guest : Uuid) :
    Within Neutral (stopRestricted vm guest) := by
  refine within_bind (step_within _ trivial) fun restriction => ?_
  cases restriction with
  | gone | free => trivial
  | restricted => exact within_bind (ignoreErrors_within (stop_neutral guest)) fun _ => trivial

theorem unlessRestricted_neutral (vm : VmId) (guest : Uuid) :
    Within Neutral (unlessRestricted vm guest) := by
  refine within_bind (stopRestricted_neutral vm guest) fun stopped => ?_
  split <;> trivial

theorem deliverGuest_harmless (vm : VmId) (guest : Uuid) :
    Within Harmless (deliverGuest vm guest) := by
  refine within_bind (neutral_harmless (stopRestricted_neutral vm guest)) fun stopped => ?_
  cases stopped with
  | true => trivial
  | false =>
    refine within_bind (step_within _ trivial) fun receipt => ?_
    cases receipt with
    | none => trivial
    | some receipt =>
      refine within_bind (step_within _ trivial) fun _ =>
        within_bind (step_within _ trivial) fun _ =>
          within_bind (step_within _ trivial) fun _ =>
            within_bind (step_within _ trivial) fun ready => ?_
      split
      · trivial
      · exact within_rescue (within_bind (neutral_harmless (haltGuest_neutral guest))
          fun _ => step_within _ trivial) fun _ => trivial
      · exact step_within _ trivial

theorem stopFailedGuest_neutral (guest : Option Uuid) :
    Within Neutral (stopFailedGuest guest) := by
  cases guest with
  | none => trivial
  | some guest =>
    refine within_bind (within_attempt (haltGuest_neutral guest)) fun result => ?_
    cases result <;> trivial

end Harmless

end HyruleCloud
