import HyruleCloud.PaymentGates

/-!
Both ways through the payment gate do the same up to the call to settle. They agree exactly
when that call, if it is made, goes through for a payer with a name: a settlement that
raises, or that fails, is noted by one of them only.
-/

namespace HyruleCloud.PaymentGates

open AdminWaivers

namespace Gate
variable (gate : Gate)

/-! The part that the two share: everything before the call to settle. -/

inductive Screened where
  | devBypass
  | adminBypass (payer : String)
  | payment (signed : SignedPayment)

def Screened.verified : Screened → VerifiedPayment
  | .devBypass => .devBypass devPayer
  | .adminBypass payer => .adminBypass payer
  | .payment signed =>
    .payment (orText signed.verification.payer "") signed.payload signed.matching

def signedWork {α : Type} (next : SignedPayment → GateM (GateResponse ⊕ α)) :
    GateM (GateResponse ⊕ α) := do
  let requirements ← called (gate.sdk.buildPaymentRequirements gate.amount)
  match gate.sdk.decodeSignatureHeader (gate.paymentHeader.getD "") with
  | none =>
    return .inl (← gate.refuseVerification requirements (gate.failedEvent malformed) malformed)
  | some .otherVersion =>
    return .inl (← gate.refuseVerification requirements (gate.failedEvent unsupported)
      unsupported)
  | some (.payload payload) =>
    match ← called (gate.sdk.findMatchingRequirements requirements payload) with
    | none =>
      return .inl (← gate.refuseVerification requirements (gate.failedEvent unmatched)
        unmatched)
    | some matching =>
      let verification ← called (gate.sdk.verifyPayment payload matching)
      if !verification.isValid then
        return .inl (← gate.refuseVerification requirements
          (gate.invalidEvent matching verification) (invalidReason verification))
      else next ⟨payload, matching, verification⟩

def screenSigned : GateM (GateResponse ⊕ SignedPayment) :=
  gate.signedWork fun signed => return .inr signed

def screenUnsigned : GateM (GateResponse ⊕ Screened) := do
  match ← answered gate.admin.context with
  | some context => return .inr (.adminBypass (← gate.applyAdminBypass context))
  | none =>
    let response ← gate.build402Response
    if response.statusCode = 402 then
      record { eventType := .required402, amount := gate.amount }
    return .inl response

def screen : GateM (GateResponse ⊕ Screened) := do
  if gate.devBypassed then return .inr .devBypass
  else if !truthy gate.paymentHeader then gate.screenUnsigned
  else if !gate.ensureInitialized then return .inl unavailable
  else match ← attempt gate.screenSigned with
    | .inl response => return .inl response
    | .inr signed => return .inr (.payment signed)

/-- What `check_payment` does with an outcome of the common part. -/
def finishCheck (screened : Screened) : GateM (GateResponse ⊕ String) := do
  match screened with
  | .devBypass =>
    modify fun state => { state with
      paymentTx := some devTx
      paymentNetwork := some "dev-bypass"
      paymentAsset := some "USDC"
      paymentMode := some "dev-bypass" }
    record gate.devEvent
    return .inr devPayer
  | .adminBypass payer => return .inr payer
  | .payment signed => attempt (gate.settleChecked signed)

def finishVerify (screened : Screened) : GateM (GateResponse ⊕ VerifiedPayment) :=
  pure (.inr screened.verified)

def finishCompose (screened : Screened) : GateM (GateResponse ⊕ String) := do
  if ← gate.settleVerified screened.verified then
    return .inr ((← get).paymentPayer.getD screened.verified.payer)
  else return .inl { statusCode := 402, error := "payment_not_settled" }

variable {α : Type}

theorem perform_bind {β : Type} (work : GateM α) (next : α → GateM β) (state : GateState) :
    perform (work >>= next) state =
      match perform work state with
      | (.ok value, after) => perform (next value) after
      | (.error error, after) => (.error error, after) := by
  simp only [perform, bind, ExceptT.bind, ExceptT.mk, StateT.bind, ExceptT.bindCont]
  rcases work state with ⟨_ | _, after⟩ <;> rfl

theorem perform_attempt (work : GateM (GateResponse ⊕ α)) (state : GateState) :
    perform (attempt work) state =
      match perform work state with
      | (.ok value, after) => (.ok value, after)
      | (.error _, after) => (.ok (.inl processingError), after) := by
  simp only [perform, attempt, tryCatch, tryCatchThe, MonadExceptOf.tryCatch, ExceptT.tryCatch,
    ExceptT.mk, bind, StateT.bind]
  rcases work state with ⟨_ | _, after⟩ <;> rfl

/-- `work` goes on with `next`, unless it ends with a response or raises. -/
def andThen {α β : Type} (outcome : Except Raised (GateResponse ⊕ α) × GateState)
    (next : α → GateM (GateResponse ⊕ β)) : Except Raised (GateResponse ⊕ β) × GateState :=
  match outcome with
  | (.ok (.inr value), after) => perform (next value) after
  | (.ok (.inl response), after) => (.ok (.inl response), after)
  | (.error error, after) => (.error error, after)

theorem refuseVerification_andThen {β : Type} (next : α → GateM (GateResponse ⊕ β))
    (requirements : List PaymentRequirements) (event : GateEvent) (error : String)
    (state : GateState) :
    perform (do return .inl (← gate.refuseVerification requirements event error) :
        GateM (GateResponse ⊕ β)) state =
      andThen (perform (do return .inl (← gate.refuseVerification requirements event error) :
        GateM (GateResponse ⊕ α)) state) next := by
  simp only [perform_bind]
  rcases perform (gate.refuseVerification requirements event error) state with ⟨_ | _, _⟩ <;> rfl

theorem signedWork_screen (next : SignedPayment → GateM (GateResponse ⊕ α))
    (state : GateState) :
    perform (gate.signedWork next) state = andThen (perform gate.screenSigned state) next := by
  have refused := gate.refuseVerification_andThen next
  unfold screenSigned signedWork
  rw [perform_bind, perform_bind]
  rcases perform (called (gate.sdk.buildPaymentRequirements gate.amount)) state with
    ⟨_ | requirements, built⟩
  · rfl
  dsimp only
  split
  · exact refused _ _ _ _
  · exact refused _ _ _ _
  rename_i payload _
  rw [perform_bind, perform_bind]
  rcases perform (called (gate.sdk.findMatchingRequirements requirements payload)) built with
    ⟨_ | _ | matching, matched⟩
  · rfl
  · exact refused _ _ _ _
  dsimp only
  rw [perform_bind, perform_bind]
  rcases perform (called (gate.sdk.verifyPayment payload matching)) matched with
    ⟨_ | verification, verified⟩
  · rfl
  dsimp only
  split
  · exact refused _ _ _ _
  · rfl

theorem screenUnsigned_andThen (next : Screened → GateM (GateResponse ⊕ α))
    (state : GateState) :
    perform (do
        match ← answered gate.admin.context with
        | some context => next (.adminBypass (← gate.applyAdminBypass context))
        | none =>
          let response ← gate.build402Response
          if response.statusCode = 402 then
            record { eventType := .required402, amount := gate.amount }
          return .inl response) state =
      andThen (perform gate.screenUnsigned state) next := by
  unfold screenUnsigned
  simp only [perform_bind]
  rcases perform (answered gate.admin.context) state with ⟨_ | _ | context, after⟩
  · rfl
  · simp only [perform_bind]
    rcases perform gate.build402Response after with ⟨_ | response, after⟩
    · rfl
    · dsimp only
      split <;> rfl
  · simp only [perform_bind]
    rcases perform (gate.applyAdminBypass context) after with ⟨_ | _, after⟩ <;> rfl

theorem checkPayment_screen (state : GateState) :
    perform gate.checkPayment state = andThen (perform gate.screen state) gate.finishCheck := by
  unfold checkPayment screen
  split
  · rfl
  split
  · exact gate.screenUnsigned_andThen gate.finishCheck state
  split
  · rfl
  have same : perform gate.checkSigned state =
      andThen (perform gate.screenSigned state) gate.settleChecked :=
    gate.signedWork_screen _ state
  rw [perform_attempt, same, perform_bind, perform_attempt]
  rcases perform gate.screenSigned state with ⟨_ | response | signed, after⟩
  · rfl
  · rfl
  · exact (perform_attempt (gate.settleChecked signed) after).symm

theorem verifyOnly_screen (state : GateState) :
    perform gate.verifyOnly state =
      andThen (perform gate.screen state) finishVerify := by
  unfold verifyOnly screen
  split
  · rfl
  split
  · exact gate.screenUnsigned_andThen finishVerify state
  split
  · rfl
  have same : perform gate.verifySigned state = andThen (perform gate.screenSigned state)
      fun signed => finishVerify (.payment signed) :=
    gate.signedWork_screen (fun signed => finishVerify (.payment signed)) state
  rw [perform_attempt, same, perform_bind, perform_attempt]
  rcases perform gate.screenSigned state with ⟨_ | response | signed, after⟩ <;> rfl


theorem verifyThenSettle_screen (state : GateState) :
    perform gate.verifyThenSettle state =
      andThen (perform gate.screen state) gate.finishCompose := by
  unfold verifyThenSettle
  rw [perform_bind, verifyOnly_screen]
  rcases perform gate.screen state with ⟨_ | response | screened, after⟩ <;> rfl

variable {gate} {state after : GateState}

theorem perform_called {outcome : Option α} {value : α}
    (found : outcome = some value) : perform (called outcome) state = (.ok value, state) := by
  rw [found]
  rfl

theorem perform_answered {outcome : Except Raised α} {value : α}
    (found : outcome = .ok value) : perform (answered outcome) state = (.ok value, state) := by
  rw [found]
  rfl

variable {signed : SignedPayment}

theorem refused_stops {requirements : List PaymentRequirements} {event : GateEvent}
    {error : String}
    (done : perform (do return .inl (← gate.refuseVerification requirements event error) :
        GateM (GateResponse ⊕ SignedPayment)) state = (.ok (.inr signed), after)) : False := by
  rw [perform_bind] at done
  rcases refused : perform (gate.refuseVerification requirements event error) state with
    ⟨_ | _, _⟩ <;> rw [refused] at done <;> cases done

theorem screenSigned_verified (header : truthy gate.paymentHeader = true)
    (ready : gate.ensureInitialized = true)
    (done : perform gate.screenSigned state = (.ok (.inr signed), after)) :
    gate.ReachesSettlement signed ∧ after = state := by
  unfold screenSigned signedWork at done
  rw [perform_bind] at done
  cases built : gate.sdk.buildPaymentRequirements gate.amount with
  | none =>
    rw [built] at done
    cases done
  | some requirements =>
  rw [perform_called built] at done
  dsimp only at done
  split at done
  · exact (refused_stops done).elim
  · exact (refused_stops done).elim
  rename_i payload decoded
  rw [perform_bind] at done
  cases matched : gate.sdk.findMatchingRequirements requirements payload with
  | none =>
    rw [matched] at done
    cases done
  | some found =>
  rw [perform_called matched] at done
  cases found with
  | none => exact (refused_stops done).elim
  | some matching =>
  dsimp only at done
  rw [perform_bind] at done
  cases verified : gate.sdk.verifyPayment payload matching with
  | none =>
    rw [verified] at done
    cases done
  | some verification =>
  rw [perform_called verified] at done
  dsimp only at done
  split at done
  · exact (refused_stops done).elim
  rename_i valid
  cases done
  simp only [Bool.not_eq_true', Bool.not_eq_false] at valid
  exact ⟨⟨header, ready, decoded, ⟨requirements, built, matched⟩, verified, valid⟩, rfl⟩

theorem reaches_screenSigned (reaches : gate.ReachesSettlement signed) :
    perform gate.screenSigned state = (.ok (.inr signed), state) := by
  obtain ⟨requirements, built, matched⟩ := reaches.matched
  unfold screenSigned signedWork
  rw [perform_bind, perform_called built]
  simp only [reaches.decoded]
  rw [perform_bind, perform_called matched]
  dsimp only
  rw [perform_bind, perform_called reaches.verified]
  simp only [reaches.valid]
  rfl

theorem reaches_screen (reaches : gate.ReachesSettlement signed) :
    perform gate.screen state = (.ok (.inr (.payment signed)), state) := by
  have unwaived : gate.devBypassed = false := by simp only [devBypassed, reaches.header]; rfl
  unfold screen
  simp only [unwaived, reaches.header, reaches.ready]
  have signs : perform gate.screenSigned state = (.ok (.inr signed), state) :=
    reaches_screenSigned reaches
  simp [perform_bind, perform_attempt, signs]
  rfl

theorem applyAdminBypass_payer {context : BypassContext} {payer : String}
    (done : perform (gate.applyAdminBypass context) state = (.ok payer, after)) :
    after.paymentPayer = state.paymentPayer := by
  unfold applyAdminBypass at done
  rw [perform_bind] at done
  cases live : gate.admin.liveContext with
  | error error =>
    rw [live] at done
    cases done
  | ok found =>
  rw [perform_answered live] at done
  dsimp only at done
  split at done
  · cases done
  rw [perform_bind] at done
  cases quota : gate.admin.quota with
  | error error =>
    rw [quota] at done
    cases done
  | ok consumed =>
  rw [perform_answered quota] at done
  dsimp only at done
  split at done
  · cases done
  cases done
  rfl

theorem screenUnsigned_passed {screened : Screened}
    (done : perform gate.screenUnsigned state = (.ok (.inr screened), after)) :
    ∃ payer, screened = .adminBypass payer ∧ after.paymentPayer = state.paymentPayer := by
  unfold screenUnsigned at done
  rw [perform_bind] at done
  cases answer : gate.admin.context with
  | error error =>
    rw [answer] at done
    cases done
  | ok found =>
  rw [perform_answered answer] at done
  cases found with
  | none =>
    dsimp only at done
    rw [perform_bind] at done
    rcases built : perform gate.build402Response state with ⟨_ | response, answered⟩
    · rw [built] at done
      cases done
    · rw [built] at done
      dsimp only at done
      split at done <;> cases done
  | some context =>
    dsimp only at done
    rw [perform_bind] at done
    rcases applied : perform (gate.applyAdminBypass context) state with ⟨_ | payer, waived⟩
    · rw [applied] at done
      cases done
    · rw [applied] at done
      cases done
      exact ⟨payer, rfl, applyAdminBypass_payer applied⟩

theorem screen_passed {screened : Screened}
    (done : perform gate.screen state = (.ok (.inr screened), after)) :
    match screened with
    | .devBypass => after = state
    | .adminBypass _ => after.paymentPayer = state.paymentPayer
    | .payment signed => gate.ReachesSettlement signed ∧ after = state := by
  unfold screen at done
  split at done
  · cases done
    rfl
  split at done
  · obtain ⟨payer, rfl, same⟩ := screenUnsigned_passed done
    exact same
  rename_i header
  split at done
  · cases done
  rename_i ready
  simp only [Bool.not_eq_true', Bool.not_eq_false] at header ready
  rw [perform_bind, perform_attempt] at done
  rcases outcome : perform gate.screenSigned state with ⟨_ | response | signed, passed⟩
  · rw [outcome] at done
    cases done
  · rw [outcome] at done
    cases done
  · rw [outcome] at done
    cases done
    exact screenSigned_verified header ready outcome

variable {text : Option String}

theorem orText_named (named : truthy text = true) (default : String) :
    text = some (orText text default) := by
  rcases text with _ | text
  · cases named
  · have named : text ≠ "" := by simpa [truthy] using named
    rw [orText, if_neg named]

theorem orText_truthy (named : truthy text = true) (default : String) :
    orText text default ≠ "" := by
  rw [orText_named named default] at named
  simpa [truthy] using named

theorem orText_unnamed (unnamed : ¬ truthy text = true) (default : String) :
    orText text default = default := by
  rcases text with _ | text
  · rfl
  · have unnamed : text = "" := by simpa [truthy] using unnamed
    rw [orText, if_pos unnamed]

theorem orText_nonempty (text : Option String) {default : String} (named : default ≠ "") :
    orText text default ≠ "" := by
  rcases text with _ | text
  · exact named
  by_cases empty : text = ""
  · rw [orText, if_pos empty]
    exact named
  · rw [orText, if_neg empty]
    exact empty

theorem orText_either (first second : Option String) :
    orText first (orText second "") = orText (either first second) "" := by
  unfold either
  split
  · rename_i named
    exact Option.some.inj ((orText_named named _).symm.trans (orText_named named _))
  · rename_i unnamed
    exact orText_unnamed unnamed _

section Settlement
variable {signed : SignedPayment} {settlement : Settlement} {header : String}

section
variable (settled : gate.sdk.settlePayment signed.payload signed.matching = some settlement)
  (encoded : gate.sdk.encodeResponseHeader settlement = some header)
  (succeeded : settlement.success = true)
include settled encoded succeeded

theorem check_settled :
    observed (perform (gate.finishCheck (.payment signed)) {}) = {
      payer := some (orText (either (either settlement.payer signed.verification.payer)
        (gate.extractWallet (gate.paymentHeader.getD ""))) "unknown")
      paymentTx := some (orText settlement.transaction "")
      paymentNetwork := some signed.matching.network
      paymentAsset := some signed.matching.asset
      paymentResponseHeaders := some (.settlement header)
      ledger := [{
        eventType := .settled
        amount := gate.amount
        network := some signed.matching.network
        asset := some signed.matching.asset
        payer := either (either settlement.payer signed.verification.payer)
          (gate.extractWallet (gate.paymentHeader.getD ""))
        txHash := some (orText settlement.transaction "")
        extra := gate.extraBody }] } := by
  simp only [finishCheck, perform_attempt, settleChecked, perform_bind, perform_called settled,
    perform_called encoded, succeeded]
  rfl

theorem compose_settled :
    observed (perform (gate.finishCompose (.payment signed)) {}) = {
      payer := some (orText settlement.payer (orText signed.verification.payer ""))
      paymentTx := some (orText settlement.transaction "")
      paymentNetwork := some signed.matching.network
      paymentAsset := some signed.matching.asset
      paymentResponseHeaders := some (.settlement header)
      ledger := [{
        eventType := .settled
        amount := gate.amount
        network := some signed.matching.network
        asset := some signed.matching.asset
        payer := some (orText settlement.payer (orText signed.verification.payer ""))
        txHash := some (orText settlement.transaction "")
        extra := gate.extraBody }] } := by
  simp only [finishCompose, Screened.verified, settleVerified, perform_bind, settled,
    perform_called encoded, succeeded]
  rfl

end

theorem check_unsettled (unsettled : ∀ settlement header,
      gate.sdk.settlePayment signed.payload signed.matching = some settlement →
      gate.sdk.encodeResponseHeader settlement = some header → settlement.success = false) :
    (observed (perform (gate.finishCheck (.payment signed)) {})).paymentNetwork = none := by
  simp only [finishCheck, perform_attempt, settleChecked, perform_bind]
  cases settled : gate.sdk.settlePayment signed.payload signed.matching with
  | none => rfl
  | some settlement =>
  simp only [perform_called rfl]
  cases encoded : gate.sdk.encodeResponseHeader settlement with
  | none => rfl
  | some header =>
  simp only [perform_called rfl, unsettled settlement header settled encoded]
  rfl

theorem compose_network :
    (observed (perform (gate.finishCompose (.payment signed)) {})).paymentNetwork =
      some signed.matching.network := by
  simp only [finishCompose, Screened.verified, settleVerified, perform_bind]
  cases settled : gate.sdk.settlePayment signed.payload signed.matching with
  | none => rfl
  | some settlement =>
  simp only [perform_bind]
  cases encoded : gate.sdk.encodeResponseHeader settlement with
  | none => rfl
  | some header =>
  cases settlement.success <;> rfl

theorem settled_agree :
    observed (perform (gate.finishCheck (.payment signed)) {}) =
        observed (perform (gate.finishCompose (.payment signed)) {}) ↔
      gate.SettlesForPayer signed := by
  constructor
  · intro same
    by_contra unpaid
    have network := congrArg Observation.paymentNetwork same
    rw [compose_network] at network
    by_cases settles : ∃ settlement header,
        gate.sdk.settlePayment signed.payload signed.matching = some settlement ∧
        gate.sdk.encodeResponseHeader settlement = some header ∧ settlement.success = true
    · obtain ⟨settlement, header, settled, encoded, succeeded⟩ := settles
      have payers := congrArg Observation.payer same
      rw [check_settled settled encoded succeeded, compose_settled settled encoded succeeded] at payers
      have unnamed : ¬ truthy (either settlement.payer signed.verification.payer) = true :=
        fun named => unpaid ⟨settlement, settled, succeeded, by rw [encoded]; rfl, named⟩
      rw [orText_either, orText_unnamed unnamed] at payers
      exact orText_nonempty _ (by decide) (Option.some.inj payers)
    · rw [check_unsettled] at network
      · cases network
      · intro settlement header settled encoded
        by_contra succeeded
        exact settles ⟨settlement, header, settled, encoded, by simpa using succeeded⟩
  · rintro ⟨settlement, settled, succeeded, encoded, named⟩
    obtain ⟨header, encoded⟩ := Option.isSome_iff_exists.mp encoded
    rw [check_settled settled encoded succeeded, compose_settled settled encoded succeeded]
    have wallet : either (either settlement.payer signed.verification.payer)
        (gate.extractWallet (gate.paymentHeader.getD "")) =
          some (orText settlement.payer (orText signed.verification.payer "")) := by
      rw [either, if_pos named, orText_either]
      exact orText_named named ""
    have nonempty : orText settlement.payer (orText signed.verification.payer "") ≠ "" := by
      rw [orText_either]
      exact orText_truthy named ""
    rw [wallet, orText, if_neg nonempty]

end Settlement

theorem check_traced (settles : gate.SettlesForPayer signed) :
    Traced (observed (perform (gate.finishCheck (.payment signed)) {})).ledger := by
  obtain ⟨settlement, settled, succeeded, encoded, _⟩ := settles
  obtain ⟨header, encoded⟩ := Option.isSome_iff_exists.mp encoded
  rw [check_settled settled encoded succeeded]
  exact ⟨_, List.mem_singleton_self _, Or.inl rfl⟩

theorem reaches_check (reaches : gate.ReachesSettlement signed) :
    observe gate.checkPayment = observed (perform (gate.finishCheck (.payment signed)) {}) := by
  rw [observe, checkPayment_screen, reaches_screen reaches]
  rfl

theorem reaches_compose (reaches : gate.ReachesSettlement signed) :
    observe gate.verifyThenSettle =
      observed (perform (gate.finishCompose (.payment signed)) {}) := by
  rw [observe, verifyThenSettle_screen, reaches_screen reaches]
  rfl

/-- The two agree on a request exactly when its settlement, if it comes to one, goes through
for a payer with a name. -/
theorem gates_agree (gate : Gate) :
    gate.GatesAgree ↔ ∀ signed, gate.ReachesSettlement signed → gate.SettlesForPayer signed := by
  constructor
  · intro agree signed reaches
    apply settled_agree.mp
    rw [← reaches_check reaches, ← reaches_compose reaches]
    exact agree.same
  · intro settles
    have same : observe gate.checkPayment = observe gate.verifyThenSettle := by
      rw [observe, observe, checkPayment_screen, verifyThenSettle_screen]
      rcases screened : perform gate.screen {} with ⟨_ | response | passed, after⟩
      · rfl
      · rfl
      · have passed' := screen_passed screened
        cases passed with
        | devBypass => rfl
        | adminBypass payer =>
          have unset : after.paymentPayer = none := passed'
          change observed (.ok (.inr payer), after) =
            observed (.ok (.inr (after.paymentPayer.getD payer)), after)
          rw [unset]
          rfl
        | payment signed =>
          obtain ⟨reaches, rfl⟩ := passed'
          exact settled_agree.mpr (settles signed reaches)
    refine ⟨same, ?_⟩
    rintro ⟨signed, reaches, _⟩
    have traced := check_traced (settles signed reaches)
    rw [← reaches_check reaches] at traced
    exact ⟨traced, same ▸ traced⟩

/-! A facilitator that has taken the payment and does not answer. -/

def paidRequirements : PaymentRequirements := ⟨"eip155:8453", "0xUSDC"⟩

def silentSdk : PaymentSdk where
  initializes := true
  buildPaymentRequirements _ := some [paidRequirements]
  createPaymentRequiredResponse _ _ := some ()
  decodeSignatureHeader _ := some (.payload ⟨.fields (some "0xA11CE"), none⟩)
  decodeAgain _ := some (.payload ⟨.fields (some "0xA11CE"), none⟩)
  findMatchingRequirements requirements _ := some requirements.head?
  verifyPayment _ _ := some ⟨true, some "0xA11CE", none⟩
  settlePayment _ _ := none
  encodeResponseHeader _ := some "eyJzdWNjZXNzIjp0cnVlfQ=="

def silentGate : Gate where
  config := ⟨"", ["eip155:8453"], "0xHYRULE"⟩
  initialized := true
  sdk := silentSdk
  admin := ⟨.ok none, .ok none, .ok (), true, ""⟩
  request := ⟨some "eyJ4NDAyVmVyc2lvbiI6Mn0=", none, none⟩
  amount := 2
  extraBody := none

theorem silent_settlement_untraced : ¬ silentGate.GatesAgree := by
  intro agree
  have ledgers := congrArg Observation.ledger agree.same
  revert ledgers
  decide +kernel

end Gate

end HyruleCloud.PaymentGates
