import HyruleCloud.AdminWaivers

/-!
The payment gate of one request, middleware/x402.py: `check_payment`, which verifies and
settles, and the pair `verify_only` and `settle_verified`, which the routes that deliver
before they charge call one after the other. The calls of the payment SDK are functions of
their arguments; `none` says that the call raises.
-/

namespace HyruleCloud.PaymentGates

open AdminWaivers

inductive ExtraValue where
  | text (text : String) | amount (amount : Usd) | operation (operationClass : OperationClass)
  deriving DecidableEq

/-- `extra_body` -/
abbrev Extra := List (String × ExtraValue)

/-- The headers of a response of the facilitator, twice the same text, or the marker of a
waiver. -/
inductive ResponseHeaders where
  | settlement (header : String) | adminBypass
  deriving DecidableEq

inductive GateEventType where
  | required402 | verifyFailed | settleFailed | settled | devBypass | adminBypass
  deriving DecidableEq

/-- The arguments of `ledger.record`. -/
structure GateEvent where
  eventType : GateEventType
  amount : Usd
  network : Option String := none
  asset : Option String := none
  payer : Option String := none
  txHash : Option String := none
  error : Option String := none
  extra : Option Extra := none
  actorAccountId : Option AccountId := none
  deriving DecidableEq

/-- What the gate writes to `request.state`, where a name that is not set reads `None`, and
to the ledger. -/
structure GateState where
  paymentTx : Option String := none
  paymentNetwork : Option String := none
  paymentAsset : Option String := none
  paymentMode : Option String := none
  paymentResponseHeaders : Option ResponseHeaders := none
  paymentPayer : Option String := none
  settlementAmbiguous : Option Bool := none
  ledger : List GateEvent := []

structure GateResponse where
  statusCode : Nat
  error : String
  headers : Option ResponseHeaders := none
  deriving DecidableEq

inductive Raised where
  | http (statusCode : Nat) (detail : String) | other

abbrev GateM := ExceptT Raised (StateM GateState)

structure PaymentRequirements where
  network : String
  asset : String

/-- `payload.get("authorization", {})`, with its `from`. -/
inductive Authorization where
  | absent | fields (sender : Option String) | unreadable

structure PaymentPayload where
  authorization : Authorization
  sender : Option String

inductive DecodedHeader where
  | payload (payload : PaymentPayload) | otherVersion

structure Verification where
  isValid : Bool
  payer : Option String
  invalidReason : Option String

structure Settlement where
  success : Bool
  payer : Option String
  transaction : Option String
  errorReason : Option String

structure PaymentSdk where
  initializes : Bool
  buildPaymentRequirements : Usd → Option (List PaymentRequirements)
  createPaymentRequiredResponse : List PaymentRequirements → Option String → Option Unit
  decodeSignatureHeader : String → Option DecodedHeader
  -- the look of `_extract_wallet` at the header
  decodeAgain : String → Option DecodedHeader
  findMatchingRequirements :
    List PaymentRequirements → PaymentPayload → Option (Option PaymentRequirements)
  verifyPayment : PaymentPayload → PaymentRequirements → Option Verification
  settlePayment : PaymentPayload → PaymentRequirements → Option Settlement
  encodeResponseHeader : Settlement → Option String

/-- What an administrator's session and its tables answer: the context of the session, the
context that is read again, the quota and the audit row, and the draw of the hash. -/
structure AdminAnswers where
  context : Except Raised (Option BypassContext)
  liveContext : Except Raised (Option BypassContext)
  quota : Except Raised Unit
  audited : Bool
  token : String

structure PaymentConfig where
  devBypassSecret : String
  networks : List String
  receiverAddress : String

structure GateRequest where
  signatureHeader : Option String
  xPaymentHeader : Option String
  devBypassHeader : Option String

structure Gate where
  config : PaymentConfig
  initialized : Bool
  sdk : PaymentSdk
  admin : AdminAnswers
  request : GateRequest
  amount : Usd
  extraBody : Option Extra

def truthy (text : Option String) : Bool :=
  match text with
  | none => false
  | some text => text ≠ ""

/-- `first or second` -/
def either (first second : Option String) : Option String :=
  if truthy first then first else second

/-- `text or default` -/
def orText (text : Option String) (default : String) : String :=
  match text with
  | none => default
  | some text => if text = "" then default else text

def called {α : Type} (outcome : Option α) : GateM α :=
  match outcome with
  | none => throw .other
  | some value => pure value

def answered {α : Type} (outcome : Except Raised α) : GateM α :=
  match outcome with
  | .error error => throw error
  | .ok value => pure value

/-- `_record` never raises; a write that is dropped is not looked at. -/
def record (event : GateEvent) : GateM Unit :=
  modify fun state => { state with ledger := state.ledger ++ [event] }

/-- `{**(extra_body or {}), ...}` -/
def mergeExtra (extra : Option Extra) (more : Extra) : Extra :=
  (extra.getD []).filter (fun entry => !more.any fun added => added.1 = entry.1) ++ more

namespace Gate
variable (gate : Gate)

def paymentHeader : Option String :=
  either gate.request.signatureHeader gate.request.xPaymentHeader

/-- `not payment_header and self.config.dev_bypass_secret`, and the header is the secret -/
def devBypassed : Bool :=
  !truthy gate.paymentHeader && gate.config.devBypassSecret ≠ "" &&
    gate.request.devBypassHeader = some gate.config.devBypassSecret

/-- `_ensure_initialized` -/
def ensureInitialized : Bool := gate.initialized || gate.sdk.initializes

def paymentRequiredResponse (requirements : List PaymentRequirements) (error : Option String) :
    GateM GateResponse := do
  called (gate.sdk.createPaymentRequiredResponse requirements error)
  return { statusCode := 402, error := error.getD "" }

def unavailable : GateResponse :=
  { statusCode := 503, error := "Payment facilitator unavailable" }

def build402Response : GateM GateResponse :=
  if gate.config.networks = [] ∨ gate.config.receiverAddress = "" then pure unavailable
  else if !gate.ensureInitialized then pure unavailable
  else match gate.sdk.buildPaymentRequirements gate.amount with
    | none => pure unavailable
    | some requirements => gate.paymentRequiredResponse requirements none

def refuseVerification (requirements : List PaymentRequirements) (event : GateEvent)
    (error : String) : GateM GateResponse := do
  record event
  gate.paymentRequiredResponse requirements (some error)

def applyAdminBypass (context : BypassContext) : GateM String := do
  let live ← answered gate.admin.liveContext
  if live ≠ some context then throw (.http 403 "Admin waiver authorization expired")
  answered gate.admin.quota
  let txHash := "admin_bypass_" ++ gate.admin.token
  let payer := "admin:" ++ toString context.accountId
  if !gate.admin.audited then throw (.http 503 "Admin waiver audit unavailable")
  record {
    eventType := .adminBypass
    amount := gate.amount
    network := some "admin-bypass"
    payer := some payer
    txHash := some txHash
    actorAccountId := some context.accountId
    extra := some (mergeExtra gate.extraBody [
      ("operation_class", .operation context.operationClass),
      ("retail_amount_usd", .amount gate.amount)]) }
  modify fun state => { state with
    paymentTx := some txHash
    paymentNetwork := some "admin-bypass"
    paymentAsset := none
    paymentMode := some "admin-bypass"
    paymentResponseHeaders := some .adminBypass }
  return payer

def devPayer : String := "0xDEV_TEST_WALLET"

def devTx : String := "dev_bypass_0x0"

def devEvent : GateEvent where
  eventType := .devBypass
  amount := gate.amount
  payer := some devPayer
  txHash := some devTx
  extra := gate.extraBody

/-- `_extract_wallet` -/
def extractWallet (header : String) : Option String :=
  match gate.sdk.decodeAgain header with
  | none => none
  | some .otherVersion => none
  | some (.payload payload) => match payload.authorization with
      | .absent => payload.sender
      | .fields sender => either sender payload.sender
      | .unreadable => none

def processingError : GateResponse := { statusCode := 502, error := "Payment processing error" }

/-- `except Exception` around the work with the SDK -/
def attempt {α : Type} (work : GateM (GateResponse ⊕ α)) : GateM (GateResponse ⊕ α) :=
  tryCatch work fun _ => pure (.inl processingError)

def malformed : String := "Malformed payment header"

def unsupported : String := "Unsupported payment payload version"

def unmatched : String := "No matching payment requirements"

def invalidReason (verification : Verification) : String :=
  orText verification.invalidReason "Payment verification failed"

/-- The events of the refusals that `check_payment` and `verify_only` both write. -/
def failedEvent (error : String) : GateEvent where
  eventType := .verifyFailed
  amount := gate.amount
  error := some error

def invalidEvent (matching : PaymentRequirements) (verification : Verification) : GateEvent where
  eventType := .verifyFailed
  amount := gate.amount
  network := some matching.network
  payer := verification.payer
  error := some (invalidReason verification)

def failureReason (settlement : Settlement) : String :=
  orText settlement.errorReason "Payment settlement failed"

structure SignedPayment where
  payload : PaymentPayload
  matching : PaymentRequirements
  verification : Verification

/-- `check_payment` from the call to settle on -/
def settleChecked (signed : SignedPayment) : GateM (GateResponse ⊕ String) := do
  let matching := signed.matching
  let verification := signed.verification
  let settlement ← called (gate.sdk.settlePayment signed.payload matching)
  let settlementHeader ← called (gate.sdk.encodeResponseHeader settlement)
  if !settlement.success then
    record {
      eventType := .settleFailed
      amount := gate.amount
      network := some matching.network
      asset := some matching.asset
      payer := either settlement.payer verification.payer
      error := some (failureReason settlement) }
    return .inl {
      statusCode := 402
      error := failureReason settlement
      headers := some (.settlement settlementHeader) }
  else
    let wallet := either (either settlement.payer verification.payer)
      (gate.extractWallet (gate.paymentHeader.getD ""))
    let txHash := orText settlement.transaction ""
    record {
      eventType := .settled
      amount := gate.amount
      network := some matching.network
      asset := some matching.asset
      payer := wallet
      txHash := some txHash
      extra := gate.extraBody }
    modify fun state => { state with
      paymentTx := some txHash
      paymentNetwork := some matching.network
      paymentAsset := some matching.asset
      paymentResponseHeaders := some (.settlement settlementHeader) }
    return .inr (orText wallet "unknown")

/-- The `try` of `check_payment` -/
def checkSigned : GateM (GateResponse ⊕ String) := do
  let requirements ← called (gate.sdk.buildPaymentRequirements gate.amount)
  match gate.sdk.decodeSignatureHeader (gate.paymentHeader.getD "") with
  | none =>
    return .inl (← gate.refuseVerification requirements (gate.failedEvent malformed) malformed)
  | some .otherVersion =>
    return .inl (← gate.refuseVerification requirements (gate.failedEvent unsupported)
      unsupported)
  | some (.payload payload) =>
    match ← called (gate.sdk.findMatchingRequirements requirements payload) with
    | none =>
      return .inl (← gate.refuseVerification requirements (gate.failedEvent unmatched)
        unmatched)
    | some matching =>
      let verification ← called (gate.sdk.verifyPayment payload matching)
      if !verification.isValid then
        return .inl (← gate.refuseVerification requirements
          (gate.invalidEvent matching verification) (invalidReason verification))
      else gate.settleChecked ⟨payload, matching, verification⟩

/-- `check_payment`: a response, or the payer. -/
def checkPayment : GateM (GateResponse ⊕ String) := do
  if gate.devBypassed then
    modify fun state => { state with
      paymentTx := some devTx
      paymentNetwork := some "dev-bypass"
      paymentAsset := some "USDC"
      paymentMode := some "dev-bypass" }
    record gate.devEvent
    return .inr devPayer
  else if !truthy gate.paymentHeader then
    match ← answered gate.admin.context with
    | some context => return .inr (← gate.applyAdminBypass context)
    | none =>
      let response ← gate.build402Response
      if response.statusCode = 402 then
        record { eventType := .required402, amount := gate.amount }
      return .inl response
  else if !gate.ensureInitialized then return .inl unavailable
  else attempt gate.checkSigned

/-- `VerifiedPayment`, by its two flags -/
inductive VerifiedPayment where
  | devBypass (payer : String)
  | adminBypass (payer : String)
  | payment (payer : String) (payload : PaymentPayload) (matching : PaymentRequirements)

/-- The `try` of `verify_only` -/
def verifySigned : GateM (GateResponse ⊕ VerifiedPayment) := do
  let requirements ← called (gate.sdk.buildPaymentRequirements gate.amount)
  match gate.sdk.decodeSignatureHeader (gate.paymentHeader.getD "") with
  | none =>
    return .inl (← gate.refuseVerification requirements (gate.failedEvent malformed) malformed)
  | some .otherVersion =>
    return .inl (← gate.refuseVerification requirements (gate.failedEvent unsupported)
      unsupported)
  | some (.payload payload) =>
    match ← called (gate.sdk.findMatchingRequirements requirements payload) with
    | none =>
      return .inl (← gate.refuseVerification requirements (gate.failedEvent unmatched)
        unmatched)
    | some matching =>
      let verification ← called (gate.sdk.verifyPayment payload matching)
      if !verification.isValid then
        return .inl (← gate.refuseVerification requirements
          (gate.invalidEvent matching verification) (invalidReason verification))
      else return .inr (.payment (orText verification.payer "") payload matching)

def verifyOnly : GateM (GateResponse ⊕ VerifiedPayment) := do
  if gate.devBypassed then return .inr (.devBypass devPayer)
  else if !truthy gate.paymentHeader then
    match ← answered gate.admin.context with
    | some context => return .inr (.adminBypass (← gate.applyAdminBypass context))
    | none =>
      let response ← gate.build402Response
      if response.statusCode = 402 then
        record { eventType := .required402, amount := gate.amount }
      return .inl response
  else if !gate.ensureInitialized then return .inl unavailable
  else attempt gate.verifySigned

def settleVerified (verified : VerifiedPayment) : GateM Bool := do
  match verified with
  | .devBypass payer =>
    modify fun state => { state with
      paymentTx := some devTx
      paymentNetwork := some "dev-bypass"
      paymentAsset := some "USDC"
      paymentMode := some "dev-bypass"
      paymentPayer := some payer
      settlementAmbiguous := some false }
    record gate.devEvent
    return true
  | .adminBypass _ => return true
  | .payment payer payload matching =>
    modify fun state => { state with
      paymentNetwork := some matching.network
      paymentAsset := some matching.asset
      paymentPayer := some payer }
    match gate.sdk.settlePayment payload matching with
    | none =>
      modify fun state => { state with settlementAmbiguous := some true }
      record {
        eventType := .settleFailed
        amount := gate.amount
        network := some matching.network
        asset := some matching.asset
        payer := some payer
        error := some "Payment settlement error"
        extra := gate.extraBody }
      return false
    | some settlement =>
      let settlementHeader ← called (gate.sdk.encodeResponseHeader settlement)
      modify fun state => { state with
        paymentResponseHeaders := some (.settlement settlementHeader) }
      if !settlement.success then
        modify fun state => { state with settlementAmbiguous := some false }
        record {
          eventType := .settleFailed
          amount := gate.amount
          network := some matching.network
          asset := some matching.asset
          payer := either settlement.payer (some payer)
          error := some (failureReason settlement)
          extra := gate.extraBody }
        return false
      else
        let wallet := orText settlement.payer payer
        let txHash := orText settlement.transaction ""
        record {
          eventType := .settled
          amount := gate.amount
          network := some matching.network
          asset := some matching.asset
          payer := some wallet
          txHash := some txHash
          extra := gate.extraBody }
        modify fun state => { state with
          paymentTx := some txHash
          paymentPayer := some wallet
          settlementAmbiguous := some false }
        return true

def VerifiedPayment.payer : VerifiedPayment → String
  | .devBypass payer => payer
  | .adminBypass payer => payer
  | .payment payer _ _ => payer

/-- The two calls in one handler, with the `extra_body` of both: the payer of an accepted
request is the one that the settlement left on it, before the one of the handle. -/
def verifyThenSettle : GateM (GateResponse ⊕ String) := do
  match ← gate.verifyOnly with
  | .inl response => return .inl response
  | .inr verified =>
    if ← gate.settleVerified verified then
      return .inr ((← get).paymentPayer.getD verified.payer)
    else return .inl { statusCode := 402, error := "payment_not_settled" }

/-! What a client, and the accounts, see of the two. -/

structure Observation where
  payer : Option String
  paymentTx : Option String
  paymentNetwork : Option String
  paymentAsset : Option String
  paymentResponseHeaders : Option ResponseHeaders
  ledger : List GateEvent

def acceptedPayer (outcome : Except Raised (GateResponse ⊕ String)) : Option String :=
  match outcome with
  | .ok (.inr payer) => some payer
  | _ => none

def perform {α : Type} (work : GateM α) (state : GateState) : Except Raised α × GateState :=
  work state

def observed (ended : Except Raised (GateResponse ⊕ String) × GateState) : Observation where
  payer := acceptedPayer ended.1
  paymentTx := ended.2.paymentTx
  paymentNetwork := ended.2.paymentNetwork
  paymentAsset := ended.2.paymentAsset
  paymentResponseHeaders := ended.2.paymentResponseHeaders
  ledger := ended.2.ledger

def observe (work : GateM (GateResponse ⊕ String)) : Observation := observed (perform work {})

structure ReachesSettlement (signed : SignedPayment) : Prop where
  header : truthy gate.paymentHeader = true
  ready : gate.ensureInitialized = true
  decoded : gate.sdk.decodeSignatureHeader (gate.paymentHeader.getD "") =
    some (.payload signed.payload)
  matched : ∃ requirements, gate.sdk.buildPaymentRequirements gate.amount = some requirements ∧
    gate.sdk.findMatchingRequirements requirements signed.payload = some (some signed.matching)
  verified : gate.sdk.verifyPayment signed.payload signed.matching = some signed.verification
  valid : signed.verification.isValid = true

def moneyMayMove : Prop :=
  ∃ signed, gate.ReachesSettlement signed ∧
    ∀ settlement, gate.sdk.settlePayment signed.payload signed.matching = some settlement →
      settlement.success = true

def Traced (ledger : List GateEvent) : Prop :=
  ∃ event ∈ ledger, event.eventType = .settled ∨ event.eventType = .settleFailed

structure GatesAgree : Prop where
  same : observe gate.checkPayment = observe gate.verifyThenSettle
  traced : gate.moneyMayMove → Traced (observe gate.checkPayment).ledger ∧
    Traced (observe gate.verifyThenSettle).ledger

/-- The settlement goes through, its header is encoded, and one of the two answers names
the payer. -/
def SettlesForPayer (signed : SignedPayment) : Prop :=
  ∃ settlement, gate.sdk.settlePayment signed.payload signed.matching = some settlement ∧
    settlement.success = true ∧ (gate.sdk.encodeResponseHeader settlement).isSome ∧
    truthy (either settlement.payer signed.verification.payer) = true

end Gate

end HyruleCloud.PaymentGates
