import HyruleCloud.Checkout

/-!
POST /v1/vm/create for a durable quote, api/routes.py: the replay of a consumed
quote, the reservation that is held through settlement, the settlement, the
claim of the quote, and everything that follows a charge.
-/

namespace HyruleCloud

open Interaction

abbrev Checkout (α : Type) := Proc CheckoutReq Err α

def ask {β : Type} (request : CheckoutReq β) : Checkout β := Proc.perform request

structure CreateRequest where
  quoteId : QuoteId
  body : VMCreateRequest
  account : Option AccountId
  isAdmin : Bool := false
  credential : Credential
  process : ProcessId

inductive CreateReply where
  | created (vm : VmId)
  | replayed (vm : VmId)
  | paymentRequired

/-- `_require_resource_owner` -/
def ownsResource (owner : Option AccountId) (request : CreateRequest) : Bool :=
  owner.isNone || (request.account.isSome && (request.account == owner || request.isAdmin))

/-- `_order_matches_quote`: everything but the quote reference. -/
def orderMatchesQuote (posted stored : VMCreateRequest) : Bool :=
  { posted with quoteId := none } == { stored with quoteId := none }

def reservationId (handler : Nat) : VmId := ⟨.request handler, 0⟩

/-- The id that `_insert_vm_row` draws when the reservation has vanished. -/
def fallbackId (handler : Nat) : VmId := ⟨.request handler, 1⟩

def replayConsumed (linked : Option VmId) : Checkout CreateReply :=
  match linked with
  | none => .raise (.http 409)
  | some vm => do
    match ← ask (.getVm vm) with
    | some _ => pure (.replayed vm)
    | none => .raise (.http 409)

/-- The checks on the quote, which may already answer the request. -/
def lookupQuote (request : CreateRequest) : Checkout (CreateReply ⊕ VMQuoteRow) := do
  match ← ask (.getQuote request.quoteId) with
  | none => .raise (.http 404)
  | some quote =>
    if ownsResource quote.ownerAccountId request = false then .raise (.http 404)
    else if quote.status = .consumed then do
      let reply ← replayConsumed quote.vmId
      pure (.inl reply)
    else do
      let now ← ask .clock
      if quote.expiresAt < now then .raise (.http 409)
      else if quote.status ≠ .created then .raise (.http 409)
      else if orderMatchesQuote request.body quote.orderPayload = false then .raise (.http 422)
      else pure (.inr quote)

def reservationArgs (request : CreateRequest) (quote : VMQuoteRow) : InsertArgs :=
  { ownerWallet := none
    ownerAccountId := request.account
    total := quote.amountUsd
    domain := quote.orderPayload.domain }

def claimOrderedDomain (request : CreateRequest) (order : VMCreateRequest) (vm : VmId) :
    Checkout Unit :=
  match order.domainMode, order.domain with
  | .custom, some fqdn =>
    let claim : Checkout Unit := match request.account with
      | none => .raise (.domainProblem 503 "domain_service_unavailable")
      | some owner => ask (.claimVmAttachment owner fqdn vm)
    claim.rescue fun error => do
      ask (.releaseVmReservation vm)
      match error with
      | .domainProblem status _ => .raise (.http status)
      | _ => .raise (.http 503)
  | _, _ => pure ()

/-- Only a request that is about to be charged holds a reservation. -/
def reserve (handler : Nat) (request : CreateRequest) (quote : VMQuoteRow) :
    Checkout (Option VmId) :=
  if request.credential = .absent then do
    ask .admission
    pure none
  else do
    let vm := reservationId handler
    (ask (.reserveVm vm (reservationArgs request quote))).rescue fun error =>
      match error with
      | .provider _ | .runtime _ | .accountDisabled => .raise (.http 503)
      | other => .raise other
    claimOrderedDomain request quote.orderPayload vm
    pure (some vm)

def releaseReservation (reservation : Option VmId) : Checkout Unit :=
  match reservation with
  | none => pure ()
  | some vm => ask (.releaseVmReservation vm)

def settle (handler : Nat) (request : CreateRequest) (quote : VMQuoteRow)
    (reservation : Option VmId) : Checkout PaymentResult :=
  let guarded : Checkout PaymentResult := do
    ask (.enterAccountGuard request.account)
    let result ← ask (.checkPayment handler request.credential quote.amountUsd)
    ask (.leaveAccountGuard request.account (.request handler))
    pure result
  guarded.rescue fun error => do
    releaseReservation reservation
    .raise error

structure Settled where
  handler : Nat
  request : CreateRequest
  quote : VMQuoteRow
  reservation : Option VmId
  wallet : Wallet
  paymentTx : Option Tx
  adminWaived : Bool
  owner : Option AccountId

def Settled.insertArgs (settled : Settled) : InsertArgs :=
  { ownerWallet := some settled.wallet
    ownerAccountId := settled.owner
    total := settled.quote.amountUsd
    domain := settled.quote.orderPayload.domain
    paymentTx := settled.paymentTx
    retailAmount := some settled.quote.amountUsd
    adminWaived := settled.adminWaived
    handoffReady := false }

def Settled.activateArgs (settled : Settled) : ActivateArgs :=
  { ownerWallet := settled.wallet
    paymentTx := settled.paymentTx
    ownerAccountId := settled.owner
    retailAmount := some settled.quote.amountUsd
    adminWaived := settled.adminWaived }

def createFallback (settled : Settled) : Checkout VmId := do
  let vm := fallbackId settled.handler
  ask (.insertVm vm settled.insertArgs settled.adminWaived)
  pure vm

/-- The paid row: the activated reservation, or a fresh one if it vanished. -/
def acquireRow (settled : Settled) : Checkout VmId :=
  match settled.reservation with
  | none => createFallback settled
  | some vm => do
    if ← ask (.activateVmReservation vm settled.activateArgs settled.adminWaived) then
      pure vm
    else if settled.quote.orderPayload.domainMode = .custom then
      .raise (.runtime "the managed-domain reservation expired during payment")
    else createFallback settled

/-- Link the quote, at most three times, and publish the handoff. -/
def dispatch (settled : Settled) (vm : VmId) : Checkout Unit := do
  let _ ← (ask (.linkQuoteVm settled.request.quoteId vm)).retry 3
  ask (.startProvisioning vm)

/-- `record_create_failure_refund` -/
def recordCreateFailureRefund (wallet : Wallet) (paymentTx : Option Tx) (charged : Usd)
    (reason : String) (vm : Option VmId) : Checkout Unit :=
  match paymentTx with
  | none => ask (.recordOwed {
      resourcePath := "/v1/vm/create", payer := some wallet, amount := some charged,
      originalTx := none, reason := reason, vmId := vm })
  | some tx =>
    if tx.isBypass then pure ()
    else do
      match ← ask (.settledEvent tx) with
      | some event => ask (.recordOwed {
          resourcePath := "/v1/vm/create"
          payer := event.payerWallet <|> some wallet
          amount := event.amountUsd
          originalTx := some tx
          reason := reason
          network := event.network
          asset := event.asset
          vmId := vm })
      | none => ask (.recordOwed {
          resourcePath := "/v1/vm/create", payer := some wallet, amount := some charged,
          originalTx := some tx, reason := reason, vmId := vm })

def failRow (vm : Option VmId) : Checkout Unit :=
  match vm with
  | none => pure ()
  | some vm => ask (.markVmFailed vm)

def reopenClaims (settled : Settled) (error : Err) : Checkout CreateReply := do
  let reopened ← (do
    let released ← ask (.releaseQuoteClaim settled.request.process settled.request.quoteId)
    if released then pure ()
    else .raise (.runtime "rejected VM quote claim could not be released")).attempt
  releaseReservation settled.reservation
  match reopened with
  | .ok _ => .raise error
  | .error failure => .raise failure

def recordAndFail (settled : Settled) (reason : String) (vm : Option VmId) (status : Nat) :
    Checkout CreateReply := do
  recordCreateFailureRefund settled.wallet settled.paymentTx settled.quote.amountUsd reason vm
  failRow vm
  .raise (.http status)

/-- The handlers of the block that follows a charge; `row` is the VM row that
the block had obtained when it failed. -/
def postChargeFailure (settled : Settled) (row : Option VmId) (error : Err) :
    Checkout CreateReply :=
  match error with
  | .http status => match row with
      | none => reopenClaims settled (.http status)
      | some _ => .raise (.http status)
  | .accountDisabled =>
    recordAndFail settled "vm_owner_disabled_during_payment" settled.reservation 409
  | _ => recordAndFail settled "vm_create_failed" (row <|> settled.reservation) 500

def claimLost (settled : Settled) : Checkout CreateReply := do
  releaseReservation settled.reservation
  match ← ask (.getQuote settled.request.quoteId) with
  | some latest => replayConsumed latest.vmId
  | none => .raise (.http 409)

def acceptPayment (settled : Settled) : Checkout CreateReply := do
  if ← ask (.claimQuote settled.request.process settled.request.quoteId
      (.request settled.handler)) then
    match ← (acquireRow settled).attempt with
    | .error error => postChargeFailure settled none error
    | .ok vm =>
      (do dispatch settled vm; pure (.created vm) : Checkout CreateReply).rescue
        (postChargeFailure settled (some vm))
  else claimLost settled

/-- `_bind_payer_account`: only an EVM payer has an account to bind, and every
failure falls back to the account of the request. -/
def bindPayerAccount (request : CreateRequest) (wallet : Wallet) : Checkout (Option AccountId) :=
  if looksLikeEvmWallet (some wallet) then ask (.bindPayerAccount wallet request.account)
  else pure request.account

/-- `create_vm` -/
def createVm (handler : Nat) (request : CreateRequest) : Checkout CreateReply := do
  match ← lookupQuote request with
  | .inl reply => pure reply
  | .inr quote =>
    ask .admission
    let reservation ← reserve handler request quote
    match ← settle handler request quote reservation with
    | .response =>
      releaseReservation reservation
      pure .paymentRequired
    | .paid wallet paymentTx adminWaived =>
      let owner ← bindPayerAccount request wallet
      acceptPayment ⟨handler, request, quote, reservation, wallet, paymentTx, adminWaived,
        owner⟩

end HyruleCloud
