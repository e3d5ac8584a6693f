import HyruleCloud.Interleaving
import HyruleCloud.Marketplace

/-!
The checkout of one `client_order_id`, `register_domain_x402` of domains/api.py with
`prepare_registration` and `create_marketplace_order` of domains/service.py: each read and
each session of the handler is a request of its own. The rows carry what Marketplace leaves
out, the domain, the price and the terms. The columns that the code never writes again stand
apart; the others may change at any time.
-/

namespace HyruleCloud.Checkouts

open Interaction

abbrev ClientOrderId := Nat
abbrev TermsVersion := Nat

/-- The part of `DomainQuoteRow` that stays. -/
structure Offer where
  fqdn : Fqdn
  action : DomainAction := .register
  totalUsd : Usd
  available : Bool := true
  premium : Bool := false
  termsVersion : TermsVersion
  expiresAt : Time

structure QuoteRow where
  offer : Offer
  ownerAccountId : Option AccountId := none
  status : DomainQuoteStatus := .active

/-- The part of `DomainOrderRow` that stays. -/
structure Bill where
  quoteId : QuoteId
  fqdn : Fqdn
  amountUsd : Usd
  termsVersion : TermsVersion
  deriving DecidableEq

structure OrderRow where
  bill : Bill
  ownerAccountId : Option AccountId
  status : OrderStatus := .awaitingPayment
  paidAt : Option Time := none
  deriving DecidableEq

/-- `DomainRegistrationIntentRow` -/
structure IntentRow where
  registrationId : RegistrationId
  clientOrderId : ClientOrderId
  fqdn : Fqdn
  row : RegistrationRow

/-- `DomainRegistrationRequest`, with its domain normalized. -/
structure RegistrationRequest where
  fqdn : Fqdn
  clientOrderId : ClientOrderId
  termsVersion : Option TermsVersion := none
  quoteId : Option QuoteId := none
  maxPriceUsd : Option Usd := none
  deriving DecidableEq

/-- A request with its account and its payment, and the configuration of the process that
answers it. -/
structure Call where
  body : RegistrationRequest
  accountId : Option AccountId := none
  authorizationHash : Option AuthorizationHash := none
  termsVersion : TermsVersion
  quoteTtlSeconds : Nat
  registrationLimit : Nat

/-- What `prepare_registration` returns. -/
structure Prepared where
  intent : IntentRow
  quote : QuoteRow
  order : Option (OrderId × OrderRow)

def Prepared.quoteId (prepared : Prepared) : QuoteId := prepared.intent.row.quoteId

structure Challenge where
  registrationId : RegistrationId
  fqdn : Fqdn
  quoteId : QuoteId
  amountUsd : Usd
  termsVersion : TermsVersion
  deriving DecidableEq

def Prepared.challenge (prepared : Prepared) : Challenge where
  registrationId := prepared.intent.registrationId
  fqdn := prepared.intent.fqdn
  quoteId := prepared.quoteId
  amountUsd := prepared.quote.offer.totalUsd
  termsVersion := prepared.quote.offer.termsVersion

/-- An authorization that has moved money, with the request that it came with. -/
structure Settlement where
  request : RegistrationRequest
  challenge : Challenge
  orderId : OrderId
  amountUsd : Usd
  deriving DecidableEq

/-- `accounts` says of an account whether it is disabled. -/
structure Desk where
  clock : Time := 0
  quotes : Table QuoteId QuoteRow
  orders : Table OrderId OrderRow
  intents : List IntentRow := []
  accounts : AccountId → Option Bool
  settlements : List Settlement := []

namespace Desk
variable (desk : Desk)

def intent (id : RegistrationId) : Option IntentRow :=
  desk.intents.find? (·.registrationId == id)

def intentOf (key : ClientOrderId) : Option IntentRow :=
  desk.intents.find? (·.clientOrderId == key)

def putIntent (id : RegistrationId) (row : RegistrationRow) : Desk :=
  { desk with intents := desk.intents.map fun intent =>
      if intent.registrationId = id then { intent with row } else intent }

def window (holder : Holder) (now : Time) : Nat :=
  desk.intents.countP fun intent => intent.row.isOf holder && intent.row.inWindow now

end Desk

def problem (status : Nat) (code : String) : Err := .domainProblem status code

/-- `_registration_quote_needs_refresh` -/
def needsRefresh (terms : TermsVersion) (quote : QuoteRow) (now : Time) : Bool :=
  quote.status ≠ .active || quote.offer.expiresAt ≤ now || quote.offer.termsVersion ≠ terms

/-- `_validate_registration_quote` -/
def validateRegistrationQuote (terms : TermsVersion) (quote : QuoteRow) (fqdn : Fqdn)
    (requestAccountId : Option AccountId) (maxPriceUsd : Option Usd) (reserved paid : Bool)
    (now : Time) : Except Err Unit :=
  let statuses : List DomainQuoteStatus := if reserved then [.reserved, .consumed] else [.active]
  if quote.offer.fqdn ≠ fqdn ∨ quote.offer.action ≠ .register then
    .error (problem 409 "quote_mismatch")
  else if quote.ownerAccountId.any (requestAccountId ≠ some ·) then
    .error (problem 404 "quote_not_found")
  else if !paid && (quote.offer.premium || !quote.offer.available) then
    .error (problem 409 "domain_unavailable")
  else if !paid && quote.offer.termsVersion ≠ terms then .error (problem 409 "terms_changed")
  else if !paid && quote.status ∉ statuses then .error (problem 409 "quote_unavailable")
  else if !paid && !reserved && quote.offer.expiresAt ≤ now then
    .error (problem 409 "quote_expired")
  else if maxPriceUsd.any (· < quote.offer.totalUsd) then
    .error (problem 409 "price_above_maximum")
  else .ok ()

/-- What the registrar and the exchange rate make of a new quote. -/
structure Pricing where
  totalUsd : Usd
  available : Bool := true
  premium : Bool := false

/-- `create_quote` for a registration; the id is drawn. -/
def createQuote (call : Call) (id : QuoteId) (pricing : Pricing) : Transaction Desk QuoteId :=
  fun desk => match desk.quotes id with
    | some _ => .error .database
    | none => .ok ({ desk with quotes := desk.quotes.put id { offer := {
        fqdn := call.body.fqdn
        totalUsd := pricing.totalUsd
        available := pricing.available
        premium := pricing.premium
        termsVersion := call.termsVersion
        expiresAt := desk.clock + call.quoteTtlSeconds } } }, id)

def rebind (id : RegistrationId) (quote replacement : QuoteId) : Transaction Desk Unit :=
  fun desk => match desk.intent id with
    | none => .error .database
    | some intent =>
      if intent.row.orderId = none ∧ intent.row.quoteId = quote then
        .ok (desk.putIntent id { intent.row with
          quoteId := replacement
          updatedAt := desk.clock }, ())
      else .ok (desk, ())

/-- The insert of a new intent; `none` is an IntegrityError, rolled back. -/
def insertIntent (call : Call) (quote : QuoteId) (id : RegistrationId) :
    Transaction Desk (Option IntentRow) := fun desk =>
  let intent : IntentRow := {
    registrationId := id
    clientOrderId := call.body.clientOrderId
    fqdn := call.body.fqdn
    row := { quoteId := quote, updatedAt := desk.clock } }
  if (desk.intent id).isSome || (desk.intentOf call.body.clientOrderId).isSome then
    .ok (desk, none)
  else .ok ({ desk with intents := desk.intents ++ [intent] }, some intent)

/-- What a handler brings to `create_marketplace_order`. -/
structure Bid where
  registrationId : RegistrationId
  ownerAccountId : AccountId
  payerAddress : Wallet
  authorizationHash : AuthorizationHash

/-- What `create_marketplace_order` returns. -/
structure Ordered where
  intent : IntentRow
  orderId : OrderId
  order : OrderRow
  created : Bool

def reenterOrder (bid : Bid) (intent : IntentRow) (orderId : OrderId) (now : Time) :
    Transaction Desk Ordered := fun desk =>
  match desk.orders orderId with
  | none => .error (problem 503 "order_unavailable")
  | some order =>
    let pending := intent.row.settlementState = .settlementPending ∨
      intent.row.settlementState = .settlementUncertain
    if intent.row.authorizationHash.any (· ≠ bid.authorizationHash) ∧ pending then
      .error (problem 409 "payment_in_progress")
    else if intent.row.settlementState = .awaitingPayment ∨
        intent.row.settlementState = .settlementFailed then
      let row := { intent.row with
        authorizationHash := some bid.authorizationHash
        settlementState := .settlementPending
        updatedAt := now }
      .ok (desk.putIntent bid.registrationId row, ⟨{ intent with row }, orderId, order, false⟩)
    else .ok (desk, ⟨intent, orderId, order, false⟩)

/-- A registration that gets its order, from the quote that it names by now. `now` was read
before the locks. -/
def firstOrder (call : Call) (bid : Bid) (intent : IntentRow) (drawn : OrderId) (now : Time) :
    Transaction Desk Ordered := fun desk =>
  match desk.quotes intent.row.quoteId with
  | none => .error (problem 503 "quote_unavailable")
  | some quote =>
    match validateRegistrationQuote call.termsVersion quote intent.fqdn
        (some bid.ownerAccountId) none false false desk.clock with
    | .error error => .error error
    | .ok () =>
      if call.registrationLimit ≤ desk.window (.payer bid.payerAddress) now ∨
          call.registrationLimit ≤ desk.window (.owner bid.ownerAccountId) now then
        .error (problem 429 "registration_limit_reached")
      else if quote.status ≠ .active ∨ quote.offer.expiresAt ≤ now then
        .error (problem 409 "quote_unavailable")
      else if (desk.orders drawn).isSome then .error (problem 409 "registration_conflict")
      else
        let order : OrderRow := {
          bill := ⟨intent.row.quoteId, quote.offer.fqdn, quote.offer.totalUsd, call.termsVersion⟩
          ownerAccountId := some bid.ownerAccountId }
        let row := { intent.row with
          orderId := some drawn
          ownerAccountId := some bid.ownerAccountId
          payerAddress := some bid.payerAddress
          authorizationHash := some bid.authorizationHash
          settlementState := .settlementPending
          updatedAt := now }
        let reserved := { desk with
          quotes := desk.quotes.put intent.row.quoteId { quote with status := .reserved }
          orders := desk.orders.put drawn order }
        .ok (reserved.putIntent bid.registrationId row, ⟨{ intent with row }, drawn, order, true⟩)

/-- `create_marketplace_order`, under the lock of the intent -/
def createMarketplaceOrder (call : Call) (bid : Bid) (drawn : OrderId) (now : Time) :
    Transaction Desk Ordered := fun desk =>
  match desk.intent bid.registrationId with
  | none => .error (problem 404 "registration_not_found")
  | some intent =>
    if intent.row.payerAddress.any (· ≠ bid.payerAddress) then
      .error (problem 409 "registration_payer_mismatch")
    else if intent.row.ownerAccountId.any (· ≠ bid.ownerAccountId) then
      .error (problem 409 "registration_owner_mismatch")
    else if desk.accounts bid.ownerAccountId = none then
      .error (problem 401 "authentication_required")
    else match intent.row.orderId with
      | some orderId => reenterOrder bid intent orderId now desk
      | none => firstOrder call bid intent drawn now desk

/-- `x402_payment_guard`: `none` lets the settlement through, else the sweep of an order that
is no longer payable, and the problem. -/
def paymentGuard (orderId : OrderId) (owner : AccountId) (desk : Desk) : Option (Desk × Err) :=
  match desk.orders orderId with
  | none => some (desk, problem 404 "order_not_found")
  | some order =>
    if order.ownerAccountId ≠ some owner then some (desk, problem 404 "order_not_found")
    else if desk.accounts owner ≠ some false then some (desk, problem 403 "account_disabled")
    else if order.status ≠ .awaitingPayment then some (desk, problem 409 "order_not_payable")
    else
      let swept := { desk with
        orders := desk.orders.put orderId { order with status := .expired } }
      match desk.quotes order.bill.quoteId with
      | none => some (swept, problem 409 "quote_expired")
      | some quote =>
        if desk.clock < quote.offer.expiresAt then
          if quote.status = .active ∨ quote.status = .reserved then none
          else some (swept, problem 409 "quote_expired")
        else
          let lapsed := { quote with status := .expired }
          some ({ swept with quotes := desk.quotes.put order.bill.quoteId lapsed },
            problem 409 "quote_expired")

/-- `settle_verified` under the guard, with the amount that was verified. -/
def settleVerified (call : Call) (prepared : Prepared) (orderId : OrderId) (owner : AccountId)
    (answer : FacilitatorAnswer) (desk : Desk) : Desk × Except Err Bool :=
  match paymentGuard orderId owner desk with
  | some (swept, error) => (swept, .error error)
  | none =>
    let settlement : Settlement := {
      request := call.body
      challenge := prepared.challenge
      orderId := orderId
      amountUsd := prepared.quote.offer.totalUsd }
    let settled := { desk with settlements := desk.settlements ++ [settlement] }
    match answer with
    | .success _ => (settled, .ok true)
    | .failure => (desk, .ok false)
    | .exception moved => (if moved then settled else desk, .ok false)

inductive CheckoutReq : Type → Type where
  | byClientOrderId (key : ClientOrderId) : CheckoutReq (Option IntentRow)
  | getIntent (id : RegistrationId) : CheckoutReq (Option IntentRow)
  | getQuote (id : QuoteId) : CheckoutReq (Option QuoteRow)
  | getOrder (id : OrderId) : CheckoutReq (Option OrderRow)
  | clock : CheckoutReq Time
  | createQuote (call : Call) : CheckoutReq QuoteId
  | rebind (id : RegistrationId) (quote replacement : QuoteId) : CheckoutReq Unit
  | insertIntent (call : Call) (quote : QuoteId) : CheckoutReq (Option IntentRow)
  /-- `none`: a response, and no payer. -/
  | verifyOnly (amount : Usd) (challenge : Challenge) : CheckoutReq (Option Wallet)
  | resolveOwner (payer : Wallet) : CheckoutReq (AccountId × Wallet)
  /-- `prepared` is what the payment was verified for; the session does not look at it. -/
  | createMarketplaceOrder (call : Call) (prepared : Prepared) (bid : Bid) : CheckoutReq Ordered
  | recoverHandoffs : CheckoutReq Unit
  | settleVerified (call : Call) (prepared : Prepared) (orderId : OrderId) (owner : AccountId) :
      CheckoutReq Bool

inductive CheckoutChoice where
  | commit (fate : Fate)
  | priced (id : QuoteId) (pricing : Pricing) (fate : Fate)
  | drawn (id : RegistrationId) (fate : Fate)
  | ordered (id : OrderId) (now : Time) (fate : Fate)
  | payer (wallet : Option Wallet)
  | owner (account : AccountId) (wallet : Wallet)
  | answer (answer : FacilitatorAnswer)
  | recovered
  | unavailable

/-- One request as one step. What the recovery of the handoffs writes, others may write at any
time. -/
def checkoutExec {β : Type} (request : CheckoutReq β) (choice : CheckoutChoice) (desk : Desk) :
    Option (Desk × Except Err β) :=
  match request, choice with
  | .byClientOrderId key, .commit fate =>
    some (transact (fun desk => .ok (desk, desk.intentOf key)) fate desk)
  | .getIntent id, .commit fate =>
    some (transact (fun desk => .ok (desk, desk.intent id)) fate desk)
  | .getQuote id, .commit fate =>
    some (transact (fun desk => .ok (desk, desk.quotes id)) fate desk)
  | .getOrder id, .commit fate =>
    some (transact (fun desk => .ok (desk, desk.orders id)) fate desk)
  | .clock, .commit fate => some (transact (fun desk => .ok (desk, desk.clock)) fate desk)
  | .createQuote call, .priced id pricing fate =>
    some (transact (createQuote call id pricing) fate desk)
  | .createQuote _, .unavailable => some (desk, .error (problem 503 "registrar_unavailable"))
  | .rebind id quote replacement, .commit fate =>
    some (transact (rebind id quote replacement) fate desk)
  | .insertIntent call quote, .drawn id fate => some (transact (insertIntent call quote id) fate desk)
  | .verifyOnly _ _, .payer wallet => some (desk, .ok wallet)
  | .resolveOwner _, .owner account wallet => some (desk, .ok (account, wallet))
  | .resolveOwner _, .unavailable => some (desk, .error (problem 502 "payer_unavailable"))
  | .createMarketplaceOrder call _ bid, .ordered id now fate =>
    some (transact (createMarketplaceOrder call bid id now) fate desk)
  | .recoverHandoffs, .recovered => some (desk, .ok ())
  | .recoverHandoffs, .unavailable => some (desk, .error .database)
  | .settleVerified call prepared orderId owner, .answer answer =>
    some (settleVerified call prepared orderId owner answer desk)
  | _, _ => none

abbrev CheckoutM := Proc CheckoutReq Err

def refuse {α : Type} (status : Nat) (code : String) : CheckoutM α := .raise (problem status code)

def readOrder (orderId : Option OrderId) : CheckoutM (Option (OrderId × OrderRow)) :=
  match orderId with
  | none => pure none
  | some orderId => do
    let order ← Proc.perform (.getOrder orderId)
    pure (order.map fun order => (orderId, order))

/-- `_load_registration` -/
def loadRegistration (id : RegistrationId) : CheckoutM Prepared := do
  match ← Proc.perform (.getIntent id) with
  | none => refuse 404 "registration_not_found"
  | some intent =>
    let quote ← Proc.perform (.getQuote intent.row.quoteId)
    let order ← readOrder intent.row.orderId
    match quote with
    | none => refuse 503 "quote_unavailable"
    | some quote => pure ⟨intent, quote, order⟩

/-- `_create_marketplace_quote` -/
def createMarketplaceQuote (call : Call) : CheckoutM (QuoteId × QuoteRow) := do
  let id ← Proc.perform (.createQuote call)
  match ← Proc.perform (.getQuote id) with
  | none => refuse 503 "quote_unavailable"
  | some quote => pure (id, quote)

/-- The validation of a quote for the request, at the time of the validation. -/
def validateForCall (call : Call) (quote : QuoteRow) (order : Option (OrderId × OrderRow)) :
    CheckoutM Unit := do
  let now ← Proc.perform .clock
  Proc.ofReply (validateRegistrationQuote call.termsVersion quote call.body.fqdn call.accountId
    call.body.maxPriceUsd order.isSome (order.any fun order => order.2.paidAt.isSome) now)

def validateNamed (call : Call) (quote : QuoteRow) : CheckoutM Unit :=
  if call.body.quoteId.isSome then validateForCall call quote none else pure ()

def refreshQuote (call : Call) (loaded : Prepared) : CheckoutM Prepared := do
  if loaded.quote.offer.termsVersion ≠ call.termsVersion ∧
      call.body.termsVersion ≠ some call.termsVersion then refuse 409 "terms_changed"
  else do
    validateNamed call loaded.quote
    let replacement ← createMarketplaceQuote call
    Proc.perform (.rebind loaded.intent.registrationId loaded.quoteId replacement.1)
    loadRegistration loaded.intent.registrationId

def refreshWhereNeeded (call : Call) (loaded : Prepared) (now : Time) : CheckoutM Prepared :=
  if loaded.order.isNone && needsRefresh call.termsVersion loaded.quote now then
    refreshQuote call loaded
  else pure loaded

/-- `prepare_registration`, from an intent that is there on. -/
def replayRegistration (call : Call) (existing : IntentRow) : CheckoutM Prepared := do
  if existing.fqdn ≠ call.body.fqdn then refuse 409 "client_order_id_conflict"
  else if call.body.quoteId.any (· ≠ existing.row.quoteId) then
    refuse 409 "client_order_id_conflict"
  else do
    let loaded ← loadRegistration existing.registrationId
    let now ← Proc.perform .clock
    let current ← refreshWhereNeeded call loaded now
    validateForCall call current.quote current.order
    pure current

def requestedQuote (call : Call) : CheckoutM (QuoteId × QuoteRow) :=
  match call.body.quoteId with
  | some id => do
    match ← Proc.perform (.getQuote id) with
    | none => refuse 404 "quote_not_found"
    | some quote => pure (id, quote)
  | none => createMarketplaceQuote call

def firstQuote (call : Call) : CheckoutM (QuoteId × QuoteRow) := do
  let quote ← requestedQuote call
  validateForCall call quote.2 none
  pure quote

/-- `prepare_registration`. It calls itself for the loser of a race of two first requests, as
deep as Python lets it. -/
def prepareRegistration (call : Call) : Nat → CheckoutM Prepared
  | 0 => .raise (.runtime "maximum recursion depth exceeded")
  | depth + 1 => do
    match ← Proc.perform (.byClientOrderId call.body.clientOrderId) with
    | some existing => replayRegistration call existing
    | none => do
      let quote ← firstQuote call
      match ← Proc.perform (.insertIntent call quote.1) with
      | some intent => pure ⟨intent, quote.2, none⟩
      | none => do
        match ← Proc.perform (.byClientOrderId call.body.clientOrderId) with
        | none => refuse 409 "registration_conflict"
        | some winner =>
          if winner.fqdn ≠ call.body.fqdn then refuse 409 "client_order_id_conflict"
          else prepareRegistration call depth

def replaysPayment (call : Call) (prepared : Prepared) : Bool :=
  prepared.order.any (fun order => order.2.paidAt.isSome) && call.authorizationHash.isSome &&
    prepared.intent.row.authorizationHash = call.authorizationHash

/-- The order after the settlements whose handlers are gone have been recovered. -/
def recoverOrder (ordered : Ordered) : CheckoutM (OrderId × OrderRow) := do
  let state := ordered.intent.row.settlementState
  if !ordered.created && (state = .settlementPending || state = .settlementUncertain) then do
    Proc.perform .recoverHandoffs
    let loaded ← loadRegistration ordered.intent.registrationId
    pure (loaded.order.getD (ordered.orderId, ordered.order))
  else pure (ordered.orderId, ordered.order)

/-- `register_domain_x402`, from the verification on to the settlement -/
def payRegistration (call : Call) (prepared : Prepared) : CheckoutM Unit := do
  match ← Proc.perform (.verifyOnly prepared.quote.offer.totalUsd prepared.challenge) with
  | none => pure ()
  | some payer => do
    let (owner, wallet) ← Proc.perform (.resolveOwner payer)
    match call.authorizationHash with
    | none => refuse 400 "payment_authorization_missing"
    | some hash => do
      let ordered ← Proc.perform (.createMarketplaceOrder call prepared
        ⟨prepared.intent.registrationId, owner, wallet, hash⟩)
      let order ← recoverOrder ordered
      if order.2.status ≠ .awaitingPayment then pure ()
      else do
        let settled ← Proc.perform (.settleVerified call prepared order.1 owner)
        if settled then pure () else refuse 502 "payment_settlement_failed"

/-- `register_domain_x402`. What it writes after the settlement are columns that others may
change at any time. -/
def registerDomainX402 (depth : Nat) (call : Call) : CheckoutM Unit := do
  let prepared ← prepareRegistration call depth
  if replaysPayment call prepared then
    match prepared.intent.row.ownerAccountId with
    | none => refuse 503 "registration_owner_unavailable"
    | some owner =>
      if call.accountId.any (· ≠ owner) then refuse 409 "registration_owner_mismatch"
      else pure ()
  else payRegistration call prepared

/-- What the rest of the code does to the rows: time passes, other quotes and orders are
written, and the columns that change are changed. -/
inductive CheckoutEvent where
  | waited (seconds : Nat)
  | quoted (id : QuoteId) (quote : QuoteRow)
  | ordered (id : OrderId) (order : OrderRow)
  | progressed (quotes : QuoteId → QuoteRow) (orders : OrderId → OrderRow)
      (intents : RegistrationId → RegistrationRow) (accounts : AccountId → Option Bool)

def checkoutEvent (event : CheckoutEvent) (desk : Desk) : Desk :=
  match event with
  | .waited seconds => { desk with clock := desk.clock + seconds }
  | .quoted id quote =>
    if (desk.quotes id).isSome then desk else { desk with quotes := desk.quotes.put id quote }
  | .ordered id order =>
    if (desk.orders id).isSome then desk else { desk with orders := desk.orders.put id order }
  | .progressed quotes orders intents accounts => { desk with
      quotes := fun id => (desk.quotes id).map fun quote => { quotes id with offer := quote.offer }
      orders := fun id => (desk.orders id).map fun order => { orders id with bill := order.bill }
      intents := desk.intents.map fun intent => { intent with row := {
        intents intent.registrationId with
        quoteId := intent.row.quoteId
        orderId := intent.row.orderId } }
      accounts }

def StillNames (prepared : Prepared) (desk : Desk) : Prop :=
  ∀ intent ∈ desk.intents, intent.registrationId = prepared.intent.registrationId →
    intent.row.quoteId = prepared.quoteId

def OrdersWhatWasVerified : {β : Type} → CheckoutReq β → Desk → Prop
  | _, .createMarketplaceOrder _ prepared _, desk => StillNames prepared desk
  | _, _, _ => True

def checkoutSetting : Setting CheckoutReq Err Desk CheckoutChoice where
  exec := checkoutExec
  permits request _ desk := OrdersWhatWasVerified request desk
  mayCrash _ _ := True

def checkouts (depth : Nat) (calls : ProcessId → Call) :
    Workload CheckoutReq Err Desk CheckoutChoice CheckoutEvent ProcessId where
  setting := checkoutSetting
  prog process := registerDomainX402 depth (calls process)
  env := checkoutEvent
  mayTick _ _ := True

/-- The order of a settled authorization costs what was settled and not more than the request
allows, is for its domain, and names the quote and the terms of its challenge. -/
def PaysFor (settlement : Settlement) (desk : Desk) : Prop :=
  ∃ order quote, desk.orders settlement.orderId = some order ∧
    desk.quotes order.bill.quoteId = some quote ∧
    settlement.amountUsd = order.bill.amountUsd ∧
    quote.offer.fqdn = settlement.request.fqdn ∧
    order.bill.quoteId = settlement.challenge.quoteId ∧
    quote.offer.termsVersion = settlement.challenge.termsVersion ∧
    order.bill.termsVersion = settlement.challenge.termsVersion ∧
    ∀ maximum ∈ settlement.request.maxPriceUsd, order.bill.amountUsd ≤ maximum

/-- One intent for each `client_order_id`, and every settlement pays for what its payer was
shown. -/
structure CheckoutsBound (desk : Desk) : Prop where
  single : (desk.intents.map IntentRow.clientOrderId).Nodup
  settled : ∀ settlement ∈ desk.settlements, PaysFor settlement desk

end HyruleCloud.Checkouts
