import HyruleCloud.PaymentCalls
import Mathlib.Data.Finset.Card

/-!
The public checkout of domain registrations, domains/service.py and domains/api.py.
A handler reserves its authorization, asks the facilitator under the guard of the
order, and records the answer in sessions of their own; the sweep of the settlement
ledger does the same for charges whose handler is gone. An attempt is what a process
holds between two of these sessions.
-/

namespace HyruleCloud

open Interaction

abbrev RegistrationId := Nat
abbrev AuthorizationHash := Nat

inductive SettlementState where
  | awaitingPayment | settlementPending | settlementUncertain | settlementFailed | settled
  deriving DecidableEq

/-- `DomainRegistrationIntentRow` -/
structure RegistrationRow where
  quoteId : QuoteId
  orderId : Option OrderId := none
  ownerAccountId : Option AccountId := none
  payerAddress : Option Wallet := none
  authorizationHash : Option AuthorizationHash := none
  settlementState : SettlementState := .awaitingPayment
  settledAt : Option Time := none
  updatedAt : Time

/-- A settlement of the facilitator for the order of a registration. -/
structure Charge where
  registration : RegistrationId
  order : OrderId
  payer : Wallet
  tx : Tx
  deriving DecidableEq

def Charge.args (charge : Charge) : MarkArgs where
  payer := charge.payer
  txHash := some charge.tx

inductive Attempt where
  | idle
  | reserved (registration : RegistrationId) (order : OrderId) (payer : Wallet)
      (hash : AuthorizationHash)
  | charged (charge : Charge) (loaded : Option DomainOrderRow)
  | paid (charge : Charge)
  | refused (registration : RegistrationId) (ambiguous : Bool)

/-- `spent` are the authorizations that have moved money, `collected` the registrations
for which one of theirs has, and `failures` the registrations recorded as failed, with
whether one had by then. -/
structure Market extends Store where
  clock : Time
  issued : Finset RegistrationId
  registrations : Table RegistrationId RegistrationRow
  ledger : List Charge
  attempt : ProcessId → Attempt
  spent : AuthorizationHash → Bool
  collected : RegistrationId → Bool
  failures : List (RegistrationId × Bool)

inductive Holder where
  | payer (wallet : Wallet)
  | owner (account : AccountId)

def RegistrationRow.isOf (row : RegistrationRow) : Holder → Bool
  | .payer wallet => row.payerAddress == some wallet
  | .owner account => row.ownerAccountId == some account

def day : Time := 86400

/-- The rolling window: `now - timedelta(hours=24) <= column`. -/
def RegistrationRow.inWindow (row : RegistrationRow) (now : Time) : Bool :=
  match row.settlementState with
  | .settlementPending | .settlementUncertain => decide (now ≤ row.updatedAt + day)
  | .settled => row.settledAt.any fun settled => decide (now ≤ settled + day)
  | .awaitingPayment | .settlementFailed => false

def Market.window (m : Market) (holder : Holder) (now : Time) : Finset RegistrationId :=
  m.issued.filter fun r => (m.registrations r).any fun row => row.isOf holder && row.inWindow now

def Market.putRegistration (m : Market) (r : RegistrationId) (row : RegistrationRow) : Market :=
  { m with registrations := m.registrations.put r row }

/-- What a request brings to `create_marketplace_order`; `order` is a drawn id, and
`began` the clock when the function was entered. -/
structure Bid where
  registration : RegistrationId
  payer : Wallet
  owner : AccountId
  hash : AuthorizationHash
  order : OrderId
  fqdn : Fqdn
  totalUsd : Usd
  began : Time

def Bid.room (bid : Bid) (limit : Nat) (m : Market) : Bool :=
  decide ((m.window (.payer bid.payer) bid.began).card < limit) &&
    decide ((m.window (.owner bid.owner) bid.began).card < limit)

def Bid.reserve (bid : Bid) (row : RegistrationRow) : RegistrationRow :=
  { row with
    authorizationHash := some bid.hash
    settlementState := .settlementPending
    updatedAt := bid.began }

def Bid.orderRow (bid : Bid) (quote : QuoteId) : DomainOrderRow where
  quoteId := quote
  fqdn := bid.fqdn
  action := .register
  ownerAccountId := some bid.owner
  amountUsd := bid.totalUsd
  domainAmountUsd := bid.totalUsd

def reenterOrder (bid : Bid) (row : RegistrationRow) (order : OrderId) :
    Transaction Market OrderId := fun m =>
  match m.orders order with
  | none => .error (.domainProblem 503 "order_unavailable")
  | some _ => match row.settlementState with
      | .settlementPending | .settlementUncertain =>
        if row.authorizationHash.any (· ≠ bid.hash) then
          .error (.domainProblem 409 "payment_in_progress")
        else .ok (m, order)
      | .awaitingPayment | .settlementFailed =>
        .ok (m.putRegistration bid.registration (bid.reserve row), order)
      | .settled => .ok (m, order)

def firstOrder (limit : Nat) (bid : Bid) (row : RegistrationRow) : Transaction Market OrderId :=
  fun m => match m.domainQuotes row.quoteId with
  | none => .error (.domainProblem 503 "quote_unavailable")
  | some quote =>
    if quote.status ≠ .active then .error (.domainProblem 409 "quote_unavailable")
    else if quote.expiresAt ≤ bid.began then .error (.domainProblem 409 "quote_expired")
    else if bid.room limit m = false then
      .error (.domainProblem 429 "registration_limit_reached")
    else if (m.orders bid.order).isSome then .error (.domainProblem 409 "registration_conflict")
    else .ok ({ m with
      domainQuotes := m.domainQuotes.put row.quoteId { quote with status := .reserved }
      orders := m.orders.put bid.order (bid.orderRow row.quoteId)
      registrations := m.registrations.put bid.registration { bid.reserve row with
        orderId := some bid.order
        ownerAccountId := some bid.owner
        payerAddress := some bid.payer } }, bid.order)

/-- `create_marketplace_order`, under the locks of the registration and of its owner. -/
def createMarketplaceOrder (limit : Nat) (bid : Bid) : Transaction Market OrderId := fun m =>
  match m.registrations bid.registration with
  | none => .error (.domainProblem 404 "registration_not_found")
  | some row =>
    if row.payerAddress.any (· ≠ bid.payer) then
      .error (.domainProblem 409 "registration_payer_mismatch")
    else if row.ownerAccountId.any (· ≠ bid.owner) then
      .error (.domainProblem 409 "registration_owner_mismatch")
    else match row.orderId with
      | some order => reenterOrder bid row order m
      | none => firstOrder limit bid row m

/-- `x402_payment_guard`; the quote of an order that is no longer payable is swept. -/
def paymentGuard (order : OrderId) (m : Market) : Except Market Unit :=
  match m.orders order with
  | none => .error m
  | some row =>
    if ownerDisabled m.toStore row.ownerAccountId ∨ row.status ≠ .awaitingPayment then .error m
    else match m.domainQuotes row.quoteId with
      | none => .error { m with toStore := expireUnpaidOrder order row m.clock m.toStore }
      | some quote =>
        if quotePayable quote m.clock then .ok ()
        else
          let swept := expireUnpaidOrder order row m.clock m.toStore
          .error { m with toStore :=
            if quote.expiresAt ≤ m.clock then
              { swept with domainQuotes :=
                  swept.domainQuotes.put row.quoteId { quote with status := .expired } }
            else swept }

/-- What the facilitator answers. After an exception nobody knows whether it moved the
money. -/
inductive FacilitatorAnswer where
  | success (tx : Tx)
  | failure
  | exception (moved : Bool)
  deriving DecidableEq

def Market.collect (m : Market) (r : RegistrationId) (hash : AuthorizationHash) : Market :=
  { m with
    spent := Function.update m.spent hash true
    collected := Function.update m.collected r true }

def Market.goOn (m : Market) (h : ProcessId) (attempt : Attempt) : Market :=
  { m with attempt := Function.update m.attempt h attempt }

/-- `settle_verified` under the guard; `stored` iff the ledger event was written. -/
def settleVerified (h : ProcessId) (answer : FacilitatorAnswer) (stored : Bool) (m : Market) :
    Market :=
  match m.attempt h with
  | .reserved r order payer hash => match paymentGuard order m with
      | .error swept => swept.goOn h .idle
      | .ok () => match answer with
          | .success tx =>
            let charge : Charge := ⟨r, order, payer, tx⟩
            let collected := m.collect r hash
            { collected with
              ledger := if stored then charge :: m.ledger else m.ledger }.goOn h
              (.charged charge none)
          | .failure => m.goOn h (.refused r false)
          | .exception moved => (if moved then m.collect r hash else m).goOn h (.refused r true)
  | _ => m

/-- `session.get` of `_mark_paid`. -/
def loadOrder (h : ProcessId) (m : Market) : Market :=
  match m.attempt h with
  | .charged charge _ => m.goOn h (.charged charge (m.orders charge.order))
  | _ => m

/-- The locked part of `_mark_paid`; the handler repeats a call that failed. -/
def markOrderPaid (h : ProcessId) (operation : OperationId) (fate : Fate) (m : Market) : Market :=
  match m.attempt h with
  | .charged charge (some loaded) =>
    match transact (markPaidLoaded loaded charge.order charge.args m.clock operation false) fate
        m.toStore with
    | (s, .ok _) => { m with toStore := s }.goOn h (.paid charge)
    | (s, .error _) => { m with toStore := s }.goOn h (.charged charge none)
  | _ => m

/-- The conditional update at the end of `mark_registration_paid`. -/
def recordSettled (r : RegistrationId) : Transaction Market Unit := fun m =>
  match m.registrations r with
  | none => .ok (m, ())
  | some row =>
    if row.settlementState = .settled then .ok (m, ())
    else .ok (m.putRegistration r { row with
      settlementState := .settled
      settledAt := row.settledAt <|> some m.clock
      updatedAt := m.clock }, ())

/-- `mark_registration_settlement` -/
def recordRefused (r : RegistrationId) (ambiguous : Bool) : Transaction Market Unit := fun m =>
  match m.registrations r with
  | none => .ok (m, ())
  | some row =>
    let recorded := m.putRegistration r { row with
      settlementState := if ambiguous then .settlementUncertain else .settlementFailed
      authorizationHash := if ambiguous then row.authorizationHash else none
      updatedAt := m.clock }
    .ok (if ambiguous then recorded
      else { recorded with failures := (r, m.collected r) :: m.failures }, ())

/-- One charge of the ledger in `recover_x402_handoffs`. -/
def sweepCharge (h : ProcessId) (charge : Charge) (m : Market) : Market :=
  match m.attempt h, m.orders charge.order with
  | .idle, some order =>
    if charge ∈ m.ledger then
      m.goOn h (if IsOpen order.status then .charged charge none else .paid charge)
    else m
  | _, _ => m

inductive MarketStep where
  | wait (seconds : Nat)
  | prepare (r : RegistrationId) (quote : QuoteId)
  | reserve (h : ProcessId) (bid : Bid) (fate : Fate)
  | settle (h : ProcessId) (answer : FacilitatorAnswer) (stored : Bool)
  | sweep (h : ProcessId) (charge : Charge)
  | load (h : ProcessId)
  | pay (h : ProcessId) (operation : OperationId) (fate : Fate)
  | record (h : ProcessId) (fate : Fate)
  | refuse (h : ProcessId) (fate : Fate)
  | crash (h : ProcessId)
  | elsewhere (s : Store)

/-- `prepare_registration`: a new registration, or a new quote before there is an order. -/
def prepareRegistration (r : RegistrationId) (quote : QuoteId) (m : Market) : Market :=
  match m.registrations r with
  | none => { m with
      issued := insert r m.issued
      registrations := m.registrations.put r { quoteId := quote, updatedAt := m.clock } }
  | some row => match row.orderId with
      | none => m.putRegistration r { row with quoteId := quote, updatedAt := m.clock }
      | some _ => m

def marketStep (limit : Nat) (step : MarketStep) (m : Market) : Market :=
  match step with
  | .wait seconds => { m with clock := m.clock + seconds }
  | .prepare r quote => prepareRegistration r quote m
  | .reserve h bid fate => match m.attempt h with
      | .idle => match transact (createMarketplaceOrder limit bid) fate m with
          | (after, .ok order) =>
            after.goOn h (.reserved bid.registration order bid.payer bid.hash)
          | (after, .error _) => after
      | _ => m
  | .settle h answer stored => settleVerified h answer stored m
  | .sweep h charge => sweepCharge h charge m
  | .load h => loadOrder h m
  | .pay h operation fate => markOrderPaid h operation fate m
  | .record h fate => match m.attempt h with
      | .paid charge => match transact (recordSettled charge.registration) fate m with
          | (after, .ok _) => after.goOn h .idle
          | (after, .error _) => after.goOn h (.charged charge none)
      | _ => m
  | .refuse h fate => match m.attempt h with
      | .refused r ambiguous => (transact (recordRefused r ambiguous) fate m).1.goOn h .idle
      | _ => m
  | .crash h => m.goOn h .idle
  | .elsewhere s => { m with toStore := s }

def KeepsPayments (before after : Store) : Prop :=
  ∀ id order, before.orders id = some order → ∃ later, after.orders id = some later ∧
    later.paymentTx = order.paymentTx ∧ later.payer = order.payer

/-- An authorization moves money at most once, and a clock does not run backwards. -/
def mayTrade (step : MarketStep) (m : Market) : Prop :=
  match step with
  | .reserve _ bid _ => bid.began ≤ m.clock
  | .settle h answer _ => match m.attempt h with
      | .reserved _ _ _ hash =>
        answer ≠ .failure → answer ≠ .exception false → m.spent hash = false
      | _ => True
  | .elsewhere s => KeepsPayments m.toStore s
  | _ => True

def market (limit : Nat) : Protocol Market MarketStep := ⟨marketStep limit, mayTrade⟩

end HyruleCloud
