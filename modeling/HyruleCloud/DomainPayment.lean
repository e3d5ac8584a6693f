import HyruleCloud.Reservations

/-!
Payment of a domain order, domains/service.py: the fence around an external
settlement, the accepting transaction `_mark_paid`, and the expiry of unpaid
orders. Each function is one session under the lock of the order row.
-/

namespace HyruleCloud

def PaymentMethod.isNative : PaymentMethod → Bool
  | .usdc => false
  | _ => true

def PaymentMethod.asset : PaymentMethod → String
  | .usdc => "USDC"
  | .btc => "BTC"
  | .xmr => "XMR"

/-- `_build_refund_event`; without an explicit amount the whole order is owed. -/
def buildRefundEvent (id : OrderId) (order : DomainOrderRow) (reason : String)
    (amount : Option Usd := none) : Except Err PaymentEventRow :=
  let native := order.paymentMethod.isNative
  match buildOwedEvent {
    resourcePath := "/v1/domains/orders"
    payer := if native then some (.order id) else order.payer
    amount := some (amount.getD order.amountUsd)
    originalTx := order.paymentTx
    reason := reason
    network := if native then some "native" else order.paymentNetwork
    asset := if native then some order.paymentMethod.asset else order.paymentAsset
    orderId := some id } with
  | some event => .ok event
  | none => .error (.runtime "paid domain order has no recordable refund target")

structure MarkArgs where
  payer : Wallet
  txHash : Option Tx
  paymentNetwork : Option String := none
  paymentAsset : Option String := none
  billingMode : BillingMode := .charged

/-- The settlement attribution that every accepting branch stores first. -/
def attributeSettlement (order : DomainOrderRow) (args : MarkArgs) (now : Time) : DomainOrderRow :=
  { order with
    paidAt := some now
    payer := some args.payer
    paymentTx := args.txHash
    paymentNetwork := args.paymentNetwork
    paymentAsset := args.paymentAsset
    billingMode := args.billingMode }

/-- A payment that cannot be fulfilled: a waived one merely fails, a charged one
becomes a refund obligation in the same commit. -/
def refundOrder (id : OrderId) (order : DomainOrderRow) (code : String) (s : Store) :
    Except Err (Store × DomainOrderRow) :=
  let coded := { order with errorCode := some code }
  if order.billingMode.isWaived then
    let failed := { coded with status := .failed }
    .ok ({ s with orders := s.orders.put id failed }, failed)
  else
    let due := { coded with status := .refundDue }
    match buildRefundEvent id due code with
    | .error error => .error error
    | .ok event => .ok (addEvent event { s with orders := s.orders.put id due }, due)

def quotePayable (quote : DomainQuoteRow) (now : Time) : Bool :=
  (quote.status == .active || quote.status == .reserved) && decide (now < quote.expiresAt)

def vmQuoteHeld (s : Store) (order : DomainOrderRow) : Bool :=
  match order.vmQuoteId with
  | none => true
  | some vmQuote => match s.vmQuotes vmQuote with
      | some row => row.status == .consumed
      | none => false

def queueOrder (id : OrderId) (order : DomainOrderRow) (now : Time) (operation : OperationId) :
    Transaction Store DomainOrderRow := fun s =>
  match s.jobs (.order id) with
  | some _ => .error .database
  | none =>
    let queued := { order with status := .queued, operationId := some operation }
    .ok ({ s with
      orders := s.orders.put id queued
      operations := s.operations.put operation { status := .queued }
      jobs := s.jobs.put (.order id)
        { kind := .fulfillOrder, resource := id, availableAt := now } }, queued)

/-- `_mark_paid`, with the clock, the drawn operation id, and whether
`validate_admin_dispatch` refused the waiver. -/
def markPaid (id : OrderId) (args : MarkArgs) (now : Time) (operation : OperationId)
    (waiverRevoked : Bool) : Transaction Store DomainOrderRow := fun s =>
  match s.orders id with
  | none => .error (.domainProblem 404 "order_not_found")
  | some order =>
    let attributed := attributeSettlement order args now
    if waiverRevoked && args.billingMode == .adminWaived && order.status == .awaitingPayment then
      let failed := { order with
        status := .failed
        billingMode := args.billingMode
        payer := some args.payer
        paymentTx := args.txHash
        paymentNetwork := args.paymentNetwork
        paymentAsset := args.paymentAsset
        errorCode := some "admin_waiver_revoked" }
      .ok ({ s with orders := s.orders.put id failed }, failed)
    else if order.status = .expired then
      -- the sweeper won against a settlement that was already under way
      refundOrder id attributed "payment_after_expiry" s
    else if order.status ≠ .awaitingPayment then
      .ok (s, order)
    else if ownerDisabled s order.ownerAccountId then
      refundOrder id attributed "account_disabled" s
    else match s.domainQuotes order.quoteId with
      | none => refundOrder id attributed "quote_already_consumed" s
      | some quote =>
        if quotePayable quote now = false then
          let swept := if quote.expiresAt ≤ now then { quote with status := .expired } else quote
          refundOrder id attributed "quote_already_consumed"
            { s with domainQuotes := s.domainQuotes.put order.quoteId swept }
        else
          let consumed := { s with
            domainQuotes := s.domainQuotes.put order.quoteId { quote with status := .consumed } }
          if vmQuoteHeld s order = false then
            refundOrder id attributed "vm_quote_already_consumed" consumed
          else queueOrder id attributed now operation consumed

/-- The four ways in which `_mark_paid` commits. -/
inductive MarkOutcome (id : OrderId) (args : MarkArgs) (now : Time) (operation : OperationId)
    (row : DomainOrderRow) (s s' : Store) (order : DomainOrderRow) : Prop
  | revoked (waived : args.billingMode = .adminWaived) (waiting : row.status = .awaitingPayment)
      (failed : order.status = .failed)
      (written : s' = { s with orders := s.orders.put id order })
  | refunded (code : String) (quotes : Table QuoteId DomainQuoteRow)
      (open' : row.status = .expired ∨ row.status = .awaitingPayment)
      (done : refundOrder id (attributeSettlement row args now) code
        { s with domainQuotes := quotes } = .ok (s', order))
  | ignored (handled : row.status ≠ .expired ∧ row.status ≠ .awaitingPayment)
      (same : s' = s) (kept : order = row)
  | queued (quotes : Table QuoteId DomainQuoteRow) (waiting : row.status = .awaitingPayment)
      (done : queueOrder id (attributeSettlement row args now) now operation
        { s with domainQuotes := quotes } = .ok (s', order))

theorem markPaid_outcome (id : OrderId) (args : MarkArgs) (now : Time) (operation : OperationId)
    (waiverRevoked : Bool) (s s' : Store) (order : DomainOrderRow)
    (done : markPaid id args now operation waiverRevoked s = .ok (s', order)) :
    ∃ row, s.orders id = some row ∧ MarkOutcome id args now operation row s s' order := by
  simp only [markPaid] at done
  split at done
  · cases done
  rename_i row present
  refine ⟨row, present, ?_⟩
  split at done
  · rename_i refused
    cases done
    simp only [Bool.and_eq_true, beq_iff_eq] at refused
    exact .revoked refused.1.2 refused.2 rfl rfl
  · split at done
    · rename_i expired
      exact .refunded _ s.domainQuotes (Or.inl expired) done
    · rename_i current
      split at done
      · rename_i handled
        cases done
        exact .ignored ⟨current, handled⟩ rfl rfl
      · rename_i awaiting
        have waiting : row.status = .awaitingPayment := not_not.mp awaiting
        split at done
        · exact .refunded _ s.domainQuotes (Or.inr waiting) done
        split at done
        · exact .refunded _ s.domainQuotes (Or.inr waiting) done
        split at done
        · exact .refunded _ _ (Or.inr waiting) done
        · split at done
          · exact .refunded _ _ (Or.inr waiting) done
          · exact .queued _ waiting done

theorem queued_order (id : OrderId) (order next : DomainOrderRow) (now : Time)
    (operation : OperationId) (s s' : Store)
    (done : queueOrder id order now operation s = .ok (s', next)) :
    s.jobs (.order id) = none ∧
      next = { order with status := .queued, operationId := some operation } ∧
      s' = { s with
        orders := s.orders.put id next
        operations := s.operations.put operation { status := .queued }
        jobs := s.jobs.put (.order id)
          { kind := .fulfillOrder, resource := id, availableAt := now } } := by
  simp only [queueOrder] at done
  split at done
  · cases done
  · cases done
    exact ⟨by assumption, rfl, rfl⟩

/-- `_expire_unpaid_order` reopens the VM quote of a bundle that nobody provisioned. -/
def expireUnpaidOrder (id : OrderId) (order : DomainOrderRow) (now : Time) (s : Store) : Store :=
  if order.status ≠ .awaitingPayment then s
  else
    let swept := { s with
      orders := s.orders.put id
        { order with status := .expired, errorCode := some "quote_expired" } }
    match order.vmQuoteId with
    | none => swept
    | some vmQuote => match s.vmQuotes vmQuote with
        | none => swept
        | some row =>
          if row.status = .consumed ∧ row.vmId = none then
            { swept with
              vmQuotes := s.vmQuotes.put vmQuote
                { row with status := if row.expiresAt ≤ now then .expired else .created } }
          else swept

end HyruleCloud
