import Mathlib.Algebra.Order.Ring.Rat
import Mathlib.Logic.Function.Basic

/-!
The rows of db.py, with the columns that the modelled handlers read or write.
A table is a partial function from its primary key. Identifiers drawn at random
by the code are names here: `VmId` records for what it was drawn, so it is never
drawn twice. Money is an exact rational, time a number of seconds.
-/

namespace HyruleCloud

open Function

abbrev QuoteId := Nat
abbrev IntentId := Nat
abbrev OrderId := Nat
abbrev AccountId := Nat
abbrev ProcessId := Nat
abbrev Fqdn := Nat
abbrev OperationId := Nat
abbrev Time := Nat
abbrev Usd := Rat

inductive Drawer where
  | request (handler : Nat)
  | intent (id : IntentId)
  | order (id : OrderId)
  deriving DecidableEq

structure VmId where
  drawer : Drawer
  serial : Nat
  deriving DecidableEq

/-- The strings that stand in `owner_wallet`, `payer` and `payer_wallet`. -/
inductive Wallet where
  | evm (address : Nat)
  | intent (id : IntentId)
  | order (id : OrderId)
  | admin (account : AccountId)
  | devTest
  | unknown
  deriving DecidableEq

def looksLikeEvmWallet : Option Wallet → Bool
  | some (.evm _) => true
  | _ => false

inductive Tx where
  | chain (settlement : Nat)
  | native (deposit : Nat)
  | devBypass
  | adminBypass (waiver : Nat)
  deriving DecidableEq

/-- `payment_tx.startswith(("dev_bypass", "admin_bypass"))` -/
def Tx.isBypass : Tx → Bool
  | .devBypass => true
  | .adminBypass _ => true
  | _ => false

inductive QuoteStatus where
  | created | consumed | expired
  deriving DecidableEq

inductive VMStatus where
  | provisioning | ready | running | suspended | failed | destroyed
  deriving DecidableEq

inductive DomainMode where
  | auto | custom
  deriving DecidableEq

inductive Handoff where
  | pending | ready
  deriving DecidableEq

/-- `VMCreateRequest`: the fields that decide a branch, and everything else
that the tamper check compares as one opaque value. -/
structure VMCreateRequest where
  quoteId : Option QuoteId := none
  domainMode : DomainMode := .auto
  domain : Option Fqdn := none
  body : Nat := 0
  deriving DecidableEq

structure VMQuoteRow where
  status : QuoteStatus
  orderPayload : VMCreateRequest
  amountUsd : Usd
  ownerAccountId : Option AccountId := none
  expiresAt : Time
  vmId : Option VmId := none

/-- `suspension_reason` -/
inductive Suspension where
  | expired | accountDisabled | manualAdmin
  deriving DecidableEq

structure VMRow where
  /-- `""` in the database is `none`: the row is an unpaid reservation. -/
  ownerWallet : Option Wallet
  ownerAccountId : Option AccountId := none
  status : VMStatus := .provisioning
  paymentTx : Option Tx := none
  costTotal : Usd := 0
  handoff : Option Handoff := none
  hasPrefix : Bool := true
  xcpngUuid : Option Nat := none
  suspension : Option Suspension := none
  domain : Option Fqdn := none
  deriving DecidableEq

inductive EventType where
  | settled | refundOwed | devBypass | adminBypass
  deriving DecidableEq

/-- `PaymentEventRow`. `vmId` and `orderId` are keys of its `extra` document. -/
structure PaymentEventRow where
  eventType : EventType
  resourcePath : String
  amountUsd : Option Usd
  network : Option String := none
  asset : Option String := none
  payerWallet : Option Wallet
  txHash : Option Tx
  errorReason : Option String := none
  vmId : Option VmId := none
  orderId : Option OrderId := none

inductive IntentStatus where
  | created | waitingPayment | settled | provisioning | provisioned
  | refundManual | failed | expired
  deriving DecidableEq

inductive Asset where
  | btc | xmr
  deriving DecidableEq

/-- `order_payload` of an intent: a VM order, a domain order, or a document
that `VMCreateRequest.model_validate` rejects. -/
inductive IntentPayload where
  | vm (order : VMCreateRequest)
  | domainOrder (id : OrderId)
  | malformed

inductive ResourceType where
  | vm | domainOrder
  deriving DecidableEq

/-- `CryptoIntentRow`; `txHash` is the on-chain deposit. -/
structure CryptoIntentRow where
  asset : Asset
  amountCrypto : Rat
  amountUsd : Option Usd
  status : IntentStatus := .created
  expiresAt : Option Time
  rateValidUntil : Option Time
  paidAt : Option Time := none
  txHash : Option Nat := none
  orderPayload : Option IntentPayload
  confirmations : Nat := 0
  amountReceivedCrypto : Option Rat := none
  provisioningTriggeredAt : Option Time := none
  ownerAccountId : Option AccountId := none
  vmId : Option VmId := none
  resourceType : ResourceType := .vm
  resourceId : Option OrderId := none

inductive DomainAction where
  | register | renew
  deriving DecidableEq

inductive OrderStatus where
  | awaitingPayment | paid | queued | checking | submitting | providerPending
  | active | failed | refundDue | refunded | cancelled | expired
  deriving DecidableEq

inductive PaymentMethod where
  | usdc | btc | xmr

inductive BillingMode where
  | charged | adminWaived | devBypass
  deriving DecidableEq

/-- `_is_waived_billing` -/
def BillingMode.isWaived : BillingMode → Bool
  | .charged => false
  | _ => true

inductive FailurePolicy where
  | keepVm | cancelBundle
  deriving DecidableEq

/-- `renewalBaseline` is the `_hyrule_renewal_baseline` key of `provider_response`. -/
structure DomainOrderRow where
  quoteId : QuoteId
  fqdn : Fqdn
  action : DomainAction
  ownerAccountId : Option AccountId
  status : OrderStatus := .awaitingPayment
  amountUsd : Usd
  domainAmountUsd : Usd
  vmAmountUsd : Usd := 0
  paymentMethod : PaymentMethod := .usdc
  paymentNetwork : Option String := none
  paymentAsset : Option String := none
  payer : Option Wallet := none
  paymentTx : Option Tx := none
  billingMode : BillingMode := .charged
  nativeIntentId : Option IntentId := none
  operationId : Option OperationId := none
  providerDomainId : Option Nat := none
  renewalBaseline : Option Time := none
  vmQuoteId : Option QuoteId := none
  vmId : Option VmId := none
  onDomainFailure : FailurePolicy := .keepVm
  errorCode : Option String := none
  paidAt : Option Time := none

inductive DomainQuoteStatus where
  | active | reserved | consumed | expired
  deriving DecidableEq

structure DomainQuoteRow where
  status : DomainQuoteStatus
  expiresAt : Time

inductive DomainStatus where
  | registering | providerPending | active | renewalDue | transferPending
  | transferred | failed | expired
  deriving DecidableEq

inductive DnssecStatus where
  | pending | active | error
  deriving DecidableEq

/-- `providerOperationId` holds the order of the marker `register:{order_id}`. -/
structure DomainRow where
  ownerAccountId : Option AccountId
  status : DomainStatus
  clientOrderId : Option OrderId := none
  openproviderId : Option Nat := none
  providerOperationId : Option OrderId := none
  managedNameservers : Bool := true
  managedDnssec : Bool := true
  dnssecStatus : DnssecStatus := .pending
  expiresAt : Option Time := none
  canRenew : Bool := false
  vmId : Option VmId := none
  vmIpv6 : Bool := false

inductive OperationStatus where
  | queued | running | waitingProvider | succeeded | failed

structure DomainOperationRow where
  status : OperationStatus
  errorCode : Option String := none

inductive JobKind where
  | fulfillOrder | reconcileDomain

inductive JobStatus where
  | queued | running | completed | failed
  deriving DecidableEq

/-- `dedupe_key` is unique in the table, so it serves as the key of a job. -/
inductive JobKey where
  | order (id : OrderId)
  | providerPending (id : OrderId)
  | reconcile (fqdn : Fqdn) (day : Nat)
  deriving DecidableEq

structure DomainJobRow where
  kind : JobKind
  resource : Nat
  status : JobStatus := .queued
  attempts : Nat := 0
  availableAt : Time := 0
  lockedAt : Option Time := none
  lockedBy : Option ProcessId := none

abbrev Table (Key Row : Type) := Key → Option Row

def Table.put {Key Row : Type} [DecidableEq Key] (table : Table Key Row) (key : Key)
    (row : Row) : Table Key Row := update table key (some row)

def Table.erase {Key Row : Type} [DecidableEq Key] (table : Table Key Row) (key : Key) :
    Table Key Row := update table key none

theorem keys_apart {Key Value : Type} {table : Key → Value} {key other : Key} {old row : Value}
    (found : table other = row) (stood : table key = old) (differ : row ≠ old) : other ≠ key := by
  rintro rfl
  exact differ (found.symm.trans stood)

section Table
variable {Key Row : Type} [DecidableEq Key] (table : Table Key Row)

@[simp] theorem put_same (key : Key) (row : Row) : table.put key row key = some row := by
  simp [Table.put]

@[simp] theorem put_other {key other : Key} (row : Row) (different : other ≠ key) :
    table.put key row other = table other := by
  simp [Table.put, different]

variable {table} in
theorem put_self {key : Key} {row : Row} (found : table key = some row) :
    table.put key row = table := by
  rw [Table.put, ← found, update_eq_self]

variable {table} in
theorem update_cases {key other : Key} {entry : Option Row} {row : Row}
    (found : update table key entry other = some row) :
    (other = key ∧ entry = some row) ∨ (other ≠ key ∧ table other = some row) := by
  by_cases same : other = key
  · rw [same, update_self] at found
    exact Or.inl ⟨same, found⟩
  · rw [update_of_ne same] at found
    exact Or.inr ⟨same, found⟩

section
variable {table} {key other : Key} {old new row : Row} (found : table key = some old)
include found

theorem put_relates {R : Row → Row → Prop} (refl : ∀ row, R row row) (related : R old new)
    (present : table other = some row) : ∃ later, table.put key new other = some later ∧ R row later := by
  by_cases same : other = key
  · rw [same, found] at present
    cases present
    exact ⟨new, same ▸ put_same table key new, related⟩
  · exact ⟨row, by rw [put_other _ _ same, present], refl row⟩

theorem put_absent (absent : table other = none) : table.put key new other = none := by
  rw [put_other _ _ (keys_apart absent found nofun), absent]

end

@[simp] theorem erase_same (key : Key) : table.erase key key = none := by
  simp [Table.erase]

@[simp] theorem erase_other {key other : Key} (different : other ≠ key) :
    table.erase key other = table other := by
  simp [Table.erase, different]

end Table

/-- The database. `disabled` is the column `disabled_at` of the accounts. -/
structure Store where
  vmQuotes : Table QuoteId VMQuoteRow
  vms : Table VmId VMRow
  intents : Table IntentId CryptoIntentRow
  domainQuotes : Table QuoteId DomainQuoteRow
  orders : Table OrderId DomainOrderRow
  domains : Table Fqdn DomainRow
  operations : Table OperationId DomainOperationRow
  jobs : Table JobKey DomainJobRow
  events : List PaymentEventRow
  disabled : AccountId → Bool

inductive Err where
  | http (status : Nat)
  | domainProblem (status : Nat) (code : String)
  | openprovider (code : String) (retryable : Bool)
  | dnsControl (code : String) (retryable : Bool)
  | provider (detail : String)
  | accountDisabled
  | handoffFenced
  | connectionClosed
  | timeout
  | xo
  | generationChanged
  | recoveryPending
  | provisioningFailed (reason : String)
  | value (detail : String)
  | runtime (detail : String)
  | database
  deriving DecidableEq

/-- What becomes of a transaction: it is acknowledged, it fails before the
commit, or the commit is applied and its acknowledgement is lost. -/
inductive Fate where
  | done | failed | lost
  deriving DecidableEq

/-- A transaction either aborts, with no effect, or computes the next state. -/
abbrev Transaction (σ β : Type) := σ → Except Err (σ × β)

def transact {σ β : Type} (tx : Transaction σ β) (fate : Fate) (s : σ) : σ × Except Err β :=
  match fate, tx s with
  | .failed, _ => (s, .error .database)
  | _, .error error => (s, .error error)
  | .done, .ok (s', value) => (s', .ok value)
  | .lost, .ok (s', _) => (s', .error .database)

variable {σ β : Type}

theorem transact_cases (tx : Transaction σ β) (fate : Fate) (s s' : σ)
    (reply : Except Err β) (ran : transact tx fate s = (s', reply)) :
    (s' = s ∧ ∃ error, reply = .error error ∧
      (fate = .failed ∨ tx s = .error error)) ∨
    (∃ value, tx s = .ok (s', value) ∧ fate = .done ∧ reply = .ok value) ∨
    (∃ value, tx s = .ok (s', value) ∧ fate = .lost ∧ reply = .error .database) := by
  cases result : tx s with
  | error error =>
    refine Or.inl ?_
    cases fate <;> simp only [transact, result, Prod.mk.injEq] at ran <;>
      obtain ⟨rfl, rfl⟩ := ran <;> simp
  | ok outcome =>
    obtain ⟨after, value⟩ := outcome
    cases fate with
    | failed =>
      simp only [transact, Prod.mk.injEq] at ran
      exact Or.inl ⟨ran.1.symm, _, ran.2.symm, Or.inl rfl⟩
    | done =>
      simp only [transact, result, Prod.mk.injEq] at ran
      exact Or.inr (Or.inl ⟨value, by rw [ran.1], rfl, ran.2.symm⟩)
    | lost =>
      simp only [transact, result, Prod.mk.injEq] at ran
      exact Or.inr (Or.inr ⟨value, by rw [ran.1], rfl, ran.2.symm⟩)

/-- A session aborts and changes nothing, or it commits. An acknowledged commit
delivers its value, a lost one a database error. -/
def SessionEnds {σ β : Type} (s s' : σ) (reply : Except Err β) (tx : Transaction σ β) : Prop :=
  (s' = s ∧ ∃ error, reply = .error error ∧ (error = .database ∨ tx s = .error error)) ∨
  (∃ value, tx s = .ok (s', value) ∧ (reply = .ok value ∨ reply = .error .database))

theorem transact_ends (tx : Transaction σ β) (s s' : σ) (reply : Except Err β)
    (fate : Fate) (ran : transact tx fate s = (s', reply)) : SessionEnds s s' reply tx := by
  rcases transact_cases tx fate s s' reply ran with
    ⟨rfl, error, rfl, cause⟩ | ⟨value, done, _, rfl⟩ | ⟨value, done, _, rfl⟩
  · refine Or.inl ⟨rfl, error, rfl, ?_⟩
    rcases cause with failed | aborted
    · subst failed
      simp only [transact, Prod.mk.injEq, Except.error.injEq] at ran
      exact Or.inl ran.2.symm
    · exact Or.inr aborted
  · exact Or.inr ⟨value, done, Or.inl rfl⟩
  · exact Or.inr ⟨value, done, Or.inr rfl⟩

theorem transact_result (tx : Transaction σ β) (fate : Fate) (s : σ) :
    (transact tx fate s).1 = s ∨
      ∃ after value, tx s = .ok (after, value) ∧ (transact tx fate s).1 = after := by
  rcases transact_cases tx fate s _ _ rfl with ⟨same, _⟩ | ⟨value, done, _⟩ | ⟨value, done, _⟩
  · exact Or.inl same
  · exact Or.inr ⟨_, value, done, rfl⟩
  · exact Or.inr ⟨_, value, done, rfl⟩

theorem transact_keeps {keeps : σ → Prop} {tx : Transaction σ β} {s : σ}
    (fate : Fate) (start : keeps s)
    (commits : ∀ after value, tx s = .ok (after, value) → keeps after) :
    keeps (transact tx fate s).1 := by
  rcases transact_result tx fate s with same | ⟨after, value, done, same⟩
  · rw [same]
    exact start
  · rw [same]
    exact commits after value done

end HyruleCloud
