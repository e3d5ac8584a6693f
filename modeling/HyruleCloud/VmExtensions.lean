import HyruleCloud.LifecycleMoves
import Mathlib.Algebra.GroupWithZero.Nat

/-!
The paid extensions of one VM from the request to the answer, `extend_vm` in api/routes.py
and in orchestrator.py, beside everything that `GuestLifecycle` does to the VM. A request
holds the row from its look at the VM to its commit, the payment included, so that whoever
locks or writes the row waits. Calls of the provider and statements may fail, and a commit
may be applied although it raises. A request names its charge and its receipt: the payment
SDK settles an authorization once and refuses it when it is replayed.
-/

namespace HyruleCloud.VmExtensions

open Interaction Expiry Lifecycle

abbrev RequestId := Nat

structure ExtendConfig where
  expiry : ExpiryConfig
  /-- `current_daily_price_for_vm` -/
  dailyPrice : Usd
  hasLedger : Bool

/-- What `check_payment` has taken; a waiver is no charge. -/
inductive Payment where
  | settled (amount : Usd)
  | waived
  deriving DecidableEq

/-- An `extend_applied` event. -/
structure Receipt where
  request : RequestId
  days : Nat
  previousExpiry : Time
  newExpiry : Time
  deriving DecidableEq

/-- A `refund_owed` event for the charge of a request. -/
structure Refund where
  request : RequestId
  amount : Usd

/-- `applied` is the 503 after an extension whose VM cannot be shown, `unknown` and
`unconfirmed` are those that ask to contact support before paying again, `internal` is an
exception that nobody catches and `processing` the 502 of the payment gate. -/
inductive Answer where
  | extended | applied | rejected | unknown | unconfirmed | internal | processing
  deriving DecidableEq

def Answer.reconciles : Answer → Bool
  | .unknown | .unconfirmed => true
  | _ => false

/-- Where a request stands, with the row that its session holds. -/
inductive Stage where
  | idle
  | paying (vm : ExpiringVm) (days : Nat)
  | charged (vm : ExpiringVm) (days : Nat) (payment : Payment)
  | committing (row : ExpiringVm) (receipt : Receipt) (payment : Payment)
  | checking (receipt : Receipt) (payment : Payment)
  | rejected (days : Nat) (payment : Payment)
  | refunding (days : Nat) (payment : Payment)
  | applied (days : Nat) (payment : Payment)
  | ended (days : Nat) (payment : Payment) (answer : Answer)
  deriving DecidableEq

/-- `lock` is the request whose transaction holds the row of the VM. -/
structure ExtendDesk where
  lifecycle : LifecycleDesk
  lock : Option RequestId
  stages : RequestId → Stage
  receipts : List Receipt
  refunds : List Refund

namespace ExtendDesk

variable (config : ExtendConfig) (desk : ExtendDesk) (w : RequestId)

def goOn (stage : Stage) : ExtendDesk :=
  { desk with stages := Function.update desk.stages w stage }

def release : ExtendDesk :=
  { desk with lock := if desk.lock = some w then none else desk.lock }

def answer (days : Nat) (payment : Payment) (answer : Answer) : ExtendDesk :=
  (desk.release w).goOn w (.ended days payment answer)

/-- Nothing is taken unless the VM is its caller's, may be extended and its owner is enabled;
`reads` iff the statements work. -/
def request (days : Nat) (matching : Bool) (power : PowerState) (reads : Bool) : ExtendDesk :=
  match desk.lock, desk.lifecycle.vm with
  | none, some vm =>
    if !matching || !reads || !(decide (1 ≤ days) && decide (days ≤ 365)) then desk
    else match reconcileExtensionPower vm power desk.lifecycle.now with
      | none => desk
      | some vm =>
        if vmCanExtend vm && vmOwnerEnabled desk.lifecycle.accounts vm then
          { desk with lock := some w }.goOn w (.paying vm days)
        else desk
  | _, _ => desk

/-- `lost`: the charge is settled, but its answer does not get through. -/
inductive PaymentAnswer where
  | refused | lost | settled | waived
  deriving DecidableEq

def checkPayment (vm : ExpiringVm) (days : Nat) : PaymentAnswer → ExtendDesk
  | .refused => (desk.release w).goOn w .idle
  | .lost => desk.answer w days (.settled (config.dailyPrice * days)) .processing
  | .settled => desk.goOn w (.charged vm days (.settled (config.dailyPrice * days)))
  | .waived => desk.goOn w (.charged vm days .waived)

/-! `extend_vm` of the orchestrator. -/

/-- The second `vm_owner_enabled` asks the database. -/
def looksUpOwner (vm : ExpiringVm) (power : PowerState) : Bool :=
  match reconcileExtensionPower vm power desk.lifecycle.now with
  | none => false
  | some vm => vmCanExtend vm && vm.owner.1.isSome

/-- The row of the session is extended; nobody catches what the owner's statement raises. -/
def extend (vm : ExpiringVm) (days : Nat) (payment : Payment) (power : PowerState) (reads : Bool) :
    ExtendDesk :=
  if desk.looksUpOwner vm power && !(reads && desk.lock = some w) then
    desk.answer w days payment .internal
  else match extendVm vm days power (vmOwnerEnabled desk.lifecycle.accounts vm)
      desk.lifecycle.now with
    | none => desk.goOn w (.rejected days payment)
    | some (row, applied) =>
      desk.goOn w (.committing row
        ⟨w, days, vm.expiresAt.getD 0, applied.newExpiry⟩ payment)

def apply (row : ExpiringVm) (receipt : Receipt) : ExtendDesk :=
  { desk with
    lifecycle := { desk.lifecycle with vm := some row }
    receipts := receipt :: desk.receipts }

/-- The commit raised: the session is rolled back before the receipt is looked for. -/
def doubt (receipt : Receipt) (payment : Payment) (rollsBack : Bool) : ExtendDesk :=
  if rollsBack then (desk.release w).goOn w (.checking receipt payment)
  else desk.answer w receipt.days payment .unknown

def commit (row : ExpiringVm) (receipt : Receipt) (payment : Payment) (fate : Fate)
    (rollsBack : Bool) : ExtendDesk :=
  match if desk.lock = some w then fate else .failed with
  | .failed => desk.doubt w receipt payment rollsBack
  | .lost => (desk.apply row receipt).doubt w receipt payment rollsBack
  | .done => ((desk.apply row receipt).release w).goOn w (.applied receipt.days payment)

def check (receipt : Receipt) (payment : Payment) (works : Bool) : ExtendDesk :=
  if !works then desk.answer w receipt.days payment .unknown
  else match desk.lock, desk.lifecycle.vm with
    | some _, _ => desk
    | none, none => desk.answer w receipt.days payment .unknown
    | none, some _ =>
      if desk.receipts.any fun written => written.request = receipt.request then
        desk.goOn w (.applied receipt.days payment)
      else desk.goOn w (.refunding receipt.days payment)

def finish (days : Nat) (payment : Payment) (works : Bool) : ExtendDesk :=
  desk.answer w days payment (if works then .extended else .applied)

def rollBack (days : Nat) (payment : Payment) (works : Bool) : ExtendDesk :=
  if works then (desk.release w).goOn w (.refunding days payment)
  else desk.answer w days payment .internal

/-- `build_owed_event` -/
def owedEvent (amount : Usd) : Option Refund :=
  if amount ≤ 0 ∨ config.hasLedger = false then none else some ⟨w, amount⟩

/-- `record_extension_failure_refund`: a commit that raises may have been applied. -/
def refund (days : Nat) (payment : Payment) (fate : Fate) : ExtendDesk :=
  match payment with
  | .waived => desk.answer w days payment .rejected
  | .settled amount => match owedEvent config w amount with
      | none => desk.answer w days payment .unconfirmed
      | some event => match fate with
          | .failed => desk.answer w days payment .unconfirmed
          | .lost => { desk with refunds := event :: desk.refunds }.answer w days payment
              .unconfirmed
          | .done => { desk with refunds := event :: desk.refunds }.answer w days payment .rejected

end ExtendDesk

open ExtendDesk

inductive ExtendStep where
  | lifecycle (step : LifecycleStep)
  | request (w : RequestId) (days : Nat) (matching : Bool) (power : PowerState) (reads : Bool)
  | pay (w : RequestId) (answer : PaymentAnswer)
  | extend (w : RequestId) (power : PowerState) (reads : Bool)
  | commit (w : RequestId) (fate : Fate) (rollsBack : Bool)
  | check (w : RequestId) (works : Bool)
  | finish (w : RequestId) (works : Bool)
  | rollBack (w : RequestId) (works : Bool)
  | refund (w : RequestId) (fate : Fate)
  | disconnect (w : RequestId)

def waits (step : LifecycleStep) (desk : LifecycleDesk) : Bool :=
  match step with
  | .expiry (.tick _) | .expiry (.scan _) | .expiry (.stop _) => false
  | .erase _ | .register _ | .elsewhere _ => false
  | .account account _ => desk.vm.any fun vm => vm.owner.1 = some account
  | _ => true

def isExtension : LifecycleStep → Bool
  | .expiry (.extend _ _) => true
  | _ => false

def extendStep (config : ExtendConfig) (step : ExtendStep) (desk : ExtendDesk) : ExtendDesk :=
  match step with
  | .lifecycle step =>
    if isExtension step || (desk.lock.isSome && waits step desk.lifecycle) then desk
    else { desk with lifecycle := lifecycleStep config.expiry step desk.lifecycle }
  | .request w days matching power reads => match desk.stages w with
      | .idle => desk.request w days matching power reads
      | _ => desk
  | .pay w answer => match desk.stages w with
      | .paying vm days => desk.checkPayment config w vm days answer
      | _ => desk
  | .extend w power reads => match desk.stages w with
      | .charged vm days payment => desk.extend w vm days payment power reads
      | _ => desk
  | .commit w fate rollsBack => match desk.stages w with
      | .committing row receipt payment => desk.commit w row receipt payment fate rollsBack
      | _ => desk
  | .check w works => match desk.stages w with
      | .checking receipt payment => desk.check w receipt payment works
      | _ => desk
  | .finish w works => match desk.stages w with
      | .applied days payment => desk.finish w days payment works
      | _ => desk
  | .rollBack w works => match desk.stages w with
      | .rejected days payment => desk.rollBack w days payment works
      | _ => desk
  | .refund w fate => match desk.stages w with
      | .refunding days payment => desk.refund config w days payment fate
      | _ => desk
  -- the database gives up the transaction of the request
  | .disconnect w => desk.release w

def receiptsOf (w : RequestId) (desk : ExtendDesk) : List Receipt :=
  desk.receipts.filter fun receipt => receipt.request = w

def refundsOf (w : RequestId) (desk : ExtendDesk) : List Refund :=
  desk.refunds.filter fun refund => refund.request = w

def IsApplied (w : RequestId) (days : Nat) (receipts : List Receipt) : Prop :=
  ∃ previousExpiry newExpiry, receipts = [⟨w, days, previousExpiry, newExpiry⟩] ∧
    previousExpiry + days * 86400 ≤ newExpiry

/-- The ways in which a settled charge may end, and what the answer says of them, over the
receipts and the refunds of its request. -/
structure ChargeEnds (w : RequestId) (days : Nat) (amount : Usd) (answer : Answer)
    (receipts : List Receipt) (refunds : List Refund) : Prop where
  once : (IsApplied w days receipts ∧ refunds = []) ∨
    (receipts = [] ∧ refunds = [⟨w, amount⟩]) ∨
    (receipts = [] ∧ refunds = [] ∧ answer.reconciles = true)
  extended : answer = .extended ∨ answer = .applied → IsApplied w days receipts
  refunded : answer = .rejected → refunds = [⟨w, amount⟩]

def paidDays (receipts : List Receipt) : Nat := (receipts.map Receipt.days).sum

/-- `base` is the expiry before the first request. -/
structure ChargesKept (base : Time) (desk : ExtendDesk) : Prop where
  ended : ∀ w days amount answer, desk.stages w = .ended days (.settled amount) answer →
    ChargeEnds w days amount answer (receiptsOf w desk) (refundsOf w desk)
  never_both : ∀ w, receiptsOf w desk = [] ∨ refundsOf w desk = []
  expiry : ∃ vm expiresAt, desk.lifecycle.vm = some vm ∧ vm.expiresAt = some expiresAt ∧
    base + paidDays desk.receipts * 86400 ≤ expiresAt

/-- Once a charge is settled, its answer gets through, the statement for the owner works, and
so does the rollback after a rejection. -/
def mayExtend (step : ExtendStep) (desk : ExtendDesk) : Prop :=
  match step with
  | .pay w answer => ∀ vm days, desk.stages w = .paying vm days → answer ≠ .lost
  | .extend w power reads => ∀ vm days amount, desk.stages w = .charged vm days (.settled amount) →
      desk.looksUpOwner vm power = true → reads = true ∧ desk.lock = some w
  | .rollBack w works => ∀ days amount, desk.stages w = .rejected days (.settled amount) →
      works = true
  | _ => True

def vmExtensions (config : ExtendConfig) : Protocol ExtendDesk ExtendStep :=
  ⟨extendStep config, mayExtend⟩

/-- A VM with an expiry that was never restored, before its first extension. -/
structure ExtendStart (base : Time) (desk : ExtendDesk) : Prop where
  vm : ∃ vm, desk.lifecycle.vm = some vm ∧ vm.expiresAt = some base
  restores : desk.lifecycle.restores = []
  lock : desk.lock = none
  stages : ∀ w, desk.stages w = .idle
  receipts : desk.receipts = []
  refunds : desk.refunds = []

end HyruleCloud.VmExtensions
