import Mathlib.Data.Rat.Floor
import HyruleCloud.DomainPayment

/-!
services/intents.py: the decision table for a scanned deposit and the sessions
of the native intent engine, with `record_native_intent_refund` of the
orchestrator. A session that locks or conditionally updates the intent row is
one function.
-/

namespace HyruleCloud

structure ScanResult where
  receivedTotal : Rat
  confirmations : Nat
  txHash : Option Nat := none
  deriving DecidableEq

/-- `.quantize(Decimal("0.000000000001"))`, rounding half to even. -/
def quantize12 (x : Rat) : Rat :=
  let scaled := x * 1000000000000
  let low := ⌊scaled⌋
  let rest := scaled - low
  let rounded := if rest < 1 / 2 then low
    else if 1 / 2 < rest then low + 1
    else if low % 2 = 0 then low else low + 1
  rounded / 1000000000000

def withinTolerance (actual target tolerance : Rat) : Bool :=
  if target = 0 then actual == 0 else decide (|actual - target| / target ≤ tolerance)

def latePaidSlippage : Rat := 1 / 100
def exactAmountTolerance : Rat := 1 / 1000
def vmProvisioningRecoveryDelay : Time := 300

def minConfirmations : Asset → Nat
  | .btc => 1
  | .xmr => 10

/-- The acceptance rule for a confirmed deposit: against the fresh quote when
the rate window is over and a new rate is known, else at least 99.9% of the
locked amount. -/
def acceptable (row : CryptoIntentRow) (received : Rat) (currentRate : Option Rat) : Bool :=
  match currentRate, row.amountUsd with
  | some rate, some amountUsd =>
    withinTolerance received (quantize12 (amountUsd / rate)) latePaidSlippage
  | _, _ => decide (row.amountCrypto * (1 - exactAmountTolerance) ≤ received)

/-- `_decide_status` -/
def decideStatus (row : CryptoIntentRow) (scan : ScanResult) (minConfs : Nat)
    (currentRate : Option Rat) : IntentStatus :=
  if scan.receivedTotal = 0 then .waitingPayment
  else if scan.confirmations < minConfs then .waitingPayment
  else if acceptable row scan.receivedTotal currentRate then .settled
  else .refundManual

/-- The statuses that `poll_one_intent` never re-processes. -/
def IntentStatus.isTerminal : IntentStatus → Bool
  | .provisioned | .provisioning | .refundManual | .failed | .expired => true
  | _ => false

/-- `_maybe_requote`: a rate is only fetched once the snapshot has run out. -/
def maybeRequote (row : CryptoIntentRow) (now : Time) (fetched : Option Rat) : Option Rat :=
  match row.rateValidUntil with
  | none => none
  | some limit => if now ≤ limit then none else fetched

def scannedRow (row : CryptoIntentRow) (scan : ScanResult) : CryptoIntentRow :=
  { row with
    confirmations := scan.confirmations
    amountReceivedCrypto := some scan.receivedTotal
    txHash := row.txHash <|> scan.txHash }

/-- The new row of a live intent, in the session of `_apply_intent_scan`. -/
def appliedScan (row : CryptoIntentRow) (scan : ScanResult) (now : Time)
    (fetched : Option Rat) : CryptoIntentRow :=
  let scanned := scannedRow row scan
  let windowClosed := match row.expiresAt with
    | none => false
    | some limit => decide (limit < now)
  if windowClosed && scan.receivedTotal == 0 then { scanned with status := .expired }
  else
    let status := decideStatus scanned scan (minConfirmations row.asset)
      (maybeRequote row now fetched)
    { scanned with
      status := status
      paidAt := if status = .settled then row.paidAt <|> some now else row.paidAt }

/-- The locked session of `_apply_intent_scan`; the reply is the row it leaves. -/
def applyIntentScan (intent : IntentId) (scan : ScanResult) (now : Time)
    (fetched : Option Rat) : Transaction Store (Option CryptoIntentRow) := fun s =>
  match s.intents intent with
  | none => .ok (s, none)
  | some row =>
    if row.status.isTerminal then .ok (s, some row)
    else
      let next := appliedScan row scan now fetched
      .ok ({ s with intents := s.intents.put intent next }, some next)

/-- The conditional update that opens `_trigger_provisioning`, and the row it
then reads. `none`: another worker already triggered, or there is no payload. -/
def triggerHandoff (intent : IntentId) (now : Time) :
    Transaction Store (Option CryptoIntentRow) := fun s =>
  match s.intents intent with
  | none => .ok (s, none)
  | some row =>
    if row.provisioningTriggeredAt.isSome then .ok (s, none)
    else
      let next := { row with provisioningTriggeredAt := some now, status := .provisioning }
      .ok ({ s with intents := s.intents.put intent next },
        if row.orderPayload.isSome then some next else none)

/-- `_persist_planned_vm_id` -/
def persistPlannedVmId (intent : IntentId) (candidate : VmId) : Transaction Store VmId := fun s =>
  match s.intents intent with
  | none => .error (.runtime "native intent disappeared before VM id persistence")
  | some row => match row.vmId with
      | some planned => .ok (s, planned)
      | none => .ok ({ s with
          intents := s.intents.put intent { row with vmId := some candidate } }, candidate)

def holdsHandoff (row : CryptoIntentRow) (token : Time) : Bool :=
  row.status == .provisioning && row.provisioningTriggeredAt == some token

/-- `_require_current_vm_handoff` -/
def requireCurrentVmHandoff (intent : IntentId) (token : Time) : Transaction Store Unit := fun s =>
  match s.intents intent with
  | none => .error .handoffFenced
  | some row => if holdsHandoff row token then .ok (s, ()) else .error .handoffFenced

def markProvisioned (intent : IntentId) (token : Time) (vm : VmId) : Transaction Store Unit :=
  fun s => match s.intents intent with
  | none => .error .handoffFenced
  | some row =>
    if holdsHandoff row token then
      .ok ({ s with
        intents := s.intents.put intent { row with vmId := some vm, status := .provisioned } }, ())
    else .error .handoffFenced

/-- `UPDATE crypto_intents SET status = ...`, unconditional. -/
def setIntentStatus (intent : IntentId) (status : IntentStatus) : Transaction Store Unit :=
  fun s => match s.intents intent with
  | none => .ok (s, ())
  | some row => .ok ({ s with intents := s.intents.put intent { row with status := status } }, ())

/-- The closing update of `_resume_domain_handoff`: only a row still in flight. -/
def finishResumedHandoff (intent : IntentId) (status : IntentStatus) : Transaction Store Unit :=
  fun s => match s.intents intent with
  | none => .ok (s, ())
  | some row =>
    if row.status = .provisioning then
      .ok ({ s with intents := s.intents.put intent { row with status := status } }, ())
    else .ok (s, ())

/-- The recovery lease of `_recover_interrupted_vm_provisioning`. -/
def takeRecoveryLease (intent : IntentId) (now : Time) :
    Transaction Store (Option CryptoIntentRow) := fun s =>
  match s.intents intent with
  | none => .ok (s, none)
  | some row =>
    if row.status = .provisioning ∧ row.resourceType = .vm ∧
        row.provisioningTriggeredAt.any (· + vmProvisioningRecoveryDelay ≤ now) then
      let next := { row with provisioningTriggeredAt := some now }
      .ok ({ s with intents := s.intents.put intent next }, some next)
    else .ok (s, none)

def intentOwed (s : Store) (intent : IntentId) : Bool :=
  s.events.any fun event => event.refunds (.native intent)

theorem intentOwed_iff (s : Store) (intent : IntentId) :
    intentOwed s intent = true ↔ 0 < owed s (.native intent) := by
  simp [intentOwed, owed, List.countP_pos_iff]

/-- The domain order of a failed handoff follows its intent into `refund_due`. -/
def failHandedOrder (intent : IntentId) (row : CryptoIntentRow) (reason : String) (now : Time)
    (s : Store) : Store :=
  match row.resourceType, row.resourceId with
  | .domainOrder, some id => match s.orders id with
      | some order =>
        if order.status = .awaitingPayment then
          { s with orders := s.orders.put id { order with
              status := .refundDue
              paidAt := row.paidAt <|> some now
              payer := some (.intent intent)
              paymentTx := row.txHash.map .native
              paymentNetwork := some "native"
              paymentAsset := some (match row.asset with | .btc => "BTC" | .xmr => "XMR")
              errorCode := some reason } }
        else s
      | none => s
  | _, _ => s

theorem failHandedOrder_columns (intent : IntentId) (row : CryptoIntentRow) (reason : String)
    (now : Time) (s : Store) :
    (failHandedOrder intent row reason now s).vms = s.vms ∧
      (failHandedOrder intent row reason now s).events = s.events ∧
      (failHandedOrder intent row reason now s).intents = s.intents := by
  simp only [failHandedOrder]
  split
  · split
    · split <;> exact ⟨rfl, rfl, rfl⟩
    · exact ⟨rfl, rfl, rfl⟩
  · exact ⟨rfl, rfl, rfl⟩

def nativeOwedEvent (intent : IntentId) (row : CryptoIntentRow) (reason : String)
    (vm : Option VmId) : Option PaymentEventRow :=
  buildOwedEvent {
    resourcePath := match row.resourceType with
      | .domainOrder => "/v1/domains/orders"
      | .vm => "/v1/vm/create"
    payer := some (.intent intent)
    amount := row.amountUsd
    originalTx := row.txHash.map .native
    reason := reason
    network := some "native"
    asset := some (match row.asset with | .btc => "BTC" | .xmr => "XMR")
    vmId := vm
    orderId := row.resourceId }

def Priced (row : CryptoIntentRow) : Prop := ∃ amount, row.amountUsd = some amount ∧ 0 < amount

section
variable (intent : IntentId) (row : CryptoIntentRow) (reason : String) (vm : Option VmId)

theorem nativeOwedEvent_owed {amount : Usd} (price : row.amountUsd = some amount) (positive : 0 < amount) :
    ∃ event, nativeOwedEvent intent row reason vm = some event ∧ event.eventType = .refundOwed ∧
      event.payerWallet = some (.intent intent) ∧ event.amountUsd = some amount ∧
      event.txHash = row.txHash.map .native ∧ event.vmId = vm ∧ event.orderId = row.resourceId :=
  built_owed _ _ _ rfl price positive

theorem priced_owed (priced : Priced row) :
    ∃ event, nativeOwedEvent intent row reason vm = some event ∧
      event.refunds (.native intent) = true := by
  obtain ⟨amount, price, positive⟩ := priced
  obtain ⟨event, built, owed, payer, _⟩ := nativeOwedEvent_owed intent row reason vm price positive
  exact ⟨event, built, by simp [PaymentEventRow.refunds, owed, payer]⟩

end

/-- `record_native_intent_refund`: the terminal status and the obligation are
one commit. `false`: there is no such intent, or it is already fully recorded. -/
def recordNativeIntentRefund (intent : IntentId) (reason : String) (vm : Option VmId)
    (now : Time) : Transaction Store Bool := fun s =>
  match s.intents intent with
  | none => .ok (s, false)
  | some row =>
    let handed := failHandedOrder intent row reason now s
    if row.status = .refundManual ∧ intentOwed s intent then .ok (handed, false)
    else
      let flipped := { handed with
        intents := s.intents.put intent { row with status := .refundManual } }
      if intentOwed s intent then .ok (flipped, true)
      else match nativeOwedEvent intent row reason vm with
        | some event => .ok (addEvent event flipped, true)
        | none => .ok (flipped, true)

end HyruleCloud
