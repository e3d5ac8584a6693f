import HyruleCloud.Store

/-!
services/refunds.py and services/payments_ledger.py. `buildOwedEvent` constructs
the ledger row of an obligation for the caller's own transaction; `recordOwed`
writes it best-effort, so a failed write is swallowed by the ledger.
-/

namespace HyruleCloud

structure OwedArgs where
  resourcePath : String
  payer : Option Wallet
  amount : Option Usd
  originalTx : Option Tx
  reason : String
  network : Option String := none
  asset : Option String := none
  vmId : Option VmId := none
  orderId : Option OrderId := none

def buildOwedEvent (args : OwedArgs) : Option PaymentEventRow :=
  match args.payer, args.amount with
  | some payer, some amount =>
    if amount ≤ 0 then none else
      some {
        eventType := .refundOwed
        resourcePath := args.resourcePath
        amountUsd := some amount
        network := args.network
        asset := args.asset
        payerWallet := some payer
        txHash := args.originalTx
        errorReason := some args.reason
        vmId := args.vmId
        orderId := args.orderId }
  | _, _ => none

def addEvent (event : PaymentEventRow) (s : Store) : Store :=
  { s with events := s.events ++ [event] }

def recordOwed (args : OwedArgs) (s : Store) : Store :=
  match buildOwedEvent args with
  | some event => addEvent event s
  | none => s

theorem built_owed (args : OwedArgs) (payer : Wallet) (amount : Usd)
    (paid : args.payer = some payer) (charged : args.amount = some amount)
    (positive : 0 < amount) :
    ∃ event, buildOwedEvent args = some event ∧ event.eventType = .refundOwed ∧
      event.payerWallet = some payer ∧ event.amountUsd = some amount ∧
      event.txHash = args.originalTx ∧ event.vmId = args.vmId ∧
      event.orderId = args.orderId := by
  have charges : ¬ amount ≤ 0 := not_le.mpr positive
  exact ⟨_, by simp [buildOwedEvent, paid, charged, charges]; rfl, rfl, rfl, rfl, rfl, rfl, rfl⟩

/-- A customer's charge: one settled x402 authorization, or one native intent.
A settlement is known by its transaction, an intent by its identifier. -/
inductive Payment where
  | x402 (settlement : Nat)
  | native (intent : IntentId)

def PaymentEventRow.refunds (event : PaymentEventRow) : Payment → Bool
  | .x402 settlement =>
    event.eventType == .refundOwed && event.txHash == some (.chain settlement)
  | .native intent =>
    event.eventType == .refundOwed && event.payerWallet == some (.intent intent)

def owed (s : Store) (payment : Payment) : Nat :=
  s.events.countP fun event => event.refunds payment

def VMRow.paidBy (row : VMRow) : Payment → Bool
  | .x402 settlement => row.paymentTx == some (.chain settlement)
  | .native intent => row.ownerWallet == some (.intent intent)

@[simp] theorem owed_addEvent (event : PaymentEventRow) (s : Store) (payment : Payment) :
    owed (addEvent event s) payment =
      owed s payment + if event.refunds payment then 1 else 0 := by
  simp [owed, addEvent, List.countP_append, List.countP_cons]

/-- The authoritative settled row of a transaction, if its write survived. -/
def settledEvent (tx : Tx) (s : Store) : Option PaymentEventRow :=
  s.events.find? fun event => event.eventType == .settled && event.txHash == some tx

end HyruleCloud
