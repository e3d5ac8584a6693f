import HyruleCloud.Interleaving
import HyruleCloud.IntentEngine

/-!
What the VM checkout handlers ask of the world: the sessions on the database,
the claim registry of each process, the facilitator behind `check_payment`, and
the account guard. One request is one indivisible step. The oracle decides the
fate of a commit, the answers of the facilitator and the time.
-/

namespace HyruleCloud

open Interaction Function

/-- The database, `_claimed_quote_ids` of every process, the handlers whose
authorization the facilitator has charged, and for each native intent the
worker that won its handoff. The last two only record what happened. -/
structure World extends Store where
  claimed : ProcessId → QuoteId → Bool
  charged : Nat → Bool
  handedBy : IntentId → Option Nat

inductive Credential where
  | x402 | adminWaiver | devBypass | absent
  deriving DecidableEq

inductive PaymentResult where
  | paid (wallet : Wallet) (paymentTx : Option Tx) (adminWaived : Bool)
  | response

/-- Why admission or an insert refuses a VM before anything is written. -/
inductive Refusal where
  | capacity | prefixes | provider | invalid
  | problem (status : Nat) (code : String)

def Refusal.err : Refusal → Err
  | .capacity => .runtime "vm_capacity"
  | .prefixes => .runtime "Could not allocate a unique customer IPv6 prefix"
  | .provider => .provider "xcpng"
  | .invalid => .value "Unknown OS template"
  | .problem status code => .domainProblem status code

inductive CheckoutReq : Type → Type where
  | clock : CheckoutReq Time
  | getQuote (quote : QuoteId) : CheckoutReq (Option VMQuoteRow)
  | getVm (vm : VmId) : CheckoutReq (Option VMRow)
  | getOrder (order : OrderId) : CheckoutReq (Option DomainOrderRow)
  | settledEvent (tx : Tx) : CheckoutReq (Option PaymentEventRow)
  | admission : CheckoutReq Unit
  | enterAccountGuard (account : Option AccountId) : CheckoutReq Unit
  | leaveAccountGuard (account : Option AccountId) (caller : Drawer) : CheckoutReq Unit
  | checkPayment (handler : Nat) (credential : Credential) (amount : Usd) :
      CheckoutReq PaymentResult
  | bindPayerAccount (wallet : Wallet) (account : Option AccountId) :
      CheckoutReq (Option AccountId)
  | reserveVm (vm : VmId) (args : InsertArgs) : CheckoutReq Unit
  | insertVm (vm : VmId) (args : InsertArgs) (guarded : Bool) : CheckoutReq Unit
  | activateVmReservation (vm : VmId) (args : ActivateArgs) (guarded : Bool) : CheckoutReq Bool
  | releaseVmReservation (vm : VmId) : CheckoutReq Unit
  | claimVmAttachment (owner : AccountId) (fqdn : Fqdn) (vm : VmId) : CheckoutReq Unit
  | releaseVmAttachmentClaim (vm : VmId) : CheckoutReq Unit
  | markVmFailed (vm : VmId) : CheckoutReq Unit
  | startProvisioning (vm : VmId) : CheckoutReq Unit
  | persistChargedAmount (vm : VmId) (amount : Usd) : CheckoutReq Unit
  | claimQuote (process : ProcessId) (quote : QuoteId) (caller : Drawer) : CheckoutReq Bool
  | releaseQuoteClaim (process : ProcessId) (quote : QuoteId) : CheckoutReq Bool
  | linkQuoteVm (quote : QuoteId) (vm : VmId) : CheckoutReq Unit
  | recordOwed (args : OwedArgs) : CheckoutReq Unit
  | triggerHandoff (worker : Nat) (intent : IntentId) : CheckoutReq (Option CryptoIntentRow)
  | persistPlannedVmId (intent : IntentId) (candidate : VmId) : CheckoutReq VmId
  | requireCurrentVmHandoff (intent : IntentId) (token : Time) : CheckoutReq Unit
  | markProvisioned (intent : IntentId) (token : Time) (vm : VmId) : CheckoutReq Unit
  | setIntentStatus (intent : IntentId) (status : IntentStatus) : CheckoutReq Unit
  | recordNativeIntentRefund (intent : IntentId) (reason : String) (vm : Option VmId) :
      CheckoutReq Bool
  | nativeOrderSettled (order : OrderId) (args : MarkArgs) : CheckoutReq DomainOrderRow
  | getIntent (intent : IntentId) : CheckoutReq (Option CryptoIntentRow)
  | scanAddress (intent : IntentId) : CheckoutReq ScanResult
  | applyIntentScan (intent : IntentId) (scan : ScanResult) :
      CheckoutReq (Option CryptoIntentRow)
  | takeRecoveryLease (intent : IntentId) : CheckoutReq (Option CryptoIntentRow)
  | finishResumedHandoff (intent : IntentId) (status : IntentStatus) : CheckoutReq Unit

inductive CheckoutChoice where
  | commit (fate : Fate)
  | refuse (refusal : Refusal)
  | revoked
  | time (now : Time)
  | account (owner : Option AccountId)
  | settle (payer : Option Nat) (ledgerWritten : Bool)
  | waive (waiver : Nat)
  | bypass
  | unpaid
  | apex (inUse : Bool) (fate : Fate)
  | clocked (now : Time) (fate : Fate)
  | mark (now : Time) (operation : OperationId) (fate : Fate)
  | scanned (scan : ScanResult)
  | requoted (now : Time) (rate : Option Rat) (fate : Fate)

def onStore {β : Type} (tx : Transaction Store β) : Transaction World β := fun w =>
  match tx w.toStore with
  | .ok (s, value) => .ok ({ w with toStore := s }, value)
  | .error error => .error error

def readOnly {β : Type} (read : World → β) : Transaction World β := fun w => .ok (w, read w)

def committed {β : Type} (tx : Transaction World β) (choice : CheckoutChoice) (w : World) :
    Option (World × Except Err β) :=
  match choice with
  | .commit fate => some (transact tx fate w)
  | _ => none

def clocked {β : Type} (tx : Time → Transaction World β) (choice : CheckoutChoice) (w : World) :
    Option (World × Except Err β) :=
  match choice with
  | .clocked now fate => some (transact (tx now) fate w)
  | _ => none

/-- A session that may also be refused for a reason outside the model. -/
def refusable {β : Type} (tx : Transaction World β) (choice : CheckoutChoice) (w : World) :
    Option (World × Except Err β) :=
  match choice with
  | .refuse refusal => some (w, .error refusal.err)
  | _ => committed tx choice w

/-- A session under the dispatch guard of an admin waiver, which may be revoked. -/
def waivable {β : Type} (guarded : Bool) (tx : Transaction World β) (choice : CheckoutChoice)
    (w : World) : Option (World × Except Err β) :=
  match choice with
  | .revoked => if guarded then some (w, .error (.http 403)) else none
  | _ => refusable tx choice w

def enterGuard (account : Option AccountId) : Transaction World Unit := fun w =>
  if ownerDisabled w.toStore account then .error (.http 403) else .ok (w, ())

def leaveGuard (account : Option AccountId) (choice : CheckoutChoice) (w : World) :
    Option (World × Except Err Unit) :=
  match account with
  | none => some (w, .ok ())
  | some _ => committed (readOnly fun _ => ()) choice w

/-- The wallet that `check_payment` returns for the payer of a settlement. -/
def payerWallet : Option Nat → Wallet
  | some address => .evm address
  | none => .unknown

def settlementEvent (handler : Nat) (payer : Option Nat) (amount : Usd) : PaymentEventRow :=
  { eventType := .settled
    resourcePath := "/v1/vm/create"
    amountUsd := some amount
    payerWallet := payer.map .evm
    txHash := some (.chain handler) }

def chargeHandler (handler : Nat) (payer : Option Nat) (amount : Usd) (written : Bool)
    (w : World) : World :=
  { w with
    toStore := if written then addEvent (settlementEvent handler payer amount) w.toStore
      else w.toStore
    charged := update w.charged handler true }

/-- `check_payment`; an authorization is for a positive amount. -/
def checkPayment (handler : Nat) (credential : Credential) (amount : Usd)
    (choice : CheckoutChoice) (w : World) : Option (World × Except Err PaymentResult) :=
  match credential, choice with
  | .x402, .settle payer written =>
    if amount ≤ 0 then none
    else some (chargeHandler handler payer amount written w,
      .ok (.paid (payerWallet payer) (some (.chain handler)) false))
  | .adminWaiver, .waive waiver =>
    some (w, .ok (.paid (.admin waiver) (some (.adminBypass waiver)) true))
  | .adminWaiver, .commit .failed => some (w, .error .database)
  | .devBypass, .bypass => some (w, .ok (.paid .devTest (some .devBypass) false))
  | _, .unpaid => some (w, .ok .response)
  | _, _ => none

def claimQuoteIn (process : ProcessId) (quote : QuoteId) (choice : CheckoutChoice) (w : World) :
    Option (World × Except Err Bool) :=
  if w.claimed process quote then some (w, .ok false)
  else match committed (onStore (claimQuote quote)) choice w with
    | some (w', .ok true) => some ({ w' with
        claimed := update w'.claimed process
          (update (w'.claimed process) quote true) }, .ok true)
    | other => other

def releaseQuoteClaimIn (process : ProcessId) (quote : QuoteId) (choice : CheckoutChoice)
    (w : World) : Option (World × Except Err Bool) :=
  match committed (onStore (releaseQuoteClaim quote)) choice w with
  | some (w', .ok true) => some ({ w' with
      claimed := update w'.claimed process
        (update (w'.claimed process) quote false) }, .ok true)
  | other => other

/-- `record_owed` returns whatever became of its ledger write. -/
def recordOwedIn (args : OwedArgs) (choice : CheckoutChoice) (w : World) :
    Option (World × Except Err Unit) :=
  match choice with
  | .commit .failed => some (w, .ok ())
  | .commit _ => some ({ w with toStore := recordOwed args w.toStore }, .ok ())
  | _ => none

/-- The winner of the handoff update is also recorded in `handedBy`. -/
def triggerHandoffIn (worker : Nat) (intent : IntentId) (now : Time) :
    Transaction World (Option CryptoIntentRow) := fun w =>
  match onStore (triggerHandoff intent now) w with
  | .ok (w', row) =>
    if (w.intents intent).any fun row => row.provisioningTriggeredAt.isNone then
      .ok ({ w' with handedBy := update w'.handedBy intent (some worker) }, row)
    else .ok (w', row)
  | .error error => .error error

def CheckoutReq.exec {β : Type} (request : CheckoutReq β) (choice : CheckoutChoice) (w : World) :
    Option (World × Except Err β) :=
  match request with
  | .clock => match choice with
      | .time now => some (w, .ok now)
      | _ => none
  | .getQuote quote => committed (readOnly fun w => w.vmQuotes quote) choice w
  | .getVm vm => committed (readOnly fun w => w.vms vm) choice w
  | .getOrder order => committed (readOnly fun w => w.orders order) choice w
  | .settledEvent tx => committed (readOnly fun w => HyruleCloud.settledEvent tx w.toStore) choice w
  | .admission => refusable (readOnly fun _ => ()) choice w
  | .enterAccountGuard account => committed (enterGuard account) choice w
  | .leaveAccountGuard account _ => leaveGuard account choice w
  | .checkPayment handler credential amount =>
    HyruleCloud.checkPayment handler credential amount choice w
  | .bindPayerAccount _ account => match choice with
      | .account owner => some (w, .ok (owner <|> account))
      | _ => none
  | .reserveVm vm args => refusable (onStore (reservePlannedVm vm args)) choice w
  | .insertVm vm args guarded => waivable guarded (onStore (insertVmRow vm args)) choice w
  | .activateVmReservation vm args guarded =>
    waivable guarded (onStore (HyruleCloud.activateVmReservation vm args)) choice w
  | .releaseVmReservation vm => committed (onStore (HyruleCloud.releaseVmReservation vm)) choice w
  | .claimVmAttachment owner fqdn vm => match choice with
      | .apex inUse fate =>
        some (transact (onStore (HyruleCloud.claimVmAttachment (some owner) fqdn vm inUse)) fate w)
      | _ => none
  | .releaseVmAttachmentClaim vm =>
    committed (onStore (HyruleCloud.releaseVmAttachmentClaim vm)) choice w
  | .markVmFailed vm => committed (onStore (HyruleCloud.markVmFailed vm)) choice w
  | .startProvisioning vm => committed (onStore (HyruleCloud.startProvisioning vm)) choice w
  | .persistChargedAmount vm amount =>
    committed (onStore (HyruleCloud.persistChargedAmount vm amount)) choice w
  | .claimQuote process quote _ => claimQuoteIn process quote choice w
  | .releaseQuoteClaim process quote => releaseQuoteClaimIn process quote choice w
  | .linkQuoteVm quote vm => committed (onStore (HyruleCloud.linkQuoteVm quote vm)) choice w
  | .recordOwed args => recordOwedIn args choice w
  | .triggerHandoff worker intent => clocked (triggerHandoffIn worker intent) choice w
  | .persistPlannedVmId intent candidate =>
    committed (onStore (HyruleCloud.persistPlannedVmId intent candidate)) choice w
  | .requireCurrentVmHandoff intent token =>
    committed (onStore (HyruleCloud.requireCurrentVmHandoff intent token)) choice w
  | .markProvisioned intent token vm =>
    committed (onStore (HyruleCloud.markProvisioned intent token vm)) choice w
  | .setIntentStatus intent status =>
    committed (onStore (HyruleCloud.setIntentStatus intent status)) choice w
  | .recordNativeIntentRefund intent reason vm =>
    clocked (fun now => onStore (HyruleCloud.recordNativeIntentRefund intent reason vm now))
      choice w
  | .nativeOrderSettled order args => match choice with
      | .mark now operation fate =>
        some (transact (onStore (markPaid order args now operation false)) fate w)
      | _ => none
  | .getIntent intent => committed (readOnly fun w => w.intents intent) choice w
  | .scanAddress _ => match choice with
      | .scanned scan => some (w, .ok scan)
      | .refuse refusal => some (w, .error refusal.err)
      | _ => none
  | .applyIntentScan intent scan => match choice with
      | .requoted now rate fate =>
        some (transact (onStore (HyruleCloud.applyIntentScan intent scan now rate)) fate w)
      | _ => none
  | .takeRecoveryLease intent =>
    clocked (fun now => onStore (HyruleCloud.takeRecoveryLease intent now)) choice w
  | .finishResumedHandoff intent status =>
    committed (onStore (HyruleCloud.finishResumedHandoff intent status)) choice w

section Outcomes
variable {β : Type} (tx : Transaction World β) (choice : CheckoutChoice) (w w' : World)
  (reply : Except Err β)

theorem committed_ends (ran : committed tx choice w = some (w', reply)) :
    SessionEnds w w' reply tx := by
  cases choice with
  | commit fate =>
    simp only [committed, Option.some.injEq] at ran
    exact transact_ends tx w w' reply fate ran
  | _ => simp [committed] at ran

theorem clocked_ends (timed : Time → Transaction World β)
    (ran : clocked timed choice w = some (w', reply)) :
    ∃ now, SessionEnds w w' reply (timed now) := by
  cases choice with
  | clocked now fate =>
    simp only [clocked, Option.some.injEq] at ran
    exact ⟨now, transact_ends (timed now) w w' reply fate ran⟩
  | _ => simp [clocked] at ran

theorem refusable_ends (ran : refusable tx choice w = some (w', reply)) :
    (w' = w ∧ ∃ refusal : Refusal, reply = .error refusal.err) ∨ SessionEnds w w' reply tx := by
  cases choice with
  | refuse refusal =>
    simp only [refusable, Option.some.injEq, Prod.mk.injEq] at ran
    exact Or.inl ⟨ran.1.symm, refusal, ran.2.symm⟩
  | _ =>
    simp only [refusable] at ran
    exact Or.inr (committed_ends tx _ w w' reply ran)

theorem waivable_ends (guarded : Bool) (ran : waivable guarded tx choice w = some (w', reply)) :
    (guarded = true ∧ w' = w ∧ reply = .error (.http 403)) ∨
    (w' = w ∧ ∃ refusal : Refusal, reply = .error refusal.err) ∨ SessionEnds w w' reply tx := by
  cases choice with
  | revoked =>
    cases guarded with
    | false => simp [waivable] at ran
    | true =>
      simp only [waivable, ↓reduceIte, Option.some.injEq, Prod.mk.injEq] at ran
      exact Or.inl ⟨rfl, ran.1.symm, ran.2.symm⟩
  | _ =>
    simp only [waivable] at ran
    exact Or.inr (refusable_ends tx _ w w' reply ran)

theorem committed_applied (ran : committed tx choice w = some (w', reply))
    (applied : choice ≠ .commit .failed) :
    (∃ value, tx w = .ok (w', value)) ∨ (w' = w ∧ ∃ error, tx w = .error error) := by
  cases choice with
  | commit fate =>
    simp only [committed, Option.some.injEq] at ran
    rcases transact_cases tx fate w w' reply ran with
      ⟨rfl, error, rfl, cause⟩ | ⟨value, done, _⟩ | ⟨value, done, _⟩
    · rcases cause with failed | aborted
      · exact absurd (by rw [failed]) applied
      · exact Or.inr ⟨rfl, error, aborted⟩
    · exact Or.inl ⟨value, done⟩
    · exact Or.inl ⟨value, done⟩
  | _ => simp [committed] at ran

theorem clocked_acked (timed : Time → Transaction World β) (now : Time)
    (ran : clocked timed (.clocked now .done) w = some (w', reply)) :
    (∃ value, timed now w = .ok (w', value) ∧ reply = .ok value) ∨
      ∃ error, timed now w = .error error := by
  simp only [clocked, Option.some.injEq] at ran
  rcases transact_cases (timed now) .done w w' reply ran with
    ⟨_, error, _, cause⟩ | ⟨value, done, _, same⟩ | ⟨value, _, lost, _⟩
  · rcases cause with failed | aborted
    · cases failed
    · exact Or.inr ⟨error, aborted⟩
  · exact Or.inl ⟨value, done, same⟩
  · cases lost

theorem clocked_failed (timed : Time → Transaction World β) (error : Err)
    (ran : clocked timed choice w = some (w', .error error))
    (acked : ∀ now, choice ≠ .clocked now .lost) : w' = w := by
  cases choice with
  | clocked now fate =>
    simp only [clocked, Option.some.injEq] at ran
    rcases transact_cases (timed now) fate w w' _ ran with
      ⟨same, _⟩ | ⟨value, _, _, absurd⟩ | ⟨value, _, lost, _⟩
    · exact same
    · cases absurd
    · exact absurd (by rw [lost]) (acked now)
  | _ => simp [clocked] at ran

theorem waivable_failed (guarded : Bool) (error : Err)
    (ran : waivable guarded tx choice w = some (w', .error error))
    (acked : choice ≠ .commit .lost) : w' = w := by
  cases choice with
  | commit fate =>
    simp only [waivable, refusable, committed, Option.some.injEq] at ran
    rcases transact_cases tx fate w w' _ ran with
      ⟨same, _⟩ | ⟨value, _, _, absurd⟩ | ⟨value, _, lost, _⟩
    · exact same
    · cases absurd
    · exact absurd (by rw [lost]) acked
  | revoked =>
    cases guarded <;> simp [waivable] at ran
    exact ran.1.symm
  | refuse refusal =>
    simp only [waivable, refusable, Option.some.injEq, Prod.mk.injEq] at ran
    exact ran.1.symm
  | _ => simp [waivable, refusable, committed] at ran

theorem onStore_ok (inner : Transaction Store β) (value : β)
    (done : onStore inner w = .ok (w', value)) :
    inner w.toStore = .ok (w'.toStore, value) ∧ w'.claimed = w.claimed ∧
      w'.charged = w.charged ∧ w'.handedBy = w.handedBy := by
  simp only [onStore] at done
  split at done
  · cases done
    exact ⟨by assumption, rfl, rfl, rfl⟩
  · cases done

theorem onStore_error (inner : Transaction Store β) (error : Err)
    (failed : onStore inner w = .error error) : inner w.toStore = .error error := by
  simp only [onStore] at failed
  split at failed
  · cases failed
  · cases failed
    assumption

end Outcomes

theorem triggered (worker : Nat) (intent : IntentId) (now : Time) (w w' : World)
    (value : Option CryptoIntentRow)
    (done : triggerHandoffIn worker intent now w = .ok (w', value)) :
    (w' = w ∧ value = none) ∨
    ∃ row next, w.intents intent = some row ∧ row.provisioningTriggeredAt = none ∧
      next = { row with provisioningTriggeredAt := some now, status := .provisioning } ∧
      w' = { w with
        intents := w.intents.put intent next
        handedBy := update w.handedBy intent (some worker) } ∧
      value = if row.orderPayload.isSome then some next else none := by
  simp only [triggerHandoffIn, onStore, triggerHandoff] at done
  cases present : w.intents intent with
  | none =>
    simp only [present, Option.any_none, Bool.false_eq_true, ↓reduceIte, Except.ok.injEq,
      Prod.mk.injEq] at done
    exact Or.inl ⟨done.1.symm, done.2.symm⟩
  | some row =>
    cases stamp : row.provisioningTriggeredAt with
    | some before =>
      simp only [present, stamp, Option.isSome_some, ↓reduceIte, Option.any_some,
        Option.isNone_some, Bool.false_eq_true, Except.ok.injEq, Prod.mk.injEq] at done
      exact Or.inl ⟨done.1.symm, done.2.symm⟩
    | none =>
      simp only [present, stamp, Option.isSome_none, Bool.false_eq_true, ↓reduceIte,
        Option.any_some, Option.isNone_none, Except.ok.injEq, Prod.mk.injEq] at done
      exact Or.inr ⟨row, _, rfl, stamp, rfl, done.1.symm, done.2.symm⟩

end HyruleCloud
