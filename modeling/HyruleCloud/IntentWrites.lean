import HyruleCloud.Frames
import HyruleCloud.HandoffSteps

/-!
What one request can do to the table of intents: it leaves the table alone, or
it writes one row in the way of its session.
-/

namespace HyruleCloud

open Interaction

/-- The row `next` that a request may write over `row`. -/
inductive IntentWrite (intent : IntentId) (row : CryptoIntentRow) :
    {β : Type} → CheckoutReq β → CryptoIntentRow → Prop where
  | triggered (worker : Nat) (now : Time) (first : row.provisioningTriggeredAt = none) :
      IntentWrite intent row (.triggerHandoff worker intent)
        { row with provisioningTriggeredAt := some now, status := .provisioning }
  | planned (vm : VmId) (unplanned : row.vmId = none) :
      IntentWrite intent row (.persistPlannedVmId intent vm) { row with vmId := some vm }
  | provisioned (token : Time) (vm : VmId) (held : holdsHandoff row token = true) :
      IntentWrite intent row (.markProvisioned intent token vm)
        { row with vmId := some vm, status := .provisioned }
  | status (status : IntentStatus) :
      IntentWrite intent row (.setIntentStatus intent status) { row with status := status }
  | finished (status : IntentStatus) (flying : row.status = .provisioning) :
      IntentWrite intent row (.finishResumedHandoff intent status) { row with status := status }
  | refunded (reason : String) (vm : Option VmId) :
      IntentWrite intent row (.recordNativeIntentRefund intent reason vm)
        { row with status := .refundManual }
  | scanned (scan : ScanResult) (now : Time) (rate : Option Rat)
      (live : row.status.isTerminal = false) :
      IntentWrite intent row (.applyIntentScan intent scan) (appliedScan row scan now rate)
  | leased (now : Time) (flying : row.status = .provisioning) (vm : row.resourceType = .vm)
      (stale : row.provisioningTriggeredAt.any (· + vmProvisioningRecoveryDelay ≤ now) = true) :
      IntentWrite intent row (.takeRecoveryLease intent)
        { row with provisioningTriggeredAt := some now }

def IntentEffect {β : Type} (request : CheckoutReq β) (w w' : World) : Prop :=
  w'.intents = w.intents ∨ ∃ intent row next, w.intents intent = some row ∧
    IntentWrite intent row request next ∧ w'.intents = w.intents.put intent next

/-- The requests that write REFUND_MANUAL without an obligation of their own. -/
def Flips {β : Type} : CheckoutReq β → Prop
  | .setIntentStatus _ status | .finishResumedHandoff _ status => status = .refundManual
  | _ => False

def Aside {β : Type} (tx : Transaction Store β) : Prop :=
  ∀ s s' value, tx s = .ok (s', value) →
    s'.intents = s.intents ∧ s'.orders = s.orders ∧ s'.events = s.events

section Asides
variable (vm : VmId) (quote : QuoteId)

theorem insert_aside (args : InsertArgs) : Aside (insertVmRow vm args) := by
  intro s s' value done
  simp only [insertVmRow] at done
  repeat' split at done
  all_goals cases done
  exact ⟨rfl, rfl, rfl⟩

theorem reserve_aside (args : InsertArgs) : Aside (reservePlannedVm vm args) := by
  intro s s' value done
  simp only [reservePlannedVm] at done
  repeat' split at done
  · cases done
    exact ⟨rfl, rfl, rfl⟩
  · cases done
  · exact insert_aside vm args s s' value done

theorem activate_aside (args : ActivateArgs) : Aside (activateVmReservation vm args) := by
  intro s s' value done
  simp only [activateVmReservation] at done
  repeat' split at done
  all_goals cases done
  all_goals exact ⟨rfl, rfl, rfl⟩

theorem release_aside : Aside (releaseVmReservation vm) := by
  intro s s' value done
  simp only [releaseVmReservation] at done
  repeat' split at done
  all_goals cases done
  all_goals exact ⟨rfl, rfl, rfl⟩

theorem attach_aside (owner : Option AccountId) (fqdn : Fqdn) (inUse : Bool) :
    Aside (claimVmAttachment owner fqdn vm inUse) := by
  intro s s' value done
  simp only [claimVmAttachment] at done
  repeat' split at done
  all_goals cases done
  all_goals exact ⟨rfl, rfl, rfl⟩

theorem failed_aside : Aside (markVmFailed vm) := by
  intro s s' value done
  simp only [markVmFailed] at done
  repeat' split at done
  all_goals cases done
  all_goals exact ⟨rfl, rfl, rfl⟩

theorem started_aside : Aside (startProvisioning vm) := by
  intro s s' value done
  simp only [startProvisioning] at done
  repeat' split at done
  all_goals cases done
  all_goals exact ⟨rfl, rfl, rfl⟩

theorem price_aside (amount : Usd) : Aside (persistChargedAmount vm amount) := by
  intro s s' value done
  simp only [persistChargedAmount] at done
  repeat' split at done
  all_goals cases done
  all_goals exact ⟨rfl, rfl, rfl⟩

theorem claim_aside : Aside (claimQuote quote) := by
  intro s s' value done
  simp only [claimQuote] at done
  repeat' split at done
  all_goals cases done
  all_goals exact ⟨rfl, rfl, rfl⟩

theorem reopen_aside : Aside (releaseQuoteClaim quote) := by
  intro s s' value done
  simp only [releaseQuoteClaim] at done
  repeat' split at done
  all_goals cases done
  all_goals exact ⟨rfl, rfl, rfl⟩

theorem link_aside : Aside (linkQuoteVm quote vm) := by
  intro s s' value done
  simp only [linkQuoteVm] at done
  repeat' split at done
  all_goals cases done
  all_goals exact ⟨rfl, rfl, rfl⟩

theorem fence_aside (intent : IntentId) (token : Time) :
    Aside (requireCurrentVmHandoff intent token) := by
  intro s s' value done
  simp only [requireCurrentVmHandoff] at done
  repeat' split at done
  all_goals cases done
  exact ⟨rfl, rfl, rfl⟩

end Asides

/-- What a request does to intents, orders and the ledger. -/
inductive CheckoutEffect (w w' : World) : {β : Type} → CheckoutReq β → CheckoutChoice → Prop where
  | aside {β : Type} {request : CheckoutReq β} {choice : CheckoutChoice}
      (intents : w'.intents = w.intents) (orders : w'.orders = w.orders)
      (events : ∀ event ∈ w.events, event ∈ w'.events) : CheckoutEffect w w' request choice
  | written {β : Type} {request : CheckoutReq β} {choice : CheckoutChoice} (intent : IntentId)
      (row next : CryptoIntentRow) (present : w.intents intent = some row)
      (write : IntentWrite intent row request next)
      (bought : next.resourceId = row.resourceId ∧ next.amountUsd = row.amountUsd)
      (flips : next.status = .refundManual → row.status = .refundManual ∨ Flips request)
      (intents : w'.intents = w.intents.put intent next) (orders : w'.orders = w.orders)
      (events : w'.events = w.events) : CheckoutEffect w w' request choice
  | scanned (intent : IntentId) (scan : ScanResult) (now : Time) (rate : Option Rat)
      (fate : Fate) (row : CryptoIntentRow) (present : w.intents intent = some row)
      (live : row.status.isTerminal = false)
      (intents : w'.intents = w.intents.put intent (appliedScan row scan now rate))
      (orders : w'.orders = w.orders) (events : w'.events = w.events) :
      CheckoutEffect w w' (.applyIntentScan intent scan) (.requoted now rate fate)
  | refunded {choice : CheckoutChoice} (intent : IntentId) (reason : String) (vm : Option VmId)
      (now : Time) (value : Bool)
      (done : recordNativeIntentRefund intent reason vm now w.toStore = .ok (w'.toStore, value)) :
      CheckoutEffect w w' (.recordNativeIntentRefund intent reason vm) choice
  | settled {choice : CheckoutChoice} (id : OrderId) (args : MarkArgs) (now : Time)
      (operation : OperationId) (order : DomainOrderRow)
      (done : markPaid id args now operation false w.toStore = .ok (w'.toStore, order)) :
      CheckoutEffect w w' (.nativeOrderSettled id args) choice

section Effects
variable {w w' : World} {β γ : Type} {request : CheckoutReq γ} {choice : CheckoutChoice}
  {reply : Except Err β}

theorem still_effect : CheckoutEffect w w request choice := .aside rfl rfl fun _ member => member

theorem aside_fields {tx : Transaction Store β} (aside : Aside tx)
    (ends : SessionEnds w w' reply (onStore tx)) : w'.intents = w.intents ∧
      w'.orders = w.orders ∧ ∀ event ∈ w.events, event ∈ w'.events := by
  rcases ends with ⟨rfl, _⟩ | ⟨value, done, _⟩
  · exact ⟨rfl, rfl, fun _ member => member⟩
  · obtain ⟨intents, orders, events⟩ := aside _ _ _ (onStore_ok _ _ _ _ done).1
    exact ⟨intents, orders, fun event member => by rw [events]; exact member⟩

theorem aside_effect {tx : Transaction Store β} (aside : Aside tx)
    (ends : SessionEnds w w' reply (onStore tx)) : CheckoutEffect w w' request choice := by
  obtain ⟨intents, orders, events⟩ := aside_fields aside ends
  exact .aside intents orders events

theorem read_effect {read : World → β} (ends : SessionEnds w w' reply (readOnly read)) :
    CheckoutEffect w w' request choice := by
  rcases ends with ⟨rfl, _⟩ | ⟨value, done, _⟩
  · exact still_effect
  · cases done
    exact still_effect

theorem session_effect {tx : Transaction Store β} (intent : IntentId)
    (ends : SessionEnds w w' reply (onStore tx))
    (writes : ∀ s' value, tx w.toStore = .ok (s', value) → s' = w.toStore ∨
      ∃ row next, w.intents intent = some row ∧ IntentWrite intent row request next ∧
        s' = { w.toStore with intents := w.intents.put intent next } ∧
        (next.resourceId = row.resourceId ∧ next.amountUsd = row.amountUsd) ∧
        (next.status = .refundManual → row.status = .refundManual ∨ Flips request)) :
    CheckoutEffect w w' request choice := by
  rcases ends with ⟨rfl, _⟩ | ⟨value, done, _⟩
  · exact still_effect
  rcases writes _ _ (onStore_ok _ _ _ _ done).1 with
    same | ⟨row, next, present, write, same, bought, flips⟩
  · exact .aside (by rw [same]) (by rw [same]) fun event member => by rw [same]; exact member
  · exact .written intent row next present write bought flips (by rw [same]) (by rw [same])
      (by rw [same])

end Effects

theorem checkout_effect {β : Type} (request : CheckoutReq β) (choice : CheckoutChoice)
    (w w' : World) (reply : Except Err β) (ran : request.exec choice w = some (w', reply)) :
    CheckoutEffect w w' request choice := by
  cases request with
  | clock | bindPayerAccount wallet account =>
    simp only [CheckoutReq.exec] at ran
    split at ran <;> cases ran
    exact still_effect
  | scanAddress intent =>
    simp only [CheckoutReq.exec] at ran
    split at ran <;> cases ran <;> exact still_effect
  | getQuote _ | getVm _ | getOrder _ | settledEvent _ | getIntent _ =>
    exact read_effect (committed_ends _ _ _ _ _ ran)
  | admission =>
    rcases refusable_ends _ _ _ _ _ ran with ⟨rfl, _⟩ | ends
    · exact still_effect
    · exact read_effect ends
  | enterAccountGuard account =>
    rcases committed_ends _ _ _ _ _ ran with ⟨rfl, _⟩ | ⟨value, done, _⟩
    · exact still_effect
    · simp only [enterGuard] at done
      split at done <;> cases done
      exact still_effect
  | leaveAccountGuard account caller =>
    simp only [CheckoutReq.exec, leaveGuard] at ran
    split at ran
    · cases ran
      exact still_effect
    · exact read_effect (committed_ends _ _ _ _ _ ran)
  | checkPayment handler credential amount =>
    simp only [CheckoutReq.exec, checkPayment] at ran
    repeat' split at ran
    all_goals cases ran
    all_goals first | exact still_effect | skip
    rename_i payer written _
    refine .aside ?_ ?_ fun event member => ?_ <;> cases written <;>
      simp [chargeHandler, addEvent]
    · exact member
    · exact Or.inl member
  | reserveVm vm args =>
    rcases refusable_ends _ _ _ _ _ ran with ⟨rfl, _⟩ | ends
    · exact still_effect
    · exact aside_effect (reserve_aside vm args) ends
  | insertVm vm args guarded =>
    rcases waivable_ends _ _ _ _ _ _ ran with ⟨_, rfl, _⟩ | ⟨rfl, _⟩ | ends
    · exact still_effect
    · exact still_effect
    · exact aside_effect (insert_aside vm args) ends
  | activateVmReservation vm args guarded =>
    rcases waivable_ends _ _ _ _ _ _ ran with ⟨_, rfl, _⟩ | ⟨rfl, _⟩ | ends
    · exact still_effect
    · exact still_effect
    · exact aside_effect (activate_aside vm args) ends
  | releaseVmReservation vm =>
    exact aside_effect (release_aside vm) (committed_ends _ _ _ _ _ ran)
  | claimVmAttachment owner fqdn vm =>
    simp only [CheckoutReq.exec] at ran
    split at ran
    · simp only [Option.some.injEq] at ran
      exact aside_effect (attach_aside vm (some owner) fqdn _) (transact_ends _ _ _ _ _ ran)
    · cases ran
  | releaseVmAttachmentClaim vm =>
    refine aside_effect ?_ (committed_ends _ _ _ _ _ ran)
    intro s s' value done
    cases done
    exact ⟨rfl, rfl, rfl⟩
  | markVmFailed vm =>
    exact aside_effect (failed_aside vm) (committed_ends _ _ _ _ _ ran)
  | startProvisioning vm =>
    exact aside_effect (started_aside vm) (committed_ends _ _ _ _ _ ran)
  | persistChargedAmount vm amount =>
    exact aside_effect (price_aside vm amount) (committed_ends _ _ _ _ _ ran)
  | linkQuoteVm quote vm =>
    exact aside_effect (link_aside vm quote) (committed_ends _ _ _ _ _ ran)
  | requireCurrentVmHandoff intent token =>
    exact aside_effect (fence_aside intent token) (committed_ends _ _ _ _ _ ran)
  | claimQuote process quote caller =>
    simp only [CheckoutReq.exec, claimQuoteIn] at ran
    split at ran
    · cases ran
      exact still_effect
    · split at ran
      · rename_i won claimed
        cases ran
        obtain ⟨intents, orders, events⟩ :=
          aside_fields (claim_aside quote) (committed_ends _ _ _ won _ claimed)
        exact .aside intents orders events
      · exact aside_effect (claim_aside quote) (committed_ends _ _ _ _ _ ran)
  | releaseQuoteClaim process quote =>
    simp only [CheckoutReq.exec, releaseQuoteClaimIn] at ran
    split at ran
    · rename_i won released
      cases ran
      obtain ⟨intents, orders, events⟩ :=
        aside_fields (reopen_aside quote) (committed_ends _ _ _ won _ released)
      exact .aside intents orders events
    · exact aside_effect (reopen_aside quote) (committed_ends _ _ _ _ _ ran)
  | recordOwed args =>
    simp only [CheckoutReq.exec, recordOwedIn] at ran
    split at ran <;> cases ran
    · exact still_effect
    simp only [recordOwed]
    split
    · exact .aside rfl rfl fun event member => List.mem_append_left _ member
    · exact still_effect
  | nativeOrderSettled order args =>
    simp only [CheckoutReq.exec] at ran
    split at ran
    · simp only [Option.some.injEq] at ran
      rcases transact_ends _ _ _ _ _ ran with ⟨rfl, _⟩ | ⟨value, done, _⟩
      · exact still_effect
      · exact .settled order args _ _ value (onStore_ok _ _ _ _ done).1
    · cases ran
  | triggerHandoff worker intent =>
    obtain ⟨now, ⟨rfl, _⟩ | ⟨value, done, _⟩⟩ := clocked_ends _ _ _ _ _ ran
    · exact still_effect
    · rcases triggered worker intent now w w' value done with
        ⟨rfl, _⟩ | ⟨row, next, present, first, rfl, rfl, _⟩
      · exact still_effect
      · exact .written intent row _ present (.triggered worker now first) ⟨rfl, rfl⟩
          (by simp) rfl rfl rfl
  | persistPlannedVmId intent vm =>
    refine session_effect intent (committed_ends _ _ _ _ _ ran) fun s' value done => ?_
    simp only [persistPlannedVmId] at done
    repeat' split at done
    all_goals cases done
    · exact Or.inl rfl
    · rename_i row present _ unplanned
      exact Or.inr ⟨row, _, present, .planned vm unplanned, rfl, ⟨rfl, rfl⟩, Or.inl⟩
  | markProvisioned intent token vm =>
    refine session_effect intent (committed_ends _ _ _ _ _ ran) fun s' value done => ?_
    simp only [markProvisioned] at done
    repeat' split at done
    all_goals cases done
    rename_i row present held
    exact Or.inr ⟨row, _, present, .provisioned token vm held, rfl, ⟨rfl, rfl⟩, by simp⟩
  | setIntentStatus intent status =>
    refine session_effect intent (committed_ends _ _ _ _ _ ran) fun s' value done => ?_
    simp only [setIntentStatus] at done
    split at done <;> cases done
    · exact Or.inl rfl
    · rename_i row present
      exact Or.inr ⟨row, _, present, .status status, rfl, ⟨rfl, rfl⟩, Or.inr⟩
  | finishResumedHandoff intent status =>
    refine session_effect intent (committed_ends _ _ _ _ _ ran) fun s' value done => ?_
    simp only [finishResumedHandoff] at done
    repeat' split at done
    all_goals cases done
    · exact Or.inl rfl
    · rename_i row present flying
      exact Or.inr ⟨row, _, present, .finished status flying, rfl, ⟨rfl, rfl⟩, Or.inr⟩
    · exact Or.inl rfl
  | takeRecoveryLease intent =>
    obtain ⟨now, ends⟩ := clocked_ends _ _ _ _ _ ran
    refine session_effect intent ends fun s' value done => ?_
    simp only [takeRecoveryLease] at done
    repeat' split at done
    all_goals cases done
    · exact Or.inl rfl
    · rename_i row present stale
      exact Or.inr ⟨row, _, present, .leased now stale.1 stale.2.1 stale.2.2, rfl, ⟨rfl, rfl⟩,
        Or.inl⟩
    · exact Or.inl rfl
  | applyIntentScan intent scan =>
    simp only [CheckoutReq.exec] at ran
    split at ran
    · rename_i now rate fate
      simp only [Option.some.injEq] at ran
      rcases transact_ends _ _ _ _ _ ran with ⟨rfl, _⟩ | ⟨value, done, _⟩
      · exact still_effect
      have inner := (onStore_ok _ _ _ _ done).1
      simp only [applyIntentScan] at inner
      repeat' split at inner
      all_goals obtain ⟨same, _⟩ := Prod.mk.inj (Except.ok.inj inner)
      · exact .aside (by rw [← same]) (by rw [← same]) fun _ member => by rwa [← same]
      · exact .aside (by rw [← same]) (by rw [← same]) fun _ member => by rwa [← same]
      · rename_i row present live _
        exact .scanned intent scan now rate fate row present (by simpa using live)
          (by rw [← same]) (by rw [← same]) (by rw [← same])
    · cases ran
  | recordNativeIntentRefund intent reason vm =>
    obtain ⟨now, ⟨rfl, _⟩ | ⟨value, done, _⟩⟩ := clocked_ends _ _ _ _ _ ran
    · exact still_effect
    · exact .refunded intent reason vm now value (onStore_ok _ _ _ _ done).1

theorem markPaid_intents (id : OrderId) (args : MarkArgs) (now : Time)
    (operation : OperationId) (s s' : Store) (order : DomainOrderRow)
    (done : markPaid id args now operation false s = .ok (s', order)) :
    s'.intents = s.intents := by
  obtain ⟨row, _, outcome⟩ := markPaid_outcome id args now operation false _ _ _ done
  cases outcome with
  | revoked _ _ _ written | ignored _ written => rw [written]
  | refunded code quotes _ refund => exact (refundOrder_columns id _ order code refund).2.1
  | queued quotes _ accepted =>
    obtain ⟨_, _, written⟩ := queued_order id _ _ _ _ _ _ accepted
    rw [written]

theorem intent_effect {β : Type} (request : CheckoutReq β) (choice : CheckoutChoice)
    (w w' : World) (reply : Except Err β) (ran : request.exec choice w = some (w', reply)) :
    IntentEffect request w w' := by
  cases checkout_effect request choice w w' reply ran with
  | aside intents => exact Or.inl intents
  | written intent row next present write _ _ intents =>
    exact Or.inr ⟨intent, row, next, present, write, intents⟩
  | scanned intent scan now rate fate row present live intents =>
    exact Or.inr ⟨intent, row, _, present, .scanned scan now rate live, intents⟩
  | refunded intent reason vm now value done =>
    obtain ⟨_, ⟨same, _⟩ | ⟨row, present, intents, _⟩⟩ :=
      refundedIntent intent reason vm now value done
    · exact Or.inl (by rw [same])
    · exact Or.inr ⟨intent, row, _, present, .refunded reason vm, intents⟩
  | settled order args now operation value done =>
    exact Or.inl (markPaid_intents order args now operation _ _ value done)

end HyruleCloud
