import HyruleCloud.Ledger

/-!
What each checkout request may change. A quiet request leaves every view as it
is. The others change one row, or append obligations, or move one intent, of the
party they act for.
-/

namespace HyruleCloud

open Interaction

/-- Nothing that any view shows has changed, up to swept reservations. -/
structure Unseen (a b : World) : Prop where
  views : ∀ party, SameView party a b
  sound : Sound b

theorem unseen_refl (w : World) (sound : Sound w) : Unseen w w :=
  ⟨fun party => sameView_refl party w, sound⟩

theorem unseen_trans {a b c : World} (first : Unseen a b) (second : Unseen b c) : Unseen a c :=
  ⟨fun party => sameView_trans (first.views party) (second.views party), second.sound⟩

theorem unseen_guar (worker : Nat) (a b : World) (unseen : Unseen a b) : Guar worker a b :=
  ⟨fun party _ => unseen.views party,
    fun intent _ held => ((unseen.views (.intent intent)).intents intent rfl).2.trans held,
    fun intent _ held => Or.inl
      (((unseen.views (.intent intent)).intents intent rfl).2.symm.trans held)⟩

section Columns
variable {a b : World}

theorem unseen_swept (sound : Sound a) (rows : ∀ vm, RowKept (a.vms vm) (b.vms vm))
    (events : b.events = a.events) (charged : b.charged = a.charged)
    (intents : b.intents = a.intents) (handedBy : b.handedBy = a.handedBy) : Unseen a b := by
  have views : ∀ party, SameView party a b := fun party =>
    { rows := fun serial => rows _
      owed := fun payment _ => by simp only [owed, events]
      charged := fun handler _ => by rw [charged]
      intents := fun intent _ => by rw [intents, handedBy]; exact ⟨rfl, rfl⟩ }
  refine ⟨views, ?_⟩
  constructor
  · intro vm row payment present paid
    rcases rows vm with kept | ⟨gone, _⟩
    · exact sound.payers vm row payment (kept.symm.trans present) paid
    · simp [gone] at present
  · rw [intents]; exact sound.intents
  · intro intent open'
    exact position_kept .untouched (views (Payment.native intent).party)
      (sound.idle intent (by rw [← handedBy]; exact open'))
  · rw [intents, handedBy]; exact sound.handed
  · rw [events]; exact sound.settled

theorem unseen_columns (sound : Sound a) (rows : b.vms = a.vms) (events : b.events = a.events)
    (charged : b.charged = a.charged) (intents : b.intents = a.intents)
    (handedBy : b.handedBy = a.handedBy) : Unseen a b :=
  unseen_swept sound (fun vm => Or.inl (congrFun rows vm)) events charged intents handedBy

end Columns

theorem released_swept (vm : VmId) (s s' : Store) (done : releaseVmReservation vm s = .ok (s', ())) :
    (∀ other, RowKept (s.vms other) (s'.vms other)) ∧ s'.events = s.events ∧
      s'.intents = s.intents := by
  simp only [releaseVmReservation] at done
  split at done
  · cases done
    exact ⟨fun _ => Or.inl rfl, rfl, rfl⟩
  · rename_i row present
    split at done
    · rename_i reserved
      cases done
      refine ⟨fun other => ?_, rfl, rfl⟩
      by_cases same : other = vm
      · subst same
        exact Or.inr ⟨erase_same _ _, row, present, reserved⟩
      · exact Or.inl (erase_other _ same)
    · cases done
      exact ⟨fun _ => Or.inl rfl, rfl, rfl⟩

def Quiet {β : Type} : CheckoutReq β → Prop
  | .clock | .getQuote _ | .getVm _ | .getOrder _ | .settledEvent _ | .admission => True
  | .enterAccountGuard _ | .leaveAccountGuard _ _ | .bindPayerAccount _ _ => True
  | .releaseVmReservation _ | .claimVmAttachment _ _ _ | .releaseVmAttachmentClaim _ => True
  | .claimQuote _ _ _ | .releaseQuoteClaim _ _ | .linkQuoteVm _ _ => True
  | .requireCurrentVmHandoff _ _ => True
  | _ => False

def KeepsColumns {β : Type} (tx : Transaction Store β) : Prop :=
  ∀ s s' value, tx s = .ok (s', value) →
    s'.vms = s.vms ∧ s'.events = s.events ∧ s'.intents = s.intents

variable {β : Type}

theorem unseen_session (tx : Transaction Store β) (keeps : KeepsColumns tx)
    (w w' : World) (reply : Except Err β) (sound : Sound w)
    (ends : SessionEnds w w' reply (onStore tx)) : Unseen w w' := by
  rcases ends with ⟨rfl, _⟩ | ⟨value, done, _⟩
  · exact unseen_refl _ sound
  · obtain ⟨inner, _, charged, handedBy⟩ := onStore_ok w w' tx value done
    obtain ⟨rows, events, intents⟩ := keeps _ _ _ inner
    exact unseen_columns sound rows events charged intents handedBy

theorem unseen_read (read : World → β) (w w' : World) (reply : Except Err β)
    (sound : Sound w) (ends : SessionEnds w w' reply (readOnly read)) : Unseen w w' := by
  rcases ends with ⟨rfl, _⟩ | ⟨value, done, _⟩
  · exact unseen_refl _ sound
  · cases done
    exact unseen_refl _ sound

theorem claimQuote_columns (quote : QuoteId) : KeepsColumns (claimQuote quote) := by
  intro s s' value done
  simp only [claimQuote] at done
  split at done
  · split at done <;> cases done <;> exact ⟨rfl, rfl, rfl⟩
  · cases done; exact ⟨rfl, rfl, rfl⟩

theorem releaseQuoteClaim_columns (quote : QuoteId) : KeepsColumns (releaseQuoteClaim quote) := by
  intro s s' value done
  simp only [releaseQuoteClaim] at done
  split at done
  · split at done <;> cases done <;> exact ⟨rfl, rfl, rfl⟩
  · cases done; exact ⟨rfl, rfl, rfl⟩

theorem linkQuoteVm_columns (quote : QuoteId) (vm : VmId) : KeepsColumns (linkQuoteVm quote vm) := by
  intro s s' value done
  simp only [linkQuoteVm] at done
  split at done <;> cases done <;> exact ⟨rfl, rfl, rfl⟩

theorem claimVmAttachment_columns (owner : Option AccountId) (fqdn : Fqdn) (vm : VmId) (apex : Bool) :
    KeepsColumns (claimVmAttachment owner fqdn vm apex) := by
  intro s s' value done
  simp only [claimVmAttachment] at done
  repeat' split at done
  all_goals first
    | cases done; exact ⟨rfl, rfl, rfl⟩
    | cases done

theorem requireCurrent_columns (intent : IntentId) (token : Time) :
    KeepsColumns (requireCurrentVmHandoff intent token) := by
  intro s s' value done
  simp only [requireCurrentVmHandoff] at done
  repeat' split at done
  all_goals first
    | cases done; exact ⟨rfl, rfl, rfl⟩
    | cases done

section
variable (process : ProcessId) (quote : QuoteId) (choice : CheckoutChoice) (w w' : World)
  (reply : Except Err Bool) (sound : Sound w)
include sound

theorem claimQuoteIn_unseen
    (ran : claimQuoteIn process quote choice w = some (w', reply)) : Unseen w w' := by
  simp only [claimQuoteIn] at ran
  split at ran
  · cases ran
    exact unseen_refl _ sound
  · split at ran
    · rename_i won claimed
      have ends := committed_ends _ _ _ _ _ claimed
      have session := unseen_session _ (claimQuote_columns quote) _ _ _ sound ends
      obtain ⟨rfl, _⟩ := Prod.mk.inj (Option.some.inj ran)
      refine unseen_trans session (unseen_columns session.sound ?_ ?_ ?_ ?_ ?_) <;> rfl
    · rename_i other
      have ends := committed_ends _ _ _ _ _ ran
      exact unseen_session _ (claimQuote_columns quote) _ _ _ sound ends

theorem releaseQuoteClaimIn_unseen
    (ran : releaseQuoteClaimIn process quote choice w = some (w', reply)) : Unseen w w' := by
  simp only [releaseQuoteClaimIn] at ran
  split at ran
  · rename_i won released
    have ends := committed_ends _ _ _ _ _ released
    have session := unseen_session _ (releaseQuoteClaim_columns quote) _ _ _ sound ends
    obtain ⟨rfl, _⟩ := Prod.mk.inj (Option.some.inj ran)
    refine unseen_trans session (unseen_columns session.sound ?_ ?_ ?_ ?_ ?_) <;> rfl
  · rename_i other
    have ends := committed_ends _ _ _ _ _ ran
    exact unseen_session _ (releaseQuoteClaim_columns quote) _ _ _ sound ends

end

theorem quiet_unseen (request : CheckoutReq β) (choice : CheckoutChoice)
    (w w' : World) (reply : Except Err β) (quiet : Quiet request) (sound : Sound w)
    (ran : request.exec choice w = some (w', reply)) : Unseen w w' := by
  cases request with
  | clock | bindPayerAccount =>
    simp only [CheckoutReq.exec] at ran
    split at ran
    · cases ran; exact unseen_refl _ sound
    · cases ran
  | getQuote | getVm | getOrder | settledEvent =>
    exact unseen_read _ _ _ _ sound (committed_ends _ _ _ _ _ ran)
  | admission =>
    rcases refusable_ends _ _ _ _ _ ran with ⟨rfl, _⟩ | ends
    · exact unseen_refl _ sound
    · exact unseen_read _ _ _ _ sound ends
  | enterAccountGuard account =>
    rcases committed_ends _ _ _ _ _ ran with ⟨rfl, _⟩ | ⟨value, done, _⟩
    · exact unseen_refl _ sound
    · simp only [enterGuard] at done
      split at done <;> cases done
      exact unseen_refl _ sound
  | leaveAccountGuard account caller =>
    simp only [CheckoutReq.exec, leaveGuard] at ran
    split at ran
    · cases ran; exact unseen_refl _ sound
    · exact unseen_read _ _ _ _ sound (committed_ends _ _ _ _ _ ran)
  | releaseVmReservation vm =>
    rcases committed_ends _ _ _ _ _ ran with ⟨rfl, _⟩ | ⟨value, done, _⟩
    · exact unseen_refl _ sound
    · obtain ⟨inner, _, charged, handedBy⟩ := onStore_ok _ _ _ _ done
      obtain ⟨rows, events, intents⟩ := released_swept vm _ _ inner
      exact unseen_swept sound rows events charged intents handedBy
  | claimVmAttachment owner fqdn vm =>
    simp only [CheckoutReq.exec] at ran
    split at ran
    · simp only [Option.some.injEq] at ran
      exact unseen_session _ (claimVmAttachment_columns _ _ _ _) _ _ _ sound
        (transact_ends _ _ _ _ _ ran)
    · cases ran
  | releaseVmAttachmentClaim vm =>
    refine unseen_session _ ?_ _ _ _ sound (committed_ends _ _ _ _ _ ran)
    intro s s' value done
    cases done
    exact ⟨rfl, rfl, rfl⟩
  | claimQuote process quote caller => exact claimQuoteIn_unseen _ _ _ _ _ _ sound ran
  | releaseQuoteClaim process quote => exact releaseQuoteClaimIn_unseen _ _ _ _ _ _ sound ran
  | linkQuoteVm quote vm =>
    exact unseen_session _ (linkQuoteVm_columns quote vm) _ _ _ sound
      (committed_ends _ _ _ _ _ ran)
  | requireCurrentVmHandoff intent token =>
    exact unseen_session _ (requireCurrent_columns intent token) _ _ _ sound
      (committed_ends _ _ _ _ _ ran)
  | _ => exact quiet.elim

/-- A wallet and a transaction that can only stand for the party's own charge. -/
def Attributable (party : Drawer) (wallet : Option Wallet) (tx : Option Tx) : Prop :=
  (∀ intent, wallet = some (.intent intent) → party = .intent intent) ∧
  (∀ settlement, tx = some (.chain settlement) → party = .request settlement)

theorem attributable_row (party : Drawer) (row : VMRow)
    (own : Attributable party row.ownerWallet row.paymentTx) (payment : Payment)
    (paid : row.paidBy payment = true) : payment.party = party := by
  cases payment with
  | x402 settlement => exact (own.2 settlement (by simpa [VMRow.paidBy] using paid)).symm
  | native intent => exact (own.1 intent (by simpa [VMRow.paidBy] using paid)).symm

theorem row_attributable (party : Drawer) (row : VMRow)
    (paid : ∀ payment : Payment, row.paidBy payment = true → payment.party = party) :
    Attributable party row.ownerWallet row.paymentTx := by
  constructor
  · intro intent owner
    exact (paid (.native intent) (by simp [VMRow.paidBy, owner])).symm
  · intro settlement charge
    exact (paid (.x402 settlement) (by simp [VMRow.paidBy, charge])).symm

/-- The same charge, handed on: only the identity of the row and its price matter. -/
structure Succeeds (intent : IntentId) (row next : CryptoIntentRow) : Prop where
  amount : next.amountUsd = row.amountUsd
  payload : next.orderPayload = row.orderPayload
  triggered : next.provisioningTriggeredAt = row.provisioningTriggeredAt
  kind : next.resourceType = row.resourceType
  planned : ∀ vm, next.vmId = some vm → row.vmId = some vm ∨ vm.drawer = .intent intent

structure ActsFor (party : Drawer) (s s' : Store) : Prop where
  rows : ∀ vm, s'.vms vm = s.vms vm ∨ vm.drawer = party ∧
    ∀ row, s'.vms vm = some row → Attributable party row.ownerWallet row.paymentTx
  events : ∃ added, s'.events = s.events ++ added ∧ ∀ event ∈ added,
    event.eventType = .refundOwed ∧ Attributable party event.payerWallet event.txHash
  intents : ∀ intent, s'.intents intent = s.intents intent ∨ party = .intent intent ∧
    ∃ row next, s.intents intent = some row ∧ s'.intents intent = some next ∧
      Succeeds intent row next

theorem actsFor_refl (party : Drawer) (s : Store) : ActsFor party s s :=
  ⟨fun _ => Or.inl rfl, ⟨[], by simp, by simp⟩, fun _ => Or.inl rfl⟩

/-- Only the view of `party` changes. -/
structure Touches (party : Drawer) (a b : World) : Prop where
  others : ∀ other, other ≠ party → SameView other a b
  handedBy : b.handedBy = a.handedBy
  charged : b.charged = a.charged
  kinds : ∀ intent, (b.intents intent).map (·.resourceType) =
    (a.intents intent).map (·.resourceType)
  sound : Sound b

theorem touches_guar (worker : Nat) (party : Drawer) (a b : World)
    (owns : Owns worker party a) (touches : Touches party a b) : Guar worker a b := by
  refine ⟨fun other foreign => ?_, fun intent _ held => by rw [touches.handedBy]; exact held,
    fun intent _ held => Or.inl (by rw [← touches.handedBy]; exact held)⟩
  apply touches.others
  rintro rfl
  apply foreign
  cases other with
  | request | order => exact owns
  | intent intent => exact (congrFun touches.handedBy intent).trans owns

theorem unseen_touches (party : Drawer) (a b : World) (unseen : Unseen a b) : Touches party a b where
  others other _ := unseen.views other
  handedBy := funext fun intent => ((unseen.views (.intent intent)).intents intent rfl).2
  charged := funext fun handler => (unseen.views (.request handler)).charged handler rfl
  kinds intent := by rw [((unseen.views (.intent intent)).intents intent rfl).1]
  sound := unseen.sound

theorem foreign_refund (party : Drawer) (event : PaymentEventRow) (payment : Payment)
    (own : Attributable party event.payerWallet event.txHash) (foreign : payment.party ≠ party) :
    event.refunds payment = false := by
  cases payment with
  | x402 settlement =>
    by_cases same : event.txHash = some (.chain settlement)
    · exact absurd (own.2 settlement same).symm foreign
    · simp [PaymentEventRow.refunds, same]
  | native intent =>
    by_cases same : event.payerWallet = some (.intent intent)
    · exact absurd (own.1 intent same).symm foreign
    · simp [PaymentEventRow.refunds, same]

theorem actsFor_touches (worker : Nat) (party : Drawer) (a b : World) (sound : Sound a)
    (owns : Owns worker party a) (acts : ActsFor party a.toStore b.toStore)
    (charged : b.charged = a.charged) (handedBy : b.handedBy = a.handedBy) :
    Touches party a b := by
  obtain ⟨added, events, fresh⟩ := acts.events
  have others : ∀ other, other ≠ party → SameView other a b := by
    intro other different
    refine ⟨fun serial => ?_, fun payment own => ?_, fun handler _ => by rw [charged], ?_⟩
    · rcases acts.rows ⟨other, serial⟩ with same | ⟨own, _⟩
      · exact Or.inl same
      · exact absurd own different
    · have none : added.countP (fun event => event.refunds payment) = 0 := by
        rw [List.countP_eq_zero]
        intro event member
        simp [foreign_refund party event payment (fresh event member).2 (own ▸ different)]
      simp [owed, events, none]
    · rintro intent rfl
      rcases acts.intents intent with same | ⟨own, _⟩
      · exact ⟨same, by rw [handedBy]⟩
      · exact absurd own.symm different
  have kinds : ∀ intent, (b.intents intent).map (·.resourceType) =
      (a.intents intent).map (·.resourceType) := by
    intro intent
    rcases acts.intents intent with same | ⟨_, row, next, before, after, succeeds⟩
    · rw [same]
    · simp [before, after, succeeds.kind]
  refine ⟨others, handedBy, charged, kinds, ?_⟩
  constructor
  · intro vm row payment present paid
    rcases acts.rows vm with same | ⟨own, safe⟩
    · exact sound.payers vm row payment (same ▸ present) paid
    · rw [own]
      exact attributable_row party row (safe row present) payment paid
  · intro intent next present
    rcases acts.intents intent with same | ⟨_, row, _, before, after, succeeds⟩
    · exact sound.intents intent next (same ▸ present)
    rw [present] at after
    cases after
    have old := sound.intents intent row before
    refine ⟨fun vm planned => ?_, ?_, ?_⟩
    · rcases succeeds.planned vm planned with kept | drawn
      · exact old.planned vm kept
      · exact drawn
    · rw [succeeds.amount]; exact old.priced
    · rw [succeeds.payload]; exact old.ordered
  · intro intent waiting
    rw [handedBy] at waiting
    have different : Drawer.intent intent ≠ party := by
      rintro rfl
      rw [Owns, waiting] at owns
      cases owns
    exact position_kept .untouched (others (Payment.native intent).party different)
      (sound.idle intent waiting)
  · intro intent worker' held
    rw [handedBy] at held
    obtain ⟨row, present, triggered⟩ := sound.handed intent worker' held
    rcases acts.intents intent with same | ⟨_, old, next, before, after, succeeds⟩
    · exact ⟨row, same ▸ present, triggered⟩
    · rw [present] at before
      cases before
      exact ⟨next, after, by rw [succeeds.triggered]; exact triggered⟩
  · intro event member
    rw [events, List.mem_append] at member
    rcases member with old | new
    · exact sound.settled event old
    · intro settlement settled
      rw [(fresh event new).1] at settled
      cases settled


section Sessions
variable {party : Drawer} {s s' : Store}

theorem acts_put (vm : VmId) (row : VMRow) (own : vm.drawer = party)
    (safe : Attributable party row.ownerWallet row.paymentTx)
    (rows : s'.vms = s.vms.put vm row) (events : s'.events = s.events)
    (intents : s'.intents = s.intents) : ActsFor party s s' := by
  refine ⟨fun other => ?_, ⟨[], by simp [events], by simp⟩, fun intent => Or.inl (by rw [intents])⟩
  by_cases same : other = vm
  · subst same
    refine Or.inr ⟨own, fun found present => ?_⟩
    rw [rows, put_same] at present
    cases present
    exact safe
  · exact Or.inl (by rw [rows, put_other _ _ same])

theorem acts_quietly (rows : s'.vms = s.vms) (events : s'.events = s.events)
    (intents : s'.intents = s.intents) : ActsFor party s s' :=
  ⟨fun vm => Or.inl (by rw [rows]), ⟨[], by simp [events], by simp⟩,
    fun intent => Or.inl (by rw [intents])⟩

def OwnRows (party : Drawer) (s : Store) : Prop :=
  ∀ vm row, vm.drawer = party → s.vms vm = some row →
    Attributable party row.ownerWallet row.paymentTx

theorem sound_ownRows (party : Drawer) (w : World) (sound : Sound w) : OwnRows party w.toStore := by
  intro vm row own present
  apply row_attributable
  intro payment paid
  rw [← own]
  exact sound.payers vm row payment present paid

theorem attributable_none (party : Drawer) : Attributable party none none := by
  constructor <;> intro _ absurd <;> cases absurd

section
variable (row : VMRow)

@[simp] theorem setHandoff_ownerWallet (ready : Bool) :
    (setHandoff row ready).ownerWallet = row.ownerWallet := by
  simp only [setHandoff]
  split <;> rfl

@[simp] theorem setHandoff_paymentTx (ready : Bool) :
    (setHandoff row ready).paymentTx = row.paymentTx := by
  simp only [setHandoff]
  split <;> rfl

@[simp] theorem setHandoff_status (ready : Bool) :
    (setHandoff row ready).status = row.status := by
  simp only [setHandoff]
  split <;> rfl

@[simp] theorem billed_ownerWallet (amount : Option Usd) (waived : Bool)
    (tx : Option Tx) : (applyPaymentBilling row amount waived tx).ownerWallet = row.ownerWallet := by
  cases amount <;> cases tx <;> rfl

@[simp] theorem billed_status (amount : Option Usd) (waived : Bool)
    (tx : Option Tx) : (applyPaymentBilling row amount waived tx).status = row.status := by
  cases amount <;> cases tx <;> rfl

theorem billed_paymentTx (amount : Option Usd) (waived : Bool) (tx : Option Tx) :
    (applyPaymentBilling row amount waived tx).paymentTx = (tx <|> row.paymentTx) := by
  cases amount <;> cases tx <;> rfl

end

@[simp] theorem newVmRow_ownerWallet (args : InsertArgs) :
    (newVmRow args).ownerWallet = args.ownerWallet := by
  simp only [newVmRow]
  split <;> simp

@[simp] theorem newVmRow_paymentTx (args : InsertArgs) :
    (newVmRow args).paymentTx = args.paymentTx := by
  simp only [newVmRow]
  split <;> simp [billed_paymentTx]

@[simp] theorem newVmRow_status (args : InsertArgs) : (newVmRow args).status = .provisioning := by
  simp only [newVmRow]
  split <;> simp

section
variable (vm : VmId) (args : InsertArgs)

theorem inserted (done : insertVmRow vm args s = .ok (s', ())) :
    s.vms vm = none ∧ s' = { s with vms := s.vms.put vm (newVmRow args) } := by
  simp only [insertVmRow] at done
  split at done
  · cases done
  split at done
  · cases done
  · cases done
    exact ⟨by assumption, rfl⟩

theorem inserted_acts (own : vm.drawer = party)
    (safe : Attributable party args.ownerWallet args.paymentTx)
    (done : insertVmRow vm args s = .ok (s', ())) : ActsFor party s s' := by
  obtain ⟨_, rfl⟩ := inserted vm args done
  exact acts_put vm (newVmRow args) own (by simpa using safe) rfl rfl rfl

theorem reserved (done : reservePlannedVm vm args s = .ok (s', ())) :
    s' = s ∨ insertVmRow vm args s = .ok (s', ()) := by
  simp only [reservePlannedVm] at done
  split at done
  · split at done <;> cases done
    exact Or.inl rfl
  · exact Or.inr done

end

theorem activated (vm : VmId) (args : ActivateArgs) (value : Bool)
    (done : activateVmReservation vm args s = .ok (s', value)) :
    (value = false ∧ s' = s ∧ s.vms vm = none) ∨
    (value = true ∧ ∃ row, s.vms vm = some row ∧
      s' = { s with vms := s.vms.put vm (activatedRow row args) }) := by
  simp only [activateVmReservation] at done
  split at done
  · cases done
    exact Or.inl ⟨rfl, rfl, by assumption⟩
  · rename_i row present
    split at done <;> cases done
    exact Or.inr ⟨rfl, row, present, rfl⟩

section
variable (row : VMRow) (args : ActivateArgs)

@[simp] theorem activatedRow_ownerWallet :
    (activatedRow row args).ownerWallet = some args.ownerWallet := by
  simp only [activatedRow]
  split <;> simp

@[simp] theorem activatedRow_paymentTx :
    (activatedRow row args).paymentTx = (args.paymentTx <|> row.paymentTx) := by
  simp only [activatedRow]
  split <;> simp [billed_paymentTx]

@[simp] theorem activatedRow_status :
    (activatedRow row args).status = row.status := by
  simp only [activatedRow]
  split <;> simp

end

theorem activated_acts (vm : VmId) (args : ActivateArgs) (value : Bool) (own : vm.drawer = party)
    (old : OwnRows party s)
    (safe : Attributable party (some args.ownerWallet) args.paymentTx)
    (done : activateVmReservation vm args s = .ok (s', value)) : ActsFor party s s' := by
  rcases activated vm args value done with ⟨_, rfl, _⟩ | ⟨_, row, present, rfl⟩
  · exact actsFor_refl party _
  refine acts_put vm (activatedRow row args) own ?_ rfl rfl rfl
  simp only [activatedRow_ownerWallet, activatedRow_paymentTx]
  refine ⟨safe.1, fun settlement charge => ?_⟩
  cases tx : args.paymentTx with
  | some paid => exact safe.2 settlement (by simpa [tx] using charge)
  | none => exact (old vm row own present).2 settlement (by simpa [tx] using charge)

theorem rebilled_acts (vm : VmId) (row next : VMRow) (own : vm.drawer = party)
    (old : OwnRows party s) (present : s.vms vm = some row)
    (owner : next.ownerWallet = row.ownerWallet) (charge : next.paymentTx = row.paymentTx)
    (rows : s'.vms = s.vms.put vm next) (events : s'.events = s.events)
    (intents : s'.intents = s.intents) : ActsFor party s s' :=
  acts_put vm next own (by rw [owner, charge]; exact old vm row own present) rows events intents

theorem failed_vm (vm : VmId) (done : markVmFailed vm s = .ok (s', ())) :
    (s' = s ∧ ∀ row, s.vms vm = some row → row.status = .destroyed ∨ row.status = .failed) ∨
    ∃ row, s.vms vm = some row ∧ s' = { s with
      vms := s.vms.put vm { row with status := .failed, hasPrefix := false }
      domains := fun fqdn => (s.domains fqdn).map (detachPlanned vm) } := by
  simp only [markVmFailed] at done
  split at done
  · rename_i absent
    cases done
    exact Or.inl ⟨rfl, by simp [absent]⟩
  · rename_i row present
    split at done
    · rename_i terminal
      cases done
      refine Or.inl ⟨rfl, fun other here => ?_⟩
      rw [present] at here
      cases here
      exact terminal
    · cases done
      exact Or.inr ⟨row, present, rfl⟩

theorem started (vm : VmId) (done : startProvisioning vm s = .ok (s', ())) :
    s' = s ∨ ∃ row, s.vms vm = some row ∧
      s' = { s with vms := s.vms.put vm (setHandoff row true) } := by
  simp only [startProvisioning] at done
  split at done
  · cases done; exact Or.inl rfl
  rename_i row present
  split at done <;> cases done
  · exact Or.inr ⟨row, present, rfl⟩
  · exact Or.inl rfl

theorem repriced (vm : VmId) (amount : Usd) (done : persistChargedAmount vm amount s = .ok (s', ())) :
    s' = s ∨ ∃ row, s.vms vm = some row ∧
      s' = { s with vms := s.vms.put vm { row with costTotal := amount } } := by
  simp only [persistChargedAmount] at done
  split at done <;> cases done
  · exact Or.inl rfl
  · exact Or.inr ⟨_, by assumption, rfl⟩

theorem built_attributable (args : OwedArgs) (event : PaymentEventRow)
    (safe : Attributable party args.payer args.originalTx)
    (built : buildOwedEvent args = some event) :
    event.eventType = .refundOwed ∧ Attributable party event.payerWallet event.txHash := by
  simp only [buildOwedEvent] at built
  split at built
  · rename_i payer amount paid _
    split at built <;> cases built
    exact ⟨rfl, by rw [paid] at safe; exact safe⟩
  · cases built

theorem acts_event (event : PaymentEventRow) (rows : s'.vms = s.vms)
    (intents : s'.intents = s.intents) (events : s'.events = s.events ++ [event])
    (owed : event.eventType = .refundOwed)
    (safe : Attributable party event.payerWallet event.txHash) : ActsFor party s s' := by
  refine ⟨fun vm => Or.inl (by rw [rows]), ⟨[event], events, ?_⟩,
    fun intent => Or.inl (by rw [intents])⟩
  intro other member
  rw [List.mem_singleton] at member
  subst member
  exact ⟨owed, safe⟩

theorem recorded_acts (args : OwedArgs) (safe : Attributable party args.payer args.originalTx) :
    ActsFor party s (recordOwed args s) := by
  cases built : buildOwedEvent args with
  | none => simpa only [recordOwed, built] using actsFor_refl party s
  | some event =>
    obtain ⟨owed, own⟩ := built_attributable args event safe built
    simp only [recordOwed, built]
    exact acts_event event rfl rfl rfl owed own

section
variable (intent : IntentId)

theorem acts_intent (row next : CryptoIntentRow)
    (own : party = .intent intent) (present : s.intents intent = some row)
    (succeeds : Succeeds intent row next) (rows : s'.vms = s.vms) (events : s'.events = s.events)
    (intents : s'.intents = s.intents.put intent next) : ActsFor party s s' := by
  refine ⟨fun vm => Or.inl (by rw [rows]), ⟨[], by simp [events], by simp⟩, fun other => ?_⟩
  by_cases same : other = intent
  · subst same
    exact Or.inr ⟨own, row, next, present, by rw [intents, put_same], succeeds⟩
  · exact Or.inl (by rw [intents, put_other _ _ same])

theorem planned_acts (candidate value : VmId)
    (drawn : candidate.drawer = .intent intent)
    (done : persistPlannedVmId intent candidate s = .ok (s', value)) :
    ActsFor (.intent intent) s s' := by
  simp only [persistPlannedVmId] at done
  split at done
  · cases done
  rename_i row present
  split at done <;> cases done
  · exact actsFor_refl _ _
  refine acts_intent intent row { row with vmId := some candidate } rfl present
    ⟨rfl, rfl, rfl, rfl, fun vm planned => ?_⟩ rfl rfl rfl
  cases planned
  exact Or.inr drawn

theorem provisioned_acts (token : Time) (vm : VmId)
    (drawn : vm.drawer = .intent intent)
    (done : markProvisioned intent token vm s = .ok (s', ())) :
    ActsFor (.intent intent) s s' := by
  simp only [markProvisioned] at done
  split at done
  · cases done
  rename_i row present
  split at done <;> cases done
  refine acts_intent intent row { row with vmId := some vm, status := .provisioned } rfl present
    ⟨rfl, rfl, rfl, rfl, fun other planned => ?_⟩ rfl rfl rfl
  cases planned
  exact Or.inr drawn

theorem status_acts (status : IntentStatus)
    (done : setIntentStatus intent status s = .ok (s', ())) : ActsFor (.intent intent) s s' := by
  simp only [setIntentStatus] at done
  split at done <;> cases done
  · exact actsFor_refl _ _
  · rename_i row present
    exact acts_intent intent row { row with status := status } rfl present
      ⟨rfl, rfl, rfl, rfl, fun _ same => Or.inl same⟩ rfl rfl rfl

/-- What `record_native_intent_refund` leaves: the intent in REFUND_MANUAL, and
one more obligation unless there was one. -/
theorem refundedIntent (reason : String) (vm : Option VmId) (now : Time)
    (value : Bool) (done : recordNativeIntentRefund intent reason vm now s = .ok (s', value)) :
    s'.vms = s.vms ∧
    ((s' = s ∧ s.intents intent = none) ∨
      ∃ row, s.intents intent = some row ∧
        s'.intents = s.intents.put intent { row with status := .refundManual } ∧
        ((intentOwed s intent = true ∧ s'.events = s.events) ∨
          (intentOwed s intent = false ∧
            s'.events = s.events ++ (nativeOwedEvent intent row reason vm).toList))) := by
  simp only [recordNativeIntentRefund] at done
  split at done
  · cases done
    exact ⟨rfl, Or.inl ⟨rfl, by assumption⟩⟩
  · rename_i row present
    obtain ⟨rows, events, intents⟩ := failHandedOrder_columns intent row reason now s
    split at done
    · rename_i recorded
      cases done
      refine ⟨rows, Or.inr ⟨row, present, ?_, Or.inl ⟨recorded.2, events⟩⟩⟩
      have same : { row with status := .refundManual } = row := by rw [← recorded.1]
      rw [same, intents]
      funext other
      by_cases here : other = intent
      · subst here; simp [present]
      · simp [put_other _ _ here]
    · split at done
      · rename_i owed
        cases done
        exact ⟨rows, Or.inr ⟨row, present, rfl, Or.inl ⟨owed, events⟩⟩⟩
      · rename_i free
        split at done
        · rename_i event built
          cases done
          exact ⟨rows, Or.inr ⟨row, present, rfl, Or.inr ⟨by simpa using free, by
            simp [addEvent, events, built]⟩⟩⟩
        · rename_i absent
          cases done
          exact ⟨rows, Or.inr ⟨row, present, rfl, Or.inr ⟨by simpa using free, by
            simp [events, absent]⟩⟩⟩

theorem native_attributable (deposit : Option Nat) :
    Attributable (.intent intent) (some (.intent intent)) (deposit.map .native) := by
  constructor
  · intro other same
    cases same
    rfl
  · intro settlement same
    cases deposit <;> simp at same

theorem refundedIntent_acts (reason : String) (vm : Option VmId) (now : Time)
    (value : Bool) (done : recordNativeIntentRefund intent reason vm now s = .ok (s', value)) :
    ActsFor (.intent intent) s s' := by
  obtain ⟨rows, ⟨rfl, _⟩ | ⟨row, present, intents, recorded⟩⟩ :=
    refundedIntent intent reason vm now value done
  · exact actsFor_refl _ _
  · refine ⟨fun vm => Or.inl (by rw [rows]), ?_, fun other => ?_⟩
    · rcases recorded with ⟨_, events⟩ | ⟨_, events⟩
      · exact ⟨[], by simp [events], by simp⟩
      · refine ⟨_, events, fun event member => ?_⟩
        simp only [Option.mem_toList, nativeOwedEvent] at member
        exact built_attributable _ event (native_attributable intent row.txHash) member
    · by_cases same : other = intent
      · subst same
        exact Or.inr ⟨rfl, row, { row with status := .refundManual }, present,
          by rw [intents, put_same], ⟨rfl, rfl, rfl, rfl, fun _ same => Or.inl same⟩⟩
      · exact Or.inl (by rw [intents, put_other _ _ same])

end

theorem refundOrder_columns (id : OrderId) (order next : DomainOrderRow) (code : String)
    (done : refundOrder id order code s = .ok (s', next)) :
    s'.vms = s.vms ∧ s'.intents = s.intents ∧
      (s'.events = s.events ∨ ∃ event, s'.events = s.events ++ [event] ∧
        event.eventType = .refundOwed ∧ event.txHash = order.paymentTx ∧
        (event.payerWallet = some (.order id) ∨ event.payerWallet = order.payer)) := by
  simp only [refundOrder] at done
  split at done
  · cases done
    exact ⟨rfl, rfl, Or.inl rfl⟩
  · split at done
    · cases done
    rename_i event built
    cases done
    refine ⟨rfl, rfl, Or.inr ⟨event, rfl, ?_⟩⟩
    simp only [buildRefundEvent] at built
    split at built
    · rename_i made owed
      cases built
      simp only [buildOwedEvent] at owed
      split at owed
      · rename_i payer amount paid _
        split at owed <;> cases owed
        refine ⟨rfl, rfl, ?_⟩
        split at paid
        · cases paid; exact Or.inl rfl
        · exact Or.inr paid.symm
      · cases owed
    · cases built

theorem refundOrder_acts (id : OrderId) (order next : DomainOrderRow) (code : String)
    (safe : Attributable party order.payer order.paymentTx) (s₀ : Store)
    (rows : s.vms = s₀.vms) (events : s.events = s₀.events) (intents : s.intents = s₀.intents)
    (done : refundOrder id order code s = .ok (s', next)) : ActsFor party s₀ s' := by
  obtain ⟨rows', intents', outcome⟩ := refundOrder_columns id order next code done
  rcases outcome with same | ⟨event, added, owed, charge, payer⟩
  · exact acts_quietly (rows'.trans rows) (same.trans events) (intents'.trans intents)
  refine acts_event event (rows'.trans rows) (intents'.trans intents) (by rw [added, events])
    owed ?_
  refine ⟨fun intent same => ?_, fun settlement same => safe.2 settlement (charge ▸ same)⟩
  rcases payer with ordered | paid
  · rw [ordered] at same
    cases same
  · exact safe.1 intent (paid ▸ same)

theorem markPaid_acts (id : OrderId) (args : MarkArgs) (now : Time) (operation : OperationId)
    (order : DomainOrderRow) (safe : Attributable party (some args.payer) args.txHash)
    (done : markPaid id args now operation false s = .ok (s', order)) : ActsFor party s s' := by
  obtain ⟨row, _, outcome⟩ := markPaid_outcome id args now operation false s s' order done
  cases outcome with
  | revoked _ _ _ written =>
    subst written
    exact acts_quietly rfl rfl rfl
  | refunded code quotes _ refund =>
    refine refundOrder_acts id _ _ _ ?_ s ?_ ?_ ?_ refund
    · exact safe
    all_goals rfl
  | ignored _ same _ =>
    subst same
    exact actsFor_refl _ _
  | queued quotes _ accepted =>
    obtain ⟨_, _, written⟩ := queued_order id _ _ _ _ _ _ accepted
    subst written
    refine acts_quietly ?_ ?_ ?_ <;> rfl

end Sessions

def Acts (party : Drawer) {β : Type} : CheckoutReq β → Prop
  | .reserveVm vm args => vm.drawer = party ∧ Attributable party args.ownerWallet args.paymentTx
  | .insertVm vm args _ => vm.drawer = party ∧ Attributable party args.ownerWallet args.paymentTx
  | .activateVmReservation vm args _ =>
    vm.drawer = party ∧ Attributable party (some args.ownerWallet) args.paymentTx
  | .markVmFailed vm | .startProvisioning vm | .persistChargedAmount vm _ => vm.drawer = party
  | .recordOwed args => Attributable party args.payer args.originalTx
  | .persistPlannedVmId intent vm | .markProvisioned intent _ vm =>
    party = .intent intent ∧ vm.drawer = .intent intent
  | .setIntentStatus intent _ | .recordNativeIntentRefund intent _ _ => party = .intent intent
  | .nativeOrderSettled _ args => Attributable party (some args.payer) args.txHash
  | request => Quiet request

theorem quiet_acts (party : Drawer) (request : CheckoutReq β) (quiet : Quiet request) :
    Acts party request := by
  cases request <;> first | exact quiet | exact quiet.elim

theorem session_touches (worker : Nat) (party : Drawer) (tx : Transaction Store β)
    (w w' : World) (reply : Except Err β) (sound : Sound w) (owns : Owns worker party w)
    (acts : ∀ s' value, tx w.toStore = .ok (s', value) → ActsFor party w.toStore s')
    (ends : SessionEnds w w' reply (onStore tx)) : Touches party w w' := by
  rcases ends with ⟨rfl, _⟩ | ⟨value, done, _⟩
  · exact unseen_touches party _ _ (unseen_refl _ sound)
  · obtain ⟨inner, _, charged, handedBy⟩ := onStore_ok w w' tx value done
    exact actsFor_touches worker party w w' sound owns (acts _ _ inner) charged handedBy

theorem acts_touches (worker : Nat) (party : Drawer) (request : CheckoutReq β)
    (choice : CheckoutChoice) (w w' : World) (reply : Except Err β) (allowed : Acts party request)
    (sound : Sound w) (owns : Owns worker party w)
    (ran : request.exec choice w = some (w', reply)) : Touches party w w' := by
  have old := sound_ownRows party w sound
  have unchanged : Touches party w w :=
    unseen_touches party w w (unseen_refl w sound)
  cases request with
  | reserveVm vm args =>
    rcases refusable_ends _ _ _ _ _ ran with ⟨rfl, _⟩ | ends
    · exact unchanged
    refine session_touches worker party _ w w' reply sound owns (fun s' _ done => ?_) ends
    rcases reserved vm args done with rfl | inserted
    · exact actsFor_refl _ _
    · exact inserted_acts vm args allowed.1 allowed.2 inserted
  | insertVm vm args guarded =>
    rcases waivable_ends _ _ _ _ _ _ ran with ⟨_, rfl, _⟩ | ⟨rfl, _⟩ | ends
    · exact unchanged
    · exact unchanged
    · exact session_touches worker party _ w w' reply sound owns
        (fun s' _ done => inserted_acts vm args allowed.1 allowed.2 done) ends
  | activateVmReservation vm args guarded =>
    rcases waivable_ends _ _ _ _ _ _ ran with ⟨_, rfl, _⟩ | ⟨rfl, _⟩ | ends
    · exact unchanged
    · exact unchanged
    · exact session_touches worker party _ w w' reply sound owns
        (fun s' _ done => activated_acts vm args _ allowed.1 old allowed.2 done) ends
  | markVmFailed vm =>
    refine session_touches worker party _ w w' reply sound owns (fun s' _ done => ?_)
      (committed_ends _ _ _ _ _ ran)
    rcases failed_vm vm done with ⟨rfl, _⟩ | ⟨row, present, rfl⟩
    · exact actsFor_refl _ _
    · exact rebilled_acts vm row { row with status := .failed, hasPrefix := false } allowed old
        present rfl rfl rfl rfl rfl
  | startProvisioning vm =>
    refine session_touches worker party _ w w' reply sound owns (fun s' _ done => ?_)
      (committed_ends _ _ _ _ _ ran)
    rcases started vm done with rfl | ⟨row, present, rfl⟩
    · exact actsFor_refl _ _
    · exact rebilled_acts vm row _ allowed old present (by simp) (by simp) rfl rfl rfl
  | persistChargedAmount vm amount =>
    refine session_touches worker party _ w w' reply sound owns (fun s' _ done => ?_)
      (committed_ends _ _ _ _ _ ran)
    rcases repriced vm amount done with rfl | ⟨row, present, rfl⟩
    · exact actsFor_refl _ _
    · exact rebilled_acts vm row { row with costTotal := amount } allowed old
        present rfl rfl rfl rfl rfl
  | recordOwed args =>
    simp only [CheckoutReq.exec, recordOwedIn] at ran
    split at ran
    · cases ran
      exact unchanged
    · cases ran
      exact actsFor_touches worker party w _ sound owns (recorded_acts args allowed) rfl rfl
    · cases ran
  | persistPlannedVmId intent vm =>
    obtain ⟨rfl, drawn⟩ := allowed
    exact session_touches worker _ _ w w' reply sound owns
      (fun s' _ done => planned_acts intent vm _ drawn done) (committed_ends _ _ _ _ _ ran)
  | markProvisioned intent token vm =>
    obtain ⟨rfl, drawn⟩ := allowed
    exact session_touches worker _ _ w w' reply sound owns
      (fun s' _ done => provisioned_acts intent token vm drawn done)
      (committed_ends _ _ _ _ _ ran)
  | setIntentStatus intent status =>
    obtain rfl := allowed
    exact session_touches worker _ _ w w' reply sound owns
      (fun s' _ done => status_acts intent status done) (committed_ends _ _ _ _ _ ran)
  | recordNativeIntentRefund intent reason vm =>
    obtain rfl := allowed
    obtain ⟨now, ends⟩ := clocked_ends _ _ _ _ _ ran
    exact session_touches worker _ _ w w' reply sound owns
      (fun s' _ done => refundedIntent_acts intent reason vm now _ done) ends
  | nativeOrderSettled order args =>
    simp only [CheckoutReq.exec] at ran
    split at ran
    · simp only [Option.some.injEq] at ran
      exact session_touches worker party _ w w' reply sound owns
        (fun s' _ done => markPaid_acts order args _ _ _ allowed done)
        (transact_ends _ _ _ _ _ ran)
    · cases ran
  | triggerHandoff | checkPayment => exact allowed.elim
  | _ =>
    exact unseen_touches party w w' (quiet_unseen _ choice w w' reply (by exact allowed) sound ran)

end HyruleCloud
