import Mathlib.Data.List.MinMax
import HyruleCloud.Interleaving
import HyruleCloud.IntentEngine

/-!
`create_intent`: the receive address of a Bitcoin intent is derived at one above
the largest index in the table. The maximum is read in one statement and the
row inserted in another, so a caller may be overtaken in between. `current`
records which callers have not been, `overtaken` whether one of them ever
inserted a row.
-/

namespace HyruleCloud

open Interaction Function

abbrev Address := Nat
abbrev ClientOrderId := Nat

/-- A row of `crypto_intents` with the columns that only its creation reads. -/
structure CreatedIntent where
  intentId : IntentId
  row : CryptoIntentRow
  address : Address
  bip32Index : Option Nat := none
  xmrSubaddrIndex : Option Nat := none
  clientOrderId : Option ClientOrderId := none

structure IntentDesk where
  intents : List CreatedIntent
  disabled : AccountId → Bool
  current : Nat → Bool := fun _ => false
  overtaken : Bool := false

/-- The arguments of one call. An empty `client_order_id` counts as none. -/
structure CreateArgs where
  asset : Asset
  orderPayload : Option IntentPayload
  amountUsd : Usd
  clientOrderId : Option ClientOrderId := none
  ownerAccountId : Option AccountId := none
  expiresAt : Option Time := none
  resourceType : ResourceType := .vm
  resourceId : Option OrderId := none
  plannedVmId : Option VmId := none

inductive CreateReq : Type → Type where
  | openAccount (account : AccountId) : CreateReq Unit
  | byClientOrderId (key : ClientOrderId) : CreateReq (Option CreatedIntent)
  | getUsdPer (asset : Asset) : CreateReq Rat
  | clock : CreateReq Time
  | uuid4 : CreateReq IntentId
  | maxBip32Index (caller : Nat) : CreateReq (Option Nat)
  | createXmrSubaddress (intent : IntentId) : CreateReq (Address × Nat)
  /-- `false`: an IntegrityError, rolled back. -/
  | insertIntent (caller : Nat) (created : CreatedIntent) : CreateReq Bool

inductive CreateChoice where
  | commit (fate : Fate)
  | rate (usdPer : Rat)
  | time (now : Time)
  | drawn (intent : IntentId)
  | subaddress (address : Address) (index : Nat)
  | unavailable

def CreatedIntent.btcIndex (created : CreatedIntent) : Option Nat :=
  match created.row.asset with
  | .btc => created.bip32Index
  | .xmr => none

/-- `func.max(CryptoIntentRow.bip32_index)` over the Bitcoin rows -/
def IntentDesk.maxBip32Index (desk : IntentDesk) : Option Nat :=
  (desk.intents.filterMap CreatedIntent.btcIndex).max?

/-- The unique columns of the table: the key, `client_order_id` and
`xmr_subaddr_index`. -/
def CreatedIntent.clashes (created other : CreatedIntent) : Bool :=
  other.intentId == created.intentId ||
    (created.clientOrderId.isSome && other.clientOrderId == created.clientOrderId) ||
    (created.xmrSubaddrIndex.isSome && other.xmrSubaddrIndex == created.xmrSubaddrIndex)

def readMax (caller : Nat) : Transaction IntentDesk (Option Nat) := fun desk =>
  .ok ({ desk with current := update desk.current caller true }, desk.maxBip32Index)

def insertIntent (caller : Nat) (created : CreatedIntent) : Transaction IntentDesk Bool :=
  fun desk =>
    if desk.intents.any created.clashes then .ok (desk, false)
    else match created.row.asset with
      | .xmr => .ok ({ desk with intents := created :: desk.intents }, true)
      | .btc => .ok ({ desk with
          intents := created :: desk.intents
          current := fun _ => false
          overtaken := desk.overtaken || !desk.current caller }, true)

def openAccount (account : AccountId) : Transaction IntentDesk Unit := fun desk =>
  if desk.disabled account then .error .accountDisabled else .ok (desk, ())

def createExec {β : Type} (request : CreateReq β) (choice : CreateChoice) (desk : IntentDesk) :
    Option (IntentDesk × Except Err β) :=
  match request, choice with
  | .openAccount account, .commit fate => some (transact (openAccount account) fate desk)
  | .byClientOrderId key, .commit fate => some (transact
      (fun desk => .ok (desk, desk.intents.find? (·.clientOrderId == some key))) fate desk)
  | .maxBip32Index caller, .commit fate => some (transact (readMax caller) fate desk)
  | .insertIntent caller created, .commit fate =>
    some (transact (insertIntent caller created) fate desk)
  | .getUsdPer _, .rate usdPer => some (desk, .ok usdPer)
  | .getUsdPer _, .unavailable => some (desk, .error (.runtime "rate unavailable"))
  | .clock, .time now => some (desk, .ok now)
  | .uuid4, .drawn intent => some (desk, .ok intent)
  | .createXmrSubaddress _, .subaddress address index => some (desk, .ok (address, index))
  | .createXmrSubaddress _, .unavailable =>
    some (desk, .error (.runtime "monero-wallet-rpc create_address failed"))
  | _, _ => none

abbrev CreateM := Proc CreateReq Err

def intentTtl : Time := 3600
def rateValidTtl : Time := 900

def CreateArgs.row (args : CreateArgs) (rate : Rat) (now : Time) : CryptoIntentRow :=
  let expiresAt := match args.expiresAt with
    | none => now + intentTtl
    | some limit => min (now + intentTtl) limit
  { asset := args.asset
    amountCrypto := quantize12 (args.amountUsd / rate)
    amountUsd := some args.amountUsd
    expiresAt := some expiresAt
    rateValidUntil := some (min (now + rateValidTtl) expiresAt)
    orderPayload := args.orderPayload
    ownerAccountId := args.ownerAccountId
    vmId := args.plannedVmId
    resourceType := args.resourceType
    resourceId := args.resourceId }

/-- `IntentExistsError` carries the earlier row. -/
inductive Created where
  | fresh (created : CreatedIntent)
  | existing (earlier : CreatedIntent)

/-- The commit; whoever loses the race on `client_order_id` gets the winner's row. -/
def commitIntent (caller : Nat) (created : CreatedIntent) : CreateM Created := do
  let inserted ← Proc.perform (.insertIntent caller created)
  if inserted then pure (.fresh created)
  else match created.clientOrderId with
    | none => .raise .database
    | some key => do
      let won ← Proc.perform (.byClientOrderId key)
      match won with
      | some earlier => pure (.existing earlier)
      | none => .raise .database

section
variable (deriveBtcAddress : Nat → Option Address)

/-- The address part of `_create_intent_unfenced`. `derive_btc_address` raises
when no account key is configured. -/
def addressIntent (caller : Nat) (args : CreateArgs) (intent : IntentId) (row : CryptoIntentRow) :
    CreateM Created :=
  match args.asset with
  | .btc => do
    let maxIndex ← Proc.perform (.maxBip32Index caller)
    let index := maxIndex.getD 0 + 1
    match deriveBtcAddress index with
    | none => .raise (.runtime "PAYMENT_BTC_XPUB is empty — BTC payments disabled")
    | some address => commitIntent caller {
        intentId := intent, row := row, address := address
        bip32Index := some index, clientOrderId := args.clientOrderId }
  | .xmr => do
    let (address, index) ← Proc.perform (.createXmrSubaddress intent)
    commitIntent caller {
      intentId := intent, row := row, address := address
      xmrSubaddrIndex := some index, clientOrderId := args.clientOrderId }

def earlierIntent : Option ClientOrderId → CreateM (Option CreatedIntent)
  | none => pure none
  | some key => Proc.perform (.byClientOrderId key)

/-- `native_intent_account_guard`: shared, it excludes no other call. -/
def accountGuard : Option AccountId → CreateM Unit
  | none => pure ()
  | some account => Proc.perform (.openAccount account)

/-- `_create_intent_unfenced` -/
def createIntentUnfenced (caller : Nat) (args : CreateArgs) : CreateM Created := do
  let known ← earlierIntent args.clientOrderId
  match known with
  | some earlier => pure (.existing earlier)
  | none => do
    let rate ← Proc.perform (.getUsdPer args.asset)
    let now ← Proc.perform .clock
    let intent ← Proc.perform .uuid4
    addressIntent deriveBtcAddress caller args intent (args.row rate now)

/-- `create_intent` -/
def createIntent (caller : Nat) (args : CreateArgs) : CreateM Unit := do
  accountGuard args.ownerAccountId
  let _ ← createIntentUnfenced deriveBtcAddress caller args

def createSetting : Setting CreateReq Err IntentDesk CreateChoice where
  exec := createExec
  permits := fun _ _ _ => True
  mayCrash := fun _ _ => True

def creators (calls : Nat → CreateArgs) :
    Workload CreateReq Err IntentDesk CreateChoice (AccountId × Bool) Nat where
  setting := createSetting
  prog := fun caller => createIntent deriveBtcAddress caller (calls caller)
  env := fun (account, flag) desk =>
    { desk with disabled := update desk.disabled account flag }
  mayTick := fun _ _ => True

/-! The invariant: callers that have not been overtaken hold an index above all
others, and an index of an overtaken caller is taken. -/

def Apart (intents : List CreatedIntent) : Prop :=
  intents.Pairwise fun one other => one.row.asset = .btc → other.row.asset = .btc →
    one.bip32Index ≠ other.bip32Index ∧ one.address ≠ other.address

def InUse (desk : IntentDesk) (index : Nat) : Prop :=
  ∃ earlier ∈ desk.intents, earlier.btcIndex = some index

def Derived (created : CreatedIntent) : Prop :=
  created.row.asset = .btc →
    ∃ index, created.bip32Index = some index ∧ deriveBtcAddress index = some created.address

structure Indexed (desk : IntentDesk) : Prop where
  derived : ∀ created ∈ desk.intents, Derived deriveBtcAddress created
  apart : Apart desk.intents ↔ desk.overtaken = false

def HoldsIndex (caller index : Nat) (desk : IntentDesk) : Prop :=
  desk.overtaken = false →
    if desk.current caller then index = desk.maxBip32Index.getD 0 + 1 else InUse desk index

theorem below_max (desk : IntentDesk) (index : Nat) (taken : InUse desk index) :
    index ≤ desk.maxBip32Index.getD 0 := by
  obtain ⟨earlier, member, indexed⟩ := taken
  have listed : index ∈ desk.intents.filterMap CreatedIntent.btcIndex :=
    List.mem_filterMap.mpr ⟨earlier, member, indexed⟩
  exact List.le_max?_getD_of_mem listed

theorem btcIndex_of (created : CreatedIntent) (bitcoin : created.row.asset = .btc) :
    created.btcIndex = created.bip32Index := by
  simp only [CreatedIntent.btcIndex, bitcoin]

theorem insert_apart (injective : ∀ one other address, deriveBtcAddress one = some address →
      deriveBtcAddress other = some address → one = other)
    (desk : IntentDesk) (created : CreatedIntent) (index : Nat)
    (derived : ∀ earlier ∈ desk.intents, Derived deriveBtcAddress earlier)
    (bitcoin : created.row.asset = .btc) (indexed : created.bip32Index = some index)
    (address : deriveBtcAddress index = some created.address) (apart : Apart desk.intents) :
    Apart (created :: desk.intents) ↔ ¬ InUse desk index := by
  simp only [Apart, List.pairwise_cons]
  constructor
  · rintro ⟨fresh, _⟩ ⟨earlier, member, same⟩
    cases asset : earlier.row.asset with
    | xmr => simp [CreatedIntent.btcIndex, asset] at same
    | btc =>
      rw [btcIndex_of earlier asset] at same
      exact (fresh earlier member bitcoin asset).1 (indexed.trans same.symm)
  · intro free
    refine ⟨fun earlier member _ asset => ?_, apart⟩
    obtain ⟨other, indexed', address'⟩ := derived earlier member asset
    have different : index ≠ other := by
      intro same
      exact free ⟨earlier, member, by rw [btcIndex_of earlier asset, indexed', same]⟩
    constructor
    · rw [indexed, indexed']
      exact fun same => different (Option.some.inj same)
    · intro same
      exact different (injective index other created.address address (same ▸ address'))

def callerDuty (caller : Nat) : Duty IntentDesk where
  inv := Indexed deriveBtcAddress
  rely := fun before after => ∀ index, HoldsIndex caller index before → HoldsIndex caller index after
  guar := fun before after => ∀ other, other ≠ caller → ∀ index,
    HoldsIndex other index before → HoldsIndex other index after
  crash := fun _ => True
  rely_refl := fun _ _ pending => pending
  rely_trans := fun first second index pending => second index (first index pending)

def Injective : Prop :=
  ∀ one other address, deriveBtcAddress one = some address →
    deriveBtcAddress other = some address → one = other

def RowReady (caller : Nat) (created : CreatedIntent) (desk : IntentDesk) : Prop :=
  created.row.asset = .btc →
    ∃ index, created.bip32Index = some index ∧
      deriveBtcAddress index = some created.address ∧ HoldsIndex caller index desk

variable {deriveBtcAddress}

theorem xmr_insert (caller : Nat) (desk : IntentDesk) (created : CreatedIntent)
    (valid : Indexed deriveBtcAddress desk) (monero : created.row.asset = .xmr) :
    let after := { desk with intents := created :: desk.intents }
    Indexed deriveBtcAddress after ∧ (callerDuty deriveBtcAddress caller).guar desk after := by
  have unindexed : created.btcIndex = none := by simp only [CreatedIntent.btcIndex, monero]
  refine ⟨⟨?_, ?_⟩, ?_⟩
  · intro other member
    cases member with
    | head => intro bitcoin; simp [monero] at bitcoin
    | tail _ earlier => exact valid.derived other earlier
  · simp only [Apart, List.pairwise_cons]
    refine Iff.trans ⟨fun both => both.2, fun rest => ⟨?_, rest⟩⟩ valid.apart
    intro other _ bitcoin
    simp [monero] at bitcoin
  · intro other _ index pending calm
    have known := pending calm
    simp only [IntentDesk.maxBip32Index, List.filterMap_cons, unindexed] at known ⊢
    split
    · rename_i leading
      simpa only [leading, if_true] using known
    · rename_i behind
      simp only [behind, Bool.false_eq_true, if_false] at known
      obtain ⟨earlier, member, indexed⟩ := known
      exact ⟨earlier, List.mem_cons_of_mem _ member, indexed⟩

/-- A Bitcoin row: the table stays apart exactly when its caller was not
overtaken, and whoever else held the same index finds it taken. -/
theorem btc_insert (injective : Injective deriveBtcAddress) (caller : Nat) (desk : IntentDesk)
    (created : CreatedIntent) (valid : Indexed deriveBtcAddress desk)
    (bitcoin : created.row.asset = .btc)
    (ready : RowReady deriveBtcAddress caller created desk) :
    let after := { desk with
      intents := created :: desk.intents
      current := fun _ => false
      overtaken := desk.overtaken || !desk.current caller }
    Indexed deriveBtcAddress after ∧ (callerDuty deriveBtcAddress caller).guar desk after := by
  obtain ⟨index, indexed, address, pending⟩ := ready bitcoin
  have listed : created.btcIndex = some index := (btcIndex_of created bitcoin).trans indexed
  refine ⟨⟨?_, ?_⟩, ?_⟩
  · intro other member
    cases member with
    | head => exact fun _ => ⟨index, indexed, address⟩
    | tail _ earlier => exact valid.derived other earlier
  · cases before : desk.overtaken with
    | true =>
      have clash : ¬ Apart desk.intents := by simp [valid.apart, before]
      simp only [Bool.true_or, Bool.true_eq_false, iff_false]
      exact fun apart => clash (List.pairwise_cons.mp apart).2
    | false =>
      have known := pending before
      have free := insert_apart deriveBtcAddress injective desk created index valid.derived
        bitcoin indexed address (valid.apart.mpr before)
      cases leading : desk.current caller with
      | true =>
        simp only [leading, if_true] at known
        simp only [Bool.not_true, Bool.or_self, iff_true]
        refine free.mpr fun taken => ?_
        have below := below_max desk index taken
        omega
      | false =>
        simp only [leading, Bool.false_eq_true, if_false] at known
        simp only [Bool.not_false, Bool.or_true, Bool.true_eq_false, iff_false]
        exact fun apart => free.mp apart known
  · intro other _ held pending' calm
    simp only [Bool.or_eq_false_iff, Bool.not_eq_false'] at calm
    have first := pending calm.1
    have second := pending' calm.1
    simp only [calm.2, if_true] at first
    split at second
    · exact ⟨created, List.mem_cons_self, by rw [listed, first, second]⟩
    · obtain ⟨earlier, member, same⟩ := second
      exact ⟨earlier, List.mem_cons_of_mem _ member, same⟩

theorem readMax_step (caller : Nat) (desk : IntentDesk)
    (valid : Indexed deriveBtcAddress desk) :
    let after := { desk with current := update desk.current caller true }
    Indexed deriveBtcAddress after ∧ (callerDuty deriveBtcAddress caller).guar desk after ∧
      HoldsIndex caller (desk.maxBip32Index.getD 0 + 1) after := by
  refine ⟨⟨valid.derived, valid.apart⟩, ?_, ?_⟩
  · intro other different index pending calm
    have known := pending calm
    simp only [update_of_ne different]
    exact known
  · intro _
    simp only [update_self, if_true]
    rfl

/-- Every request but the two that index a row leaves the table alone. -/
def Aloof : {β : Type} → CreateReq β → Prop
  | _, .maxBip32Index _ => False
  | _, .insertIntent _ _ => False
  | _, _ => True

theorem session_unchanged {β : Type} (tx : Transaction IntentDesk β) (fate : Fate)
    (desk after : IntentDesk) (reply : Except Err β)
    (reads : ∀ s' value, tx desk = .ok (s', value) → s' = desk)
    (ran : transact tx fate desk = (after, reply)) : after = desk := by
  rcases transact_ends tx desk after reply fate ran with ⟨same, _⟩ | ⟨value, done, _⟩
  · exact same
  · exact reads after value done

theorem openAccount_reads (account : AccountId) (desk s' : IntentDesk) (value : Unit)
    (done : openAccount account desk = .ok (s', value)) : s' = desk := by
  simp only [openAccount] at done
  split at done
  · cases done
  · cases done
    rfl

theorem aloof_unchanged {β : Type} (request : CreateReq β) (choice : CreateChoice)
    (desk after : IntentDesk) (reply : Except Err β) (aloof : Aloof request)
    (ran : createExec request choice desk = some (after, reply)) : after = desk := by
  cases request with
  | maxBip32Index | insertIntent => exact aloof.elim
  | openAccount account =>
    cases choice with
    | commit fate =>
      exact session_unchanged _ fate desk after reply (openAccount_reads account desk)
        (Option.some.inj ran)
    | _ => cases ran
  | byClientOrderId key =>
    cases choice with
    | commit fate =>
      refine session_unchanged _ fate desk after reply ?_ (Option.some.inj ran)
      intro s' value done
      cases done
      rfl
    | _ => cases ran
  | getUsdPer | createXmrSubaddress => cases choice <;> cases ran <;> rfl
  | clock =>
    cases choice with
    | time now =>
      cases ran
      rfl
    | _ => cases ran
  | uuid4 =>
    cases choice with
    | drawn intent =>
      cases ran
      rfl
    | _ => cases ran

theorem aloof_spec {β : Type} (caller : Nat) (request : CreateReq β) (aloof : Aloof request) :
    Triple createSetting (callerDuty deriveBtcAddress caller) (fun _ => True)
      (Proc.perform request) (fun _ _ => True) := by
  apply triple_perform
  · exact fun _ _ _ _ _ => trivial
  · exact fun _ _ _ _ => trivial
  · intro s choice s' reply valid _ _ ran
    have same := aloof_unchanged request choice s s' reply aloof ran
    subst same
    exact ⟨valid, fun _ _ _ pending => pending, trivial⟩

theorem readMax_spec (caller : Nat) :
    Triple createSetting (callerDuty deriveBtcAddress caller) (fun _ => True)
      (Proc.perform (.maxBip32Index caller))
      (outcome (fun maxIndex => HoldsIndex caller (maxIndex.getD 0 + 1)) fun _ _ => True) := by
  apply triple_perform
  · exact fun _ _ _ _ _ => trivial
  · exact fun _ _ _ _ => trivial
  · intro s choice s' reply valid _ _ ran
    cases choice with
    | commit fate =>
      have stepped := readMax_step caller s valid
      rcases transact_ends (readMax caller) s s' reply fate (Option.some.inj ran) with
        ⟨same, error, failed, _⟩ | ⟨value, done, answered⟩
      · subst same failed
        exact ⟨valid, fun _ _ _ pending => pending, trivial⟩
      · cases done
        refine ⟨stepped.1, stepped.2.1, ?_⟩
        rcases answered with read | lost
        · subst read
          exact stepped.2.2
        · subst lost
          trivial
    | _ => cases ran

section
variable (injective : Injective deriveBtcAddress)
include injective

theorem insertIntent_spec (caller : Nat)
    (created : CreatedIntent) :
    Triple createSetting (callerDuty deriveBtcAddress caller)
      (RowReady deriveBtcAddress caller created)
      (Proc.perform (.insertIntent caller created)) (fun _ _ => True) := by
  apply triple_perform
  · intro s s' ready moved _ bitcoin
    obtain ⟨index, indexed, address, pending⟩ := ready bitcoin
    exact ⟨index, indexed, address, moved index pending⟩
  · exact fun _ _ _ _ => trivial
  · intro s choice s' reply valid ready _ ran
    cases choice with
    | commit fate =>
      rcases transact_ends _ s s' reply fate (Option.some.inj ran) with
        ⟨same, _⟩ | ⟨value, done, _⟩
      · subst same
        exact ⟨valid, fun _ _ _ pending => pending, trivial⟩
      · simp only [insertIntent] at done
        split at done
        · cases done
          exact ⟨valid, fun _ _ _ pending => pending, trivial⟩
        · cases asset : created.row.asset with
          | xmr =>
            simp only [asset] at done
            cases done
            have kept := xmr_insert caller s created
              valid asset
            exact ⟨kept.1, kept.2, trivial⟩
          | btc =>
            simp only [asset] at done
            cases done
            have kept := btc_insert injective caller s created valid asset ready
            exact ⟨kept.1, kept.2, trivial⟩
    | _ => cases ran

theorem commitIntent_spec (caller : Nat)
    (created : CreatedIntent) :
    Triple createSetting (callerDuty deriveBtcAddress caller)
      (RowReady deriveBtcAddress caller created) (commitIntent caller created)
      (fun _ _ => True) := by
  refine triple_bind (insertIntent_spec injective caller created) ?_ fun _ _ _ _ => trivial
  intro inserted
  cases inserted with
  | true => exact triple_ret _ fun _ _ _ => trivial
  | false =>
    cases created.clientOrderId with
    | none => exact triple_raise _ fun _ _ _ => trivial
    | some key =>
      refine triple_bind (aloof_spec caller _ trivial) ?_ fun _ _ _ _ => trivial
      intro won
      cases won with
      | none => exact triple_raise _ fun _ _ _ => trivial
      | some earlier => exact triple_ret _ fun _ _ _ => trivial

theorem addressIntent_spec (caller : Nat)
    (args : CreateArgs) (intent : IntentId) (row : CryptoIntentRow)
    (same : row.asset = args.asset) :
    Triple createSetting (callerDuty deriveBtcAddress caller) (fun _ => True)
      (addressIntent deriveBtcAddress caller args intent row) (fun _ _ => True) := by
  simp only [addressIntent]
  cases asset : args.asset with
  | btc =>
    refine triple_bind (readMax_spec caller) ?_ fun _ _ _ _ => trivial
    intro maxIndex
    cases derived : deriveBtcAddress (maxIndex.getD 0 + 1) with
    | none => exact triple_raise _ fun _ _ _ => trivial
    | some address =>
      refine triple_weaken (commitIntent_spec injective caller _) ?_ fun _ _ _ _ => trivial
      intro s _ pending _
      exact ⟨_, rfl, derived, pending⟩
  | xmr =>
    refine triple_bind (aloof_spec caller _ trivial) ?_ fun _ _ _ _ => trivial
    rintro ⟨address, index⟩
    refine triple_weaken (commitIntent_spec injective caller _) ?_ fun _ _ _ _ => trivial
    intro s _ _ bitcoin
    rw [show row.asset = .xmr from same.trans asset] at bitcoin
    cases bitcoin

theorem createIntentUnfenced_spec (caller : Nat)
    (args : CreateArgs) :
    Triple createSetting (callerDuty deriveBtcAddress caller) (fun _ => True)
      (createIntentUnfenced deriveBtcAddress caller args) (fun _ _ => True) := by
  have lookup : Triple createSetting (callerDuty deriveBtcAddress caller) (fun _ => True)
      (earlierIntent args.clientOrderId) (fun _ _ => True) := by
    cases args.clientOrderId with
    | none => exact triple_ret _ fun _ _ _ => trivial
    | some key => exact aloof_spec caller _ trivial
  refine triple_bind lookup ?_ fun _ _ _ _ => trivial
  intro known
  cases known with
  | some earlier => exact triple_ret _ fun _ _ _ => trivial
  | none =>
    refine triple_bind (aloof_spec caller _ trivial) ?_ fun _ _ _ _ => trivial
    intro rate
    refine triple_bind (aloof_spec caller _ trivial) ?_ fun _ _ _ _ => trivial
    intro now
    refine triple_bind (aloof_spec caller _ trivial) ?_ fun _ _ _ _ => trivial
    intro intent
    exact addressIntent_spec injective caller args intent _ rfl

theorem createIntent_spec (caller : Nat)
    (args : CreateArgs) :
    Triple createSetting (callerDuty deriveBtcAddress caller) (fun _ => True)
      (createIntent deriveBtcAddress caller args) (fun _ _ => True) := by
  have guarded : Triple createSetting (callerDuty deriveBtcAddress caller) (fun _ => True)
      (accountGuard args.ownerAccountId) (fun _ _ => True) := by
    cases args.ownerAccountId with
    | none => exact triple_ret _ fun _ _ _ => trivial
    | some account => exact aloof_spec caller _ trivial
  refine triple_bind guarded ?_ fun _ _ _ _ => trivial
  intro _
  exact triple_bind (createIntentUnfenced_spec injective caller args)
    (fun _ => triple_ret _ fun _ _ _ => trivial) fun _ _ _ _ => trivial

theorem creators_composable (calls : Nat → CreateArgs) :
    Composable (W := creators deriveBtcAddress calls) (Indexed deriveBtcAddress)
      (callerDuty deriveBtcAddress) (fun _ _ => True) (fun _ _ _ => True) where
  shared := fun _ _ => Iff.rfl
  starts := fun caller => createIntent_spec injective caller (calls caller)
  idle := fun _ _ _ _ _ _ => trivial
  done := fun _ _ _ _ _ _ _ => trivial
  dead := fun _ _ _ _ _ _ => trivial
  compatible := fun _ other _ _ different _ _ stepped =>
    stepped other (Ne.symm different)
  ticks := fun _ _ valid _ => ⟨⟨valid.derived, valid.apart⟩, fun _ _ pending => pending⟩

/-- However the calls interleave, Bitcoin intents keep distinct indexes and
addresses exactly as long as no call inserts its row after another Bitcoin
intent was committed since it read the maximum. -/
theorem btc_intents_apart (calls : Nat → CreateArgs)
    (desk : IntentDesk) (schedule : List (Action Nat CreateChoice (AccountId × Bool)))
    (derived : ∀ created ∈ desk.intents, Derived deriveBtcAddress created)
    (apart : Apart desk.intents) (start : desk.overtaken = false) :
    let final := (run (creators deriveBtcAddress calls) ⟨desk, fun _ => .idle⟩ schedule).shared
    Apart final.intents ↔ final.overtaken = false := by
  have admitted := runAdmitted_free (creators deriveBtcAddress calls) (fun _ _ _ => trivial)
    (fun _ _ => trivial) schedule (fun _ _ _ => trivial) ⟨desk, fun _ => .idle⟩
  have safe := run_safe (creators_composable injective calls) schedule ⟨desk, fun _ => .idle⟩
    ⟨⟨derived, iff_of_true apart start⟩, fun _ => trivial⟩ admitted
  exact safe.1.apart

end

end

instance (intents : List CreatedIntent) : Decidable (Apart intents) :=
  inferInstanceAs (Decidable (List.Pairwise _ _))

def anonymousBtc : CreateArgs where
  asset := .btc
  orderPayload := none
  amountUsd := 100

def askedBy (caller : Nat) : List (Action Nat CreateChoice (AccountId × Bool)) :=
  [.step caller (.rate 50000), .step caller (.time 0), .step caller (.drawn caller),
    .step caller (.commit .done)]

def emptyDesk : IntentDesk where
  intents := []
  disabled := fun _ => false

def crossedCalls : List (Action Nat CreateChoice (AccountId × Bool)) :=
  [.start 0, .start 1] ++ askedBy 0 ++ askedBy 1 ++
    [.step 0 (.commit .done), .step 1 (.commit .done)]

theorem crossed_calls_share_address :
    ¬ ∀ (deriveBtcAddress : Nat → Option Address), Injective deriveBtcAddress →
      ∀ (calls : Nat → CreateArgs) (desk : IntentDesk)
        (schedule : List (Action Nat CreateChoice (AccountId × Bool))),
      (∀ created ∈ desk.intents, Derived deriveBtcAddress created) → Apart desk.intents →
      desk.overtaken = false →
      Apart (run (creators deriveBtcAddress calls) ⟨desk, fun _ => .idle⟩
        schedule).shared.intents := by
  intro claim
  have apart := claim some (fun _ _ _ one other => (Option.some.inj one).trans
    (Option.some.inj other).symm) (fun _ => anonymousBtc) emptyDesk crossedCalls
    (by simp [emptyDesk]) (by decide) rfl
  revert apart
  decide +kernel

def queuedCalls : List (Action Nat CreateChoice (AccountId × Bool)) :=
  [.start 0, .start 1] ++ askedBy 0 ++ [.step 0 (.commit .done)] ++ askedBy 1 ++
    [.step 1 (.commit .done)]

theorem queued_calls_apart :
    Apart (run (creators some fun _ => anonymousBtc) ⟨emptyDesk, fun _ => .idle⟩
      queuedCalls).shared.intents := by
  have law := @btc_intents_apart some
    (fun _ _ _ one other => (Option.some.inj one).trans (Option.some.inj other).symm)
    (fun _ => anonymousBtc) emptyDesk queuedCalls (by simp [emptyDesk]) (by decide) rfl
  exact law.mpr (by decide +kernel)

end HyruleCloud
