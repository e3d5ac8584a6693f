import HyruleCloud.Interleaving
import HyruleCloud.ChainScan

/-!
`record_native_intent_refund` statement by statement. The session reads the
intent, looks for an earlier obligation and the domain order, and commits what
it has decided; no row is locked in between. `checked` records the callers whose
look at the ledger is still accurate, `doubled` whether an obligation was ever
committed on a stale look.
-/

namespace HyruleCloud

open Interaction

structure RefundDesk extends Store where
  checked : Nat → Bool := fun _ => false
  doubled : Bool := false

/-- The writes of the session: the columns of a stranded domain order, the
status of the intent if it has to change, and the new obligation. -/
structure RefundWrite where
  order : Option OrderId
  flips : Bool
  event : Option PaymentEventRow

inductive RefundReq : Type → Type where
  | getIntent : RefundReq (Option CryptoIntentRow)
  | alreadyOwed (caller : Nat) : RefundReq Bool
  | getOrder (order : OrderId) : RefundReq (Option DomainOrderRow)
  | commit (caller : Nat) (row : CryptoIntentRow) (reason : String) (write : RefundWrite) :
      RefundReq Unit

inductive RefundChoice where
  | read (answered : Bool)
  | commit (now : Time) (fate : Fate)

section
variable (intent : IntentId)

def refundedOrder (row : CryptoIntentRow) (reason : String) (now : Time)
    (order : DomainOrderRow) : DomainOrderRow :=
  { order with
    status := .refundDue
    paidAt := row.paidAt <|> some now
    payer := some (.intent intent)
    paymentTx := row.txHash.map .native
    paymentNetwork := some "native"
    paymentAsset := some (match row.asset with | .btc => "BTC" | .xmr => "XMR")
    errorCode := some reason }

def writeOrder (row : CryptoIntentRow) (reason : String) (now : Time) (id : OrderId)
    (s : Store) : Store :=
  match s.orders id with
  | some order => { s with orders := s.orders.put id (refundedOrder intent row reason now order) }
  | none => s

def flipIntent (s : Store) : Store :=
  match s.intents intent with
  | some row => { s with intents := s.intents.put intent { row with status := .refundManual } }
  | none => s

def commitRefund (caller : Nat) (row : CryptoIntentRow) (reason : String) (write : RefundWrite)
    (now : Time) : Transaction RefundDesk Unit := fun desk =>
  let handed := match write.order with
    | some id => writeOrder intent row reason now id desk.toStore
    | none => desk.toStore
  let flipped := if write.flips then flipIntent intent handed else handed
  match write.event with
  | none => .ok ({ desk with toStore := flipped }, ())
  | some event => .ok ({ desk with
      toStore := addEvent event flipped
      checked := fun _ => false
      doubled := desk.doubled || !desk.checked caller }, ())

def refundExec {β : Type} (request : RefundReq β) (choice : RefundChoice) (desk : RefundDesk) :
    Option (RefundDesk × Except Err β) :=
  match request, choice with
  | .getIntent, .read true => some (desk, .ok (desk.intents intent))
  | .getIntent, .read false => some (desk, .error .database)
  | .alreadyOwed caller, .read true =>
    some ({ desk with checked := Function.update desk.checked caller true },
      .ok (intentOwed desk.toStore intent))
  | .alreadyOwed _, .read false => some (desk, .error .database)
  | .getOrder id, .read true => some (desk, .ok (desk.orders id))
  | .getOrder _, .read false => some (desk, .error .database)
  | .commit caller row reason write, .commit now fate =>
    some (transact (commitRefund intent caller row reason write now) fate desk)
  | _, _ => none

abbrev RefundM := Proc RefundReq Err

/-- The order that the session marks `refund_due`: the one of the intent, while
it still waits for payment. -/
def strandedOrder (row : CryptoIntentRow) : RefundM (Option OrderId) :=
  match row.resourceType, row.resourceId with
  | .domainOrder, some id => do
    let order ← Proc.perform (.getOrder id)
    match order with
    | some order => pure (if order.status = .awaitingPayment then some id else none)
    | none => pure none
  | _, _ => pure none

/-- `record_native_intent_refund` -/
def recordIntentRefund (caller : Nat) (reason : String) (vm : Option VmId) : RefundM Bool := do
  let found ← Proc.perform .getIntent
  match found with
  | none => pure false
  | some row => do
    let already ← Proc.perform (.alreadyOwed caller)
    let order ← strandedOrder row
    if row.status = .refundManual ∧ already then do
      if order.isSome then
        Proc.perform (.commit caller row reason { order := order, flips := false, event := none })
      pure false
    else do
      Proc.perform (.commit caller row reason {
        order := order
        flips := decide (row.status ≠ .refundManual)
        event := if already then none else nativeOwedEvent intent row reason vm })
      pure true

def refundSetting : Setting RefundReq Err RefundDesk RefundChoice where
  exec := refundExec intent
  permits := fun _ _ _ => True
  mayCrash := fun _ _ => True

/-- What other parties may do meanwhile: anything but to this intent's
obligations, its price, or its status once it is `refund_manual`. -/
structure Unrelated (s s' : Store) : Prop where
  owed : owed s' (.native intent) = owed s (.native intent)
  absent : s.intents intent = none → s'.intents intent = none
  kept : ∀ row, s.intents intent = some row → ∃ row', s'.intents intent = some row' ∧
    row'.amountUsd = row.amountUsd ∧ (row.status = .refundManual → row'.status = .refundManual)

def refunders (calls : Nat → String × Option VmId) :
    Workload RefundReq Err RefundDesk RefundChoice Store Nat where
  setting := refundSetting intent
  prog := fun caller => do
    let _ ← recordIntentRefund intent caller (calls caller).1 (calls caller).2
  env := fun s desk => { desk with toStore := s }
  mayTick := fun s desk => Unrelated intent desk.toStore s

def Obligated (s : Store) : Prop :=
  s.intents intent = none ∨ ∃ row, s.intents intent = some row ∧ row.status = .refundManual ∧
    (Priced row → 1 ≤ owed s (.native intent))

def SawNone (caller : Nat) (desk : RefundDesk) : Prop :=
  desk.doubled = false →
    if desk.checked caller then owed desk.toStore (.native intent) = 0
    else 1 ≤ owed desk.toStore (.native intent)

def SingleOwed (desk : RefundDesk) : Prop :=
  owed desk.toStore (.native intent) ≤ 1 ↔ desk.doubled = false

/-- The row of an intent goes nowhere but to `refund_manual`, and obligations
are never withdrawn. -/
structure Onward (s s' : Store) : Prop where
  owed : owed s (.native intent) ≤ owed s' (.native intent)
  absent : s.intents intent = none → s'.intents intent = none
  kept : ∀ row, s.intents intent = some row → ∃ row', s'.intents intent = some row' ∧
    row'.amountUsd = row.amountUsd ∧ (row.status = .refundManual → row'.status = .refundManual)

variable {intent}

theorem Onward.refl (s : Store) : Onward intent s s :=
  ⟨Nat.le_refl _, fun absent => absent, fun row found => ⟨row, found, rfl, fun same => same⟩⟩

theorem Onward.trans {a b c : Store} (first : Onward intent a b) (second : Onward intent b c) :
    Onward intent a c where
  owed := Nat.le_trans first.owed second.owed
  absent := fun absent => second.absent (first.absent absent)
  kept := by
    intro row found
    obtain ⟨middle, reached, price, manual⟩ := first.kept row found
    obtain ⟨last, final, price', manual'⟩ := second.kept middle reached
    exact ⟨last, final, price'.trans price, fun same => manual' (manual same)⟩

theorem obligated_onward {s s' : Store} (onward : Onward intent s s')
    (obligated : Obligated intent s) : Obligated intent s' := by
  rcases obligated with absent | ⟨row, found, manual, owes⟩
  · exact Or.inl (onward.absent absent)
  obtain ⟨row', found', price, stays⟩ := onward.kept row found
  refine Or.inr ⟨row', found', stays manual, fun priced => ?_⟩
  have before : Priced row := by simpa only [Priced, price] using priced
  exact Nat.le_trans (owes before) onward.owed

theorem unrelated_onward {s s' : Store} (unrelated : Unrelated intent s s') :
    Onward intent s s' :=
  ⟨Nat.le_of_eq unrelated.owed.symm, unrelated.absent, unrelated.kept⟩

theorem nativeOwed_refunds (row : CryptoIntentRow) (reason : String) (vm : Option VmId)
    (event : PaymentEventRow) (built : nativeOwedEvent intent row reason vm = some event) :
    event.refunds (.native intent) = true := by
  simp only [nativeOwedEvent, buildOwedEvent] at built
  split at built
  · rename_i payer amount same _
    cases same
    split at built
    · cases built
    · cases built
      simp [PaymentEventRow.refunds]
  · cases built

theorem writeOrder_frame (row : CryptoIntentRow) (reason : String) (now : Time) (id : OrderId)
    (s : Store) : (writeOrder intent row reason now id s).intents = s.intents ∧
      (writeOrder intent row reason now id s).events = s.events := by
  simp only [writeOrder]
  split <;> exact ⟨rfl, rfl⟩

theorem flipIntent_row (s : Store) : (flipIntent intent s).events = s.events ∧
    (flipIntent intent s).intents intent =
      (s.intents intent).map fun row => { row with status := .refundManual } := by
  simp only [flipIntent]
  split
  · rename_i row found
    exact ⟨rfl, by simp [found]⟩
  · rename_i absent
    exact ⟨rfl, by simp [absent]⟩

theorem commitRefund_effect (caller : Nat) (row : CryptoIntentRow) (reason : String)
    (write : RefundWrite) (now : Time) (desk after : RefundDesk)
    (names : ∀ event, write.event = some event → event.refunds (.native intent) = true)
    (done : commitRefund intent caller row reason write now desk = .ok (after, ())) :
    after.intents intent = (if write.flips then
        (desk.intents intent).map fun row => { row with status := .refundManual }
      else desk.intents intent) ∧
    owed after.toStore (.native intent) =
      owed desk.toStore (.native intent) + (if write.event.isSome then 1 else 0) ∧
    after.checked = (if write.event.isSome then fun _ => false else desk.checked) ∧
    after.doubled = (desk.doubled || (write.event.isSome && !desk.checked caller)) := by
  let handed := match write.order with
    | some id => writeOrder intent row reason now id desk.toStore
    | none => desk.toStore
  have kept : handed.intents = desk.intents ∧ handed.events = desk.events := by
    simp only [handed]
    split
    · exact writeOrder_frame row reason now _ desk.toStore
    · exact ⟨rfl, rfl⟩
  let flipped := if write.flips then flipIntent intent handed else handed
  have turned : flipped.events = desk.events ∧ flipped.intents intent = (if write.flips then
        (desk.intents intent).map fun row => { row with status := .refundManual }
      else desk.intents intent) := by
    simp only [flipped]
    split
    · rw [← kept.1, ← kept.2]
      exact flipIntent_row handed
    · exact ⟨kept.2, congrFun kept.1 intent⟩
  have same : owed flipped (.native intent) = owed desk.toStore (.native intent) := by
    simp only [owed, turned.1]
  simp only [commitRefund] at done
  cases new : write.event with
  | none =>
    simp only [new] at done
    cases done
    exact ⟨turned.2, by simpa using same, by simp, by simp⟩
  | some event =>
    simp only [new] at done
    cases done
    refine ⟨turned.2, ?_, by simp, by simp⟩
    rw [owed_addEvent, names event new]
    simpa using same

variable (intent) in
def refundDuty (caller : Nat) : Duty RefundDesk where
  inv := SingleOwed intent
  rely := fun a b => Onward intent a.toStore b.toStore ∧
    (SawNone intent caller a → SawNone intent caller b)
  guar := fun a b => Onward intent a.toStore b.toStore ∧
    ∀ other, other ≠ caller → SawNone intent other a → SawNone intent other b
  crash := fun _ => True
  rely_refl := fun _ => ⟨Onward.refl _, fun saw => saw⟩
  rely_trans := fun first second =>
    ⟨first.1.trans second.1, fun saw => second.2 (first.2 saw)⟩

variable (intent) in
/-- The intent still is what the session read, or was since refunded. -/
def Known (row : CryptoIntentRow) (desk : RefundDesk) : Prop :=
  ∃ row', desk.intents intent = some row' ∧ row'.amountUsd = row.amountUsd ∧
    (row.status = .refundManual → row'.status = .refundManual)

variable (intent) in
def Looked (caller : Nat) (row : CryptoIntentRow) (already : Bool) (desk : RefundDesk) : Prop :=
  Known intent row desk ∧
    (already = true → 1 ≤ owed desk.toStore (.native intent)) ∧
    (already = false → SawNone intent caller desk)

section
variable (caller : Nat) (row : CryptoIntentRow)

theorem known_stable :
    Stable (refundDuty intent caller) (Known intent row) := by
  rintro s s' ⟨current, found, price, manual⟩ ⟨onward, _⟩ _
  obtain ⟨next, found', price', manual'⟩ := onward.kept current found
  exact ⟨next, found', price'.trans price, fun same => manual' (manual same)⟩

theorem looked_stable (already : Bool) :
    Stable (refundDuty intent caller) (Looked intent caller row already) := by
  rintro s s' ⟨known, owes, saw⟩ moved valid
  exact ⟨known_stable caller row s s' known moved valid,
    fun same => Nat.le_trans (owes same) moved.1.owed, fun same => moved.2 (saw same)⟩

/-- A commit of a caller whose look is stale shows in `doubled`; any other
leaves at most one obligation. -/
theorem commit_step (reason : String)
    (write : RefundWrite) (now : Time) (desk after : RefundDesk)
    (names : ∀ event, write.event = some event → event.refunds (.native intent) = true)
    (valid : SingleOwed intent desk) (saw : write.event.isSome → SawNone intent caller desk)
    (done : commitRefund intent caller row reason write now desk = .ok (after, ())) :
    SingleOwed intent after ∧ (refundDuty intent caller).guar desk after := by
  obtain ⟨rows, count, looks, flag⟩ :=
    commitRefund_effect caller row reason write now desk after names done
  refine ⟨?_, ⟨by omega, ?_, ?_⟩, ?_⟩
  · cases new : write.event with
    | none => simpa [SingleOwed, count, flag, new] using valid
    | some event =>
      have clean := saw (by simp [new])
      simp only [SingleOwed, count, flag, Bool.or_eq_false_iff]
      simp only [SawNone] at clean
      simp only [SingleOwed] at valid
      cases before : desk.doubled with
      | true => simp_all; omega
      | false =>
        cases checked : desk.checked caller with
        | true => simp_all
        | false => simp_all; omega
  · intro absent
    rw [rows]
    split <;> simp [absent]
  · intro old found
    rw [rows]
    split
    · exact ⟨{ old with status := .refundManual }, by simp [found], rfl, fun _ => rfl⟩
    · exact ⟨old, found, rfl, fun same => same⟩
  · intro other _ before calm
    rw [flag] at calm
    simp only [Bool.or_eq_false_iff] at calm
    have known := before calm.1
    rw [looks, count]
    cases new : write.event with
    | none => simpa [new] using known
    | some event => simp

end

abbrev RefundTriple {α : Type} (intent : IntentId) (caller : Nat) (pre : RefundDesk → Prop)
    (p : RefundM α) (post : Except Err α → RefundDesk → Prop) : Prop :=
  Triple (refundSetting intent) (refundDuty intent caller) pre p post

section
variable (caller : Nat)

theorem getIntent_spec :
    RefundTriple intent caller (fun _ => True) (Proc.perform .getIntent)
      (outcome (fun found desk => match found with
        | none => Obligated intent desk.toStore
        | some row => Known intent row desk) fun _ _ => True) := by
  apply triple_perform
  · exact fun _ _ _ _ _ => trivial
  · exact fun _ _ _ _ => trivial
  · intro s choice s' reply valid _ _ ran
    cases choice with
    | commit now fate => cases ran
    | read answered =>
      cases answered with
      | false =>
        cases ran
        exact ⟨valid, ⟨Onward.refl s.toStore, fun _ _ saw => saw⟩, trivial⟩
      | true =>
        cases ran
        refine ⟨valid, ⟨Onward.refl s.toStore, fun _ _ saw => saw⟩, ?_⟩
        cases found : s.intents intent with
        | none => exact Or.inl found
        | some row => exact ⟨row, found, rfl, fun same => same⟩

theorem alreadyOwed_spec (row : CryptoIntentRow) :
    RefundTriple intent caller (Known intent row) (Proc.perform (.alreadyOwed caller))
      (outcome (fun already => Looked intent caller row already) fun _ _ => True) := by
  apply triple_perform
  · exact known_stable caller row
  · exact fun _ _ _ _ => trivial
  · intro s choice s' reply valid known _ ran
    cases choice with
    | commit now fate => cases ran
    | read answered =>
      cases answered with
      | false =>
        cases ran
        exact ⟨valid, ⟨Onward.refl s.toStore, fun _ _ saw => saw⟩, trivial⟩
      | true =>
        cases ran
        refine ⟨valid, ⟨Onward.refl s.toStore, ?_⟩, known, (intentOwed_iff _ _).mp, ?_⟩
        · intro other different saw calm
          simpa only [Function.update_of_ne different] using saw calm
        · intro missing _
          have absent := mt (intentOwed_iff s.toStore intent).mpr (ne_true_of_eq_false missing)
          simp only [Function.update_self, if_true]
          omega

theorem getOrder_spec (row : CryptoIntentRow) (already : Bool) (id : OrderId) :
    RefundTriple intent caller (Looked intent caller row already) (Proc.perform (.getOrder id))
      (outcome (fun _ => Looked intent caller row already) fun _ _ => True) := by
  apply triple_perform
  · exact looked_stable caller row already
  · exact fun _ _ _ _ => trivial
  · intro s choice s' reply valid looked _ ran
    cases choice with
    | commit now fate => cases ran
    | read answered =>
      cases answered with
      | false =>
        cases ran
        exact ⟨valid, ⟨Onward.refl s.toStore, fun _ _ saw => saw⟩, trivial⟩
      | true =>
        cases ran
        exact ⟨valid, ⟨Onward.refl s.toStore, fun _ _ saw => saw⟩, looked⟩

theorem strandedOrder_spec (row : CryptoIntentRow) (already : Bool) :
    RefundTriple intent caller (Looked intent caller row already) (strandedOrder row)
      (outcome (fun _ => Looked intent caller row already) fun _ _ => True) := by
  have kept : ∀ value : Option OrderId, RefundTriple intent caller
      (Looked intent caller row already) (pure value)
      (outcome (fun _ => Looked intent caller row already) fun _ _ => True) :=
    fun value => triple_ret _ fun _ _ looked => looked
  simp only [strandedOrder]
  split
  · rename_i id _ _
    refine triple_bind (getOrder_spec caller row already id) ?_ fun _ _ _ _ => trivial
    intro order
    cases order with
    | none | some => exact kept _
  · exact kept _

theorem commit_spec (row : CryptoIntentRow) (reason : String) (already : Bool)
    (write : RefundWrite)
    (names : ∀ event, write.event = some event → event.refunds (.native intent) = true)
    (absent : write.event.isSome → already = false)
    (flips : row.status = .refundManual ∨ write.flips = true)
    (owes : Priced row → already = true ∨ write.event.isSome = true) :
    RefundTriple intent caller (Looked intent caller row already)
      (Proc.perform (.commit caller row reason write))
      (outcome (fun _ desk => Obligated intent desk.toStore) fun _ _ => True) := by
  apply triple_perform
  · exact looked_stable caller row already
  · exact fun _ _ _ _ => trivial
  · intro s choice s' reply valid looked _ ran
    cases choice with
    | read answered => cases ran
    | commit now fate =>
      rcases transact_ends _ s s' reply fate (Option.some.inj ran) with
        ⟨same, error, failed, _⟩ | ⟨_, done, answered⟩
      · subst same failed
        exact ⟨valid, ⟨Onward.refl s'.toStore, fun _ _ saw => saw⟩, trivial⟩
      · obtain ⟨single, stepped⟩ := commit_step caller row reason write now s s' names valid
          (fun new => looked.2.2 (absent new)) done
        refine ⟨single, stepped, ?_⟩
        rcases answered with acknowledged | lost
        · subst acknowledged
          obtain ⟨⟨current, found, price, manual⟩, earlier, _⟩ := looked
          obtain ⟨rows, count, _⟩ :=
            commitRefund_effect caller row reason write now s s' names done
          have enough : Priced row → 1 ≤ owed s'.toStore (.native intent) := by
            intro priced
            rcases owes priced with before | new
            · have known := earlier before
              omega
            · rw [count, new]
              simp
          by_cases turns : write.flips = true
          · refine Or.inr ⟨{ current with status := .refundManual }, ?_, rfl, ?_⟩
            · rw [rows, if_pos turns, found]
              rfl
            · exact fun priced => enough (by simpa only [Priced, price] using priced)
          · refine Or.inr ⟨current, ?_, manual (flips.resolve_right turns), ?_⟩
            · rw [rows, if_neg turns, found]
            · exact fun priced => enough (by simpa only [Priced, price] using priced)
        · subst lost
          trivial

theorem recordIntentRefund_spec (reason : String) (vm : Option VmId) :
    RefundTriple intent caller (fun _ => True) (recordIntentRefund intent caller reason vm)
      (outcome (fun _ desk => Obligated intent desk.toStore) fun _ _ => True) := by
  refine triple_bind (getIntent_spec caller) ?_ fun _ _ _ _ => trivial
  intro found
  cases found with
  | none => exact triple_ret _ fun _ _ obligated => obligated
  | some row =>
    refine triple_bind (alreadyOwed_spec caller row) ?_ fun _ _ _ _ => trivial
    intro already
    refine triple_bind (strandedOrder_spec caller row already) ?_ fun _ _ _ _ => trivial
    intro order
    by_cases recorded : row.status = .refundManual ∧ already = true
    · obtain ⟨manual, present⟩ := recorded
      subst present
      simp only [manual, and_self, if_true]
      split
      · have handed := @commit_spec intent caller row reason true
          { order := order, flips := false, event := none }
          (by simp) (by simp) (Or.inl manual) (fun _ => Or.inl rfl)
        exact triple_bind handed (fun _ => triple_ret _ fun _ _ obligated => obligated)
          fun _ _ _ _ => trivial
      · refine triple_ret _ fun s _ looked => ?_
        obtain ⟨⟨current, found, _, stays⟩, earlier, _⟩ := looked
        exact Or.inr ⟨current, found, stays manual, fun _ => earlier rfl⟩
    · simp only [recorded, if_false]
      refine triple_bind (commit_spec caller row reason already _ ?_ ?_ ?_ ?_)
        (fun _ => triple_ret _ fun _ _ obligated => obligated) fun _ _ _ _ => trivial
      · intro event built
        cases already with
        | true => cases built
        | false => exact nativeOwed_refunds row reason vm event built
      · intro new
        cases already with
        | true => cases new
        | false => rfl
      · by_cases manual : row.status = .refundManual
        · exact Or.inl manual
        · exact Or.inr (by simp [manual])
      · intro priced
        cases already with
        | true => exact Or.inl rfl
        | false =>
          obtain ⟨event, built, _⟩ := priced_owed intent row reason vm priced
          exact Or.inr (by simp [built])

end

theorem refunders_composable (calls : Nat → String × Option VmId) :
    Composable (W := refunders intent calls) (SingleOwed intent) (refundDuty intent)
      (fun _ _ => True)
      (fun _ => outcome (fun _ desk => Obligated intent desk.toStore) fun _ _ => True) where
  shared := fun _ _ => Iff.rfl
  starts := fun caller =>
    triple_bind (recordIntentRefund_spec caller (calls caller).1 (calls caller).2)
      (fun _ => triple_ret _ fun _ _ obligated => obligated) fun _ _ _ _ => trivial
  idle := fun _ _ _ _ _ _ => trivial
  done := by
    intro caller result s s' reached moved _
    cases result with
    | ok value => exact obligated_onward moved.1 reached
    | error error => trivial
  dead := fun _ _ _ _ _ _ => trivial
  compatible := fun _ other _ _ different _ _ stepped =>
    ⟨stepped.1, stepped.2 other (Ne.symm different)⟩
  ticks := by
    intro s desk valid unrelated
    refine ⟨?_, fun caller => ⟨unrelated_onward unrelated, fun saw calm => ?_⟩⟩
    · simpa only [SingleOwed, refunders, unrelated.owed] using valid
    · have known := saw calm
      simpa only [refunders, unrelated.owed] using known

variable (intent) in
/-- What every caller is promised: the intent is in manual refund with its one
obligation, unless nothing was paid or there is no such intent. -/
def Fulfilled (s : Store) : Prop :=
  s.intents intent = none ∨ ∃ row, s.intents intent = some row ∧ row.status = .refundManual ∧
    (Priced row → owed s (.native intent) = 1)

/-- However the calls for one intent interleave, it gets at most one obligation,
and every call returns with the refund on record, exactly as long as no call
commits its obligation after another one was committed since it looked. -/
theorem native_refunds_single (calls : Nat → String × Option VmId) (desk : RefundDesk)
    (schedule : List (Action Nat RefundChoice Store))
    (single : owed desk.toStore (.native intent) ≤ 1) (start : desk.doubled = false)
    (admitted : runAdmitted (refunders intent calls) ⟨desk, fun _ => .idle⟩ schedule) :
    let final := run (refunders intent calls) ⟨desk, fun _ => .idle⟩ schedule
    (owed final.shared.toStore (.native intent) ≤ 1 ∧
      ∀ caller, final.thread caller = .live (.ret ()) →
        Fulfilled intent final.shared.toStore) ↔ final.shared.doubled = false := by
  intro final
  obtain ⟨kept, threads⟩ := run_safe (refunders_composable calls) schedule
    ⟨desk, fun _ => .idle⟩ ⟨iff_of_true single start, fun _ => trivial⟩ admitted
  refine ⟨fun both => kept.mp both.1, fun calm => ⟨kept.mpr calm, ?_⟩⟩
  intro caller returned
  have reached := threads caller
  rw [show (run (refunders intent calls) ⟨desk, fun _ => .idle⟩ schedule).thread caller =
    .live (.ret ()) from returned] at reached
  rcases reached with absent | ⟨row, found, manual, owes⟩
  · exact Or.inl absent
  · have atMost : owed final.shared.toStore (.native intent) ≤ 1 := kept.mpr calm
    refine Or.inr ⟨row, found, manual, fun priced => Nat.le_antisymm atMost (owes priced)⟩

end

def failedHandoff : RefundDesk where
  toStore := loneIntent { coinIntent .btc with status := .provisioning }

def bothReasons : Nat → String × Option VmId
  | 0 => ("provisioning_failed", none)
  | _ => ("provisioning_interrupted", none)

def looks (caller : Nat) : List (Action Nat RefundChoice Store) :=
  [.start caller, .step caller (.read true), .step caller (.read true)]

/-- The worker and its recovery both look before either commits. -/
def crossedRefunds : List (Action Nat RefundChoice Store) :=
  looks 0 ++ looks 1 ++ [.step 0 (.commit 0 .done), .step 1 (.commit 0 .done)]

theorem crossed_refunds_owe_twice :
    ¬ ∀ (intent : IntentId) (calls : Nat → String × Option VmId) (desk : RefundDesk)
      (schedule : List (Action Nat RefundChoice Store)),
      owed desk.toStore (.native intent) ≤ 1 → desk.doubled = false →
      runAdmitted (refunders intent calls) ⟨desk, fun _ => .idle⟩ schedule →
      let final := run (refunders intent calls) ⟨desk, fun _ => .idle⟩ schedule
      owed final.shared.toStore (.native intent) ≤ 1 ∧
        ∀ caller, final.thread caller = .live (.ret ()) →
          Fulfilled intent final.shared.toStore := by
  intro claim
  have single := (claim 0 bothReasons failedHandoff crossedRefunds (by decide) rfl
    ⟨trivial, trivial, trivial, trivial, trivial, trivial, trivial, trivial, trivial⟩).1
  revert single
  decide +kernel

def queuedRefunds : List (Action Nat RefundChoice Store) :=
  looks 0 ++ [.step 0 (.commit 0 .done)] ++ looks 1

theorem queued_refunds_owe_once :
    owed (run (refunders 0 bothReasons) ⟨failedHandoff, fun _ => .idle⟩
      queuedRefunds).shared.toStore (.native 0) ≤ 1 :=
  ((@native_refunds_single 0 bothReasons failedHandoff queuedRefunds (by decide) rfl
    ⟨trivial, trivial, trivial, trivial, trivial, trivial, trivial, trivial⟩).mpr
      (by decide +kernel)).1

end HyruleCloud
