import HyruleCloud.IntentWrites

/-!
The terminal status REFUND_MANUAL and its obligation. Polls, handoffs, both
recovery passes and the provisioner's own refund race for any number of intents
while the orders they pay for are fulfilled, expired or refunded elsewhere.
-/

namespace HyruleCloud

open Interaction

def OwedToIntent (w : World) (intent : IntentId) : Prop :=
  ∃ event ∈ w.events, event.refunds (.native intent) = true

def OwedToOrder (w : World) (id : OrderId) : Prop :=
  ∃ event ∈ w.events, event.eventType = .refundOwed ∧ event.orderId = some id

/-- The obligation of an intent, or of the domain order that it pays for. -/
def Obliged (w : World) (intent : IntentId) (row : CryptoIntentRow) : Prop :=
  OwedToIntent w intent ∨ ∃ id, row.resourceId = some id ∧ OwedToOrder w id

/-- A refunded order has its obligation, unless its intent owes nothing. -/
def OrderObliged (w : World) (id : OrderId) : Prop :=
  OwedToOrder w id ∨ ∃ intent row, w.intents intent = some row ∧ row.resourceId = some id ∧
    (Priced row → OwedToIntent w intent)

def OrderStatus.isRefund : OrderStatus → Bool
  | .refundDue | .refunded => true
  | _ => false

structure Recorded (w : World) : Prop where
  intents : ∀ intent row, w.intents intent = some row → row.status = .refundManual →
    Priced row → Obliged w intent row
  orders : ∀ id order, w.orders id = some order → order.status.isRefund = true →
    OrderObliged w id
  single : ∀ intent other row found id, w.intents intent = some row → w.intents other = some found →
    row.resourceId = some id → found.resourceId = some id → intent = other

/-- The ledger only grows, and an intent keeps what was bought with it. -/
structure Grows (a b : World) : Prop where
  events : ∀ event ∈ a.events, event ∈ b.events
  intents : ∀ intent row, a.intents intent = some row → ∃ later, b.intents intent = some later ∧
    later.resourceId = row.resourceId ∧ later.amountUsd = row.amountUsd

theorem grows_refl (w : World) : Grows w w :=
  ⟨fun _ member => member, fun _ row present => ⟨row, present, rfl, rfl⟩⟩

variable {a b : World}

theorem grows_trans {c : World} (first : Grows a b) (second : Grows b c) : Grows a c where
  events event member := second.events event (first.events event member)
  intents intent row present := by
    obtain ⟨middle, here, resource, amount⟩ := first.intents intent row present
    obtain ⟨later, there, resource', amount'⟩ := second.intents intent middle here
    exact ⟨later, there, resource'.trans resource, amount'.trans amount⟩

section Grows
variable {a b : World} (grows : Grows a b)
include grows

theorem owedToIntent_grows {intent : IntentId} (owed : OwedToIntent a intent) :
    OwedToIntent b intent := by
  obtain ⟨event, member, refunds⟩ := owed
  exact ⟨event, grows.events event member, refunds⟩

theorem owedToOrder_grows {id : OrderId} (owed : OwedToOrder a id) : OwedToOrder b id := by
  obtain ⟨event, member, refunds⟩ := owed
  exact ⟨event, grows.events event member, refunds⟩

theorem obliged_grows {intent : IntentId} {row later : CryptoIntentRow}
    (obliged : Obliged a intent row) (same : later.resourceId = row.resourceId) :
    Obliged b intent later := by
  rcases obliged with owed | ⟨id, resource, owed⟩
  · exact Or.inl (owedToIntent_grows grows owed)
  · exact Or.inr ⟨id, same.trans resource, owedToOrder_grows grows owed⟩

theorem orderObliged_grows {id : OrderId} (obliged : OrderObliged a id) : OrderObliged b id := by
  rcases obliged with owed | ⟨intent, row, present, resource, owes⟩
  · exact Or.inl (owedToOrder_grows grows owed)
  obtain ⟨later, there, same, amount⟩ := grows.intents intent row present
  refine Or.inr ⟨intent, later, there, same.trans resource, fun priced => ?_⟩
  obtain ⟨usd, price, positive⟩ := priced
  exact owedToIntent_grows grows (owes ⟨usd, amount.symm.trans price, positive⟩)

end Grows

theorem recorded_step (kept : Recorded a) (grows : Grows a b)
    (intents : ∀ intent row, b.intents intent = some row → row.status = .refundManual →
      a.intents intent = some row ∨ (Priced row → Obliged b intent row))
    (orders : ∀ id order, b.orders id = some order → order.status.isRefund = true →
      (∃ before, a.orders id = some before ∧ before.status.isRefund = true) ∨ OrderObliged b id)
    (known : ∀ intent row, b.intents intent = some row → ∃ before, a.intents intent = some before ∧
      before.resourceId = row.resourceId) : Recorded b where
  intents intent row present refunded priced := by
    rcases intents intent row present refunded with old | obliged
    · exact obliged_grows grows (kept.intents intent row old refunded priced) rfl
    · exact obliged priced
  orders id order present refunded := by
    rcases orders id order present refunded with ⟨before, here, due⟩ | obliged
    · exact orderObliged_grows grows (kept.orders id before here due)
    · exact obliged
  single intent other row found id present here resource resource' := by
    obtain ⟨before, old, same⟩ := known intent row present
    obtain ⟨before', old', same'⟩ := known other found here
    exact kept.single intent other before before' id old old' (same.trans resource)
      (same'.trans resource')

theorem recorded_aside (kept : Recorded a)
    (events : ∀ event ∈ a.events, event ∈ b.events) (intents : b.intents = a.intents)
    (orders : b.orders = a.orders) : Recorded b ∧ Grows a b := by
  have grows : Grows a b :=
    ⟨events, fun intent row present => ⟨row, by rw [intents]; exact present, rfl, rfl⟩⟩
  refine ⟨recorded_step kept grows ?_ ?_ ?_, grows⟩
  · intro intent row present _
    exact Or.inl (by rw [← intents]; exact present)
  · intro id order present due
    exact Or.inl ⟨order, by rw [← orders]; exact present, due⟩
  · intro intent row present
    exact ⟨row, by rw [← intents]; exact present, rfl⟩

theorem recorded_intent (kept : Recorded a) (intent : IntentId)
    (row next : CryptoIntentRow) (present : a.intents intent = some row)
    (resource : next.resourceId = row.resourceId) (amount : next.amountUsd = row.amountUsd)
    (events : b.events = a.events) (intents : b.intents = a.intents.put intent next)
    (orders : b.orders = a.orders)
    (accounted : next.status = .refundManual → row.status = .refundManual ∨
      (Priced next → Obliged a intent next)) :
    Recorded b ∧ Grows a b := by
  have grows : Grows a b := by
    refine ⟨fun event member => by rw [events]; exact member, fun other found here => ?_⟩
    by_cases same : other = intent
    · subst same
      rw [present] at here
      cases here
      exact ⟨next, by rw [intents]; simp, resource, amount⟩
    · exact ⟨found, by rw [intents]; simpa [same] using here, rfl, rfl⟩
  refine ⟨recorded_step kept grows ?_ ?_ ?_, grows⟩
  · intro other found here refunded
    by_cases same : other = intent
    · subst same
      obtain rfl : next = found := by simpa [intents] using here
      refine Or.inr fun priced => ?_
      rcases accounted refunded with old | obliged
      · obtain ⟨usd, price, positive⟩ := priced
        exact obliged_grows grows
          (kept.intents other row present old ⟨usd, amount.symm.trans price, positive⟩) resource
      · exact obliged_grows grows (obliged priced) rfl
    · exact Or.inl (by simpa [intents, same] using here)
  · intro id order here due
    exact Or.inl ⟨order, by rw [← orders]; exact here, due⟩
  · intro other found here
    by_cases same : other = intent
    · subst same
      obtain rfl : next = found := by simpa [intents] using here
      exact ⟨row, present, resource.symm⟩
    · exact ⟨found, by simpa [intents, same] using here, rfl⟩

section Steps
variable {w w' : World} (kept : Recorded w)
include kept

theorem unchanged_recorded : Recorded w ∧ Grows w w := ⟨kept, grows_refl w⟩

theorem recorded_order (id : OrderId) (next : DomainOrderRow)
    (events : ∀ event ∈ w.events, event ∈ w'.events) (intents : w'.intents = w.intents)
    (orders : w'.orders = w.orders.put id next)
    (accounted : next.status.isRefund = true → (∃ before, w.orders id = some before ∧
      before.status.isRefund = true) ∨ OwedToOrder w' id) : Recorded w' ∧ Grows w w' := by
  have grows : Grows w w' :=
    ⟨events, fun intent row present => ⟨row, by rw [intents]; exact present, rfl, rfl⟩⟩
  refine ⟨recorded_step kept grows ?_ ?_ ?_, grows⟩
  · intro intent row present _
    exact Or.inl (by rw [← intents]; exact present)
  · intro other order here due
    by_cases same : other = id
    · subst same
      obtain rfl : next = order := by simpa [orders] using here
      rcases accounted due with before | owed
      · exact Or.inl before
      · exact Or.inr (Or.inl owed)
    · exact Or.inl ⟨order, by simpa [orders, same] using here, due⟩
  · intro intent row present
    exact ⟨row, by rw [← intents]; exact present, rfl⟩

theorem refundOrder_recorded (id : OrderId) (order next : DomainOrderRow) (code : String)
    (s : Store) (intents : s.intents = w.intents) (orders : s.orders = w.orders)
    (events : s.events = w.events) (done : refundOrder id order code s = .ok (w'.toStore, next)) :
    Recorded w' ∧ Grows w w' := by
  simp only [refundOrder] at done
  split at done
  · obtain ⟨written, same⟩ := Prod.mk.inj (Except.ok.inj done)
    refine recorded_order kept id next (fun event member => ?_) ?_ ?_ fun due => ?_
    · rw [← written, events]; exact member
    · rw [← written, intents]
    · rw [← written, orders, same]
    · rw [← same] at due
      cases due
  · split at done
    · cases done
    rename_i event built
    obtain ⟨written, same⟩ := Prod.mk.inj (Except.ok.inj done)
    have kind : event.eventType = .refundOwed ∧ event.orderId = some id := by
      simp only [buildRefundEvent] at built
      split at built
      · rename_i made owed
        cases built
        simp only [buildOwedEvent] at owed
        split at owed
        · split at owed <;> cases owed
          exact ⟨rfl, rfl⟩
        · cases owed
      · cases built
    refine recorded_order kept id next (fun event member => ?_) ?_ ?_ fun _ => Or.inr ?_
    · rw [← written]
      simp [addEvent, events, member]
    · rw [← written]
      simp [addEvent, intents]
    · rw [← written]
      simp [addEvent, orders, same]
    · exact ⟨event, by rw [← written]; simp [addEvent], kind⟩

theorem markPaid_recorded (id : OrderId) (args : MarkArgs) (now : Time) (operation : OperationId)
    (order : DomainOrderRow)
    (done : markPaid id args now operation false w.toStore = .ok (w'.toStore, order)) :
    Recorded w' ∧ Grows w w' := by
  obtain ⟨row, present, outcome⟩ := markPaid_outcome id args now operation false _ _ _ done
  cases outcome with
  | revoked waived waiting failed written =>
    refine recorded_order kept id order (fun event member => ?_) ?_ ?_ fun due => ?_
    · rw [written]; exact member
    · rw [written]
    · rw [written]
    · rw [failed] at due
      cases due
  | refunded code quotes _ refund =>
    exact refundOrder_recorded kept id _ order code { w.toStore with domainQuotes := quotes }
      rfl rfl rfl refund
  | ignored _ same _ =>
    exact recorded_aside kept (fun event member => by rw [same]; exact member) (by rw [same])
      (by rw [same])
  | queued quotes _ accepted =>
    obtain ⟨_, next, written⟩ := queued_order id _ _ _ _ _ _ accepted
    refine recorded_order kept id order (fun event member => ?_) ?_ ?_ fun due => ?_
    · rw [written]; exact member
    · rw [written]
    · rw [written]
    · rw [next] at due
      cases due

omit kept in
theorem failHandedOrder_orders (intent : IntentId) (row : CryptoIntentRow) (reason : String)
    (now : Time) (s : Store) :
    (failHandedOrder intent row reason now s).orders = s.orders ∨
      ∃ id order, row.resourceId = some id ∧
        (failHandedOrder intent row reason now s).orders = s.orders.put id order := by
  simp only [failHandedOrder]
  split
  · rename_i id _ resource
    split
    · split
      · exact Or.inr ⟨id, _, resource, rfl⟩
      · exact Or.inl rfl
    · exact Or.inl rfl
  · exact Or.inl rfl

section
variable (intent : IntentId) (reason : String) (vm : Option VmId) (now : Time)

omit kept in
theorem refundedIntent_orders (s s' : Store) (value : Bool)
    (done : recordNativeIntentRefund intent reason vm now s = .ok (s', value)) :
    s'.orders = s.orders ∨ ∃ row id order, s.intents intent = some row ∧
      row.resourceId = some id ∧ s'.orders = s.orders.put id order := by
  simp only [recordNativeIntentRefund] at done
  split at done
  · cases done
    exact Or.inl rfl
  · rename_i row present
    have handed := failHandedOrder_orders intent row reason now s
    have same : s'.orders = (failHandedOrder intent row reason now s).orders := by
      repeat' split at done
      all_goals cases done
      all_goals rfl
    rcases handed with old | ⟨id, order, resource, written⟩
    · exact Or.inl (same.trans old)
    · exact Or.inr ⟨row, id, order, present, resource, same.trans written⟩

theorem refundedIntent_recorded (value : Bool)
    (done : recordNativeIntentRefund intent reason vm now w.toStore = .ok (w'.toStore, value)) :
    Recorded w' ∧ Grows w w' := by
  obtain ⟨_, ⟨same, _⟩ | ⟨row, present, intents, ledger⟩⟩ :=
    refundedIntent intent reason vm now value done
  · exact recorded_aside kept (fun event member => by rw [same]; exact member) (by rw [same])
      (by rw [same])
  · have grows : Grows w w' := by
      refine ⟨fun event member => ?_, fun other found here => ?_⟩
      · rcases ledger with ⟨_, events⟩ | ⟨_, events⟩ <;> rw [events]
        · exact member
        · exact List.mem_append_left _ member
      · by_cases same : other = intent
        · subst same
          rw [present] at here
          cases here
          exact ⟨{ row with status := .refundManual }, by rw [intents]; simp, rfl, rfl⟩
        · exact ⟨found, by rw [intents]; simpa [same] using here, rfl, rfl⟩
    have owes : Priced row → OwedToIntent w' intent := by
      intro priced
      rcases ledger with ⟨owed, events⟩ | ⟨_, events⟩
      · obtain ⟨event, member, refunds⟩ := List.any_eq_true.mp owed
        exact ⟨event, by rw [events]; exact member, refunds⟩
      · obtain ⟨event, built, refunds⟩ := priced_owed intent row reason vm priced
        exact ⟨event, by simp [events, built], refunds⟩
    refine ⟨recorded_step kept grows ?_ ?_ ?_, grows⟩
    · intro other found here refunded
      by_cases same : other = intent
      · subst same
        obtain rfl : { row with status := .refundManual } = found := by
          simpa [intents] using here
        exact Or.inr fun priced => Or.inl (owes priced)
      · exact Or.inl (by simpa [intents, same] using here)
    · intro other order here due
      rcases refundedIntent_orders intent reason vm now _ _ value done with
        same | ⟨paying, id, next, found, resource, written⟩
      · exact Or.inl ⟨order, by rw [← same]; exact here, due⟩
      · by_cases same : other = id
        · subst same
          rw [present] at found
          cases found
          exact Or.inr (Or.inr ⟨intent, { row with status := .refundManual },
            by rw [intents]; simp, resource, owes⟩)
        · exact Or.inl ⟨order, by simpa [written, same] using here, due⟩
    · intro other found here
      by_cases same : other = intent
      · subst same
        obtain rfl : { row with status := .refundManual } = found := by
          simpa [intents] using here
        exact ⟨row, present, rfl⟩
      · exact ⟨found, by simpa [intents, same] using here, rfl⟩

end

end Steps

/-- The scans that do not send a priced intent to REFUND_MANUAL: nothing was
received, the deposit is unconfirmed, or its amount is acceptable. -/
def ScanAccepted {β : Type} (request : CheckoutReq β) (choice : CheckoutChoice) (w : World) :
    Prop :=
  match request, choice with
  | .applyIntentScan intent scan, .requoted now rate _ => ∀ row, w.intents intent = some row →
      row.status.isTerminal = false → Priced row → scan.receivedTotal = 0 ∨
        scan.confirmations < minConfirmations row.asset ∨
        acceptable row scan.receivedTotal (maybeRequote row now rate) = true
  | _, _ => True

section
variable (row : CryptoIntentRow) (scan : ScanResult)

theorem decideStatus_accepted (minConfs : Nat)
    (rate : Option Rat) (accepted : scan.receivedTotal = 0 ∨ scan.confirmations < minConfs ∨
      acceptable row scan.receivedTotal rate = true) :
    decideStatus row scan minConfs rate ≠ .refundManual := by
  simp only [decideStatus]
  by_cases nothing : scan.receivedTotal = 0
  · simp [nothing]
  by_cases unconfirmed : scan.confirmations < minConfs
  · simp [nothing, unconfirmed]
  have passes : acceptable row scan.receivedTotal rate = true := by
    rcases accepted with absurd | absurd | passes
    · exact (nothing absurd).elim
    · exact (unconfirmed absurd).elim
    · exact passes
  simp [nothing, unconfirmed, passes]

theorem appliedScan_status (now : Time)
    (rate : Option Rat) :
    (appliedScan row scan now rate).status = .expired ∨
      (appliedScan row scan now rate).status = decideStatus (scannedRow row scan) scan
        (minConfirmations row.asset) (maybeRequote row now rate) := by
  simp only [appliedScan]
  split
  · exact Or.inr (by simp)
  rename_i limit _
  by_cases closed : (decide (limit < now) && scan.receivedTotal == 0) = true
  · exact Or.inl (by simp [closed])
  · exact Or.inr (by simp [closed])

theorem appliedScan_bought (now : Time)
    (rate : Option Rat) :
    (appliedScan row scan now rate).resourceId = row.resourceId ∧
      (appliedScan row scan now rate).amountUsd = row.amountUsd := by
  simp only [appliedScan]
  split <;> split <;> exact ⟨rfl, rfl⟩

end

variable {β : Type}

theorem engine_step (request : CheckoutReq β) (choice : CheckoutChoice)
    (w w' : World) (reply : Except Err β) (plain : ¬ Flips request) (kept : Recorded w)
    (accepted : ScanAccepted request choice w)
    (ran : request.exec choice w = some (w', reply)) : Recorded w' ∧ Grows w w' := by
  cases checkout_effect request choice w w' reply ran with
  | aside intents orders events => exact recorded_aside kept events intents orders
  | written intent row next present _ bought flips intents orders events =>
    refine recorded_intent kept intent row next present bought.1 bought.2 events intents orders ?_
    exact fun flipped => (flips flipped).imp_right fun flipping => absurd flipping plain
  | scanned intent scan now rate fate row present live intents orders events =>
    obtain ⟨resource, amount⟩ := appliedScan_bought row scan now rate
    refine recorded_intent kept intent row _ present resource amount events intents orders ?_
    refine fun flipped => Or.inr fun priced => ?_
    have paid : Priced row := by rwa [Priced, amount] at priced
    have settles := decideStatus_accepted (scannedRow row scan) scan (minConfirmations row.asset)
      (maybeRequote row now rate) (accepted row present live paid)
    rcases appliedScan_status row scan now rate with expired | decided
    · rw [flipped] at expired
      cases expired
    · exact absurd (decided.symm.trans flipped) settles
  | refunded intent reason vm now value done =>
    exact refundedIntent_recorded kept intent reason vm now value done
  | settled order args now operation value done =>
    exact markPaid_recorded kept order args now operation value done

def engineSetting : Setting CheckoutReq Err World CheckoutChoice where
  exec := CheckoutReq.exec
  permits := ScanAccepted
  mayCrash _ _ := True

def engineDuty : Duty World where
  inv := Recorded
  rely := Grows
  guar := Grows
  crash _ := True
  rely_refl := grows_refl
  rely_trans := grows_trans

abbrev Plain {β : Type} (request : CheckoutReq β) : Prop := ¬ Flips request

variable {α : Type}

theorem triple_plain {assertion : World → Prop} (p : Checkout α)
    (plain : Within Plain p) (stable : ∀ a b, assertion a → Grows a b → assertion b) :
    Triple engineSetting engineDuty assertion p (fun _ => assertion) := by
  refine triple_within p plain (fun a b holds grows _ => stable a b holds grows)
    (fun _ _ _ _ _ _ => trivial) ?_
  intro β request choice w w' reply allowed kept holds accepted ran
  obtain ⟨after, grows⟩ := engine_step request choice w w' reply allowed kept accepted ran
  exact ⟨after, grows, stable w w' holds grows⟩

theorem triple_any (p : Checkout α) (plain : Within Plain p) :
    Triple engineSetting engineDuty (fun _ => True) p (fun _ _ => True) :=
  triple_plain p plain fun _ _ holds _ => holds

theorem plain_ask (request : CheckoutReq β) (plain : Plain request) :
    Within Plain (ask request) := (within_perform request).mpr plain

theorem plain_of_asks {p : Checkout α} (asks : Within HandoffAsk p) :
    Within Plain p := by
  refine within_mono asks fun request keeps flips => ?_
  cases request with
  | setIntentStatus intent status =>
    have failed : status = .failed := keeps
    rw [show status = .refundManual from flips] at failed
    cases failed
  | finishResumedHandoff intent status => exact keeps
  | _ => exact flips

variable {status : IntentStatus}

section Handoffs
variable (intent : IntentId) (row : CryptoIntentRow) (id : OrderId)

/-- The row that a handler works from still names what the intent pays for. -/
def Linked (w : World) : Prop :=
  ∃ current, w.intents intent = some current ∧ current.resourceId = row.resourceId

def Covered (status : IntentStatus) (w : World) : Prop :=
  status = .refundManual → ∃ current, w.intents intent = some current ∧
    current.resourceId = some id ∧ OrderObliged w id

variable {intent row id}

theorem linked_grows (linked : Linked intent row a) (grows : Grows a b) :
    Linked intent row b := by
  obtain ⟨current, present, same⟩ := linked
  obtain ⟨later, there, resource, _⟩ := grows.intents intent current present
  exact ⟨later, there, resource.trans same⟩

theorem covered_grows (covered : Covered intent id status a)
    (grows : Grows a b) : Covered intent id status b := by
  intro flipped
  obtain ⟨current, present, resource, obliged⟩ := covered flipped
  obtain ⟨later, there, same, _⟩ := grows.intents intent current present
  exact ⟨later, there, same.trans resource, orderObliged_grows grows obliged⟩

theorem covered_obliged {w : World} (kept : Recorded w)
    (covered : Covered intent id status w) (flipped : status = .refundManual)
    (present : w.intents intent = some row) (priced : Priced row) : Obliged w intent row := by
  obtain ⟨current, here, resource, obliged⟩ := covered flipped
  rw [present] at here
  cases here
  rcases obliged with owed | ⟨other, found, there, same, owes⟩
  · exact Or.inr ⟨id, resource, owed⟩
  obtain rfl := kept.single intent other row found id present there resource same
  rw [present] at there
  cases there
  exact Or.inl (owes priced)

/-- A request that writes a terminal status into the row of the intent. -/
def FlipsTo {β : Type} (intent : IntentId) (status : IntentStatus) : CheckoutReq β → Prop
  | .setIntentStatus id written | .finishResumedHandoff id written =>
    id = intent ∧ written = status
  | _ => False

theorem triple_flip (status : IntentStatus) (request : CheckoutReq β)
    (flip : FlipsTo intent status request) :
    Triple engineSetting engineDuty
      (fun w => Linked intent row w ∧ Covered intent id status w) (ask request)
      (fun _ => Linked intent row) := by
  refine triple_perform request (fun a b holds grows _ =>
    ⟨linked_grows holds.1 grows, covered_grows holds.2 grows⟩) (fun _ _ _ _ => trivial) ?_
  intro w choice w' reply kept ⟨linked, covered⟩ accepted ran
  have written : Recorded w' ∧ Grows w w' := by
    cases checkout_effect request choice w w' reply ran with
    | aside intents orders events => exact recorded_aside kept events intents orders
    | written _ row next present write bought _ intents orders events =>
      refine recorded_intent kept _ row next present bought.1 bought.2 events intents orders ?_
      refine fun flipped => Or.inr fun priced => ?_
      cases write with
      | status | finished =>
        obtain ⟨rfl, rfl⟩ := flip
        exact obliged_grows (grows_refl w) (covered_obliged kept covered flipped present priced) rfl
      | _ => exact flip.elim
    | _ => exact flip.elim
  exact ⟨written.1, written.2, linked_grows linked written.2⟩

theorem handedStatus_refund (order : DomainOrderRow) (flipped : handedStatus order = .refundManual) :
    order.status.isRefund = true := by
  simp only [handedStatus] at flipped
  split at flipped
  · rename_i refunded
    rcases refunded with due | refunded
    · rw [due]; rfl
    · rw [refunded]; rfl
  · cases flipped

theorem markPaid_returns (args : MarkArgs) (now : Time) (operation : OperationId)
    (s s' : Store) (order : DomainOrderRow)
    (done : markPaid id args now operation false s = .ok (s', order)) :
    s'.orders id = some order := by
  obtain ⟨found, present, outcome⟩ := markPaid_outcome id args now operation false s s' order done
  cases outcome with
  | revoked waived waiting failed written => simp [written]
  | refunded code quotes _ refund =>
    simp only [refundOrder] at refund
    repeat' split at refund
    all_goals cases refund
    all_goals simp [addEvent]
  | ignored _ same kept => rw [same, kept]; exact present
  | queued quotes _ accepted =>
    obtain ⟨_, _, written⟩ := queued_order id _ _ _ _ _ _ accepted
    simp [written]

theorem read_covered {w : World} (kept : Recorded w) (linked : Linked intent row w)
    (resource : row.resourceId = some id) (order : DomainOrderRow)
    (present : w.orders id = some order) : Covered intent id (handedStatus order) w := by
  intro flipped
  obtain ⟨current, here, same⟩ := linked
  exact ⟨current, here, same.trans resource,
    kept.orders id order present (handedStatus_refund order flipped)⟩

theorem triple_nativeOrderSettled (args : MarkArgs) (resource : row.resourceId = some id) :
    Triple engineSetting engineDuty (Linked intent row) (ask (.nativeOrderSettled id args))
      (outcome (fun order w => Linked intent row w ∧ Covered intent id (handedStatus order) w)
        (fun _ => Linked intent row)) := by
  refine triple_perform _ (fun a b linked grows _ => linked_grows linked grows)
    (fun _ _ _ _ => trivial) ?_
  intro w choice w' reply kept linked accepted ran
  obtain ⟨after, grows⟩ := engine_step (.nativeOrderSettled id args) choice w w' reply
      not_false kept accepted ran
  refine ⟨after, grows, ?_⟩
  have linked' := linked_grows linked grows
  simp only [engineSetting, CheckoutReq.exec] at ran
  split at ran
  · simp only [Option.some.injEq] at ran
    rcases transact_ends _ _ _ _ _ ran with ⟨_, error, rfl, _⟩ | ⟨order, done, rfl | rfl⟩
    · exact linked'
    · obtain ⟨inner, _⟩ := onStore_ok _ _ _ _ done
      exact ⟨linked', read_covered after linked' resource order
        (markPaid_returns _ _ _ _ _ order inner)⟩
    · exact linked'
  · cases ran

theorem triple_getOrder (resource : row.resourceId = some id) :
    Triple engineSetting engineDuty (Linked intent row) (ask (.getOrder id))
      (outcome (fun found w => Linked intent row w ∧
          ∀ order, found = some order → Covered intent id (handedStatus order) w)
        (fun _ => Linked intent row)) := by
  refine triple_perform _ (fun a b linked grows _ => linked_grows linked grows)
    (fun _ _ _ _ => trivial) ?_
  intro w choice w' reply kept linked accepted ran
  obtain ⟨after, grows⟩ := engine_step (.getOrder id) choice w w' reply
      not_false kept accepted ran
  refine ⟨after, grows, ?_⟩
  have linked' := linked_grows linked grows
  rcases committed_ends _ _ _ _ _ ran with ⟨_, error, rfl, _⟩ | ⟨found, done, rfl | rfl⟩
  · exact linked'
  · cases done
    exact ⟨linked', fun order here => read_covered after linked' resource order here⟩
  · exact linked'

theorem triple_domainHandoff_recorded :
    Triple engineSetting engineDuty (Linked intent row) (domainHandoff intent row)
      (fun _ _ => True) := by
  have refund : ∀ reason, Triple engineSetting engineDuty (Linked intent row)
      (refundIntent intent reason) (fun _ _ => True) := fun reason =>
    triple_enter (triple_any _ (plain_of_asks (asks_refundIntent intent reason none)))
      fun _ _ => trivial
  simp only [domainHandoff]
  cases resource : row.resourceId with
  | none => exact refund _
  | some id =>
    have handing : Triple engineSetting engineDuty (Linked intent row)
        (do
          let order ← ask (.nativeOrderSettled id (settlementArgs intent row))
          ask (.setIntentStatus intent (handedStatus order)))
        (fun _ => Linked intent row) :=
      triple_bind (triple_nativeOrderSettled _ resource)
        (fun order => triple_flip _ _ ⟨rfl, rfl⟩) (fun _ _ _ linked => linked)
    refine triple_rescue handing (fun _ _ _ _ => trivial) fun _ => ?_
    refine triple_bind (triple_getOrder resource) (fun found => ?_) (fun _ _ _ _ => trivial)
    cases handed : found.filter fun order => order.status ≠ .awaitingPayment with
    | none => exact triple_enter (refund _) fun _ holds => holds.1
    | some order =>
      have read : found = some order := (Option.filter_eq_some_iff.mp handed).1
      refine triple_weaken (triple_flip _ _ ⟨rfl, rfl⟩)
        (fun w _ holds => ⟨holds.1, holds.2 order read⟩) (fun _ _ _ _ => trivial)

theorem triple_trigger_recorded (job : Handoff.Worker) :
    Triple engineSetting engineDuty (fun _ => True) (triggerProvisioning job)
      (fun _ _ => True) := by
  have won : Triple engineSetting engineDuty (fun _ => True)
      (ask (.triggerHandoff job.worker job.intent))
      (outcome (fun found w => ∀ row, found = some row → Linked job.intent row w)
        (fun _ _ => True)) := by
    refine triple_perform _ (fun _ _ holds _ _ => holds) (fun _ _ _ _ => trivial) ?_
    intro w choice w' reply kept _ accepted ran
    obtain ⟨after, grows⟩ := engine_step (.triggerHandoff job.worker job.intent) choice w w' reply
      not_false kept accepted ran
    refine ⟨after, grows, ?_⟩
    obtain ⟨now, ⟨_, error, rfl, _⟩ | ⟨found, done, rfl | rfl⟩⟩ := clocked_ends _ _ _ _ _ ran
    · trivial
    · rintro row rfl
      rcases triggered job.worker job.intent now w w' _ done with
        ⟨_, absurd⟩ | ⟨_, next, _, _, rfl, rfl, value⟩
      · cases absurd
      · split at value <;> cases value
        exact ⟨_, by simp, rfl⟩
    · trivial
  refine triple_bind won (fun found => ?_) (fun _ _ _ _ => trivial)
  cases found with
  | none => exact triple_ret _ fun _ _ _ => trivial
  | some row =>
    dsimp only
    cases row.provisioningTriggeredAt with
    | none => exact triple_ret _ fun _ _ _ => trivial
    | some token =>
      dsimp only
      split
      · exact triple_enter triple_domainHandoff_recorded fun _ holds => holds row rfl
      · exact triple_enter (triple_any _ (plain_of_asks (asks_vmHandoff job row token)))
          fun _ _ => trivial

theorem triple_pollOneIntent (job : Handoff.Worker) :
    Triple engineSetting engineDuty (fun _ => True) (pollOneIntent job) (fun _ _ => True) := by
  refine triple_bind (triple_any _ (plain_ask _ id)) (fun found => ?_) (fun _ _ _ _ => trivial)
  cases found with
  | none => exact triple_ret _ fun _ _ _ => trivial
  | some row =>
    dsimp only
    split
    · exact triple_ret _ fun _ _ _ => trivial
    refine triple_bind (triple_any _ (within_attempt (plain_ask _ id))) (fun scanned => ?_)
      (fun _ _ _ _ => trivial)
    cases scanned with
    | error error => exact triple_ret _ fun _ _ _ => trivial
    | ok scan =>
      refine triple_bind (triple_any _ (plain_ask _ id)) (fun applied => ?_)
        (fun _ _ _ _ => trivial)
      cases applied with
      | none => exact triple_ret _ fun _ _ _ => trivial
      | some row =>
        dsimp only
        split
        · exact triple_trigger_recorded job
        · exact triple_ret _ fun _ _ _ => trivial

theorem triple_resumeDomainHandoff (intent : IntentId) :
    Triple engineSetting engineDuty (fun _ => True) (resumeDomainHandoff intent)
      (fun _ _ => True) := by
  have read : Triple engineSetting engineDuty (fun _ => True) (ask (.getIntent intent))
      (outcome (fun found w => ∀ row, found = some row → Linked intent row w)
        (fun _ _ => True)) := by
    refine triple_perform _ (fun _ _ holds _ _ => holds) (fun _ _ _ _ => trivial) ?_
    intro w choice w' reply kept _ accepted ran
    obtain ⟨after, grows⟩ := engine_step (.getIntent intent) choice w w' reply
      not_false kept accepted ran
    refine ⟨after, grows, ?_⟩
    rcases committed_ends _ _ _ _ _ ran with ⟨_, error, rfl, _⟩ | ⟨found, done, rfl | rfl⟩
    · trivial
    · cases done
      exact fun row present => ⟨row, present, rfl⟩
    · trivial
  refine triple_bind read (fun found => ?_) (fun _ _ _ _ => trivial)
  cases found with
  | none => exact triple_ret _ fun _ _ _ => trivial
  | some row =>
    dsimp only
    cases resource : row.resourceId with
    | none => exact triple_ret _ fun _ _ _ => trivial
    | some id =>
      dsimp only
      split
      · exact triple_ret _ fun _ _ _ => trivial
      suffices known : Triple engineSetting engineDuty (Linked intent row) _
          (fun _ _ => True) from
        triple_enter known fun _ holds => holds row rfl
      refine triple_bind (triple_attempt
        (triple_nativeOrderSettled (settlementArgs intent row) resource)) (fun settled => ?_)
        (fun _ _ _ _ => trivial)
      cases settled with
      | error error => exact triple_ret _ fun _ _ _ => trivial
      | ok order =>
        suffices flip : Triple engineSetting engineDuty (fun w =>
            Linked intent row w ∧ Covered intent id (handedStatus order) w)
            (ask (.finishResumedHandoff intent (handedStatus order)))
            (fun _ => Linked intent row) from
          triple_weaken flip (fun w _ ⟨inner, same, holds⟩ => by cases same; exact holds)
            (fun _ _ _ _ => trivial)
        exact triple_flip _ _ ⟨rfl, rfl⟩

end Handoffs

/-- What runs on the intents: a poll of one intent, the two recovery passes, and
the refund of a VM that failed while it was provisioned. -/
inductive Engine where
  | poll (process : ProcessId) (intent : IntentId)
  | resume (intent : IntentId)
  | recover (intent : IntentId)
  | refund (intent : IntentId) (reason : String) (vm : Option VmId)

def Engine.program (thread : Nat) : Engine → Checkout Unit
  | .poll process intent => pollOneIntent ⟨thread, process, intent⟩
  | .resume intent => resumeDomainHandoff intent
  | .recover intent => recoverInterruptedVm intent
  | .refund intent reason vm => refundIntent intent reason vm

/-- What the rest of the application does to the tables meanwhile. -/
inductive Elsewhere where
  | intent (id : IntentId) (row : CryptoIntentRow)
  | order (id : OrderId) (order : DomainOrderRow)
  | failOrder (id : OrderId) (code : String)
  | vm (id : VmId) (row : Option VMRow)
  | event (event : PaymentEventRow)

def elsewhere (event : Elsewhere) (w : World) : World :=
  match event with
  | .intent id row => { w with intents := w.intents.put id row }
  | .order id order => { w with orders := w.orders.put id order }
  | .failOrder id code => match w.orders id with
      | none => w
      | some order => match refundOrder id order code w.toStore with
          | .ok (s, _) => { w with toStore := s }
          | .error _ => w
  | .vm id row => { w with vms := Function.update w.vms id row }
  | .event event => { w with toStore := addEvent event w.toStore }

/-- An intent is created once, for an order of its own. A refund status is only
written with its obligation, or over another refund status. -/
def MayHappen (event : Elsewhere) (w : World) : Prop :=
  match event with
  | .intent id row => w.intents id = none ∧ row.status = .created ∧
      ∀ other found order, w.intents other = some found → found.resourceId = some order →
        row.resourceId ≠ some order
  | .order id order => order.status.isRefund = true →
      ∃ before, w.orders id = some before ∧ before.status.isRefund = true
  | _ => True

def intentEngine (setting : Setting CheckoutReq Err World CheckoutChoice)
    (jobs : Nat → Engine) : Workload CheckoutReq Err World CheckoutChoice Elsewhere Nat where
  setting := setting
  prog thread := (jobs thread).program thread
  env := elsewhere
  mayTick := MayHappen

theorem elsewhere_recorded (event : Elsewhere) (w : World) (kept : Recorded w)
    (may : MayHappen event w) : Recorded (elsewhere event w) ∧ Grows w (elsewhere event w) := by
  cases event with
  | vm id row => exact recorded_aside kept (fun _ member => member) rfl rfl
  | event event =>
    exact recorded_aside kept (fun _ member => List.mem_append_left _ member) rfl rfl
  | order id order =>
    exact recorded_order kept id order (fun _ member => member) rfl rfl
      fun due => Or.inl (may due)
  | failOrder id code =>
    simp only [elsewhere]
    cases w.orders id with
    | none => exact unchanged_recorded kept
    | some order =>
      cases refund : refundOrder id order code w.toStore with
      | error error => simpa only [refund] using unchanged_recorded kept
      | ok done =>
        obtain ⟨s, next⟩ := done
        simp only [refund]
        exact refundOrder_recorded kept id order next code w.toStore rfl rfl rfl refund
  | intent id row =>
    obtain ⟨fresh, created, own⟩ := may
    have old : ∀ other found, other ≠ id →
        (elsewhere (.intent id row) w).intents other = some found →
        w.intents other = some found := by
      intro other found different here
      simpa [elsewhere, different] using here
    have grows : Grows w (elsewhere (.intent id row) w) := by
      refine ⟨fun _ member => member, fun other found here => ⟨found, ?_, rfl, rfl⟩⟩
      have different : other ≠ id := keys_apart here fresh (by simp)
      simpa [elsewhere, different] using here
    refine ⟨⟨fun other found here refunded priced => ?_, fun order found here due => ?_,
      fun first second found next order here there paid paid' => ?_⟩, grows⟩
    · by_cases same : other = id
      · subst same
        obtain rfl : row = found := by simpa [elsewhere] using here
        rw [created] at refunded
        cases refunded
      · exact obliged_grows grows (kept.intents other found (old other found same here)
          refunded priced) rfl
    · exact orderObliged_grows grows (kept.orders order found here due)
    · by_cases same : first = id <;> by_cases same' : second = id
      · rw [same, same']
      · subst same
        obtain rfl : row = found := by simpa [elsewhere] using here
        exact absurd paid (own second next order (old second next same' there) paid')
      · subst same'
        obtain rfl : row = next := by simpa [elsewhere] using there
        exact absurd paid' (own first found order (old first found same here) paid)
      · exact kept.single first second found next order (old first found same here)
          (old second next same' there) paid paid'

theorem engine_composable (jobs : Nat → Engine) :
    Composable (intentEngine engineSetting jobs) Recorded (fun _ => engineDuty)
      (fun _ _ => True) (fun _ _ _ => True) where
  shared _ _ := Iff.rfl
  starts t := by
    show Triple engineSetting engineDuty _ ((jobs t).program t) _
    cases jobs t with
    | poll process intent => exact triple_pollOneIntent ⟨t, process, intent⟩
    | resume intent => exact triple_resumeDomainHandoff intent
    | recover intent => exact triple_any _ (plain_of_asks (asks_recoverInterruptedVm intent))
    | refund intent reason vm =>
      exact triple_any _ (plain_of_asks (asks_refundIntent intent reason vm))
  idle _ _ _ holds _ _ := holds
  done _ _ _ _ holds _ _ := holds
  dead _ _ _ holds _ _ := holds
  compatible _ _ _ _ _ _ _ grows := grows
  ticks event w kept may := by
    obtain ⟨after, grows⟩ := elsewhere_recorded event w kept may
    exact ⟨after, fun _ => grows⟩

/-- In every state that the engine reaches through accepted scans, an intent in
REFUND_MANUAL has its obligation, or its order has. -/
theorem manual_refunds_recorded (jobs : Nat → Engine) (w : World)
    (schedule : List (Action Nat CheckoutChoice Elsewhere)) (kept : Recorded w)
    (accepted : runAdmitted (intentEngine engineSetting jobs) ⟨w, fun _ => .idle⟩ schedule)
    (intent : IntentId) (row : CryptoIntentRow) :
    let final := (run (intentEngine engineSetting jobs) ⟨w, fun _ => .idle⟩ schedule).shared
    final.intents intent = some row → row.status = .refundManual → Priced row →
      Obliged final intent row := by
  intro final present refunded priced
  have safe := run_safe (engine_composable jobs) schedule ⟨w, fun _ => .idle⟩
    ⟨kept, fun _ => trivial⟩ accepted
  exact safe.1.intents intent row present refunded priced

def awaitingIntent : CryptoIntentRow where
  asset := .btc
  amountCrypto := 1 / 100
  amountUsd := some 500
  status := .waitingPayment
  expiresAt := none
  rateValidUntil := none
  orderPayload := some (.vm {})

def awaitingWorld : World where
  vmQuotes _ := none
  vms _ := none
  intents := Table.put (fun _ => none) 0 awaitingIntent
  domainQuotes _ := none
  orders _ := none
  domains _ := none
  operations _ := none
  jobs _ := none
  events := []
  disabled _ := false
  claimed _ _ := false
  charged _ := false
  handedBy _ := none

theorem awaitingWorld_intents (intent : IntentId) (row : CryptoIntentRow)
    (present : awaitingWorld.intents intent = some row) : intent = 0 ∧ row = awaitingIntent := by
  by_cases same : intent = 0
  · subst same
    exact ⟨rfl, (Option.some.inj present).symm⟩
  · simp [awaitingWorld, same] at present

theorem awaitingWorld_recorded : Recorded awaitingWorld where
  intents intent row present refunded _ := by
    obtain ⟨_, rfl⟩ := awaitingWorld_intents intent row present
    cases refunded
  orders _ _ absurd := by cases absurd
  single intent other row found _ here there _ _ := by
    rw [(awaitingWorld_intents intent row here).1, (awaitingWorld_intents other found there).1]

def openSetting : Setting CheckoutReq Err World CheckoutChoice :=
  { engineSetting with permits := fun _ _ _ => True }

def underpaidPoll : List (Action Nat CheckoutChoice Elsewhere) :=
  [.start 0, .step 0 (.commit .done), .step 0 (.scanned ⟨1 / 200, 1, some 7⟩),
    .step 0 (.requoted 0 none .done)]

theorem underpaid_refund_unrecorded :
    ¬ ∀ (jobs : Nat → Engine) (w : World)
      (schedule : List (Action Nat CheckoutChoice Elsewhere)), Recorded w →
      runAdmitted (intentEngine openSetting jobs) ⟨w, fun _ => .idle⟩ schedule →
      ∀ intent row,
      let final := (run (intentEngine openSetting jobs) ⟨w, fun _ => .idle⟩ schedule).shared
      final.intents intent = some row → row.status = .refundManual → Priced row →
        Obliged final intent row := by
  intro claim
  let jobs : Nat → Engine := fun _ => .poll 0 0
  let final := (run (intentEngine openSetting jobs) ⟨awaitingWorld, fun _ => .idle⟩
    underpaidPoll).shared
  have refunded : (final.intents 0).map (·.status) = some .refundManual := by decide +kernel
  have price : (final.intents 0).map (·.amountUsd) = some (some 500) := by decide +kernel
  have silent : final.events = [] := by decide +kernel
  cases present : final.intents 0 with
  | none => simp [present] at refunded
  | some row =>
    simp only [present, Option.map_some, Option.some.injEq] at refunded price
    have obliged := claim jobs awaitingWorld underpaidPoll awaitingWorld_recorded
      ⟨trivial, trivial, trivial, trivial, trivial⟩ 0 row present refunded
      ⟨500, price, by norm_num⟩
    have nothing : ∀ event, event ∉ final.events := by simp [silent]
    rcases obliged with ⟨event, member, _⟩ | ⟨_, _, event, member, _⟩
    · exact nothing event member
    · exact nothing event member

def failedVmRefund : List (Action Nat CheckoutChoice Elsewhere) :=
  [.start 0, .step 0 (.clocked 0 .done)]

theorem failed_vm_refund_recorded :
    let final := (run (intentEngine engineSetting fun _ => .refund 0 "provisioning_failed" none)
      ⟨awaitingWorld, fun _ => .idle⟩ failedVmRefund).shared
    Obliged final 0 { awaitingIntent with status := .refundManual } :=
  manual_refunds_recorded (fun _ => .refund 0 "provisioning_failed" none) awaitingWorld
    failedVmRefund awaitingWorld_recorded ⟨trivial, trivial, trivial⟩ 0 _ rfl rfl
    ⟨500, rfl, by norm_num⟩

end HyruleCloud
