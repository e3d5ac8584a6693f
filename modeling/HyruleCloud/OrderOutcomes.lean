import HyruleCloud.DomainWorkers

/-!
What becomes of a paid order over a whole run: it is delivered or refunded and never
both, at most one order is delivered for a name, and a refund is recorded exactly
once. Each of the three holds in every run of diligent executions, and fails in some
run of the worker as it is.
-/

namespace HyruleCloud

open Interaction

theorem Lasts.refl (d : Registry) : Lasts d d :=
  (Spares.refl 0 d).lasts

def isOver : Thread Issued Err → Prop
  | .live (.call _ _) => False
  | _ => True

instance : DecidablePred isOver
  | .live (.call _ _) => .isFalse id
  | .live (.ret _) | .live (.raise _) | .idle | .crashed => .isTrue trivial

section Runs
variable (config : DomainConfig) (prompt : Prop) {d : Registry} (opening : Opening d)
  (first rest : List (Action ProcessId JobChoice Happening))
  (admitted : runAdmitted (workers config (diligentWorkers config prompt)) ⟨d, fun _ => .idle⟩
    (first ++ rest))
include opening admitted

theorem workers_safe :
    PoolSafe (W := workers config (diligentWorkers config prompt)) Orderly (jobDuty prompt)
      (fun w d => d.owing w = none) (fun w _ => Released prompt w)
      (run (workers config (diligentWorkers config prompt)) ⟨d, fun _ => .idle⟩ first) := by
  obtain ⟨before, _⟩ := (runAdmitted_append _ _ first rest).mp admitted
  exact run_safe (workers_composable config prompt) first ⟨d, fun _ => .idle⟩
    ⟨opening_orderly opening, opening.idle⟩ before

theorem workers_lasting :
    Lasts (run (workers config (diligentWorkers config prompt)) ⟨d, fun _ => .idle⟩ first).shared
      (run (workers config (diligentWorkers config prompt)) ⟨d, fun _ => .idle⟩
        (first ++ rest)).shared := by
  have mid := workers_safe config prompt opening first rest admitted
  obtain ⟨_, after⟩ := (runAdmitted_append _ _ first rest).mp admitted
  rw [run_append]
  refine run_related (workers_composable config prompt) Lasts Lasts.refl
    (fun _ _ _ first second => first.trans second) (fun w a b stepped => ?_)
    (fun event d orderly may => ?_) rest _ mid after
  · have spares := stepped (w + 1) (Nat.succ_ne_self w)
    exact spares.lasts
  · have spares := (happen_kept event orderly may).2 0
    exact spares.lasts

end Runs

/-! Runs to evaluate: quotes are consumed, and nothing has been ordered. -/

instance (order : DomainOrderRow) : Decidable (Payable order) :=
  decidable_of_iff (0 < order.amountUsd ∧ 0 < order.domainAmountUsd ∧
      (order.paymentMethod.isNative = true ∨ order.payer.isSome) ∧
      (order.vmQuoteId = none → order.vmAmountUsd = 0))
    ⟨fun ⟨amount, domain, payer, single⟩ => ⟨amount, domain, payer, single⟩,
      fun ⟨amount, domain, payer, single⟩ => ⟨amount, domain, payer, single⟩⟩

def firstPayment (event : Happening) (d : Registry) : Bool :=
  match event with
  | .paid id order _ _ _ => (d.orders id).isNone && decide (Payable order)
  | _ => false

variable {d : Registry}

theorem firstPayment_may {event : Happening} (first : firstPayment event d = true) :
    mayHappen event d := by
  cases event with
  | paid id order now operation newer =>
    simp only [firstPayment, Bool.and_eq_true, Option.isNone_iff_eq_none, decide_eq_true_eq]
      at first
    exact first
  | _ => cases first

def openCheck (config : DomainConfig) : Interaction.Check (workers config (openWorkers config)) where
  reply _ _ _ := true
  event := firstPayment
  permits _ _ _ _ := trivial
  mayCrash _ _ := trivial
  mayTick _ _ first := firstPayment_may first

def knowsItems {β : Type} (w : ProcessId) (request : JobReq β) (d : Registry) : Bool :=
  match request with
  | .session request => (request.rewrites d).all (d.known w) && !request.failsJob
  | _ => true

theorem knowsItems_diligent {β : Type} {prompt : Prop} {w : ProcessId} {request : JobReq β}
    {choice : JobChoice} (knows : knowsItems w request d = true)
    (settled : d.owing w = none) : Diligent prompt w request choice d := by
  cases request with
  | session request =>
    simp only [knowsItems, Bool.and_eq_true, List.all_eq_true, Bool.not_eq_true'] at knows
    obtain ⟨knows, lasting⟩ := knows
    refine ⟨fun _ => ⟨fun owes => absurd settled owes, fun fails => ?_⟩, Or.inr ⟨knows, ?_⟩⟩
    · rw [lasting] at fails
      cases fails
    · cases request with
      | failJob claim view error => cases lasting
      | _ => trivial
  | read request => exact fun _ owes => absurd settled owes
  | remote | bundle => trivial

def diligentCheck (config : DomainConfig) (prompt : Prop) :
    Interaction.Check (workers config (diligentWorkers config prompt)).mortal where
  reply issued _ d := knowsItems issued.worker issued.request d && (d.owing issued.worker).isNone
  event := firstPayment
  permits issued choice d passed := by
    simp only [Bool.and_eq_true, Option.isNone_iff_eq_none] at passed
    exact knowsItems_diligent passed.1 passed.2
  mayCrash _ _ := trivial
  mayTick _ _ first := firstPayment_may first

def exampleConfig : DomainConfig := ⟨0, 0, 600, 60⟩

def emptyRegistry : Registry where
  vmQuotes _ := none
  vms _ := none
  intents _ := none
  domainQuotes _ := some ⟨.consumed, 0⟩
  orders _ := none
  domains _ := none
  operations _ := none
  jobs _ := none
  events := []
  disabled _ := false
  listed := []
  known _ _ := false
  marked _ := none
  submissions := []
  entries := []
  owing _ := none

theorem emptyRegistry_opening : Opening emptyRegistry where
  orders _ := rfl
  jobs _ := rfl
  rows _ _ found := by cases found
  refunds _ := rfl
  idle _ := rfl
  submissions := rfl
  entries := rfl

def exampleOrder : DomainOrderRow where
  quoteId := 0
  fqdn := 0
  action := .register
  ownerAccountId := some 0
  amountUsd := 20
  domainAmountUsd := 20
  payer := some (.evm 0)

abbrev Happenings := List (Action ProcessId JobChoice Happening)

def paysOrder (id : OrderId) : Happenings := [.tick (.paid id exampleOrder 0 id 0)]

def claimsJob (w : ProcessId) (id : OrderId) (now : Time) : Happenings :=
  [.start w, .step w { found := some (.order id), now := now }]

/-- The registrar offers the name for less than was paid, and registers it at once. -/
def goesOn (w : ProcessId) (steps : Nat) : Happenings :=
  List.replicate steps (.step w { answer := {
    check := { priceAmount := some 10, priceCurrency := some 0 }
    result := { id := some 7, status := .active } } })

/-- The name has become a premium name since, which fails the order. -/
def turnsPremium (w : ProcessId) : Happenings :=
  [.step w { answer := { check := { isPremium := true } } }]

def registersOrder : Happenings := paysOrder 0 ++ claimsJob 0 0 0 ++ goesOn 0 22

/-- The second execution refunds the order while the first is at the registrar. -/
def overtakes : Happenings :=
  paysOrder 0 ++ claimsJob 0 0 0 ++ goesOn 0 8 ++ claimsJob 1 0 601 ++ goesOn 1 5 ++
    turnsPremium 1 ++ goesOn 1 4

/-- The same, and a second order for the name is delivered in the meantime. -/
def rebinds : Happenings :=
  paysOrder 0 ++ paysOrder 1 ++ claimsJob 0 0 0 ++ goesOn 0 9 ++ claimsJob 1 0 601 ++
    goesOn 1 5 ++ turnsPremium 1 ++ goesOn 1 4 ++ claimsJob 2 1 700 ++ goesOn 2 21

def attemptsJob (w : ProcessId) (order : OrderId) : Happenings :=
  claimsJob w order (w * 10000) ++
    [.step w { fate := .failed }, .step w {}, .step w { now := w * 10000 }]

def diesUnrefunded : Happenings :=
  paysOrder 0 ++ (List.range 9).flatMap (attemptsJob · 0) ++ claimsJob 9 0 90000 ++
    [.step 9 { fate := .failed }, .step 9 {}, .step 9 {}, .step 9 {}, .crash 9]

/-- An order without a VM that has been delivered stays delivered and is never
refunded, and one whose refund is recorded is never delivered again. -/
structure DeliveredOrRefunded (mid final : Registry) : Prop where
  delivered : ∀ id order, mid.orders id = some order → order.vmQuoteId = none →
    order.status = .active → refundsOwed id final = 0 ∧
      ∃ later, final.orders id = some later ∧ later.status = .active
  refunded : ∀ id order, mid.orders id = some order → order.vmQuoteId = none →
    refundsOwed id mid ≠ 0 → ∃ later, final.orders id = some later ∧ Due later.status

theorem active_unrefunded {id : OrderId} {order : DomainOrderRow}
    (orderly : Orderly d) (found : d.orders id = some order) (single : order.vmQuoteId = none)
    (active : order.status = .active) : refundsOwed id d = 0 := by
  by_contra recorded
  rcases (orderly.ledgers.balanced id order found).kept recorded with due | bundle
  · rcases due with due | due <;> rw [active] at due <;> cases due
  · exact bundle.2 single

theorem lasting_delivered {mid final : Registry} (before : Orderly mid) (after : Orderly final)
    (lasts : Lasts mid final) : DeliveredOrRefunded mid final where
  delivered id order found single active := by
    obtain ⟨later, there, proceeds⟩ := lasts.orders id order found
    have still := proceeds.active single active
    have alone : later.vmQuoteId = none := (terms_quote proceeds.terms).trans single
    exact ⟨active_unrefunded after there alone still, later, there, still⟩
  refunded id order found single recorded := by
    obtain ⟨later, there, proceeds⟩ := lasts.orders id order found
    refine ⟨later, there, proceeds.due ?_⟩
    exact ((before.ledgers.balanced id order found).kept recorded).resolve_right
      fun bundle => bundle.2 single

/-- In every run whose executions lose no update. -/
theorem orders_delivered_or_refunded (config : DomainConfig) (d : Registry) (opening : Opening d)
    (first rest : List (Action ProcessId JobChoice Happening))
    (admitted : runAdmitted (workers config (diligentWorkers config False)) ⟨d, fun _ => .idle⟩
      (first ++ rest)) :
    DeliveredOrRefunded
      (run (workers config (diligentWorkers config False)) ⟨d, fun _ => .idle⟩ first).shared
      (run (workers config (diligentWorkers config False)) ⟨d, fun _ => .idle⟩
        (first ++ rest)).shared := by
  have whole : runAdmitted (workers config (diligentWorkers config False)) ⟨d, fun _ => .idle⟩
      ((first ++ rest) ++ []) := by rw [List.append_nil]; exact admitted
  exact lasting_delivered (workers_safe config False opening first rest admitted).1
    (workers_safe config False opening (first ++ rest) [] whole).1
    (workers_lasting config False opening first rest admitted)

theorem order_delivered :
    DeliveredOrRefunded
      (run (workers exampleConfig (diligentWorkers exampleConfig False))
        ⟨emptyRegistry, fun _ => .idle⟩ (paysOrder 0)).shared
      (run (workers exampleConfig (diligentWorkers exampleConfig False))
        ⟨emptyRegistry, fun _ => .idle⟩ registersOrder).shared :=
  orders_delivered_or_refunded exampleConfig emptyRegistry emptyRegistry_opening (paysOrder 0)
    (claimsJob 0 0 0 ++ goesOn 0 22)
    (runAdmitted_uncrashed _ _ (by decide +kernel) _
      ((diligentCheck exampleConfig False).runAdmitted _ _ _ (by decide +kernel)))

/-- The first execution delivers what the second has refunded. -/
theorem order_refunded_and_delivered :
    ¬ ∀ (config : DomainConfig) (d : Registry) (first rest : Happenings), Opening d →
      runAdmitted (workers config (openWorkers config)) ⟨d, fun _ => .idle⟩ (first ++ rest) →
      DeliveredOrRefunded
        (run (workers config (openWorkers config)) ⟨d, fun _ => .idle⟩ first).shared
        (run (workers config (openWorkers config)) ⟨d, fun _ => .idle⟩ (first ++ rest)).shared := by
  intro always
  have outcome := always exampleConfig emptyRegistry overtakes (goesOn 0 14) emptyRegistry_opening
    ((openCheck exampleConfig).runAdmitted _ _ _ (by decide +kernel))
  have paid : ((run (workers exampleConfig (openWorkers exampleConfig))
      ⟨emptyRegistry, fun _ => .idle⟩ overtakes).shared.orders 0).map (·.vmQuoteId) = some none := by
    decide +kernel
  obtain ⟨order, found, single⟩ := Option.map_eq_some_iff.mp paid
  obtain ⟨later, there, due⟩ := outcome.refunded 0 order found single (by decide +kernel)
  have delivered : ((run (workers exampleConfig (openWorkers exampleConfig))
      ⟨emptyRegistry, fun _ => .idle⟩ (overtakes ++ goesOn 0 14)).shared.orders 0).map (·.status) =
        some .active := by decide +kernel
  rw [there] at delivered
  rw [Option.map_some, Option.some.injEq] at delivered
  rw [delivered] at due
  exact absurd due (by decide)

/-! At most one delivery for a name, and a refund for everybody else. -/

/-- The order is charged, and the job that fulfils it has completed or failed. -/
def JobOver (id : OrderId) (order : DomainOrderRow) (d : Registry) : Prop :=
  order.billingMode.isWaived = false ∧ ∃ job, d.jobs (.order id) = some job ∧ job.status.hasEnded

def NobodyWorks (thread : ProcessId → Thread Issued Err) : Prop := ∀ w, isOver (thread w)

def AtRegistrar (order : DomainOrderRow) : Prop :=
  order.status = .active ∨ order.status = .providerPending

instance (order : DomainOrderRow) : Decidable (AtRegistrar order) :=
  inferInstanceAs (Decidable (_ ∨ _))

/-- A refund is recorded at most once, and exactly once for an order that nobody
works on any more and that did not get as far as the registrar. -/
structure RefundedOnce (final : Pool Issued Err Registry ProcessId) : Prop where
  once : ∀ id order, final.shared.orders id = some order → refundsOwed id final.shared ≤ 1
  undelivered : NobodyWorks final.thread → ∀ id order, final.shared.orders id = some order →
    JobOver id order final.shared → ¬ AtRegistrar order → refundsOwed id final.shared = 1

/-- Of the registration orders for a name at most one is ever delivered, everything
that went to the registrar or came back concerned the order that the row named, and
the other orders are refunded. -/
structure OneDelivered (mid : Registry) (final : Pool Issued Err Registry ProcessId) : Prop where
  one : ∀ x y order other, mid.orders x = some order → final.shared.orders y = some other →
    order.action = .register → other.action = .register → order.fqdn = other.fqdn →
    order.status = .active → other.status = .active → x = y
  submitted : ∀ mark ∈ final.shared.submissions, ∃ id, mark = some ⟨id, some id⟩
  owner : ∀ fqdn row id, final.shared.domains fqdn = some row → row.clientOrderId = some id →
    ∃ order, final.shared.orders id = some order ∧ order.fqdn = fqdn ∧
      order.ownerAccountId = row.ownerAccountId
  written : ∀ entry ∈ final.shared.entries, entry.written = entry.obtained
  others : NobodyWorks final.thread → ∀ id order, final.shared.orders id = some order →
    order.action = .register → JobOver id order final.shared →
    (AtRegistrar order ∧ ∃ row, final.shared.domains order.fqdn = some row ∧
      row.clientOrderId = some id) ∨ refundsOwed id final.shared = 1

theorem over_owes_nothing {config : DomainConfig} {pool : Pool Issued Err Registry ProcessId}
    (safe : PoolSafe (W := workers config (diligentWorkers config True)) Orderly (jobDuty True)
      (fun w d => d.owing w = none) (fun w _ => Released True w) pool)
    (past : NobodyWorks pool.thread) (w : ProcessId) : pool.shared.owing w = none := by
  have mine := safe.2 w
  have dead := past w
  cases phase : pool.thread w with
  | idle =>
    rw [phase] at mine
    exact mine
  | crashed =>
    rw [phase] at mine
    exact mine trivial
  | live program =>
    rw [phase] at mine dead
    cases program with
    | ret | raise => exact mine trivial
    | call request next => exact absurd dead id

theorem over_concluded (orderly : Orderly d) (settled : ∀ w, d.owing w = none)
    {id : OrderId} {order : DomainOrderRow} (found : d.orders id = some order)
    (past : JobOver id order d) : AtRegistrar order ∨ refundsOwed id d = 1 := by
  obtain ⟨charged, job, listed, ended⟩ := past
  rcases orderly.ends.ended id job order listed found ended with concluded | ⟨w, owing⟩
  · rcases concluded with waived | active | pending | due
    · rw [charged] at waived
      cases waived
    · exact Or.inl (Or.inl active)
    · exact Or.inl (Or.inr pending)
    · exact Or.inr ((orderly.ledgers.balanced id order found).due due)
  · rw [settled w] at owing
    cases owing

variable {final : Pool Issued Err Registry ProcessId}

theorem orderly_refundedOnce (orderly : Orderly final.shared)
    (settled : NobodyWorks final.thread → ∀ w, final.shared.owing w = none) :
    RefundedOnce final where
  once _ _ found := (orderly.ledgers.balanced _ _ found).once
  undelivered past _ _ found ended away :=
    (over_concluded orderly (settled past) found ended).resolve_left away

theorem orderly_oneDelivered {mid : Registry}
    (before : Orderly mid) (after : Orderly final.shared) (lasts : Lasts mid final.shared)
    (settled : NobodyWorks final.thread → ∀ w, final.shared.owing w = none) :
    OneDelivered mid final where
  one x y order other found there registers also name active delivered := by
    obtain ⟨row, bound, seats⟩ := before.bindings.seated x order found registers
      (Or.inr (Or.inr active))
    obtain ⟨later, kept, confirmed⟩ := lasts.rows order.fqdn row bound
    obtain ⟨last, last_bound, last_seats⟩ := after.bindings.seated y other there also
      (Or.inr (Or.inr delivered))
    rw [← name, kept] at last_bound
    cases last_bound
    have same := (confirmed (seats.delivered active)).1
    rw [seats.bound, last_seats.bound] at same
    exact (Option.some.inj same).symm
  submitted := after.traces.submissions
  owner fqdn row id found bound := by
    obtain ⟨order, exist, name, _, owner⟩ := after.bindings.named fqdn row id found bound
    exact ⟨order, exist, name, owner⟩
  written := after.traces.entries
  others past id order found registers ended := by
    refine (over_concluded after (settled past) found ended).imp_left fun there => ⟨there, ?_⟩
    have seated : Seated order.status := there.elim (fun now => Or.inr (Or.inr now))
      fun now => Or.inr (Or.inl now)
    obtain ⟨row, bound, seats⟩ := after.bindings.seated id order found registers seated
    exact ⟨row, bound, seats.bound⟩

/-- In every run whose executions lose no update and leave no refund behind. -/
theorem one_order_delivered (config : DomainConfig) (d : Registry) (opening : Opening d)
    (first rest : List (Action ProcessId JobChoice Happening))
    (admitted : runAdmitted (workers config (diligentWorkers config True)) ⟨d, fun _ => .idle⟩
      (first ++ rest)) :
    OneDelivered
      (run (workers config (diligentWorkers config True)) ⟨d, fun _ => .idle⟩ first).shared
      (run (workers config (diligentWorkers config True)) ⟨d, fun _ => .idle⟩
        (first ++ rest)) := by
  have whole : runAdmitted (workers config (diligentWorkers config True)) ⟨d, fun _ => .idle⟩
      ((first ++ rest) ++ []) := by rw [List.append_nil]; exact admitted
  have final := workers_safe config True opening (first ++ rest) [] whole
  exact orderly_oneDelivered (workers_safe config True opening first rest admitted).1 final.1
    (workers_lasting config True opening first rest admitted) (over_owes_nothing final)

theorem first_order_delivered :
    OneDelivered
      (run (workers exampleConfig (diligentWorkers exampleConfig True))
        ⟨emptyRegistry, fun _ => .idle⟩ (paysOrder 0)).shared
      (run (workers exampleConfig (diligentWorkers exampleConfig True))
        ⟨emptyRegistry, fun _ => .idle⟩ registersOrder) :=
  one_order_delivered exampleConfig emptyRegistry emptyRegistry_opening (paysOrder 0)
    (claimsJob 0 0 0 ++ goesOn 0 22)
    (runAdmitted_uncrashed _ _ (by decide +kernel) _
      ((diligentCheck exampleConfig True).runAdmitted _ _ _ (by decide +kernel)))

/-- The first execution delivers its order on the row of the second order. -/
theorem both_orders_delivered :
    ¬ ∀ (config : DomainConfig) (d : Registry) (first rest : Happenings), Opening d →
      runAdmitted (workers config (openWorkers config)) ⟨d, fun _ => .idle⟩ (first ++ rest) →
      OneDelivered
        (run (workers config (openWorkers config)) ⟨d, fun _ => .idle⟩ first).shared
        (run (workers config (openWorkers config)) ⟨d, fun _ => .idle⟩ (first ++ rest)) := by
  intro always
  have outcome := always exampleConfig emptyRegistry rebinds (goesOn 0 14) emptyRegistry_opening
    ((openCheck exampleConfig).runAdmitted _ _ _ (by decide +kernel))
  have second : ((run (workers exampleConfig (openWorkers exampleConfig))
      ⟨emptyRegistry, fun _ => .idle⟩ rebinds).shared.orders 1).map
        (fun order => (order.action, order.fqdn, order.status)) = some (.register, 0, .active) := by
    decide +kernel
  have first : ((run (workers exampleConfig (openWorkers exampleConfig))
      ⟨emptyRegistry, fun _ => .idle⟩ (rebinds ++ goesOn 0 14)).shared.orders 0).map
        (fun order => (order.action, order.fqdn, order.status)) = some (.register, 0, .active) := by
    decide +kernel
  obtain ⟨order, found, columns⟩ := Option.map_eq_some_iff.mp second
  obtain ⟨other, there, others⟩ := Option.map_eq_some_iff.mp first
  simp only [Prod.mk.injEq] at columns others
  obtain ⟨registers, name, active⟩ := columns
  obtain ⟨also, same_name, delivered⟩ := others
  exact absurd (outcome.one 1 0 order other found there registers also
    (name.trans same_name.symm) active delivered) (by decide)

theorem diesUnrefunded_over :
    NobodyWorks (run (workers exampleConfig (openWorkers exampleConfig))
      ⟨emptyRegistry, fun _ => .idle⟩ diesUnrefunded).thread := by
  intro w
  by_cases early : w < 10
  · have past : ∀ w < 10, isOver ((run (workers exampleConfig (openWorkers exampleConfig))
        ⟨emptyRegistry, fun _ => .idle⟩ diesUnrefunded).thread w) := by decide +kernel
    exact past w early
  · have busy : ∀ action ∈ diesUnrefunded, ∀ v ∈ action.actor, v < 10 := by decide +kernel
    rw [run_untouched _ w _ fun action listed acts => early (busy action listed w acts)]
    trivial

end HyruleCloud
