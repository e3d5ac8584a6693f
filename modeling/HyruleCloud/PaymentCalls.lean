import HyruleCloud.DomainPayment
import HyruleCloud.Protocol

/-!
Several calls of `_mark_paid` that carry the payment of one order, domains/service.py.
`session.get` loads the order before the session takes a lock, and the locked select
returns the instance that is already loaded, with the columns of that earlier look.
The commit then writes the columns that differ from the ones loaded.
-/

namespace HyruleCloud

open Interaction Function

def flushOrder (loaded written current : DomainOrderRow) : DomainOrderRow :=
  { current with
    status := if written.status = loaded.status then current.status else written.status
    paidAt := if written.paidAt = loaded.paidAt then current.paidAt else written.paidAt
    payer := if written.payer = loaded.payer then current.payer else written.payer
    paymentTx := if written.paymentTx = loaded.paymentTx then current.paymentTx
      else written.paymentTx
    paymentNetwork := if written.paymentNetwork = loaded.paymentNetwork
      then current.paymentNetwork else written.paymentNetwork
    paymentAsset := if written.paymentAsset = loaded.paymentAsset then current.paymentAsset
      else written.paymentAsset
    billingMode := if written.billingMode = loaded.billingMode then current.billingMode
      else written.billingMode
    operationId := if written.operationId = loaded.operationId then current.operationId
      else written.operationId
    errorCode := if written.errorCode = loaded.errorCode then current.errorCode
      else written.errorCode }

/-- `_mark_paid` in a session that has loaded the order. -/
def markPaidLoaded (loaded : DomainOrderRow) (id : OrderId) (args : MarkArgs) (now : Time)
    (operation : OperationId) (waiverRevoked : Bool) : Transaction Store DomainOrderRow := fun s =>
  match s.orders id with
  | none => .error (.domainProblem 404 "order_not_found")
  | some current =>
    match markPaid id args now operation waiverRevoked
        { s with orders := s.orders.put id loaded } with
    | .error error => .error error
    | .ok (s', order) =>
      .ok ({ s' with orders := s'.orders.put id (flushOrder loaded order current) }, order)

theorem refunded_order {id : OrderId} {order next : DomainOrderRow} {code : String} {s s' : Store}
    (done : refundOrder id order code s = .ok (s', next)) :
    (next.status = .failed ∨ next.status = .refundDue) ∧ s'.jobs = s.jobs ∧
      s'.orders = s.orders.put id next := by
  unfold refundOrder at done
  split at done
  · cases done
    exact ⟨Or.inl rfl, rfl, rfl⟩
  · dsimp only at done
    split at done
    · cases done
    · cases done
      exact ⟨Or.inr rfl, rfl, rfl⟩

def IsOpen (status : OrderStatus) : Prop := status = .awaitingPayment ∨ status = .expired

instance (status : OrderStatus) : Decidable (IsOpen status) := inferInstanceAs (Decidable (_ ∨ _))

structure Commits (id : OrderId) (loaded written : DomainOrderRow) (s s' : Store) : Prop where
  moved : IsOpen loaded.status → ¬ IsOpen written.status
  still : ¬ IsOpen loaded.status → s' = s ∧ written = loaded
  accepted : IsOpen loaded.status → written.status = .queued →
    s.jobs (.order id) = none ∧ (s'.jobs (.order id)).isSome ∧
    written.errorCode = loaded.errorCode ∧
    ∃ operation, written.operationId = some operation ∧ (s'.operations operation).isSome
  refused : IsOpen loaded.status → written.status ≠ .queued → s'.jobs = s.jobs

section
variable {id : OrderId} {args : MarkArgs} {now : Time} {operation : OperationId}
  {waiverRevoked : Bool} {s s' : Store} {loaded written : DomainOrderRow}
  (found : s.orders id = some loaded)
  (done : markPaid id args now operation waiverRevoked s = .ok (s', written))
include id args now operation waiverRevoked s s' found done

theorem markPaid_commits :
    Commits id loaded written s s' := by
  obtain ⟨row, present, outcome⟩ :=
    markPaid_outcome id args now operation waiverRevoked s s' written done
  rw [found] at present
  cases present
  cases outcome with
  | revoked waived waiting failed stored =>
    have opened : IsOpen loaded.status := Or.inl waiting
    subst stored
    refine ⟨fun _ => ?_, fun closed => absurd opened closed, fun _ queued => ?_, fun _ _ => rfl⟩
    · rw [failed]
      decide
    · rw [failed] at queued
      cases queued
  | refunded code quotes opened refund =>
    obtain ⟨status, jobs, _⟩ := refunded_order refund
    have unqueued : written.status ≠ .queued := by
      rcases status with status | status <;> rw [status] <;> nofun
    refine ⟨fun _ => ?_, fun closed => ?_, fun _ queued => ?_, fun _ _ => jobs⟩
    · rcases status with status | status <;> rw [status] <;> decide
    · exact absurd opened.symm closed
    · exact absurd queued unqueued
  | ignored handled same kept =>
    have closed : ¬ IsOpen loaded.status := by
      rintro (waiting | expired)
      · exact handled.2 waiting
      · exact handled.1 expired
    subst same kept
    exact ⟨fun opened => absurd opened closed, fun _ => ⟨rfl, rfl⟩,
      fun opened => absurd opened closed, fun opened => absurd opened closed⟩
  | queued quotes waiting queue =>
    obtain ⟨fresh, accepted, stored⟩ := queued_order id _ written now operation _ s' queue
    have opened : IsOpen loaded.status := Or.inl waiting
    have queued : written.status = .queued := by rw [accepted]
    refine ⟨fun _ => ?_, fun closed => absurd opened closed,
      fun _ _ => ⟨fresh, ?_, ?_, operation, ?_, ?_⟩, fun _ other => absurd queued other⟩
    · rw [queued]
      decide
    · simp [stored]
    · rw [accepted]
      rfl
    · rw [accepted]
    · simp [stored]

end

structure Unserved (order : DomainOrderRow) : Prop where
  opened : IsOpen order.status
  operation : order.operationId = none
  code : order.errorCode ≠ some "quote_already_consumed"

/-- `loaded` are the orders that the calls hold in their sessions, `written` those that
a call has committed under a new status, `answers` those that it has returned. -/
structure PaymentDesk where
  store : Store
  loaded : ProcessId → Option DomainOrderRow
  written : List DomainOrderRow
  answers : List DomainOrderRow

inductive PaymentStep where
  | load (call : ProcessId)
  | settle (call : ProcessId) (args : MarkArgs) (now : Time) (operation : OperationId)
      (waiverRevoked : Bool) (fate : Fate)
  | expire (now : Time)
  | elsewhere (s : Store)

def settleLoaded (loaded : DomainOrderRow) (id : OrderId) (args : MarkArgs) (now : Time)
    (operation : OperationId) (waiverRevoked : Bool) : Transaction PaymentDesk DomainOrderRow :=
  fun desk => match markPaidLoaded loaded id args now operation waiverRevoked desk.store with
  | .error error => .error error
  | .ok (s, order) => .ok ({ desk with
      store := s
      written := if order.status = loaded.status then desk.written else order :: desk.written },
      order)

def paymentStep (id : OrderId) (step : PaymentStep) (desk : PaymentDesk) : PaymentDesk :=
  match step with
  | .load call => { desk with loaded := update desk.loaded call (desk.store.orders id) }
  | .settle call args now operation waiverRevoked fate => match desk.loaded call with
      | none => desk
      | some loaded =>
        match transact (settleLoaded loaded id args now operation waiverRevoked) fate
            { desk with loaded := update desk.loaded call none } with
        | (after, .ok order) => { after with answers := order :: after.answers }
        | (after, .error _) => after
  | .expire now => match desk.store.orders id with
      | none => desk
      | some order => { desk with store := expireUnpaidOrder id order now desk.store }
  | .elsewhere s => { desk with store := s }

/-- What everything else may do to the order: nobody else opens it, decides about its
payment, creates its job or forgets its operation. -/
structure Bystands (id : OrderId) (before after : Store) : Prop where
  waiting : ∀ order, before.orders id = some order → Unserved order →
    ∃ later, after.orders id = some later ∧ Unserved later
  moved : ∀ order, before.orders id = some order → ¬ IsOpen order.status →
    ∃ later, after.orders id = some later ∧ ¬ IsOpen later.status ∧
      later.operationId = order.operationId ∧
      (later.errorCode = order.errorCode ∨ later.errorCode ≠ some "quote_already_consumed")
  job : (after.jobs (.order id)).isSome = (before.jobs (.order id)).isSome
  operations : ∀ operation, (before.operations operation).isSome →
    (after.operations operation).isSome

def mayPay (id : OrderId) (step : PaymentStep) (desk : PaymentDesk) : Prop :=
  match step with
  | .elsewhere s => Bystands id desk.store s
  | _ => True

def payments (id : OrderId) : Protocol PaymentDesk PaymentStep := ⟨paymentStep id, mayPay id⟩

def FindsOpen (id : OrderId) (step : PaymentStep) (desk : PaymentDesk) : Prop :=
  match step with
  | .settle call _ _ _ _ _ => ∀ loaded ∈ desk.loaded call, IsOpen loaded.status →
      ∀ current ∈ desk.store.orders id, IsOpen current.status
  | _ => True

def currentPayments (id : OrderId) : Protocol PaymentDesk PaymentStep where
  step := paymentStep id
  may step desk := mayPay id step desk ∧ FindsOpen id step desk

structure AwaitsPayment (id : OrderId) (desk : PaymentDesk) : Prop where
  order : ∃ order, desk.store.orders id = some order ∧ order.status = .awaitingPayment ∧
    order.operationId = none ∧ order.errorCode = none
  job : desk.store.jobs (.order id) = none
  loaded : ∀ call, desk.loaded call = none
  written : desk.written = []
  answers : desk.answers = []

/-- The calls have together the outcome of one: one of them moves the order, and if it
accepts the payment there is one operation and one job, and the order stays accepted. -/
structure PaidOnce (id : OrderId) (desk : PaymentDesk) : Prop where
  once : desk.written.length ≤ 1
  answered : desk.answers ≠ [] → desk.written ≠ []
  job : (desk.store.jobs (.order id)).isSome ↔ ∃ order ∈ desk.written, order.status = .queued
  accepted : ∀ order ∈ desk.written, order.status = .queued →
    (∃ operation, order.operationId = some operation ∧
      (desk.store.operations operation).isSome) ∧
    ∃ current, desk.store.orders id = some current ∧ ¬ IsOpen current.status ∧
      current.operationId = order.operationId ∧
      current.errorCode ≠ some "quote_already_consumed"

theorem expireUnpaidOrder_frame (id : OrderId) (order : DomainOrderRow) (now : Time) (s : Store) :
    (expireUnpaidOrder id order now s).jobs = s.jobs ∧
      (expireUnpaidOrder id order now s).operations = s.operations ∧
      ((expireUnpaidOrder id order now s).orders = s.orders ∨ order.status = .awaitingPayment ∧
        (expireUnpaidOrder id order now s).orders = s.orders.put id
          { order with status := .expired, errorCode := some "quote_expired" }) := by
  unfold expireUnpaidOrder
  split
  · exact ⟨rfl, rfl, Or.inl rfl⟩
  rename_i waits
  have waiting : order.status = .awaitingPayment := not_not.mp waits
  split
  · exact ⟨rfl, rfl, Or.inr ⟨waiting, rfl⟩⟩
  split
  · exact ⟨rfl, rfl, Or.inr ⟨waiting, rfl⟩⟩
  · split
    · exact ⟨rfl, rfl, Or.inr ⟨waiting, rfl⟩⟩
    · exact ⟨rfl, rfl, Or.inr ⟨waiting, rfl⟩⟩

/-- No call has moved the order, and every call that holds it has loaded it open. -/
structure CallsUndecided (id : OrderId) (desk : PaymentDesk) : Prop where
  order : ∃ order, desk.store.orders id = some order ∧ Unserved order
  job : desk.store.jobs (.order id) = none
  loaded : ∀ call, ∀ order ∈ desk.loaded call, Unserved order
  written : desk.written = []
  answers : desk.answers = []

/-- One call has moved the order, to what `order` was then. -/
structure CallDecided (id : OrderId) (order : DomainOrderRow) (desk : PaymentDesk) : Prop where
  written : desk.written = [order]
  job : (desk.store.jobs (.order id)).isSome ↔ order.status = .queued
  current : ∃ current, desk.store.orders id = some current ∧ ¬ IsOpen current.status ∧
    (order.status = .queued →
      (∃ operation, order.operationId = some operation ∧
        (desk.store.operations operation).isSome) ∧
      current.operationId = order.operationId ∧
      current.errorCode ≠ some "quote_already_consumed")

def CallsSafe (id : OrderId) (desk : PaymentDesk) : Prop :=
  CallsUndecided id desk ∨ ∃ order, CallDecided id order desk

theorem callsSafe_once {id : OrderId} {desk : PaymentDesk} (safe : CallsSafe id desk) :
    PaidOnce id desk := by
  rcases safe with undecided | ⟨order, moved⟩
  · have written := undecided.written
    refine ⟨by simp [written], fun some => absurd undecided.answers some, ?_, ?_⟩
    · simp [undecided.job, written]
    · simp [written]
  · have written := moved.written
    refine ⟨by simp [written], fun _ => by simp [written], ?_, ?_⟩
    · simpa [written] using moved.job
    · intro one listed queued
      rw [written, List.mem_singleton] at listed
      subst listed
      obtain ⟨current, found, closed, accepted⟩ := moved.current
      obtain ⟨operation, same, code⟩ := accepted queued
      exact ⟨operation, current, found, closed, same, code⟩

section Steps
variable {id : OrderId} {desk : PaymentDesk}

theorem load_safe {call : ProcessId} (safe : CallsSafe id desk) :
    CallsSafe id (paymentStep id (.load call) desk) := by
  rcases safe with undecided | ⟨order, moved⟩
  · refine Or.inl { undecided with loaded := fun other => ?_ }
    by_cases same : other = call
    · subst same
      obtain ⟨order, found, unserved⟩ := undecided.order
      intro loaded holds
      simp only [paymentStep, update_self, found, Option.mem_def, Option.some.injEq]
        at holds
      subst holds
      exact unserved
    · simpa [paymentStep, same] using undecided.loaded other
  · exact Or.inr ⟨order, moved.written, moved.job, moved.current⟩

theorem bystands_safe {s : Store} (safe : CallsSafe id desk) (bystands : Bystands id desk.store s) :
    CallsSafe id { desk with store := s } := by
  rcases safe with undecided | ⟨order, moved⟩
  · obtain ⟨order, found, unserved⟩ := undecided.order
    have job := bystands.job
    rw [undecided.job, Option.isSome_none, Option.isSome_eq_false_iff, Option.isNone_iff_eq_none]
      at job
    exact Or.inl { undecided with order := bystands.waiting order found unserved, job := job }
  · obtain ⟨current, found, closed, accepted⟩ := moved.current
    obtain ⟨later, there, still, same, kept⟩ := bystands.moved current found closed
    refine Or.inr ⟨order, moved.written, ?_, later, there, still, fun queued => ?_⟩
    · rw [bystands.job]
      exact moved.job
    · obtain ⟨⟨operation, named, exist⟩, bound, code⟩ := accepted queued
      exact ⟨⟨operation, named, bystands.operations operation exist⟩, same.trans bound,
        kept.elim (fun same => same ▸ code) fun other => other⟩

theorem expire_bystands {order : DomainOrderRow} {now : Time} {s : Store}
    (found : s.orders id = some order) : Bystands id s (expireUnpaidOrder id order now s) := by
  obtain ⟨jobs, operations, orders⟩ := expireUnpaidOrder_frame id order now s
  refine ⟨fun other there unserved => ?_, fun other there closed => ?_, by rw [jobs],
    fun _ exist => by rw [operations]; exact exist⟩
  · rw [found] at there
    cases there
    rcases orders with same | ⟨_, expired⟩
    · exact ⟨order, by rw [same, found], unserved⟩
    · refine ⟨{ order with status := .expired, errorCode := some "quote_expired" },
        by rw [expired, put_same], Or.inr rfl, unserved.operation, ?_⟩
      simp
  · rw [found] at there
    cases there
    rcases orders with same | ⟨waiting, _⟩
    · exact ⟨order, by rw [same, found], closed, rfl, Or.inl rfl⟩
    · exact absurd (Or.inl waiting) closed

section
variable {args : MarkArgs} {now : Time} {operation : OperationId} {waiverRevoked : Bool}
  {loaded order : DomainOrderRow} {after : PaymentDesk}

theorem settled_loaded
    (done : settleLoaded loaded id args now operation waiverRevoked desk = .ok (after, order)) :
    ∃ current s, desk.store.orders id = some current ∧
      Commits id loaded order { desk.store with orders := desk.store.orders.put id loaded } s ∧
      after = { desk with
        store := { s with orders := s.orders.put id (flushOrder loaded order current) }
        written := if order.status = loaded.status then desk.written else order :: desk.written } := by
  unfold settleLoaded markPaidLoaded at done
  cases found : desk.store.orders id with
  | none => simp [found] at done
  | some current =>
    simp only [found] at done
    cases marked : markPaid id args now operation waiverRevoked
        { desk.store with orders := desk.store.orders.put id loaded } with
    | error error => simp [marked] at done
    | ok result =>
      obtain ⟨s, written⟩ := result
      simp only [marked, Except.ok.injEq, Prod.mk.injEq] at done
      obtain ⟨stored, rfl⟩ := done
      exact ⟨current, s, rfl, markPaid_commits (put_same _ _ _) marked, stored.symm⟩

theorem first_settles (undecided : CallsUndecided id desk) (unserved : Unserved loaded)
    (done : settleLoaded loaded id args now operation waiverRevoked desk = .ok (after, order)) :
    CallDecided id order after := by
  obtain ⟨current, s, found, commits, rfl⟩ := settled_loaded done
  have closed : ¬ IsOpen order.status := commits.moved unserved.opened
  have changed : order.status ≠ loaded.status := by
    intro same
    rw [same] at closed
    exact closed unserved.opened
  obtain ⟨before, there, waits⟩ := undecided.order
  rw [found] at there
  cases there
  have status : (flushOrder loaded order current).status = order.status := if_neg changed
  refine ⟨by simp [changed, undecided.written], ?_, _, put_same _ _ _, ?_, fun queued => ?_⟩
  · constructor
    · intro listed
      by_contra other
      have same : s.jobs = desk.store.jobs := commits.refused unserved.opened other
      rw [same, undecided.job] at listed
      cases listed
    · intro queued
      exact (commits.accepted unserved.opened queued).2.1
  · rw [status]
    exact closed
  · obtain ⟨_, _, code, operation, named, exist⟩ := commits.accepted unserved.opened queued
    refine ⟨⟨operation, named, exist⟩, if_neg ?_, ?_⟩
    · rw [named, unserved.operation]
      simp
    · have kept : (flushOrder loaded order current).errorCode = current.errorCode := if_pos code
      rw [kept]
      exact waits.code

theorem later_settles (closed : ¬ IsOpen loaded.status)
    (done : settleLoaded loaded id args now operation waiverRevoked desk = .ok (after, order)) :
    after = desk := by
  obtain ⟨current, s, found, commits, rfl⟩ := settled_loaded done
  obtain ⟨rfl, rfl⟩ := commits.still closed
  have unwritten : flushOrder order order current = current := by simp [flushOrder]
  have restored : (desk.store.orders.put id order).put id current = desk.store.orders := by
    rw [Table.put, Table.put, update_idem]
    exact put_self found
  simp only [unwritten, restored, if_true]

end

theorem settle_safe {call : ProcessId} {args : MarkArgs} {now : Time} {operation : OperationId}
    {waiverRevoked : Bool} {fate : Fate} (safe : CallsSafe id desk)
    (finds : FindsOpen id (.settle call args now operation waiverRevoked fate) desk) :
    CallsSafe id (paymentStep id (.settle call args now operation waiverRevoked fate) desk) := by
  simp only [paymentStep]
  cases holds : desk.loaded call with
  | none => exact safe
  | some loaded =>
    dsimp only
    generalize ended : { desk with loaded := update desk.loaded call none } = begun
    have same : begun.store = desk.store ∧ begun.written = desk.written ∧
        begun.answers = desk.answers ∧ ∀ other, ∀ order ∈ begun.loaded other,
          order ∈ desk.loaded other := by
      subst ended
      refine ⟨rfl, rfl, rfl, fun other order there => ?_⟩
      by_cases mine : other = call
      · subst mine
        simp at there
      · simpa [mine] using there
    obtain ⟨store, written, answers, fewer⟩ := same
    generalize ran : transact (settleLoaded loaded id args now operation waiverRevoked) fate
      begun = result
    obtain ⟨after, reply⟩ := result
    have ends := transact_ends _ _ _ _ _ ran
    rcases safe with undecided | ⟨first, decided⟩
    · have waits : CallsUndecided id begun := by
        refine ⟨by rw [store]; exact undecided.order, by rw [store]; exact undecided.job, ?_,
          written.trans undecided.written, answers.trans undecided.answers⟩
        exact fun other order there => undecided.loaded other order (fewer other order there)
      rcases ends with ⟨rfl, error, rfl, _⟩ | ⟨order, done, reply_is⟩
      · exact Or.inl waits
      have decided := first_settles waits (undecided.loaded call loaded holds) done
      rcases reply_is with rfl | rfl
      · exact Or.inr ⟨order, decided.written, decided.job, decided.current⟩
      · exact Or.inr ⟨order, decided⟩
    · have still : CallDecided id first begun := by
        refine ⟨written.trans decided.written, ?_, ?_⟩
        · rw [store]
          exact decided.job
        · rw [store]
          exact decided.current
      have closed : ¬ IsOpen loaded.status := by
        intro opened
        obtain ⟨current, found, past, _⟩ := decided.current
        exact past (finds loaded holds opened current found)
      rcases ends with ⟨rfl, error, rfl, _⟩ | ⟨order, done, reply_is⟩
      · exact Or.inr ⟨first, still⟩
      have kept := later_settles closed done
      subst kept
      rcases reply_is with rfl | rfl
      · exact Or.inr ⟨first, still.written, still.job, still.current⟩
      · exact Or.inr ⟨first, still⟩

end Steps

theorem step_callsSafe {id : OrderId} (step : PaymentStep) (desk : PaymentDesk)
    (safe : CallsSafe id desk) (may : (currentPayments id).may step desk) :
    CallsSafe id ((currentPayments id).step step desk) := by
  cases step with
  | load call => exact load_safe safe
  | settle call args now operation waiverRevoked fate => exact settle_safe safe may.2
  | elsewhere s => exact bystands_safe safe may.1
  | expire now =>
    simp only [currentPayments, paymentStep]
    split
    · exact safe
    · rename_i order found
      exact bystands_safe safe (expire_bystands found)

/-- In every run in which a call that loaded an open order finds it open. -/
theorem order_paid_once (id : OrderId) (desk : PaymentDesk) (awaits : AwaitsPayment id desk)
    (steps : List PaymentStep) (admitted : (currentPayments id).admits desk steps) :
    PaidOnce id ((currentPayments id).run desk steps) := by
  obtain ⟨order, found, waiting, operation, code⟩ := awaits.order
  have unserved : Unserved order := ⟨Or.inl waiting, operation, by rw [code]; simp⟩
  have nothing : ∀ call, ∀ order ∈ desk.loaded call, Unserved order := by
    intro call order holds
    rw [awaits.loaded call] at holds
    cases holds
  have start : CallsSafe id desk :=
    Or.inl { awaits with order := ⟨order, found, unserved⟩, loaded := nothing }
  exact callsSafe_once ((currentPayments id).run_keeps step_callsSafe steps desk start admitted)

def unpaidOrder : DomainOrderRow where
  quoteId := 0
  fqdn := 0
  action := .register
  ownerAccountId := some 0
  amountUsd := 20
  domainAmountUsd := 20

/-- One order awaits its payment, on a quote that is good until 1000. -/
def waitingDesk : PaymentDesk where
  store := {
    vmQuotes := fun _ => none
    vms := fun _ => none
    intents := fun _ => none
    domainQuotes := fun _ => some ⟨.active, 1000⟩
    orders := fun id => if id = 0 then some unpaidOrder else none
    domains := fun _ => none
    operations := fun _ => none
    jobs := fun _ => none
    events := []
    disabled := fun _ => false }
  loaded _ := none
  written := []
  answers := []

theorem waitingDesk_awaits : AwaitsPayment 0 waitingDesk where
  order := ⟨unpaidOrder, rfl, rfl, rfl, rfl⟩
  job := rfl
  loaded _ := rfl
  written := rfl
  answers := rfl

def settles (call : ProcessId) : PaymentStep :=
  .settle call { payer := .evm 7, txHash := some (.chain 1) } 10 call false .done

/-- The handler settles, and the sweep repeats its call later. -/
theorem repeated_call_paid_once :
    PaidOnce 0 ((currentPayments 0).run waitingDesk [.load 0, settles 0, .load 1, settles 1]) := by
  refine order_paid_once 0 waitingDesk waitingDesk_awaits _ ⟨⟨trivial, trivial⟩, ⟨trivial, ?_⟩,
    ⟨trivial, trivial⟩, ⟨trivial, ?_⟩, trivial⟩
  · intro loaded _ _ current found
    cases found
    decide
  · intro loaded holds opened
    cases holds
    exact absurd opened (by decide)

/-- Two calls load the order before either takes the lock. -/
theorem overlapping_calls_refund :
    ¬ ∀ (id : OrderId) (desk : PaymentDesk) (steps : List PaymentStep), AwaitsPayment id desk →
      (payments id).admits desk steps → PaidOnce id ((payments id).run desk steps) := by
  intro always
  have paid := always 0 waitingDesk [.load 0, .load 1, settles 0, settles 1] waitingDesk_awaits
    ⟨trivial, trivial, trivial, trivial, trivial⟩
  exact absurd paid.once (by decide +kernel)

end HyruleCloud
