import HyruleCloud.DomainPayment
import HyruleCloud.Protocol

/-!
`resolve_refund` of api/admin.py: an administrator notes that an obligation of the ledger
has been paid out, or is refused. The event is looked up without a lock; the order and the
event are then locked, in this order, and read again. The id of an event is its place in
the ledger.
-/

namespace HyruleCloud.Refunds

open Interaction

abbrev EventId := Nat

inductive ResolutionStatus where
  | resolved | rejected
  deriving DecidableEq

/-- `RefundResolutionRequest`, with the administrator. -/
structure ResolutionRequest where
  event : EventId
  status : ResolutionStatus
  externalReference : Option String := none
  transactionHash : Option String := none
  reason : String
  actor : AccountId

/-- `resource_type` and `resource_id` -/
inductive RefundResource where
  | vm (id : VmId) | domain (id : OrderId) | payment (tx : Tx) | event (id : EventId)

structure RefundResolution where
  event : EventId
  resource : RefundResource
  status : ResolutionStatus
  amountUsd : Option Usd
  network : Option String
  payerWallet : Option Wallet
  externalReference : Option String
  transactionHash : Option String
  reason : String
  actor : AccountId

/-- A request, and the order that its event named without a lock. -/
structure Look where
  request : ResolutionRequest
  linked : Option OrderId

/-- An order that becomes REFUNDED: its status before, whether something of it is delivered,
and its obligations without a resolution. -/
structure StatusChange where
  before : OrderStatus
  delivered : Bool
  unresolved : List EventId
  deriving DecidableEq

structure ResolutionDesk where
  store : Store
  resolutions : List RefundResolution
  looks : ProcessId → Option Look
  changes : List StatusChange

def isFulfilling (status : OrderStatus) : Bool :=
  status = .paid || status = .queued || status = .checking || status = .submitting ||
    status = .providerPending

def isDelivered (store : Store) (id : OrderId) (order : DomainOrderRow) : Bool :=
  order.status = .active ||
    (match store.domains order.fqdn with
      | none => false
      | some row => row.clientOrderId = some id && row.status = .active) ||
    (match order.vmId.bind store.vms with
      | none => false
      | some vm => vm.status = .ready || vm.status = .running)

def isResolved (event : EventId) (resolutions : List RefundResolution) : Bool :=
  resolutions.any fun resolution => resolution.event = event

def isOwed (id : OrderId) (event : PaymentEventRow) : Bool :=
  event.eventType = .refundOwed && event.orderId = some id

def unresolved (id : OrderId) (desk : ResolutionDesk) : List EventId :=
  (List.range desk.store.events.length).filter fun event =>
    (desk.store.events[event]?).any (isOwed id) && !isResolved event desk.resolutions

def resourceOf (id : EventId) (event : PaymentEventRow) : RefundResource :=
  match event.vmId, event.orderId, event.txHash with
  | some vm, _, _ => .vm vm
  | none, some order, _ => .domain order
  | none, none, some tx => .payment tx
  | none, none, none => .event id

def resolutionOf (request : ResolutionRequest) (event : PaymentEventRow) : RefundResolution where
  event := request.event
  resource := resourceOf request.event event
  status := request.status
  amountUsd := event.amountUsd
  network := event.network
  payerWallet := event.payerWallet
  externalReference := request.externalReference
  transactionHash := request.transactionHash
  reason := request.reason
  actor := request.actor

def linkedOrder (look : Look) : Option OrderId :=
  if look.request.status = .resolved then look.linked else none

/-- `linked_order.status = REFUNDED` -/
def writeRefunded (id : OrderId) (order : DomainOrderRow) (desk : ResolutionDesk) :
    ResolutionDesk :=
  { desk with
    store := { desk.store with orders := desk.store.orders.put id { order with status := .refunded } }
    changes :=
      if order.status = .refunded then desk.changes
      else ⟨order.status, isDelivered desk.store id order, unresolved id desk⟩ :: desk.changes }

/-- The event is locked and read again, and `order` is locked already. -/
def acceptResolution (look : Look) (order : Option (OrderId × DomainOrderRow)) :
    Transaction ResolutionDesk Unit := fun desk =>
  let id := look.request.event
  match desk.store.events[id]? with
  | none => .error (.http 404)
  | some event =>
    if event.eventType ≠ .refundOwed then .error (.http 404)
    else if event.orderId ≠ look.linked then .error (.http 409)
    else if isResolved id desk.resolutions then .error (.http 409)
    else
      let noted := { desk with
        resolutions := resolutionOf look.request event :: desk.resolutions }
      match order with
      | none => .ok (noted, ())
      | some (linked, row) => .ok (writeRefunded linked row noted, ())

def resolveRefund (look : Look) : Transaction ResolutionDesk Unit := fun desk =>
  match linkedOrder look with
  | none => acceptResolution look none desk
  | some id => match desk.store.orders id with
      | none => .error (.http 409)
      | some order => acceptResolution look (some (id, order)) desk

inductive ResolutionStep where
  -- whatever else writes these tables
  | elsewhere (store : Store)
  | look (w : ProcessId) (request : ResolutionRequest)
  | resolve (w : ProcessId) (fate : Fate)

def resolutionStep (step : ResolutionStep) (desk : ResolutionDesk) : ResolutionDesk :=
  match step with
  | .elsewhere store => { desk with store := store }
  | .look w request => match desk.store.events[request.event]? with
      | none => desk
      | some event =>
        if event.eventType ≠ .refundOwed then desk
        else { desk with looks := Function.update desk.looks w (some ⟨request, event.orderId⟩) }
  | .resolve w fate => match desk.looks w with
      | none => desk
      | some look =>
        let after := (transact (resolveRefund look) fate desk).1
        { after with looks := Function.update after.looks w none }

/-- Nothing of the order has been delivered, nobody is fulfilling it, and every obligation
of it but this one has a resolution. -/
structure MayRefund (desk : ResolutionDesk) (event : EventId) (id : OrderId)
    (order : DomainOrderRow) : Prop where
  unfulfilled : isFulfilling order.status = false
  undelivered : isDelivered desk.store id order = false
  others : ∀ other ∈ unresolved id desk, other = event

/-- The ledger is appended to, and nobody else writes REFUNDED. A refund of an order that is
not REFUNDED yet is noted for its last obligation, when it is over and undelivered. -/
def mayResolve (step : ResolutionStep) (desk : ResolutionDesk) : Prop :=
  match step with
  | .elsewhere store => desk.store.events <+: store.events ∧
      ∀ id order, store.orders id = some order → order.status = .refunded →
        ∃ before, desk.store.orders id = some before ∧ before.status = .refunded
  | .look _ _ => True
  | .resolve w _ => ∀ look id order, desk.looks w = some look → linkedOrder look = some id →
      desk.store.orders id = some order → order.status ≠ .refunded →
      isResolved look.request.event desk.resolutions = false →
      MayRefund desk look.request.event id order

def resolutions : Protocol ResolutionDesk ResolutionStep := ⟨resolutionStep, mayResolve⟩

structure IsDue (change : StatusChange) : Prop where
  unfulfilled : isFulfilling change.before = false
  undelivered : change.delivered = false
  resolved : change.unresolved = []

structure RefundsKept (desk : ResolutionDesk) : Prop where
  single : (desk.resolutions.map RefundResolution.event).Nodup
  due : ∀ change ∈ desk.changes, IsDue change

structure ResolutionsStart (desk : ResolutionDesk) : Prop where
  resolutions : desk.resolutions = []
  changes : desk.changes = []

section Steps
variable {desk after : ResolutionDesk} {look : Look}

theorem resolved_iff {event : EventId} {resolutions : List RefundResolution} :
    isResolved event resolutions = true ↔ event ∈ resolutions.map RefundResolution.event := by
  simp only [isResolved, List.any_eq_true, decide_eq_true_eq, List.mem_map]

theorem unresolved_after {id : OrderId} {resolution : RefundResolution}
    (others : ∀ other ∈ unresolved id desk, other = resolution.event) :
    unresolved id { desk with resolutions := resolution :: desk.resolutions } = [] := by
  apply List.filter_eq_nil_iff.mpr
  intro event listed opened
  simp only [Bool.and_eq_true, Bool.not_eq_true', isResolved, List.any_cons,
    Bool.or_eq_false_iff, decide_eq_false_iff_not] at opened
  obtain ⟨owed, apart, before⟩ := opened
  refine apart (others event ?_).symm
  exact List.mem_filter.mpr ⟨listed, by simp only [owed, isResolved, before]; rfl⟩

inductive ResolveMove (look : Look) (desk after : ResolutionDesk) : Prop where
  | noted (event : PaymentEventRow)
      (fresh : isResolved look.request.event desk.resolutions = false)
      (same : after = { desk with
        resolutions := resolutionOf look.request event :: desk.resolutions })
  | refunded (event : PaymentEventRow) (id : OrderId) (order : DomainOrderRow)
      (linked : linkedOrder look = some id) (found : desk.store.orders id = some order)
      (fresh : isResolved look.request.event desk.resolutions = false)
      (same : after = writeRefunded id order { desk with
        resolutions := resolutionOf look.request event :: desk.resolutions })

theorem acceptResolution_moves {order : Option (OrderId × DomainOrderRow)} {value : Unit}
    (done : acceptResolution look order desk = .ok (after, value)) :
    ∃ event, isResolved look.request.event desk.resolutions = false ∧
      ((order = none ∧ after = { desk with
          resolutions := resolutionOf look.request event :: desk.resolutions }) ∨
        ∃ id row, order = some (id, row) ∧ after = writeRefunded id row { desk with
          resolutions := resolutionOf look.request event :: desk.resolutions }) := by
  unfold acceptResolution at done
  dsimp only at done
  split at done
  · cases done
  rename_i event listed
  split at done
  · cases done
  split at done
  · cases done
  split at done
  · cases done
  rename_i fresh
  simp only [Bool.not_eq_true] at fresh
  refine ⟨event, fresh, ?_⟩
  split at done
  · cases done
    exact Or.inl ⟨rfl, rfl⟩
  · rename_i id row
    cases done
    exact Or.inr ⟨id, row, rfl, rfl⟩

theorem resolveRefund_moves {value : Unit} (done : resolveRefund look desk = .ok (after, value)) :
    ResolveMove look desk after := by
  unfold resolveRefund at done
  split at done
  · obtain ⟨event, fresh, ⟨_, same⟩ | ⟨_, _, impossible, _⟩⟩ := acceptResolution_moves done
    · exact .noted event fresh same
    · cases impossible
  · rename_i id linked
    split at done
    · cases done
    rename_i order found
    obtain ⟨event, fresh, ⟨impossible, _⟩ | ⟨_, _, pair, same⟩⟩ := acceptResolution_moves done
    · cases impossible
    · cases pair
      exact .refunded event id order linked found fresh same

theorem move_kept (kept : RefundsKept desk) (move : ResolveMove look desk after)
    (may : ∀ id order, linkedOrder look = some id → desk.store.orders id = some order →
      order.status ≠ .refunded → isResolved look.request.event desk.resolutions = false →
      MayRefund desk look.request.event id order) : RefundsKept after := by
  have single : ∀ event, isResolved look.request.event desk.resolutions = false →
      ((resolutionOf look.request event :: desk.resolutions).map RefundResolution.event).Nodup := by
    intro event fresh
    refine List.nodup_cons.mpr ⟨fun listed => ?_, kept.single⟩
    have again : isResolved look.request.event desk.resolutions = true := resolved_iff.mpr listed
    rw [fresh] at again
    cases again
  cases move with
  | noted event fresh same =>
    subst same
    exact ⟨single event fresh, kept.due⟩
  | refunded event id order linked found fresh same =>
    subst same
    refine ⟨single event fresh, ?_⟩
    simp only [writeRefunded]
    split
    · exact kept.due
    rename_i fresh'
    have due := may id order linked found fresh' fresh
    intro change listed
    rcases List.mem_cons.mp listed with rfl | before
    · exact ⟨due.unfulfilled, due.undelivered, unresolved_after due.others⟩
    · exact kept.due change before

theorem resolutionStep_kept (step : ResolutionStep) (desk : ResolutionDesk)
    (kept : RefundsKept desk) (may : mayResolve step desk) :
    RefundsKept (resolutionStep step desk) := by
  cases step with
  | elsewhere store => exact ⟨kept.single, kept.due⟩
  | look w request =>
    simp only [resolutionStep]
    split
    · exact kept
    · split
      · exact kept
      · exact ⟨kept.single, kept.due⟩
  | resolve w fate =>
    simp only [resolutionStep]
    split
    · exact kept
    rename_i look looked
    rcases transact_result (resolveRefund look) fate desk with same | ⟨after, value, done, now⟩
    · rw [same]
      exact ⟨kept.single, kept.due⟩
    · rw [now]
      have left := move_kept kept (resolveRefund_moves done)
        fun id order linked found => may look id order looked linked found
      exact ⟨left.single, left.due⟩

end Steps

/-- `mayResolve` for what an administrator does, as a test. -/
def resolveTest (step : ResolutionStep) (desk : ResolutionDesk) : Bool :=
  match step with
  | .elsewhere _ => false
  | .look _ _ => true
  | .resolve w _ => match desk.looks w with
      | none => true
      | some look => match linkedOrder look with
          | none => true
          | some id => match desk.store.orders id with
              | none => true
              | some order => order.status = .refunded ||
                  isResolved look.request.event desk.resolutions ||
                  (!isFulfilling order.status && !isDelivered desk.store id order &&
                    (unresolved id desk).all fun other => other = look.request.event)

theorem resolveTest_may (step : ResolutionStep) (desk : ResolutionDesk)
    (passed : resolveTest step desk = true) : mayResolve step desk := by
  cases step with
  | elsewhere store => cases passed
  | look w request => trivial
  | resolve w fate =>
    intro look id order looked linked found unpaid fresh
    simp only [resolveTest, looked, linked, found, unpaid, fresh, decide_false, Bool.false_or,
      Bool.and_eq_true, Bool.not_eq_true', List.all_eq_true, decide_eq_true_eq] at passed
    exact ⟨passed.1.1, passed.1.2, passed.2⟩

def orderOf (status : OrderStatus) : DomainOrderRow where
  quoteId := 1
  fqdn := 1
  action := .register
  ownerAccountId := some 1
  status := status
  amountUsd := 30
  domainAmountUsd := 10
  vmAmountUsd := 20

def owedOf (amount : Usd) : PaymentEventRow where
  eventType := .refundOwed
  resourcePath := "/v1/domains/orders"
  amountUsd := some amount
  payerWallet := some (.evm 5)
  txHash := none
  orderId := some 1

def deskOf (status : OrderStatus) (events : List PaymentEventRow) : ResolutionDesk where
  store :=
    { vmQuotes := fun _ => none
      vms := fun _ => none
      intents := fun _ => none
      domainQuotes := fun _ => none
      orders := fun id => if id = 1 then some (orderOf status) else none
      domains := fun _ => none
      operations := fun _ => none
      jobs := fun _ => none
      events := events
      disabled := fun _ => false }
  resolutions := []
  looks := fun _ => none
  changes := []

def paidOut (event : EventId) : ResolutionRequest where
  event := event
  status := .resolved
  reason := "refund sent to original payer"
  actor := 9

/-- Two administrators resolve the obligation of a failed order at the same time. -/
def twiceRun : List ResolutionStep :=
  [.look 0 (paidOut 0), .look 1 (paidOut 0), .resolve 1 .lost, .resolve 0 .done]

end HyruleCloud.Refunds
