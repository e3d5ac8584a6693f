import HyruleCloud.Protocol

/-!
The receipts of a client that pays for itself, client.py. A task gives way only while its
request is under way: what it does with the response, up to its next request, is one step. The
decoder of the payment SDK and the JSON of a body are parameters.
-/

namespace HyruleCloud.ClientReceipts

open Interaction

/-- What `decode_payment_response_header` finds. -/
structure DecodedReceipt where
  success : Option Bool := none
  transaction : Option String := none
  txHash : Option String := none
  network : Option String := none
  payer : Option String := none

structure Settlement where
  success : Bool
  transaction : Option String
  network : Option String
  payer : Option String
  raw : String

/-- `paid` is the mark of `_SettlementMarkingTransport`; no `body` where it is not JSON. -/
structure HttpResponse (Body : Type) where
  statusCode : Nat
  paid : Bool
  paymentResponse : Option String := none
  xPaymentResponse : Option String := none
  body : Option Body

inductive ClientError where
  | notSent | http (status : Nat) | settlementMissing | paymentFailed | badBody

structure ProvisionResult (Body : Type) where
  vmId : String
  settlement : Option Settlement
  createResponse : Body

section Requests
variable {Body : Type} (decode : String → Option DecodedReceipt) (vmId : Body → Option String)

def truthy (text : Option String) : Option String := text.filter (· ≠ "")

/-- `_settlement_header` -/
def HttpResponse.settlementHeader (response : HttpResponse Body) : Option String :=
  truthy response.paymentResponse <|> truthy response.xPaymentResponse

/-- `Settlement.from_header` -/
def Settlement.fromHeader (raw : String) : Option Settlement :=
  (decode raw).map fun decoded =>
    let transaction := truthy decoded.transaction <|> decoded.txHash
    { success := decoded.success.getD (truthy transaction).isSome
      transaction
      network := decoded.network
      payer := decoded.payer
      raw }

def HttpResponse.receipt (response : HttpResponse Body) : Option Settlement :=
  response.settlementHeader.bind (Settlement.fromHeader decode)

/-- `_request`, from the response on; none, where the transport raises. Next to its result is
what it leaves in `_last_settlement`. -/
def request (exchange : Option (HttpResponse Body)) (last : Option Settlement) :
    Option Settlement × Except ClientError Body :=
  match exchange with
  | none => (last, .error .notSent)
  | some response =>
    let json := response.body.elim (.error .badBody) Except.ok
    if 400 ≤ response.statusCode then (last, .error (.http response.statusCode))
    else if response.paid then
      match response.receipt decode with
      | none => (last, .error .settlementMissing)
      | some settlement =>
        if settlement.success then (some settlement, json) else (last, .error .paymentFailed)
    else (last, json)

/-- `provision_vm`, from the response to `create_vm` on. -/
def provision (exchange : Option (HttpResponse Body)) (last : Option Settlement) :
    Option Settlement × Except ClientError (ProvisionResult Body) :=
  match request decode exchange last with
  | (last, .error error) => (last, .error error)
  | (last, .ok created) => match vmId created with
      | none => (last, .error .badBody)
      | some vm => (last, .ok ⟨vm, last, created⟩)

section
variable {response : HttpResponse Body} {last after : Option Settlement}

theorem request_after {body : Body}
    (done : request decode (some response) last = (after, .ok body)) :
    after = if response.paid then response.receipt decode else last := by
  unfold request at done
  dsimp only at done
  split at done
  · cases done
  split at done
  · rename_i paid
    rw [if_pos paid]
    split at done
    · cases done
    rename_i settlement carried
    split at done
    · rw [carried]
      exact (congrArg Prod.fst done).symm
    · cases done
  · rename_i free
    rw [if_neg free]
    exact (congrArg Prod.fst done).symm

theorem provision_receipt {result : ProvisionResult Body}
    (done : provision decode vmId (some response) last = (after, .ok result)) :
    result.settlement = response.receipt decode ↔
      response.paid = true ∨ last = response.receipt decode := by
  unfold provision at done
  split at done
  · cases done
  rename_i now created asked
  split at done
  · cases done
  · cases done
    have after := request_after decode asked
    cases paid : response.paid <;> simp [after, paid]

end

end Requests

/-- A result, with the exchange that it is about and what the client had before. -/
structure Returned (Body : Type) where
  response : HttpResponse Body
  before : Option Settlement
  result : ProvisionResult Body

structure ClientDesk (Body : Type) where
  lastSettlement : Option Settlement := none
  returned : List (Returned Body) := []

/-- `answered`: a response to any other call, a quote or a poll among them. -/
inductive ClientAction (Body : Type) where
  | answered (exchange : Option (HttpResponse Body))
  | created (exchange : Option (HttpResponse Body))

variable {Body : Type} (decode : String → Option DecodedReceipt) (vmId : Body → Option String)

def clientStep (action : ClientAction Body) (desk : ClientDesk Body) : ClientDesk Body :=
  match action with
  | .answered exchange =>
    { desk with lastSettlement := (request decode exchange desk.lastSettlement).1 }
  | .created exchange =>
    match exchange, provision decode vmId exchange desk.lastSettlement with
    | some response, (last, .ok result) => {
        lastSettlement := last
        returned := desk.returned ++ [⟨response, desk.lastSettlement, result⟩] }
    | _, (last, _) => { desk with lastSettlement := last }

/-- One `HyruleClient`, with any number of tasks. -/
def client : Protocol (ClientDesk Body) (ClientAction Body) where
  step := clientStep decode vmId
  may _ _ := True

def Returned.IsOwn (returned : Returned Body) : Prop :=
  returned.result.settlement = returned.response.receipt decode

/-- The exchange was paid in it, or else the client had just the receipt that it carries. -/
def Returned.Clear (returned : Returned Body) : Prop :=
  returned.response.paid = true ∨ returned.before = returned.response.receipt decode

def ReceiptsClear (desk : ClientDesk Body) : Prop :=
  ∀ returned ∈ desk.returned, returned.IsOwn decode ↔ returned.Clear decode

theorem step_clear (action : ClientAction Body) (desk : ClientDesk Body)
    (clear : ReceiptsClear decode desk) : ReceiptsClear decode (clientStep decode vmId action desk) := by
  cases action with
  | answered exchange => exact clear
  | created exchange =>
    unfold clientStep
    dsimp only
    split
    · rename_i response last result done
      intro returned among
      rcases List.mem_append.mp among with before | last
      · exact clear returned before
      · rw [List.mem_singleton.mp last]
        exact provision_receipt decode vmId done
    · exact clear

/-- Whatever the calls on a client and their order, a result has the receipt of its own exchange
exactly when that exchange was paid, or the client had just what it carries: nothing, where it
carries nothing. -/
theorem receipts_clear (actions : List (ClientAction Body)) :
    ReceiptsClear decode ((client decode vmId).run {} actions) := by
  have step : ∀ action desk, ReceiptsClear decode desk → (client decode vmId).may action desk →
      ReceiptsClear decode ((client decode vmId).step action desk) :=
    fun action desk clear _ => step_clear decode vmId action desk clear
  have start : ReceiptsClear decode ({} : ClientDesk Body) := fun _ among => by cases among
  have free := (client decode vmId).admits_all (fun _ _ => trivial) {} actions
  exact Protocol.run_keeps _ step actions {} start free

def plainReceipt (raw : String) : Option DecodedReceipt :=
  some { success := some true, transaction := some raw }

def freeCreation : List (ClientAction String) :=
  [.answered (some ⟨201, true, some "0xfeedbeef", none, some "tunnel"⟩),
    .created (some ⟨202, false, none, none, some "vm"⟩)]

/-- A tunnel is paid for; a VM that is created without a payment gets its receipt. -/
theorem stale_receipt :
    ¬ ∀ (decode : String → Option DecodedReceipt) (vmId : String → Option String)
      (actions : List (ClientAction String)),
      ∀ returned ∈ ((client decode vmId).run {} actions).returned, returned.IsOwn decode := by
  intro claim
  have held : (((client plainReceipt some).run {} freeCreation).returned.map fun returned =>
      (returned.result.settlement.isSome, (returned.response.receipt plainReceipt).isSome)) =
        [(true, false)] := by
    decide +kernel
  have stale : (true, false) ∈
      (((client plainReceipt some).run {} freeCreation).returned.map fun returned =>
        (returned.result.settlement.isSome, (returned.response.receipt plainReceipt).isSome)) := by
    rw [held]
    exact List.mem_singleton_self _
  obtain ⟨returned, among, differ⟩ := List.mem_map.mp stale
  have own := claim plainReceipt some freeCreation returned among
  unfold Returned.IsOwn at own
  rw [own] at differ
  obtain ⟨present, absent⟩ := Prod.mk.inj differ
  rw [present] at absent
  cases absent

end HyruleCloud.ClientReceipts
