import HyruleCloud.Registrar

/-!
The sessions of the domain worker, domains/service.py. Where a session decides on
rows that it has not locked, the look and the commit are two requests, and the
commit writes its columns whatever the rows have become in between. `listed` are
the orders by `created_at`, the newest first.

The rest of `Registry` only records what happens. `known w item` says that nobody
else has written the item since execution `w` claimed its job, or last looked at
the item or wrote it; for an order that is its status, for a row the binding, the
marker, the registrar's data and the failure. `owing w` is the order whose job `w` has failed and still
has to refund.
-/

namespace HyruleCloud

open Interaction

inductive Item where
  | order (id : OrderId)
  | row (fqdn : Fqdn)
  deriving DecidableEq

/-- A committed marker, and the order that the row named at that moment. -/
structure Mark where
  order : OrderId
  bound : Option OrderId

/-- Results of a submission written into a row: the order they were obtained for,
and the order that the row named when they were written. -/
structure Entry where
  obtained : Option OrderId
  written : Option OrderId

structure Registry extends Store where
  listed : List OrderId
  known : ProcessId → Item → Bool
  marked : ProcessId → Option Mark
  submissions : List (Option Mark)
  entries : List Entry
  owing : ProcessId → Option OrderId

section Primitives
variable (w : ProcessId)

def look (item : Item) (d : Registry) : Registry :=
  { d with known := fun other it => (other == w && it == item) || d.known other it }

def beginJob (d : Registry) : Registry :=
  { d with known := fun other it => other == w || d.known other it }

def touch (item : Item) (d : Registry) : Registry :=
  { d with known := fun other it => if it = item then other == w else d.known other it }

def changeOrder (id : OrderId) (change : DomainOrderRow → DomainOrderRow) (d : Registry) :
    Registry :=
  match d.orders id with
  | none => d
  | some order => touch w (.order id) { d with orders := d.orders.put id (change order) }

/-- A row with a new binding, marker or failure, or new data of the registrar. -/
def changeRow (fqdn : Fqdn) (change : DomainRow → DomainRow) (d : Registry) : Registry :=
  match d.domains fqdn with
  | none => d
  | some row => touch w (.row fqdn) { d with domains := d.domains.put fqdn (change row) }

def bindRow (fqdn : Fqdn) (row : DomainRow) (d : Registry) : Registry :=
  touch w (.row fqdn) { d with domains := d.domains.put fqdn row }

end Primitives

/-- Columns of an order that no decision of the worker rests on. -/
def noteOrder (id : OrderId) (change : DomainOrderRow → DomainOrderRow) (d : Registry) :
    Registry :=
  match d.orders id with
  | none => d
  | some order => { d with orders := d.orders.put id (change order) }

def noteRow (fqdn : Fqdn) (change : DomainRow → DomainRow) (d : Registry) : Registry :=
  match d.domains fqdn with
  | none => d
  | some row => { d with domains := d.domains.put fqdn (change row) }

def changeJob (key : JobKey) (change : DomainJobRow → DomainJobRow) (d : Registry) : Registry :=
  match d.jobs key with
  | none => d
  | some job => { d with jobs := d.jobs.put key (change job) }

def changeOperation (id : OrderId) (change : DomainOperationRow → DomainOperationRow)
    (d : Registry) : Registry :=
  match (d.orders id).bind (·.operationId) with
  | none => d
  | some operation => match d.operations operation with
      | none => d
      | some row => { d with operations := d.operations.put operation (change row) }

def DomainOperationRow.is (status : OperationStatus) (row : DomainOperationRow) :
    DomainOperationRow := { row with status := status }

def DomainOperationRow.ends (status : OperationStatus) (code : Option String)
    (_ : DomainOperationRow) : DomainOperationRow := ⟨status, code⟩

/-- `_add_job`; the dedupe key is unique. -/
def addReconcile (key : JobKey) (fqdn : Fqdn) (availableAt : Time) (d : Registry) :
    Except Err Registry :=
  match d.jobs key with
  | some _ => .error .database
  | none => .ok { d with
      jobs := d.jobs.put key
        { kind := .reconcileDomain, resource := fqdn, availableAt := availableAt } }

def addRefund (event : PaymentEventRow) (d : Registry) : Registry :=
  { d with events := d.events ++ [event] }

def onTables {β : Type} (tx : Transaction Store β) : Transaction Registry β := fun d =>
  match tx d.toStore with
  | .ok (s, value) => .ok ({ d with toStore := s }, value)
  | .error error => .error error

structure JobClaim where
  key : JobKey
  kind : JobKind
  resource : Nat

/-- The filter of `_claim_job`; a row without `locked_at` is never stale. -/
def claimable (config : DomainConfig) (now : Time) (job : DomainJobRow) : Bool :=
  match job.status with
  | .queued => decide (job.availableAt ≤ now)
  | .running => match job.lockedAt with
      | some since => decide (since + config.jobLockTimeout < now)
      | none => false
  | _ => false

/-- `_claim_job`. Which claimable job is found is not restricted. -/
def claimJob (config : DomainConfig) (w : ProcessId) (found : Option JobKey) (now : Time) :
    Transaction Registry (Option JobClaim) := fun d =>
  match found with
  | none => .ok (d, none)
  | some key => match d.jobs key with
      | none => .ok (d, none)
      | some job =>
        if claimable config now job then
          .ok (changeJob key (fun job => { job with
            status := .running
            attempts := job.attempts + 1
            lockedAt := some now
            lockedBy := some w }) (beginJob w d), some ⟨key, job.kind, job.resource⟩)
        else .ok (d, none)

def completeJob (key : JobKey) : Transaction Registry Unit := fun d =>
  .ok (changeJob key (fun job => { job with status := .completed }) d, ())

def requeueJob (key : JobKey) (attempts : Nat) (now : Time) : Transaction Registry Unit := fun d =>
  .ok (changeJob key (fun job => { job with
    status := .queued
    availableAt := now + min 3600 (2 ^ attempts * 5)
    lockedAt := none
    lockedBy := none }) d, ())

/-- What `_retry_or_fail_job` reads of a fulfilment that has failed for good. -/
structure FinalView where
  order : Option DomainOrderRow
  domain : Option DomainRow
  vm : Option VMRow

def lookFinal (w : ProcessId) (id : OrderId) (d : Registry) : Registry × FinalView :=
  match d.orders id with
  | none => (d, ⟨none, none, none⟩)
  | some order => (look w (.row order.fqdn) (look w (.order id) d),
      ⟨some order, d.domains order.fqdn, order.vmId.bind d.vms⟩)

inductive Terminal where
  | ambiguous | renewalPending | delivered | dnsFailed | fullRefund
  deriving DecidableEq

def terminalOf (id : OrderId) (view : FinalView) : Terminal :=
  match view.order, view.domain with
  | some order, some domain =>
    if order.action = .register ∧ domain.openproviderId = none ∧
        domain.providerOperationId = some id then .ambiguous
    else if domain.openproviderId = none then .fullRefund
    else if order.action = .renew then .renewalPending
    else if domain.dnssecStatus = .active then .delivered
    else .dnsFailed
  | _, _ => .fullRefund

/-- `getattr(exc, "code", default)` -/
def Err.codeOr (error : Err) (default : String) : String :=
  match error with
  | .domainProblem _ code | .openprovider code _ | .dnsControl code _ => code
  | _ => default

/-- The planned attachment and the VM of a bundle that was never provisioned. -/
def abandonsVm (view : FinalView) : Option VmId :=
  match view.order, view.domain with
  | some order, some domain => match order.vmId with
      | none => none
      | some vm =>
        if domain.vmId = some vm ∧ domain.vmIpv6 = false ∧
            (∀ row, view.vm = some row → row.status = .provisioning ∨ row.status = .failed) then
          some vm
        else none
  | _, _ => none

def failVm (vm : VmId) (d : Registry) : Registry :=
  match d.vms vm with
  | none => d
  | some row => { d with vms := d.vms.put vm { row with status := .failed, hasPrefix := false } }

section Failing
variable (w : ProcessId) (id : OrderId)

/-- The order and the row of a terminal failure, under their new statuses. -/
def endOrder (fqdn : Fqdn) (status : OrderStatus) (code : String)
    (row : DomainRow → DomainRow) (d : Registry) : Registry :=
  let d := changeRow w fqdn row d
  changeOrder w id (fun order => { order with status := status, errorCode := some code }) d

def endDelivered (order : DomainOrderRow) (view : FinalView) (d : Registry) :
    Except Err Registry :=
  let abandoned := abandonsVm view
  let d := match abandoned with
    | none => d
    | some vm => failVm vm d
  let d := endOrder w id order.fqdn .active "bundle_vm_failed" (fun row => { row with
    status := .active
    vmId := if abandoned.isSome then none else row.vmId }) d
  let d := changeOperation id (.is .succeeded) d
  if 0 < order.vmAmountUsd ∧ order.billingMode.isWaived = false then
    match buildRefundEvent id order "bundle_vm_failed" (some order.vmAmountUsd) with
    | .error error => .error error
    | .ok event => .ok (addRefund event d)
  else .ok d

/-- The branch of `_retry_or_fail_job` for a fulfilment. -/
def endFulfilment (order : DomainOrderRow) (view : FinalView) (error : Err) (d : Registry) :
    Except Err Registry :=
  match terminalOf id view with
  | .ambiguous =>
    let code := "registration_reconciliation_required"
    let d := endOrder w id order.fqdn .providerPending code
      (fun row => { row with status := .providerPending }) d
    .ok (changeOperation id (.ends .waitingProvider (some code)) d)
  | .renewalPending =>
    let d := changeOrder w id (fun order => { order with
      status := .providerPending
      errorCode := some "renewal_reconciliation_required" }) d
    .ok (changeOperation id (.is .failed) d)
  | .delivered => endDelivered w id order view d
  | .dnsFailed =>
    let d := endOrder w id order.fqdn .providerPending "managed_dns_failed"
      (fun row => { row with status := .providerPending, dnssecStatus := .error }) d
    .ok (changeOperation id (.is .failed) d)
  | .fullRefund =>
    let d := changeOperation id (.ends .failed (some (error.codeOr "operation_failed"))) d
    .ok { d with owing := Function.update d.owing w (some id) }

end Failing

/-- The commit of `_retry_or_fail_job` after the last attempt; `true` iff the
order is then to be refunded. -/
def failJob (w : ProcessId) (claim : JobClaim) (view : FinalView) (error : Err) :
    Transaction Registry Bool := fun d =>
  let fail := changeJob claim.key (fun job => { job with status := .failed })
  match claim.kind, d.orders claim.resource with
  | .reconcileDomain, _ => .ok (fail d, false)
  | .fulfillOrder, none => .ok (fail d, true)
  | .fulfillOrder, some order =>
    match endFulfilment w claim.resource order view error d with
    | .error error => .error error
    | .ok ended => .ok (fail ended, decide (terminalOf claim.resource view = .fullRefund))

def startChecking (w : ProcessId) (id : OrderId) : Transaction Registry Unit := fun d =>
  let d := changeOrder w id (fun order => { order with status := .checking }) d
  .ok (changeOperation id (.is .running) d, ())

inductive Reserved where
  | absent | rebound
  | found (row : DomainRow)

/-- The columns of a reservation, whether the row is new or rebound. -/
def reservedRow (id : OrderId) (order : DomainOrderRow) : DomainRow :=
  { ownerAccountId := order.ownerAccountId
    status := .registering
    clientOrderId := some id }

/-- The first part of `_reserve_registration_domain`, under the lock of the row. -/
def reserveDomain (w : ProcessId) (id : OrderId) (order : DomainOrderRow) :
    Transaction Registry Reserved := fun d =>
  match d.domains order.fqdn with
  | none => .ok (d, .absent)
  | some row =>
    if row.openproviderId = none ∧ row.status = .failed then
      .ok (bindRow w order.fqdn (reservedRow id order) d, .rebound)
    else .ok (look w (.row order.fqdn) d, .found row)

/-- The insert, which a row of the same name refuses; `false` after the rollback. -/
def insertDomain (w : ProcessId) (id : OrderId) (order : DomainOrderRow) :
    Transaction Registry Bool := fun d =>
  match d.domains order.fqdn with
  | some _ => .ok (d, false)
  | none => .ok (bindRow w order.fqdn (reservedRow id order) d, true)

def markSubmitted (w : ProcessId) (id : OrderId) (fqdn : Fqdn) : Transaction Registry Unit :=
  fun d =>
    let bound := (d.domains fqdn).bind (·.clientOrderId)
    let d := changeRow w fqdn (fun row => { row with providerOperationId := some id }) d
    let d := changeOrder w id (fun order => { order with status := .submitting }) d
    .ok ({ d with marked := Function.update d.marked w (some ⟨id, bound⟩) }, ())

def addPending (config : DomainConfig) (id : OrderId) (fqdn : Fqdn) (active : Bool) (now : Time)
    (d : Registry) : Except Err Registry :=
  if active then .ok d
  else addReconcile (.providerPending id) fqdn (now + config.providerReconcileDelay) d

def addEntry (entry : Entry) (d : Registry) : Registry := { d with entries := entry :: d.entries }

def registeredRow (provider : ProviderId) (result : ProviderResult) (row : DomainRow) :
    DomainRow :=
  { row with
    openproviderId := some provider
    status := if result.status.isActive then .registering else .providerPending
    expiresAt := result.expiresAt <|> row.expiresAt }

def registeredOrder (provider : ProviderId) (result : ProviderResult) (order : DomainOrderRow) :
    DomainOrderRow :=
  { order with
    providerDomainId := some provider
    renewalBaseline := none
    status := if result.status.isActive then .submitting else .providerPending }

def recordRegistration (config : DomainConfig) (w : ProcessId) (id : OrderId) (fqdn : Fqdn)
    (provider : ProviderId) (result : ProviderResult) (now : Time) : Transaction Registry Unit :=
  fun d => match d.domains fqdn with
  | none => .error (.runtime "reserved domain disappeared")
  | some row =>
    let active := result.status.isActive
    let d := addEntry ⟨some id, row.clientOrderId⟩ d
    let d := changeRow w fqdn (registeredRow provider result) d
    let d := changeOrder w id (registeredOrder provider result) d
    let d := changeOperation id (.is (if active then .running else .waitingProvider)) d
    (addPending config id fqdn active now d).map (·, ())

/-- The last session of `_ensure_managed_zone`. -/
def recordZone (fqdn : Fqdn) : Transaction Registry Unit := fun d =>
  .ok (noteRow fqdn (fun row => { row with
    managedNameservers := true
    dnssecStatus := if row.managedDnssec then .active else row.dnssecStatus }) d, ())

def recordZoneError (fqdn : Fqdn) : Transaction Registry Unit := fun d =>
  .ok (noteRow fqdn (fun row => { row with dnssecStatus := .error }) d, ())

/-- `_finish_active_order` -/
def finishActiveOrder (w : ProcessId) (id : OrderId) (fqdn : Fqdn) : Transaction Registry Unit :=
  fun d =>
    let d := noteRow fqdn (fun row => { row with status := .active }) d
    let d := changeOrder w id (fun order => { order with
      status := .active
      errorCode := none }) d
    .ok (changeOperation id (.ends .succeeded none) d, ())

def renewalRows (id : OrderId) (d : Registry) : Option (DomainOrderRow × Option DomainRow) :=
  (d.orders id).map fun order =>
    (order, (d.domains order.fqdn).filter fun row => row.ownerAccountId == order.ownerAccountId)

def markRenewal (w : ProcessId) (id : OrderId) (fqdn : Fqdn) (baseline : Time) :
    Transaction Registry Unit := fun d =>
  let d := noteRow fqdn (fun row => { row with expiresAt := row.expiresAt <|> some baseline }) d
  .ok (changeOrder w id (fun order => { order with
    status := .submitting
    renewalBaseline := some baseline }) d, ())

def renewedRow (result : ProviderResult) (row : DomainRow) : DomainRow :=
  { row with
    status := if result.status.isRenewed then .active else .providerPending
    expiresAt := result.expiresAt <|> row.expiresAt
    canRenew := false }

def renewedOrder (result : ProviderResult) (baseline : Time) (order : DomainOrderRow) :
    DomainOrderRow :=
  { order with
    renewalBaseline := some baseline
    status := if result.status.isRenewed then .active else .providerPending }

def recordRenewal (config : DomainConfig) (w : ProcessId) (id : OrderId) (fqdn : Fqdn)
    (result : ProviderResult) (baseline now : Time) : Transaction Registry Unit := fun d =>
  let renewed := result.status.isRenewed
  let d := noteRow fqdn (renewedRow result) d
  let d := changeOrder w id (renewedOrder result baseline) d
  let d := changeOperation id (.is (if renewed then .succeeded else .waitingProvider)) d
  (addPending config id fqdn renewed now d).map (·, ())

def awaitsProvider (fqdn : Fqdn) (order : DomainOrderRow) : Bool :=
  order.fqdn == fqdn && (order.status == .providerPending || order.status == .submitting)

/-- The newest order of the domain that waits for the registrar. -/
def waitingOrder (fqdn : Fqdn) (d : Registry) : Option OrderId :=
  d.listed.find? fun id => (d.orders id).any (awaitsProvider fqdn)

def lookWaiting (w : ProcessId) (fqdn : Fqdn) (d : Registry) : Registry × Option OrderId :=
  match waitingOrder fqdn d with
  | none => (d, none)
  | some id => (look w (.order id) d, some id)

/-- The rows that the recording session of `_reconcile_domain` starts from. -/
def lookReconcile (w : ProcessId) (fqdn : Fqdn) (terminal : Option OrderId) (d : Registry) :
    Registry × Option (DomainRow × Option (OrderId × DomainOrderRow)) :=
  match d.domains fqdn with
  | none => (d, none)
  | some row =>
    let (looked, waiting) := lookWaiting w fqdn d
    (looked, some (row, (waiting <|> terminal).bind fun id => (d.orders id).map (id, ·)))

/-- What a status means for a domain whose row was read as `row`. -/
structure Reading where
  active : Bool
  transferred : Bool
  expired : Bool

def readingOf (row : DomainRow) (status : ProviderStatus) : Reading :=
  let departed := status == .departed
  let transferred := row.status == .transferPending && departed
  { active := status.isActive
    transferred := transferred
    expired := status == .lapsed || (departed && !transferred) }

/-- The row of a reconciled domain; `current` is its status at the start of the session. -/
def reconciledRow (reading : Reading) (current : DomainStatus) (provider : ProviderId)
    (result : ProviderResult) (row : DomainRow) : DomainRow :=
  let stored := { row with
    openproviderId := some provider
    expiresAt := result.expiresAt <|> row.expiresAt }
  if reading.transferred then { stored with status := .transferred }
  else if reading.expired then { stored with status := .expired, canRenew := false }
  else if reading.active && current ≠ .transferPending && current ≠ .renewalDue then
    { stored with status := .registering }
  else stored

def reconciledOrder (reading : Reading) (provider : ProviderId) (order : DomainOrderRow) :
    DomainOrderRow :=
  let stored := { order with
    providerDomainId := some provider
    renewalBaseline := if order.action = .renew then order.renewalBaseline else none }
  if reading.active || reading.expired then stored else { stored with status := .providerPending }

/-- What the session writes into the order that waits for the domain, if any. -/
def recordOrder (w : ProcessId) (order : Option OrderId) (reading : Reading)
    (provider : ProviderId) (d : Registry) : Registry :=
  match order with
  | none => d
  | some id =>
    if reading.active || reading.expired then
      noteOrder id (reconciledOrder reading provider) d
    else
      changeOperation id (.is .waitingProvider)
        (changeOrder w id (reconciledOrder reading provider) d)

/-- The commit of that session. `asked` is the order that the row named when the
registrar was asked. -/
def recordReconcile (w : ProcessId) (fqdn : Fqdn) (asked : Option OrderId)
    (order : Option OrderId) (reading : Reading) (current : DomainStatus) (provider : ProviderId)
    (result : ProviderResult) : Transaction Registry Unit := fun d =>
  match d.domains fqdn with
  | none => .ok (d, ())
  | some row =>
    let d := addEntry ⟨asked, row.clientOrderId⟩ d
    let d := changeRow w fqdn (reconciledRow reading current provider result) d
    .ok (recordOrder w order reading provider d, ())

def activateDomain (fqdn : Fqdn) : Transaction Registry Unit := fun d =>
  .ok (noteRow fqdn (fun row =>
    if row.status = .renewalDue then row else { row with status := .active }) d, ())

/-- Whether the order still holds a row that the registrar never confirmed. -/
def lookHeld (id : OrderId) (fqdn : Fqdn) (d : Registry) : Bool :=
  (d.domains fqdn).any fun row => row.clientOrderId == some id && row.openproviderId.isNone

def settleOwing (w : ProcessId) (id : OrderId) (d : Registry) : Registry :=
  if d.owing w = some id then { d with owing := Function.update d.owing w none } else d

/-- The commit of `_fail_paid_order`. -/
def commitFailure (w : ProcessId) (id : OrderId) (code : String) (amount : Usd) (held : Bool) :
    Transaction Registry Unit := fun d =>
  match d.orders id with
  | none => .ok (d, ())
  | some order =>
    let waived := order.billingMode.isWaived
    let close (order : DomainOrderRow) : DomainOrderRow := { order with
      status := if waived then .failed else .refundDue
      errorCode := some code }
    let d := changeOrder w id close d
    let d := changeOperation id (.ends .failed (some code)) d
    let d := if held then
        changeRow w order.fqdn (fun row => { row with status := .failed }) d
      else d
    let d := settleOwing w id d
    if waived then .ok (d, ())
    else match buildRefundEvent id (close order) code (some amount) with
      | .error error => .error error
      | .ok event => .ok (addRefund event d, ())

structure Bundle where
  order : DomainOrderRow
  quoteId : QuoteId
  quote : VMQuoteRow
  vm : VmId

/-- The planning session of `_provision_bundle`. -/
def planBundle (id : OrderId) (drawn : Nat) : Transaction Registry (Option Bundle) := fun d =>
  match d.orders id with
  | none => .ok (d, none)
  | some order => match order.vmQuoteId with
      | none => .ok (d, none)
      | some quoteId => match d.vmQuotes quoteId with
          | none => .error (.runtime "the bundle VM quote disappeared")
          | some quote =>
            let vm := (quote.vmId <|> order.vmId).getD ⟨.order id, drawn⟩
            .ok (noteOrder id (fun order => { order with vmId := some vm }) d,
              some ⟨{ order with vmId := some vm }, quoteId, quote, vm⟩)

/-- `activate_vm_reservation`, with the status of the row it returns. -/
def activateBundle (vm : VmId) (args : ActivateArgs) : Transaction Store (Option VMStatus) :=
  fun s => match activateVmReservation vm args s with
  | .error error => .error error
  | .ok (next, activated) =>
    .ok (next, if activated then (next.vms vm).map (·.status) else none)

def storeOrderVm (id : OrderId) (vm : VmId) : Transaction Registry Unit := fun d =>
  .ok (noteOrder id (fun order => { order with vmId := some vm }) d, ())

/-- `reserve_vm_with_capacity` checks the capacity only for a new VM. -/
def reserveBundle (vm : VmId) (args : InsertArgs) (refused : Option Refusal) :
    Transaction Store Unit := fun s =>
  match s.vms vm, refused with
  | none, some refusal => .error refusal.err
  | _, _ => reservePlannedVm vm args s

end HyruleCloud
