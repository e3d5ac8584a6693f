import HyruleCloud.Fulfilment
import HyruleCloud.Protocol

/-!
Everything that writes the status of one domain, domains/service.py: transfer-outs, the
fulfilment of registrations and renewals with its failures, reconciliations and the renewal
window. A session reads the row, changes its copy and commits; anything may happen between
two of its statements. The registrar answers what it likes, calls and statements may fail,
and an execution may end anywhere.
-/

namespace HyruleCloud.Transfers

open Interaction

structure TransferConfig extends DomainConfig where
  renewalWindow : Time
  renewalDue : Time

structure TransferRow extends DomainRow where
  transferredAt : Option Time := none

/-- A `transfer_out` operation. -/
structure TransferOperation where
  ownerAccountId : Option AccountId
  status : OperationStatus

/-! A commit writes the columns in which the copy differs from what was read. -/

def written {α : Type} [DecidableEq α] (read copy stored : α) : α :=
  if copy = read then stored else copy

def flush (read copy row : TransferRow) : TransferRow where
  ownerAccountId := written read.ownerAccountId copy.ownerAccountId row.ownerAccountId
  status := written read.status copy.status row.status
  clientOrderId := written read.clientOrderId copy.clientOrderId row.clientOrderId
  openproviderId := written read.openproviderId copy.openproviderId row.openproviderId
  providerOperationId :=
    written read.providerOperationId copy.providerOperationId row.providerOperationId
  managedNameservers :=
    written read.managedNameservers copy.managedNameservers row.managedNameservers
  managedDnssec := written read.managedDnssec copy.managedDnssec row.managedDnssec
  dnssecStatus := written read.dnssecStatus copy.dnssecStatus row.dnssecStatus
  expiresAt := written read.expiresAt copy.expiresAt row.expiresAt
  canRenew := written read.canRenew copy.canRenew row.canRenew
  vmId := written read.vmId copy.vmId row.vmId
  vmIpv6 := written read.vmIpv6 copy.vmIpv6 row.vmIpv6
  transferredAt := written read.transferredAt copy.transferredAt row.transferredAt

/-- What `_reconcile_domain` has read and been told. `late` iff a transfer-out had been
committed when the registrar answered. -/
structure Visit where
  domain : TransferRow
  provider : ProviderId
  result : ProviderResult
  late : Bool

def Visit.reading (visit : Visit) : Reading :=
  readingOf visit.domain.toDomainRow visit.result.status

/-- The sessions that read the row and write it, by their function. That of
`_reconcile_domain` reads the row first and then the order. -/
inductive Session where
  | transferOut (operation : OperationId)
  | failPaidOrder (id : OrderId) (code : String) (visit : Option Visit)
  | markSubmitted (id : OrderId)
  | recordRegistration (id : OrderId) (provider : ProviderId) (result : ProviderResult)
  | markRenewal (id : OrderId) (baseline : Time) (provider : ProviderId)
  | recordRenewal (id : OrderId) (baseline : Time) (result : ProviderResult)
  | lookReconcile (visit : Visit) (terminal : Option OrderId)
  | recordReconcile (visit : Visit) (order : Option (OrderId × DomainOrderRow))
  | finishActiveOrder (id : OrderId)
  | activateDomain
  | retryOrFailJob (id : OrderId) (order : Option DomainOrderRow) (vm : Option VMRow) (error : Err)
  | refreshRenewalStates

inductive Stage where
  | unlocking (operation : OperationId)
  | reconciling
  | asking (domain : TransferRow)
  | expiring (visit : Visit)
  | registering (id : OrderId) (quoted : Bool)
  | reserving (id : OrderId) (order : DomainOrderRow)
  | inserting (id : OrderId) (order : DomainOrderRow)
  | finding (id : OrderId) (order : DomainOrderRow)
  | obtaining (id : OrderId) (order : DomainOrderRow) (domain : TransferRow)
  | submitting (id : OrderId)
  | identifying (id : OrderId)
  | renewing (id : OrderId)
  | renewable (id : OrderId) (order : DomainOrderRow)
  | pricing (id : OrderId) (order : DomainOrderRow) (domain : TransferRow) (provider : ProviderId)
  | extending (id : OrderId) (baseline : Time)
  | zoning (order : Option OrderId) (session : Session)
  | begun (session : Session)
  | loaded (session : Session) (read : Option TransferRow)

/-- `transferredOut` iff a transfer-out of the domain has been committed. -/
structure TransferDesk where
  row : Option TransferRow
  orders : Table OrderId DomainOrderRow
  listed : List OrderId
  operations : Table OperationId TransferOperation
  now : Time
  transferredOut : Bool
  jobs : ProcessId → Option Stage

/-- `refresh_renewal_states` -/
def refreshed (config : TransferConfig) (now : Time) (row : TransferRow) : TransferRow :=
  match row.expiresAt with
  | none => row
  | some expiry =>
    if expiry ≤ now then { row with status := .expired, canRenew := false }
    else { row with
      canRenew := decide (expiry ≤ now + config.renewalWindow)
      status := if expiry ≤ now + config.renewalDue then .renewalDue else .active }

def endedRow (id : OrderId) (view : FinalView) (row : DomainRow) : DomainRow :=
  match terminalOf id view with
  | .ambiguous => { row with status := .providerPending }
  | .delivered => { row with
      status := .active
      vmId := if (abandonsVm view).isSome then none else row.vmId }
  | .dnsFailed => { row with status := .providerPending, dnssecStatus := .error }
  | .renewalPending | .fullRefund => row

def copied (config : TransferConfig) (now : Time) (session : Session) (read : TransferRow) :
    TransferRow :=
  match session with
  | .transferOut _ => { read with status := .transferPending }
  | .failPaidOrder _ _ _ =>
    if read.openproviderId = none then { read with status := .failed } else read
  | .markSubmitted id => { read with providerOperationId := some id }
  | .recordRegistration _ provider result =>
    { read with toDomainRow := registeredRow provider result read.toDomainRow }
  | .markRenewal _ baseline _ => { read with expiresAt := read.expiresAt <|> some baseline }
  | .recordRenewal _ _ result =>
    { read with toDomainRow := renewedRow result read.toDomainRow }
  | .lookReconcile _ _ => read
  | .recordReconcile visit _ =>
    { toDomainRow := reconciledRow visit.reading read.status visit.provider visit.result
        read.toDomainRow
      transferredAt := if visit.reading.transferred then read.transferredAt <|> some now
        else read.transferredAt }
  | .finishActiveOrder _ => { read with status := .active }
  | .activateDomain =>
    if read.status = .renewalDue then read else { read with status := .active }
  | .retryOrFailJob id order vm _ =>
    { read with toDomainRow := endedRow id ⟨order, some read.toDomainRow, vm⟩ read.toDomainRow }
  | .refreshRenewalStates => refreshed config now read

def endedOrder (id : OrderId) (view : FinalView) (order : DomainOrderRow) : DomainOrderRow :=
  match terminalOf id view with
  | .ambiguous => { order with
      status := .providerPending
      errorCode := some "registration_reconciliation_required" }
  | .renewalPending => { order with
      status := .providerPending
      errorCode := some "renewal_reconciliation_required" }
  | .delivered => { order with status := .active, errorCode := some "bundle_vm_failed" }
  | .dnsFailed => { order with
      status := .providerPending
      errorCode := some "managed_dns_failed" }
  | .fullRefund => order

def noteOrder (id : OrderId) (change : DomainOrderRow → DomainOrderRow)
    (orders : Table OrderId DomainOrderRow) : Table OrderId DomainOrderRow :=
  match orders id with
  | none => orders
  | some order => orders.put id (change order)

def closedOrder (code : String) (order : DomainOrderRow) : DomainOrderRow :=
  { order with
    status := if order.billingMode.isWaived then .failed else .refundDue
    errorCode := some code }

def writtenOrders (session : Session) (read : Option TransferRow)
    (orders : Table OrderId DomainOrderRow) : Table OrderId DomainOrderRow :=
  match session with
  | .failPaidOrder id code _ => noteOrder id (closedOrder code) orders
  | .markSubmitted id => noteOrder id (fun order => { order with status := .submitting }) orders
  | .recordRegistration id provider result => noteOrder id (registeredOrder provider result) orders
  | .markRenewal id baseline _ => noteOrder id (fun order => { order with
      status := .submitting
      renewalBaseline := some baseline }) orders
  | .recordRenewal id baseline result => noteOrder id (renewedOrder result baseline) orders
  | .recordReconcile visit (some (id, _)) =>
    noteOrder id (reconciledOrder visit.reading visit.provider) orders
  | .finishActiveOrder id =>
    noteOrder id (fun order => { order with status := .active, errorCode := none }) orders
  | .retryOrFailJob id order vm _ =>
    noteOrder id (endedOrder id ⟨order, read.map (·.toDomainRow), vm⟩) orders
  | .transferOut _ | .lookReconcile _ _ | .recordReconcile _ none | .activateDomain
  | .refreshRenewalStates => orders

def givesUp (id : OrderId) (code : String) : Option Stage :=
  some (.begun (.failPaidOrder id code none))

def settled (visit : Visit) (order : Option (OrderId × DomainOrderRow)) : Option Stage :=
  let session := match order with
    | none => .activateDomain
    | some (id, _) => .finishActiveOrder id
  if order.any fun (_, order) => awaitsRenewal order visit.result then none
  else if visit.domain.managedNameservers then some (.zoning none session)
  else some (.begun session)

def follows (session : Session) (read : Option TransferRow) : Option Stage :=
  match session with
  | .failPaidOrder id _ (some visit) => some (.begun (.lookReconcile visit (some id)))
  | .markSubmitted id => some (.submitting id)
  | .recordRegistration id _ result =>
    if result.status.isActive then some (.zoning (some id) (.finishActiveOrder id)) else none
  | .markRenewal id baseline _ => some (.extending id baseline)
  | .recordReconcile visit order =>
    if visit.reading.transferred || visit.reading.expired || !visit.reading.active ||
        visit.domain.status = .transferPending then none
    else settled visit order
  | .retryOrFailJob id order vm error =>
    if terminalOf id ⟨order, read.map (·.toDomainRow), vm⟩ = .fullRefund then
      givesUp id (error.codeOr "fulfillment_failed")
    else none
  | .transferOut _ | .failPaidOrder _ _ none | .recordRenewal _ _ _ | .lookReconcile _ _
  | .finishActiveOrder _ | .activateDomain | .refreshRenewalStates => none

/-- What the registrar answers to the calls that a stage makes before its next statement. -/
structure RegistrarAnswer where
  check : DomainCheck := {}
  found : Option ProviderResult := none
  result : ProviderResult := {}
  price : Option Usd × Option Currency := (none, none)
  rate : Rat := 1

/-- What `_reconcile_domain` is told of the domain. -/
def reportOf (domain : TransferRow) (answer : RegistrarAnswer) : Option (ProviderId × ProviderResult) :=
  match domain.openproviderId with
  | some provider => some (provider, answer.result)
  | none => answer.found.bind fun result => result.id.map (·, result)

def visited (visit : Visit) : Stage :=
  if visit.reading.expired then .expiring visit else .begun (.lookReconcile visit none)

/-- The registrar's id of a new domain, searched for when the answer has none. -/
def identified (id : OrderId) (result : ProviderResult) : Stage :=
  match result.id with
  | some provider => .begun (.recordRegistration id provider result)
  | none => .identifying id

def obtainsRegistration (config : TransferConfig) (id : OrderId) (order : DomainOrderRow)
    (domain : TransferRow) (answer : RegistrarAnswer) : Option Stage :=
  match domain.openproviderId, answer.found with
  | some _, _ => some (identified id answer.result)
  | none, some existing =>
    if answer.check.isPremium then givesUp id "became_premium"
    else if domain.providerOperationId.isNone then givesUp id "registrar_domain_conflict"
    else some (identified id existing)
  | none, none =>
    if answer.check.isPremium then givesUp id "became_premium"
    -- an earlier submission may have succeeded, so it is never repeated
    else if domain.providerOperationId.isSome then none
    else if answer.check.isAvailable = false then givesUp id "domain_no_longer_available"
    else match answer.check.priceAmount, answer.check.priceCurrency with
      | some amount, some _ =>
        if order.domainAmountUsd < priceDomain amount answer.rate config.toDomainConfig then
          givesUp id "price_increased"
        else some (.begun (.markSubmitted id))
      | _, _ => givesUp id "price_unavailable"

def obtainsRenewal (config : TransferConfig) (id : OrderId) (order : DomainOrderRow)
    (domain : TransferRow) (provider : ProviderId) (answer : RegistrarAnswer) : Option Stage :=
  match answer.price with
  | (some cost, some _) =>
    if order.domainAmountUsd < priceDomain cost answer.rate config.toDomainConfig then
      givesUp id "price_increased"
    else match order.renewalBaseline with
      | some baseline =>
        if unrenewed baseline answer.result then none
        else some (.begun (.recordRenewal id baseline answer.result))
      | none => (answer.result.expiresAt <|> domain.expiresAt).map fun baseline =>
        .begun (.markRenewal id baseline provider)
  | _ => none

def answered (config : TransferConfig) (late : Bool) (answer : RegistrarAnswer) (stage : Stage) :
    Option Stage :=
  match stage with
  | .unlocking operation => some (.begun (.transferOut operation))
  | .asking domain => (reportOf domain answer).map fun (provider, result) =>
    visited ⟨domain, provider, result, late⟩
  | .obtaining id order domain => obtainsRegistration config id order domain answer
  | .submitting id => some (identified id answer.result)
  | .identifying id => answer.found.bind fun result => result.id.map fun provider =>
    .begun (.recordRegistration id provider result)
  | .pricing id order domain provider => obtainsRenewal config id order domain provider answer
  | .extending id baseline => some (.begun (.recordRenewal id baseline answer.result))
  | .zoning _ session => some (.begun session)
  | _ => some stage

def Stage.fulfils : Stage → Option OrderId
  | .obtaining id _ _ | .submitting id | .identifying id | .pricing id _ _ _ | .extending id _ =>
    some id
  | .zoning order _ => order
  | _ => none

/-- A call has raised; `_fulfill_order` fails the order or raises again. -/
def raised (error : Err) (stage : Stage) : Option Stage :=
  stage.fulfils.bind fun id => match error with
    | .openprovider _ false => givesUp id "registrar_rejected"
    | .domainProblem _ code => givesUp id code
    | _ => none

namespace TransferDesk
variable (config : TransferConfig) (fqdn : Fqdn) (w : ProcessId) (desk : TransferDesk)

def goOn (stage : Option Stage) : TransferDesk :=
  { desk with jobs := Function.update desk.jobs w stage }

/-- The newest order of the domain that waits for the registrar. -/
def waitingOrder : Option OrderId :=
  desk.listed.find? fun id => (desk.orders id).any (awaitsProvider fqdn)

def reads : Session → Option TransferRow
  | .failPaidOrder id _ _ =>
    if (desk.orders id).isNone then none
    else desk.row.filter fun row => row.clientOrderId = some id
  | .retryOrFailJob _ none _ _ => none
  | .refreshRenewalStates => desk.row.filter fun row =>
    row.expiresAt.isSome && (row.status = .active || row.status = .renewalDue)
  | _ => desk.row

def bound (id : OrderId) (order : DomainOrderRow) (row : TransferRow) : Option Stage :=
  if row.clientOrderId ≠ some id ∨ row.ownerAccountId ≠ order.ownerAccountId then
    givesUp id "domain_order_conflict"
  else some (.obtaining id order row)

def looks (stage : Stage) : Option Stage :=
  match stage with
  | .reconciling => desk.row.bind fun row =>
    -- only a submission that the marker proves may be adopted
    if row.openproviderId = none ∧
        (row.clientOrderId = none ∨ row.providerOperationId ≠ row.clientOrderId) then none
    else some (.asking row)
  | .expiring visit => match desk.waitingOrder fqdn with
      | none => some (.begun (.lookReconcile visit none))
      | some id => some (.begun (.failPaidOrder id "registrar_terminal_status" (some visit)))
  | .registering id quoted => (desk.orders id).bind fun order =>
    if quoted then some (.reserving id order) else givesUp id "quote_missing"
  | .finding id order => desk.row.bind (bound id order)
  | .renewing id => (desk.orders id).map (.renewable id)
  | .renewable id order =>
    match desk.row.filter fun row => row.ownerAccountId == order.ownerAccountId with
    | none => givesUp id "domain_not_renewable"
    | some row => match row.openproviderId with
        | none => givesUp id "domain_not_renewable"
        | some provider => some (.pricing id order row provider)
  | .begun (.recordRegistration id provider result) => desk.row.map fun row =>
    .loaded (.recordRegistration id provider result) (some row)
  | .begun (.lookReconcile visit terminal) => desk.row.map fun row =>
    .loaded (.lookReconcile visit terminal) (some row)
  | .begun session => some (.loaded session (desk.reads session))
  | .loaded (.lookReconcile visit terminal) read =>
    some (.loaded (.recordReconcile visit ((desk.waitingOrder fqdn <|> terminal).bind fun id =>
      (desk.orders id).map (id, ·))) read)
  | _ => some stage

def stores (session : Session) (read : Option TransferRow) : TransferDesk :=
  { desk with
    row := match read, desk.row with
      | some read, some row => some (flush read (copied config desk.now session read) row)
      | _, row => row
    orders := writtenOrders session read desk.orders
    operations := match session with
      | .transferOut operation => match desk.operations operation with
          | none => desk.operations
          | some row => desk.operations.put operation { row with status := .succeeded }
      | _ => desk.operations
    transferredOut := match session with
      | .transferOut _ => true
      | _ => desk.transferredOut }

def reserved (id : OrderId) (order : DomainOrderRow) : TransferRow :=
  { toDomainRow := reservedRow id order }

/-- The commit of a stage, and the stage after it; that of `_reserve_registration_domain`
holds the lock of the row since it was read. -/
def commits (stage : Stage) : TransferDesk × Option Stage :=
  match stage with
  | .reserving id order => match desk.row with
      | none => (desk, some (.inserting id order))
      | some row =>
        if row.openproviderId = none ∧ row.status = .failed then
          ({ desk with row := some (reserved id order) }, some (.finding id order))
        else (desk, bound id order row)
  | .inserting id order => match desk.row with
      | none => ({ desk with row := some (reserved id order) }, some (.finding id order))
      | some _ => (desk, some (.finding id order))
  | .loaded session read => (desk.stores config session read, follows session read)
  | _ => (desk, some stage)

def commit (fate : Fate) : TransferDesk :=
  match desk.jobs w with
  | none => desk
  | some stage => match fate with
      | .failed => desk.goOn w none
      | .done => (desk.commits config stage).1.goOn w (desk.commits config stage).2
      | .lost => (desk.commits config stage).1.goOn w none

end TransferDesk

/-- What an execution begins with: a job, the last failure of a fulfilment, or a sweep. -/
inductive Beginning where
  | transferOut (operation : OperationId)
  | reconcile
  | fulfil (id : OrderId) (quoted : Bool)
  | fail (id : OrderId) (vm : Option VMRow) (error : Err)
  | refresh

/-- `order` is any other write of an order, `manage` any other write of the row. -/
inductive TransferStep where
  | elapse (seconds : Nat)
  | order (id : OrderId) (order : DomainOrderRow) (newer : Nat)
  | enqueueTransferOut (operation : OperationId) (owner : Option AccountId)
  | manage (row : DomainRow)
  | begin_ (beginning : Beginning) (w : ProcessId)
  | look (w : ProcessId)
  | answer (w : ProcessId) (answer : Except Err RegistrarAnswer)
  | commit (w : ProcessId) (fate : Fate)
  | stop (w : ProcessId)

def managedRow (other : DomainRow) (row : TransferRow) : TransferRow :=
  { row with
    ownerAccountId := other.ownerAccountId
    managedNameservers := other.managedNameservers
    managedDnssec := other.managedDnssec
    dnssecStatus := other.dnssecStatus
    vmId := other.vmId
    vmIpv6 := other.vmIpv6 }

namespace TransferDesk
variable (w : ProcessId) (desk : TransferDesk)

/-- `_operation_and_domain`, and the check of `_transfer_out`. -/
def beginTransferOut (operation : OperationId) : TransferDesk :=
  match desk.operations operation, desk.row with
  | some found, some row =>
    if found.ownerAccountId ≠ row.ownerAccountId then desk
    else { desk with
      operations := desk.operations.put operation { found with status := .running } }.goOn w
        (if row.openproviderId = none then none else some (.unlocking operation))
  | _, _ => desk

/-- `_fulfill_order`, up to its dispatch. -/
def beginFulfilment (id : OrderId) (quoted : Bool) : TransferDesk :=
  match desk.orders id with
  | none => desk
  | some order => match order.status with
      | .refundDue | .refunded | .active => desk
      | .providerPending => desk.goOn w (some .reconciling)
      | _ => { desk with orders := desk.orders.put id { order with status := .checking } }.goOn w
          (some (match order.action with
            | .renew => .renewing id
            | .register => .registering id quoted))

def begins (beginning : Beginning) : TransferDesk :=
  match beginning with
  | .transferOut operation => desk.beginTransferOut w operation
  | .reconcile => desk.goOn w (some .reconciling)
  | .fulfil id quoted => desk.beginFulfilment w id quoted
  | .fail id vm error =>
    desk.goOn w (some (.begun (.retryOrFailJob id (desk.orders id) vm error)))
  | .refresh => desk.goOn w (some (.begun .refreshRenewalStates))

end TransferDesk

def transferStep (config : TransferConfig) (fqdn : Fqdn) (step : TransferStep)
    (desk : TransferDesk) : TransferDesk :=
  match step with
  | .elapse seconds => { desk with now := desk.now + seconds }
  | .order id order newer => { desk with
      orders := desk.orders.put id order
      listed := if id ∈ desk.listed then desk.listed else desk.listed.insertIdx newer id }
  | .enqueueTransferOut operation owner =>
    if (desk.operations operation).isSome then desk
    else { desk with operations := desk.operations.put operation ⟨owner, .queued⟩ }
  | .manage other => { desk with row := desk.row.map (managedRow other) }
  | .begin_ beginning w =>
    if (desk.jobs w).isSome then desk else desk.begins w beginning
  | .look w => match desk.jobs w with
      | none => desk
      | some stage => desk.goOn w (desk.looks fqdn stage)
  | .answer w answer => match desk.jobs w, answer with
      | none, _ => desk
      | some stage, .ok answer => desk.goOn w (answered config desk.transferredOut answer stage)
      | some stage, .error error => desk.goOn w (raised error stage)
  | .commit w fate => desk.commit config w fate
  | .stop w => desk.goOn w none

def rewrites (config : TransferConfig) (now : Time) (session : Session) (read : TransferRow) : Bool :=
  (copied config now session read).status ≠ read.status

/-- Whether a commit may find the row as it is. The status of a domain that is being or has
been transferred is rewritten by reconciliations alone: to transferred, or to expired when
the registrar says so and the domain has not been transferred; and what has been transferred
is not transferred again, nor another transfer of it prepared. -/
def mayStore (config : TransferConfig) (now : Time) (session : Session) (read row : TransferRow) :
    Bool :=
  match session with
  | .transferOut _ => row.status ≠ .transferred || read.status = .transferPending
  | .recordReconcile visit order =>
    if visit.reading.transferred then row.status ≠ .transferred || read.transferredAt.isSome
    else if visit.result.status = .lapsed then
      row.status ≠ .transferred || read.status = .expired
    else !rewrites config now (.recordReconcile visit order) read ||
      (row.status ≠ .transferPending && row.status ≠ .transferred)
  | session => !rewrites config now session read ||
      (row.status ≠ .transferPending && row.status ≠ .transferred)

def departs (domain : TransferRow) (answer : RegistrarAnswer) : Bool :=
  (reportOf domain answer).any fun (_, result) => result.status = .departed

/-- Once a transfer-out has been committed, only those are told of a departure that have read
that it is pending. -/
def mayStep (config : TransferConfig) (step : TransferStep) (desk : TransferDesk) : Bool :=
  match step with
  | .answer w (.ok answer) => match desk.jobs w with
      | some (.asking domain) =>
        !(desk.transferredOut && departs domain answer) || domain.status = .transferPending
      | _ => true
  | .commit w .done | .commit w .lost => match desk.jobs w, desk.row with
      | some (.loaded session (some read)), some row => mayStore config desk.now session read row
      | _, _ => true
  | _ => true

def transfers (config : TransferConfig) (fqdn : Fqdn) : Protocol TransferDesk TransferStep :=
  ⟨transferStep config fqdn, fun step desk => mayStep config step desk = true⟩

def TransferDesk.status (desk : TransferDesk) : Option DomainStatus := desk.row.map (·.status)

def Stage.recorded : Stage → Option Visit
  | .loaded (.recordReconcile visit _) (some _) => some visit
  | _ => none

def records (step : TransferStep) (desk : TransferDesk) : Option Visit :=
  match step with
  | .commit w .done | .commit w .lost => (desk.jobs w).bind Stage.recorded
  | _ => none

def Session.fails : Session → Option Visit
  | .failPaidOrder _ _ visit => visit
  | _ => none

def Stage.fails : Stage → Option Visit
  | .expiring visit => some visit
  | .zoning _ session | .begun session | .loaded session _ => session.fails
  | _ => none

structure TransfersKept (config : TransferConfig) (fqdn : Fqdn) (desk : TransferDesk)
    (steps : List TransferStep) : Prop where
  pending : ∀ done step rest, steps = done ++ step :: rest →
    ((transfers config fqdn).run desk done).status = some .transferPending →
    ((transfers config fqdn).run desk (done ++ [step])).status = some .transferPending ∨
    ∃ visit, records step ((transfers config fqdn).run desk done) = some visit ∧
      ((visit.result.status = .departed ∧
          ((transfers config fqdn).run desk (done ++ [step])).status = some .transferred) ∨
        (visit.result.status = .lapsed ∧
          ((transfers config fqdn).run desk (done ++ [step])).status = some .expired))
  final : ∀ done rest, steps = done ++ rest → ∀ row,
    ((transfers config fqdn).run desk done).row = some row → row.status = .transferred →
    ∃ later, ((transfers config fqdn).run desk steps).row = some later ∧
      later.status = .transferred ∧ later.transferredAt = row.transferredAt
  departed : ∀ done step rest, steps = done ++ step :: rest → ∀ visit,
    records step ((transfers config fqdn).run desk done) = some visit → visit.late = true →
    visit.result.status = .departed →
    ((transfers config fqdn).run desk (done ++ [step])).status = some .transferred
  unfailed : ∀ done rest, steps = done ++ rest → ∀ w stage visit,
    ((transfers config fqdn).run desk done).jobs w = some stage → stage.fails = some visit →
    visit.late = true → visit.result.status ≠ .departed

def Quiet (desk : TransferDesk) : Prop := ∀ w, desk.jobs w = none

end HyruleCloud.Transfers
