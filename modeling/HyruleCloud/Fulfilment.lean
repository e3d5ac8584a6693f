import HyruleCloud.DomainJobs

/-!
The programs of the domain worker, domains/service.py: `process_jobs`, the
fulfilment of a paid order, the reconciliation of a domain, and the failure
handler. Every await is one request. Around them stands what else writes these
tables: payments, webhooks and sweeps that queue jobs, an administrator who
retries a failed job or resolves a refund, and the customer's own operations.
-/

namespace HyruleCloud

open Interaction

/-- The requests of `_provision_bundle`. -/
inductive BundleReq : Type → Type where
  | planBundle (id : OrderId) : BundleReq (Option Bundle)
  | claimVmAttachment (owner : Option AccountId) (fqdn : Fqdn) (vm : VmId) : BundleReq Unit
  | reserveVm (vm : VmId) (account : Option AccountId) (domain : Option Fqdn) : BundleReq Unit
  | activateVm (vm : VmId) (args : ActivateArgs) : BundleReq (Option VMStatus)
  | releaseVmReservation (vm : VmId) : BundleReq Unit
  | releaseVmAttachmentClaim (vm : VmId) : BundleReq Unit
  | linkQuoteVm (quote : QuoteId) (vm : VmId) : BundleReq Unit
  | storeOrderVm (id : OrderId) (vm : VmId) : BundleReq Unit
  | startProvisioning (vm : VmId) : BundleReq Unit

inductive SessionReq : Type → Type where
  | claimJob : SessionReq (Option JobClaim)
  | completeJob (key : JobKey) : SessionReq Unit
  | requeueJob (key : JobKey) (attempts : Nat) : SessionReq Unit
  | lookFinal (id : OrderId) : SessionReq FinalView
  | failJob (claim : JobClaim) (view : FinalView) (error : Err) : SessionReq Bool
  | lookOrder (id : OrderId) : SessionReq (Option DomainOrderRow)
  | startChecking (id : OrderId) : SessionReq Unit
  | reserveDomain (id : OrderId) (order : DomainOrderRow) : SessionReq Reserved
  | insertDomain (id : OrderId) (order : DomainOrderRow) : SessionReq Bool
  | lookDomain (fqdn : Fqdn) : SessionReq (Option DomainRow)
  | markSubmitted (id : OrderId) (fqdn : Fqdn) : SessionReq Unit
  | recordRegistration (id : OrderId) (fqdn : Fqdn) (provider : ProviderId)
      (result : ProviderResult) : SessionReq Unit
  | recordZone (fqdn : Fqdn) : SessionReq Unit
  | recordZoneError (fqdn : Fqdn) : SessionReq Unit
  | finishActiveOrder (id : OrderId) (fqdn : Fqdn) : SessionReq Unit
  | markRenewal (id : OrderId) (fqdn : Fqdn) (baseline : Time) : SessionReq Unit
  | recordRenewal (id : OrderId) (fqdn : Fqdn) (result : ProviderResult) (baseline : Time) :
      SessionReq Unit
  | lookWaiting (fqdn : Fqdn) : SessionReq (Option OrderId)
  | lookReconcile (fqdn : Fqdn) (terminal : Option OrderId) :
      SessionReq (Option (DomainRow × Option (OrderId × DomainOrderRow)))
  | recordReconcile (fqdn : Fqdn) (asked order : Option OrderId) (reading : Reading)
      (current : DomainStatus) (provider : ProviderId) (result : ProviderResult) :
      SessionReq Unit
  | activateDomain (fqdn : Fqdn) : SessionReq Unit
  | lookHeld (id : OrderId) (fqdn : Fqdn) : SessionReq Bool
  | commitFailure (id : OrderId) (code : String) (amount : Usd) (held : Bool) : SessionReq Unit

/-- A request of the worker; `read` is a session that only reads. -/
inductive JobReq (β : Type) : Type where
  | remote (request : RemoteReq β)
  | bundle (request : BundleReq β)
  | read (query : Registry → β)
  | session (request : SessionReq β)

structure JobChoice where
  fate : Fate := .done
  now : Time := 0
  found : Option JobKey := none
  answer : RemoteAnswer := {}
  drawn : Nat := 0
  apexInUse : Bool := false
  refused : Option Refusal := none
  total : Usd := 0

def bundleTransaction {β : Type} (request : BundleReq β) (choice : JobChoice) :
    Transaction Registry β :=
  match request with
  | .planBundle id => planBundle id choice.drawn
  | .claimVmAttachment owner fqdn vm => onTables (claimVmAttachment owner fqdn vm choice.apexInUse)
  | .reserveVm vm account domain => onTables (reserveBundle vm
      { ownerWallet := none, ownerAccountId := account, total := choice.total, domain := domain }
      choice.refused)
  | .activateVm vm args => onTables (activateBundle vm args)
  | .releaseVmReservation vm => onTables (releaseVmReservation vm)
  | .releaseVmAttachmentClaim vm => onTables (releaseVmAttachmentClaim vm)
  | .linkQuoteVm quote vm => onTables (linkQuoteVm quote vm)
  | .storeOrderVm id vm => storeOrderVm id vm
  | .startProvisioning vm => onTables (startProvisioning vm)

def viewing {β : Type} (view : Registry → Registry × β) (fate : Fate) (d : Registry) :
    Registry × Except Err β :=
  match fate with
  | .done => ((view d).1, .ok (view d).2)
  | _ => (d, .error .database)

def sessionExec {β : Type} (config : DomainConfig) (w : ProcessId) (request : SessionReq β)
    (choice : JobChoice) (d : Registry) : Registry × Except Err β :=
  match request with
  | .claimJob => transact (claimJob config w choice.found choice.now) choice.fate d
  | .completeJob key => transact (completeJob key) choice.fate d
  | .requeueJob key attempts => transact (requeueJob key attempts choice.now) choice.fate d
  | .lookFinal id => viewing (lookFinal w id) choice.fate d
  | .failJob claim view error => transact (failJob w claim view error) choice.fate d
  | .lookOrder id => viewing (fun d => (look w (.order id) d, d.orders id)) choice.fate d
  | .startChecking id => transact (startChecking w id) choice.fate d
  | .reserveDomain id order => transact (reserveDomain w id order) choice.fate d
  | .insertDomain id order => transact (insertDomain w id order) choice.fate d
  | .lookDomain fqdn => viewing (fun d => (look w (.row fqdn) d, d.domains fqdn)) choice.fate d
  | .markSubmitted id fqdn => transact (markSubmitted w id fqdn) choice.fate d
  | .recordRegistration id fqdn provider result =>
    transact (recordRegistration config w id fqdn provider result choice.now) choice.fate d
  | .recordZone fqdn => transact (recordZone fqdn) choice.fate d
  | .recordZoneError fqdn => transact (recordZoneError fqdn) choice.fate d
  | .finishActiveOrder id fqdn => transact (finishActiveOrder w id fqdn) choice.fate d
  | .markRenewal id fqdn baseline => transact (markRenewal w id fqdn baseline) choice.fate d
  | .recordRenewal id fqdn result baseline =>
    transact (recordRenewal config w id fqdn result baseline choice.now) choice.fate d
  | .lookWaiting fqdn => viewing (lookWaiting w fqdn) choice.fate d
  | .lookReconcile fqdn terminal => viewing (lookReconcile w fqdn terminal) choice.fate d
  | .recordReconcile fqdn asked order reading current provider result =>
    transact (recordReconcile w fqdn asked order reading current provider result) choice.fate d
  | .activateDomain fqdn => transact (activateDomain fqdn) choice.fate d
  | .lookHeld id fqdn => viewing (fun d => (d, lookHeld id fqdn d)) choice.fate d
  | .commitFailure id code amount held =>
    transact (commitFailure w id code amount held) choice.fate d

/-- A submission is recorded with the marker that its execution has committed. -/
def submitted {β : Type} (w : ProcessId) (request : RemoteReq β) (d : Registry) : Registry :=
  match request with
  | .registerDomain _ => { d with submissions := d.marked w :: d.submissions }
  | _ => d

def jobExec {β : Type} (config : DomainConfig) (w : ProcessId) (request : JobReq β)
    (choice : JobChoice) (d : Registry) : Registry × Except Err β :=
  match request with
  | .remote request => (submitted w request d, request.replies choice.answer)
  | .bundle request => transact (bundleTransaction request choice) choice.fate d
  | .read query => viewing (fun d => (d, query d)) choice.fate d
  | .session request => sessionExec config w request choice d

abbrev Job (α : Type) := Proc JobReq Err α

def remote {β : Type} (request : RemoteReq β) : Job β := Proc.perform (.remote request)

def bundled {β : Type} (request : BundleReq β) : Job β := Proc.perform (.bundle request)

def readRows {β : Type} (query : Registry → β) : Job β := Proc.perform (.read query)

def session {β : Type} (request : SessionReq β) : Job β := Proc.perform (.session request)

/-! `_provision_bundle` -/

def bundleDomain (bundle : Bundle) (fallbackAutoDomain : Bool) : Option Fqdn :=
  if fallbackAutoDomain then none else bundle.quote.orderPayload.domain

def bundleActivation (id : OrderId) (order : DomainOrderRow) : ActivateArgs :=
  { ownerWallet := order.payer.getD (.order id)
    paymentTx := order.paymentTx
    retailAmount := some order.vmAmountUsd
    adminWaived := order.billingMode == .adminWaived }

def reserveBundleVm (id : OrderId) (bundle : Bundle) (fallbackAutoDomain : Bool) :
    Job VMStatus := do
  bundled (.reserveVm bundle.vm bundle.order.ownerAccountId (bundleDomain bundle fallbackAutoDomain))
  match ← bundled (.activateVm bundle.vm (bundleActivation id bundle.order)) with
  | some status => pure status
  | none => .raise (.runtime "the bundle VM reservation disappeared")

def provisionBundle (id : OrderId) (fallbackAutoDomain : Bool) : Job Unit := do
  match ← bundled (.planBundle id) with
  | none => pure ()
  | some bundle => do
    if fallbackAutoDomain then pure ()
    else bundled (.claimVmAttachment bundle.order.ownerAccountId bundle.order.fqdn bundle.vm)
    let status ← (reserveBundleVm id bundle fallbackAutoDomain).rescue fun error => do
      bundled (.releaseVmReservation bundle.vm)
      if fallbackAutoDomain then pure ()
      else bundled (.releaseVmAttachmentClaim bundle.vm)
      .raise error
    bundled (.linkQuoteVm bundle.quoteId bundle.vm)
    bundled (.storeOrderVm id bundle.vm)
    if status = .failed then .raise (.runtime "the planned bundle VM is failed")
    else if status = .provisioning then bundled (.startProvisioning bundle.vm)
    else pure ()

/-! `_fail_paid_order` -/

def keepVm (id : OrderId) (order : DomainOrderRow) : Job Bool :=
  if order.vmQuoteId.isSome && order.onDomainFailure == .keepVm then
    ((provisionBundle id true).bind fun _ => pure true).rescue fun _ => pure false
  else pure false

def failPaidOrder (id : OrderId) (code : String) : Job Unit := do
  match ← readRows (fun d => d.orders id) with
  | none => pure ()
  | some order => do
    let kept ← keepVm id order
    let held ← session (.lookHeld id order.fqdn)
    session (.commitFailure id code (if kept then order.domainAmountUsd else order.amountUsd) held)

/-! `_ensure_managed_zone` -/

def ensureManagedZone (fqdn : Fqdn) (provider : ProviderId) : Job Unit := do
  match ← readRows (fun d => d.domains fqdn) with
  | none => .raise (.runtime "managed domain disappeared before zone initialization")
  | some domain => do
    remote (.applyZone fqdn)
    if domain.managedDnssec then remote (.dnssecKeys fqdn) else pure ()
    remote (.updateNameservers provider)
    if domain.managedDnssec then remote (.setDnssecKeys provider) else pure ()
    session (.recordZone fqdn)

/-! `_fulfill_registration` -/

def reserveRegistrationDomain (id : OrderId) (order : DomainOrderRow) : Job (Option DomainRow) := do
  let row ← match ← session (.reserveDomain id order) with
    | .found row => pure (some row)
    | .rebound => session (.lookDomain order.fqdn)
    | .absent => do
      let _ ← session (.insertDomain id order)
      session (.lookDomain order.fqdn)
  match row with
  | none => pure none
  | some row =>
    if row.clientOrderId ≠ some id ∨ row.ownerAccountId ≠ order.ownerAccountId then pure none
    else pure (some row)

def giveUp {α : Type} (id : OrderId) (code : String) : Job (Option α) := do
  failPaidOrder id code
  pure none

/-- The name is free: the last checks, the marker, and the submission. -/
def submitRegistration (config : DomainConfig) (id : OrderId) (order : DomainOrderRow)
    (check : DomainCheck) : Job (Option ProviderResult) :=
  if check.isAvailable = false then giveUp id "domain_no_longer_available"
  else match check.priceAmount, check.priceCurrency with
    | some amount, some currency => do
      let rate ← remote (.fx currency)
      if order.domainAmountUsd < priceDomain amount rate config then giveUp id "price_increased"
      else do
        session (.markSubmitted id order.fqdn)
        let result ← remote (.registerDomain order.fqdn)
        pure (some result)
    | _, _ => .raise (.domainProblem 503 "price_unavailable")

/-- What the registrar knows of the registration; `none` once the order has failed. -/
def obtainRegistration (config : DomainConfig) (id : OrderId) (order : DomainOrderRow)
    (domain : DomainRow) : Job (Option ProviderResult) :=
  match domain.openproviderId with
  | some provider => do
    let result ← remote (.getDomain provider)
    pure (some result)
  | none => do
    let check ← remote (.checkDomain order.fqdn)
    if check.isPremium then giveUp id "became_premium"
    else match ← remote (.searchDomain order.fqdn) with
      | some existing =>
        if domain.providerOperationId.isNone then giveUp id "registrar_domain_conflict"
        else pure (some existing)
      | none =>
        -- an earlier submission may have succeeded, so it is never repeated
        if domain.providerOperationId.isSome then
          .raise (.openprovider "registration_reconciliation_pending" true)
        else submitRegistration config id order check

def identify (fqdn : Fqdn) (result : ProviderResult) : Job (ProviderId × ProviderResult) :=
  match result.id with
  | some provider => pure (provider, result)
  | none => do
    match ← remote (.searchDomain fqdn) with
    | none => .raise (.runtime "registrar accepted registration without a reconcilable domain id")
    | some existing => match existing.id with
        | some provider => pure (provider, existing)
        | none =>
          .raise (.runtime "registrar accepted registration without a reconcilable domain id")

/-- The zone of a new domain; a failure is noted before it is raised again. -/
def initializeZone (fqdn : Fqdn) (provider : ProviderId) : Job Unit :=
  (ensureManagedZone fqdn provider).rescue fun error => do
    session (.recordZoneError fqdn)
    .raise error

def completeRegistration (id : OrderId) (fqdn : Fqdn) (result : ProviderResult) : Job Unit := do
  let (provider, result) ← identify fqdn result
  session (.recordRegistration id fqdn provider result)
  if result.status.isActive then do
    initializeZone fqdn provider
    session (.finishActiveOrder id fqdn)
    provisionBundle id false
  else pure ()

def fulfillRegistration (config : DomainConfig) (id : OrderId) : Job Unit := do
  match ← readRows (fun d => d.orders id) with
  | none => pure ()
  | some order => do
    match ← readRows (fun d => d.domainQuotes order.quoteId) with
    | none => failPaidOrder id "quote_missing"
    | some _ => do
      match ← reserveRegistrationDomain id order with
      | none => failPaidOrder id "domain_order_conflict"
      | some domain => do
        match ← obtainRegistration config id order domain with
        | none => pure ()
        | some result => completeRegistration id order.fqdn result

/-! `_fulfill_renewal` -/

/-- The registrar does not yet show an expiry beyond the baseline. -/
def unrenewed (baseline : Time) (result : ProviderResult) : Bool :=
  match result.expiresAt with
  | none => true
  | some expiry => decide (expiry ≤ baseline)

def obtainRenewal (id : OrderId) (order : DomainOrderRow) (domain : DomainRow)
    (provider : ProviderId) (live : ProviderResult) : Job (Time × ProviderResult) :=
  match order.renewalBaseline with
  | some baseline =>
    if unrenewed baseline live then .raise (.openprovider "renewal_reconciliation_pending" true)
    else pure (baseline, live)
  | none => match live.expiresAt <|> domain.expiresAt with
      | none => .raise (.runtime "registrar returned no renewal baseline expiry")
      | some baseline => do
        session (.markRenewal id order.fqdn baseline)
        let result ← remote (.renewDomain provider order.fqdn)
        pure (baseline, result)

def fulfillRenewal (config : DomainConfig) (id : OrderId) : Job Unit := do
  match ← readRows (renewalRows id) with
  | none => pure ()
  | some (order, renewable) => match renewable.bind fun domain => domain.openproviderId.map (domain, ·) with
    | none => failPaidOrder id "domain_not_renewable"
    | some (domain, provider) => do
      match ← remote (.renewalPrice order.fqdn) with
      | (some cost, some currency) => do
        let rate ← remote (.fx currency)
        if order.domainAmountUsd < priceDomain cost rate config then
          failPaidOrder id "price_increased"
        else do
          let live ← remote (.getDomain provider)
          let (baseline, result) ← obtainRenewal id order domain provider live
          session (.recordRenewal id order.fqdn result baseline)
      | _ => .raise (.runtime "registrar returned no live renewal price")

/-! `_reconcile_domain` -/

/-- The registrar's answer about a domain; without its id only a submission that
the marker proves may be adopted. -/
def askAgain (fqdn : Fqdn) (domain : DomainRow) : Job (Option (ProviderId × ProviderResult)) :=
  match domain.openproviderId with
  | some provider => do
    let result ← remote (.getDomain provider)
    pure (some (provider, result))
  | none =>
    if domain.clientOrderId = none ∨ domain.providerOperationId ≠ domain.clientOrderId then
      pure none
    else do
      match ← remote (.searchDomain fqdn) with
      | none => pure none
      | some result => match result.id with
          | none => .raise (.runtime
              "registrar search found the submitted domain without a domain id")
          | some provider => pure (some (provider, result))

def failTerminal (fqdn : Fqdn) (reading : Reading) : Job (Option OrderId) :=
  if reading.expired then do
    match ← session (.lookWaiting fqdn) with
    | none => pure none
    | some id => do
      failPaidOrder id "registrar_terminal_status"
      pure (some id)
  else pure none

def awaitsRenewal (order : DomainOrderRow) (result : ProviderResult) : Bool :=
  order.action == .renew && order.renewalBaseline.any fun baseline => unrenewed baseline result

def settleReconciled (fqdn : Fqdn) (retryPending : Bool) (domain : DomainRow)
    (order : Option (OrderId × DomainOrderRow)) (provider : ProviderId)
    (result : ProviderResult) : Job Unit :=
  if order.any fun (_, order) => awaitsRenewal order result then
    if retryPending then .raise (.openprovider "renewal_reconciliation_pending" true) else pure ()
  else do
    if domain.managedNameservers then ensureManagedZone fqdn provider else pure ()
    match order with
    | none => session (.activateDomain fqdn)
    | some (id, order) => do
      session (.finishActiveOrder id fqdn)
      if order.action = .register then provisionBundle id false else pure ()

def reconcileDomain (fqdn : Fqdn) (retryPending : Bool) : Job Unit := do
  match ← session (.lookDomain fqdn) with
  | none => pure ()
  | some domain => do
    match ← askAgain fqdn domain with
    | none => pure ()
    | some (provider, result) => do
      let reading := readingOf domain result.status
      let terminal ← failTerminal fqdn reading
      match ← session (.lookReconcile fqdn terminal) with
      | none => pure ()
      | some (current, order) => do
        session (.recordReconcile fqdn domain.clientOrderId (order.map (·.1)) reading
          current.status provider result)
        if reading.transferred || reading.expired then pure ()
        else if reading.active = false then
          if retryPending && order.isSome then
            .raise (.openprovider "domain_reconciliation_pending" true)
          else pure ()
        else if domain.status = .transferPending then pure ()
        else settleReconciled fqdn retryPending domain order provider result

/-! `_fulfill_order`, `_retry_or_fail_job` and `process_jobs` -/

def failsOrder (id : OrderId) : Err → Job Unit
  | .openprovider _ false => failPaidOrder id "registrar_rejected"
  | .domainProblem _ code => failPaidOrder id code
  | error => .raise error

def fulfillOrder (config : DomainConfig) (id : OrderId) : Job Unit := do
  match ← session (.lookOrder id) with
  | none => pure ()
  | some order => match order.status with
    | .refundDue | .refunded => pure ()
    | .active =>
      if order.vmQuoteId.isSome && order.vmId.isNone then provisionBundle id false else pure ()
    | .providerPending => reconcileDomain order.fqdn false
    | _ => do
      session (.startChecking id)
      (match order.action with
        | .renew => fulfillRenewal config id
        | .register => fulfillRegistration config id).rescue (failsOrder id)

def dispatchJob (config : DomainConfig) (claim : JobClaim) : Job Unit :=
  match claim.kind with
  | .fulfillOrder => fulfillOrder config claim.resource
  | .reconcileDomain => reconcileDomain claim.resource true

def Err.isRetryable : Err → Bool
  | .domainProblem _ _ => false
  | .openprovider _ retryable | .dnsControl _ retryable => retryable
  | _ => true

def lookFailure (claim : JobClaim) : Job FinalView :=
  match claim.kind with
  | .fulfillOrder => session (.lookFinal claim.resource)
  | .reconcileDomain => pure ⟨none, none, none⟩

def retryOrFailJob (claim : JobClaim) (error : Err) : Job Unit := do
  match ← readRows (fun d => d.jobs claim.key) with
  | none => pure ()
  | some job =>
    if error.isRetryable && decide (job.attempts < 10) then
      session (.requeueJob claim.key job.attempts)
    else do
      let view ← lookFailure claim
      if ← session (.failJob claim view error) then
        failPaidOrder claim.resource (error.codeOr "fulfillment_failed")
      else pure ()

/-- One job of `process_jobs`. -/
def processJob (config : DomainConfig) : Job Unit := do
  match ← session .claimJob with
  | none => pure ()
  | some claim => do
    match ← (dispatchJob config claim).attempt with
    | .ok () => session (.completeJob claim.key)
    | .error error => retryOrFailJob claim error

end HyruleCloud
