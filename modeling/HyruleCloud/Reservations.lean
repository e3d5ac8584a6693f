import HyruleCloud.Refunds

/-!
The transactions of orchestrator.py on VM rows before provisioning: inserting,
reserving, activating and releasing a row, failing it, and handing it to the
provisioner. Also those of services/quotes.py. Each function is one database
session of the source; locks make it atomic there.
-/

namespace HyruleCloud

/-- `_apply_payment_billing` -/
def applyPaymentBilling (row : VMRow) (retailAmount : Option Usd) (adminWaived : Bool)
    (paymentTx : Option Tx) : VMRow :=
  let billed := match retailAmount with
    | none => row
    | some amount =>
      { row with costTotal := if adminWaived || paymentTx == some .devBypass then 0 else amount }
  match paymentTx with
  | none => billed
  | some tx => { billed with paymentTx := some tx }

/-- `_set_provisioning_handoff_state` never takes a published handoff back. -/
def setHandoff (row : VMRow) (ready : Bool) : VMRow :=
  if !ready && row.handoff == some .ready then row
  else { row with handoff := some (if ready then .ready else .pending) }

/-- The keyword arguments of `_insert_vm_row`; `total` is the price it computes. -/
structure InsertArgs where
  ownerWallet : Option Wallet
  ownerAccountId : Option AccountId
  total : Usd
  domain : Option Fqdn := none
  paymentTx : Option Tx := none
  retailAmount : Option Usd := none
  adminWaived : Bool := false
  handoffReady : Bool := true

def ownerDisabled (s : Store) : Option AccountId → Bool
  | some account => s.disabled account
  | none => false

def newVmRow (args : InsertArgs) : VMRow :=
  let row : VMRow := applyPaymentBilling
    { ownerWallet := args.ownerWallet
      ownerAccountId := args.ownerAccountId
      costTotal := args.total
      domain := args.domain }
    args.retailAmount args.adminWaived args.paymentTx
  if args.ownerWallet.isSome then setHandoff row args.handoffReady else row

def insertVmRow (vm : VmId) (args : InsertArgs) : Transaction Store Unit := fun s =>
  if ownerDisabled s args.ownerAccountId then .error .accountDisabled
  else match s.vms vm with
    | some _ => .error (.runtime "Could not allocate a unique customer IPv6 prefix")
    | none => .ok ({ s with vms := s.vms.put vm (newVmRow args) }, ())

/-- `_validate_replayed_vm`, for the fields that are modelled. -/
def validateReplayedVm (row : VMRow) (args : InsertArgs) : Bool :=
  row.ownerAccountId == args.ownerAccountId && row.domain == args.domain

/-- `reserve_vm_with_capacity` under a planned id: an existing matching row is
no new capacity and is returned as it is. -/
def reservePlannedVm (vm : VmId) (args : InsertArgs) : Transaction Store Unit := fun s =>
  match s.vms vm with
  | some row =>
    if validateReplayedVm row args then .ok (s, ())
    else .error (.runtime "planned VM id is already bound to another order")
  | none => insertVmRow vm args s

structure ActivateArgs where
  ownerWallet : Wallet
  paymentTx : Option Tx
  ownerAccountId : Option AccountId := none
  startProvisioning : Bool := false
  retailAmount : Option Usd
  adminWaived : Bool := false

def activatedRow (row : VMRow) (args : ActivateArgs) : VMRow :=
  let owned := { row with
    ownerWallet := some args.ownerWallet
    ownerAccountId := row.ownerAccountId <|> args.ownerAccountId }
  let billed := applyPaymentBilling owned args.retailAmount args.adminWaived args.paymentTx
  if billed.status = .provisioning then setHandoff billed args.startProvisioning else billed

/-- `activate_vm_reservation`; `false` stands for its result `None`. -/
def activateVmReservation (vm : VmId) (args : ActivateArgs) : Transaction Store Bool := fun s =>
  match s.vms vm with
  | none => .ok (s, false)
  | some row =>
    if ownerDisabled s row.ownerAccountId || ownerDisabled s args.ownerAccountId then
      .error .accountDisabled
    else .ok ({ s with vms := s.vms.put vm (activatedRow row args) }, true)

def detachPlanned (vm : VmId) (row : DomainRow) : DomainRow :=
  if row.vmId = some vm ∧ row.vmIpv6 = false then { row with vmId := none } else row

/-- `claim_vm_attachment`. `apexInUse`: the customer has an AAAA record at `@`. -/
def claimVmAttachment (owner : Option AccountId) (fqdn : Fqdn) (vm : VmId) (apexInUse : Bool) :
    Transaction Store Unit := fun s =>
  match s.domains fqdn with
  | none => .error (.domainProblem 404 "domain_not_found")
  | some row =>
    if row.ownerAccountId ≠ owner then .error (.domainProblem 404 "domain_not_found")
    else if row.status ≠ .active ∧ row.status ≠ .renewalDue then
      .error (.domainProblem 409 "domain_not_active")
    else if row.managedNameservers = false then
      .error (.domainProblem 409 "external_nameservers")
    else match row.vmId with
      | some other =>
        if other ≠ vm then .error (.domainProblem 409 "domain_already_attached")
        else .ok (s, ())
      | none =>
        if apexInUse then .error (.domainProblem 409 "apex_aaaa_in_use")
        else .ok ({ s with
          domains := s.domains.put fqdn { row with vmId := some vm, vmIpv6 := false } }, ())

/-- `release_vm_attachment_claim` -/
def releaseVmAttachmentClaim (vm : VmId) : Transaction Store Unit := fun s =>
  .ok ({ s with domains := fun fqdn => (s.domains fqdn).map (detachPlanned vm) }, ())

def isReservation (row : VMRow) : Bool :=
  row.ownerWallet.isNone && row.status == .provisioning

/-- `release_vm_reservation` only deletes a row that nobody has paid for. -/
def releaseVmReservation (vm : VmId) : Transaction Store Unit := fun s =>
  match s.vms vm with
  | none => .ok (s, ())
  | some row =>
    if isReservation row then
      .ok ({ s with
        vms := s.vms.erase vm
        domains := fun fqdn => (s.domains fqdn).map (detachPlanned vm) }, ())
    else .ok (s, ())

def markVmFailed (vm : VmId) : Transaction Store Unit := fun s =>
  match s.vms vm with
  | none => .ok (s, ())
  | some row =>
    if row.status = .destroyed ∨ row.status = .failed then .ok (s, ())
    else .ok ({ s with
      vms := s.vms.put vm { row with status := .failed, hasPrefix := false }
      domains := fun fqdn => (s.domains fqdn).map (detachPlanned vm) }, ())

/-- The commit of `start_provisioning` that publishes the handoff. -/
def startProvisioning (vm : VmId) : Transaction Store Unit := fun s =>
  match s.vms vm with
  | none => .ok (s, ())
  | some row =>
    if row.status = .provisioning ∧ row.ownerWallet.isSome then
      .ok ({ s with vms := s.vms.put vm (setHandoff row true) }, ())
    else .ok (s, ())

def persistChargedAmount (vm : VmId) (amount : Usd) : Transaction Store Unit := fun s =>
  match s.vms vm with
  | none => .ok (s, ())
  | some row => .ok ({ s with vms := s.vms.put vm { row with costTotal := amount } }, ())

/-- `claim_quote`: the conditional update; `true` iff it matched a row. -/
def claimQuote (quote : QuoteId) : Transaction Store Bool := fun s =>
  match s.vmQuotes quote with
  | some row =>
    if row.status = .created then
      .ok ({ s with vmQuotes := s.vmQuotes.put quote { row with status := .consumed } }, true)
    else .ok (s, false)
  | none => .ok (s, false)

/-- `release_quote_claim`: a linked quote is never reopened. -/
def releaseQuoteClaim (quote : QuoteId) : Transaction Store Bool := fun s =>
  match s.vmQuotes quote with
  | some row =>
    if row.status = .consumed ∧ row.vmId = none then
      .ok ({ s with vmQuotes := s.vmQuotes.put quote { row with status := .created } }, true)
    else .ok (s, false)
  | none => .ok (s, false)

def linkQuoteVm (quote : QuoteId) (vm : VmId) : Transaction Store Unit := fun s =>
  match s.vmQuotes quote with
  | some row => .ok ({ s with vmQuotes := s.vmQuotes.put quote { row with vmId := some vm } }, ())
  | none => .ok (s, ())

end HyruleCloud
