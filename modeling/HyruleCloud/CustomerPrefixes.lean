import HyruleCloud.AddressBlocks
import HyruleCloud.Probing
import HyruleCloud.Protocol
import HyruleCloud.Store

/-!
The customer /64s: their choice, providers/network_config.py and
`_allocate_customer_prefix`, and the rows and guests that use them, orchestrator.py and
the bundle failure handler of domains/service.py. Transactions that lock the row are one
step. `mark_vm_failed`, the bundle handler and `release_vm_reservation` read without a
lock and write later. A clone that XO has been asked for can appear at any later time.
-/

namespace HyruleCloud.CustomerPrefixes

open AddressBlocks Interaction Probing

abbrev Network := Block 128
abbrev Address := Nat

def customerVmAddressHostId : Nat := 2

/-- `RESERVED_PREFIX_INDEXES` -/
def reservedPrefixIndexes : List Nat := [0]

/-- `none` where `customer_prefix_count` raises. -/
def customerPrefixCount (supernet : Network) : Option Nat :=
  if 64 < supernet.prefixLength then none else some (2 ^ (64 - supernet.prefixLength))

/-- `digest` is the number in the first eight bytes of the hash of the VM id. -/
def prefixIndexCandidate (digest : VmId → Nat) (vm : VmId) (supernet : Network) : Option Nat :=
  (customerPrefixCount supernet).bind fun count =>
    if count ≤ reservedPrefixIndexes.length then none
    else some (digest vm % (count - reservedPrefixIndexes.length) + 1)

def prefixForIndex (supernet : Network) (index : Nat) : Option Network := supernet.part 64 index

def vmAddressForPrefix (block : Network) : Address := block.address + customerVmAddressHostId

/-- The addresses as `ipaddress` reads them; a DNS server that it does not read is `none`. -/
def validateCustomerNetworkSettings (supernet : Network) (gateway : Address)
    (dns : List (Option Address)) : Bool :=
  33 ≤ supernet.prefixLength &&
    ((customerPrefixCount supernet).any fun count => reservedPrefixIndexes.length < count) &&
    supernet.contains gateway && dns ≠ [] && dns.all (·.isSome)

structure CustomerNetwork where
  supernet : Network
  gateway : Address
  dns : List (Option Address)
  accepted : validateCustomerNetworkSettings supernet gateway dns = true

/-! `_allocate_customer_prefix`, of the used indexes -/

/-- `none` where it raises. -/
def allocateCustomerPrefix (supernet : Network) (digest : VmId → Nat) (taken : List Nat)
    (vm : VmId) : Option (Nat × Network) := do
  let used := taken ++ reservedPrefixIndexes
  let total ← customerPrefixCount supernet
  let start ← prefixIndexCandidate digest vm supernet
  let offset ← probe (total - reservedPrefixIndexes.length) (start - 1) fun place =>
    place + 1 ∉ used
  let block ← prefixForIndex supernet (offset + 1)
  pure (offset + 1, block)

abbrev Uuid := Nat
abbrev Generation := Nat

/-- The columns of `VMRow`. Its two prefix columns are set and cleared together; `paid` says that
`owner_wallet` is not empty, `receipt` is the generation of its `VMGuestResultRow`. -/
structure PrefixRow where
  status : VMStatus
  xcpngUuid : Option Uuid
  prefixIndex : Option Nat
  paid : Bool
  deletionStarted : Bool
  providerDeleted : Option Uuid
  receipt : Option Generation

/-- `vm.create` of a clone whose label has the generation, with the addresses of `index`. -/
structure CloneRequest where
  vm : VmId
  generation : Generation
  index : Nat
  deriving DecidableEq

structure Guest where
  uuid : Uuid
  request : CloneRequest
  deriving DecidableEq

inductive Stage where
  | read
  | found (guest : Uuid) (generation : Generation)
  | unclaimed
  | cloning (generation : Generation)
  deriving DecidableEq

/-- A provisioning attempt of a row without a guest, with the prefix that it has read. -/
structure Attempt where
  index : Nat
  stage : Stage

inductive UnlockedRead where
  | markFailed (vm : VmId)
  | bundleFailed (vm : VmId) (status : VMStatus)
  | release (vm : VmId)
  deriving DecidableEq

/-- What `destroy_vm` has read; `gone` once the provider has deleted the guest. -/
structure DestroyCall where
  vm : VmId
  uuid : Option Uuid
  status : VMStatus
  unresolved : Bool
  gone : Bool
  deriving DecidableEq

structure Allocation where
  vm : VmId
  index : Nat
  paid : Bool
  deriving DecidableEq

/-- `vms` are the ids that have had a row, `guests` all guests that XO has ever made. -/
structure Site where
  vms : List VmId
  rows : VmId → Option PrefixRow
  allocations : List Allocation
  reads : List UnlockedRead
  attempts : VmId → Option Attempt
  destroys : List DestroyCall
  generations : Nat
  requests : List CloneRequest
  guests : List Guest
  deleted : List Uuid

def Site.empty : Site := ⟨[], fun _ => none, [], [], fun _ => none, [], 0, [], [], []⟩

namespace Site

variable (site : Site)

def setRow (vm : VmId) (row : Option PrefixRow) : Site :=
  { site with rows := Function.update site.rows vm row }

def setAttempt (vm : VmId) (attempt : Option Attempt) : Site :=
  { site with attempts := Function.update site.attempts vm attempt }

def used : List Nat := site.vms.filterMap fun vm => (site.rows vm).bind (·.prefixIndex)

/-- The guest of a row may still exist: it has not been deleted, or none is recorded and XO has
been asked for a clone. -/
def guestMayExist (vm : VmId) : Bool :=
  (site.rows vm).any fun row => match row.xcpngUuid with
    | some uuid => uuid ∉ site.deleted
    | none => site.requests.any (·.vm = vm)

/-- `find_vm_ids_by_name_label` -/
def labelled (vm : VmId) (generation : Generation) : List Uuid :=
  (site.guests.filter fun guest => guest.request.vm = vm ∧
    guest.request.generation = generation ∧ guest.uuid ∉ site.deleted).map (·.uuid)

end Site

def PrefixRow.stage (row : PrefixRow) (generations : Nat) : PrefixRow × Nat :=
  if row.receipt = none ∧ row.xcpngUuid = none then
    ({ row with receipt := some generations }, generations + 1)
  else (row, generations)

/-- `prepare_provisioning_dispatch` on the row that the caller commits. -/
def dispatch (vm : VmId) (row : PrefixRow) (site : Site) : Site :=
  let (staged, generations) := row.stage site.generations
  { site.setRow vm (some staged) with generations := generations }

def allocate (supernet : Network) (digest : VmId → Nat) (vm : VmId) (paid : Bool) (site : Site) :
    Site :=
  match allocateCustomerPrefix supernet digest site.used vm with
  | none => site
  | some (index, _) => { site with allocations := ⟨vm, index, paid⟩ :: site.allocations }

/-- The commit of `_insert_vm_row`; the id and the prefix are unique in the table. -/
def insertVmRow (allocation : Allocation) (site : Site) : Site :=
  if allocation ∉ site.allocations then site
  else
    let rest := { site with allocations := site.allocations.erase allocation }
    if (site.rows allocation.vm).isSome || allocation.index ∈ site.used then rest
    else
      let row : PrefixRow := ⟨.provisioning, none, some allocation.index, allocation.paid, false,
        none, none⟩
      let inserted := { rest with vms := allocation.vm :: site.vms }
      if allocation.paid then dispatch allocation.vm row inserted
      else inserted.setRow allocation.vm (some row)

def activateVmReservation (vm : VmId) (site : Site) : Site :=
  match site.rows vm with
  | none => site
  | some row =>
    let row := { row with paid := true }
    if row.status = .provisioning then dispatch vm row site else site.setRow vm (some row)

def PrefixRow.unpaidReservation (row : PrefixRow) : Bool :=
  !row.paid && row.status = .provisioning

/-- The purge of `check_expiries`, one statement. -/
def purgeReservation (vm : VmId) (site : Site) : Site :=
  match site.rows vm with
  | none => site
  | some row =>
    if row.unpaidReservation && !row.deletionStarted then site.setRow vm none else site

/-! The calls that read first: `release_vm_reservation`, `mark_vm_failed` and the bundle
failure handler. -/

def startUnlocked (read : UnlockedRead) (site : Site) : Site :=
  { site with reads := read :: site.reads }

def readForRelease (vm : VmId) (site : Site) : Site :=
  if (site.rows vm).any (·.unpaidReservation) then startUnlocked (.release vm) site else site

def readForMark (vm : VmId) (site : Site) : Site :=
  if (site.rows vm).any fun row => row.status ≠ .destroyed && row.status ≠ .failed then
    startUnlocked (.markFailed vm) site
  else site

def readForBundle (vm : VmId) (site : Site) : Site :=
  match site.rows vm with
  | none => site
  | some row =>
    if row.status = .provisioning ∨ row.status = .failed then
      startUnlocked (.bundleFailed vm row.status) site
    else site

/-- The UPDATE of the changed columns; a status that was FAILED is not written. -/
def clearPrefix (vm : VmId) (readFailed : Bool) (site : Site) : Site :=
  match site.rows vm with
  | none => site
  | some row => site.setRow vm (some { row with
      status := if readFailed then row.status else .failed
      prefixIndex := none })

def UnlockedRead.write (read : UnlockedRead) (site : Site) : Site :=
  match read with
  | .markFailed vm => clearPrefix vm false site
  | .bundleFailed vm status => clearPrefix vm (status = .failed) site
  | .release vm => site.setRow vm none

def writeUnlocked (read : UnlockedRead) (site : Site) : Site :=
  if read ∈ site.reads then read.write { site with reads := site.reads.erase read } else site

/-! Provisioning, under the advisory lock of the VM. -/

def beginAttempt (vm : VmId) (site : Site) : Site :=
  match site.rows vm, site.attempts vm with
  | some row, none => match row.prefixIndex with
      | some index =>
        if row.paid ∧ row.xcpngUuid = none then site.setAttempt vm (some ⟨index, .read⟩) else site
      | none => site
  | _, _ => site

/-- `_recover_pre_uuid_guest` to its look at the labels. -/
def recoverPreUuidGuest (vm : VmId) (attempt : Attempt) (site : Site) : Site :=
  match site.rows vm with
  | none => site.setAttempt vm none
  | some row =>
    if row.xcpngUuid.isSome then site.setAttempt vm none
    else match row.receipt with
      | none => site.setAttempt vm (some { attempt with stage := .unclaimed })
      | some generation => match site.labelled vm generation with
          | [] => site.setAttempt vm (some { attempt with stage := .unclaimed })
          | [guest] => site.setAttempt vm (some { attempt with stage := .found guest generation })
          | _ => site.setAttempt vm none

def recordUuid (vm : VmId) (guest : Uuid) (row : PrefixRow) (site : Site) : Site :=
  if row.xcpngUuid.any (· ≠ guest) then site
  else site.setRow vm (some { row with xcpngUuid := some guest })

def adoptGuest (vm : VmId) (guest : Uuid) (generation : Generation) (site : Site) : Site :=
  match site.rows vm with
  | none => site.setAttempt vm none
  | some row =>
    if row.status = .provisioning ∧ row.receipt = some generation then
      (recordUuid vm guest row site).setAttempt vm none
    else site.setAttempt vm none

/-- `prepare_guest_result`, and the `vm.create` that follows it. -/
def prepareGuestResult (vm : VmId) (attempt : Attempt) (site : Site) : Site :=
  match site.rows vm with
  | none => site.setAttempt vm none
  | some row =>
    if row.status = .provisioning ∧ row.xcpngUuid = none then
      { site.setRow vm (some { row with receipt := some site.generations }) with
        generations := site.generations + 1
        requests := ⟨vm, site.generations, attempt.index⟩ :: site.requests
        attempts := Function.update site.attempts vm
          (some { attempt with stage := .cloning site.generations }) }
    else site.setAttempt vm none

def makeClone (request : CloneRequest) (site : Site) : Site :=
  if request ∈ site.requests then
    { site with guests := ⟨site.guests.length, request⟩ :: site.guests }
  else site

/-- `vm.create` has answered, or the clone was found under its label. -/
def storeUuid (vm : VmId) (guest : Uuid) (generation : Generation) (site : Site) : Site :=
  if site.guests.any (fun made => made.uuid = guest ∧ made.request.vm = vm ∧
      made.request.generation = generation) then
    match site.rows vm with
    | none => site.setAttempt vm none
    | some row => (recordUuid vm guest row site).setAttempt vm none
  else site

/-- The failure handler of `_provision_vm_owned`. -/
def failProvisioning (vm : VmId) (site : Site) : Site :=
  match site.rows vm with
  | none => site
  | some row =>
    if row.status = .provisioning then site.setRow vm (some { row with status := .failed })
    else site

/-- The end of provisioning, power actions, suspensions and resumes of a guest. -/
def changePower (vm : VmId) (status : VMStatus) (site : Site) : Site :=
  match site.rows vm with
  | none => site
  | some row =>
    if status ∈ [.ready, .running, .suspended] ∧ row.status ∉ [.failed, .destroyed] then
      site.setRow vm (some { row with status := status })
    else site

def restartProvisioning (vm : VmId) (site : Site) : Site :=
  match site.rows vm with
  | none => site
  | some row =>
    if row.status = .suspended ∧ row.xcpngUuid = none ∧ row.deletionStarted = false ∧ row.paid then
      dispatch vm { row with status := .provisioning } site
    else site

def completeRestore (vm : VmId) (site : Site) : Site :=
  match site.rows vm with
  | none => site
  | some row =>
    if row.xcpngUuid.isSome then site.setRow vm (some { row with deletionStarted := false })
    else site

/-! `destroy_vm` -/

def PrefixRow.verified (row : PrefixRow) : Bool :=
  row.xcpngUuid.isSome && row.providerDeleted = row.xcpngUuid

def claimDeletion (vm : VmId) (site : Site) : Site :=
  match site.rows vm with
  | none => site
  | some row =>
    if row.status = .destroyed ∧ row.prefixIndex = none ∧
        (row.xcpngUuid = none ∨ row.verified) then site
    else
      { site.setRow vm (some { row with deletionStarted := true }) with
        destroys := ⟨vm, row.xcpngUuid, row.status,
          row.xcpngUuid = none ∧ row.receipt.isSome, row.verified⟩ :: site.destroys }

/-- The provider's answer; a deletion without an answer may have taken place. -/
inductive DeleteReply where
  | deleted
  | raised (took : Bool)

def deleteGuest (call : DestroyCall) (reply : DeleteReply) (site : Site) : Site :=
  match call.uuid with
  | none => site
  | some uuid =>
    if call ∉ site.destroys ∨ call.gone then site
    else
      let rest := site.destroys.erase call
      match reply with
      | .deleted => { site with
          destroys := { call with gone := true } :: rest
          deleted := uuid :: site.deleted }
      | .raised took => { site with
          destroys := rest
          deleted := if took then uuid :: site.deleted else site.deleted }

/-- The users of the address are gone, as far as the call has seen; `dnsClean` is the end of the
cleanup of the names. -/
def DestroyCall.cleanupOk (call : DestroyCall) (dnsClean : Bool) : Bool :=
  dnsClean && (call.uuid.isSome || !(call.status = .provisioning || call.unresolved))

def PrefixRow.destroyed (row : PrefixRow) (call : DestroyCall) (dnsClean : Bool) : PrefixRow :=
  { row with
    status := .destroyed
    providerDeleted := if call.uuid.isSome then call.uuid else row.providerDeleted
    prefixIndex := if call.cleanupOk dnsClean && row.xcpngUuid = call.uuid then none
      else row.prefixIndex }

def finishDestroy (call : DestroyCall) (dnsClean : Bool) (site : Site) : Site :=
  if call ∉ site.destroys ∨ (call.uuid.isSome ∧ call.gone = false) then site
  else
    let rest := { site with destroys := site.destroys.erase call }
    match site.rows call.vm with
    | none => rest
    | some row => rest.setRow call.vm (some (row.destroyed call dnsClean))

/-- `release_destroyed_prefix` -/
def releaseDestroyedPrefix (vm : VmId) (site : Site) : Site :=
  match site.rows vm with
  | none => site
  | some row =>
    if row.status ≠ .destroyed then site
    else if row.xcpngUuid.isSome ∧ row.providerDeleted ≠ row.xcpngUuid then site
    else if row.xcpngUuid = none ∧ row.receipt.isSome then site
    else site.setRow vm (some { row with prefixIndex := none })

inductive Action where
  | allocate (vm : VmId) (paid : Bool)
  | insert (allocation : Allocation)
  | activate (vm : VmId)
  | purge (vm : VmId)
  | readForRelease (vm : VmId)
  | readForMark (vm : VmId)
  | readForBundle (vm : VmId)
  | write (read : UnlockedRead)
  | attempt (vm : VmId)
  | recover (vm : VmId)
  | adopt (vm : VmId)
  | prepare (vm : VmId)
  | clone (request : CloneRequest)
  | store (vm : VmId) (guest : Uuid)
  | discard (vm : VmId) (guest : Uuid)
  | leave (vm : VmId)
  | failProvisioning (vm : VmId)
  | power (vm : VmId) (status : VMStatus)
  | restart (vm : VmId)
  | restored (vm : VmId)
  | claim (vm : VmId)
  | delete (call : DestroyCall) (reply : DeleteReply)
  | abandon (call : DestroyCall)
  | finish (call : DestroyCall) (dnsClean : Bool)
  | release (vm : VmId)

def step (supernet : Network) (digest : VmId → Nat) (action : Action) (site : Site) : Site :=
  match action with
  | .allocate vm paid => allocate supernet digest vm paid site
  | .insert allocation => insertVmRow allocation site
  | .activate vm => activateVmReservation vm site
  | .purge vm => purgeReservation vm site
  | .readForRelease vm => readForRelease vm site
  | .readForMark vm => readForMark vm site
  | .readForBundle vm => readForBundle vm site
  | .write read => writeUnlocked read site
  | .attempt vm => beginAttempt vm site
  | .recover vm => match site.attempts vm with
      | some attempt => if attempt.stage = .read then recoverPreUuidGuest vm attempt site else site
      | none => site
  | .adopt vm => match site.attempts vm with
      | some ⟨_, .found guest generation⟩ => adoptGuest vm guest generation site
      | _ => site
  | .prepare vm => match site.attempts vm with
      | some attempt =>
        if attempt.stage = .unclaimed then prepareGuestResult vm attempt site else site
      | none => site
  | .clone request => makeClone request site
  | .store vm guest => match site.attempts vm with
      | some ⟨_, .cloning generation⟩ => storeUuid vm guest generation site
      | _ => site
  -- `create_vm` deletes its clone after an error
  | .discard vm guest => match site.attempts vm with
      | some ⟨_, .cloning generation⟩ =>
        if guest ∈ site.labelled vm generation then
          { site with deleted := guest :: site.deleted }
        else site
      | _ => site
  -- the attempt returns or raises, or its process dies
  | .leave vm => site.setAttempt vm none
  | .failProvisioning vm => failProvisioning vm site
  | .power vm status => changePower vm status site
  | .restart vm => restartProvisioning vm site
  | .restored vm => completeRestore vm site
  | .claim vm => claimDeletion vm site
  | .delete call reply => deleteGuest call reply site
  -- it raises, retains the guest, or its process dies
  | .abandon call => { site with destroys := site.destroys.erase call }
  | .finish call dnsClean => finishDestroy call dnsClean site
  | .release vm => releaseDestroyedPrefix vm site

end HyruleCloud.CustomerPrefixes
