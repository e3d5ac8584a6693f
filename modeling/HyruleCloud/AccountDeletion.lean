import HyruleCloud.Protocol
import HyruleCloud.Store

/-!
The deletion of an account, api/auth.py, against everything that gives a VM an owner or
takes it away. A transaction locks the row of the account before the VMs that it writes, so
it is one step; the destroy policy spans many. The guard of a deletion is an advisory lock,
which a transfer of ownership tries too. A management token is kept as its hash, which
stands for the token.
-/

namespace HyruleCloud.AccountDeletion

open Interaction Function

abbrev VmId := Nat
abbrev Token := Nat

inductive VmPolicy where
  | detach | destroy
  deriving DecidableEq

structure AccountRow where
  disabled : Bool
  admin : Bool

/-- The columns of a VM that its ownership depends on, and the owner of its retention row. -/
structure VMRow where
  ownerAccountId : Option AccountId
  anonManagementToken : Option Token
  status : VMStatus := .provisioning
  deletionStarted : Bool := false
  accountSuspended : Bool := false
  extensionPending : Bool := false
  retention : Option (Option AccountId) := none
  deriving DecidableEq

inductive Fate where
  | pending | returned | lost
  deriving DecidableEq

/-- `AccountDeleteResponse`, with the tokens of the detached VMs. -/
structure AccountDeleteResponse where
  vmPolicy : VmPolicy
  detachedVms : List (VmId × Token)
  fate : Fate := .pending
  deriving DecidableEq

/-- A request of `delete_me` under its guard. -/
inductive Deletion where
  | guarded (account : AccountId) (policy : VmPolicy)
  -- the first snapshot is released, and these VMs are still to be destroyed
  | destroying (account : AccountId) (targets : List VmId)
  | answering (account : AccountId)

structure DeletionDesk where
  accounts : Table AccountId AccountRow
  -- the account has a domain or the order of one
  domains : AccountId → Bool
  -- a resume of the resources of the account is queued, runs or has failed
  resuming : AccountId → Bool
  vms : Table VmId VMRow
  vmIds : List VmId
  guards : AccountId → Option ProcessId
  works : ProcessId → Option Deletion
  -- the responses of the deletions that have committed
  deleted : Table AccountId AccountDeleteResponse

inductive ClaimProof where
  | token (token : Token)
  -- a wallet or an SSH key
  | signature (valid : Bool)

/-- What `destroy_vm` comes to. -/
inductive DestroyOutcome where
  | done | skipped | raised

def Deletion.account : Deletion → AccountId
  | guarded account _ => account
  | destroying account _ => account
  | answering account => account

namespace DeletionDesk

def goOn (w : ProcessId) (work : Option Deletion) (desk : DeletionDesk) : DeletionDesk :=
  { desk with works := update desk.works w work }

def leave (w : ProcessId) (desk : DeletionDesk) : DeletionDesk :=
  goOn w none { desk with
    guards := fun account => if desk.guards account = some w then none else desk.guards account }

def writeVm (vm : VmId) (change : VMRow → VMRow) (desk : DeletionDesk) : DeletionDesk :=
  { desk with vms := fun id => if id = vm then (desk.vms id).map change else desk.vms id }

def isOwned (desk : DeletionDesk) (account : AccountId) (vm : VmId) : Bool :=
  (desk.vms vm).any fun row => row.ownerAccountId = some account && row.status ≠ .destroyed

def retains (desk : DeletionDesk) (account : AccountId) (vm : VmId) : Bool :=
  (desk.vms vm).any fun row => match row.retention with
    | none => false
    | some owner => owner = some account || desk.isOwned account vm

/-- `_account_deletion_snapshot` -/
def accountDeletionSnapshot (account : AccountId) (desk : DeletionDesk) :
    Except Err (List VmId) :=
  match desk.accounts account with
  | none => .error (.http 409)
  | some acct =>
    if acct.disabled then .error (.http 403)
    else if acct.admin then .error (.http 409)
    else if desk.domains account then .error (.http 409)
    else if desk.vmIds.any (desk.retains account) then .error (.http 409)
    else .ok (desk.vmIds.filter (desk.isOwned account))

def detachRefusal (account : AccountId) (owned : List VmId) (desk : DeletionDesk) : Option Err :=
  if desk.resuming account ||
      owned.any (fun vm => (desk.vms vm).any VMRow.accountSuspended) then some (.http 409)
  else if owned.any (fun vm => (desk.vms vm).any VMRow.extensionPending) then some (.http 409)
  else none

def deleteAccount (account : AccountId) (response : AccountDeleteResponse)
    (desk : DeletionDesk) : DeletionDesk :=
  { desk with
    accounts := desk.accounts.erase account
    vms := fun id => (desk.vms id).map fun row =>
      if row.ownerAccountId = some account then { row with ownerAccountId := none } else row
    deleted := desk.deleted.put account response }

def detachVms (owned : List VmId) (fresh : VmId → Token) (desk : DeletionDesk) : DeletionDesk :=
  { desk with vms := fun id =>
      if id ∈ owned then (desk.vms id).map fun row => { row with
        ownerAccountId := none
        anonManagementToken := some (fresh id) }
      else desk.vms id }

/-- `delete_me` comes to its guard. -/
def enter (w : ProcessId) (account : AccountId) (policy : VmPolicy) (desk : DeletionDesk) :
    DeletionDesk :=
  match desk.works w, desk.guards account, desk.accounts account with
  | none, none, some acct =>
    if acct.disabled || acct.admin then desk
    else goOn w (some (.guarded account policy))
      { desk with guards := update desk.guards account (some w) }
  | _, _, _ => desk

def snapshot (w : ProcessId) (fresh : VmId → Token) (desk : DeletionDesk) : DeletionDesk :=
  match desk.works w with
  | some (.guarded account policy) => match desk.accountDeletionSnapshot account with
      | .error _ => leave w desk
      | .ok owned => match policy with
          | .detach => match desk.detachRefusal account owned with
              | some _ => leave w desk
              | none => goOn w (some (.answering account))
                  (deleteAccount account ⟨.detach, owned.map fun vm => (vm, fresh vm), .pending⟩
                    (detachVms owned fresh desk))
          | .destroy => goOn w (some (.destroying account owned)) desk
  | _ => desk

/-- The next VM of the first snapshot; `destroy_vm` looks for the owner that was captured. -/
def destroyTarget (w : ProcessId) (outcome : DestroyOutcome) (desk : DeletionDesk) :
    DeletionDesk :=
  match desk.works w with
  | some (.destroying account (vm :: targets)) => match outcome with
      | .raised => leave w desk
      | .skipped => goOn w (some (.destroying account targets)) desk
      | .done => goOn w (some (.destroying account targets)) (writeVm vm (fun row =>
        if row.ownerAccountId = some account then
          { row with status := .destroyed, deletionStarted := true }
        else row) desk)
  | _ => desk

def finish (w : ProcessId) (desk : DeletionDesk) : DeletionDesk :=
  match desk.works w with
  | some (.destroying account []) => match desk.accountDeletionSnapshot account with
      | .ok [] => goOn w (some (.answering account))
          (deleteAccount account ⟨.destroy, [], .pending⟩ desk)
      | _ => leave w desk
  | _ => desk

def markResponse (account : AccountId) (fate : Fate) (desk : DeletionDesk) : DeletionDesk :=
  match desk.deleted account with
  | none => desk
  | some response =>
    { desk with deleted := desk.deleted.put account { response with fate := fate } }

def answer (w : ProcessId) (desk : DeletionDesk) : DeletionDesk :=
  match desk.works w with
  | some (.answering account) => leave w (markResponse account .returned desk)
  | _ => desk

def crash (w : ProcessId) (desk : DeletionDesk) : DeletionDesk :=
  match desk.works w with
  | none => desk
  | some (.answering account) => leave w (markResponse account .lost desk)
  | some _ => leave w desk

def enabled (desk : DeletionDesk) (account : Option AccountId) : Bool :=
  match account with
  | none => true
  | some account => (desk.accounts account).any fun acct => !acct.disabled

/-- `_insert_vm_row`; that the account is there is its foreign key. -/
def insertVm (vm : VmId) (owner : Option AccountId) (token : Token) (desk : DeletionDesk) :
    DeletionDesk :=
  match desk.vms vm with
  | some _ => desk
  | none =>
    if desk.enabled owner then { desk with
      vms := desk.vms.put vm { ownerAccountId := owner, anonManagementToken := some token }
      vmIds := vm :: desk.vmIds }
    else desk

/-- `activate_vm_reservation` -/
def activate (vm : VmId) (owner : Option AccountId) (desk : DeletionDesk) : DeletionDesk :=
  match desk.vms vm with
  | none => desk
  | some row =>
    if desk.enabled row.ownerAccountId && desk.enabled owner then
      writeVm vm (fun row => { row with ownerAccountId := row.ownerAccountId <|> owner }) desk
    else desk

def proves (proof : ClaimProof) (row : VMRow) : Bool :=
  match proof with
  | .token token => row.anonManagementToken = some token
  | .signature valid => valid

/-- `claim_vm` -/
def claim (vm : VmId) (account : AccountId) (proof : ClaimProof) (desk : DeletionDesk) :
    DeletionDesk :=
  match desk.vms vm with
  | none => desk
  | some row =>
    if !desk.enabled (some account) || row.ownerAccountId ≠ none || !proves proof row ||
        row.deletionStarted || row.status = .destroyed || row.retention ≠ none then desk
    else writeVm vm (fun row => { row with
      ownerAccountId := some account
      anonManagementToken := none }) desk

/-- A transfer takes the guards of both accounts for its transaction. -/
def unguarded (desk : DeletionDesk) (account : Option AccountId) : Bool :=
  match account with
  | none => true
  | some account => (desk.guards account).isNone

/-- `transfer_vm`, and `transfer_domain` for the attached VM; `blocked`: the attached domain
has pending work. -/
def transfer (vm : VmId) (target : AccountId) (blocked : Bool) (desk : DeletionDesk) :
    DeletionDesk :=
  match desk.vms vm with
  | none => desk
  | some row =>
    if !desk.unguarded row.ownerAccountId || !desk.unguarded (some target) ||
        !desk.enabled (some target) then desk
    else if row.deletionStarted || row.status = .destroyed || row.extensionPending ||
        row.status = .provisioning || blocked then desk
    else writeVm vm (fun row => { row with
      ownerAccountId := some target
      anonManagementToken := none
      accountSuspended := row.accountSuspended && row.status ≠ .failed }) desk

/-- `disable_account` revokes the tokens of the VMs of the account too. -/
def disable (account : AccountId) (desk : DeletionDesk) : DeletionDesk :=
  match desk.accounts account with
  | none => desk
  | some acct => { desk with
      accounts := desk.accounts.put account { acct with disabled := true }
      vms := fun id => (desk.vms id).map fun row =>
        if row.ownerAccountId = some account then { row with anonManagementToken := none }
        else row }

def changeAccount (account : AccountId) (change : AccountRow → AccountRow)
    (desk : DeletionDesk) : DeletionDesk :=
  { desk with accounts := fun id =>
      if id = account then (desk.accounts id).map change else desk.accounts id }

/-- Provisioning, power, destruction, retention and the resumption of an extension; a
destroyed VM stays destroyed. -/
def writeColumns (vm : VmId) (change : VMRow → VMRow) (desk : DeletionDesk) : DeletionDesk :=
  writeVm vm (fun row => { change row with
    ownerAccountId := row.ownerAccountId
    anonManagementToken := row.anonManagementToken
    status := if row.status = .destroyed then .destroyed else (change row).status }) desk

end DeletionDesk

inductive DeletionStep where
  | enter (w : ProcessId) (account : AccountId) (policy : VmPolicy)
  | snapshot (w : ProcessId) (fresh : VmId → Token)
  | destroyTarget (w : ProcessId) (outcome : DestroyOutcome)
  | finish (w : ProcessId)
  | answer (w : ProcessId)
  | crash (w : ProcessId)
  | insert (vm : VmId) (owner : Option AccountId) (token : Token)
  | activate (vm : VmId) (owner : Option AccountId)
  | claim (vm : VmId) (account : AccountId) (proof : ClaimProof)
  | transfer (vm : VmId) (target : AccountId) (blocked : Bool)
  | disable (account : AccountId)
  | enable (account : AccountId)
  | setAdmin (account : AccountId) (admin : Bool)
  | columns (vm : VmId) (change : VMRow → VMRow)
  -- domains and resume operations come and go
  | records (account : AccountId) (domains resuming : Bool)

open DeletionDesk in
def deletionStep (step : DeletionStep) (desk : DeletionDesk) : DeletionDesk :=
  match step with
  | .enter w account policy => desk.enter w account policy
  | .snapshot w fresh => desk.snapshot w fresh
  | .destroyTarget w outcome => desk.destroyTarget w outcome
  | .finish w => desk.finish w
  | .answer w => desk.answer w
  | .crash w => desk.crash w
  | .insert vm owner token => desk.insertVm vm owner token
  | .activate vm owner => desk.activate vm owner
  | .claim vm account proof => desk.claim vm account proof
  | .transfer vm target blocked => desk.transfer vm target blocked
  | .disable account => desk.disable account
  | .enable account => desk.changeAccount account fun acct => { acct with disabled := false }
  | .setAdmin account admin => desk.changeAccount account fun acct => { acct with admin := admin }
  | .columns vm change => desk.writeColumns vm change
  | .records account domains resuming => { desk with
      domains := update desk.domains account domains
      resuming := update desk.resuming account resuming }

def deletions : Protocol DeletionDesk DeletionStep := ⟨deletionStep, fun _ _ => True⟩

structure DeletionStart (desk : DeletionDesk) : Prop where
  listed : ∀ vm row, desk.vms vm = some row → vm ∈ desk.vmIds
  owners : ∀ vm row account, desk.vms vm = some row → row.ownerAccountId = some account →
    desk.accounts account ≠ none
  works : ∀ w, desk.works w = none
  deleted : ∀ account, desk.deleted account = none

end HyruleCloud.AccountDeletion
