import HyruleCloud.AccountAccess

/-!
The scopes of API keys, services/api_keys.py, against the routes that their requests reach,
api/routes.py. A request carries a key and nothing else. What a route asks of the world after
it has let the request in, from the payment to the provider, is one answer of that world.
-/

namespace HyruleCloud.KeyScopes

open Interaction AccountAccess

structure ScopedAccount where
  isAdmin : Bool
  disabled : Bool

/-- `issuer` is the key that has minted this one; none for a browser session. -/
structure ScopedKey where
  account : AccountId
  scopes : List String
  expiresAt : Option Time
  revoked : Bool
  issuer : Option KeyId
  deriving DecidableEq

inductive Operation where
  | create | extend | reboot | destroy | openIntent | read
  deriving DecidableEq

/-- `ApiKeyScope` -/
def Operation.scope : Operation → String
  | .create => "vm:create"
  | .extend => "vm:extend"
  | .reboot => "vm:reboot"
  | .destroy => "vm:destroy"
  | .openIntent => "intent:create"
  | .read => "vm:read"

/-- The routes for VMs and intents; the public status of a VM asks for no authority. -/
inductive Route where
  | createVm
  | createCryptoIntent
  | listMyVms
  | getVmStatus (vm : VmId)
  | getVmLogs (vm : VmId)
  | extendVm (vm : VmId)
  | rebootVm (vm : VmId)
  | destroyVm (vm : VmId)

def Route.operation : Route → Operation
  | .createVm => .create
  | .createCryptoIntent => .openIntent
  | .listMyVms | .getVmStatus _ | .getVmLogs _ => .read
  | .extendVm _ => .extend
  | .rebootVm _ => .reboot
  | .destroyVm _ => .destroy

/-- The VM that a route depends on through `_vm_for_management`. -/
def Route.managed : Route → Option VmId
  | .createVm | .createCryptoIntent | .listMyVms => none
  | .getVmStatus vm | .getVmLogs vm | .extendVm vm | .rebootVm vm | .destroyVm vm => some vm

/-- `ApiKeyCreateRequest` -/
structure KeyRequest where
  scopes : List String
  expiresInDays : Option Nat

def KeyRequest.isValid (request : KeyRequest) : Bool :=
  decide (1 ≤ request.scopes.length) && decide (request.scopes.length ≤ 20) &&
    request.expiresInDays.all fun days => decide (1 ≤ days) && decide (days ≤ 3650)

def KeyRequest.expiresAt (request : KeyRequest) (now : Time) : Option Time :=
  request.expiresInDays.map fun days => now + days * 86400

/-- `vms` are the owners of the VMs, and `performed` the operations that keys have carried
out, the latest first. -/
structure KeyDesk where
  accounts : Table AccountId ScopedAccount
  keys : Table KeyId ScopedKey
  vms : VmId → Option (Option AccountId)
  now : Time
  drawn : KeyId
  performed : List (KeyId × Operation)

namespace KeyDesk
variable (desk : KeyDesk)

/-- `lookup_api_key` -/
def lookupApiKey (key : KeyId) : Option ScopedKey :=
  (desk.keys key).filter fun row =>
    !row.revoked && row.expiresAt.all fun expiry => decide (desk.now ≤ expiry)

/-- `current_account` of a request with this key, and the key. -/
def currentAccount (key : KeyId) : Option (ScopedAccount × ScopedKey) :=
  match desk.lookupApiKey key with
  | none => none
  | some row => match desk.accounts row.account with
      | none => none
      | some account => if account.disabled then none else some (account, row)

/-- `_vm_for_management` without a management token. -/
def vmForManagement (account : AccountId) (isAdmin : Bool) (vm : VmId) : Bool :=
  match desk.vms vm with
  | some (some owner) => account = owner || isAdmin
  | _ => false

def admits (key : KeyId) (route : Route) : Bool :=
  match desk.currentAccount key with
  | none => false
  | some (account, row) => match route.managed with
      | none => true
      | some vm => desk.vmForManagement row.account account.isAdmin vm

/-- `create_api_key` -/
def createApiKey (account : AccountId) (request : KeyRequest) (issuer : Option KeyId) : KeyDesk :=
  match desk.accounts account with
  | none => desk
  | some row =>
    if row.disabled then desk
    else match validateScopes [] request.scopes with
      | none => desk
      | some scopes => { desk with
          keys := desk.keys.put desk.drawn
            ⟨account, scopes, request.expiresAt desk.now, false, issuer⟩
          drawn := desk.drawn + 1 }

/-- `create_api_key_endpoint` for a key: it has the scope to write keys, and every scope
that it hands on. -/
def createApiKeyEndpoint (key : KeyId) (request : KeyRequest) : KeyDesk :=
  match desk.currentAccount key with
  | none => desk
  | some (_, row) =>
    if "api_keys:write" ∈ row.scopes ∧ ∀ scope ∈ request.scopes, scope ∈ row.scopes then
      desk.createApiKey row.account request (some key)
    else desk

/-- `revoke_api_key` -/
def revokeApiKey (account : AccountId) (key : KeyId) : KeyDesk :=
  match desk.keys key with
  | none => desk
  | some row =>
    if row.account = account then
      { desk with keys := desk.keys.put key { row with revoked := true } }
    else desk

/-- `revoke_api_key_endpoint` for a key. -/
def revokeApiKeyEndpoint (key target : KeyId) : KeyDesk :=
  match desk.currentAccount key with
  | none => desk
  | some (_, row) =>
    if "api_keys:write" ∈ row.scopes ∧ key ≠ target then desk.revokeApiKey row.account target
    else desk

end KeyDesk

/-- `accepted` is what becomes of a request after the route has let it in. An account or a VM
is written by whoever writes it. -/
inductive KeyStep where
  | elapse (seconds : Nat)
  | writeAccount (id : AccountId) (row : Option ScopedAccount)
  | writeVm (vm : VmId) (owner : Option (Option AccountId))
  | register (account : AccountId)
  | mintBySession (account : AccountId) (request : KeyRequest)
  | mintByKey (key : KeyId) (request : KeyRequest)
  | revokeBySession (account : AccountId) (key : KeyId)
  | revokeByKey (key target : KeyId)
  | request (key : KeyId) (route : Route) (accepted : Bool)

def carriesOut (step : KeyStep) (desk : KeyDesk) : Option (KeyId × Operation) :=
  match step with
  | .request key route accepted =>
    if accepted && desk.admits key route then some (key, route.operation) else none
  | _ => none

def keyStep (step : KeyStep) (desk : KeyDesk) : KeyDesk :=
  match step with
  | .elapse seconds => { desk with now := desk.now + seconds }
  | .writeAccount id row => { desk with accounts := Function.update desk.accounts id row }
  | .writeVm vm owner => { desk with vms := Function.update desk.vms vm owner }
  | .register account => desk.createApiKey account ⟨bootstrapScopes, none⟩ none
  | .mintBySession account request =>
    if request.isValid then desk.createApiKey account request none else desk
  | .mintByKey key request =>
    if request.isValid then desk.createApiKeyEndpoint key request else desk
  | .revokeBySession account key => desk.revokeApiKey account key
  | .revokeByKey key target => desk.revokeApiKeyEndpoint key target
  | .request key route accepted => match carriesOut (.request key route accepted) desk with
      | none => desk
      | some done => { desk with performed := done :: desk.performed }

def ExpiresBy (expiry limit : Option Time) : Prop :=
  ∀ last, limit = some last → ∃ time, expiry = some time ∧ time ≤ last

/-- A key that lacks the scope of a request is turned away on some other ground, and a key
that expires mints only keys that expire by then. -/
def mayRequest (step : KeyStep) (desk : KeyDesk) : Prop :=
  match step with
  | .request key route accepted =>
    ∀ row, desk.keys key = some row → route.operation.scope ∉ row.scopes →
      accepted = false ∨ desk.admits key route = false
  | .mintByKey key request =>
    ∀ row, desk.keys key = some row → ExpiresBy (request.expiresAt desk.now) row.expiresAt
  | _ => True

def keyRequests : Protocol KeyDesk KeyStep := ⟨keyStep, mayRequest⟩

/-- A key and a key that began the chain of mintings it comes from. -/
inductive Descends (keys : Table KeyId ScopedKey) : KeyId → KeyId → Prop where
  | self (key : KeyId) : Descends keys key key
  | minted {key issuer first : KeyId} {row : ScopedKey} : keys key = some row →
      row.issuer = some issuer → Descends keys issuer first → Descends keys key first

/-- What a run keeps. A key at the head of a chain could do what the last one does, unless
it has been revoked itself. -/
structure ScopesKept (desk : KeyDesk) (steps : List KeyStep) : Prop where
  inScope : ∀ done step rest, steps = done ++ step :: rest → ∀ key operation,
    carriesOut step (keyRequests.run desk done) = some (key, operation) →
    ∃ row, (keyRequests.run desk done).keys key = some row ∧ operation.scope ∈ row.scopes
  minted : ∀ done rest, steps = done ++ rest → ∀ key row issuer,
    (keyRequests.run desk done).keys key = some row → row.issuer = some issuer →
    ∃ parent, (keyRequests.run desk done).keys issuer = some parent ∧
      (∀ scope ∈ row.scopes, scope ∈ parent.scopes) ∧ ExpiresBy row.expiresAt parent.expiresAt
  chained : ∀ done step rest, steps = done ++ step :: rest → ∀ last operation,
    carriesOut step (keyRequests.run desk done) = some (last, operation) →
    ∀ first, Descends (keyRequests.run desk done).keys last first →
    ∃ row, (keyRequests.run desk done).keys first = some row ∧ operation.scope ∈ row.scopes ∧
      (row.revoked = true ∨ ((keyRequests.run desk done).currentAccount first).isSome)

def Unminted (desk : KeyDesk) : Prop := ∀ key, desk.keys key = none

end HyruleCloud.KeyScopes
