import Mathlib.Algebra.Order.Floor.Ring
import Mathlib.Data.Rat.Floor
import HyruleCloud.Checkout

/-!
What the domain worker asks of the registrar, of the authoritative name servers
and of the exchange rates, with the readings of their documents in
domains/service.py and the prices of domains/pricing.py. A document is modelled
by what those readings return; which document is returned, or which error is
raised, is not restricted here.
-/

namespace HyruleCloud

open Interaction

abbrev Currency := Nat
abbrev ProviderId := Nat

/-- The statuses of `_provider_status` that a branch tells apart. -/
inductive ProviderStatus where
  | active | departed | lapsed | blank | other
  deriving DecidableEq

/-- `active = status in {"ACT", "ACTIVE"}` -/
def ProviderStatus.isActive (status : ProviderStatus) : Bool := status == .active

/-- `active = status in {"ACT", "ACTIVE", ""}`, for a renewal. -/
def ProviderStatus.isRenewed (status : ProviderStatus) : Bool :=
  status == .active || status == .blank

/-- `_provider_id`, `_provider_status` and `_provider_expiry` of a document. -/
structure ProviderResult where
  id : Option ProviderId := none
  status : ProviderStatus := .other
  expiresAt : Option Time := none

/-- An answer of `check_domain`; `isAvailable` is `_is_available` of it. -/
structure DomainCheck where
  isPremium : Bool := false
  isAvailable : Bool := true
  priceAmount : Option Usd := none
  priceCurrency : Option Currency := none

structure DomainConfig where
  markupPercent : Rat
  markupMinUsd : Usd
  jobLockTimeout : Time
  providerReconcileDelay : Time

/-- `quantize(_CENT, rounding=ROUND_CEILING)` -/
def ceilCent (value : Usd) : Usd := (⌈value * 100⌉ : Int) / 100

/-- The total of `price_domain`; its tax is always zero. -/
def priceDomain (providerCost : Usd) (fxRate : Rat) (config : DomainConfig) : Usd :=
  let providerUsd := ceilCent (providerCost * fxRate)
  let fee := ceilCent (max (providerUsd * config.markupPercent) config.markupMinUsd)
  ceilCent (providerUsd + fee)

inductive RemoteReq : Type → Type where
  | checkDomain (fqdn : Fqdn) : RemoteReq DomainCheck
  | searchDomain (fqdn : Fqdn) : RemoteReq (Option ProviderResult)
  | getDomain (id : ProviderId) : RemoteReq ProviderResult
  | registerDomain (fqdn : Fqdn) : RemoteReq ProviderResult
  | renewDomain (id : ProviderId) (fqdn : Fqdn) : RemoteReq ProviderResult
  | renewalPrice (fqdn : Fqdn) : RemoteReq (Option Usd × Option Currency)
  | updateNameservers (id : ProviderId) : RemoteReq Unit
  | setDnssecKeys (id : ProviderId) : RemoteReq Unit
  | applyZone (fqdn : Fqdn) : RemoteReq Unit
  | dnssecKeys (fqdn : Fqdn) : RemoteReq Unit
  | fx (currency : Currency) : RemoteReq Rat

/-- Why a call fails; `retryable` is the attribute of the exception. -/
structure Problem where
  code : String
  retryable : Bool

/-- The documents that the outside answers with, or its failure. -/
structure RemoteAnswer where
  problem : Option Problem := none
  check : DomainCheck := {}
  found : Option ProviderResult := none
  result : ProviderResult := {}
  price : Option Usd × Option Currency := (none, none)
  rate : Rat := 1

def RemoteReq.raises {β : Type} (request : RemoteReq β) (problem : Problem) : Err :=
  match request with
  | .applyZone _ | .dnssecKeys _ => .dnsControl problem.code problem.retryable
  | .fx _ => .domainProblem 503 "fx_unavailable"
  | _ => .openprovider problem.code problem.retryable

def RemoteReq.reads {β : Type} (request : RemoteReq β) (answer : RemoteAnswer) : β :=
  match request with
  | .checkDomain _ => answer.check
  | .searchDomain _ => answer.found
  | .getDomain _ | .registerDomain _ | .renewDomain _ _ => answer.result
  | .renewalPrice _ => answer.price
  | .updateNameservers _ | .setDnssecKeys _ | .applyZone _ | .dnssecKeys _ => ()
  | .fx _ => answer.rate

def RemoteReq.replies {β : Type} (request : RemoteReq β) (answer : RemoteAnswer) :
    Except Err β :=
  match answer.problem with
  | some problem => .error (request.raises problem)
  | none => .ok (request.reads answer)

end HyruleCloud
