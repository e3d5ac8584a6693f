import HyruleCloud.Decimals

/-!
services/vm_pricing.py: the profiles of VMs, the price of an order and of an extension, and the
columns of `_insert_vm_row` that an order is billed by. An order has the fields that pricing
reads and changes.
-/

namespace HyruleCloud.VmPricing

open Decimals

inductive VmSize where
  | xs | sm | md | lg
  deriving DecidableEq

def VmSize.all : List VmSize := [.xs, .sm, .md, .lg]

def VmSize.text : VmSize → String
  | .xs => "xs"
  | .sm => "sm"
  | .md => "md"
  | .lg => "lg"

def VmSize.position : VmSize → Nat
  | .xs => 0
  | .sm => 1
  | .md => 2
  | .lg => 3

/-- `VMSize(value)` -/
def VmSize.ofText (text : String) : Option VmSize := VmSize.all.find? fun size => size.text = text

structure VmResources where
  vcpu : Nat
  ramMb : Nat
  diskGb : Nat

def VmResources.fits (base resources : VmResources) : Bool :=
  decide (base.vcpu ≤ resources.vcpu) && decide (base.ramMb ≤ resources.ramMb) &&
    decide (base.diskGb ≤ resources.diskGb)

/-- `VM_SPECS` -/
def vmSpecs : VmSize → VmResources
  | .xs => ⟨1, 1024, 10⟩
  | .sm => ⟨1, 2048, 20⟩
  | .md => ⟨2, 4096, 20⟩
  | .lg => ⟨4, 4096, 40⟩

/-- `VM_PROFILE_LABELS` -/
def vmProfileLabels : VmSize → String
  | .xs => "1C-1G-10G"
  | .sm => "1C-2G-20G"
  | .md => "2C-4G-20G"
  | .lg => "4C-4G-40G"

/-- `base_prices` and `addon_prices` of a payment configuration. -/
structure PriceTable where
  base : VmSize → Decimal
  addonVcpu : Decimal
  addonRamGb : Decimal
  addonDisk10gb : Decimal

def defaultPrices : PriceTable where
  base
    | .xs => ⟨20, -2⟩
    | .sm => ⟨40, -2⟩
    | .md => ⟨60, -2⟩
    | .lg => ⟨80, -2⟩
  addonVcpu := ⟨10, -2⟩
  addonRamGb := ⟨15, -2⟩
  addonDisk10gb := ⟨5, -2⟩

/-- `VMCreateRequest` -/
structure VmOrder where
  durationDays : Nat
  size : VmSize
  resources : Option VmResources
  days : 1 ≤ durationDays ∧ durationDays ≤ 365

def requestedResources (order : VmOrder) : VmResources :=
  order.resources.getD (vmSpecs order.size)

/-- `validate_new_order_resources`; the error is the one the order is refused with. -/
def validateNewOrderResources (resources : VmResources) : Except String Unit :=
  if ¬ (1 ≤ resources.vcpu ∧ resources.vcpu ≤ 4) then
    .error "vcpu must be between 1 and 4"
  else if ¬ (1024 ≤ resources.ramMb ∧ resources.ramMb ≤ 8192) then
    .error "ram_mb must be between 1024 and 8192"
  else if ¬ (10 ≤ resources.diskGb ∧ resources.diskGb ≤ 40) then
    .error "disk_gb must be between 10 and 40"
  else if resources.ramMb % 1024 ≠ 0 then
    .error "ram_mb must be a whole number of GiB"
  else if resources.diskGb % 10 ≠ 0 then
    .error "disk_gb must be in 10-GB increments"
  else .ok ()

def precision : Nat := 28

structure Addons where
  vcpu : Nat
  ramMb : Nat
  diskGb : Nat
  deriving DecidableEq

def VmResources.addons (resources base : VmResources) : Addons :=
  ⟨resources.vcpu - base.vcpu, resources.ramMb - base.ramMb, resources.diskGb - base.diskGb⟩

namespace PriceTable
variable (table : PriceTable)

def vcpuPrice (addons : Addons) : Decimal :=
  (ofNat addons.vcpu).mul precision table.addonVcpu

def ramPrice (addons : Addons) : Decimal :=
  (ofNat (addons.ramMb / 1024)).mul precision table.addonRamGb

def diskPrice (addons : Addons) : Decimal :=
  (ofNat (addons.diskGb / 10)).mul precision table.addonDisk10gb

/-- The sum that `price_vm_order` and `current_daily_price_for_vm` both spell out. -/
def daily (size : VmSize) (addons : Addons) : Decimal :=
  (((table.base size).add precision (table.vcpuPrice addons)).add precision
    (table.ramPrice addons)).add precision (table.diskPrice addons)

end PriceTable

/-- A profile that an order may be rebound to, with the components of its sort key. -/
structure Candidate where
  daily : Decimal
  inexact : Nat
  addonUnits : Nat
  position : Nat
  size : VmSize
  addons : Addons

def candidate (table : PriceTable) (resources : VmResources) (size : VmSize) : Candidate :=
  let addons := resources.addons (vmSpecs size)
  { daily := table.daily size addons
    inexact := if addons.vcpu ≠ 0 ∨ addons.ramMb ≠ 0 ∨ addons.diskGb ≠ 0 then 1 else 0
    addonUnits := addons.vcpu + addons.ramMb / 1024 + addons.diskGb / 10
    position := size.position
    size := size
    addons := addons }

def candidates (table : PriceTable) (resources : VmResources) : List Candidate :=
  (VmSize.all.filter fun size => (vmSpecs size).fits resources).map (candidate table resources)

/-- Tuples are compared at the first component in which they differ. -/
def Candidate.before (a b : Candidate) : Bool :=
  if !b.daily.le a.daily then true
  else if !a.daily.le b.daily then false
  else if a.inexact ≠ b.inexact then decide (a.inexact < b.inexact)
  else if a.addonUnits ≠ b.addonUnits then decide (a.addonUnits < b.addonUnits)
  else decide (a.position < b.position)

/-- `min`, which keeps the first of equals. -/
def cheapest : List Candidate → Option Candidate
  | [] => none
  | first :: rest => some (rest.foldl (fun best next => if next.before best then next else best)
      first)

/-- `_money`: plain notation, with two places at least and no zeros beyond. -/
def money (value : Decimal) : String :=
  let rendered := value.format
  if '.' ∈ rendered then
    String.ofList (rendered.takeWhile (· ≠ '.') ++
      '.' :: padZeros 2 (stripZeros (rendered.dropWhile (· ≠ '.')).tail))
  else String.ofList (rendered ++ ".00".toList)

/-- `VMPriceBreakdown` -/
structure Breakdown where
  baseProfile : VmSize
  baseLabel : String
  basePriceUsdDay : String
  addonVcpu : Nat
  addonRamMb : Nat
  addonDiskGb : Nat
  addonVcpuUsdDay : String
  addonRamUsdDay : String
  addonDiskUsdDay : String
  dailyPriceUsd : String
  durationDays : Nat
  totalUsd : String

structure PricedVmOrder where
  order : VmOrder
  resources : VmResources
  dailyPrice : Decimal
  total : Decimal
  breakdown : Breakdown

/-- What `price_vm_order` returns for the candidate that it chooses. -/
def pricedThrough (table : PriceTable) (order : VmOrder) (best : Candidate) : PricedVmOrder :=
  let resources := requestedResources order
  let total := best.daily.mul precision (ofNat order.durationDays)
  { order := { order with size := best.size, resources := some resources }
    resources := resources
    dailyPrice := best.daily
    total := total
    breakdown :=
      { baseProfile := best.size
        baseLabel := vmProfileLabels best.size
        basePriceUsdDay := money (table.base best.size)
        addonVcpu := best.addons.vcpu
        addonRamMb := best.addons.ramMb
        addonDiskGb := best.addons.diskGb
        addonVcpuUsdDay := money (table.vcpuPrice best.addons)
        addonRamUsdDay := money (table.ramPrice best.addons)
        addonDiskUsdDay := money (table.diskPrice best.addons)
        dailyPriceUsd := money best.daily
        durationDays := order.durationDays
        totalUsd := money total } }

/-- `price_vm_order` -/
def priceVmOrder (table : PriceTable) (order : VmOrder) : Except String PricedVmOrder :=
  let resources := requestedResources order
  match validateNewOrderResources resources with
  | .error refusal => .error refusal
  | .ok () => match cheapest (candidates table resources) with
      | none => .error "no compatible VM profile"
      | some best => .ok (pricedThrough table order best)

/-! The snapshot of a price, and the row that is billed by it. -/

inductive JsonValue where
  | text (value : String)
  | number (value : Nat)

abbrev Snapshot := List (String × JsonValue)

/-- `model_dump(mode="json")` -/
def Breakdown.dump (breakdown : Breakdown) : Snapshot :=
  [("base_profile", .text breakdown.baseProfile.text),
    ("base_label", .text breakdown.baseLabel),
    ("base_price_usd_day", .text breakdown.basePriceUsdDay),
    ("addon_vcpu", .number breakdown.addonVcpu),
    ("addon_ram_mb", .number breakdown.addonRamMb),
    ("addon_disk_gb", .number breakdown.addonDiskGb),
    ("addon_vcpu_usd_day", .text breakdown.addonVcpuUsdDay),
    ("addon_ram_usd_day", .text breakdown.addonRamUsdDay),
    ("addon_disk_usd_day", .text breakdown.addonDiskUsdDay),
    ("daily_price_usd", .text breakdown.dailyPriceUsd),
    ("duration_days", .number breakdown.durationDays),
    ("total_usd", .text breakdown.totalUsd)]

def PricedVmOrder.pricingSnapshot (priced : PricedVmOrder) : Snapshot := priced.breakdown.dump

def Snapshot.text (snapshot : Snapshot) (key : String) : Option String :=
  match snapshot.lookup key with
  | some (.text value) => some value
  | _ => none

def Snapshot.number (snapshot : Snapshot) (key : String) : Option Nat :=
  match snapshot.lookup key with
  | some (.number value) => some value
  | _ => none

def Snapshot.textOr (snapshot : Snapshot) (key default : String) : Option String :=
  if (snapshot.lookup key).isNone then some default else snapshot.text key

def Snapshot.numberOr (snapshot : Snapshot) (key : String) (default : Nat) : Option Nat :=
  if (snapshot.lookup key).isNone then some default else snapshot.number key

/-- `VMPriceBreakdown.model_validate` -/
def validateBreakdown (snapshot : Snapshot) : Option Breakdown := do
  let baseProfile ← (← snapshot.text "base_profile") |> VmSize.ofText
  return {
    baseProfile := baseProfile
    baseLabel := ← snapshot.text "base_label"
    basePriceUsdDay := ← snapshot.text "base_price_usd_day"
    addonVcpu := ← snapshot.numberOr "addon_vcpu" 0
    addonRamMb := ← snapshot.numberOr "addon_ram_mb" 0
    addonDiskGb := ← snapshot.numberOr "addon_disk_gb" 0
    addonVcpuUsdDay := ← snapshot.textOr "addon_vcpu_usd_day" "0.00"
    addonRamUsdDay := ← snapshot.textOr "addon_ram_usd_day" "0.00"
    addonDiskUsdDay := ← snapshot.textOr "addon_disk_usd_day" "0.00"
    dailyPriceUsd := ← snapshot.text "daily_price_usd"
    durationDays := ← snapshot.number "duration_days"
    totalUsd := ← snapshot.text "total_usd" }

/-- `billing_addons_from_snapshot` -/
def billingAddonsFromSnapshot (snapshot : Option Snapshot) : Addons :=
  match snapshot with
  | none => ⟨0, 0, 0⟩
  | some snapshot => ⟨(snapshot.number "addon_vcpu").getD 0, (snapshot.number "addon_ram_mb").getD 0,
      (snapshot.number "addon_disk_gb").getD 0⟩

/-- The columns of a VM row that `_insert_vm_row` takes from an order and its price. -/
structure BilledRow where
  size : VmSize
  vcpu : Nat
  memoryMb : Nat
  diskGb : Nat
  billingAddonVcpu : Nat
  billingAddonRamMb : Nat
  billingAddonDiskGb : Nat
  costTotal : Decimal

def billedRow (order : VmOrder) (resources : VmResources) (snapshot : Option Snapshot)
    (total : Decimal) : BilledRow :=
  let addons := billingAddonsFromSnapshot snapshot
  ⟨order.size, resources.vcpu, resources.ramMb, resources.diskGb, addons.vcpu, addons.ramMb,
    addons.diskGb, total⟩

/-- The pricing part of `_insert_vm_row`. -/
def insertVmRow (table : PriceTable) (order : VmOrder) (pricingSnapshot : Option Snapshot)
    (legacyBilling : Bool) : Except String BilledRow :=
  if legacyBilling then
    .ok (billedRow order (requestedResources order) pricingSnapshot
      ((table.base order.size).mul precision (ofNat order.durationDays)))
  else match pricingSnapshot with
    | some snapshot => match validateBreakdown snapshot with
        | none => .error "validation error for VMPriceBreakdown"
        | some breakdown =>
          let resources := requestedResources order
          let base := vmSpecs breakdown.baseProfile
          if breakdown.baseProfile ≠ order.size ∨ breakdown.durationDays ≠ order.durationDays then
            .error "pricing snapshot does not match the VM order"
          else if ¬ base.fits resources ∨ resources.addons base ≠
              ⟨breakdown.addonVcpu, breakdown.addonRamMb, breakdown.addonDiskGb⟩ then
            .error "pricing snapshot add-ons do not match the VM resources"
          else match parse breakdown.totalUsd.toList with
            | none => .error "invalid decimal"
            | some total => .ok (billedRow order resources (some snapshot) total)
    | none => match priceVmOrder table order with
        | .error refusal => .error refusal
        | .ok priced => .ok (billedRow priced.order priced.resources (some priced.pricingSnapshot)
            priced.total)

/-- `current_daily_price_for_vm` -/
def currentDailyPriceForVm (table : PriceTable) (row : BilledRow) : Decimal :=
  table.daily row.size ⟨row.billingAddonVcpu, row.billingAddonRamMb, row.billingAddonDiskGb⟩

end HyruleCloud.VmPricing
