import HyruleCloud.PriceAgreement

/-!
The prices of a smaller and of a larger machine. Growing an order can only make a profile fit
that bundles resources below their add-on prices, so the law is about what lies below a profile.
-/

namespace HyruleCloud.VmPricing

open Decimals

def PriceTable.extra (table : PriceTable) (addons : Addons) : Rat :=
  addons.vcpu * table.addonVcpu.value + (addons.ramMb / 1024 : Nat) * table.addonRamGb.value +
    (addons.diskGb / 10 : Nat) * table.addonDisk10gb.value

def PriceTable.Additive (table : PriceTable) : Prop :=
  0 ≤ table.addonVcpu.value ∧ 0 ≤ table.addonRamGb.value ∧ 0 ≤ table.addonDisk10gb.value

def ExactFor (table : PriceTable) (days : Nat) : Prop :=
  ∀ resources size, Admissible resources → (vmSpecs size).fits resources = true →
    table.ExactSums size (resources.addons (vmSpecs size)) days

/-- No profile costs more than a smaller one with the add-ons that make it as large. -/
def PriceTable.Bundled (table : PriceTable) : Prop :=
  ∀ small large, (vmSpecs small).fits (vmSpecs large) = true →
    (table.base large).value ≤
      (table.base small).value + table.extra ((vmSpecs large).addons (vmSpecs small))

/-- A larger machine never costs less, in orders for the same days. -/
def Monotone (table : PriceTable) (days : Nat) : Prop :=
  ∀ small large smallPriced largePriced, small.durationDays = days → large.durationDays = days →
    (requestedResources small).fits (requestedResources large) = true →
    priceVmOrder table small = .ok smallPriced → priceVmOrder table large = .ok largePriced →
    smallPriced.total.value ≤ largePriced.total.value

/-- No profile costs less than a machine that it is not smaller than. -/
def NothingAbove (table : PriceTable) (days : Nat) : Prop :=
  ∀ order size priced, order.durationDays = days →
    (requestedResources order).fits (vmSpecs size) = true →
    priceVmOrder table order = .ok priced → priced.dailyPrice.value ≤ (table.base size).value

section Order
variable {table : PriceTable} {days : Nat}

theorem extra_mono (additive : table.Additive) {a b : Addons} (vcpu : a.vcpu ≤ b.vcpu)
    (ram : a.ramMb ≤ b.ramMb) (disk : a.diskGb ≤ b.diskGb) : table.extra a ≤ table.extra b := by
  obtain ⟨v, r, d⟩ := additive
  have rams : ((a.ramMb / 1024 : Nat) : Rat) ≤ (b.ramMb / 1024 : Nat) := by
    exact_mod_cast Nat.div_le_div_right ram
  have disks : ((a.diskGb / 10 : Nat) : Rat) ≤ (b.diskGb / 10 : Nat) := by
    exact_mod_cast Nat.div_le_div_right disk
  unfold PriceTable.extra
  gcongr

theorem extra_split {least middle most : VmResources} (low : Admissible least)
    (between : Admissible middle) (high : Admissible most) (first : least.fits middle = true)
    (second : middle.fits most = true) :
    table.extra (most.addons least) =
      table.extra (middle.addons least) + table.extra (most.addons middle) := by
  rw [admissible_iff] at low between high
  rw [fits_iff] at first second
  have vcpu : (most.addons least).vcpu = (middle.addons least).vcpu + (most.addons middle).vcpu := by
    simp only [VmResources.addons]
    omega
  have ram : (most.addons least).ramMb / 1024 =
      (middle.addons least).ramMb / 1024 + (most.addons middle).ramMb / 1024 := by
    simp only [VmResources.addons]
    omega
  have disk : (most.addons least).diskGb / 10 =
      (middle.addons least).diskGb / 10 + (most.addons middle).diskGb / 10 := by
    simp only [VmResources.addons]
    omega
  unfold PriceTable.extra
  rw [vcpu, ram, disk]
  push_cast
  ring

theorem daily_extra {resources : VmResources} {size : VmSize} (some_ : 1 ≤ days)
    (sums : table.ExactSums size (resources.addons (vmSpecs size)) days) :
    (table.daily size (resources.addons (vmSpecs size))).value =
      (table.base size).value + table.extra (resources.addons (vmSpecs size)) := by
  have kept := sums_kept some_ sums
  rw [kept.daily, kept.vcpu, kept.ram, kept.disk]
  unfold PriceTable.extra
  ring

def VmResources.meet (a b : VmResources) : VmResources :=
  ⟨min a.vcpu b.vcpu, min a.ramMb b.ramMb, min a.diskGb b.diskGb⟩

theorem profile_admissible (size : VmSize) : Admissible (vmSpecs size) := by
  cases size <;> decide

theorem meet_admissible {a b : VmResources} (first : Admissible a) (second : Admissible b) :
    Admissible (a.meet b) := by
  rw [admissible_iff] at first second ⊢
  simp only [VmResources.meet]
  omega

theorem meet_fits (a b : VmResources) :
    (a.meet b).fits a = true ∧ (a.meet b).fits b = true := by
  rw [fits_iff, fits_iff]
  simp only [VmResources.meet]
  omega

structure PricedExactly (table : PriceTable) (resources : VmResources) (days : Nat)
    (priced : PricedVmOrder) : Prop where
  chosen : ∃ size, (vmSpecs size).fits resources = true ∧ priced.dailyPrice.value =
    (table.base size).value + table.extra (resources.addons (vmSpecs size))
  least : ∀ size, (vmSpecs size).fits resources = true → priced.dailyPrice.value ≤
    (table.base size).value + table.extra (resources.addons (vmSpecs size))
  total : priced.total.value = priced.dailyPrice.value * days

theorem priced_exactly (sums : ExactFor table days) {order : VmOrder} {priced : PricedVmOrder}
    (lasts : order.durationDays = days) (accepted : priceVmOrder table order = .ok priced) :
    PricedExactly table (requestedResources order) days priced := by
  obtain ⟨admissible, size, is⟩ := priceVmOrder_some accepted
  have some_ : 1 ≤ days := lasts ▸ order.days.1
  have daily : priced.dailyPrice =
      table.daily size ((requestedResources order).addons (vmSpecs size)) := by
    rw [is.is, pricedThrough_dailyPrice, candidate_daily]
  constructor
  · refine ⟨size, is.fits, ?_⟩
    rw [daily, daily_extra some_ (sums _ size admissible is.fits)]
  · intro other fits
    rw [← daily_extra some_ (sums _ other admissible fits)]
    exact is.least other fits
  · have kept := sums_kept some_ (sums _ size admissible is.fits)
    rw [daily, ← kept.total, is.is, ← lasts]
    rw [pricedThrough, candidate]

theorem total_le_iff {a b : VmResources} {small large : PricedVmOrder} (some_ : 1 ≤ days)
    (first : PricedExactly table a days small) (second : PricedExactly table b days large) :
    small.total.value ≤ large.total.value ↔
      small.dailyPrice.value ≤ large.dailyPrice.value := by
  have positive : (0 : Rat) < days := by exact_mod_cast some_
  rw [first.total, second.total, mul_le_mul_iff_left₀ positive]

theorem extra_self (resources : VmResources) : table.extra (resources.addons resources) = 0 := by
  simp [PriceTable.extra, VmResources.addons]

theorem fits_trans {a b c : VmResources} (first : a.fits b = true) (second : b.fits c = true) :
    a.fits c = true := by
  rw [fits_iff] at first second ⊢
  omega

theorem fits_refl (resources : VmResources) : resources.fits resources = true := by
  rw [fits_iff]
  omega

theorem monotone_of_nothingAbove (valid : 1 ≤ days ∧ days ≤ 365) (additive : table.Additive)
    (sums : ExactFor table days) (nothing : NothingAbove table days) : Monotone table days := by
  intro small large smallPriced largePriced smallDays largeDays grows smallOk largeOk
  have smallExact := priced_exactly sums smallDays smallOk
  have largeExact := priced_exactly sums largeDays largeOk
  rw [total_le_iff valid.1 smallExact largeExact]
  have smallAdmissible := (priceVmOrder_some smallOk).1
  obtain ⟨size, fits, chosen⟩ := largeExact.chosen
  -- the order for what both the small machine and the profile of the large one have
  let common : VmOrder :=
    ⟨days, .xs, some ((requestedResources small).meet (vmSpecs size)), valid⟩
  have commonIs : requestedResources common = (requestedResources small).meet (vmSpecs size) := rfl
  have commonAdmissible : Admissible (requestedResources common) :=
    meet_admissible smallAdmissible (profile_admissible size)
  obtain ⟨belowSmall, belowProfile⟩ := meet_fits (requestedResources small) (vmSpecs size)
  obtain ⟨commonPriced, commonOk⟩ := priceVmOrder_total table commonAdmissible
  have commonExact := priced_exactly sums (rfl : common.durationDays = days) commonOk
  have bundled := nothing common size commonPriced rfl belowProfile commonOk
  obtain ⟨least, leastFits, leastIs⟩ := commonExact.chosen
  have smallThrough := smallExact.least least (fits_trans leastFits belowSmall)
  rw [extra_split (profile_admissible least) commonAdmissible smallAdmissible leastFits belowSmall]
    at smallThrough
  have grown : table.extra ((requestedResources small).addons (requestedResources common)) ≤
      table.extra ((requestedResources large).addons (vmSpecs size)) := by
    rw [fits_iff] at grows
    apply extra_mono additive
    · simp only [commonIs, VmResources.meet, VmResources.addons]
      omega
    · simp only [commonIs, VmResources.meet, VmResources.addons]
      omega
    · simp only [commonIs, VmResources.meet, VmResources.addons]
      omega
  linarith

theorem nothingAbove_of_monotone (valid : 1 ≤ days ∧ days ≤ 365) (sums : ExactFor table days)
    (monotone : Monotone table days) : NothingAbove table days := by
  intro order size priced lasts below accepted
  let profile : VmOrder := ⟨days, size, none, valid⟩
  obtain ⟨profilePriced, profileOk⟩ := priceVmOrder_total table
    (show Admissible (requestedResources profile) from profile_admissible size)
  have grows := monotone order profile priced profilePriced lasts rfl below accepted profileOk
  have profileExact := priced_exactly sums (rfl : profile.durationDays = days) profileOk
  rw [total_le_iff valid.1 (priced_exactly sums lasts accepted) profileExact] at grows
  have through := profileExact.least size (fits_refl (vmSpecs size))
  have same : requestedResources profile = vmSpecs size := rfl
  rw [same, extra_self] at through
  linarith

end Order

/-- Prices grow with the machine if and only if no profile costs less than a machine that it is
not smaller than. -/
theorem monotone_iff (table : PriceTable) (days : Nat) (valid : 1 ≤ days ∧ days ≤ 365)
    (additive : table.Additive) (sums : ExactFor table days) :
    Monotone table days ↔ NothingAbove table days :=
  ⟨nothingAbove_of_monotone valid sums, monotone_of_nothingAbove valid additive sums⟩

/-! A table without discounts, and the default one. -/

/-- Every profile costs what its add-ons to the smallest one cost. -/
def linearPrices : PriceTable :=
  { defaultPrices with base := fun
      | .xs => ⟨20, -2⟩
      | .sm => ⟨40, -2⟩
      | .md => ⟨80, -2⟩
      | .lg => ⟨110, -2⟩ }

theorem default_additive : defaultPrices.Additive := by
  unfold PriceTable.Additive
  norm_num [defaultPrices, Decimal.value]

theorem linear_exactFor : ExactFor linearPrices 30 := by
  intro resources size admissible _
  rw [admissible_iff] at admissible
  have vcpu : ((resources.addons (vmSpecs size)).vcpu : Rat) ≤ 4 := by
    have few : (resources.addons (vmSpecs size)).vcpu ≤ 4 := by
      simp only [VmResources.addons]
      omega
    exact_mod_cast few
  have ram : (((resources.addons (vmSpecs size)).ramMb / 1024 : Nat) : Rat) ≤ 8 := by
    have few : (resources.addons (vmSpecs size)).ramMb / 1024 ≤ 8 := by
      simp only [VmResources.addons]
      omega
    exact_mod_cast few
  have disk : (((resources.addons (vmSpecs size)).diskGb / 10 : Nat) : Rat) ≤ 4 := by
    have few : (resources.addons (vmSpecs size)).diskGb / 10 ≤ 4 := by
      simp only [VmResources.addons]
      omega
    exact_mod_cast few
  have base : |(linearPrices.base size).value| ≤ 2 := by
    cases size <;> norm_num [linearPrices, Decimal.value]
  refine ⟨2, ⟨(linearPrices.base size).coefficient, ?_⟩,
    ⟨10, by norm_num [linearPrices, defaultPrices, Decimal.value]⟩,
    ⟨15, by norm_num [linearPrices, defaultPrices, Decimal.value]⟩,
    ⟨5, by norm_num [linearPrices, defaultPrices, Decimal.value]⟩, ?_⟩
  · cases size <;> norm_num [linearPrices, Decimal.value]
  · have rates : |linearPrices.addonVcpu.value| = 1 / 10 ∧
        |linearPrices.addonRamGb.value| = 15 / 100 ∧
        |linearPrices.addonDisk10gb.value| = 5 / 100 := by
      norm_num [linearPrices, defaultPrices, Decimal.value]
    unfold PriceTable.span precision
    rw [rates.1, rates.2.1, rates.2.2]
    norm_num
    linarith

theorem linear_nothingAbove : NothingAbove linearPrices 30 := by
  intro order size priced lasts below accepted
  have priced_exact := priced_exactly linear_exactFor lasts accepted
  have through := priced_exact.least .xs (smallest_fits (priceVmOrder_some accepted).1)
  rw [fits_iff] at below
  have grown : linearPrices.extra ((requestedResources order).addons (vmSpecs .xs)) ≤
      linearPrices.extra ((vmSpecs size).addons (vmSpecs .xs)) := by
    apply extra_mono default_additive
    · simp only [VmResources.addons]
      omega
    · simp only [VmResources.addons]
      omega
    · simp only [VmResources.addons]
      omega
  have profile : (linearPrices.base .xs).value +
      linearPrices.extra ((vmSpecs size).addons (vmSpecs .xs)) = (linearPrices.base size).value := by
    cases size <;>
      norm_num [PriceTable.extra, linearPrices, defaultPrices, Decimal.value, VmResources.addons,
        vmSpecs]
  linarith

theorem monotone_linear : Monotone linearPrices 30 :=
  (monotone_iff linearPrices 30 (by decide) default_additive linear_exactFor).mpr
    linear_nothingAbove

theorem one_day : (1 : Nat) ≤ 1 ∧ (1 : Nat) ≤ 365 := by decide

def orderOf (resources : VmResources) : VmOrder := ⟨1, .xs, some resources, one_day⟩

/-- Two processors and three gigabytes cost 65 cents, and with a gigabyte more the profile that
bundles them costs 60. -/
theorem monotone_default : defaultPrices.Additive ∧ defaultPrices.Bundled ∧
    ¬ Monotone defaultPrices 1 := by
  refine ⟨default_additive, ?_, ?_⟩
  · intro small large fits
    cases small <;> cases large <;>
      first
      | exact absurd fits (by decide)
      | norm_num [PriceTable.extra, defaultPrices, Decimal.value, VmResources.addons, vmSpecs]
  · intro monotone
    obtain ⟨small, smallOk⟩ := priceVmOrder_total defaultPrices
      (show Admissible (requestedResources (orderOf ⟨2, 3072, 20⟩)) by decide)
    obtain ⟨large, largeOk⟩ := priceVmOrder_total defaultPrices
      (show Admissible (requestedResources (orderOf ⟨2, 4096, 20⟩)) by decide)
    have smallTotal : (priceVmOrder defaultPrices (orderOf ⟨2, 3072, 20⟩)).toOption.map
        (fun priced => priced.total.value) = some (13 / 20) := by decide +kernel
    have largeTotal : (priceVmOrder defaultPrices (orderOf ⟨2, 4096, 20⟩)).toOption.map
        (fun priced => priced.total.value) = some (3 / 5) := by decide +kernel
    rw [smallOk] at smallTotal
    rw [largeOk] at largeTotal
    have smallIs : small.total.value = 13 / 20 := Option.some.inj smallTotal
    have largeIs : large.total.value = 3 / 5 := Option.some.inj largeTotal
    have grows := monotone _ _ small large rfl rfl (by decide) smallOk largeOk
    rw [smallIs, largeIs] at grows
    norm_num at grows

end HyruleCloud.VmPricing
