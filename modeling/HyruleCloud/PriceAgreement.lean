import HyruleCloud.PriceMinima

/-!
The price of an order, of its canonical order, of the snapshot that a row is stored with and of
an extension of that row.
-/

namespace HyruleCloud.VmPricing

open Decimals

/-- `Decimal(text)`, as a number. -/
def readPrice (text : String) : Option Rat := (parse text.toList).map Decimal.value

theorem readPrice_point {whole fraction : List Char} (some_ : whole ≠ []) (before : AllDigits whole)
    (after : AllDigits fraction) :
    readPrice (String.ofList (whole ++ '.' :: fraction)) = some (pointValue whole fraction) := by
  obtain ⟨read, parsed, same⟩ := parse_point some_ before after
  unfold readPrice
  rw [String.toList_ofList, parsed, Option.map_some, same]

theorem readPrice_money {d : Decimal} (unsigned : 0 ≤ d.coefficient) :
    readPrice (money d) = some d.value := by
  rcases Decimal.format_shape unsigned with ⟨n, written, same⟩ | ⟨n, fraction, written, digits, same⟩
  · have pointless : '.' ∉ Nat.toDigits 10 n := by
      intro among
      exact not_point (allDigits_toDigits n) '.' among rfl
    unfold money
    rw [written, if_neg pointless, same, ← pointValue_zeros _ [] 2]
    apply readPrice_point Nat.toDigits_ne_nil (allDigits_toDigits n)
    intro c among
    rw [List.eq_of_mem_replicate (a := '0') (n := 2) among]
    rfl
  · have pointed : '.' ∈ Nat.toDigits 10 n ++ '.' :: fraction :=
      List.mem_append_right _ List.mem_cons_self
    obtain ⟨took, dropped⟩ := splits_point (allDigits_toDigits n) fraction
    unfold money
    rw [written, if_pos pointed, took, dropped, List.tail_cons, same]
    rw [readPrice_point Nat.toDigits_ne_nil (allDigits_toDigits n)
      (allDigits_padZeros (allDigits_stripZeros digits) 2)]
    unfold padZeros
    rw [pointValue_zeros, pointValue_stripZeros]

def Whole (places : Nat) (x : Rat) : Prop := ∃ units : Int, x * 10 ^ places = units

variable {places : Nat}

theorem Whole.plus {x y : Rat} (first : Whole places x) (second : Whole places y) :
    Whole places (x + y) := by
  obtain ⟨m, is⟩ := first
  obtain ⟨n, too⟩ := second
  refine ⟨m + n, ?_⟩
  rw [add_mul, is, too]
  push_cast
  rfl

theorem Whole.times {x : Rat} (whole : Whole places x) (n : Nat) :
    Whole places (n * x) := by
  obtain ⟨m, is⟩ := whole
  refine ⟨n * m, ?_⟩
  rw [mul_assoc, is]
  push_cast
  rfl

structure Within (places : Nat) (bound x : Rat) : Prop where
  whole : Whole places x
  size : |x| ≤ bound

theorem Within.representable {bound x : Rat} (within : Within places bound x)
    (small : bound * 10 ^ places < 10 ^ precision) : Decimal.Representable precision x := by
  obtain ⟨⟨units, is⟩, size⟩ := within
  have scale : (0 : Rat) < 10 ^ places := by positivity
  refine ⟨units, -places, ?_, ?_⟩
  · rw [← is, zpow_neg, zpow_natCast, mul_inv_cancel_right₀ scale.ne']
  · have below : |(units : Rat)| < 10 ^ precision := by
      rw [← is, abs_mul, abs_of_pos scale]
      exact lt_of_le_of_lt (mul_le_mul_of_nonneg_right size scale.le) small
    have cast : ((units.natAbs : Nat) : Rat) = |(units : Rat)| := by
      rw [Nat.cast_natAbs, Int.cast_abs]
    rw [← cast] at below
    exact_mod_cast below

theorem value_ofNat (n : Nat) : (ofNat n).value = n := by
  simp [ofNat, Decimal.value]

theorem Within.sum {m n : Rat} {a b : Decimal} (first : Within places m a.value)
    (second : Within places n b.value) (small : (m + n) * 10 ^ places < 10 ^ precision) :
    (a.add precision b).value = a.value + b.value ∧
      Within places (m + n) (a.add precision b).value := by
  have both : Within places (m + n) (a.value + b.value) := by
    refine ⟨first.whole.plus second.whole, ?_⟩
    exact le_trans (abs_add_le _ _) (add_le_add first.size second.size)
  have is := Decimal.value_add (both.representable small)
  exact ⟨is, is ▸ both⟩

theorem Within.product {n : Nat} {m : Rat} {rate : Decimal}
    (within : Within places m rate.value) (small : n * m * 10 ^ places < 10 ^ precision) :
    ((ofNat n).mul precision rate).value = n * rate.value ∧
      (rate.mul precision (ofNat n)).value = rate.value * n ∧
      Within places (n * m) ((ofNat n).mul precision rate).value := by
  have all : Within places (n * m) (n * rate.value) := by
    refine ⟨within.whole.times n, ?_⟩
    rw [abs_mul, Nat.abs_cast]
    exact mul_le_mul_of_nonneg_left within.size (Nat.cast_nonneg n)
  have left : ((ofNat n).mul precision rate).value = (ofNat n).value * rate.value := by
    apply Decimal.value_mul
    rw [value_ofNat]
    exact all.representable small
  have right : (rate.mul precision (ofNat n)).value = rate.value * (ofNat n).value := by
    apply Decimal.value_mul
    rw [value_ofNat, mul_comm]
    exact all.representable small
  rw [value_ofNat] at left right
  exact ⟨left, right, left ▸ all⟩

namespace PriceTable
variable (table : PriceTable)

def Unsigned : Prop :=
  (∀ size, 0 ≤ (table.base size).coefficient) ∧ 0 ≤ table.addonVcpu.coefficient ∧
    0 ≤ table.addonRamGb.coefficient ∧ 0 ≤ table.addonDisk10gb.coefficient

/-- The daily price through a profile, of the sizes of its terms and with no rounding. -/
def span (size : VmSize) (addons : Addons) : Rat :=
  |(table.base size).value| + addons.vcpu * |table.addonVcpu.value| +
    (addons.ramMb / 1024 : Nat) * |table.addonRamGb.value| +
      (addons.diskGb / 10 : Nat) * |table.addonDisk10gb.value|

/-- The prices that the sum is of are whole at some place, where the total takes no more digits
than the context has. -/
def ExactSums (size : VmSize) (addons : Addons) (days : Nat) : Prop :=
  ∃ places, Whole places (table.base size).value ∧ Whole places table.addonVcpu.value ∧
    Whole places table.addonRamGb.value ∧ Whole places table.addonDisk10gb.value ∧
      table.span size addons * days * 10 ^ places < 10 ^ precision

end PriceTable

section Exact
variable {table : PriceTable} {size : VmSize} {addons : Addons} {days : Nat}

structure SumsKept (table : PriceTable) (size : VmSize) (addons : Addons) (days : Nat) : Prop where
  vcpu : (table.vcpuPrice addons).value = addons.vcpu * table.addonVcpu.value
  ram : (table.ramPrice addons).value = (addons.ramMb / 1024 : Nat) * table.addonRamGb.value
  disk : (table.diskPrice addons).value = (addons.diskGb / 10 : Nat) * table.addonDisk10gb.value
  daily : (table.daily size addons).value = (table.base size).value +
    (table.vcpuPrice addons).value + (table.ramPrice addons).value + (table.diskPrice addons).value
  total : ((table.daily size addons).mul precision (ofNat days)).value =
    (table.daily size addons).value * days

theorem sums_kept (some_ : 1 ≤ days) (sums : table.ExactSums size addons days) :
    SumsKept table size addons days := by
  obtain ⟨places, base, vcpu, ram, disk, small⟩ := sums
  have b := abs_nonneg (table.base size).value
  have v : 0 ≤ addons.vcpu * |table.addonVcpu.value| := by positivity
  have r : 0 ≤ (addons.ramMb / 1024 : Nat) * |table.addonRamGb.value| := by positivity
  have d : 0 ≤ (addons.diskGb / 10 : Nat) * |table.addonDisk10gb.value| := by positivity
  have spanIs : table.span size addons = |(table.base size).value| +
      addons.vcpu * |table.addonVcpu.value| +
        (addons.ramMb / 1024 : Nat) * |table.addonRamGb.value| +
          (addons.diskGb / 10 : Nat) * |table.addonDisk10gb.value| := rfl
  have once : table.span size addons ≤ table.span size addons * days := by
    apply le_mul_of_one_le_right (by linarith)
    exact_mod_cast some_
  -- every term and every sum of the first ones is below the total
  have fits (m : Rat) (below : m ≤ table.span size addons) : m * 10 ^ places < 10 ^ precision :=
    lt_of_le_of_lt (mul_le_mul_of_nonneg_right (le_trans below once) (by positivity)) small
  obtain ⟨vcpuIs, _, vcpuIn⟩ := Within.product (n := addons.vcpu) ⟨vcpu, le_refl _⟩
    (fits _ (by linarith))
  obtain ⟨ramIs, _, ramIn⟩ := Within.product (n := addons.ramMb / 1024) ⟨ram, le_refl _⟩
    (fits _ (by linarith))
  obtain ⟨diskIs, _, diskIn⟩ := Within.product (n := addons.diskGb / 10) ⟨disk, le_refl _⟩
    (fits _ (by linarith))
  obtain ⟨first, firstIn⟩ := Within.sum ⟨base, le_refl _⟩ vcpuIn (fits _ (by linarith))
  obtain ⟨second, secondIn⟩ := firstIn.sum ramIn (fits _ (by linarith))
  obtain ⟨third, thirdIn⟩ := secondIn.sum diskIn (fits _ (by linarith))
  obtain ⟨_, total, _⟩ := thirdIn.product (n := days) (by
    rw [← spanIs, mul_comm (days : Rat)]
    exact small)
  rw [second, first] at third
  exact ⟨vcpuIs, ramIs, diskIs, third, total⟩

end Exact

/-! What is claimed of an accepted order. -/

def Rendered (breakdown : Breakdown) : Prop :=
  ∃ base vcpu ram disk daily total, readPrice breakdown.basePriceUsdDay = some base ∧
    readPrice breakdown.addonVcpuUsdDay = some vcpu ∧
    readPrice breakdown.addonRamUsdDay = some ram ∧
    readPrice breakdown.addonDiskUsdDay = some disk ∧
    readPrice breakdown.dailyPriceUsd = some daily ∧ readPrice breakdown.totalUsd = some total ∧
    base + vcpu + ram + disk = daily ∧ daily * breakdown.durationDays = total

/-- No price of the order takes more digits than the context has. -/
def ExactOrder (table : PriceTable) (order : VmOrder) : Prop :=
  ∀ size, (vmSpecs size).fits (requestedResources order) = true →
    table.ExactSums size ((requestedResources order).addons (vmSpecs size)) order.durationDays

/-- The price of an order, however it is asked for and wherever it is computed again. -/
structure PricesAgree (table : PriceTable) (order : VmOrder) (priced : PricedVmOrder) :
    Prop where
  sizeless : ∀ other, requestedResources other = requestedResources order →
    other.durationDays = order.durationDays → priceVmOrder table other = .ok priced
  offered : ∃ size, (vmSpecs size).fits (requestedResources order) = true ∧
    priced.dailyPrice = table.daily size ((requestedResources order).addons (vmSpecs size))
  cheapest : ∀ size, (vmSpecs size).fits (requestedResources order) = true →
    priced.dailyPrice.value ≤
      (table.daily size ((requestedResources order).addons (vmSpecs size))).value
  repriced : priceVmOrder table priced.order = .ok priced
  stored : ∃ row, insertVmRow table priced.order (some priced.pricingSnapshot) false = .ok row ∧
    currentDailyPriceForVm table row = priced.dailyPrice ∧
    ∀ longer, requestedResources longer = requestedResources order → ∀ again,
      priceVmOrder table longer = .ok again →
        again.total = (currentDailyPriceForVm table row).mul precision (ofNat longer.durationDays)

variable {size : VmSize}

section Agreement
variable {table : PriceTable} {order : VmOrder} {priced : PricedVmOrder}

theorem priceVmOrder_congr {other : VmOrder}
    (resources : requestedResources other = requestedResources order)
    (days : other.durationDays = order.durationDays) :
    priceVmOrder table other = priceVmOrder table order := by
  have through (best : Candidate) :
      pricedThrough table other best = pricedThrough table order best := by
    unfold pricedThrough
    simp only [resources, days]
  unfold priceVmOrder
  simp only [resources, through]

theorem requestedResources_canonical (is : PricedAs table order priced size) :
    requestedResources priced.order = requestedResources order := by
  rw [is.is]
  rfl

theorem validateBreakdown_dump (breakdown : Breakdown) :
    validateBreakdown breakdown.dump = some breakdown := by
  obtain ⟨size, _, _, _, _, _, _, _, _, _, _, _⟩ := breakdown
  cases size <;> rfl

theorem billingAddons_dump (breakdown : Breakdown) :
    billingAddonsFromSnapshot (some breakdown.dump) =
      ⟨breakdown.addonVcpu, breakdown.addonRamMb, breakdown.addonDiskGb⟩ := rfl

section
variable (unsigned : table.Unsigned)
include unsigned

theorem prices_unsigned (size : VmSize) (addons : Addons) :
    0 ≤ (table.vcpuPrice addons).coefficient ∧ 0 ≤ (table.ramPrice addons).coefficient ∧
      0 ≤ (table.diskPrice addons).coefficient ∧ 0 ≤ (table.daily size addons).coefficient := by
  obtain ⟨base, vcpu, ram, disk⟩ := unsigned
  have vcpuIs : 0 ≤ (table.vcpuPrice addons).coefficient :=
    Decimal.mul_nonneg (Int.natCast_nonneg _) vcpu
  have ramIs : 0 ≤ (table.ramPrice addons).coefficient :=
    Decimal.mul_nonneg (Int.natCast_nonneg _) ram
  have diskIs : 0 ≤ (table.diskPrice addons).coefficient :=
    Decimal.mul_nonneg (Int.natCast_nonneg _) disk
  exact ⟨vcpuIs, ramIs, diskIs,
    Decimal.add_nonneg (Decimal.add_nonneg (Decimal.add_nonneg (base size) vcpuIs) ramIs) diskIs⟩

theorem total_unsigned (size : VmSize) (addons : Addons) (days : Nat) :
    0 ≤ ((table.daily size addons).mul precision (ofNat days)).coefficient :=
  Decimal.mul_nonneg (prices_unsigned unsigned size addons).2.2.2 (Int.natCast_nonneg days)

/-- The check of the snapshot accepts what has just been priced, and the row is billed by the
same profile and add-ons. -/
theorem insertVmRow_priced (is : PricedAs table order priced size) :
    ∃ row, insertVmRow table priced.order (some priced.pricingSnapshot) false = .ok row ∧
      currentDailyPriceForVm table row = priced.dailyPrice := by
  have same := requestedResources_canonical is
  obtain ⟨fits, priced_is, _⟩ := is
  have read := readPrice_money (total_unsigned unsigned size
    ((requestedResources order).addons (vmSpecs size)) order.durationDays)
  obtain ⟨total, parsed, _⟩ := Option.map_eq_some_iff.mp read
  refine ⟨billedRow priced.order (requestedResources order) (some priced.pricingSnapshot) total,
    ?_, ?_⟩
  · unfold insertVmRow PricedVmOrder.pricingSnapshot
    simp only [Bool.false_eq_true, if_false, validateBreakdown_dump, same]
    rw [priced_is]
    rw [if_neg (by simp [pricedThrough, candidate]), if_neg (by simp [pricedThrough, candidate, fits])]
    have text : (pricedThrough table order (candidate table (requestedResources order) size)
        ).breakdown.totalUsd = money ((table.daily size
          ((requestedResources order).addons (vmSpecs size))).mul precision
            (ofNat order.durationDays)) := by
      rw [pricedThrough, candidate]
    rw [text, parsed]
  · rw [priced_is]
    unfold currentDailyPriceForVm billedRow PricedVmOrder.pricingSnapshot
    rw [billingAddons_dump, pricedThrough_dailyPrice, candidate_daily]
    simp only [pricedThrough, candidate]

theorem rendered_exact (is : PricedAs table order priced size) (sums : ExactOrder table order) :
    Rendered priced.breakdown := by
  obtain ⟨fits, priced_is, _⟩ := is
  obtain ⟨vcpu, ram, disk, daily⟩ := prices_unsigned unsigned size
    ((requestedResources order).addons (vmSpecs size))
  have total := total_unsigned unsigned size
    ((requestedResources order).addons (vmSpecs size)) order.durationDays
  have kept := sums_kept order.days.1 (sums size fits)
  rw [priced_is]
  refine ⟨_, _, _, _, _, _, readPrice_money (unsigned.1 size), readPrice_money vcpu,
    readPrice_money ram, readPrice_money disk, ?_, ?_, kept.daily.symm, kept.total.symm⟩
  · rw [← readPrice_money daily, pricedThrough, candidate]
  · rw [← readPrice_money total, pricedThrough, candidate]

end

end Agreement

/-- Every accepted order has one price, whatever size it names, wherever the price is computed
again; its strings add up where no price takes more digits than the context has. -/
theorem prices_agree (table : PriceTable) (unsigned : table.Unsigned) (order : VmOrder)
    (admissible : Admissible (requestedResources order)) :
    ∃ priced, priceVmOrder table order = .ok priced ∧ PricesAgree table order priced ∧
      (ExactOrder table order → Rendered priced.breakdown) := by
  obtain ⟨priced, accepted⟩ := priceVmOrder_total table admissible
  obtain ⟨_, size, is⟩ := priceVmOrder_some accepted
  refine ⟨priced, accepted, ?_, rendered_exact unsigned is⟩
  have daily : priced.dailyPrice =
      table.daily size ((requestedResources order).addons (vmSpecs size)) := by
    rw [is.is, pricedThrough_dailyPrice, candidate_daily]
  have sizeless (other : VmOrder) (resources : requestedResources other = requestedResources order)
      (days : other.durationDays = order.durationDays) : priceVmOrder table other = .ok priced :=
    (priceVmOrder_congr resources days).trans accepted
  obtain ⟨row, stored, current⟩ := insertVmRow_priced unsigned is
  constructor
  · exact sizeless
  · exact ⟨size, is.fits, daily⟩
  · exact is.least
  · apply sizeless
    · exact requestedResources_canonical is
    · rw [is.is]
      rfl
  · refine ⟨row, stored, current, ?_⟩
    intro longer resources again repriced
    obtain ⟨_, best, chosen, through⟩ := priceVmOrder_chosen accepted
    obtain ⟨_, other, chosen_again, through_again⟩ := priceVmOrder_chosen repriced
    rw [resources, chosen] at chosen_again
    have same := Option.some.inj chosen_again
    rw [current, through, through_again, ← same]
    rfl

/-! Three processors, six gigabytes and thirty of disk for a month. -/

def exampleOrder : VmOrder := ⟨30, .xs, some ⟨3, 6144, 30⟩, by decide⟩

theorem default_unsigned : defaultPrices.Unsigned := by
  refine ⟨?_, by decide, by decide, by decide⟩
  intro size
  cases size <;> decide

theorem default_exact : ExactOrder defaultPrices exampleOrder := by
  intro size _
  refine ⟨2, ?_, ⟨10, by norm_num [defaultPrices, Decimal.value]⟩,
    ⟨15, by norm_num [defaultPrices, Decimal.value]⟩,
    ⟨5, by norm_num [defaultPrices, Decimal.value]⟩, ?_⟩
  · refine ⟨(defaultPrices.base size).coefficient, ?_⟩
    cases size <;> norm_num [defaultPrices, Decimal.value]
  · cases size <;>
      norm_num [PriceTable.span, defaultPrices, Decimal.value, precision, exampleOrder,
        requestedResources, VmResources.addons, vmSpecs]

theorem prices_agree_default : ∃ priced, priceVmOrder defaultPrices exampleOrder = .ok priced ∧
    PricesAgree defaultPrices exampleOrder priced ∧ Rendered priced.breakdown := by
  obtain ⟨priced, accepted, agree, rendered⟩ :=
    prices_agree defaultPrices default_unsigned exampleOrder (by decide)
  exact ⟨priced, accepted, agree, rendered default_exact⟩

/-- The smallest profile at twenty cents and a little, in thirty digits. -/
def finePrices : PriceTable :=
  { defaultPrices with base := fun _ => ⟨200000000000000000000000000001, -30⟩ }

def smallOrder : VmOrder := ⟨1, .xs, none, by decide⟩

/-- The sum is rounded to 28 digits, and the base price is written with all of its own. -/
theorem prices_not_rendered : finePrices.Unsigned ∧ Admissible (requestedResources smallOrder) ∧
    ∃ priced, priceVmOrder finePrices smallOrder = .ok priced ∧ ¬ Rendered priced.breakdown := by
  have unsigned : finePrices.Unsigned :=
    ⟨fun _ => (by decide : (0 : Int) ≤ 200000000000000000000000000001), by decide, by decide,
      by decide⟩
  have admissible : Admissible (requestedResources smallOrder) := by decide
  obtain ⟨priced, accepted⟩ := priceVmOrder_total finePrices admissible
  refine ⟨unsigned, admissible, priced, accepted, ?_⟩
  intro ⟨base, vcpu, ram, disk, daily, total, baseRead, vcpuRead, ramRead, diskRead, dailyRead, _,
    sum, _⟩
  have texts : (priceVmOrder finePrices smallOrder).toOption.map (fun priced =>
      (readPrice priced.breakdown.basePriceUsdDay, readPrice priced.breakdown.addonVcpuUsdDay,
        readPrice priced.breakdown.addonRamUsdDay, readPrice priced.breakdown.addonDiskUsdDay,
        readPrice priced.breakdown.dailyPriceUsd)) =
      some (some (200000000000000000000000000001 / 1000000000000000000000000000000), some 0,
        some 0, some 0, some (1 / 5)) := by decide +kernel
  rw [accepted] at texts
  simp only [Except.toOption, Option.map_some, baseRead, vcpuRead, ramRead, diskRead, dailyRead,
    Option.some.injEq, Prod.mk.injEq] at texts
  obtain ⟨baseIs, vcpuIs, ramIs, diskIs, dailyIs⟩ := texts
  rw [baseIs, vcpuIs, ramIs, diskIs, dailyIs] at sum
  norm_num at sum

end HyruleCloud.VmPricing
