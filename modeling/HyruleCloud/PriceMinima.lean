import HyruleCloud.VmPricing

/-!
What the choice of a profile guarantees, and when the sums of a price are exact in the digits of
the decimal context.
-/

namespace HyruleCloud.VmPricing

open Decimals

theorem before_le {a b : Candidate} (before : a.before b = true) :
    a.daily.value ≤ b.daily.value := by
  unfold Candidate.before at before
  by_cases less : b.daily.le a.daily = true
  · by_cases more : a.daily.le b.daily = true
    · exact (Decimal.le_iff _ _).mp more
    · simp [less, more] at before
  · rw [Decimal.le_iff] at less
    exact le_of_lt (not_le.mp less)

theorem not_before_le {a b : Candidate} (before : ¬ a.before b = true) :
    b.daily.value ≤ a.daily.value := by
  unfold Candidate.before at before
  by_cases less : b.daily.le a.daily = true
  · exact (Decimal.le_iff _ _).mp less
  · simp [less] at before

theorem fold_cheapest (rest : List Candidate) (first : Candidate) :
    let best := rest.foldl (fun best next => if next.before best then next else best) first
    best ∈ first :: rest ∧ ∀ c ∈ first :: rest, best.daily.value ≤ c.daily.value := by
  induction rest generalizing first with
  | nil =>
    refine ⟨List.mem_singleton_self first, ?_⟩
    intro c among
    rw [List.mem_singleton.mp among]
    exact le_refl _
  | cons next rest ih =>
    obtain ⟨among, least⟩ := ih (if next.before first then next else first)
    have least_first := least _ List.mem_cons_self
    refine ⟨?_, ?_⟩
    · rcases List.mem_cons.mp among with here | later
      · rw [List.foldl_cons, here]
        split
        · exact List.mem_cons_of_mem _ List.mem_cons_self
        · exact List.mem_cons_self
      · exact List.mem_cons_of_mem _ (List.mem_cons_of_mem _ later)
    · intro c listed
      have both : (if next.before first then next else first).daily.value ≤ first.daily.value ∧
          (if next.before first then next else first).daily.value ≤ next.daily.value := by
        split
        · rename_i before
          exact ⟨before_le before, le_refl _⟩
        · rename_i before
          exact ⟨le_refl _, not_before_le before⟩
      rcases List.mem_cons.mp listed with first_ | listed
      · rw [first_]
        exact le_trans least_first both.1
      · rcases List.mem_cons.mp listed with next_ | later
        · rw [next_]
          exact le_trans least_first both.2
        · exact least c (List.mem_cons_of_mem _ later)

theorem cheapest_least {offers : List Candidate} {best : Candidate}
    (chosen : cheapest offers = some best) :
    best ∈ offers ∧ ∀ c ∈ offers, best.daily.value ≤ c.daily.value := by
  cases offers with
  | nil => cases chosen
  | cons first rest =>
    rw [← Option.some.inj chosen]
    exact fold_cheapest rest first

theorem mem_candidates {table : PriceTable} {resources : VmResources} {c : Candidate} :
    c ∈ candidates table resources ↔
      ∃ size, (vmSpecs size).fits resources = true ∧ c = candidate table resources size := by
  unfold candidates
  rw [List.mem_map]
  constructor
  · rintro ⟨size, listed, is⟩
    exact ⟨size, (List.mem_filter.mp listed).2, is.symm⟩
  · rintro ⟨size, fits, is⟩
    refine ⟨size, List.mem_filter.mpr ⟨?_, fits⟩, is.symm⟩
    cases size <;> decide

def Admissible (resources : VmResources) : Prop :=
  validateNewOrderResources resources = .ok ()

instance (resources : VmResources) : Decidable (Admissible resources) := by
  unfold Admissible
  infer_instance

theorem admissible_iff (resources : VmResources) : Admissible resources ↔
    (1 ≤ resources.vcpu ∧ resources.vcpu ≤ 4) ∧ (1024 ≤ resources.ramMb ∧ resources.ramMb ≤ 8192) ∧
      (10 ≤ resources.diskGb ∧ resources.diskGb ≤ 40) ∧ resources.ramMb % 1024 = 0 ∧
      resources.diskGb % 10 = 0 := by
  unfold Admissible validateNewOrderResources
  split
  · rename_i bad
    simp [bad]
  · split
    · rename_i bad
      simp [bad]
    · split
      · rename_i bad
        simp [bad]
      · split
        · rename_i bad
          simp [bad]
        · split
          · rename_i bad
            simp [bad]
          · simp_all

theorem fits_iff (a b : VmResources) :
    a.fits b = true ↔ a.vcpu ≤ b.vcpu ∧ a.ramMb ≤ b.ramMb ∧ a.diskGb ≤ b.diskGb := by
  simp [VmResources.fits, and_assoc]

theorem smallest_fits {resources : VmResources} (admissible : Admissible resources) :
    (vmSpecs .xs).fits resources = true := by
  rw [admissible_iff] at admissible
  rw [fits_iff]
  exact ⟨admissible.1.1, admissible.2.1.1, admissible.2.2.1.1⟩

theorem candidate_daily (table : PriceTable) (resources : VmResources) (size : VmSize) :
    (candidate table resources size).daily =
      table.daily size (resources.addons (vmSpecs size)) := by
  rw [candidate]

theorem pricedThrough_dailyPrice (table : PriceTable) (order : VmOrder) (best : Candidate) :
    (pricedThrough table order best).dailyPrice = best.daily := rfl

/-- An accepted order is priced through a profile that fits and that none undercuts. -/
structure PricedAs (table : PriceTable) (order : VmOrder) (priced : PricedVmOrder)
    (size : VmSize) : Prop where
  fits : (vmSpecs size).fits (requestedResources order) = true
  is : priced = pricedThrough table order (candidate table (requestedResources order) size)
  least : ∀ other, (vmSpecs other).fits (requestedResources order) = true →
    priced.dailyPrice.value ≤
      (table.daily other ((requestedResources order).addons (vmSpecs other))).value

section
variable {table : PriceTable} {order : VmOrder} {priced : PricedVmOrder}
  (accepted : priceVmOrder table order = .ok priced)
include accepted

theorem priceVmOrder_chosen :
    Admissible (requestedResources order) ∧
      ∃ best, cheapest (candidates table (requestedResources order)) = some best ∧
        priced = pricedThrough table order best := by
  unfold priceVmOrder at accepted
  dsimp only at accepted
  split at accepted
  · cases accepted
  rename_i valid
  refine ⟨valid, ?_⟩
  split at accepted
  · cases accepted
  · rename_i best chosen
    exact ⟨best, chosen, (Except.ok.inj accepted).symm⟩

theorem priceVmOrder_some :
    Admissible (requestedResources order) ∧ ∃ size, PricedAs table order priced size := by
  obtain ⟨valid, best, chosen, through⟩ := priceVmOrder_chosen accepted
  obtain ⟨among, least⟩ := cheapest_least chosen
  obtain ⟨size, fits, is⟩ := mem_candidates.mp among
  subst is
  refine ⟨valid, size, fits, through, ?_⟩
  intro other fits_other
  have low := least (candidate table (requestedResources order) other)
    (mem_candidates.mpr ⟨other, fits_other, rfl⟩)
  rw [candidate_daily table _ other] at low
  rw [through, pricedThrough_dailyPrice]
  exact low

end

theorem priceVmOrder_total (table : PriceTable) {order : VmOrder}
    (admissible : Admissible (requestedResources order)) :
    ∃ priced, priceVmOrder table order = .ok priced := by
  have valid : validateNewOrderResources (requestedResources order) = .ok () := admissible
  unfold priceVmOrder
  dsimp only
  rw [valid]
  cases offers : candidates table (requestedResources order) with
  | nil =>
    have offered : candidate table (requestedResources order) .xs ∈
        candidates table (requestedResources order) :=
      mem_candidates.mpr ⟨.xs, smallest_fits admissible, rfl⟩
    rw [offers] at offered
    cases offered
  | cons first rest => exact ⟨_, rfl⟩

end HyruleCloud.VmPricing
