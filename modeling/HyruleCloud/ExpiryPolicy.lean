import HyruleCloud.ThreeValued
import HyruleCloud.VmExpiry

/-!
The expiry of a VM, written three times: what services/vm_expiry.py tells the customer, what the
pass of `check_expiries` does to the row, and what `destroy_vm` refuses that the pass asks it for.
All three look at one row, its retention record and one instant.
-/

namespace HyruleCloud.ExpiryPolicy

open ThreeValued
open Expiry (RetentionState)

abbrev Instant := Int

/-- A `datetime`; an aware one is a local time and its offset. -/
inductive Stamp where
  | naive (time : Int)
  | aware (localTime offset : Int)

/-- `_utc`; a naive time is one of UTC. -/
def Stamp.utc : Stamp → Instant
  | .naive time => time
  | .aware localTime offset => localTime - offset

def hours (n : Nat) : Int := n * 3600000000

structure PolicyRow where
  status : VMStatus
  expiresAt : Option Stamp
  deletionStartedAt : Option Stamp
  xcpngUuid : Option String
  providerDeletedUuid : Option String
  ipv6PrefixIndex : Option Nat
  ipv6Prefix : Option String

structure Retention where
  state : RetentionState
  retainUntil : Option Stamp

inductive VmExpiryState where
  | active | expired | deletionEligible | deleting | retaining | retained | restoring | notSet
  | notApplicable | destroyed
  deriving DecidableEq

structure VmExpiryInfo where
  state : VmExpiryState
  observedAt : Instant
  graceEndsAt : Option Instant := none
  retainedUntil : Option Instant := none
  deletionEligible : Bool := false
  message : String

def retentionInfo : RetentionState → VmExpiryState × String
  | .prepared =>
    (.retaining, "VM retention is being verified. Contact support for recovery.")
  | .retained => (.retained,
      "The VM is stopped and retained for recovery. Contact support to restore it.")
  | .restoring =>
    (.restoring, "VM recovery is in progress. Contact support for updates.")

/-- `build_vm_expiry` -/
def buildVmExpiry (status : VMStatus) (expiresAt : Option Stamp) (gracePeriodHours : Nat)
    (now : Instant) (deletionStartedAt : Option Stamp) (retention : Option Retention) :
    VmExpiryInfo :=
  if status = .destroyed then
    { state := .destroyed, observedAt := now, message := "The VM is destroyed." }
  else match retention with
    | some record =>
      { state := (retentionInfo record.state).1
        observedAt := now
        message := (retentionInfo record.state).2
        retainedUntil := record.retainUntil.map Stamp.utc }
    | none =>
      if deletionStartedAt.isSome then
        { state := .deleting
          observedAt := now
          deletionEligible := true
          message := "VM deletion has started. " ++
            "Contact support for the remaining recovery options." }
      else if status = .failed then
        { state := .notApplicable
          observedAt := now
          message := "Automatic expiry processing does not apply to this failed VM." }
      else match expiresAt with
        | none =>
          { state := .notSet
            observedAt := now
            message := "No expiry is recorded for this VM." }
        | some stamp =>
          let expiry := stamp.utc
          let graceEnd := expiry + hours gracePeriodHours
          let (state, message) :=
            if now ≤ expiry then (VmExpiryState.active, "The VM has not expired.")
            else if now ≤ graceEnd then (.expired,
              "The VM has expired. Renew before the grace period ends to avoid deletion.")
            else (.deletionEligible, "The grace period has ended. " ++
              "The VM is eligible for deletion; contact support immediately.")
          { state := state
            observedAt := now
            graceEndsAt := some graceEnd
            deletionEligible := state = .deletionEligible
            message := message }

/-! `check_expiries` -/

/-- The WHERE clause of the pass. `status` is never NULL, and the look for a retention record is
an EXISTS. -/
def sweepClause (row : PolicyRow) (retention : Option Retention) (now : Instant) : Truth :=
  both
    (both
      (either (some (row.status ≠ .destroyed))
        (either
          (both (isNotNull row.xcpngUuid)
            (compare (· ≠ ·) (coalesce row.providerDeletedUuid "") row.xcpngUuid))
          (both (some (row.status = .destroyed))
            (either (isNotNull row.ipv6PrefixIndex) (isNotNull row.ipv6Prefix)))))
      (some (!retention.any fun record =>
        record.state = .retained || record.state = .restoring)))
    (either (isNotNull row.deletionStartedAt)
      (both (some (row.status ≠ .failed))
        (compare (fun stored instant => stored < instant) (row.expiresAt.map Stamp.utc)
          (some now))))

inductive SweepEnd where
  | untouched
  | alreadySuspended
  | awaitsRecovery
  | suspends
  | destroys (expiredBefore : Instant)
  deriving DecidableEq

def sweepLocked (row : PolicyRow) (grace : Int) (actionNow : Instant) : SweepEnd :=
  if row.status = .destroyed ∧ row.ipv6PrefixIndex = none ∧ row.ipv6Prefix = none ∧
      (row.xcpngUuid = none ∨ row.providerDeletedUuid = row.xcpngUuid) then .untouched
  else
    let claimed := row.deletionStartedAt.isSome
    if !claimed && (row.expiresAt.isNone || row.status = .failed) then .untouched
    else
      let expiry := row.expiresAt.map Stamp.utc
      if claimed || expiry.any fun expiry => actionNow > expiry + grace then
        .destroys (actionNow - grace)
      else if row.status = .suspended then .alreadySuspended
      else if expiry.any fun expiry => expiry ≥ actionNow then .untouched
      else if row.status = .provisioning ∧ row.xcpngUuid = none then .awaitsRecovery
      else .suspends

def checkExpiries (row : PolicyRow) (retention : Option Retention) (gracePeriodHours : Nat)
    (now : Instant) : SweepEnd :=
  if selects (sweepClause row retention now) then sweepLocked row (hours gracePeriodHours) now
  else .untouched

/-! `destroy_vm` -/

inductive DestroyEntry where
  | alreadyGone
  | refused
  | retained
  | proceeds

/-- `destroy_vm` up to its claim, without an identity, a guard or a reconciliation. -/
def destroyVm (row : PolicyRow) (retention : Option Retention) (expiredBefore : Option Instant) :
    DestroyEntry :=
  let alreadyDestroyed : Bool := row.status = .destroyed
  let deletionVerified := row.xcpngUuid.isSome ∧ row.providerDeletedUuid = row.xcpngUuid
  if alreadyDestroyed ∧ row.ipv6PrefixIndex = none ∧ row.ipv6Prefix = none ∧
      (row.xcpngUuid = none ∨ deletionVerified) then .alreadyGone
  else
    let expiryRefuses : Bool := match expiredBefore with
      | none => false
      | some before =>
        row.deletionStartedAt.isNone && !alreadyDestroyed &&
          (row.expiresAt.isNone || decide (row.status = .failed) ||
            row.expiresAt.any fun stamp => stamp.utc ≥ before)
    if expiryRefuses then .refused
    else if retention.any fun record => record.state = .restoring then .refused
    else if (retention.any fun record => record.state = .retained) && expiredBefore.isSome then
      .retained
    else .proceeds

section Agreement
variable (row : PolicyRow) (retention : Option Retention) (grace : Nat) (now : Instant)

def told : VmExpiryInfo :=
  buildVmExpiry row.status row.expiresAt grace now row.deletionStartedAt retention

/-- The pass asks for the deletion of the row, and neither the expiry nor the retention record
makes `destroy_vm` refuse. -/
def Destroyed : Prop :=
  checkExpiries row retention grace now = .destroys (now - hours grace) ∧
    destroyVm row retention (some (now - hours grace)) = .proceeds

structure PoliciesAgree : Prop where
  due : (told row retention grace now).deletionEligible = true ∨
      (told row retention grace now).state = .retaining ↔ Destroyed row retention grace now
  expired : (told row retention grace now).state = .expired ↔
    checkExpiries row retention grace now = .suspends ∨
      checkExpiries row retention grace now = .alreadySuspended ∨
        checkExpiries row retention grace now = .awaitsRecovery
  left : (told row retention grace now).state ∈
      [.active, .notSet, .notApplicable, .retained, .restoring] →
    checkExpiries row retention grace now = .untouched

/-! One lemma for each of the three, about a row that is not destroyed. -/

theorem selects_iff (alive : row.status ≠ .destroyed) :
    selects (sweepClause row retention now) =
      (!(retention.any fun record => record.state = .retained || record.state = .restoring) &&
        (row.deletionStartedAt.isSome ||
          (decide (row.status ≠ .failed) && row.expiresAt.any fun stamp => stamp.utc < now))) := by
  unfold sweepClause
  simp only [selects_both, selects_either, selects_some, selects_isNotNull, selects_compare]
  simp [alive, Option.any_map]

def held : Bool :=
  retention.any fun record => record.state = .retained || record.state = .restoring

section
variable (alive : row.status ≠ .destroyed)
include alive

theorem checkExpiries_held (holds : held retention = true) :
    checkExpiries row retention grace now = .untouched := by
  unfold held at holds
  unfold checkExpiries
  rw [selects_iff row retention now alive, holds]
  rfl

theorem checkExpiries_claimed (free : held retention = false)
    (claimed : row.deletionStartedAt.isSome = true) :
    checkExpiries row retention grace now = .destroys (now - hours grace) := by
  unfold held at free
  unfold checkExpiries sweepLocked
  rw [selects_iff row retention now alive, free, claimed]
  simp [alive]

theorem checkExpiries_unclaimed (free : held retention = false)
    (unclaimed : row.deletionStartedAt = none) :
    checkExpiries row retention grace now = match row.expiresAt with
      | none => .untouched
      | some stamp =>
        if row.status = .failed ∨ now ≤ stamp.utc then .untouched
        else if stamp.utc + hours grace < now then .destroys (now - hours grace)
        else if row.status = .suspended then .alreadySuspended
        else if row.status = .provisioning ∧ row.xcpngUuid = none then .awaitsRecovery
        else .suspends := by
  unfold held at free
  unfold checkExpiries sweepLocked
  rw [selects_iff row retention now alive, free, unclaimed]
  cases expires : row.expiresAt with
  | none => simp
  | some stamp =>
    by_cases failed : row.status = .failed
    · simp [failed]
    · by_cases early : now ≤ stamp.utc
      · simp [early, not_lt.mpr early]
      · simp [alive, failed, early, not_le.mp early]

theorem destroyVm_iff (before : Instant) :
    destroyVm row retention (some before) = .proceeds ↔ held retention = false ∧
      (row.deletionStartedAt.isSome ∨ (row.status ≠ .failed ∧
        row.expiresAt.any (fun stamp => decide (stamp.utc < before)) = true)) := by
  have expiry : ¬ (row.deletionStartedAt.isSome ∨ (row.status ≠ .failed ∧
      row.expiresAt.any (fun stamp => decide (stamp.utc < before)) = true)) ↔
        (row.deletionStartedAt.isNone && (row.expiresAt.isNone || decide (row.status = .failed) ||
          row.expiresAt.any fun stamp => decide (stamp.utc ≥ before))) = true := by
    cases row.deletionStartedAt with
    | some _ => simp
    | none =>
      cases row.expiresAt with
      | none => simp
      | some stamp =>
        by_cases failed : row.status = .failed
        · simp [failed]
        · simp [failed, not_lt]
  unfold destroyVm held
  simp only [alive, decide_false, Bool.false_eq_true, false_and, if_false, Bool.not_false,
    Bool.and_true, Option.isSome_some]
  by_cases refuses : (row.deletionStartedAt.isNone && (row.expiresAt.isNone ||
      decide (row.status = .failed) ||
        row.expiresAt.any fun stamp => decide (stamp.utc ≥ before))) = true
  · rw [if_pos refuses]
    exact iff_of_false (by simp) fun both => expiry.mpr refuses both.2
  · rw [if_neg refuses]
    have due := not_not.mp fun notDue => refuses (expiry.mp notDue)
    rcases retention with _ | ⟨state, until_⟩
    · simp [due]
    cases state with
    | prepared => simp [due]
    | retained => simp
    | restoring => simp

/-! What the customer is told of a row without a retention record. -/

theorem told_claimed (claimed : row.deletionStartedAt.isSome = true) :
    (told row none grace now).state = .deleting ∧
      (told row none grace now).deletionEligible = true := by
  unfold told buildVmExpiry
  simp [alive, claimed]

theorem told_unclaimed (unclaimed : row.deletionStartedAt = none) :
    (told row none grace now).state = (if row.status = .failed then .notApplicable
      else match row.expiresAt with
        | none => .notSet
        | some stamp =>
          if now ≤ stamp.utc then .active
          else if now ≤ stamp.utc + hours grace then .expired else .deletionEligible) ∧
      ((told row none grace now).deletionEligible = true ↔
        (told row none grace now).state = .deletionEligible) := by
  unfold told buildVmExpiry
  rw [unclaimed, if_neg alive]
  by_cases failed : row.status = .failed
  · simp [failed]
  cases row.expiresAt with
  | none => simp [failed]
  | some stamp =>
    by_cases early : now ≤ stamp.utc
    · simp [failed, early]
    · by_cases within : now ≤ stamp.utc + hours grace
      · simp [failed, early, within]
      · simp [failed, early, within]

end

theorem agree_untouched (sweep : checkExpiries row retention grace now = .untouched)
    (eligible : (told row retention grace now).deletionEligible = false)
    (retaining : (told row retention grace now).state ≠ .retaining)
    (expired : (told row retention grace now).state ≠ .expired) :
    PoliciesAgree row retention grace now := by
  constructor
  · simp [eligible, retaining, Destroyed, sweep]
  · simp [expired, sweep]
  · intro _
    exact sweep

theorem agree_destroyed (destroyed : Destroyed row retention grace now)
    (due : (told row retention grace now).deletionEligible = true ∨
      (told row retention grace now).state = .retaining)
    (state : (told row retention grace now).state ∈
      [VmExpiryState.deleting, .deletionEligible, .retaining]) :
    PoliciesAgree row retention grace now := by
  have sweep := destroyed.1
  constructor
  · exact iff_of_true due destroyed
  · rw [sweep]
    refine iff_of_false ?_ (by simp)
    intro expired
    rw [expired] at state
    exact absurd state (by decide)
  · intro left
    simp only [List.mem_cons, List.not_mem_nil, or_false] at state left
    rcases state with is | is | is <;> rw [is] at left <;> simp at left

theorem cutoff_iff (expiry : Instant) :
    expiry < now - hours grace ↔ ¬ now ≤ expiry + hours grace := by
  rw [lt_sub_iff_add_lt, not_le]

theorem agree_unclaimed (alive : row.status ≠ .destroyed) (unclaimed : row.deletionStartedAt = none) :
    PoliciesAgree row none grace now := by
  have free : held none = false := rfl
  obtain ⟨state, eligible⟩ := told_unclaimed row grace now alive unclaimed
  have sweep := checkExpiries_unclaimed row none grace now alive free unclaimed
  have proceeds := destroyVm_iff row none alive (now - hours grace)
  have idle (other : (told row none grace now).state ≠ .deletionEligible) :
      (told row none grace now).deletionEligible = false := by
    rw [Bool.eq_false_iff]
    intro due
    exact other (eligible.mp due)
  cases expires : row.expiresAt with
  | none =>
    rw [expires] at state sweep
    by_cases failed : row.status = .failed
    · rw [if_pos failed] at state
      exact agree_untouched row none grace now sweep (idle (by simp [state])) (by simp [state])
        (by simp [state])
    · rw [if_neg failed] at state
      exact agree_untouched row none grace now sweep (idle (by simp [state])) (by simp [state])
        (by simp [state])
  | some stamp =>
    rw [expires] at state sweep proceeds
    by_cases failed : row.status = .failed
    · rw [if_pos failed] at state
      simp only [failed, true_or, if_true] at sweep
      exact agree_untouched row none grace now sweep (idle (by simp [state])) (by simp [state])
        (by simp [state])
    · rw [if_neg failed] at state
      by_cases early : now ≤ stamp.utc
      · simp only [early, if_true, or_true] at state sweep
        exact agree_untouched row none grace now sweep (idle (by simp [state])) (by simp [state])
          (by simp [state])
      · by_cases within : now ≤ stamp.utc + hours grace
        · simp only [early, within, failed, or_self, not_lt.mpr within, if_false, if_true]
            at state sweep
          have arm : checkExpiries row none grace now = .suspends ∨
              checkExpiries row none grace now = .alreadySuspended ∨
                checkExpiries row none grace now = .awaitsRecovery := by
            rw [sweep]
            split
            · exact Or.inr (Or.inl rfl)
            · split
              · exact Or.inr (Or.inr rfl)
              · exact Or.inl rfl
          constructor
          · refine iff_of_false (by simp [state, idle]) ?_
            rintro ⟨destroys, _⟩
            rw [destroys] at arm
            simp at arm
          · exact iff_of_true state arm
          · rw [state]
            simp
        · simp only [early, within, failed, or_self, not_le.mp within, if_false, if_true]
            at state sweep
          apply agree_destroyed row none grace now
          · refine ⟨sweep, proceeds.mpr ⟨free, Or.inr ⟨failed, ?_⟩⟩⟩
            exact decide_eq_true ((cutoff_iff grace now stamp.utc).mpr within)
          · exact Or.inl (eligible.mpr state)
          · simp [state]

theorem agree_claimed (alive : row.status ≠ .destroyed)
    (claimed : row.deletionStartedAt.isSome = true) : PoliciesAgree row none grace now := by
  have free : held none = false := rfl
  obtain ⟨state, eligible⟩ := told_claimed row grace now alive claimed
  apply agree_destroyed row none grace now
  · exact ⟨checkExpiries_claimed row none grace now alive free claimed,
      (destroyVm_iff row none alive (now - hours grace)).mpr ⟨free, Or.inl claimed⟩⟩
  · exact Or.inl eligible
  · simp [state]

theorem told_retained (record : Retention) (alive : row.status ≠ .destroyed) :
    (told row (some record) grace now).state = (retentionInfo record.state).1 ∧
      (told row (some record) grace now).deletionEligible = false := by
  unfold told buildVmExpiry
  simp [alive]

end Agreement

/-- The three accounts of the expiry policy agree on every row that is not destroyed, where a
prepared retention goes with the claim that it was committed with. -/
theorem policies_agree (row : PolicyRow) (retention : Option Retention) (grace : Nat)
    (now : Instant) (alive : row.status ≠ .destroyed)
    (together : ∀ record, retention = some record → record.state = .prepared →
      row.deletionStartedAt.isSome = true) : PoliciesAgree row retention grace now := by
  cases retention with
  | none =>
    cases claim : row.deletionStartedAt with
    | none => exact agree_unclaimed row grace now alive claim
    | some started =>
      apply agree_claimed row grace now alive
      rw [claim]
      rfl
  | some record =>
    obtain ⟨state, eligible⟩ := told_retained row grace now record alive
    cases is : record.state with
    | prepared =>
      rw [is] at state
      have claimed := together record rfl is
      have free : held (some record) = false := by
        simp [held, is]
      apply agree_destroyed row (some record) grace now
      · exact ⟨checkExpiries_claimed row (some record) grace now alive free claimed,
          (destroyVm_iff row (some record) alive (now - hours grace)).mpr
            ⟨free, Or.inl claimed⟩⟩
      · exact Or.inr state
      · simp [state, retentionInfo]
    | retained | restoring =>
      rw [is] at state
      have holds : held (some record) = true := by
        simp [held, is]
      exact agree_untouched row (some record) grace now
        (checkExpiries_held row (some record) grace now alive holds) eligible
        (by simp [state, retentionInfo]) (by simp [state, retentionInfo])

def preparedRow (deletionStartedAt : Option Stamp) : PolicyRow where
  status := .running
  expiresAt := some (.aware 7200000000 7200000000)
  deletionStartedAt := deletionStartedAt
  xcpngUuid := some "guest"
  providerDeletedUuid := none
  ipv6PrefixIndex := some 1
  ipv6Prefix := some "2001:db8::/64"

theorem policies_agree_prepared :
    PoliciesAgree (preparedRow (some (.naive 1))) (some ⟨.prepared, none⟩) 48 1 := by
  apply policies_agree
  · decide
  · intro _ _ _
    rfl

/-- With no claim beside it, the customer is told of a retention that the pass knows nothing
of. -/
theorem policies_disagree_unclaimed :
    ¬ PoliciesAgree (preparedRow none) (some ⟨.prepared, none⟩) 48 0 := by
  intro agree
  have due := agree.due.mp (Or.inr rfl)
  exact absurd due.1 (by decide)

end HyruleCloud.ExpiryPolicy
