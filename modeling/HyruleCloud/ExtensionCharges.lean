import HyruleCloud.ExtensionExpiries

/-!
Every settled charge of an extension ends in its receipt or in its refund, and the expiry
has got the days of all receipts. The invariant says of each request what its stage allows,
and of the request that holds the row that its session knows the expiry.
-/

namespace HyruleCloud.VmExtensions

open Interaction Expiry Lifecycle ExtendDesk
open Function (update_of_ne update_self)

structure Grants (w : RequestId) (receipt : Receipt) : Prop where
  request : receipt.request = w
  days : receipt.previousExpiry + receipt.days * 86400 ≤ receipt.newExpiry

def StageSafe (w : RequestId) (receipts : List Receipt) (refunds : List Refund) : Stage → Prop
  | .committing _ receipt _ => receipts = [] ∧ refunds = [] ∧ Grants w receipt
  | .checking receipt _ => (receipts = [] ∨ receipts = [receipt]) ∧ refunds = [] ∧ Grants w receipt
  | .applied days _ => IsApplied w days receipts ∧ refunds = []
  | .ended days (.settled amount) answer => ChargeEnds w days amount answer receipts refunds
  | .ended _ .waived _ => refunds = []
  | _ => receipts = [] ∧ refunds = []

def Holds (vm : Option ExpiringVm) : Stage → Prop
  | .paying row _ | .charged row _ _ => ∃ held, vm = some held ∧ row.expiresAt = held.expiresAt
  | .committing row receipt _ => row.expiresAt = some receipt.newExpiry ∧
      ∃ held, vm = some held ∧ held.expiresAt = some receipt.previousExpiry
  | .rejected _ _ => True
  | _ => False

structure ExtendSafe (base : Time) (desk : ExtendDesk) : Prop where
  stages : ∀ w, StageSafe w (receiptsOf w desk) (refundsOf w desk) (desk.stages w)
  lock : ∀ w, desk.lock = some w → Holds desk.lifecycle.vm (desk.stages w)
  expires : Expires (base + paidDays desk.receipts * 86400) desk.lifecycle

/-! What a request does to its own account, and to no other. -/

variable {receipt : Receipt} {row vm : ExpiringVm} {power : PowerState} {works : Bool}

variable {days : Nat} {payment : Payment}

section Frames
variable {base : Time} {desk after : ExtendDesk} {w : RequestId} {stage : Stage}
variable (safe : ExtendSafe base desk)
include safe

theorem goOn_safe (mine : StageSafe w (receiptsOf w desk) (refundsOf w desk) stage)
    (holds : desk.lock = some w → Holds desk.lifecycle.vm stage) :
    ExtendSafe base (desk.goOn w stage) where
  stages v := by
    by_cases same : v = w
    · subst same
      simp only [goOn, update_self]
      exact mine
    · simp only [goOn, update_of_ne same]
      exact safe.stages v
  lock v held := by
    by_cases same : v = w
    · subst same
      simp only [goOn, update_self]
      exact holds held
    · simp only [goOn, update_of_ne same]
      exact safe.lock v held
  expires := safe.expires

theorem release_safe (w : RequestId) :
    ExtendSafe base (desk.release w) where
  stages := safe.stages
  lock v held := by
    dsimp only [release] at held
    split at held
    · cases held
    · exact safe.lock v held
  expires := safe.expires

omit safe in
theorem released (desk : ExtendDesk) (w : RequestId) : (desk.release w).lock ≠ some w := by
  dsimp only [release]
  split
  · nofun
  · assumption

theorem leave_safe (mine : StageSafe w (receiptsOf w desk) (refundsOf w desk) stage) :
    ExtendSafe base ((desk.release w).goOn w stage) :=
  goOn_safe (release_safe safe w) mine fun held => absurd held (released desk w)

omit safe in
theorem receiptsOf_other {v : RequestId} (other : receipt.request ≠ v) :
    receiptsOf v (desk.apply row receipt) = receiptsOf v desk := by
  simp [receiptsOf, ExtendDesk.apply, other]

omit safe in
theorem receiptsOf_own (own : receipt.request = w) :
    receiptsOf w (desk.apply row receipt) = receipt :: receiptsOf w desk := by
  simp [receiptsOf, ExtendDesk.apply, own]

omit safe in
theorem days_added {bound paid before later : Nat} (enough : bound + paid * 86400 ≤ before)
    (gained : before + days * 86400 ≤ later) : bound + (days + paid) * 86400 ≤ later := by
  rw [Nat.add_mul, Nat.add_comm (days * 86400), ← Nat.add_assoc]
  exact (Nat.add_le_add_right enough _).trans gained

theorem commit_safe
    (here : desk.stages w = .committing row receipt payment) (held : desk.lock = some w)
    (mine : StageSafe w [receipt] [] stage) :
    ExtendSafe base (((desk.apply row receipt).release w).goOn w stage) where
  stages v := by
    have committing := safe.stages w
    rw [here] at committing
    obtain ⟨fresh, unowed, grants⟩ := committing
    by_cases same : v = w
    · subst same
      simp only [goOn, update_self]
      have receipts : receiptsOf v (desk.apply row receipt) = [receipt] := by
        rw [receiptsOf_own grants.request, fresh]
      have refunds : refundsOf v (desk.apply row receipt) = [] := unowed
      change StageSafe v (receiptsOf v (desk.apply row receipt))
        (refundsOf v (desk.apply row receipt)) stage
      rw [receipts, refunds]
      exact mine
    · simp only [goOn, update_of_ne same]
      have other : receipt.request ≠ v := fun own => same (own.symm.trans grants.request)
      change StageSafe v (receiptsOf v (desk.apply row receipt)) (refundsOf v desk) (desk.stages v)
      rw [receiptsOf_other other]
      exact safe.stages v
  lock v stays := by
    dsimp only [goOn, release, ExtendDesk.apply] at stays
    rw [if_pos held] at stays
    cases stays
  expires := by
    have holds := safe.lock w held
    rw [here] at holds
    obtain ⟨written, vm, found, before⟩ := holds
    have grants : Grants w receipt := by
      have committing := safe.stages w
      rw [here] at committing
      exact committing.2.2
    obtain ⟨other, expiry, there, expires, enough⟩ := safe.expires.reaches
    rw [found] at there
    cases there
    rw [before] at expires
    cases expires
    have total : paidDays (receipt :: desk.receipts) = receipt.days + paidDays desk.receipts := by
      simp [paidDays]
    have reaches : base + paidDays (receipt :: desk.receipts) * 86400 ≤ receipt.newExpiry := by
      exact days_added enough grants.days
    exact ⟨⟨row, receipt.newExpiry, rfl, written, reaches⟩, safe.expires.later⟩

theorem owe_safe {amount : Usd} (unowed : refundsOf w desk = [])
    (mine : StageSafe w (receiptsOf w desk) [⟨w, amount⟩] stage) :
    ExtendSafe base
      ((({ desk with refunds := ⟨w, amount⟩ :: desk.refunds } : ExtendDesk).release w).goOn w
        stage) where
  stages v := by
    by_cases same : v = w
    · subst same
      simp only [goOn, update_self]
      have refunds : refundsOf v { desk with refunds := ⟨v, amount⟩ :: desk.refunds } =
          [⟨v, amount⟩] := by
        have added : refundsOf v { desk with refunds := ⟨v, amount⟩ :: desk.refunds } =
            ⟨v, amount⟩ :: refundsOf v desk := by simp [refundsOf]
        rw [added, unowed]
      change StageSafe v (receiptsOf v desk)
        (refundsOf v { desk with refunds := ⟨v, amount⟩ :: desk.refunds }) stage
      rw [refunds]
      exact mine
    · simp only [goOn, update_of_ne same]
      have refunds : refundsOf v { desk with refunds := ⟨w, amount⟩ :: desk.refunds } =
          refundsOf v desk := by simp [refundsOf, Ne.symm same]
      change StageSafe v (receiptsOf v desk)
        (refundsOf v { desk with refunds := ⟨w, amount⟩ :: desk.refunds }) (desk.stages v)
      rw [refunds]
      exact safe.stages v
  lock v held := by
    by_cases same : v = w
    · subst same
      exact absurd held (released _ v)
    · simp only [goOn, update_of_ne same]
      dsimp only [goOn, release] at held
      split at held
      · cases held
      · exact safe.lock v held
  expires := safe.expires

end Frames

variable {receipts : List Receipt}

section Operations
variable {base : Time} {config : ExtendConfig} {desk : ExtendDesk} {w : RequestId}
variable (safe : ExtendSafe base desk)
include safe

theorem request_safe {matching reads : Bool}
    (here : desk.stages w = .idle) :
    ExtendSafe base (desk.request w days matching power reads) := by
  unfold request
  split
  · rename_i vm free found
    split
    · exact safe
    split
    · exact safe
    rename_i checked powered
    split
    · have idle := safe.stages w
      rw [here] at idle
      constructor
      · intro v
        by_cases same : v = w
        · subst same
          simp only [goOn, update_self]
          exact idle
        · simp only [goOn, update_of_ne same]
          exact safe.stages v
      · intro v held
        cases held
        simp only [goOn, update_self]
        exact ⟨vm, found, (reconcile_keeps powered).1⟩
      · exact safe.expires
    · exact safe
  · exact safe

theorem checkPayment_safe {answer : PaymentAnswer}
    (here : desk.stages w = .paying vm days) (answered : answer ≠ .lost) :
    ExtendSafe base (desk.checkPayment config w vm days answer) := by
  have paying := safe.stages w
  rw [here] at paying
  have holds : desk.lock = some w → Holds desk.lifecycle.vm (.paying vm days) := by
    intro held
    rw [← here]
    exact safe.lock w held
  cases answer with
  | refused => exact leave_safe safe paying
  | lost => exact absurd rfl answered
  | settled | waived => exact goOn_safe safe paying holds

omit safe in
theorem extendVm_grants {enabled : Bool} {now : Time} {receipt : ExtensionReceipt}
    (done : extendVm vm days power enabled now = some (row, receipt)) :
    ∃ expiry, vm.expiresAt = some expiry ∧ row.expiresAt = some receipt.newExpiry ∧
      expiry + days * 86400 ≤ receipt.newExpiry := by
  unfold extendVm at done
  split at done
  · cases done
  rename_i checked powered
  split at done
  · cases done
  split at done
  · cases done
  rename_i expiry expires
  cases done
  rw [(reconcile_keeps powered).1] at expires
  exact ⟨expiry, expires, rfl, Nat.add_le_add_right (le_max_left _ _) _⟩

theorem extend_safe {reads : Bool}
    (here : desk.stages w = .charged vm days payment)
    (asks : ∀ amount, payment = .settled amount → desk.looksUpOwner vm power = true →
      reads = true ∧ desk.lock = some w) :
    ExtendSafe base (desk.extend w vm days payment power reads) := by
  have charged := safe.stages w
  rw [here] at charged
  unfold extend
  split
  · rename_i fails
    simp only [Bool.and_eq_true, Bool.not_eq_true', Bool.and_eq_false_iff,
      decide_eq_false_iff_not] at fails
    obtain ⟨looks, fails⟩ := fails
    cases payment with
    | settled amount =>
      obtain ⟨works, held⟩ := asks amount rfl looks
      rcases fails with broken | lost
      · rw [works] at broken
        cases broken
      · exact absurd held lost
    | waived => exact leave_safe safe charged.2
  · split
    · exact goOn_safe safe charged fun _ => trivial
    rename_i row applied done
    obtain ⟨expiry, expires, written, gained⟩ := extendVm_grants done
    apply goOn_safe safe
    · refine ⟨charged.1, charged.2, rfl, ?_⟩
      rw [expires]
      exact gained
    · intro held
      have holds := safe.lock w held
      rw [here] at holds
      obtain ⟨stored, found, same⟩ := holds
      refine ⟨written, stored, found, ?_⟩
      rw [← same, expires]
      rfl

section
variable {days : Nat} {amount : Usd} {answer : Answer} {receipts : List Receipt}
  {refunds : List Refund}

omit safe in
theorem settled_applied (applied : IsApplied w days receipts) (unowed : refunds = [])
    (accepted : answer ≠ .rejected) : ChargeEnds w days amount answer receipts refunds where
  once := Or.inl ⟨applied, unowed⟩
  extended _ := applied
  refunded rejected := absurd rejected accepted

omit safe in
theorem settled_unknown (unapplied : receipts = []) (unowed : refunds = [])
    (told : answer.reconciles = true) : ChargeEnds w days amount answer receipts refunds where
  once := Or.inr (Or.inr ⟨unapplied, unowed, told⟩)
  extended shown := by rcases shown with rfl | rfl <;> cases told
  refunded rejected := by rw [rejected] at told; cases told

end

omit safe in
theorem granted_applied (grants : Grants w receipt) : IsApplied w receipt.days [receipt] := by
  obtain ⟨request, days, previousExpiry, newExpiry⟩ := receipt
  obtain ⟨rfl, gained⟩ := grants
  exact ⟨previousExpiry, newExpiry, rfl, gained⟩

omit safe in
theorem doubted_ends (grants : Grants w receipt)
    (written : receipts = [] ∨ receipts = [receipt]) :
    StageSafe w receipts [] (.ended receipt.days payment .unknown) := by
  cases payment with
  | waived => rfl
  | settled amount =>
    rcases written with rfl | rfl
    · exact settled_unknown rfl rfl rfl
    · exact settled_applied (granted_applied grants) rfl nofun

theorem commit_step_safe {fate : Fate} {rollsBack : Bool}
    (here : desk.stages w = .committing row receipt payment) :
    ExtendSafe base (desk.commit w row receipt payment fate rollsBack) := by
  have committing := safe.stages w
  rw [here] at committing
  obtain ⟨fresh, unowed, grants⟩ := committing
  have fails : ExtendSafe base (desk.doubt w receipt payment rollsBack) := by
    unfold doubt
    split
    · exact leave_safe safe ⟨Or.inl fresh, unowed, grants⟩
    · apply leave_safe safe
      rw [unowed]
      exact doubted_ends grants (Or.inl fresh)
  unfold commit
  by_cases held : desk.lock = some w
  · rw [if_pos held]
    cases fate with
    | failed => exact fails
    | lost =>
      dsimp only
      unfold doubt
      split
      · exact commit_safe safe here held ⟨Or.inr rfl, rfl, grants⟩
      · exact commit_safe safe here held (doubted_ends grants (Or.inr rfl))
    | done => exact commit_safe safe here held ⟨granted_applied grants, rfl⟩
  · rw [if_neg held]
    exact fails

omit safe in
theorem mem_receiptsOf (receipt : Receipt) (v : RequestId) :
    receipt ∈ receiptsOf v desk ↔ receipt ∈ desk.receipts ∧ receipt.request = v := by
  simp [receiptsOf]

theorem check_safe (here : desk.stages w = .checking receipt payment) :
    ExtendSafe base (desk.check w receipt payment works) := by
  have checking := safe.stages w
  rw [here] at checking
  obtain ⟨written, unowed, grants⟩ := checking
  have ends : StageSafe w (receiptsOf w desk) (refundsOf w desk)
      (.ended receipt.days payment .unknown) := by
    rw [unowed]
    exact doubted_ends grants written
  unfold check
  split
  · exact leave_safe safe ends
  split
  · exact safe
  · exact leave_safe safe ends
  · rename_i vm free found
    have unlocked : desk.lock ≠ some w := by
      rw [free]
      nofun
    split
    · rename_i there
      obtain ⟨other, listed, same⟩ := List.any_eq_true.mp there
      rcases written with unwritten | written
      · have mine : other ∈ receiptsOf w desk :=
          (mem_receiptsOf other w).mpr ⟨listed, (of_decide_eq_true same).trans grants.request⟩
        rw [unwritten] at mine
        cases mine
      · apply goOn_safe safe ?_ fun held => absurd held unlocked
        rw [written]
        exact ⟨granted_applied grants, unowed⟩
    · rename_i absent
      apply goOn_safe safe ?_ fun held => absurd held unlocked
      refine ⟨?_, unowed⟩
      rcases written with unwritten | written
      · exact unwritten
      have mine : receipt ∈ receiptsOf w desk := by
        rw [written]
        exact List.mem_singleton_self receipt
      refine absurd (List.any_eq_true.mpr ⟨receipt, ?_, decide_eq_true rfl⟩) absent
      exact ((mem_receiptsOf receipt w).mp mine).1

section
variable {days : Nat} {payment : Payment}

theorem finish_safe (here : desk.stages w = .applied days payment) :
    ExtendSafe base (desk.finish w days payment works) := by
  have applied := safe.stages w
  rw [here] at applied
  apply leave_safe safe
  cases payment with
  | waived => exact applied.2
  | settled amount =>
    apply settled_applied applied.1 applied.2
    cases works <;> nofun

theorem rollBack_safe (here : desk.stages w = .rejected days payment)
    (rolls : ∀ amount, payment = .settled amount → works = true) :
    ExtendSafe base (desk.rollBack w days payment works) := by
  have rejected := safe.stages w
  rw [here] at rejected
  unfold rollBack
  split
  · exact leave_safe safe rejected
  rename_i broken
  cases payment with
  | waived => exact leave_safe safe rejected.2
  | settled amount => exact absurd (rolls amount rfl) broken

theorem refund_safe {fate : Fate}
    (here : desk.stages w = .refunding days payment) :
    ExtendSafe base (desk.refund config w days payment fate) := by
  have refunding := safe.stages w
  rw [here] at refunding
  obtain ⟨unapplied, unowed⟩ := refunding
  have unconfirmed : ∀ amount, payment = .settled amount →
      ExtendSafe base (desk.answer w days payment .unconfirmed) := by
    rintro amount rfl
    exact leave_safe safe (settled_unknown unapplied unowed rfl)
  have owed : ∀ amount answer, payment = .settled amount → answer ≠ .extended →
      answer ≠ .applied → ExtendSafe base
        (({ desk with refunds := ⟨w, amount⟩ :: desk.refunds } : ExtendDesk).answer w days payment
          answer) := by
    rintro amount answer rfl unshown unavailable
    apply owe_safe safe unowed
    refine ⟨Or.inr (Or.inl ⟨unapplied, rfl⟩), fun shown => ?_, fun _ => rfl⟩
    rcases shown with shown | shown
    · exact absurd shown unshown
    · exact absurd shown unavailable
  cases payment with
  | waived => exact leave_safe safe unowed
  | settled amount =>
    simp only [refund]
    by_cases nothing : amount ≤ 0 ∨ config.hasLedger = false
    · rw [owedEvent, if_pos nothing]
      exact unconfirmed amount rfl
    · rw [owedEvent, if_neg nothing]
      cases fate with
      | failed => exact unconfirmed amount rfl
      | lost => exact owed amount .unconfirmed rfl nofun nofun
      | done => exact owed amount .rejected rfl nofun nofun

end

theorem lifecycle_safe {step : LifecycleStep}
    (free : desk.lock = none ∨ waits step desk.lifecycle = false) :
    ExtendSafe base { desk with lifecycle := lifecycleStep config.expiry step desk.lifecycle } where
  stages := safe.stages
  lock w held := by
    rcases free with free | free
    · have unlocked : desk.lock = some w := held
      rw [free] at unlocked
      cases unlocked
    · have same : (lifecycleStep config.expiry step desk.lifecycle).vm = desk.lifecycle.vm :=
        unwaiting_row free
      rw [same]
      exact safe.lock w held
  expires := by
    have moved : Expires (base + paidDays desk.receipts * 86400)
        (Lifecycle.act config.expiry step desk.lifecycle) := act_expires step safe.expires
    exact ⟨moved.reaches, moved.later⟩

end Operations

variable {base : Time}

theorem extendStep_safe {config : ExtendConfig} (step : ExtendStep)
    (desk : ExtendDesk) (safe : ExtendSafe base desk) (may : mayExtend step desk) :
    ExtendSafe base (extendStep config step desk) := by
  cases step with
  | lifecycle step =>
    simp only [extendStep]
    split
    · exact safe
    rename_i goes
    apply lifecycle_safe safe
    simp only [Bool.or_eq_true, Bool.and_eq_true, not_or, not_and, Bool.not_eq_true] at goes
    cases lock : desk.lock with
    | none => exact Or.inl rfl
    | some w => exact Or.inr (goes.2 (by rw [lock]; rfl))
  | request w days matching power reads =>
    simp only [extendStep]
    split
    · rename_i here
      exact request_safe safe here
    · exact safe
  | pay w answer =>
    simp only [extendStep]
    split
    · rename_i vm days here
      exact checkPayment_safe safe here (may vm days here)
    · exact safe
  | extend w power reads =>
    simp only [extendStep]
    split
    · rename_i vm days payment here
      apply extend_safe safe here
      rintro amount rfl looks
      exact may vm days amount here looks
    · exact safe
  | commit w fate rollsBack =>
    simp only [extendStep]
    split
    · rename_i row receipt payment here
      exact commit_step_safe safe here
    · exact safe
  | check w works =>
    simp only [extendStep]
    split
    · rename_i receipt payment here
      exact check_safe safe here
    · exact safe
  | finish w works =>
    simp only [extendStep]
    split
    · rename_i days payment here
      exact finish_safe safe here
    · exact safe
  | rollBack w works =>
    simp only [extendStep]
    split
    · rename_i days payment here
      apply rollBack_safe safe here
      rintro amount rfl
      exact may days amount here
    · exact safe
  | refund w fate =>
    simp only [extendStep]
    split
    · rename_i days payment here
      exact refund_safe safe here
    · exact safe
  | disconnect w => exact release_safe safe w

theorem extend_start {desk : ExtendDesk} (start : ExtendStart base desk) :
    ExtendSafe base desk where
  stages w := by
    rw [start.stages w]
    constructor
    · simp [receiptsOf, start.receipts]
    · simp [refundsOf, start.refunds]
  lock w held := by
    rw [start.lock] at held
    cases held
  expires := by
    obtain ⟨vm, found, expires⟩ := start.vm
    refine ⟨⟨vm, base, found, expires, ?_⟩, fun restore listed => ?_⟩
    · simp [start.receipts, paidDays]
    · rw [start.restores] at listed
      cases listed

theorem stage_never_both {w : RequestId} {refunds : List Refund}
    {stage : Stage} (safe : StageSafe w receipts refunds stage) :
    receipts = [] ∨ refunds = [] := by
  cases stage with
  | idle | paying | charged | committing | rejected | refunding => exact Or.inl safe.1
  | checking receipt payment => exact Or.inr safe.2.1
  | applied days payment => exact Or.inr safe.2
  | ended days payment answer =>
    cases payment with
    | waived => exact Or.inr safe
    | settled amount =>
      rcases safe.once with ⟨_, unowed⟩ | ⟨unapplied, _⟩ | ⟨unapplied, _⟩
      · exact Or.inr unowed
      · exact Or.inl unapplied
      · exact Or.inl unapplied

/-- Whatever the order of the requests and of the others at the VM, and whatever fails, a
charge that is answered has its receipt or its refund, unless the answer says that it is
being reconciled. -/
theorem charges_kept (config : ExtendConfig) (base : Time) (desk : ExtendDesk)
    (steps : List ExtendStep) (start : ExtendStart base desk)
    (admitted : (vmExtensions config).admits desk steps) :
    ChargesKept base ((vmExtensions config).run desk steps) := by
  have safe := (vmExtensions config).run_keeps extendStep_safe steps desk (extend_start start)
    admitted
  constructor
  · intro w days amount answer ended
    have ends := safe.stages w
    rw [ended] at ends
    exact ends
  · intro w
    exact stage_never_both (safe.stages w)
  · exact safe.expires.reaches

/-- Enough of `mayExtend`, as a test. -/
def extendTest (step : ExtendStep) (desk : ExtendDesk) : Bool :=
  match step with
  | .pay _ answer => answer ≠ .lost
  | .extend w _ reads => reads && desk.lock = some w
  | .rollBack _ works => works
  | _ => true

theorem extendTest_may (step : ExtendStep) (desk : ExtendDesk)
    (passed : extendTest step desk = true) : mayExtend step desk := by
  cases step with
  | pay w answer =>
    intro vm days here
    simpa [extendTest] using passed
  | extend w power reads =>
    intro vm days amount here looks
    simpa [extendTest] using passed
  | rollBack w works =>
    intro days amount here
    exact passed
  | lifecycle | request | commit | check | finish | refund | disconnect => trivial

def dollarADay : ExtendConfig where
  expiry := ⟨10, true⟩
  dailyPrice := 1
  hasLedger := true

def ownedVm : ExpiringVm where
  owner := (some 1, some (.evm 5))
  status := .ready
  expiresAt := some 100
  xcpngUuid := some 7

def ownedDesk : ExtendDesk where
  lifecycle := { bareDesk with vm := some ownedVm }
  lock := none
  stages := fun _ => .idle
  receipts := []
  refunds := []

theorem ownedDesk_starts : ExtendStart 100 ownedDesk :=
  ⟨⟨ownedVm, rfl, rfl⟩, rfl, rfl, fun _ => rfl, rfl, rfl⟩

def chargedSteps (w : RequestId) (days : Nat) : List ExtendStep :=
  [.request w days true .running true, .pay w .settled]

/-- The acknowledgement of request 0 is lost and request 1 comes before its look at the
receipt; the commit of request 2 fails and its days are refunded. -/
def threeRequests : List ExtendStep :=
  chargedSteps 0 10 ++ [.extend 0 .running true, .commit 0 .lost true] ++
    chargedSteps 1 3 ++ [.extend 1 .running true, .check 0 true, .commit 1 .done true,
      .check 0 true, .finish 0 true, .finish 1 false] ++
    chargedSteps 2 5 ++ [.lifecycle (.expiry (.tick 50)), .extend 2 .running true,
      .commit 2 .failed true, .check 2 true, .refund 2 .lost]

theorem three_charges_kept : ChargesKept 100 ((vmExtensions dollarADay).run ownedDesk
    threeRequests) := by
  apply charges_kept dollarADay 100 ownedDesk threeRequests ownedDesk_starts
  exact (vmExtensions dollarADay).passes_admits extendTest extendTest_may _ _ (by decide +kernel)

theorem unaccounted_charge {desk : ExtendDesk} (w : RequestId) (days : Nat)
    (amount : Usd) (answer : Answer) (kept : ChargesKept base desk)
    (ended : desk.stages w = .ended days (.settled amount) answer)
    (unapplied : receiptsOf w desk = []) (unowed : refundsOf w desk = []) :
    answer.reconciles = true := by
  have ends := kept.ended w days amount answer ended
  rw [unapplied, unowed] at ends
  rcases ends.once with ⟨⟨_, _, nothing, _⟩, _⟩ | ⟨_, nothing⟩ | ⟨_, _, told⟩
  · cases nothing
  · cases nothing
  · exact told

/-- The owner is looked up in vain after the payment, the rollback of a rejection fails, or
the settlement is not answered: nothing is applied, nothing is owed, and the answer is a 500
or a 502. -/
theorem charges_not_kept : ¬ ChargesKept 100 ((vmExtensions dollarADay).run ownedDesk
      (chargedSteps 0 10 ++ [.extend 0 .running false])) ∧
    ¬ ChargesKept 100 ((vmExtensions dollarADay).run ownedDesk
      (chargedSteps 0 10 ++ [.lifecycle (.expiry (.tick 200)), .extend 0 .unreachable true,
        .rollBack 0 false])) ∧
    ¬ ChargesKept 100 ((vmExtensions dollarADay).run ownedDesk
      [.request 0 10 true .running true, .pay 0 .lost]) := by
  refine ⟨fun kept => ?_, fun kept => ?_, fun kept => ?_⟩
  · have told := unaccounted_charge 0 10 10 .internal kept (by decide +kernel) (by decide +kernel)
      (by decide +kernel)
    cases told
  · have told := unaccounted_charge 0 10 10 .internal kept (by decide +kernel) (by decide +kernel)
      (by decide +kernel)
    cases told
  · have told := unaccounted_charge 0 10 10 .processing kept (by decide +kernel)
      (by decide +kernel) (by decide +kernel)
    cases told

end HyruleCloud.VmExtensions
