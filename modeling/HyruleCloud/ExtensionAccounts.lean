import HyruleCloud.TunnelExtensions

/-!
When every paid extension of a tunnel has its hours or its refund. While an extension is
between the daemon's addition and its answer nobody takes the lease away, a sweep revokes a
lease whose row is still due, and the event of a refund is written.
-/

namespace HyruleCloud.TunnelExtensions

open Interaction AdditionLog ExtensionDesk Function
open TunnelLeases (RevokeReply)

structure Underway where
  hours : Nat
  serial : Nat
  newExpiry : Time

def Stage.underway : Stage → Option Underway
  | .granted hours _ serial newExpiry _ | .found hours _ serial newExpiry _ =>
    some ⟨hours, serial, newExpiry⟩
  | _ => none

def Stage.deletes : Stage → Bool
  | .revoked | .reaped => true
  | _ => false

/-- No extension is between the daemon's addition and its answer. -/
def Answered (desk : ExtensionDesk) : Prop := ∀ w, (desk.stages w).underway = none

/-- A live lease is not taken away while an extension is under way, a sweep takes it away only
if the row is due at that moment, and the event of a refund is written. -/
def Undisturbed (config : ExtensionConfig) (step : ExtensionStep) (desk : ExtensionDesk) :
    Prop :=
  match step with
  | .lapse => desk.lease.isSome → Answered desk
  | .tearDown w reply => desk.stages w = .revoking → reply.takes → desk.lease.isSome →
      Answered desk
  | .reap w reply => desk.stages w = .sweeping → reply.takes → desk.lease.isSome →
      Answered desk ∧ desk.due config = true
  | .refund _ works => works = true
  | _ => True

def undisturbedExtensions (config : ExtensionConfig) :
    Protocol ExtensionDesk ExtensionStep where
  step := extensionStep config
  may := Undisturbed config

def Reaches (desk : ExtensionDesk) (expiresAt : Time) : Prop :=
  ∀ serial addition, desk.reported serial = true →
    nth desk.additions serial = some addition → addition.result ≤ expiresAt

structure EndingKept (config : ExtensionConfig) (desk : ExtensionDesk) (ending : Ending) :
    Prop where
  present : ∀ serial row lease, ending.answer = .extended serial row lease →
    row = true ∧ lease = true
  refunded : ∀ tx, ending.answer = .error → ending.charge = .settled tx →
    ⟨tx, amount config ending.hours⟩ ∈ desk.refunds

structure UnderwaySafe (desk : ExtensionDesk) (call : Underway) : Prop where
  added : nth desk.additions call.serial = some ⟨call.hours * 3600, call.newExpiry⟩
  unreported : desk.reported call.serial = false
  lease : desk.lease.isSome

structure ExtensionsSafe (config : ExtensionConfig) (base : Time) (desk : ExtensionDesk) :
    Prop where
  stacked : Stacked base desk.additions
  fresh : ∀ serial, desk.additions.length ≤ serial → desk.reported serial = false
  lease : ∀ expiresAt, desk.lease = some expiresAt → expiresAt = base + accrued desk.additions
  row : ∀ expiresAt, desk.row = some expiresAt → base ≤ expiresAt ∧ Reaches desk expiresAt
  tracked : desk.lease.isSome → desk.row.isSome
  underway : ∀ w call, (desk.stages w).underway = some call → UnderwaySafe desk call
  apart : ∀ v w first second, (desk.stages v).underway = some first →
    (desk.stages w).underway = some second → first.serial = second.serial → v = w
  deleting : ∀ w, (desk.stages w).deletes = true → desk.lease = none
  delivered : deliveredSeconds desk.endings = acknowledged desk.reported desk.additions
  endings : ∀ ending ∈ desk.endings, EndingKept config desk ending
  reapings : ∀ time ∈ desk.reapings,
    base + deliveredSeconds desk.endings + config.grace < time
  reaped : desk.reapings ≠ [] → desk.lease = none

variable {config : ExtensionConfig} {base : Time} {desk : ExtensionDesk}

namespace ExtensionsSafe

variable {expiresAt : Time}

section
variable (safe : ExtensionsSafe config base desk)
include safe

theorem row_covers (row : desk.row = some expiresAt) :
    base + deliveredSeconds desk.endings ≤ expiresAt := by
  rw [safe.delivered]
  exact acknowledged_covered safe.stacked (safe.row expiresAt row).1 (safe.row expiresAt row).2

theorem due_delivered (due : desk.due config = true) :
    base + deliveredSeconds desk.endings + config.grace < desk.now := by
  unfold ExtensionDesk.due at due
  cases row : desk.row with
  | none =>
    rw [row] at due
    cases due
  | some expiresAt =>
    rw [row] at due
    have late : expiresAt + config.grace < desk.now := of_decide_eq_true due
    exact Nat.lt_of_le_of_lt (Nat.add_le_add_right (safe.row_covers row) _) late

theorem lease_covers (lease : desk.lease = some expiresAt) :
    base + deliveredSeconds desk.endings ≤ expiresAt := by
  rw [safe.delivered, safe.lease expiresAt lease]
  exact Nat.add_le_add_left acknowledged_le_accrued base

theorem paid_for :
    ExtensionsPaidFor config base desk where
  lease _ := safe.lease_covers
  row _ := safe.row_covers
  reapings := safe.reapings
  present ending listed := (safe.endings ending listed).present
  refunded ending listed := (safe.endings ending listed).refunded

theorem goOn (w : ProcessId) (stage : Stage)
    (minds : ∀ call, stage.underway = some call → UnderwaySafe desk call ∧
      ∀ v other, v ≠ w → (desk.stages v).underway = some other → other.serial ≠ call.serial)
    (deletes : stage.deletes = true → desk.lease = none) :
    ExtensionsSafe config base (desk.goOn w stage) := by
  have known_cases : ∀ v call, ((desk.goOn w stage).stages v).underway = some call →
      (v = w ∧ stage.underway = some call) ∨
        (v ≠ w ∧ (desk.stages v).underway = some call) := by
    intro v call known
    by_cases mine : v = w
    · subst mine
      simp only [ExtensionDesk.goOn, update_self] at known
      exact .inl ⟨rfl, known⟩
    · simp only [ExtensionDesk.goOn, update_of_ne mine] at known
      exact .inr ⟨mine, known⟩
  exact { safe with
    underway := by
      intro v call known
      have kept : UnderwaySafe desk call := by
        rcases known_cases v call known with ⟨_, here⟩ | ⟨_, before⟩
        · exact (minds call here).1
        · exact safe.underway v call before
      exact { kept with }
    apart := by
      intro u v first second one two equal
      rcases known_cases u first one with ⟨rfl, here⟩ | ⟨other, before⟩
      · rcases known_cases v second two with ⟨rfl, _⟩ | ⟨other, before⟩
        · rfl
        · exact absurd equal.symm ((minds first here).2 v second other before)
      · rcases known_cases v second two with ⟨rfl, here⟩ | ⟨_, after⟩
        · exact absurd equal ((minds second here).2 u first other before)
        · exact safe.apart u v first second before after equal
    deleting := by
      intro v known
      by_cases mine : v = w
      · subst mine
        simp only [ExtensionDesk.goOn, update_self] at known
        exact deletes known
      · simp only [ExtensionDesk.goOn, update_of_ne mine] at known
        exact safe.deleting v known
    endings := fun ending listed => { safe.endings ending listed with } }

theorem stay (w : ProcessId) (stage : Stage)
    (same : stage.underway = (desk.stages w).underway) (keeps : stage.deletes = false) :
    ExtensionsSafe config base (desk.goOn w stage) := by
  apply safe.goOn w stage
  · intro call known
    rw [same] at known
    constructor
    · exact safe.underway w call known
    · intro v other apart before equal
      exact apart (safe.apart v w other call before known equal)
  · intro deletes
    rw [keeps] at deletes
    cases deletes

theorem rest (w : ProcessId) (stage : Stage)
    (quiet : stage.underway = none) (keeps : stage.deletes = false) :
    ExtensionsSafe config base (desk.goOn w stage) := by
  apply safe.goOn w stage
  · intro call known
    rw [quiet] at known
    cases known
  · intro deletes
    rw [keeps] at deletes
    cases deletes

theorem goOn_taken (gone : desk.lease = none)
    (w : ProcessId) (stage : Stage) (quiet : stage.underway = none) :
    ExtensionsSafe config base (desk.goOn w stage) := by
  apply safe.goOn w stage
  · intro call known
    rw [quiet] at known
    cases known
  · intro _
    exact gone

theorem tick (later : Time) (settled : Nat) :
    ExtensionsSafe config base { desk with now := later, settled := settled } :=
  { safe with
    underway := fun w call known => { safe.underway w call known with }
    endings := fun ending listed => { safe.endings ending listed with } }

theorem added_accrued (lease : desk.lease = some expiresAt) (seconds : Nat) :
    expiresAt + seconds =
      base + accrued (⟨seconds, expiresAt + seconds⟩ :: desk.additions) := by
  calc expiresAt + seconds = base + accrued desk.additions + seconds := by
        rw [safe.lease expiresAt lease]
    _ = base + (seconds + accrued desk.additions) := by rw [Nat.add_assoc, Nat.add_comm seconds]

theorem addition (lease : desk.lease = some expiresAt) (seconds : Nat) :
    ExtensionsSafe config base { desk with
      lease := some (expiresAt + seconds)
      additions := ⟨seconds, expiresAt + seconds⟩ :: desk.additions } :=
  { safe with
    stacked := by
      constructor
      · exact safe.added_accrued lease seconds
      · exact safe.stacked
    fresh := fun serial beyond => safe.fresh serial (Nat.le_of_succ_le beyond)
    lease := by
      rintro _ ⟨⟩
      exact safe.added_accrued lease seconds
    row := by
      intro row known
      constructor
      · exact (safe.row row known).1
      · intro serial addition told found
        have older : serial ≠ desk.additions.length := by
          rintro rfl
          rw [safe.fresh _ (Nat.le_refl _)] at told
          cases told
        unfold nth at found
        rw [if_neg older] at found
        exact (safe.row row known).2 serial addition told found
    tracked := fun _ => safe.tracked (by rw [lease]; rfl)
    underway := fun w call known =>
      let kept := safe.underway w call known
      ⟨nth_older _ kept.added, kept.unreported, rfl⟩
    deleting := fun w deletes => by
      have gone := safe.deleting w deletes
      rw [lease] at gone
      cases gone
    delivered := by
      rw [safe.delivered]
      exact (acknowledged_unknown safe.fresh _).symm
    endings := fun ending listed => { safe.endings ending listed with }
    reaped := fun some_reaped => by
      have gone := safe.reaped some_reaped
      rw [lease] at gone
      cases gone }

theorem advance (newExpiry : Time) :
    ExtensionsSafe config base (desk.advance newExpiry) :=
  { safe with
    row := by
      intro expiresAt known
      obtain ⟨before, was, is⟩ := Option.map_eq_some_iff.mp known
      have later : before ≤ expiresAt := by
        rw [← is]
        split
        · exact Nat.le_of_lt ‹_›
        · exact Nat.le_refl before
      constructor
      · exact Nat.le_trans (safe.row before was).1 later
      · intro serial addition told found
        exact Nat.le_trans ((safe.row before was).2 serial addition told found) later
    tracked := fun live => by simpa [ExtensionDesk.advance] using safe.tracked live
    underway := fun w call known => { safe.underway w call known with }
    endings := fun ending listed => { safe.endings ending listed with } }

end

theorem advanced_reaches {newExpiry : Time} (known : (desk.advance newExpiry).row = some expiresAt) :
    newExpiry ≤ expiresAt := by
  obtain ⟨before, _, is⟩ := Option.map_eq_some_iff.mp known
  rw [← is]
  split
  · exact Nat.le_refl newExpiry
  · exact Nat.le_of_not_lt ‹_›

section
variable (safe : ExtensionsSafe config base desk)
include safe

theorem report (w : ProcessId) (charge : Charge)
    (call : Underway) (minds : (desk.stages w).underway = some call)
    (reached : ∀ expiresAt, desk.row = some expiresAt → call.newExpiry ≤ expiresAt) :
    ExtensionsSafe config base (desk.report w call.hours charge call.serial) := by
  have mine := safe.underway w call minds
  have unreaped : desk.reapings = [] := by
    by_contra some_reaped
    have live := mine.lease
    rw [safe.reaped some_reaped] at live
    cases live
  have told : ExtensionsSafe config base (desk.goOn w .idle) := safe.rest w .idle rfl rfl
  have others : ∀ v other, ((desk.goOn w .idle).stages v).underway = some other →
      (desk.stages v).underway = some other ∧ other.serial ≠ call.serial := by
    intro v other known
    by_cases same : v = w
    · subst same
      simp [ExtensionDesk.goOn, Stage.underway] at known
    · simp only [ExtensionDesk.goOn, update_of_ne same] at known
      exact ⟨known, fun equal => same (safe.apart v w other call known minds equal)⟩
  exact { safe with
    fresh := by
      intro serial beyond
      have within := nth_lt mine.added
      have apart : serial ≠ call.serial := by
        have far : desk.additions.length ≤ serial := beyond
        omega
      exact (update_of_ne apart ..).trans (safe.fresh serial beyond)
    row := by
      intro expiresAt known
      constructor
      · exact (safe.row expiresAt known).1
      · intro serial addition is found
        by_cases same : serial = call.serial
        · subst same
          have same_addition := Option.some.inj (found.symm.trans mine.added)
          rw [same_addition]
          exact reached expiresAt known
        · have before : desk.reported serial = true :=
            (update_of_ne same ..).symm.trans is
          exact (safe.row expiresAt known).2 serial addition before found
    underway := by
      intro v other known
      obtain ⟨before, apart⟩ := others v other known
      have kept := safe.underway v other before
      exact { kept with unreported := (update_of_ne apart ..).trans kept.unreported }
    apart := told.apart
    deleting := told.deleting
    delivered := by
      have marked := acknowledged_mark mine.added mine.unreported
      change call.hours * 3600 + deliveredSeconds desk.endings = _
      rw [safe.delivered]
      exact marked.symm
    endings := by
      intro ending listed
      rcases List.mem_cons.mp listed with rfl | before
      · constructor
        · rintro serial row lease ⟨⟩
          exact ⟨safe.tracked mine.lease, mine.lease⟩
        · intro tx failed
          cases failed
      · exact { safe.endings ending before with }
    reapings := by
      intro time listed
      change time ∈ desk.reapings at listed
      rw [unreaped] at listed
      cases listed }

theorem fail (w : ProcessId) (hours : Nat)
    (charge : Charge) :
    ExtensionsSafe config base (desk.failAfterPayment config w hours charge true) := by
  have quiet : ExtensionsSafe config base (desk.goOn w .idle) := safe.rest w .idle rfl rfl
  have grown : ∀ refund ∈ desk.refunds,
      refund ∈ (desk.failAfterPayment config w hours charge true).refunds := by
    intro refund listed
    cases charge with
    | waived => exact listed
    | settled tx => exact List.mem_cons_of_mem _ listed
  exact { safe with
    underway := fun v call known => { quiet.underway v call known with }
    apart := quiet.apart
    deleting := quiet.deleting
    endings := by
      intro ending listed
      rcases List.mem_cons.mp listed with rfl | before
      · constructor
        · intro serial row lease told
          cases told
        · rintro tx - ⟨⟩
          exact List.mem_cons_self
      · exact ⟨(safe.endings ending before).present, fun tx failed charged =>
          grown _ ((safe.endings ending before).refunded tx failed charged)⟩ }

theorem drop (answered : Answered desk) :
    ExtensionsSafe config base { desk with lease := none } :=
  { safe with
    lease := by simp
    tracked := by simp
    underway := fun w call known => by
      rw [answered w] at known
      cases known
    deleting := fun _ _ => rfl
    endings := fun ending listed => { safe.endings ending listed with }
    reaped := fun _ => rfl }

theorem reaping (gone : desk.lease = none)
    (time : Time) (later : base + deliveredSeconds desk.endings + config.grace < time) :
    ExtensionsSafe config base { desk with reapings := time :: desk.reapings } :=
  { safe with
    underway := fun w call known => { safe.underway w call known with }
    endings := fun ending listed => { safe.endings ending listed with }
    reapings := by
      intro other listed
      rcases List.mem_cons.mp listed with rfl | before
      · exact later
      · exact safe.reapings other before
    reaped := fun _ => gone }

theorem delete (gone : desk.lease = none) :
    ExtensionsSafe config base { desk with row := none } :=
  { safe with
    row := by simp
    tracked := fun live => by
      rw [gone] at live
      cases live
    underway := fun w call known => { safe.underway w call known with }
    endings := fun ending listed => { safe.endings ending listed with } }

theorem tryAgain (w : ProcessId) (hours : Nat)
    (charge : Charge) (serial : Nat) (newExpiry : Time) (attempt : Nat)
    (minds : (desk.stages w).underway = some ⟨hours, serial, newExpiry⟩) :
    ExtensionsSafe config base (desk.tryAgain w hours charge serial newExpiry attempt) := by
  unfold ExtensionDesk.tryAgain
  split
  · exact safe.stay w _ minds.symm rfl
  · exact safe.rest w _ rfl rfl

theorem extendLease (w : ProcessId) (hours : Nat)
    (charge : Charge) (reply : GrantReply) :
    ExtensionsSafe config base (desk.extendLease w hours charge reply) := by
  unfold ExtensionDesk.extendLease
  split
  · exact safe.rest w _ rfl rfl
  · exact safe.rest w _ rfl rfl
  · rename_i expiresAt reply lease _
    have added := safe.addition lease (hours * 3600)
    split
    · apply added.goOn w
      · rintro call ⟨⟩
        constructor
        · exact ⟨nth_newest _ _, safe.fresh _ (Nat.le_refl _), rfl⟩
        · intro v other _ before equal
          exact absurd equal (Nat.ne_of_lt (nth_lt (safe.underway v other before).added))
      · intro deletes
        cases deletes
    · exact added.rest w _ rfl rfl

theorem takeLease (answered : desk.lease.isSome → Answered desk) :
    ExtensionsSafe config base { desk with lease := none } := by
  cases lease : desk.lease with
  | none =>
    have same : { desk with lease := none } = desk := by rw [← lease]
    rw [same]
    exact safe
  | some expiresAt => exact safe.drop (answered (by rw [lease]; rfl))

end

end ExtensionsSafe

theorem extension_step_safe (step : ExtensionStep) (desk : ExtensionDesk)
    (safe : ExtensionsSafe config base desk) (undisturbed : Undisturbed config step desk) :
    ExtensionsSafe config base (extensionStep config step desk) := by
  cases step with
  | tick => exact safe.tick _ desk.settled
  | lapse => exact safe.takeLease undisturbed
  | request w hours =>
    dsimp only [extensionStep, ExtensionDesk.request]
    split
    · split
      · exact safe.rest w _ rfl rfl
      · exact safe
    · exact safe
  | preflight w answered =>
    dsimp only [extensionStep, ExtensionDesk.preflight]
    split
    · split
      · exact safe.rest w _ rfl rfl
      · exact safe.rest w _ rfl rfl
    · exact safe
  | pay w payment =>
    dsimp only [extensionStep]
    split
    · cases payment with
      | refused | waived => exact safe.rest w _ rfl rfl
      | settled => exact (safe.tick desk.now _).rest w _ rfl rfl
    · exact safe
  | grant w reply =>
    dsimp only [extensionStep]
    split
    · exact safe.extendLease w _ _ reply
    · exact safe
  | find w works =>
    dsimp only [extensionStep]
    split
    · rename_i hours charge serial newExpiry attempt stands
      have minds : (desk.stages w).underway = some ⟨hours, serial, newExpiry⟩ := by
        rw [stands]
        rfl
      unfold ExtensionDesk.findRow
      split
      · split
        · exact safe.stay w _ minds.symm rfl
        · exact safe.rest w _ rfl rfl
      · exact safe.tryAgain w hours charge serial newExpiry attempt minds
    · exact safe
  | advance w commit =>
    dsimp only [extensionStep]
    split
    · rename_i hours charge serial newExpiry attempt stands
      have minds : (desk.stages w).underway = some ⟨hours, serial, newExpiry⟩ := by
        rw [stands]
        rfl
      cases commit with
      | failed => exact safe.tryAgain w hours charge serial newExpiry attempt minds
      | unknown =>
        exact (safe.advance newExpiry).tryAgain w hours charge serial newExpiry attempt minds
      | done =>
        exact (safe.advance newExpiry).report w charge ⟨hours, serial, newExpiry⟩ minds
          fun _ known => ExtensionsSafe.advanced_reaches known
    · exact safe
  | refund w works =>
    have written : works = true := undisturbed
    subst written
    dsimp only [extensionStep]
    split
    · exact safe.fail w _ _
    · exact safe
  | revoke w =>
    dsimp only [extensionStep, ExtensionDesk.startRevoke]
    split
    · split
      · exact safe.rest w _ rfl rfl
      · exact safe
    · exact safe
  | tearDown w reply =>
    dsimp only [extensionStep]
    split
    · rename_i stands
      unfold ExtensionDesk.tearDown
      by_cases takes : reply.takes = true
      · rw [if_pos takes]
        have taken := safe.takeLease (undisturbed stands takes)
        exact taken.goOn_taken rfl w _ (by split <;> rfl)
      · have unconfirmed : reply ≠ RevokeReply.confirmed := by
          rintro rfl
          exact takes rfl
        rw [if_neg takes, if_neg unconfirmed]
        exact safe.rest w _ rfl rfl
    · exact safe
  | sweep w =>
    dsimp only [extensionStep, ExtensionDesk.sweep]
    split
    · split
      · exact safe.rest w _ rfl rfl
      · exact safe
    · exact safe
  | reap w reply =>
    dsimp only [extensionStep]
    split
    · rename_i stands
      unfold ExtensionDesk.reap
      by_cases takes : reply.takes = true
      · rw [if_pos takes]
        have taken := safe.takeLease fun live => (undisturbed stands takes live).1
        have reaped : ExtensionsSafe config base { desk with
            lease := none
            reapings := if reply.takes && desk.lease.isSome then desk.now :: desk.reapings
              else desk.reapings } := by
          split
          · rename_i both
            rw [takes, Bool.true_and] at both
            have due := (undisturbed stands takes both).2
            exact taken.reaping rfl desk.now (safe.due_delivered due)
          · exact taken
        exact reaped.goOn_taken rfl w _ (by split <;> rfl)
      · have unconfirmed : reply ≠ RevokeReply.confirmed := by
          rintro rfl
          exact takes rfl
        have unreaped : ¬ (reply.takes && desk.lease.isSome) = true := by simp [takes]
        rw [if_neg takes, if_neg unconfirmed, if_neg unreaped]
        exact safe.rest w _ rfl rfl
    · exact safe
  | delete w works =>
    have deleted (gone : desk.lease = none) :
        ExtensionsSafe config base (desk.deleteRow w works) := by
      unfold ExtensionDesk.deleteRow
      split
      · exact (safe.delete gone).rest w _ rfl rfl
      · exact safe.rest w _ rfl rfl
    dsimp only [extensionStep]
    split
    · rename_i stands
      exact deleted (safe.deleting w (by rw [stands]; rfl))
    · rename_i stands
      exact deleted (safe.deleting w (by rw [stands]; rfl))
    · exact safe

theorem fresh_tunnel_safe (fresh : FreshTunnel base desk) : ExtensionsSafe config base desk where
  stacked := by rw [fresh.additions]; trivial
  fresh serial _ := fresh.reported serial
  lease expiresAt known := by
    rw [fresh.lease] at known
    cases known
    rw [fresh.additions]
    rfl
  row expiresAt known := by
    rw [fresh.row] at known
    cases known
    constructor
    · exact Nat.le_refl _
    · intro serial addition told
      rw [fresh.reported serial] at told
      cases told
  tracked _ := by rw [fresh.row]; rfl
  underway w call known := by
    rw [fresh.stages w] at known
    cases known
  apart v w first second known := by
    rw [fresh.stages v] at known
    cases known
  deleting w known := by
    rw [fresh.stages w] at known
    cases known
  delivered := by
    rw [fresh.endings, fresh.additions]
    rfl
  endings ending listed := by
    rw [fresh.endings] at listed
    cases listed
  reapings time listed := by
    rw [fresh.reapings] at listed
    cases listed
  reaped some_reaped := absurd fresh.reapings some_reaped

/-- Every answered extension of a tunnel has its hours or its refund, in every run in which no
live lease is taken away under an extension or before its row is due, and every event of a
refund is written. -/
theorem extensions_paid_for (config : ExtensionConfig) (base : Time) (desk : ExtensionDesk)
    (steps : List ExtensionStep) (fresh : FreshTunnel base desk)
    (undisturbed : (undisturbedExtensions config).admits desk steps) :
    ExtensionsPaidFor config base ((undisturbedExtensions config).run desk steps) :=
  ((undisturbedExtensions config).run_keeps
    (fun step desk safe may => extension_step_safe step desk safe may)
    steps desk (fresh_tunnel_safe fresh) undisturbed).paid_for

section Runs

def hourlyTunnels : ExtensionConfig where
  grace := 900
  priceTunnelHourly := 5
  tunnelMinHours := 1
  tunnelMaxHours := 720

def freshDesk : ExtensionDesk where
  now := 0
  row := some 3600
  lease := some 3600
  stages := fun _ => .idle
  settled := 0
  additions := []
  reported := fun _ => false
  endings := []
  refunds := []
  reapings := []

theorem fresh_desk : FreshTunnel 3600 freshDesk :=
  ⟨rfl, rfl, fun _ => rfl, rfl, fun _ => rfl, rfl, rfl⟩

/-- Two extensions at once; the second one's addition is the first to reach the row. -/
def concurrentExtensions : List ExtensionStep :=
  [.request 0 1, .request 1 2, .preflight 0 true, .preflight 1 true, .pay 0 .settled,
    .pay 1 .settled, .grant 0 .answered, .grant 1 .answered, .find 1 true, .advance 1 .done,
    .find 0 true, .advance 0 .done]

theorem concurrent_extensions_add_up :
    ExtensionsPaidFor hourlyTunnels 3600
      ((undisturbedExtensions hourlyTunnels).run freshDesk concurrentExtensions) := by
  apply extensions_paid_for hourlyTunnels 3600 freshDesk concurrentExtensions fresh_desk
  simp [Protocol.admits, concurrentExtensions, undisturbedExtensions, Undisturbed]

def lateDesk : ExtensionDesk := { freshDesk with now := 4501 }

/-- A sweep has chosen the tunnel before it is extended, and revokes the lease meanwhile. -/
def sweptExtension : List ExtensionStep :=
  [.sweep 1, .request 0 1, .preflight 0 true, .pay 0 .settled, .grant 0 .answered,
    .reap 1 .confirmed, .find 0 true, .advance 0 .done, .delete 1 true]

theorem swept_extension_lost :
    ¬ ∀ config base desk steps, FreshTunnel base desk →
      ExtensionsPaidFor config base ((tunnelExtensions config).run desk steps) := by
  intro always
  have kept := always hourlyTunnels 3600 lateDesk sweptExtension
    ⟨rfl, rfl, fun _ => rfl, rfl, fun _ => rfl, rfl, rfl⟩
  have answered : ⟨.settled 0, 1, .extended 0 true false⟩ ∈
      ((tunnelExtensions hourlyTunnels).run lateDesk sweptExtension).endings := by
    decide +kernel
  exact absurd (kept.present _ answered 0 true false rfl).2 (by decide)

end Runs

end HyruleCloud.TunnelExtensions
