import HyruleCloud.TunnelLeases

/-!
When every live lease of a tunnel has its row. A lease is tracked by a row that nobody is
about to delete, or by a call that still minds it; the rows that an extension has returned
are not reaped before their time.
-/

namespace HyruleCloud.TunnelLeases

open Interaction Function

/-- The call still has to insert a row for the lease, or to revoke it. -/
def Stage.minds : Stage → Option TunnelId
  | .leased id _ _ | .unwanted id _ _ | .undiscarded id _ _ => some id
  | .recreated id _ | .rowless id => some id
  | _ => none

def Stage.deletes : Stage → Option TunnelId
  | .revoked id | .reaped id _ => some id
  | _ => none

/-- The daemon has granted the extension, the call has not returned it. -/
def Stage.grants : Stage → Option TunnelId
  | .granted id _ _ | .found id _ _ _ => some id
  | _ => none

/-- The creations that take effect are answered; a recovery does not find the row of a tunnel
whose daemon lease has been revoked to delete the row, and its own revocation works; a sweep
revokes what is still due, while no extension of it is under way. -/
def Untangled (config : TunnelConfig) (step : LeaseStep) (desk : LeaseDesk) : Prop :=
  match step with
  | .provision _ _ _ reply => reply ≠ .unanswered
  | .recreate w _ reply => match desk.stages w with
      | .recovering id _ => reply = .unanswered → (desk.leases id).isSome ∨
          ((desk.rows id).isSome ∧ ∀ v, (desk.stages v).deletes ≠ some id)
      | _ => True
  | .resync w => match desk.stages w with
      | .recreated id _ => (desk.rows id).isSome → (desk.leases id).isSome →
          ∀ v, (desk.stages v).deletes ≠ some id
      | _ => True
  | .tidy w reply => match desk.stages w with
      | .rowless id => (desk.leases id).isSome → reply.takes
      | _ => True
  | .reap w reply => match desk.stages w with
      | .sweeping (id :: _) => reply.takes → (desk.leases id).isSome →
          desk.due config id ∧ ∀ v, (desk.stages v).grants ≠ some id
      | _ => True
  | _ => True

def untangledLeases (config : TunnelConfig) : Protocol LeaseDesk LeaseStep where
  step := leaseStep config
  may := Untangled config

/-- A live lease has a row that nobody is about to delete, or a call that minds it. -/
def Tracked (desk : LeaseDesk) (id : TunnelId) : Prop :=
  ((desk.rows id).isSome ∧ ∀ v, (desk.stages v).deletes ≠ some id) ∨
    ∃ v, (desk.stages v).minds = some id

def UnreapedSince (desk : LeaseDesk) (id : TunnelId) (since : Nat) : Prop :=
  ∀ reaping ∈ desk.reapings, reaping.tunnelId = id → reaping.serial < since

def StageSafe (desk : LeaseDesk) (w : ProcessId) : Stage → Prop
  | .leased id _ _ | .unwanted id _ _ | .undiscarded id _ _ =>
    id.process = w ∧ id.serial < desk.drawn ∧ id ∉ desk.listed
  | .revoking id | .revoked id => id ∈ desk.listed
  | .extending id _ => id ∈ desk.provisioned
  | .granted id _ since => id ∈ desk.provisioned ∧ UnreapedSince desk id since
  | .found id _ since row => id ∈ desk.provisioned ∧ UnreapedSince desk id since ∧
      ∀ later, desk.rows id = some later → row.expiresAt ≤ later.expiresAt
  | .sweeping candidates => ∀ id ∈ candidates, id ∈ desk.listed
  | .reaped id candidates => id ∈ desk.listed ∧ ∀ id ∈ candidates, id ∈ desk.listed
  | _ => True

structure RowSafe (desk : LeaseDesk) (id : TunnelId) (row : TunnelRow) : Prop where
  listed : id ∈ desk.listed
  active : id ∈ desk.provisioned → row.status = .active

structure ExtensionSafe (desk : LeaseDesk) (extension : Extension) : Prop where
  provisioned : extension.tunnelId ∈ desk.provisioned
  row : ∀ row, desk.rows extension.tunnelId = some row → extension.expiresAt ≤ row.expiresAt

structure LeasesSafe (config : TunnelConfig) (desk : LeaseDesk) : Prop where
  serials : ∀ id ∈ desk.listed, id.serial < desk.drawn
  rows : ∀ id row, desk.rows id = some row → RowSafe desk id row
  stages : ∀ w, StageSafe desk w (desk.stages w)
  tracked : ∀ id, (desk.leases id).isSome → Tracked desk id
  reapings : ∀ reaping ∈ desk.reapings, reaping.serial < desk.reapings.length
  extensions : ∀ extension ∈ desk.extensions, ExtensionSafe desk extension
  kept : ∀ extension ∈ desk.extensions, ∀ reaping ∈ desk.reapings,
    reaping.tunnelId = extension.tunnelId → extension.since ≤ reaping.serial →
      extension.expiresAt + config.grace < reaping.time

variable {stage : Stage} {reply : RevokeReply} {fresh : Lease} {row : TunnelRow}
  {candidates : List TunnelId}

variable {v : ProcessId} {newExpiry : Time}

section Safety

variable {config : TunnelConfig} {desk after : LeaseDesk} {w : ProcessId} {id : TunnelId}

theorem listed_provisioned (known : id ∈ desk.provisioned) : id ∈ desk.listed :=
  List.mem_append_left _ known

/-! What a step of one call leaves to the stages of the others. -/

structure Later (w : ProcessId) (before after : LeaseDesk) : Prop where
  drawn : before.drawn ≤ after.drawn
  provisioned : before.provisioned ⊆ after.provisioned
  stays : before.listed ⊆ after.listed
  listed : ∀ id ∈ after.listed, id ∈ before.listed ∨ id.process = w
  rows : ∀ id ∈ before.provisioned, ∀ row, after.rows id = some row →
    ∃ earlier, before.rows id = some earlier ∧ earlier.expiresAt ≤ row.expiresAt
  reapings : ∀ reaping ∈ after.reapings, reaping ∈ before.reapings ∨
    ∀ v, (before.stages v).grants ≠ some reaping.tunnelId

theorem unreaped_later {v : ProcessId} {since : Nat} (later : Later w desk after)
    (grants : (desk.stages v).grants = some id) (unreaped : UnreapedSince desk id since) :
    UnreapedSince after id since := by
  intro reaping listed same
  rcases later.reapings reaping listed with before | free
  · exact unreaped reaping before same
  · rw [same] at free
    exact absurd grants (free v)

theorem unlisted_later (later : Later w desk after) (other : v ≠ w)
    (own : id.process = v) (fresh : id ∉ desk.listed) : id ∉ after.listed := by
  intro listed
  rcases later.listed id listed with before | acting
  · exact fresh before
  · exact other (own.symm.trans acting)

theorem stage_later (later : Later w desk after) (other : v ≠ w)
    (safe : StageSafe desk v (desk.stages v)) : StageSafe after v (desk.stages v) := by
  have grants := fun id since held => @unreaped_later desk after w id v since later held
  cases runs : desk.stages v with
  | leased id terms lease | unwanted id terms lease | undiscarded id terms lease =>
    rw [runs] at safe
    obtain ⟨own, drawn, fresh⟩ := safe
    exact ⟨own, Nat.lt_of_lt_of_le drawn later.drawn, unlisted_later later other own fresh⟩
  | revoking id | revoked id =>
    rw [runs] at safe
    exact later.stays safe
  | extending id hours =>
    rw [runs] at safe
    exact later.provisioned safe
  | granted id newExpiry since =>
    rw [runs] at safe grants
    exact ⟨later.provisioned safe.1, grants id since rfl safe.2⟩
  | found id newExpiry since row =>
    rw [runs] at safe grants
    obtain ⟨known, unreaped, monotone⟩ := safe
    refine ⟨later.provisioned known, grants id since rfl unreaped, ?_⟩
    intro last present
    obtain ⟨earlier, before, grows⟩ := later.rows id known last present
    exact Nat.le_trans (monotone earlier before) grows
  | sweeping candidates =>
    rw [runs] at safe
    exact fun id listed => later.stays (safe id listed)
  | reaped id candidates =>
    rw [runs] at safe
    exact ⟨later.stays safe.1, fun id listed => later.stays (safe.2 id listed)⟩
  | idle | recovering id row | recreated id lease | rowless id => trivial

theorem stages_safe (safe : LeasesSafe config desk) (later : Later w desk after)
    (others : ∀ v, v ≠ w → after.stages v = desk.stages v)
    (own : StageSafe after w (after.stages w)) (v : ProcessId) :
    StageSafe after v (after.stages v) := by
  by_cases same : v = w
  · rw [same]
    exact own
  · rw [others v same]
    exact stage_later later same (safe.stages v)

structure Quiet (before after : LeaseDesk) : Prop where
  rows : after.rows = before.rows
  provisioned : after.provisioned = before.provisioned
  marked : after.marked = before.marked
  drawn : before.drawn ≤ after.drawn
  extensions : after.extensions = before.extensions
  reapings : after.reapings = before.reapings

theorem Quiet.listed (quiet : Quiet desk after) : after.listed = desk.listed := by
  unfold LeaseDesk.listed
  rw [quiet.provisioned, quiet.marked]

theorem Quiet.later (quiet : Quiet desk after) (w : ProcessId) : Later w desk after where
  drawn := quiet.drawn
  provisioned := by rw [quiet.provisioned]; exact List.Subset.refl _
  stays := by rw [quiet.listed]; exact List.Subset.refl _
  listed id listed := Or.inl (quiet.listed ▸ listed)
  rows id _ row present := ⟨row, quiet.rows ▸ present, Nat.le_refl _⟩
  reapings reaping listed := Or.inl (quiet.reapings ▸ listed)

theorem quiet_safe (w : ProcessId) (safe : LeasesSafe config desk) (quiet : Quiet desk after)
    (others : ∀ v, v ≠ w → after.stages v = desk.stages v)
    (own : StageSafe after w (after.stages w))
    (tracked : ∀ id, (after.leases id).isSome → Tracked after id) : LeasesSafe config after := by
  constructor
  · intro id listed
    rw [quiet.listed] at listed
    exact Nat.lt_of_lt_of_le (safe.serials id listed) quiet.drawn
  · intro id row present
    rw [quiet.rows] at present
    constructor
    · rw [quiet.listed]
      exact (safe.rows id row present).listed
    · rw [quiet.provisioned]
      exact (safe.rows id row present).active
  · exact stages_safe safe (quiet.later w) others own
  · exact tracked
  · rw [quiet.reapings]
    exact safe.reapings
  · rw [quiet.extensions]
    intro extension listed
    constructor
    · rw [quiet.provisioned]
      exact (safe.extensions extension listed).provisioned
    · rw [quiet.rows]
      exact (safe.extensions extension listed).row
  · rw [quiet.extensions, quiet.reapings]
    exact safe.kept

theorem still_safe (safe : LeasesSafe config desk) (quiet : Quiet desk after)
    (stages : after.stages = desk.stages)
    (tracked : ∀ id, (after.leases id).isSome → Tracked after id) : LeasesSafe config after := by
  apply quiet_safe 0 safe quiet
  · intro v _
    rw [stages]
  · rw [stages]
    exact stage_later (quiet.later 1) Nat.zero_ne_one (safe.stages 0)
  · exact tracked

theorem tracked_goOn (tracked : Tracked desk id)
    (stages : after.stages = update desk.stages w stage)
    (rows : (desk.rows id).isSome → (after.rows id).isSome) (deletes : stage.deletes ≠ some id)
    (minds : (desk.stages w).minds = some id → stage.minds = some id ∨
      ((after.rows id).isSome ∧ ∀ v, v ≠ w → (desk.stages v).deletes ≠ some id)) :
    Tracked after id := by
  have free : (∀ v, v ≠ w → (desk.stages v).deletes ≠ some id) →
      ∀ v, (after.stages v).deletes ≠ some id := by
    intro others v
    rw [stages]
    by_cases same : v = w
    · rw [same, update_self]
      exact deletes
    · rw [update_of_ne same]
      exact others v same
  rcases tracked with ⟨present, undeleted⟩ | ⟨v, held⟩
  · exact Or.inl ⟨rows present, free fun v _ => undeleted v⟩
  by_cases same : v = w
  · rw [same] at held
    rcases minds held with still | ⟨present, others⟩
    · refine Or.inr ⟨w, ?_⟩
      rw [stages, update_self]
      exact still
    · exact Or.inl ⟨present, free others⟩
  · refine Or.inr ⟨v, ?_⟩
    rw [stages, update_of_ne same]
    exact held

theorem goOn_self : (desk.goOn w stage).stages w = stage := by
  simp only [LeaseDesk.goOn, update_self]

variable (safe : LeasesSafe config desk)
include safe

theorem goOn_safe (own : StageSafe desk w stage)
    (tracked : ∀ id, (desk.leases id).isSome → stage.deletes ≠ some id ∧
      ((desk.stages w).minds = some id → stage.minds = some id)) :
    LeasesSafe config (desk.goOn w stage) := by
  apply quiet_safe w safe
  · exact ⟨rfl, rfl, rfl, Nat.le_refl _, rfl, rfl⟩
  · intro v other
    exact update_of_ne other _ _
  · rw [goOn_self]
    exact own
  · intro id live
    obtain ⟨undeleted, minds⟩ := tracked id live
    exact tracked_goOn (safe.tracked id live) rfl (fun present => present) undeleted
      fun held => Or.inl (minds held)

theorem freely_safe (own : StageSafe desk w stage)
    (free : (desk.stages w).minds = none) (deletes : stage.deletes = none) :
    LeasesSafe config (desk.goOn w stage) := by
  apply goOn_safe safe own
  intro id _
  rw [free, deletes]
  exact ⟨nofun, nofun⟩

omit safe

/-! The daemon's calls leave the table as it is. -/

theorem setLease_safe {lease : Option Lease} (safe : LeasesSafe config desk)
    (tracked : lease.isSome → Tracked desk id) : LeasesSafe config (desk.setLease id lease) := by
  apply still_safe safe
  · exact ⟨rfl, rfl, rfl, Nat.le_refl _, rfl, rfl⟩
  · rfl
  · intro other live
    by_cases same : other = id
    · subst same
      simp only [LeaseDesk.setLease, update_self] at live
      exact tracked live
    · simp only [LeaseDesk.setLease, update_of_ne same] at live
      exact safe.tracked other live

theorem revokeLease_eq : revokeLease id reply desk =
    desk.setLease id (if reply.takes then none else desk.leases id) := by
  unfold revokeLease
  split
  · rfl
  · simp only [LeaseDesk.setLease, update_eq_self]

theorem revokeLease_live {reply : RevokeReply} {other : TunnelId}
    (live : ((revokeLease id reply desk).leases other).isSome) :
    (desk.leases other).isSome ∧ ¬ (other = id ∧ reply.takes = true) := by
  rw [revokeLease_eq] at live
  by_cases same : other = id
  · subst same
    simp only [LeaseDesk.setLease, update_self] at live
    split at live
    · cases live
    · rename_i kept
      exact ⟨live, fun both => kept both.2⟩
  · simp only [LeaseDesk.setLease, update_of_ne same] at live
    exact ⟨live, fun both => same both.1⟩

include safe

theorem revokeLease_safe (own : StageSafe desk w stage)
    (deletes : ∀ other, stage.deletes = some other → other = id ∧ reply.takes = true)
    (minds : ∀ other, (desk.stages w).minds = some other → stage.minds = some other ∨
      (other = id ∧ ((desk.leases id).isSome → reply.takes = true))) :
    LeasesSafe config ((revokeLease id reply desk).goOn w stage) := by
  have gone := fun other live => @revokeLease_live desk id reply other live
  rw [revokeLease_eq] at gone ⊢
  apply quiet_safe w safe
  · exact ⟨rfl, rfl, rfl, Nat.le_refl _, rfl, rfl⟩
  · intro v other
    exact update_of_ne other _ _
  · rw [goOn_self]
    exact own
  · intro other live
    obtain ⟨before, kept⟩ := gone other live
    refine tracked_goOn (safe.tracked other before) rfl (fun present => present) ?_ ?_
    · intro held
      exact kept (deletes other held)
    · intro held
      rcases minds other held with still | ⟨same, takes⟩
      · exact Or.inl still
      · subst same
        exact absurd ⟨rfl, takes before⟩ kept

theorem createLease_safe {reply : CreateReply}
    (tracked : reply ≠ .refused → Tracked desk id) :
    LeasesSafe config (createLease id fresh reply desk).1 := by
  cases reply with
  | refused => exact safe
  | unanswered | answered => exact setLease_safe safe fun _ => tracked nofun

theorem minded_safe {lease : Option Lease}
    (own : StageSafe desk w stage) (minds : stage.minds = some id) (deletes : stage.deletes = none)
    (free : (desk.stages w).minds = none) :
    LeasesSafe config ((desk.setLease id lease).goOn w stage) := by
  apply quiet_safe w safe
  · exact ⟨rfl, rfl, rfl, Nat.le_refl _, rfl, rfl⟩
  · intro v other
    exact update_of_ne other _ _
  · rw [goOn_self]
    exact own
  · intro other live
    by_cases same : other = id
    · refine Or.inr ⟨w, ?_⟩
      rw [goOn_self, minds, same]
    · simp only [LeaseDesk.goOn, LeaseDesk.setLease, update_of_ne same] at live
      refine tracked_goOn (safe.tracked other live) rfl (fun present => present) ?_ ?_
      · rw [deletes]
        exact nofun
      · rw [free]
        exact nofun

omit safe

/-! `provision` -/

theorem provision_safe {terms : TunnelTerms} {reply : CreateReply} (safe : LeasesSafe config desk)
    (runs : desk.stages w = .idle) (answered : reply ≠ .unanswered) :
    LeasesSafe config (provision w terms fresh reply desk) := by
  have unlisted : (⟨w, desk.drawn⟩ : TunnelId) ∉ desk.listed := by
    intro listed
    exact Nat.lt_irrefl _ (safe.serials _ listed)
  have drawn : LeasesSafe config { desk with drawn := desk.drawn + 1 } := by
    apply still_safe safe
    · exact ⟨rfl, rfl, rfl, Nat.le_succ _, rfl, rfl⟩
    · rfl
    · exact safe.tracked
  have free : (({ desk with drawn := desk.drawn + 1 } : LeaseDesk).stages w).minds = none := by
    rw [show _ = Stage.idle from runs]
    rfl
  cases reply with
  | refused => exact drawn
  | unanswered => exact absurd rfl answered
  | answered =>
    unfold provision createLease
    dsimp only
    split
    · exact minded_safe drawn ⟨rfl, Nat.lt_succ_self _, unlisted⟩ rfl rfl free
    · exact minded_safe drawn ⟨rfl, Nat.lt_succ_self _, unlisted⟩ rfl rfl free

structure Inserts (w : ProcessId) (id : TunnelId) (row : TunnelRow) (desk after : LeaseDesk) :
    Prop where
  rows : after.rows = update desk.rows id (some row)
  listed : ∀ other, other ∈ after.listed ↔ other = id ∨ other ∈ desk.listed
  provisioned : desk.provisioned ⊆ after.provisioned
  known : ∀ other ∈ after.provisioned, other ∈ desk.provisioned ∨
    (other = id ∧ row.status = .active)
  drawn : after.drawn = desk.drawn
  leases : after.leases = desk.leases
  stages : after.stages = update desk.stages w .idle
  extensions : after.extensions = desk.extensions
  reapings : after.reapings = desk.reapings

theorem Inserts.later (inserts : Inserts w id row desk after) (own : id.process = w)
    (fresh : id ∉ desk.listed) : Later w desk after where
  drawn := Nat.le_of_eq inserts.drawn.symm
  provisioned := inserts.provisioned
  stays other listed := (inserts.listed other).mpr (Or.inr listed)
  listed other listed := by
    rcases (inserts.listed other).mp listed with same | before
    · exact Or.inr (same ▸ own)
    · exact Or.inl before
  rows other known last present := by
    have ne : other ≠ id := fun same => fresh (same ▸ listed_provisioned known)
    rw [inserts.rows, update_of_ne ne] at present
    exact ⟨last, present, Nat.le_refl _⟩
  reapings reaping listed := Or.inl (inserts.reapings ▸ listed)

theorem deletes_listed (safe : LeasesSafe config desk) (v : ProcessId)
    (deletes : (desk.stages v).deletes = some id) : id ∈ desk.listed := by
  have own := safe.stages v
  cases runs : desk.stages v with
  | revoked other =>
    rw [runs] at own deletes
    cases deletes
    exact own
  | reaped other candidates =>
    rw [runs] at own deletes
    cases deletes
    exact own.1
  | _ =>
    rw [runs] at deletes
    cases deletes

theorem inserts_safe (row : TunnelRow) (safe : LeasesSafe config desk)
    (inserts : Inserts w id row desk after) (minds : (desk.stages w).minds = some id)
    (own : id.process = w ∧ id.serial < desk.drawn ∧ id ∉ desk.listed) :
    LeasesSafe config after := by
  obtain ⟨mine, drawn, fresh⟩ := own
  have later := inserts.later mine fresh
  have others : ∀ other, other ≠ id → after.rows other = desk.rows other := by
    intro other ne
    rw [inserts.rows, update_of_ne ne]
  constructor
  · intro other listed
    rw [inserts.drawn]
    rcases (inserts.listed other).mp listed with same | before
    · exact same ▸ drawn
    · exact safe.serials other before
  · intro other last present
    by_cases same : other = id
    · subst same
      rw [inserts.rows, update_self] at present
      cases present
      constructor
      · exact (inserts.listed other).mpr (Or.inl rfl)
      · intro known
        rcases inserts.known other known with before | ⟨_, active⟩
        · exact absurd (listed_provisioned before) fresh
        · exact active
    · rw [others other same] at present
      have kept := safe.rows other last present
      constructor
      · exact later.stays kept.listed
      · intro known
        rcases inserts.known other known with before | ⟨is, _⟩
        · exact kept.active before
        · exact absurd is same
  · apply stages_safe safe later
    · intro v other
      rw [inserts.stages, update_of_ne other]
    · rw [inserts.stages, update_self]
      trivial
  · intro other live
    rw [inserts.leases] at live
    refine tracked_goOn (safe.tracked other live) inserts.stages ?_ ?_ ?_
    · intro present
      by_cases same : other = id
      · rw [inserts.rows, same, update_self]
        rfl
      · rw [others other same]
        exact present
    · exact nofun
    · intro held
      -- nobody deletes a row that has never been there
      cases minds.symm.trans held
      refine Or.inr ⟨?_, fun v _ deletes => fresh (deletes_listed safe v deletes)⟩
      rw [inserts.rows, update_self]
      rfl
  · rw [inserts.reapings]
    exact safe.reapings
  · rw [inserts.extensions]
    intro extension listed
    have kept := safe.extensions extension listed
    constructor
    · exact inserts.provisioned kept.provisioned
    · intro last present
      have ne : extension.tunnelId ≠ id :=
        fun same => fresh (same ▸ listed_provisioned kept.provisioned)
      rw [others _ ne] at present
      exact kept.row last present
  · rw [inserts.extensions, inserts.reapings]
    exact safe.kept

section
variable {terms : TunnelTerms} {lease : Lease}

include safe

theorem insertRow_safe (runs : desk.stages w = .leased id terms lease) :
    LeasesSafe config (insertRow w id terms lease desk) := by
  have own := safe.stages w
  rw [runs] at own
  unfold insertRow
  split
  · refine goOn_safe safe own ?_
    intro other _
    rw [runs]
    exact ⟨nofun, fun held => held⟩
  · apply inserts_safe (newRow terms lease desk) safe _ (by rw [runs]; rfl) own
    constructor
    · rfl
    · intro other
      simp [LeaseDesk.listed, LeaseDesk.goOn, LeaseDesk.setRow]
    · exact List.subset_cons_self _ _
    · intro other known
      rcases List.mem_cons.mp known with same | before
      · exact Or.inr ⟨same, rfl⟩
      · exact Or.inl before
    all_goals rfl

theorem persistProvisionalMarker_safe (runs : desk.stages w = .undiscarded id terms lease) :
    LeasesSafe config (persistProvisionalMarker w id terms lease desk) := by
  have own := safe.stages w
  rw [runs] at own
  unfold persistProvisionalMarker
  apply inserts_safe { newRow terms lease desk with
    idempotencyKey := none
    status := .provisioning } safe _ (by rw [runs]; rfl) own
  constructor
  · rfl
  · intro other
    simp [LeaseDesk.listed, LeaseDesk.goOn, LeaseDesk.setRow, or_left_comm]
  · exact List.Subset.refl _
  · intro other known
    exact Or.inl known
  all_goals rfl

theorem discardLease_safe (runs : desk.stages w = .unwanted id terms lease) :
    LeasesSafe config (discardLease w id terms lease reply desk) := by
  have own := safe.stages w
  rw [runs] at own
  unfold discardLease
  split
  · rename_i confirmed
    refine revokeLease_safe safe trivial nofun ?_
    intro other held
    rw [runs] at held
    cases held
    exact Or.inr ⟨rfl, fun _ => confirmed ▸ rfl⟩
  · refine revokeLease_safe safe own nofun ?_
    intro other held
    rw [runs] at held
    exact Or.inl held

omit safe

end

/-! `recover_lease` -/

theorem recreateLease_safe {reply : CreateReply} (safe : LeasesSafe config desk)
    (runs : desk.stages w = .recovering id row)
    (answered : reply = .unanswered → (desk.leases id).isSome ∨
      ((desk.rows id).isSome ∧ ∀ v, (desk.stages v).deletes ≠ some id)) :
    LeasesSafe config (recreateLease w id fresh reply desk) := by
  have free : (desk.stages w).minds = none := by
    rw [runs]
    rfl
  unfold recreateLease
  cases reply with
  | refused => exact freely_safe safe trivial free rfl
  | unanswered =>
    have created : LeasesSafe config (createLease id fresh .unanswered desk).1 := by
      apply createLease_safe safe
      intro _
      rcases answered rfl with live | tracked
      · exact safe.tracked id live
      · exact Or.inl tracked
    exact freely_safe created trivial free rfl
  | answered => exact minded_safe safe trivial rfl rfl free

/-- The rows that stay keep their status, and their expiry grows. -/
structure Rewrites (w : ProcessId) (desk after : LeaseDesk) : Prop where
  rows : ∀ id row, after.rows id = some row → ∃ earlier, desk.rows id = some earlier ∧
    earlier.status = row.status ∧ earlier.expiresAt ≤ row.expiresAt
  provisioned : after.provisioned = desk.provisioned
  marked : after.marked = desk.marked
  drawn : after.drawn = desk.drawn
  others : ∀ v, v ≠ w → after.stages v = desk.stages v
  extensions : ∀ extension ∈ after.extensions, extension ∈ desk.extensions ∨
    (ExtensionSafe after extension ∧ UnreapedSince desk extension.tunnelId extension.since)
  reapings : after.reapings = desk.reapings

theorem Rewrites.listed (rewrites : Rewrites w desk after) : after.listed = desk.listed := by
  unfold LeaseDesk.listed
  rw [rewrites.provisioned, rewrites.marked]

theorem Rewrites.later (rewrites : Rewrites w desk after) : Later w desk after where
  drawn := Nat.le_of_eq rewrites.drawn.symm
  provisioned := by rw [rewrites.provisioned]; exact List.Subset.refl _
  stays := by rw [rewrites.listed]; exact List.Subset.refl _
  listed id listed := Or.inl (rewrites.listed ▸ listed)
  rows id _ row present := by
    obtain ⟨earlier, before, _, grows⟩ := rewrites.rows id row present
    exact ⟨earlier, before, grows⟩
  reapings reaping listed := Or.inl (rewrites.reapings ▸ listed)

include safe

theorem rewrites_safe (rewrites : Rewrites w desk after)
    (own : StageSafe after w (after.stages w))
    (tracked : ∀ id, (after.leases id).isSome → Tracked after id) : LeasesSafe config after := by
  constructor
  · intro id listed
    rw [rewrites.listed] at listed
    rw [rewrites.drawn]
    exact safe.serials id listed
  · intro id row present
    obtain ⟨earlier, before, status, _⟩ := rewrites.rows id row present
    have kept := safe.rows id earlier before
    constructor
    · rw [rewrites.listed]
      exact kept.listed
    · rw [rewrites.provisioned, ← status]
      exact kept.active
  · exact stages_safe safe rewrites.later rewrites.others own
  · exact tracked
  · rw [rewrites.reapings]
    exact safe.reapings
  · intro extension listed
    rcases rewrites.extensions extension listed with before | ⟨new, _⟩
    · have kept := safe.extensions extension before
      constructor
      · rw [rewrites.provisioned]
        exact kept.provisioned
      · intro row present
        obtain ⟨earlier, was, _, grows⟩ := rewrites.rows _ row present
        exact Nat.le_trans (kept.row earlier was) grows
    · exact new
  · rw [rewrites.reapings]
    intro extension listed reaping reaped same since
    rcases rewrites.extensions extension listed with before | ⟨_, unreaped⟩
    · exact safe.kept extension before reaping reaped same since
    · have early := unreaped reaping reaped same
      omega

theorem resyncRow_safe {lease : Lease}
    (runs : desk.stages w = .recreated id lease)
    (undeleted : (desk.rows id).isSome → (desk.leases id).isSome →
      ∀ v, (desk.stages v).deletes ≠ some id) :
    LeasesSafe config (resyncRow w id lease desk) := by
  unfold resyncRow
  cases present : desk.rows id with
  | none =>
    refine goOn_safe safe trivial ?_
    intro other _
    rw [runs]
    exact ⟨nofun, fun held => held⟩
  | some row =>
    rw [present] at undeleted
    have stays : ∀ other, (desk.rows other).isSome → ((desk.setRow id (some { row with
        tokenHash := lease.token
        endpoint := lease.endpoint })).rows other).isSome := by
      intro other was
      by_cases same : other = id
      · simp [LeaseDesk.setRow, same]
      · simpa [LeaseDesk.setRow, same] using was
    refine rewrites_safe (w := w) safe ?_ ?_ ?_
    · constructor
      · intro other last found
        rcases update_cases found with ⟨rfl, ⟨⟩⟩ | ⟨_, found⟩
        · exact ⟨row, present, rfl, Nat.le_refl _⟩
        · exact ⟨last, found, rfl, Nat.le_refl _⟩
      · rfl
      · rfl
      · rfl
      · intro v other
        exact update_of_ne other _ _
      · intro extension listed
        exact Or.inl listed
      · rfl
    · rw [goOn_self]
      trivial
    · intro other live
      refine tracked_goOn (safe.tracked other live) rfl (stays other) nofun ?_
      intro held
      rw [runs] at held
      cases held
      refine Or.inr ⟨stays id (present ▸ rfl), fun v _ => undeleted rfl live v⟩

omit safe

/-! `revoke` and `extend` -/

theorem sweepOn_deletes (candidates : List TunnelId) :
    (Stage.sweepOn candidates).deletes = none := by
  cases candidates <;> rfl

theorem sweepOn_safe (listed : ∀ id ∈ candidates, id ∈ desk.listed) :
    StageSafe desk w (.sweepOn candidates) := by
  cases candidates with
  | nil => trivial
  | cons id candidates => exact listed

include safe

theorem deleteRow_safe {next : Stage}
    (deletes : (desk.stages w).deletes = some id) (minds : (desk.stages w).minds = none)
    (own : StageSafe (desk.setRow id none) w next) (done : next.deletes = none) :
    LeasesSafe config (deleteRow w id next desk) := by
  have others : ∀ other, other ≠ id →
      (deleteRow w id next desk).rows other = desk.rows other := by
    intro other ne
    exact update_of_ne ne _ _
  refine rewrites_safe (w := w) safe ?_ ?_ ?_
  · constructor
    · intro other row found
      by_cases same : other = id
      · simp [deleteRow, LeaseDesk.goOn, LeaseDesk.setRow, same] at found
      · rw [others other same] at found
        exact ⟨row, found, rfl, Nat.le_refl _⟩
    · rfl
    · rfl
    · rfl
    · intro v other
      exact update_of_ne other _ _
    · intro extension listed
      exact Or.inl listed
    · rfl
  · unfold deleteRow
    rw [goOn_self]
    exact own
  · intro other live
    have tracked := safe.tracked other live
    by_cases same : other = id
    · -- the row was about to be deleted, so some call minds the lease
      rcases tracked with ⟨_, undeleted⟩ | ⟨v, held⟩
      · rw [same] at undeleted
        exact absurd deletes (undeleted w)
      · refine Or.inr ⟨v, ?_⟩
        have ne : v ≠ w := by
          intro acting
          rw [acting, minds] at held
          cases held
        rw [show (deleteRow w id next desk).stages v = desk.stages v from
          update_of_ne ne _ _]
        exact held
    · refine tracked_goOn tracked rfl ?_ ?_ ?_
      · rw [others other same]
        exact fun present => present
      · rw [done]
        exact nofun
      · rw [minds]
        exact nofun

theorem extendLease_safe {hours : Nat} {reply : Option (Option Time)}
    (runs : desk.stages w = .extending id hours) :
    LeasesSafe config (extendLease w id hours reply desk) := by
  have own := safe.stages w
  have free : (desk.stages w).minds = none := by
    rw [runs]
    rfl
  rw [runs] at own
  unfold extendLease
  split
  · rename_i present
    have live : (desk.leases id).isSome := by
      rw [present]
      rfl
    have granted : ∀ lease, LeasesSafe config (desk.setLease id (some lease)) := by
      intro lease
      exact setLease_safe safe fun _ => safe.tracked id live
    refine freely_safe (granted _) ⟨own, ?_⟩ free rfl
    intro reaping listed _
    exact safe.reapings reaping listed
  · exact freely_safe safe trivial free rfl

theorem findRow_safe {since : Nat}
    (runs : desk.stages w = .granted id newExpiry since) :
    LeasesSafe config (findRow w id newExpiry since desk) := by
  have own := safe.stages w
  have free : (desk.stages w).minds = none := by
    rw [runs]
    rfl
  rw [runs] at own
  unfold findRow
  split
  · exact freely_safe safe trivial free rfl
  rename_i row present
  refine freely_safe safe ⟨own.1, own.2, ?_⟩ free rfl
  intro later found
  cases present.symm.trans found
  exact Nat.le_refl _

omit safe

theorem advance_grows (row : TunnelRow) (newExpiry : Time) :
    row.expiresAt ≤ (row.advance newExpiry).expiresAt := by
  unfold TunnelRow.advance
  split
  · exact Nat.le_of_lt ‹_›
  · exact Nat.le_refl _

theorem advance_monotone {later : TunnelRow} (newExpiry : Time)
    (monotone : row.expiresAt ≤ later.expiresAt) :
    (row.advance newExpiry).expiresAt ≤ (later.advance newExpiry).expiresAt := by
  unfold TunnelRow.advance
  split
  · split
    · exact Nat.le_refl _
    · exact Nat.le_of_not_lt ‹_›
  · split
    · exact Nat.le_trans monotone (Nat.le_of_lt ‹_›)
    · exact monotone

theorem advanceRow_safe {since : Nat} (safe : LeasesSafe config desk)
    (runs : desk.stages w = .found id newExpiry since row) :
    LeasesSafe config (advanceRow w id newExpiry since row desk) := by
  have own := safe.stages w
  rw [runs] at own
  obtain ⟨known, unreaped, monotone⟩ := own
  have advanced : (advanceRow w id newExpiry since row desk).rows id =
      (desk.rows id).map (·.advance newExpiry) := update_self _ _ _
  have others : ∀ other, other ≠ id →
      (advanceRow w id newExpiry since row desk).rows other = desk.rows other := by
    intro other ne
    exact update_of_ne ne _ _
  refine rewrites_safe (w := w) safe ?_ ?_ ?_
  · constructor
    · intro other last found
      by_cases same : other = id
      · subst same
        rw [advanced, Option.map_eq_some_iff] at found
        obtain ⟨earlier, before, is⟩ := found
        subst is
        exact ⟨earlier, before, rfl, advance_grows earlier newExpiry⟩
      · rw [others other same] at found
        exact ⟨last, found, rfl, Nat.le_refl _⟩
    · rfl
    · rfl
    · rfl
    · intro v other
      exact update_of_ne other _ _
    · intro extension listed
      rcases List.mem_cons.mp listed with new | before
      · subst new
        refine Or.inr ⟨⟨known, ?_⟩, unreaped⟩
        intro last found
        -- the row of the table has grown at least as far as the row of the session
        rw [advanced, Option.map_eq_some_iff] at found
        obtain ⟨earlier, before, is⟩ := found
        rw [← is]
        exact advance_monotone newExpiry (monotone earlier before)
      · exact Or.inl before
    · rfl
  · unfold advanceRow
    rw [goOn_self]
    trivial
  · intro other live
    refine tracked_goOn (safe.tracked other live) rfl ?_ nofun ?_
    · intro present
      by_cases same : other = id
      · subst same
        rw [advanced, Option.isSome_map]
        exact present
      · rw [others other same]
        exact present
    · rw [runs]
      exact nofun

/-! `sweep_expiries` -/

include safe

theorem sweepExpiries_safe (runs : desk.stages w = .idle) :
    LeasesSafe config (sweepExpiries config w candidates desk) := by
  unfold sweepExpiries
  split
  · rename_i chosen
    refine freely_safe safe (sweepOn_safe ?_) ?_ (sweepOn_deletes candidates)
    · intro id listed
      have selected := (List.isPerm_iff.mp chosen).subset listed
      exact (List.mem_filter.mp selected).1
    · rw [runs]
      rfl
  · exact safe

theorem due_passed (due : desk.due config id = true)
    {extension : Extension} (listed : extension ∈ desk.extensions)
    (same : id = extension.tunnelId) :
    extension.expiresAt + config.grace < desk.now := by
  subst same
  have own := safe.extensions extension listed
  unfold LeaseDesk.due at due
  split at due
  · cases due
  rename_i row present
  have active := (safe.rows _ row present).active own.provisioned
  have grown := own.row row present
  rw [active] at due
  simp only [reduceCtorEq, decide_false, Bool.false_and, Bool.or_false,
    decide_eq_true_eq] at due
  exact Nat.lt_of_le_of_lt (Nat.add_le_add_right grown config.grace) due

theorem reaping_safe (due : desk.due config id = true)
    (free : ∀ v, (desk.stages v).grants ≠ some id) :
    LeasesSafe config
      { desk with reapings := ⟨id, desk.now, desk.reapings.length⟩ :: desk.reapings } := by
  have later (w : ProcessId) : Later w desk
      { desk with reapings := ⟨id, desk.now, desk.reapings.length⟩ :: desk.reapings } := by
    constructor
    · exact Nat.le_refl _
    · exact List.Subset.refl _
    · exact List.Subset.refl _
    · intro other listed
      exact Or.inl listed
    · intro other _ row present
      exact ⟨row, present, Nat.le_refl _⟩
    · intro reaping listed
      rcases List.mem_cons.mp listed with new | before
      · subst new
        exact Or.inr free
      · exact Or.inl before
  constructor
  · exact safe.serials
  · intro other row present
    exact ⟨(safe.rows other row present).listed, (safe.rows other row present).active⟩
  · intro v
    have kept := stage_later (later (v + 1)) (Nat.ne_of_lt (Nat.lt_succ_self v)) (safe.stages v)
    exact kept
  · exact safe.tracked
  · intro reaping listed
    rcases List.mem_cons.mp listed with new | before
    · subst new
      exact Nat.lt_succ_self _
    · exact Nat.lt_succ_of_lt (safe.reapings reaping before)
  · intro extension listed
    exact ⟨(safe.extensions extension listed).provisioned, (safe.extensions extension listed).row⟩
  · intro extension listed reaping reaped same since
    rcases List.mem_cons.mp reaped with new | before
    · subst new
      exact due_passed safe due listed same
    · exact safe.kept extension listed reaping before same since

theorem reap_safe (runs : desk.stages w = .sweeping (id :: candidates))
    (timely : reply.takes = true → (desk.leases id).isSome →
      desk.due config id = true ∧ ∀ v, (desk.stages v).grants ≠ some id) :
    LeasesSafe config (reap w id candidates reply desk) := by
  have own := safe.stages w
  rw [runs] at own
  have first : id ∈ desk.listed := own id List.mem_cons_self
  have rest : ∀ other ∈ candidates, other ∈ desk.listed :=
    fun other listed => own other (List.mem_cons_of_mem _ listed)
  have goesOn : ∀ reaped : LeaseDesk, LeasesSafe config reaped → reaped.listed = desk.listed →
      reaped.stages = desk.stages → LeasesSafe config ((revokeLease id reply reaped).goOn w
        (if reply = .confirmed then .reaped id candidates else .sweepOn candidates)) := by
    intro reaped counted listed stages
    have free : ∀ other, (reaped.stages w).minds ≠ some other := by
      rw [stages, runs]
      exact fun other => nofun
    split
    · rename_i confirmed
      refine revokeLease_safe counted ?_ ?_ fun other held => absurd held (free other)
      · rw [← listed] at first rest
        exact ⟨first, rest⟩
      · intro other held
        cases held
        exact ⟨rfl, confirmed ▸ rfl⟩
    · refine revokeLease_safe counted ?_ ?_ fun other held => absurd held (free other)
      · apply sweepOn_safe
        rw [listed]
        exact rest
      · rw [sweepOn_deletes]
        exact fun other => nofun
  unfold reap
  split
  · rename_i taken
    rw [Bool.and_eq_true] at taken
    obtain ⟨due, free⟩ := timely taken.1 taken.2
    exact goesOn _ (reaping_safe safe due free) rfl rfl
  · exact goesOn desk safe rfl rfl

omit safe

theorem leaseStep_safe (step : LeaseStep) (safe : LeasesSafe config desk)
    (untangled : Untangled config step desk) : LeasesSafe config (leaseStep config step desk) := by
  cases step with
  | tick =>
    apply still_safe safe
    · exact ⟨rfl, rfl, rfl, Nat.le_refl _, rfl, rfl⟩
    · rfl
    · exact safe.tracked
  | lapse id =>
    apply setLease_safe safe
    intro live
    cases live
  | provision w terms fresh reply =>
    simp only [leaseStep]
    split
    · exact provision_safe safe ‹_› untangled
    · exact safe
  | insert w =>
    simp only [leaseStep]
    split
    · exact insertRow_safe safe ‹_›
    · exact safe
  | discard w reply =>
    simp only [leaseStep]
    split
    · exact discardLease_safe safe ‹_›
    · exact safe
  | mark w =>
    simp only [leaseStep]
    split
    · exact persistProvisionalMarker_safe safe ‹_›
    · exact safe
  | recover w id =>
    simp only [leaseStep]
    split
    · rename_i runs
      unfold recoverLease
      split
      · exact safe
      · refine freely_safe safe trivial ?_ rfl
        rw [runs]
        rfl
    · exact safe
  | recreate w fresh reply =>
    simp only [leaseStep]
    simp only [Untangled] at untangled
    split
    · rename_i runs
      rw [runs] at untangled
      exact recreateLease_safe safe runs untangled
    · exact safe
  | resync w =>
    simp only [leaseStep]
    simp only [Untangled] at untangled
    split
    · rename_i runs
      rw [runs] at untangled
      exact resyncRow_safe safe runs untangled
    · exact safe
  | tidy w reply =>
    simp only [leaseStep]
    simp only [Untangled] at untangled
    split
    · rename_i runs
      rw [runs] at untangled
      refine revokeLease_safe safe trivial (fun _ held => by cases held) ?_
      intro other held
      rw [runs] at held
      cases held
      exact Or.inr ⟨rfl, untangled⟩
    · exact safe
  | revoke w id =>
    simp only [leaseStep]
    split
    · rename_i runs
      unfold startRevoke
      split
      · refine freely_safe safe (listed_provisioned ‹_›) ?_ rfl
        rw [runs]
        rfl
      · exact safe
    · exact safe
  | tearDown w reply =>
    have own := safe.stages w
    simp only [leaseStep]
    split
    · rename_i id runs
      rw [runs] at own
      have free : ∀ other, (desk.stages w).minds ≠ some other := by
        rw [runs]
        exact fun other => by simp [Stage.minds]
      split
      · rename_i confirmed
        refine revokeLease_safe safe own ?_ fun other held => absurd held (free other)
        intro other held
        cases held
        exact ⟨rfl, confirmed ▸ rfl⟩
      · exact revokeLease_safe safe trivial (fun _ held => by cases held)
          fun other held => absurd held (free other)
    · exact safe
  | delete w =>
    have own := safe.stages w
    simp only [leaseStep]
    split
    · rename_i runs
      exact deleteRow_safe safe (by rw [runs]; rfl) (by rw [runs]; rfl) True.intro rfl
    · rename_i id candidates runs
      rw [runs] at own
      refine deleteRow_safe safe (by rw [runs]; rfl) (by rw [runs]; rfl) ?_ ?_
      · exact sweepOn_safe own.2
      · exact sweepOn_deletes candidates
    · exact safe
  | extend w id hours =>
    simp only [leaseStep]
    split
    · rename_i runs
      unfold startExtend
      split
      · rename_i known
        refine freely_safe safe known ?_ rfl
        rw [runs]
        rfl
      · exact safe
    · exact safe
  | grant w reply =>
    simp only [leaseStep]
    split
    · exact extendLease_safe safe ‹_›
    · exact safe
  | find w =>
    simp only [leaseStep]
    split
    · exact findRow_safe safe ‹_›
    · exact safe
  | advance w =>
    simp only [leaseStep]
    split
    · exact advanceRow_safe safe ‹_›
    · exact safe
  | sweep w candidates =>
    simp only [leaseStep]
    split
    · exact sweepExpiries_safe safe ‹_›
    · exact safe
  | reap w reply =>
    simp only [leaseStep]
    simp only [Untangled] at untangled
    split
    · rename_i runs
      rw [runs] at untangled
      exact reap_safe safe runs untangled
    · exact safe

end Safety

theorem safe_kept {config : TunnelConfig} {desk : LeaseDesk} (safe : LeasesSafe config desk) :
    LeasesKept config desk := by
  constructor
  · intro idle id live
    rcases safe.tracked id live with ⟨present, _⟩ | ⟨v, held⟩
    · exact present
    · rw [idle v] at held
      cases held
  · exact safe.kept

/-- In every run whose steps are untangled every lease keeps its row, and every extension
its time. -/
theorem leases_kept (config : TunnelConfig) (desk : LeaseDesk) (steps : List LeaseStep)
    (start : LeaseStart desk) (admitted : (untangledLeases config).admits desk steps) :
    LeasesKept config ((untangledLeases config).run desk steps) := by
  have begins : LeasesSafe config desk := by
    constructor
    · exact start.serials
    · exact fun id row present => ⟨start.listed id row present,
        fun known => start.active id known row present⟩
    · intro w
      rw [start.stages w]
      trivial
    · intro id live
      refine Or.inl ⟨start.tracked id live, fun v => ?_⟩
      rw [start.stages v]
      exact nofun
    · rw [start.reapings]
      exact nofun
    · rw [start.extensions]
      exact nofun
    · rw [start.extensions]
      exact nofun
  apply safe_kept
  exact @Protocol.run_keeps _ _ (untangledLeases config) (LeasesSafe config)
    (fun step _ safe untangled => leaseStep_safe step safe untangled) steps desk begins admitted

def briefTunnels : TunnelConfig := ⟨1, 1⟩

def emptyLeases : LeaseDesk where
  now := 0
  rows _ := none
  provisioned := []
  marked := []
  leases _ := none
  stages _ := .idle
  drawn := 0
  extensions := []
  reapings := []

theorem emptyLeases_start : LeaseStart emptyLeases where
  stages _ := rfl
  extensions := rfl
  reapings := rfl
  serials _ none := by cases none
  listed _ _ none := by cases none
  active _ none := by cases none
  tracked _ none := by cases none

def firstTunnel : TunnelId := ⟨0, 0⟩

def firstLease : Lease := ⟨some 9, 0, some 2⟩

def provisionFirst : List LeaseStep :=
  [.provision 0 ⟨1, [], none⟩ firstLease .answered, .insert 0]

/-- The recovery creates the lease again between the daemon's revocation and the deletion of
the row. -/
def revokedWhileRecovered : List LeaseStep :=
  provisionFirst ++ [.revoke 1 firstTunnel, .recover 2 firstTunnel, .tearDown 1 .confirmed,
    .recreate 2 firstLease .answered, .resync 2, .delete 1]

/-- The lease of a revoked tunnel lives on without a row. -/
theorem recovered_lease_orphaned : ¬ LeasesKept briefTunnels
    ((tunnelLeases briefTunnels).run emptyLeases revokedWhileRecovered) := by
  intro kept
  have idle : ∀ w, ((tunnelLeases briefTunnels).run emptyLeases
      revokedWhileRecovered).stages w = .idle := by
    intro w
    rcases w with _ | _ | _ | w <;> rfl
  have present := kept.tracked idle firstTunnel rfl
  cases present

/-- A lease that the daemon has lost is recovered, after its time has been extended, and the
sweep ends it when it is due. -/
def extendedTunnel : List LeaseStep :=
  provisionFirst ++ [.extend 1 firstTunnel 1, .grant 1 (some (some 3)), .find 1, .advance 1,
    .lapse firstTunnel, .recover 2 firstTunnel, .recreate 2 firstLease .answered, .resync 2,
    .tick, .tick, .tick, .tick, .tick, .sweep 3 [firstTunnel], .reap 3 .confirmed, .delete 3]

theorem extended_tunnel_kept : LeasesKept briefTunnels
    ((untangledLeases briefTunnels).run emptyLeases extendedTunnel) := by
  apply leases_kept briefTunnels emptyLeases extendedTunnel emptyLeases_start
  refine ⟨nofun, trivial, trivial, trivial, trivial, trivial, trivial, trivial, ?_, ?_, trivial,
    trivial, trivial, trivial, trivial, trivial, ?_, trivial, trivial⟩
  · exact nofun
  · intro _ _ v
    rcases v with _ | _ | _ | v <;> exact nofun
  · intro _ _
    refine ⟨rfl, fun v => ?_⟩
    rcases v with _ | _ | _ | _ | v <;> exact nofun

end HyruleCloud.TunnelLeases
