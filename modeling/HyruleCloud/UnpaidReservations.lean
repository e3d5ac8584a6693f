import HyruleCloud.Protocol
import HyruleCloud.ReadCommitted
import HyruleCloud.Store

/-!
Reservations before the payment, orchestrator.py: `reserve_vm_with_capacity`,
`activate_vm_reservation`, `release_vm_reservation` and the purge of `check_expiries`.
Every statement is a step; transactions run under read-committed isolation, and a step
whose statement waits for a row changes nothing. Account locks are a check here.
-/

namespace HyruleCloud.UnpaidReservations

open Interaction ReadCommitted Function

structure ReservedVm where
  ownerWallet : Option Wallet := none
  ownerAccountId : Option AccountId
  status : VMStatus := .provisioning
  deletionStarted : Bool := false
  createdAt : Time
  deriving DecidableEq

structure ClaimedDomain where
  vmId : Option VmId
  vmIpv6 : Option Nat
  deriving DecidableEq

/-- Where the transaction of a process stands, after the statement of its name. -/
inductive Session where
  | idle
  | inserted (vm : VmId)
  | candidate (vm : VmId) (owner : Option AccountId)
  | activated (vm : VmId)
  | read (vm : VmId)
  | unclaimed (vm : VmId)
  | deleted (vm : VmId)
  | selected (stale : List VmId)
  | cleared (stale freed : List VmId)
  | swept (stale freed : List VmId)

/-- `activations` are the VMs whose activation has committed, `overtaken` those whose
activation has committed since the first statement of a release or of a purge. -/
structure ReservationDesk where
  now : Time
  vms : LockedTable ProcessId VmId ReservedVm
  domains : LockedTable ProcessId Fqdn ClaimedDomain
  sessions : ProcessId → Session
  activations : List VmId
  overtaken : ProcessId → List VmId

namespace ReservationDesk

variable (desk : ReservationDesk) (w : ProcessId)

def goOn (session : Session) : ReservationDesk :=
  { desk with sessions := update desk.sessions w session }

/-- The first statement of a transaction that relies on what it reads. -/
def begin (session : Session) : ReservationDesk :=
  { desk with
    sessions := update desk.sessions w session
    overtaken := update desk.overtaken w [] }

def abort : ReservationDesk :=
  { desk with
    vms := desk.vms.rollback w
    domains := desk.domains.rollback w
    sessions := update desk.sessions w .idle }

end ReservationDesk

def Session.activates : Session → List VmId
  | .activated vm => [vm]
  | _ => []

def ReservationDesk.finish (desk : ReservationDesk) (w : ProcessId) : ReservationDesk :=
  { desk with
    vms := desk.vms.commit w
    domains := desk.domains.commit w
    sessions := update desk.sessions w .idle
    activations := (desk.sessions w).activates ++ desk.activations
    overtaken := fun v => (desk.sessions w).activates ++ desk.overtaken v }

/-- The insert of `_insert_vm_row`; a row that is there is returned as it is. -/
def reserveVm (w : ProcessId) (vm : VmId) (owner : Option AccountId) (desk : ReservationDesk) :
    ReservationDesk :=
  if desk.vms.waits w [vm] then desk
  else match desk.vms.view w vm with
    | some _ => desk
    | none =>
      let row : ReservedVm := { ownerAccountId := owner, createdAt := desk.now }
      { desk with vms := desk.vms.write w [vm] fun _ => some row }.goOn w (.inserted vm)

/-! `activate_vm_reservation` -/

def readCandidate (w : ProcessId) (vm : VmId) (desk : ReservationDesk) : ReservationDesk :=
  match desk.vms.view w vm with
  | none => desk
  | some row => desk.goOn w (.candidate vm row.ownerAccountId)

/-- The row is locked, then written; `enabled` iff no owner is disabled. -/
def activateVm (w : ProcessId) (vm : VmId) (expected : Option AccountId) (wallet : Wallet)
    (account : Option AccountId) (enabled : Bool) (desk : ReservationDesk) : ReservationDesk :=
  if !enabled then desk.abort w
  else if desk.vms.waits w [vm] then desk
  else match desk.vms.view w vm with
    | none => desk.abort w
    | some row =>
      if row.ownerAccountId ≠ expected then desk.abort w
      else
        let activated : ReservedVm := { row with
          ownerWallet := some wallet
          ownerAccountId := row.ownerAccountId.orElse fun _ => account }
        { desk with vms := desk.vms.write w [vm] fun _ => some activated }.goOn w (.activated vm)

/-! `release_vm_reservation` -/

def ReservedVm.isUnpaid (row : ReservedVm) : Bool :=
  row.ownerWallet.isNone && row.status = .provisioning

def readReservation (w : ProcessId) (vm : VmId) (desk : ReservationDesk) : ReservationDesk :=
  match desk.vms.view w vm with
  | none => desk
  | some row => if row.isUnpaid then desk.begin w (.read vm) else desk

def ClaimedDomain.unclaim (domain : ClaimedDomain) : ClaimedDomain :=
  if domain.vmIpv6 = none then { domain with vmId := none } else domain

/-- `scalar_one_or_none` raises where two domains are claimed. -/
def unclaimDomain (w : ProcessId) (vm : VmId) (desk : ReservationDesk) : ReservationDesk :=
  match desk.domains.select w fun domain => domain.vmId = some vm with
  | [] => desk.goOn w (.unclaimed vm)
  | [fqdn] =>
    if desk.domains.waits w [fqdn] then desk
    else
      let unclaimed (key : Fqdn) := (desk.domains.view w key).map ClaimedDomain.unclaim
      { desk with domains := desk.domains.write w [fqdn] unclaimed }.goOn w (.unclaimed vm)
  | _ => desk.abort w

def deleteVm (w : ProcessId) (vm : VmId) (desk : ReservationDesk) : ReservationDesk :=
  if desk.vms.waits w [vm] then desk
  else if (desk.vms.view w vm).isNone then desk.goOn w (.deleted vm)
  else { desk with vms := desk.vms.write w [vm] fun _ => none }.goOn w (.deleted vm)

def ReservedVm.isReservation (row : ReservedVm) : Bool :=
  row.isUnpaid && !row.deletionStarted

def ReservedVm.isStale (passNow : Time) (row : ReservedVm) : Bool :=
  row.isReservation && decide (row.createdAt + 15 * 60 < passNow)

/-- The pass has taken its time `elapsed` seconds before. -/
def selectStale (w : ProcessId) (elapsed : Time) (desk : ReservationDesk) : ReservationDesk :=
  match desk.vms.select w (ReservedVm.isStale (desk.now - elapsed)) with
  | [] => desk
  | stale => desk.begin w (.selected stale)

def ClaimedDomain.isClaimedBy (stale : List VmId) (domain : ClaimedDomain) : Bool :=
  domain.vmIpv6.isNone && domain.vmId.any (stale.contains ·)

def clearClaims (w : ProcessId) (stale : List VmId) (desk : ReservationDesk) : ReservationDesk :=
  let fqdns := desk.domains.select w (ClaimedDomain.isClaimedBy stale)
  if desk.domains.waits w fqdns then desk
  else
    let before (fqdn : Fqdn) := desk.domains.view w fqdn
    let written (fqdn : Fqdn) := (before fqdn).map fun domain => { domain with vmId := none }
    { desk with domains := desk.domains.write w fqdns written }.goOn w
      (.cleared stale (fqdns.filterMap fun fqdn => (before fqdn).bind ClaimedDomain.vmId))

def sweepStale (w : ProcessId) (stale freed : List VmId) (desk : ReservationDesk) :
    ReservationDesk :=
  let doomed := stale.filter fun vm => (desk.vms.view w vm).any ReservedVm.isReservation
  if desk.vms.waits w doomed then desk
  else { desk with vms := desk.vms.write w doomed fun _ => none }.goOn w (.swept stale freed)

/-- `claim_vm_attachment` -/
def claimDomain (w : ProcessId) (fqdn : Fqdn) (vm : VmId) (desk : ReservationDesk) :
    ReservationDesk :=
  if desk.domains.waits w [fqdn] then desk
  else match desk.domains.view w fqdn with
    | none => desk
    | some domain =>
      if domain.vmId.isSome then desk
      else
        let claimed : ClaimedDomain := ⟨some vm, none⟩
        { desk with domains := desk.domains.write w [fqdn] fun _ => some claimed }.finish w

/-- The commit of `attach_vm`. -/
def attachDomain (w : ProcessId) (fqdn : Fqdn) (vm : VmId) (ipv6 : Nat) (desk : ReservationDesk) :
    ReservationDesk :=
  if desk.domains.waits w [fqdn] then desk
  else match desk.domains.view w fqdn with
    | none => desk
    | some domain =>
      if domain.vmId ≠ none ∧ domain.vmId ≠ some vm then desk
      else
        let attached : ClaimedDomain := ⟨some vm, some ipv6⟩
        { desk with domains := desk.domains.write w [fqdn] fun _ => some attached }.finish w

def moveVm (w : ProcessId) (vm : VmId) (status : VMStatus) (deletionStarted : Bool)
    (desk : ReservationDesk) : ReservationDesk :=
  if desk.vms.waits w [vm] then desk
  else match desk.vms.view w vm with
    | none => desk
    | some row =>
      let moved : ReservedVm := { row with status := status, deletionStarted := deletionStarted }
      { desk with vms := desk.vms.write w [vm] fun _ => some moved }.finish w

inductive ReservationStep where
  | tick (elapsed : Time)
  | reserve (w : ProcessId) (vm : VmId) (owner : Option AccountId)
  | candidate (w : ProcessId) (vm : VmId)
  | activate (w : ProcessId) (wallet : Wallet) (account : Option AccountId) (enabled : Bool)
  | read (w : ProcessId) (vm : VmId)
  | unclaim (w : ProcessId)
  | delete (w : ProcessId)
  | select (w : ProcessId) (elapsed : Time)
  | clear (w : ProcessId)
  | sweep (w : ProcessId)
  | commit (w : ProcessId)
  | rollback (w : ProcessId)
  | claim (w : ProcessId) (fqdn : Fqdn) (vm : VmId)
  | attach (w : ProcessId) (fqdn : Fqdn) (vm : VmId) (ipv6 : Nat)
  | move (w : ProcessId) (vm : VmId) (status : VMStatus) (deletionStarted : Bool)

def reservationStep (step : ReservationStep) (desk : ReservationDesk) : ReservationDesk :=
  match step with
  | .tick elapsed => { desk with now := desk.now + elapsed }
  | .reserve w vm owner => match desk.sessions w with
      | .idle => reserveVm w vm owner desk
      | _ => desk
  | .candidate w vm => match desk.sessions w with
      | .idle => readCandidate w vm desk
      | _ => desk
  | .activate w wallet account enabled => match desk.sessions w with
      | .candidate vm owner => activateVm w vm owner wallet account enabled desk
      | _ => desk
  | .read w vm => match desk.sessions w with
      | .idle => readReservation w vm desk
      | _ => desk
  | .unclaim w => match desk.sessions w with
      | .read vm => unclaimDomain w vm desk
      | _ => desk
  | .delete w => match desk.sessions w with
      | .unclaimed vm => deleteVm w vm desk
      | _ => desk
  | .select w elapsed => match desk.sessions w with
      | .idle => selectStale w elapsed desk
      | _ => desk
  | .clear w => match desk.sessions w with
      | .selected stale => clearClaims w stale desk
      | _ => desk
  | .sweep w => match desk.sessions w with
      | .cleared stale freed => sweepStale w stale freed desk
      | _ => desk
  | .commit w => match desk.sessions w with
      | .inserted _ | .activated _ | .deleted _ | .swept _ _ => desk.finish w
      | _ => desk
  | .rollback w => desk.abort w
  | .claim w fqdn vm => match desk.sessions w with
      | .idle => claimDomain w fqdn vm desk
      | _ => desk
  | .attach w fqdn vm ipv6 => match desk.sessions w with
      | .idle => attachDomain w fqdn vm ipv6 desk
      | _ => desk
  | .move w vm status deletionStarted => match desk.sessions w with
      | .idle => moveVm w vm status deletionStarted desk
      | _ => desk

def reservations : Protocol ReservationDesk ReservationStep := ⟨reservationStep, fun _ _ => True⟩

/-- The VMs that a transaction deletes, or whose claims it clears, if it commits. -/
def Session.takes : Session → List VmId
  | .deleted vm => [vm]
  | .swept _ freed => freed
  | _ => []

/-- No activation of a VM has committed since the release, or the purge that clears its
claim, has looked at the row. -/
def InTime (step : ReservationStep) (desk : ReservationDesk) : Prop :=
  match step with
  | .commit w => ∀ vm ∈ (desk.sessions w).takes, vm ∉ desk.overtaken w
  | _ => True

def timelyReservations : Protocol ReservationDesk ReservationStep := ⟨reservationStep, InTime⟩

def Owned (desk : ReservationDesk) (vm : VmId) : Prop :=
  ∃ row, desk.vms.committed vm = some row ∧ row.ownerWallet.isSome

def Claims (desk : ReservationDesk) (fqdn : Fqdn) (vm : VmId) : Prop :=
  ∃ domain, desk.domains.committed fqdn = some domain ∧ domain.vmId = some vm

structure ReservationsKept (mid final : ReservationDesk) : Prop where
  vms : ∀ vm, Owned mid vm → Owned final vm
  claims : ∀ vm, Owned mid vm → ∀ fqdn, Claims mid fqdn vm → Claims final fqdn vm
  activated : ∀ vm ∈ final.activations, Owned final vm

structure ReservationStart (desk : ReservationDesk) : Prop where
  vms : ∀ vm, desk.vms.drafts vm = none
  domains : ∀ fqdn, desk.domains.drafts fqdn = none
  sessions : ∀ w, desk.sessions w = .idle
  activations : desk.activations = []

/-! What the open transactions may come to. -/

def Session.foundUnpaid : Session → List VmId
  | .read vm | .unclaimed vm | .deleted vm => [vm]
  | .selected stale | .cleared stale _ | .swept stale _ => stale
  | _ => []

/-- The VMs whose claims are cleared in the drafts of a transaction. -/
def Session.unclaims : Session → List VmId
  | .unclaimed vm | .deleted vm => [vm]
  | .cleared _ freed | .swept _ freed => freed
  | _ => []

/-- The transaction holds no activation and no delete of a release. -/
def Session.isEarly : Session → Bool
  | .activated _ | .deleted _ => false
  | _ => true

/-- Only the delete of a release takes a row from its owner, and only an activation
gives it one. -/
def DraftSafe (desk : ReservationDesk) (session : Session) (vm : VmId) (draft : Option ReservedVm) :
    Prop :=
  match draft with
  | none => session = .deleted vm ∨ ¬ Owned desk vm
  | some row => (Owned desk vm → row.ownerWallet.isSome) ∧
      (row.ownerWallet.isSome → Owned desk vm ∨ session = .activated vm)

def ClaimSafe (desk : ReservationDesk) (session : Session) (fqdn : Fqdn)
    (draft : Option ClaimedDomain) : Prop :=
  ∀ vm, Claims desk fqdn vm →
    (∃ domain, draft = some domain ∧ domain.vmId = some vm) ∨ vm ∈ session.unclaims

structure SessionSafe (desk : ReservationDesk) (w : ProcessId) : Prop where
  vm : ∀ vm draft, desk.vms.drafts vm = some (w, draft) → DraftSafe desk (desk.sessions w) vm draft
  domain : ∀ fqdn draft, desk.domains.drafts fqdn = some (w, draft) →
    ClaimSafe desk (desk.sessions w) fqdn draft
  unpaid : ∀ vm ∈ (desk.sessions w).foundUnpaid, vm ∉ desk.overtaken w → ¬ Owned desk vm
  unclaims : (desk.sessions w).unclaims ⊆ (desk.sessions w).foundUnpaid
  activated : ∀ vm, desk.sessions w = .activated vm →
    ∃ row, desk.vms.drafts vm = some (w, some row) ∧ row.ownerWallet.isSome

structure ReservationsSafe (desk : ReservationDesk) : Prop where
  sessions : ∀ w, SessionSafe desk w
  activations : ∀ vm ∈ desk.activations, Owned desk vm

structure OwnersKept (before after : ReservationDesk) : Prop where
  vms : ∀ vm, Owned before vm → Owned after vm
  claims : ∀ vm, Owned before vm → ∀ fqdn, Claims before fqdn vm → Claims after fqdn vm

theorem ownersKept_refl (desk : ReservationDesk) : OwnersKept desk desk :=
  ⟨fun _ owned => owned, fun _ _ _ claims => claims⟩

theorem ownersKept_trans (a b c : ReservationDesk) (first : OwnersKept a b)
    (rest : OwnersKept b c) : OwnersKept a c where
  vms vm owned := rest.vms vm (first.vms vm owned)
  claims vm owned fqdn claims :=
    rest.claims vm (first.vms vm owned) fqdn (first.claims vm owned fqdn claims)

def StepKept (before after : ReservationDesk) : Prop :=
  ReservationsSafe after ∧ OwnersKept before after

variable {fqdn : Fqdn} {row : ReservedVm}

variable {vm : VmId}

section Steps
variable {desk after : ReservationDesk} {w v : ProcessId} {session : Session}

theorem stepKept_refl (safe : ReservationsSafe desk) : StepKept desk desk :=
  ⟨safe, ownersKept_refl desk⟩

/-- A step of `w` that is not a commit. -/
structure Statement (w : ProcessId) (before after : ReservationDesk) : Prop where
  vms : after.vms.committed = before.vms.committed
  domains : after.domains.committed = before.domains.committed
  activations : after.activations = before.activations
  sessions : ∀ v ≠ w, after.sessions v = before.sessions v
  overtaken : ∀ v ≠ w, after.overtaken v = before.overtaken v
  vmDrafts : ∀ v ≠ w, ∀ vm draft,
    after.vms.drafts vm = some (v, draft) ↔ before.vms.drafts vm = some (v, draft)
  domainDrafts : ∀ v ≠ w, ∀ fqdn draft,
    after.domains.drafts fqdn = some (v, draft) ↔ before.domains.drafts fqdn = some (v, draft)

theorem statement_owned (stated : Statement w desk after) (vm : VmId) :
    Owned after vm ↔ Owned desk vm := by
  unfold Owned
  rw [stated.vms]

theorem statement_claims (stated : Statement w desk after) (fqdn : Fqdn) (vm : VmId) :
    Claims after fqdn vm ↔ Claims desk fqdn vm := by
  unfold Claims
  rw [stated.domains]

structure Leaves (v : ProcessId) (before after : ReservationDesk) : Prop where
  session : after.sessions v = before.sessions v
  overtaken : before.overtaken v ⊆ after.overtaken v
  vmDrafts : ∀ vm draft,
    after.vms.drafts vm = some (v, draft) ↔ before.vms.drafts vm = some (v, draft)
  domainDrafts : ∀ fqdn draft,
    after.domains.drafts fqdn = some (v, draft) ↔ before.domains.drafts fqdn = some (v, draft)
  owned : ∀ vm draft, before.vms.drafts vm = some (v, draft) → (Owned after vm ↔ Owned before vm)
  claims : ∀ fqdn draft, before.domains.drafts fqdn = some (v, draft) →
    ∀ vm, Claims after fqdn vm → Claims before fqdn vm
  unpaid : ∀ vm, vm ∉ after.overtaken v → Owned after vm → Owned before vm

theorem leaves_safe (safe : SessionSafe desk v) (leaves : Leaves v desk after) :
    SessionSafe after v where
  vm vm draft held := by
    rw [leaves.vmDrafts] at held
    have same := leaves.owned vm draft held
    have before := safe.vm vm draft held
    rw [leaves.session]
    cases draft with
    | none => exact before.imp_right fun unowned owned => unowned (same.mp owned)
    | some row =>
      exact ⟨fun owned => before.1 (same.mp owned),
        fun paid => (before.2 paid).imp_left same.mpr⟩
  domain fqdn draft held vm claims := by
    rw [leaves.domainDrafts] at held
    rw [leaves.session]
    exact safe.domain fqdn draft held vm (leaves.claims fqdn draft held vm claims)
  unpaid vm found intime owned := by
    rw [leaves.session] at found
    exact safe.unpaid vm found (fun late => intime (leaves.overtaken late))
      (leaves.unpaid vm intime owned)
  unclaims := by
    rw [leaves.session]
    exact safe.unclaims
  activated vm runs := by
    rw [leaves.session] at runs
    obtain ⟨row, held, paid⟩ := safe.activated vm runs
    exact ⟨row, (leaves.vmDrafts vm _).mpr held, paid⟩

theorem statement_leaves (stated : Statement w desk after) (apart : v ≠ w) :
    Leaves v desk after where
  session := stated.sessions v apart
  overtaken := by rw [stated.overtaken v apart]; exact fun _ late => late
  vmDrafts := stated.vmDrafts v apart
  domainDrafts := stated.domainDrafts v apart
  owned vm _ _ := statement_owned stated vm
  claims fqdn _ _ vm := (statement_claims stated fqdn vm).mp
  unpaid vm _ := (statement_owned stated vm).mp

theorem statement_kept (safe : ReservationsSafe desk) (stated : Statement w desk after)
    (own : SessionSafe after w) : StepKept desk after := by
  refine ⟨⟨fun v => ?_, fun vm listed => ?_⟩, ⟨fun vm => ?_, fun vm _ fqdn => ?_⟩⟩
  · by_cases mine : v = w
    · subst mine
      exact own
    · exact leaves_safe (safe.sessions v) (statement_leaves stated mine)
  · rw [stated.activations] at listed
    exact (statement_owned stated vm).mpr (safe.activations vm listed)
  · exact (statement_owned stated vm).mpr
  · exact (statement_claims stated fqdn vm).mpr

theorem goOn_statement : Statement w desk (desk.goOn w session) where
  vms := rfl
  domains := rfl
  activations := rfl
  sessions _ apart := update_of_ne apart _ _
  overtaken _ _ := rfl
  vmDrafts _ _ _ _ := Iff.rfl
  domainDrafts _ _ _ _ := Iff.rfl

theorem begin_statement : Statement w desk (desk.begin w session) where
  vms := rfl
  domains := rfl
  activations := rfl
  sessions _ apart := update_of_ne apart _ _
  overtaken _ apart := update_of_ne apart _ _
  vmDrafts _ _ _ _ := Iff.rfl
  domainDrafts _ _ _ _ := Iff.rfl

theorem abort_statement : Statement w desk (desk.abort w) where
  vms := rfl
  domains := rfl
  activations := rfl
  sessions _ apart := update_of_ne apart _ _
  overtaken _ _ := rfl
  vmDrafts _ apart _ _ := LockedTable.rollback_drafts.trans (and_iff_right apart)
  domainDrafts _ apart _ _ := LockedTable.rollback_drafts.trans (and_iff_right apart)

theorem vms_statement {vms : List VmId} {row : VmId → Option ReservedVm}
    (free : desk.vms.waits w vms = false) :
    Statement w desk ({ desk with vms := desk.vms.write w vms row }.goOn w session) where
  vms := rfl
  domains := rfl
  activations := rfl
  sessions _ apart := update_of_ne apart _ _
  overtaken _ _ := rfl
  vmDrafts _ apart _ _ := LockedTable.write_other apart free
  domainDrafts _ _ _ _ := Iff.rfl

theorem domains_statement {fqdns : List Fqdn} {row : Fqdn → Option ClaimedDomain}
    (free : desk.domains.waits w fqdns = false) :
    Statement w desk ({ desk with domains := desk.domains.write w fqdns row }.goOn w session) where
  vms := rfl
  domains := rfl
  activations := rfl
  sessions _ apart := update_of_ne apart _ _
  overtaken _ _ := rfl
  vmDrafts _ _ _ _ := Iff.rfl
  domainDrafts _ apart _ _ := LockedTable.write_other apart free

theorem draft_moves {draft : Option ReservedVm} {before : Session}
    (early : before.isEarly) (safe : DraftSafe desk before vm draft) :
    DraftSafe desk session vm draft := by
  cases draft with
  | none =>
    rcases safe with rfl | unowned
    · cases early
    · exact Or.inr unowned
  | some row =>
    refine ⟨safe.1, fun paid => ?_⟩
    rcases safe.2 paid with owned | rfl
    · exact Or.inl owned
    · cases early

structure Moves (w : ProcessId) (session : Session) (before after : ReservationDesk) : Prop where
  early : (before.sessions w).isEarly
  runs : after.sessions w = session
  vmDrafts : ∀ vm draft, after.vms.drafts vm = some (w, draft) →
    before.vms.drafts vm = some (w, draft) ∨ DraftSafe before session vm draft
  domainDrafts : ∀ fqdn draft, after.domains.drafts fqdn = some (w, draft) →
    before.domains.drafts fqdn = some (w, draft) ∨ ClaimSafe before session fqdn draft
  unpaid : ∀ vm ∈ session.foundUnpaid, vm ∉ after.overtaken w → ¬ Owned before vm
  grows : (before.sessions w).unclaims ⊆ session.unclaims
  unclaims : session.unclaims ⊆ session.foundUnpaid
  activated : ∀ vm, session = .activated vm →
    ∃ row, after.vms.drafts vm = some (w, some row) ∧ row.ownerWallet.isSome

theorem moves_safe (safe : SessionSafe desk w) (stated : Statement w desk after)
    (moves : Moves w session desk after) : SessionSafe after w where
  vm vm draft held := by
    have same := statement_owned stated vm
    have before : DraftSafe desk session vm draft := by
      rcases moves.vmDrafts vm draft held with old | new
      · exact draft_moves moves.early (safe.vm vm draft old)
      · exact new
    rw [moves.runs]
    cases draft with
    | none => exact before.imp_right fun unowned owned => unowned (same.mp owned)
    | some row =>
      exact ⟨fun owned => before.1 (same.mp owned),
        fun paid => (before.2 paid).imp_left same.mpr⟩
  domain fqdn draft held vm claims := by
    rw [statement_claims stated] at claims
    rw [moves.runs]
    rcases moves.domainDrafts fqdn draft held with old | new
    · exact (safe.domain fqdn draft old vm claims).imp_right fun freed => moves.grows freed
    · exact new vm claims
  unpaid vm found intime owned := by
    rw [moves.runs] at found
    exact moves.unpaid vm found intime ((statement_owned stated vm).mp owned)
  unclaims := by
    rw [moves.runs]
    exact moves.unclaims
  activated vm runs := by
    rw [moves.runs] at runs
    exact moves.activated vm runs

theorem moves_kept (safe : ReservationsSafe desk) (stated : Statement w desk after)
    (moves : Moves w session desk after) : StepKept desk after :=
  statement_kept safe stated (moves_safe (safe.sessions w) stated moves)

theorem ended_safe (ended : after.sessions w = .idle)
    (vms : ∀ vm draft, after.vms.drafts vm ≠ some (w, draft))
    (domains : ∀ fqdn draft, after.domains.drafts fqdn ≠ some (w, draft)) :
    SessionSafe after w where
  vm vm draft held := absurd held (vms vm draft)
  domain fqdn draft held := absurd held (domains fqdn draft)
  unpaid vm found := by
    rw [ended] at found
    cases found
  unclaims := by
    rw [ended]
    exact List.Subset.refl _
  activated vm runs := by
    rw [ended] at runs
    cases runs

theorem abort_kept (safe : ReservationsSafe desk) : StepKept desk (desk.abort w) := by
  refine statement_kept safe abort_statement (ended_safe ?_ ?_ ?_)
  · exact update_self _ _ _
  · exact fun vm draft held => (LockedTable.rollback_drafts.mp held).1 rfl
  · exact fun fqdn draft held => (LockedTable.rollback_drafts.mp held).1 rfl

/-- A transaction that ends here clears no claims but those that it takes. -/
def Session.isLast : Session → Bool
  | .idle | .inserted _ | .activated _ | .deleted _ | .swept _ _ => true
  | _ => false

theorem last_unclaims (last : session.isLast) : session.unclaims = session.takes := by
  cases session with
  | idle | inserted | activated | deleted | swept => rfl
  | candidate | read | unclaimed | selected | cleared => cases last

section
variable (safe : SessionSafe desk w) (last : (desk.sessions w).isLast)
  (intime : ∀ vm ∈ (desk.sessions w).takes, vm ∉ desk.overtaken w) {vm : VmId}
include safe last intime

theorem takes_unowned (taken : vm ∈ (desk.sessions w).takes) : ¬ Owned desk vm := by
  have found := safe.unclaims (last_unclaims last ▸ taken)
  exact safe.unpaid vm found (intime vm taken)

theorem finish_owned (owned : Owned desk vm) : Owned (desk.finish w) vm := by
  by_cases held : ∃ draft, desk.vms.drafts vm = some (w, draft)
  · obtain ⟨draft, held⟩ := held
    have kept := safe.vm vm draft held
    cases draft with
    | none =>
      rcases kept with deletes | unowned
      · have taken : vm ∈ (desk.sessions w).takes := by
          rw [deletes]
          exact List.mem_singleton_self vm
        exact absurd owned (takes_unowned safe last intime taken)
      · exact absurd owned unowned
    | some row => exact ⟨row, LockedTable.commit_held held, kept.1 owned⟩
  · push Not at held
    obtain ⟨row, found, paid⟩ := owned
    exact ⟨row, (LockedTable.commit_free held).trans found, paid⟩

end

theorem owned_finish (safe : SessionSafe desk w) (owned : Owned (desk.finish w) vm) :
    Owned desk vm ∨ desk.sessions w = .activated vm := by
  obtain ⟨row, found, paid⟩ := owned
  by_cases held : ∃ draft, desk.vms.drafts vm = some (w, draft)
  · obtain ⟨draft, held⟩ := held
    have same : draft = some row := (LockedTable.commit_held held).symm.trans found
    subst same
    exact (safe.vm vm _ held).2 paid
  · push Not at held
    exact Or.inl ⟨row, (LockedTable.commit_free held).symm.trans found, paid⟩

section
variable (safe : SessionSafe desk w) (last : (desk.sessions w).isLast)
  (intime : ∀ vm ∈ (desk.sessions w).takes, vm ∉ desk.overtaken w)
include safe last intime

theorem finish_claims (owned : Owned desk vm) (claims : Claims desk fqdn vm) :
    Claims (desk.finish w) fqdn vm := by
  by_cases held : ∃ draft, desk.domains.drafts fqdn = some (w, draft)
  · obtain ⟨draft, held⟩ := held
    rcases safe.domain fqdn draft held vm claims with ⟨domain, rfl, kept⟩ | freed
    · exact ⟨domain, LockedTable.commit_held held, kept⟩
    · rw [last_unclaims last] at freed
      exact absurd owned (takes_unowned safe last intime freed)
  · push Not at held
    obtain ⟨domain, found, kept⟩ := claims
    exact ⟨domain, (LockedTable.commit_free held).trans found, kept⟩

theorem finish_leaves (apart : v ≠ w) :
    Leaves v desk (desk.finish w) where
  session := update_of_ne apart _ _
  overtaken _ late := List.mem_append_right _ late
  vmDrafts _ _ := LockedTable.rollback_drafts.trans (and_iff_right apart)
  domainDrafts _ _ := LockedTable.rollback_drafts.trans (and_iff_right apart)
  owned vm draft held := by
    have same := LockedTable.commit_other apart held
    exact ⟨fun ⟨row, found, paid⟩ => ⟨row, same.symm.trans found, paid⟩,
      finish_owned safe last intime⟩
  claims fqdn draft held vm := by
    rintro ⟨domain, found, kept⟩
    have same := LockedTable.commit_other apart held
    exact ⟨domain, same.symm.trans found, kept⟩
  unpaid vm intime owned := by
    rcases owned_finish safe owned with before | activates
    · exact before
    · refine absurd (List.mem_append_left _ ?_) intime
      rw [activates]
      exact List.mem_singleton_self vm

end

theorem finish_kept (safe : ReservationsSafe desk) (last : (desk.sessions w).isLast)
    (intime : ∀ vm ∈ (desk.sessions w).takes, vm ∉ desk.overtaken w) :
    StepKept desk (desk.finish w) := by
  have mine := safe.sessions w
  refine ⟨⟨fun v => ?_, fun vm listed => ?_⟩,
    ⟨fun vm => finish_owned mine last intime,
      fun vm owned fqdn => finish_claims mine last intime owned⟩⟩
  · by_cases same : v = w
    · subst same
      refine ended_safe (update_self _ _ _) ?_ ?_
      · exact fun vm draft held => (LockedTable.rollback_drafts.mp held).1 rfl
      · exact fun fqdn draft held => (LockedTable.rollback_drafts.mp held).1 rfl
    · exact leaves_safe (safe.sessions v) (finish_leaves mine last intime same)
  · rcases List.mem_append.mp listed with new | old
    · have runs : desk.sessions w = .activated vm := by
        generalize desk.sessions w = session at new
        cases session with
        | activated other =>
          cases List.mem_singleton.mp new
          rfl
        | _ => cases new
      obtain ⟨row, held, paid⟩ := mine.activated vm runs
      exact ⟨row, LockedTable.commit_held held, paid⟩
    · exact finish_owned mine last intime (safe.activations vm old)

theorem view_owned (safe : SessionSafe desk w) (found : desk.vms.view w vm = some row)
    (owned : Owned desk vm) : row.ownerWallet.isSome := by
  by_cases held : ∃ draft, desk.vms.drafts vm = some (w, draft)
  · obtain ⟨draft, held⟩ := held
    rw [LockedTable.view_held held] at found
    subst found
    exact (safe.vm vm _ held).1 owned
  · push Not at held
    rw [LockedTable.view_free held] at found
    obtain ⟨stored, there, paid⟩ := owned
    rw [there] at found
    cases found
    exact paid

theorem view_paid (safe : SessionSafe desk w) (early : (desk.sessions w).isEarly)
    (found : desk.vms.view w vm = some row) (paid : row.ownerWallet.isSome) : Owned desk vm := by
  by_cases held : ∃ draft, desk.vms.drafts vm = some (w, draft)
  · obtain ⟨draft, held⟩ := held
    rw [LockedTable.view_held held] at found
    subst found
    rcases (safe.vm vm _ held).2 paid with owned | activates
    · exact owned
    · rw [activates] at early
      cases early
  · push Not at held
    rw [LockedTable.view_free held] at found
    exact ⟨row, found, paid⟩

theorem view_missing (safe : SessionSafe desk w) (early : (desk.sessions w).isEarly)
    (missing : desk.vms.view w vm = none) : ¬ Owned desk vm := by
  by_cases held : ∃ draft, desk.vms.drafts vm = some (w, draft)
  · obtain ⟨draft, held⟩ := held
    rw [LockedTable.view_held held] at missing
    subst missing
    rcases safe.vm vm _ held with deletes | unowned
    · rw [deletes] at early
      cases early
    · exact unowned
  · push Not at held
    rw [LockedTable.view_free held] at missing
    rintro ⟨row, found, _⟩
    rw [missing] at found
    cases found

theorem view_claims (safe : SessionSafe desk w) (none : (desk.sessions w).unclaims = [])
    (claims : Claims desk fqdn vm) :
    ∃ domain, desk.domains.view w fqdn = some domain ∧ domain.vmId = some vm := by
  by_cases held : ∃ draft, desk.domains.drafts fqdn = some (w, draft)
  · obtain ⟨draft, held⟩ := held
    rw [LockedTable.view_held held]
    rcases safe.domain fqdn draft held vm claims with kept | freed
    · exact kept
    · rw [none] at freed
      cases freed
  · push Not at held
    rw [LockedTable.view_free held]
    exact claims

variable (safe : ReservationsSafe desk)

section
variable {vm : VmId}

theorem unpaid_unowned (safe : SessionSafe desk w) (found : desk.vms.view w vm = some row)
    (unpaid : row.isUnpaid) : ¬ Owned desk vm := by
  intro owned
  have paid := view_owned safe found owned
  simp only [ReservedVm.isUnpaid, Bool.and_eq_true, Option.isNone_iff_eq_none] at unpaid
  rw [unpaid.1] at paid
  cases paid

include safe

theorem reserveVm_kept {owner : Option AccountId}
    (idle : desk.sessions w = .idle) : StepKept desk (reserveVm w vm owner desk) := by
  have early : (desk.sessions w).isEarly := by rw [idle]; rfl
  unfold reserveVm
  split
  · exact stepKept_refl safe
  rename_i free
  split
  · exact stepKept_refl safe
  rename_i missing
  refine moves_kept safe (vms_statement (Bool.eq_false_iff.mpr free)) ⟨early,
    update_self _ _ _, ?_, fun _ _ => Or.inl, nofun, ?_, List.Subset.refl _, nofun⟩
  · refine fun _ _ => LockedTable.write_either fun other mine => ?_
    cases List.mem_singleton.mp mine
    have unowned := view_missing (safe.sessions w) early missing
    exact ⟨fun owned => absurd owned unowned, nofun⟩
  · rw [idle]
    exact List.Subset.refl _

theorem readCandidate_kept
    (idle : desk.sessions w = .idle) : StepKept desk (readCandidate w vm desk) := by
  unfold readCandidate
  split
  · exact stepKept_refl safe
  refine moves_kept safe goOn_statement ⟨?_, update_self _ _ _, fun _ _ => Or.inl,
    fun _ _ => Or.inl, nofun, ?_, List.Subset.refl _, nofun⟩
  · rw [idle]
    rfl
  · rw [idle]
    exact List.Subset.refl _

theorem activateVm_kept {expected account : Option AccountId} {wallet : Wallet}
    {enabled : Bool}
    (runs : desk.sessions w = .candidate vm expected) :
    StepKept desk (activateVm w vm expected wallet account enabled desk) := by
  have early : (desk.sessions w).isEarly := by rw [runs]; rfl
  unfold activateVm
  split
  · exact abort_kept safe
  split
  · exact stepKept_refl safe
  rename_i free
  split
  · exact abort_kept safe
  split
  · exact abort_kept safe
  refine moves_kept safe (vms_statement (Bool.eq_false_iff.mpr free)) ⟨early,
    update_self _ _ _, ?_, fun _ _ => Or.inl, nofun, ?_, List.Subset.refl _, ?_⟩
  · refine fun _ _ => LockedTable.write_either fun other mine => ?_
    cases List.mem_singleton.mp mine
    exact ⟨fun _ => rfl, fun _ => Or.inr rfl⟩
  · rw [runs]
    exact List.Subset.refl _
  · intro other same
    cases same
    exact ⟨_, if_pos (List.mem_singleton_self vm), rfl⟩

theorem readReservation_kept
    (idle : desk.sessions w = .idle) : StepKept desk (readReservation w vm desk) := by
  unfold readReservation
  split
  · exact stepKept_refl safe
  rename_i row found
  split
  · rename_i unpaid
    refine moves_kept safe begin_statement ⟨?_, update_self _ _ _, fun _ _ => Or.inl,
      fun _ _ => Or.inl, ?_, ?_, nofun, nofun⟩
    · rw [idle]
      rfl
    · intro other listed _
      cases List.mem_singleton.mp listed
      exact unpaid_unowned (safe.sessions w) found unpaid
    · rw [idle]
      exact List.Subset.refl _
  · exact stepKept_refl safe

theorem unclaimDomain_kept
    (runs : desk.sessions w = .read vm) : StepKept desk (unclaimDomain w vm desk) := by
  have early : (desk.sessions w).isEarly := by rw [runs]; rfl
  have unpaid : ∀ other ∈ (Session.unclaimed vm).foundUnpaid, other ∉ desk.overtaken w →
      ¬ Owned desk other := by
    intro other listed
    exact (safe.sessions w).unpaid other (by rw [runs]; exact listed)
  have grows : (desk.sessions w).unclaims ⊆ (Session.unclaimed vm).unclaims := by
    rw [runs]
    exact List.nil_subset _
  unfold unclaimDomain
  split
  · exact moves_kept safe goOn_statement ⟨early, update_self _ _ _, fun _ _ => Or.inl,
      fun _ _ => Or.inl, unpaid, grows, List.Subset.refl _, nofun⟩
  · rename_i fqdn chosen
    split
    · exact stepKept_refl safe
    rename_i free
    refine moves_kept safe (domains_statement (Bool.eq_false_iff.mpr free)) ⟨early,
      update_self _ _ _, fun _ _ => Or.inl, ?_, unpaid, grows, List.Subset.refl _, nofun⟩
    refine fun _ _ => LockedTable.write_either fun other mine claimant claims => ?_
    cases List.mem_singleton.mp mine
    have selected : fqdn ∈ desk.domains.select w fun domain => domain.vmId = some vm := by
      rw [chosen]
      exact List.mem_singleton_self fqdn
    obtain ⟨domain, found, kept⟩ := view_claims (safe.sessions w) (by rw [runs]; rfl) claims
    have fits := (List.mem_filter.mp selected).2
    simp only [found, Option.any_some, decide_eq_true_eq, kept] at fits
    cases fits
    exact Or.inr (List.mem_singleton_self vm)
  · exact abort_kept safe

theorem deleteVm_kept
    (runs : desk.sessions w = .unclaimed vm) : StepKept desk (deleteVm w vm desk) := by
  have early : (desk.sessions w).isEarly := by rw [runs]; rfl
  have unpaid : ∀ other ∈ (Session.deleted vm).foundUnpaid, other ∉ desk.overtaken w →
      ¬ Owned desk other := by
    intro other listed
    exact (safe.sessions w).unpaid other (by rw [runs]; exact listed)
  have grows : (desk.sessions w).unclaims ⊆ (Session.deleted vm).unclaims := by
    rw [runs]
    exact List.Subset.refl _
  unfold deleteVm
  split
  · exact stepKept_refl safe
  rename_i free
  split
  · exact moves_kept safe goOn_statement ⟨early, update_self _ _ _, fun _ _ => Or.inl,
      fun _ _ => Or.inl, unpaid, grows, List.Subset.refl _, nofun⟩
  · refine moves_kept safe (vms_statement (Bool.eq_false_iff.mpr free)) ⟨early,
      update_self _ _ _, ?_, fun _ _ => Or.inl, unpaid, grows, List.Subset.refl _, nofun⟩
    refine fun _ _ => LockedTable.write_either fun other mine => ?_
    cases List.mem_singleton.mp mine
    exact Or.inl rfl

omit safe

end

include safe

theorem selectStale_kept {elapsed : Time}
    (idle : desk.sessions w = .idle) : StepKept desk (selectStale w elapsed desk) := by
  unfold selectStale
  split
  · exact stepKept_refl safe
  refine moves_kept safe begin_statement ⟨?_, update_self _ _ _, fun _ _ => Or.inl,
    fun _ _ => Or.inl, ?_, ?_, List.nil_subset _, nofun⟩
  · rw [idle]
    rfl
  · intro vm listed _
    obtain ⟨row, found, stale⟩ := (Option.any_eq_true _ _).mp (List.mem_filter.mp listed).2
    simp only [ReservedVm.isStale, ReservedVm.isReservation, Bool.and_eq_true] at stale
    exact unpaid_unowned (safe.sessions w) found stale.1.1
  · rw [idle]
    exact List.nil_subset _

theorem clearClaims_kept {stale : List VmId}
    (runs : desk.sessions w = .selected stale) : StepKept desk (clearClaims w stale desk) := by
  unfold clearClaims
  dsimp only
  split
  · exact stepKept_refl safe
  rename_i free
  refine moves_kept safe (domains_statement (Bool.eq_false_iff.mpr free)) ⟨?_,
    update_self _ _ _, fun _ _ => Or.inl, ?_, ?_, ?_, ?_, nofun⟩
  · rw [runs]
    rfl
  · refine fun _ _ => LockedTable.write_either fun fqdn mine => ?_
    refine fun vm claims => Or.inr ?_
    obtain ⟨domain, found, kept⟩ := view_claims (safe.sessions w) (by rw [runs]; rfl) claims
    refine List.mem_filterMap.mpr ⟨fqdn, mine, ?_⟩
    rw [found]
    exact kept
  · intro vm listed
    exact (safe.sessions w).unpaid vm (by rw [runs]; exact listed)
  · rw [runs]
    exact List.nil_subset _
  · intro vm freed
    obtain ⟨fqdn, selected, claimed⟩ := List.mem_filterMap.mp freed
    obtain ⟨domain, found, fits⟩ := (Option.any_eq_true _ _).mp (List.mem_filter.mp selected).2
    simp only [found, Option.bind_some] at claimed
    simp only [ClaimedDomain.isClaimedBy, claimed, Option.any_some, Bool.and_eq_true,
      List.contains_iff_mem] at fits
    exact fits.2

theorem sweepStale_kept {stale freed : List VmId}
    (runs : desk.sessions w = .cleared stale freed) :
    StepKept desk (sweepStale w stale freed desk) := by
  unfold sweepStale
  dsimp only
  split
  · exact stepKept_refl safe
  rename_i free
  refine moves_kept safe (vms_statement (Bool.eq_false_iff.mpr free)) ⟨?_,
    update_self _ _ _, ?_, fun _ _ => Or.inl, ?_, ?_, ?_, nofun⟩
  · rw [runs]
    rfl
  · refine fun _ _ => LockedTable.write_either fun vm mine => ?_
    obtain ⟨row, found, fits⟩ := (Option.any_eq_true _ _).mp (List.mem_filter.mp mine).2
    simp only [ReservedVm.isReservation, Bool.and_eq_true] at fits
    exact Or.inr (unpaid_unowned (safe.sessions w) found fits.1)
  · intro vm listed
    exact (safe.sessions w).unpaid vm (by rw [runs]; exact listed)
  · rw [runs]
    exact List.Subset.refl _
  · have before := (safe.sessions w).unclaims
    rw [runs] at before
    exact before

omit safe

theorem single_kept (idle : after.sessions w = .idle) (kept : StepKept desk (after.goOn w .idle)) :
    StepKept desk (after.finish w) := by
  have same : after.goOn w .idle = after := by
    simp only [ReservationDesk.goOn, ← idle, update_eq_self]
  rw [same] at kept
  have ends := finish_kept (w := w) kept.1 (by rw [idle]; rfl) (by rw [idle]; nofun)
  exact ⟨ends.1, ownersKept_trans _ _ _ kept.2 ends.2⟩

include safe

theorem writeDomain_kept {domain row : ClaimedDomain} (idle : desk.sessions w = .idle)
    (free : desk.domains.waits w [fqdn] = false) (found : desk.domains.view w fqdn = some domain)
    (keeps : ∀ claimant, domain.vmId = some claimant → row.vmId = some claimant) : StepKept desk
      ({ desk with domains := desk.domains.write w [fqdn] fun _ => some row }.finish w) := by
  refine single_kept idle (moves_kept safe (domains_statement free)
    ⟨?_, update_self _ _ _, fun _ _ => Or.inl, ?_, nofun, ?_, List.Subset.refl _, nofun⟩)
  · rw [idle]
    rfl
  · refine fun _ _ => LockedTable.write_either fun other mine => ?_
    cases List.mem_singleton.mp mine
    refine fun claimant claims => Or.inl ⟨_, rfl, ?_⟩
    obtain ⟨seen, there, kept⟩ := view_claims (safe.sessions w) (by rw [idle]; rfl) claims
    rw [found] at there
    cases there
    exact keeps claimant kept
  · rw [idle]
    exact List.Subset.refl _

theorem claimDomain_kept (idle : desk.sessions w = .idle) :
    StepKept desk (claimDomain w fqdn vm desk) := by
  unfold claimDomain
  split
  · exact stepKept_refl safe
  rename_i free
  split
  · exact stepKept_refl safe
  rename_i domain found
  split
  · exact stepKept_refl safe
  rename_i unclaimed
  exact writeDomain_kept safe idle (Bool.eq_false_iff.mpr free) found fun claimant claimed =>
    absurd (Option.isSome_of_eq_some claimed) unclaimed

theorem attachDomain_kept {ipv6 : Nat}
    (idle : desk.sessions w = .idle) : StepKept desk (attachDomain w fqdn vm ipv6 desk) := by
  unfold attachDomain
  split
  · exact stepKept_refl safe
  rename_i free
  split
  · exact stepKept_refl safe
  rename_i domain found
  split
  · exact stepKept_refl safe
  rename_i ours
  refine writeDomain_kept safe idle (Bool.eq_false_iff.mpr free) found fun claimant claimed => ?_
  by_contra apart
  refine ours ⟨?_, fun same => apart (same.symm.trans claimed)⟩
  rw [claimed]
  nofun

theorem moveVm_kept {status : VMStatus} {deletionStarted : Bool}
    (idle : desk.sessions w = .idle) :
    StepKept desk (moveVm w vm status deletionStarted desk) := by
  have early : (desk.sessions w).isEarly := by rw [idle]; rfl
  unfold moveVm
  split
  · exact stepKept_refl safe
  rename_i free
  split
  · exact stepKept_refl safe
  rename_i row found
  refine single_kept idle (moves_kept safe (vms_statement (Bool.eq_false_iff.mpr free))
    ⟨early, update_self _ _ _, ?_, fun _ _ => Or.inl, nofun, ?_, List.Subset.refl _,
      nofun⟩)
  · refine fun _ _ => LockedTable.write_either fun other mine => ?_
    cases List.mem_singleton.mp mine
    have keeps : Owned desk vm → row.ownerWallet.isSome := view_owned (safe.sessions w) found
    exact ⟨keeps, fun paid => Or.inl (view_paid (safe.sessions w) early found paid)⟩
  · rw [idle]
    exact List.Subset.refl _

omit safe

theorem reservationStep_kept (step : ReservationStep) (safe : ReservationsSafe desk)
    (intime : InTime step desk) : StepKept desk (reservationStep step desk) := by
  cases step
  case tick elapsed =>
    refine ⟨⟨fun v => ?_, safe.activations⟩, fun _ owned => owned, fun _ _ _ claims => claims⟩
    exact { safe.sessions v with }
  case commit w =>
    simp only [reservationStep]
    split
    all_goals first
      | exact stepKept_refl safe
      | exact finish_kept safe (by simp only [*]; rfl) intime
  case rollback w => exact abort_kept safe
  -- the other statements are made in one stage of the session only
  all_goals
    simp only [reservationStep]
    split
    swap
    · exact stepKept_refl safe
  · exact reserveVm_kept safe ‹_›
  · exact readCandidate_kept safe ‹_›
  · exact activateVm_kept safe ‹_›
  · exact readReservation_kept safe ‹_›
  · exact unclaimDomain_kept safe ‹_›
  · exact deleteVm_kept safe ‹_›
  · exact selectStale_kept safe ‹_›
  · exact clearClaims_kept safe ‹_›
  · exact sweepStale_kept safe ‹_›
  · exact claimDomain_kept safe ‹_›
  · exact attachDomain_kept safe ‹_›
  · exact moveVm_kept safe ‹_›

end Steps

theorem start_safe {desk : ReservationDesk} (start : ReservationStart desk) :
    ReservationsSafe desk where
  sessions w := by
    refine ended_safe (start.sessions w) ?_ ?_
    · intro vm draft
      rw [start.vms vm]
      nofun
    · intro fqdn draft
      rw [start.domains fqdn]
      nofun
  activations vm listed := by
    rw [start.activations] at listed
    cases listed

/-- In every run in which releases and purges are in time, an activated VM keeps its row
and its domains. -/
theorem activated_vms_kept (desk : ReservationDesk) (first rest : List ReservationStep)
    (start : ReservationStart desk)
    (admitted : timelyReservations.admits desk (first ++ rest)) :
    ReservationsKept (timelyReservations.run desk first)
      (timelyReservations.run desk (first ++ rest)) := by
  have keeps := @Protocol.run_keeps _ _ timelyReservations ReservationsSafe
    (fun step _ safe intime => (reservationStep_kept step safe intime).1)
  have final := keeps _ desk (start_safe start) admitted
  rw [Protocol.admits_append] at admitted
  rw [Protocol.run_append] at final ⊢
  have kept := @Protocol.run_related _ _ timelyReservations ReservationsSafe OwnersKept
    ownersKept_refl ownersKept_trans (fun step _ => reservationStep_kept step) rest _
    (keeps _ desk (start_safe start) admitted.1) admitted.2
  exact ⟨kept.vms, kept.claims, final.activations⟩

def emptyReservations : ReservationDesk where
  now := 0
  vms := ⟨[], fun _ => none, fun _ => none⟩
  domains := ⟨[7], fun fqdn => if fqdn = 7 then some ⟨none, none⟩ else none, fun _ => none⟩
  sessions _ := .idle
  activations := []
  overtaken _ := []

theorem emptyReservations_start : ReservationStart emptyReservations where
  vms _ := rfl
  domains _ := rfl
  sessions _ := rfl
  activations := rfl

def reservedId : VmId := ⟨.request 0, 0⟩

def unpaidId : VmId := ⟨.request 1, 0⟩

/-- The VM is reserved and claims the domain; its payment takes long. -/
def reservedAndClaimed : List ReservationStep :=
  [.reserve 0 reservedId none, .commit 0, .claim 0 7 reservedId, .tick 901]

/-- A release and a purge look at the row before the activation commits. -/
def activatedMeanwhile : List ReservationStep :=
  reservedAndClaimed ++ [.candidate 1 reservedId, .activate 1 (.evm 1) none true,
    .read 2 reservedId, .select 3 0, .commit 1]

def releasedAfterwards : List ReservationStep := [.unclaim 2, .delete 2, .commit 2]

def purgedAfterwards : List ReservationStep := [.clear 3, .sweep 3, .commit 3]

/-- The release deletes the activated VM; the purge spares it and clears its claim. -/
theorem activated_vm_deleted :
    ¬ ReservationsKept (reservations.run emptyReservations activatedMeanwhile)
        (reservations.run emptyReservations (activatedMeanwhile ++ releasedAfterwards)) ∧
      ¬ ReservationsKept (reservations.run emptyReservations activatedMeanwhile)
        (reservations.run emptyReservations (activatedMeanwhile ++ purgedAfterwards)) := by
  have paid : (reservations.run emptyReservations activatedMeanwhile).vms.committed reservedId =
      some ⟨some (.evm 1), none, .provisioning, false, 0⟩ := by decide +kernel
  have claimed : (reservations.run emptyReservations activatedMeanwhile).domains.committed 7 =
      some ⟨some reservedId, none⟩ := by decide +kernel
  have gone : (reservations.run emptyReservations
      (activatedMeanwhile ++ releasedAfterwards)).vms.committed reservedId = none := by
    decide +kernel
  have cleared : (reservations.run emptyReservations
      (activatedMeanwhile ++ purgedAfterwards)).domains.committed 7 = some ⟨none, none⟩ := by
    decide +kernel
  constructor
  · intro kept
    obtain ⟨row, found, _⟩ := kept.vms reservedId ⟨_, paid, rfl⟩
    rw [gone] at found
    cases found
  · intro kept
    obtain ⟨domain, found, same⟩ := kept.claims reservedId ⟨_, paid, rfl⟩ 7 ⟨_, claimed, rfl⟩
    rw [cleared] at found
    cases found
    cases same

def activatedBefore : List ReservationStep :=
  reservedAndClaimed ++ [.candidate 1 reservedId, .activate 1 (.evm 1) none true, .commit 1]

/-- A release and a purge come after the activation; another VM is not paid for. -/
def releasedInTime : List ReservationStep :=
  [.read 2 reservedId, .unclaim 2, .delete 2, .commit 2,
    .select 3 0, .clear 3, .sweep 3, .commit 3,
    .reserve 4 unpaidId none, .commit 4, .read 4 unpaidId, .unclaim 4, .delete 4, .commit 4]

theorem activated_vm_kept :
    ReservationsKept (timelyReservations.run emptyReservations activatedBefore)
      (timelyReservations.run emptyReservations (activatedBefore ++ releasedInTime)) := by
  refine activated_vms_kept emptyReservations activatedBefore releasedInTime
    emptyReservations_start ?_
  refine timelyReservations.passes_admits
    (fun step desk => match step with
      | .commit w => decide (∀ vm ∈ (desk.sessions w).takes, vm ∉ desk.overtaken w)
      | _ => true) ?_ _ _ (by decide +kernel)
  intro step desk passed
  cases step with
  | commit w =>
    have intime := decide_eq_true_iff.mp passed
    exact intime
  | _ => trivial

end HyruleCloud.UnpaidReservations
