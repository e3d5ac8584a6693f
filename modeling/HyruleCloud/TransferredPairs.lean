import HyruleCloud.OwnedPairs

/-!
What keeps a VM and its domain with one owner. A transfer is right about the rows that it
holds, but an attachment and a new VM do not look at the row of the other.
-/

namespace HyruleCloud.OwnedPairs

open Interaction PairDesk Function
open Zones (Text ManagedDomain ZoneDesk Delivery NameserverMode TextRules)

def JoinsOwner (desk : PairDesk) (fqdn : Text) (vm : VmId) : Prop :=
  ∀ domain row, desk.zones.domains fqdn = some domain → domain.vmId = none →
    desk.vms vm = some row → domain.ownerAccountId = row.ownerAccountId

def CreatedForOwner (desk : PairDesk) (vm : VmId) (owner : Option AccountId) : Prop :=
  desk.vms vm = none → ∀ fqdn domain, desk.zones.domains fqdn = some domain →
    domain.vmId = some vm → domain.ownerAccountId = owner

/-- A transfer holds the domain of its VM and the VM of its domain, and no job has read the
domain already. -/
structure MovesTogether (desk : PairDesk) (transfer : PairTransfer) : Prop where
  domain : ∀ vm fqdn, transfer.vm = some vm → desk.Names fqdn vm → transfer.fqdn = some fqdn
  vm : ∀ vm fqdn, transfer.fqdn = some fqdn → desk.Names fqdn vm → (desk.vms vm).isSome →
    transfer.vm = some vm
  jobs : ∀ w work seen, desk.stages w = .owned work (some seen) → work.byJob = true →
    transfer.fqdn ≠ some work.fqdn

def Guarded (rules : TextRules) (step : PairStep) (desk : PairDesk) : Prop :=
  match step with
  | .claim _ value vm _ => ∀ fqdn, Zones.normalizeRegistrableDomain rules value = .ok fqdn →
      JoinsOwner desk fqdn vm
  | .write w _ _ _ => ∀ work seen, desk.stages w = .owned work (some seen) →
      work.kind = .attach → JoinsOwner desk work.fqdn work.vm
  | .goOn w _ =>
    (∀ order fqdn, desk.stages w = .bundling order .claiming →
      Zones.normalizeRegistrableDomain rules order.fqdn = .ok fqdn →
      JoinsOwner desk fqdn order.vm) ∧
    (∀ order, desk.stages w = .bundling order .reserving →
      CreatedForOwner desk order.vm (some order.ownerAccountId)) ∧
    (∀ transfer, desk.stages w = .clear transfer → MovesTogether desk transfer)
  | .reserve vm owner _ _ => CreatedForOwner desk vm owner
  | .claimVm vm _ _ _ => ∀ fqdn, ¬ desk.Names fqdn vm
  | _ => True

def guardedTransfers (rules : TextRules) (hash : Text → Text) : Protocol PairDesk PairStep :=
  ⟨pairStep rules hash, fun step desk => Reads step desk ∧ Guarded rules step desk⟩

/-- A run starts when no call is under way and nothing has been transferred. -/
structure Settled (desk : PairDesk) : Prop where
  owners : ∀ fqdn domain vm row, desk.zones.domains fqdn = some domain →
    domain.vmId = some vm → desk.vms vm = some row → domain.ownerAccountId = row.ownerAccountId
  stages : ∀ w, desk.stages w = .idle
  domains : ∀ fqdn, desk.formerDomains fqdn = none
  vms : ∀ vm, desk.formerVms vm = none

structure PairRows where
  domains : Table Text ManagedDomain
  holders : Text → DomainHolder
  vms : Table VmId OwnedVm
  formerDomains : Text → Option (Option AccountId)
  formerVms : VmId → Option (Option AccountId)

namespace PairRows

variable (rows : PairRows)

def setVm (vm : VmId) (row : OwnedVm) : PairRows := { rows with vms := rows.vms.put vm row }

def eraseVm (vm : VmId) : PairRows := { rows with vms := rows.vms.erase vm }

def setDomain (fqdn : Text) (domain : ManagedDomain) : PairRows :=
  { rows with domains := rows.domains.put fqdn domain }

variable (vm : VmId) (row : OwnedVm) (fqdn : Text) (domain : ManagedDomain)

@[simp] theorem setVm_vms : (rows.setVm vm row).vms = rows.vms.put vm row := rfl
@[simp] theorem eraseVm_vms : (rows.eraseVm vm).vms = rows.vms.erase vm := rfl
@[simp] theorem setDomain_domains :
    (rows.setDomain fqdn domain).domains = rows.domains.put fqdn domain := rfl

end PairRows

def PairDesk.rows (desk : PairDesk) : PairRows :=
  { desk with domains := desk.zones.domains }

structure RowsSound (rows : PairRows) : Prop where
  owners : ∀ fqdn domain vm row, rows.domains fqdn = some domain → domain.vmId = some vm →
    rows.vms vm = some row → domain.ownerAccountId = row.ownerAccountId
  vms : ∀ vm row, (rows.formerVms vm).isSome → rows.vms vm = some row →
    row.anonManagementTokenHash = none
  domains : ∀ fqdn, (rows.formerDomains fqdn).isSome →
    (rows.holders fqdn).anonManagementTokenHash = none

namespace RowsSound

variable {rows : PairRows} {vm : VmId} {row : OwnedVm} {fqdn : Text}
  {domain written : ManagedDomain}

variable (sound : RowsSound rows)
include sound

theorem setVm (owner : ∀ fqdn domain, rows.domains fqdn = some domain → domain.vmId = some vm →
      domain.ownerAccountId = row.ownerAccountId)
    (token : (rows.formerVms vm).isSome → row.anonManagementTokenHash = none) :
    RowsSound (rows.setVm vm row) where
  owners fqdn domain other found listed names here := by
    rcases update_cases here with ⟨rfl, ⟨⟩⟩ | ⟨_, here⟩
    · exact owner fqdn domain listed names
    · exact sound.owners fqdn domain other found listed names here
  vms other found moved here := by
    rcases update_cases here with ⟨rfl, ⟨⟩⟩ | ⟨_, here⟩
    · exact token moved
    · exact sound.vms other found moved here
  domains := sound.domains

theorem rewriteVm (found : rows.vms vm = some row) {after : OwnedVm}
    (owner : after.ownerAccountId = row.ownerAccountId)
    (token : after.anonManagementTokenHash = row.anonManagementTokenHash) :
    RowsSound (rows.setVm vm after) := by
  apply sound.setVm
  · intro fqdn domain listed names
    rw [owner]
    exact sound.owners fqdn domain vm row listed names found
  · intro moved
    rw [token]
    exact sound.vms vm row moved found

theorem eraseVm : RowsSound (rows.eraseVm vm) where
  owners fqdn domain other found listed names here := by
    by_cases same : other = vm
    · subst same
      rw [PairRows.eraseVm_vms, erase_same] at here
      cases here
    · rw [PairRows.eraseVm_vms, erase_other _ same] at here
      exact sound.owners fqdn domain other found listed names here
  vms other found moved here := by
    by_cases same : other = vm
    · subst same
      rw [PairRows.eraseVm_vms, erase_same] at here
      cases here
    · rw [PairRows.eraseVm_vms, erase_other _ same] at here
      exact sound.vms other found moved here
  domains := sound.domains

theorem setDomain (owner : ∀ vm row, written.vmId = some vm → rows.vms vm = some row →
      written.ownerAccountId = row.ownerAccountId) :
    RowsSound (rows.setDomain fqdn written) where
  owners name found vm row listed names here := by
    rcases update_cases listed with ⟨rfl, ⟨⟩⟩ | ⟨_, listed⟩
    · exact owner vm row names here
    · exact sound.owners name found vm row listed names here
  vms := sound.vms
  domains := sound.domains

omit sound

end RowsSound

def JobsOwned (domains : Table Text ManagedDomain) (stages : ProcessId → Stage) : Prop :=
  ∀ w work seen, stages w = .owned work (some seen) → work.byJob = true →
    ∃ domain, domains work.fqdn = some domain ∧ domain.ownerAccountId = some work.ownerAccountId

def Stage.hasRead : Stage → Bool
  | .owned _ (some _) => true
  | _ => false

theorem Stage.hasRead_owned (stage : Stage) (unread : stage.hasRead = false) (work : VmWork)
    (seen : ManagedDomain) : stage ≠ .owned work (some seen) := by
  intro here
  rw [here] at unread
  cases unread

variable {stage : Stage} {fate : Fate}

section Jobs
variable {domains : Table Text ManagedDomain} {stages : ProcessId → Stage} {fqdn : Text}
  {domain written : ManagedDomain}

theorem jobs_update (jobs : JobsOwned domains stages) (w : ProcessId)
    (unread : ∀ work seen, stage ≠ .owned work (some seen)) :
    JobsOwned domains (update stages w stage) := by
  intro other work seen here byJob
  by_cases same : other = w
  · subst same
    rw [update_self] at here
    exact absurd here (unread work seen)
  · rw [update_of_ne same] at here
    exact jobs other work seen here byJob

theorem jobs_setDomain (jobs : JobsOwned domains stages) (found : domains fqdn = some domain)
    (owner : written.ownerAccountId = domain.ownerAccountId) :
    JobsOwned (domains.put fqdn written) stages := by
  intro w work seen here byJob
  obtain ⟨row, listed, own⟩ := jobs w work seen here byJob
  by_cases same : work.fqdn = fqdn
  · subst same
    rw [found] at listed
    cases listed
    exact ⟨written, put_same _ _ _, owner.trans own⟩
  · exact ⟨row, (put_other _ _ same).trans listed, own⟩

end Jobs

structure PairsSafe (desk : PairDesk) : Prop where
  rows : RowsSound desk.rows
  jobs : JobsOwned desk.zones.domains desk.stages

theorem settled_safe {desk : PairDesk} (settled : Settled desk) : PairsSafe desk where
  rows := {
    owners := settled.owners
    vms := by
      intro vm row moved
      simp [rows, settled.vms vm] at moved
    domains := by
      intro fqdn moved
      simp [rows, settled.domains fqdn] at moved }
  jobs w work seen here := by
    rw [settled.stages w] at here
    cases here

variable {joins : Option VmId}

section Steps
variable {rules : TextRules} {hash : Text → Text} {desk after : PairDesk} {w : ProcessId}
  {fqdn : Text} {vm : VmId}

/-! What touches neither the rows nor a call that has read its domain. -/

section
variable (safe : PairsSafe desk)
include safe

theorem PairsSafe.same (rows : after.rows = desk.rows)
    (stages : after.stages = desk.stages) : PairsSafe after where
  rows := by
    rw [rows]
    exact safe.rows
  jobs := by
    have domains : after.zones.domains = desk.zones.domains := congrArg PairRows.domains rows
    rw [domains, stages]
    exact safe.jobs

theorem PairsSafe.goOn (unread : ∀ work seen, stage ≠ .owned work (some seen)) :
    PairsSafe (desk.goOn w stage) where
  rows := safe.rows
  jobs := jobs_update safe.jobs w unread

theorem PairsSafe.pass (unread : stage.hasRead = false) :
    PairsSafe (desk.goOn w stage) := safe.goOn (stage.hasRead_owned unread)

theorem PairsSafe.answer {result : Except Err Unit} :
    PairsSafe (desk.answer w result) := by
  have freed : PairsSafe (desk.free w) := safe.same rfl rfl
  exact freed.pass rfl

theorem PairsSafe.lockVm : PairsSafe (desk.lockVm w vm) :=
  safe.same rfl rfl

theorem PairsSafe.lockDomain : PairsSafe (desk.lockDomain w fqdn) :=
  safe.same rfl rfl

theorem PairsSafe.takeUp (next : PairsSafe after) :
    PairsSafe (takeUp w desk after) := by
  unfold OwnedPairs.takeUp
  split
  · exact next
  · exact safe

theorem transferVm_safe (target : AccountId) :
    PairsSafe (desk.transferVm w vm target) := by
  unfold PairDesk.transferVm
  split
  · exact safe.answer
  · split
    · exact safe.pass rfl
    · exact safe.answer

theorem holdVm_safe (target : AccountId) (wallet : OwnerWallet)
    (source : Option AccountId) : PairsSafe (desk.holdVm w vm target wallet source) := by
  unfold PairDesk.holdVm
  split
  · exact safe
  split
  · exact safe.answer
  · split
    · exact safe.answer
    · exact safe.lockVm.pass rfl

theorem selectDomain_safe (target : AccountId) (wallet : OwnerWallet)
    (found : Selected) : PairsSafe (desk.selectDomain w vm target wallet found) := by
  cases found with
  | none | one => exact safe.pass rfl
  | several => exact safe.answer

theorem holdFound_safe (target : AccountId) (wallet : OwnerWallet) :
    PairsSafe (desk.holdFound w vm target wallet fqdn) := by
  unfold PairDesk.holdFound
  split
  · exact safe
  · split
    · exact safe.lockDomain.pass rfl
    · exact safe.pass rfl

theorem transferDomain_safe (target : AccountId) :
    PairsSafe (desk.transferDomain w fqdn target) := by
  unfold PairDesk.transferDomain
  split
  · exact safe.answer
  · exact safe.pass rfl

theorem seeOwners_safe (call : DomainCall) :
    PairsSafe (desk.seeOwners w call) := by
  unfold PairDesk.seeOwners
  split
  · exact safe.pass rfl
  · exact safe.answer

theorem seeBundle_safe (call : DomainCall) :
    PairsSafe (desk.seeBundle w call) := by
  unfold PairDesk.seeBundle
  split
  · exact safe.answer
  · exact safe.pass rfl

theorem holdBundleVm_safe (call : DomainCall) (snapshot : Option VmId) :
    PairsSafe (desk.holdBundleVm w call snapshot) := by
  unfold PairDesk.holdBundleVm
  split
  · exact safe.pass rfl
  split
  · exact safe.pass rfl
  · split
    · exact safe
    · exact safe.lockVm.pass rfl

theorem holdBundle_safe (call : DomainCall)
    (snapshot held : Option VmId) : PairsSafe (desk.holdBundle w call snapshot held) := by
  unfold PairDesk.holdBundle
  split
  · exact safe
  split
  · exact safe.answer
  dsimp only
  split
  · exact safe.answer
  · exact safe.lockDomain.pass rfl

theorem seeOperations_safe (transfer : PairTransfer) :
    PairsSafe (desk.seeOperations w transfer) := by
  unfold PairDesk.seeOperations
  split
  · exact safe.answer
  · exact safe.pass rfl

theorem seeJobs_safe (transfer : PairTransfer) :
    PairsSafe (desk.seeJobs w transfer) := by
  unfold PairDesk.seeJobs
  dsimp only
  split
  · exact safe.answer
  · exact safe.pass rfl

theorem runJob_safe (kind : VmWorkKind) :
    PairsSafe (desk.runJob w kind vm) := by
  unfold PairDesk.runJob
  split
  · exact safe
  · split
    · exact safe.pass rfl
    · exact safe

theorem PairsSafe.rewriteVm {row written : OwnedVm}
    (found : desk.vms vm = some row) (owner : written.ownerAccountId = row.ownerAccountId)
    (token : written.anonManagementTokenHash = row.anonManagementTokenHash) :
    PairsSafe (desk.setVm vm written) where
  rows := safe.rows.rewriteVm found owner token
  jobs := safe.jobs

theorem PairsSafe.eraseVm : PairsSafe { desk with vms := desk.vms.erase vm } where
  rows := safe.rows.eraseVm
  jobs := safe.jobs

theorem reserveVm_safe {owner : Option AccountId} {tokenHash : Text}
    {domain : Option Text} (created : CreatedForOwner desk vm owner)
    (done : PairDesk.reserveVm vm owner tokenHash domain desk = .ok (after, ())) :
    PairsSafe after := by
  unfold PairDesk.reserveVm at done
  split at done
  · split at done
    · cases done
    · cases done
      exact safe
  · rename_i absent
    cases done
    have fresh : PairsSafe
        { desk with formerVms := update desk.formerVms vm none } := by
      constructor
      · constructor
        · exact safe.rows.owners
        · intro other row moved found
          by_cases same : other = vm
          · subst same
            have none : desk.vms other = some row := found
            rw [absent] at none
            cases none
          · simp only [rows, update_of_ne same] at moved
            exact safe.rows.vms other row moved found
        · exact safe.rows.domains
      · exact safe.jobs
    constructor
    · apply fresh.rows.setVm
      · intro fqdn row listed names
        exact created absent fqdn row listed names
      · intro moved
        simp [rows] at moved
    · exact safe.jobs

theorem claimVm_safe {account : AccountId} {proof : ClaimProof}
    (apart : ∀ fqdn, ¬ desk.Names fqdn vm)
    (done : PairDesk.claimVm hash vm account proof desk = .ok (after, ())) : PairsSafe after := by
  unfold PairDesk.claimVm at done
  split at done
  · cases done
  split at done
  · cases done
  split at done
  · cases done
  split at done
  · cases done
  split at done
  · cases done
  cases done
  constructor
  · apply safe.rows.setVm
    · intro fqdn domain listed names
      exact absurd ⟨domain, listed, names⟩ (apart fqdn)
    · intro _
      rfl
  · exact safe.jobs

theorem finish_safe (ipv6 : Text) (fate : Fate) :
    PairsSafe (desk.finish w vm ipv6 fate) := by
  have written : PairsSafe (transact (finishVm vm ipv6) fate desk).1 := by
    apply transact_keeps fate safe
    intro after value done
    unfold finishVm at done
    split at done
    · cases done
      exact safe
    · rename_i row found
      split at done
      · cases done
        exact safe
      · cases done
        exact safe.rewriteVm found rfl rfl
  unfold PairDesk.finish
  split
  · exact safe
  split
  · rename_i after work ended
    rw [ended] at written
    exact written.pass rfl
  · rename_i after ended
    rw [ended] at written
    exact written.answer
  · rename_i after error ended
    rw [ended] at written
    exact written.answer

end

/-- Attachments keep the owner of a domain, and only a free domain is joined to a VM. -/
structure Turned (fqdn : Text) (joins : Option VmId) (domain written : ManagedDomain) : Prop where
  owner : written.ownerAccountId = domain.ownerAccountId
  vm : written.vmId = none ∨ written.vmId = domain.vmId ∨
    (domain.vmId = none ∧ written.vmId = joins)

def Turns (fqdn : Text) (joins : Option VmId) (before after : ZoneDesk) : Prop :=
  after.domains = before.domains ∨ ∃ domain written, before.domains fqdn = some domain ∧
    after.domains = before.domains.put fqdn written ∧ Turned fqdn joins domain written

theorem turns_safe (safe : PairsSafe desk) {zones : ZoneDesk}
    (turns : Turns fqdn joins desk.zones zones)
    (joined : ∀ vm, joins = some vm → JoinsOwner desk fqdn vm) :
    PairsSafe { desk with zones := zones } := by
  rcases turns with same | ⟨domain, written, found, put, turned⟩
  · apply safe.same
    · simp [rows, same]
    · rfl
  · constructor
    · have sound : RowsSound (desk.rows.setDomain fqdn written) := by
        apply safe.rows.setDomain
        intro vm row names here
        rw [turned.owner]
        rcases turned.vm with gone | kept | ⟨free, joins⟩
        · rw [gone] at names
          cases names
        · exact safe.rows.owners fqdn domain vm row found (kept ▸ names) here
        · exact joined vm (joins ▸ names) domain row found free here
      simpa [rows, PairRows.setDomain, put] using sound
    · rw [show ({ desk with zones := zones } : PairDesk).zones.domains = _ from put]
      exact jobs_setDomain safe.jobs found turned.owner

end Steps

variable {delivery : Delivery} {domain : ManagedDomain}

/-! What the operations of the zones turn. -/

section Zones
variable {rules : TextRules} {zones after : ZoneDesk} {fqdn : Text} {vm : VmId}

theorem claim_turns {owner : AccountId} {value : Text}
    (done : Zones.claimVmAttachment rules owner value vm zones = .ok (after, ())) :
    ∃ fqdn, Zones.normalizeRegistrableDomain rules value = .ok fqdn ∧
      Turns fqdn (some vm) zones after := by
  unfold Zones.claimVmAttachment at done
  split at done
  · cases done
  rename_i fqdn name
  refine ⟨fqdn, name, ?_⟩
  split at done
  · cases done
  rename_i domain found
  split at done
  · cases done
  split at done
  · cases done
  split at done
  · cases done
  split at done
  · split at done
    · cases done
    · cases done
      exact Or.inl rfl
  · rename_i free
    split at done
    · cases done
    · cases done
      exact Or.inr ⟨domain, _, found, rfl, rfl, Or.inr (Or.inr ⟨free, rfl⟩)⟩

theorem release_turns (done : Zones.releaseVmAttachmentClaim fqdn vm zones = .ok (after, ())) :
    Turns fqdn none zones after := by
  rcases Zones.releaseVmAttachmentClaim_done done with same | ⟨domain, found, _, released⟩
  · rw [same]
    exact Or.inl rfl
  · rw [released]
    exact Or.inr ⟨domain, _, found, rfl, rfl, Or.inl rfl⟩

theorem push_domains (pushed : Zones.PushedZone) (delivery : Delivery) (fate : Fate)
    (written : ManagedDomain) (zone : Zones.Zone) :
    let after := (Zones.pushAndCommit fqdn pushed delivery id
      (Zones.commitZone fqdn written zone) fate zones).1
    after.domains = zones.domains ∨ after.domains = zones.domains.put fqdn written := by
  cases delivery with
  | refused | unanswered => exact Or.inl rfl
  | answered => cases fate with
      | failed => exact Or.inl rfl
      | done | lost => exact Or.inr rfl

theorem push_turns {pushed : Zones.PushedZone}
    {written : ManagedDomain} {zone : Zones.Zone} (found : zones.domains fqdn = some domain)
    (turned : Turned fqdn joins domain written) :
    Turns fqdn joins zones (Zones.pushAndCommit fqdn pushed delivery id
      (Zones.commitZone fqdn written zone) fate zones).1 := by
  rcases push_domains pushed delivery fate written zone with same | put
  · exact Or.inl same
  · exact Or.inr ⟨domain, written, found, put, turned⟩

theorem attach_turns (seen : Option ManagedDomain) (ipv6 : Text) (delivery : Delivery)
    (fate : Fate) :
    Turns fqdn (some vm) zones (Zones.attachVm seen fqdn vm ipv6 delivery fate zones).1 := by
  unfold Zones.attachVm
  split
  · exact Or.inl rfl
  split
  · exact Or.inl rfl
  split
  · exact Or.inl rfl
  rename_i current found
  split
  · exact Or.inl rfl
  rename_i free
  split
  · exact Or.inl rfl
  split
  · exact Or.inl rfl
  apply push_turns found
  constructor
  · rfl
  · by_cases unattached : current.vmId = none
    · exact Or.inr (Or.inr ⟨unattached, rfl⟩)
    have named : current.vmId = some vm := by
      by_contra other
      exact free ⟨unattached, other⟩
    exact Or.inr (Or.inl named.symm)

theorem detach_turns (seen : Option ManagedDomain) (delivery : Delivery) (fate : Fate) :
    Turns fqdn none zones (Zones.detachVm seen fqdn vm delivery fate zones).1 := by
  unfold Zones.detachVm
  split
  · exact Or.inl rfl
  split
  · exact Or.inl rfl
  rename_i current found
  split
  · exact Or.inl rfl
  split
  · apply push_turns found
    exact ⟨rfl, Or.inl rfl⟩
  · rcases transact_result (Zones.commitZone fqdn
      { current with vmId := none, vmIpv6 := none } (zones.records fqdn)) fate zones with
      same | ⟨after, value, done, same⟩
    · rw [same]
      exact Or.inl rfl
    · rw [same]
      cases done
      exact Or.inr ⟨current, _, found, rfl, rfl, Or.inl rfl⟩

theorem perform_unowned (desk : PairDesk) (work : VmWork) (delivery : Delivery) (fate : Fate) :
    (desk.perform work none delivery fate).1 = desk.zones := by
  unfold PairDesk.perform
  split
  · rfl
  · rfl

theorem perform_elsewhere (desk : PairDesk) (work : VmWork) (seen : Option ManagedDomain)
    (delivery : Delivery) (fate : Fate)
    (found : desk.zones.domains work.fqdn = some domain) (apart : domain.vmId ≠ some work.vm)
    (taken : work.kind = .attach → domain.vmId ≠ none) :
    (desk.perform work seen delivery fate).1 = desk.zones := by
  unfold PairDesk.perform
  split
  · rename_i attach
    have foreign : domain.vmId ≠ none ∧ domain.vmId ≠ some work.vm := ⟨taken attach, apart⟩
    unfold Zones.attachVm
    split
    · rfl
    split
    · rfl
    · rw [found]
      simp only
      rw [if_pos foreign]
  · unfold Zones.detachVm
    split
    · rfl
    · rw [found]
      simp only
      rw [if_pos apart]

end Zones

variable {order : BundleOrder}

section Calls
variable {rules : TextRules} {hash : Text → Text} {desk after : PairDesk} {w : ProcessId}
  {fqdn : Text} {vm : VmId}

theorem onZones_done {tx : Transaction ZoneDesk Unit} (done : onZones tx desk = .ok (after, ())) :
    ∃ zones, tx desk.zones = .ok (zones, ()) ∧ after = { desk with zones := zones } := by
  unfold onZones at done
  split at done
  · rename_i zones _ ran
    cases done
    exact ⟨zones, ran, rfl⟩
  · cases done

section
variable (safe : PairsSafe desk)
include safe

theorem claimVmAttachment_safe {owner : AccountId} {value : Text}
    (joined : ∀ fqdn, Zones.normalizeRegistrableDomain rules value = .ok fqdn →
      JoinsOwner desk fqdn vm)
    (done : PairDesk.claimVmAttachment rules owner value vm desk = .ok (after, ())) :
    PairsSafe after := by
  obtain ⟨zones, ran, same⟩ := onZones_done done
  obtain ⟨fqdn, name, turns⟩ := claim_turns ran
  rw [same]
  apply turns_safe safe turns
  intro other is
  cases is
  exact joined fqdn name

theorem releaseClaim_safe
    (done : releaseClaim fqdn vm desk = .ok (after, ())) : PairsSafe after := by
  obtain ⟨zones, ran, same⟩ := onZones_done done
  rw [same]
  exact turns_safe safe (release_turns ran) nofun

theorem releaseReservation_safe
    (done : PairDesk.releaseReservation fqdn vm desk = .ok (after, ())) : PairsSafe after := by
  unfold PairDesk.releaseReservation at done
  split at done
  · cases done
    exact safe
  · split at done
    · exact releaseClaim_safe safe.eraseVm done
    · cases done
      exact safe

theorem activateVm_safe
    (done : PairDesk.activateVm order desk = .ok (after, ())) : PairsSafe after := by
  unfold PairDesk.activateVm at done
  split at done
  · cases done
  rename_i row found
  split at done
  · cases done
  · cases done
    exact safe.rewriteVm found rfl rfl

theorem proceed_safe {next : Stage} {failed : Err → Stage} {tx : Transaction PairDesk Unit}
    (commits : ∀ after value, tx desk = .ok (after, value) → PairsSafe after)
    (unread : next.hasRead = false) (dropped : ∀ error, (failed error).hasRead = false) :
    PairsSafe (desk.proceed w next failed tx fate) := by
  have written := transact_keeps fate safe commits
  unfold PairDesk.proceed
  split
  · rename_i after value ended
    rw [ended] at written
    exact written.pass unread
  · rename_i after error ended
    rw [ended] at written
    exact written.pass (dropped error)

theorem bundle_safe {phase : BundlePhase}
    (fate : Fate) (here : desk.stages w = .bundling order phase)
    (guarded : Guarded rules (.goOn w fate) desk) :
    PairsSafe (desk.bundle rules w order phase fate) := by
  obtain ⟨claimed, reserved, _⟩ := guarded
  cases phase with
  | claiming =>
    dsimp only [PairDesk.bundle]
    split
    · exact safe
    refine proceed_safe safe (fun after _ done => ?_) rfl fun _ => rfl
    exact claimVmAttachment_safe safe (fun fqdn name => claimed order fqdn here name) done
  | reserving =>
    refine proceed_safe safe (fun after _ done => ?_) rfl fun _ => rfl
    exact reserveVm_safe safe (reserved order here) done
  | activating =>
    dsimp only [PairDesk.bundle]
    split
    · exact safe
    exact proceed_safe safe (fun after _ done => activateVm_safe safe done) rfl fun _ => rfl
  | releasing =>
    dsimp only [PairDesk.bundle]
    split
    · exact safe
    exact proceed_safe safe (fun after _ done => releaseReservation_safe safe done) rfl fun _ => rfl
  | unclaiming =>
    dsimp only [PairDesk.bundle]
    split
    · exact safe
    refine proceed_safe safe (fun after _ done => ?_) rfl fun _ => rfl
    split at done
    · cases done
      exact safe
    · exact releaseClaim_safe safe done

/-! A job or an attachment of the orchestrator. -/

theorem own_safe (work : VmWork) :
    PairsSafe (desk.goOn w (.owned work (desk.ownedDomain work.ownerAccountId work.fqdn))) where
  rows := safe.rows
  jobs := by
    intro other job seen here byJob
    by_cases same : other = w
    · subst same
      simp only [PairDesk.goOn, update_self, Stage.owned.injEq] at here
      obtain ⟨rfl, found⟩ := here
      obtain ⟨listed, own⟩ := Option.filter_eq_some_iff.mp found
      exact ⟨seen, listed, of_decide_eq_true own⟩
    · simp only [PairDesk.goOn, update_of_ne same] at here
      exact safe.jobs other job seen here byJob

theorem endJob_safe (work : VmWork) (pending : Bool) :
    PairsSafe (desk.endJob work pending) := by
  unfold PairDesk.endJob
  split
  · exact safe
  · exact safe.same rfl rfl

theorem conclude_safe (work : VmWork) (again : Bool)
    (result : Except Err Unit) : PairsSafe (desk.conclude w work again result) := by
  unfold PairDesk.conclude
  split
  · split
    · exact (endJob_safe safe work false).answer
    · exact safe.answer
  · split
    · exact (endJob_safe safe work again).answer
    · exact safe.pass rfl

theorem perform_safe (work : VmWork) (seen : ManagedDomain)
    (delivery : Delivery) (fate : Fate)
    (joined : work.kind = .attach → JoinsOwner desk work.fqdn work.vm) :
    PairsSafe { desk with zones := (desk.perform work (some seen) delivery fate).1 } := by
  unfold PairDesk.perform
  split
  · rename_i attach
    apply turns_safe safe (attach_turns _ _ _ _)
    intro vm is
    cases is
    exact joined attach
  · exact turns_safe safe (detach_turns _ _ _) nofun

theorem write_safe {work : VmWork} {seen : Option ManagedDomain}
    {again : Bool} (here : desk.stages w = .owned work seen)
    (guarded : Guarded rules (.write w delivery fate again) desk) :
    PairsSafe (desk.write w work seen delivery fate again) := by
  have performed : PairsSafe { desk with zones := (desk.perform work seen delivery fate).1 } := by
    cases seen with
    | none =>
      apply safe.same
      · simp [rows, perform_unowned]
      · rfl
    | some found => exact perform_safe safe work found delivery fate (guarded work found here)
  unfold PairDesk.write
  split
  · exact safe
  · exact conclude_safe performed work again _

theorem enqueue_safe (work : VmWork) (fate : Fate) :
    PairsSafe (desk.enqueue w work fate) := by
  have written : PairsSafe (transact (enqueueVmJob work) fate desk).1 := by
    apply transact_keeps fate safe
    intro after value done
    unfold enqueueVmJob at done
    split at done
    · cases done
      exact safe
    · cases done
      exact safe.same rfl rfl
  exact written.answer

end

theorem movedVm_owner (transfer : PairTransfer) (row : OwnedVm) :
    (movedVm transfer row).ownerAccountId = some transfer.target := by
  unfold movedVm
  repeat' split
  all_goals rfl

theorem movedVm_token (transfer : PairTransfer) (row : OwnedVm) :
    (movedVm transfer row).anonManagementTokenHash = none := by
  unfold movedVm
  repeat' split
  all_goals rfl

theorem moveVm_zones (desk : PairDesk) (transfer : PairTransfer) : (desk.moveVm transfer).zones = desk.zones := by
  unfold PairDesk.moveVm
  repeat' split
  all_goals rfl

theorem moveVm_domains (desk : PairDesk) (transfer : PairTransfer) :
    (desk.moveVm transfer).holders = desk.holders ∧
      (desk.moveVm transfer).formerDomains = desk.formerDomains ∧
      (desk.moveVm transfer).stages = desk.stages := by
  unfold PairDesk.moveVm
  repeat' split
  all_goals exact ⟨rfl, rfl, rfl⟩

theorem moveVm_row (transfer : PairTransfer) {row : OwnedVm}
    (found : (desk.moveVm transfer).vms vm = some row) :
    (transfer.vm = some vm ∧ row.ownerAccountId = some transfer.target ∧
      row.anonManagementTokenHash = none) ∨
    (transfer.vm ≠ some vm ∧ desk.vms vm = some row ∧
      (desk.moveVm transfer).formerVms vm = desk.formerVms vm) := by
  unfold PairDesk.moveVm at found ⊢
  split at found
  · rename_i free
    rw [free]
    exact Or.inr ⟨nofun, found, rfl⟩
  · rename_i held is
    rw [is]
    split at found
    · rename_i absent
      right
      refine ⟨?_, found, rfl⟩
      rintro ⟨rfl⟩
      rw [absent] at found
      cases found
    · rename_i before listed
      have put : desk.vms.put held (movedVm transfer before) vm = some row := found
      rcases update_cases put with ⟨rfl, ⟨⟩⟩ | ⟨same, put⟩
      · exact Or.inl ⟨rfl, movedVm_owner _ _, movedVm_token _ _⟩
      · right
        refine ⟨?_, put, update_of_ne same _ _⟩
        rintro ⟨rfl⟩
        exact same rfl

theorem moveDomain_row (transfer : PairTransfer) {name : Text}
    (found : (desk.moveDomain transfer).zones.domains name = some domain) :
    ∃ before, desk.zones.domains name = some before ∧ before.vmId = domain.vmId ∧
      ((transfer.fqdn = some name ∧ domain.ownerAccountId = some transfer.target) ∨
        (transfer.fqdn ≠ some name ∧ domain = before)) := by
  unfold PairDesk.moveDomain at found
  split at found
  · rename_i free
    rw [free]
    exact ⟨domain, found, rfl, Or.inr ⟨nofun, rfl⟩⟩
  · rename_i held is
    rw [is]
    split at found
    · rename_i absent
      refine ⟨domain, found, rfl, Or.inr ⟨?_, rfl⟩⟩
      rintro ⟨rfl⟩
      rw [absent] at found
      cases found
    · rename_i before listed
      have put : desk.zones.domains.put held
          { before with ownerAccountId := some transfer.target } name = some domain := found
      rcases update_cases put with ⟨rfl, ⟨⟩⟩ | ⟨same, put⟩
      · exact ⟨before, listed, rfl, Or.inl ⟨rfl, rfl⟩⟩
      · refine ⟨domain, put, rfl, Or.inr ⟨?_, rfl⟩⟩
        rintro ⟨rfl⟩
        exact same rfl

theorem moveDomain_vms (desk : PairDesk) (transfer : PairTransfer) :
    (desk.moveDomain transfer).vms = desk.vms ∧
      (desk.moveDomain transfer).formerVms = desk.formerVms ∧
      (desk.moveDomain transfer).stages = desk.stages := by
  unfold PairDesk.moveDomain
  repeat' split
  all_goals exact ⟨rfl, rfl, rfl⟩

theorem moveDomain_tokens (transfer : PairTransfer)
    (closed : ∀ fqdn, (desk.formerDomains fqdn).isSome →
      (desk.holders fqdn).anonManagementTokenHash = none) (name : Text)
    (moved : ((desk.moveDomain transfer).formerDomains name).isSome) :
    ((desk.moveDomain transfer).holders name).anonManagementTokenHash = none := by
  unfold PairDesk.moveDomain at moved ⊢
  split at moved
  · exact closed name moved
  rename_i held is
  split at moved
  · exact closed name moved
  dsimp only at moved ⊢
  by_cases same : name = held
  · rw [same, update_self]
  · rw [update_of_ne same] at moved ⊢
    exact closed name moved

section
variable (safe : PairsSafe desk) {transfer : PairTransfer} (together : MovesTogether desk transfer)
include safe together

theorem move_safe : PairsSafe ((desk.moveVm transfer).moveDomain transfer) := by
  obtain ⟨vms, formerVms, stages⟩ := moveDomain_vms (desk.moveVm transfer) transfer
  obtain ⟨holders, formerDomains, calls⟩ := moveVm_domains desk transfer
  have zones := moveVm_zones desk transfer
  constructor
  · constructor
    · intro name domain vm row found names listed
      obtain ⟨before, here, kept, moved⟩ := moveDomain_row transfer found
      rw [zones] at here
      have named : desk.Names name vm := ⟨before, here, kept.trans names⟩
      have there : (desk.moveVm transfer).vms vm = some row := vms ▸ listed
      rcases moveVm_row transfer there with ⟨held, owner, _⟩ | ⟨apart, same, _⟩
      · rcases moved with ⟨_, target⟩ | ⟨other, _⟩
        · exact target.trans owner.symm
        · exact absurd (together.domain vm name held named) other
      · rcases moved with ⟨held, _⟩ | ⟨_, is⟩
        · exact absurd (together.vm vm name held named (by rw [same]; rfl)) apart
        · subst is
          exact safe.rows.owners name domain vm row here names same
    · intro vm row moved listed
      have there : (desk.moveVm transfer).vms vm = some row := vms ▸ listed
      rcases moveVm_row transfer there with ⟨_, _, token⟩ | ⟨_, same, former⟩
      · exact token
      have before : (desk.formerVms vm).isSome := by
        rw [← former, ← formerVms]
        exact moved
      exact safe.rows.vms vm row before same
    · apply moveDomain_tokens transfer
      intro name moved
      rw [formerDomains] at moved
      rw [holders]
      exact safe.rows.domains name moved
  · intro w work seen here byJob
    rw [stages, calls] at here
    obtain ⟨domain, found, own⟩ := safe.jobs w work seen here byJob
    have apart := together.jobs w work seen here byJob
    refine ⟨domain, ?_, own⟩
    have listed : (desk.moveVm transfer).zones.domains work.fqdn = some domain := zones ▸ found
    unfold PairDesk.moveDomain
    split
    · exact listed
    rename_i held is
    split
    · exact listed
    have other : work.fqdn ≠ held := by
      rintro rfl
      exact apart is
    exact (put_other _ _ other).trans listed

theorem commitTransfer_safe (fate : Fate) :
    PairsSafe (desk.commitTransfer w transfer fate) := by
  have written : PairsSafe (transact (move transfer) fate desk).1 := by
    apply transact_keeps fate safe
    intro after value done
    cases done
    exact move_safe safe together
  exact written.answer

end

theorem nextStatement_safe (safe : PairsSafe desk) (guarded : Guarded rules (.goOn w fate) desk) :
    PairsSafe (nextStatement rules w fate desk) := by
  unfold nextStatement
  split
  · exact holdVm_safe safe _ _ _
  · exact holdFound_safe safe _ _
  · exact seeOwners_safe safe _
  · exact seeBundle_safe safe _
  · exact holdBundleVm_safe safe _ _
  · exact holdBundle_safe safe _ _ _
  · exact seeOperations_safe safe _
  · exact seeJobs_safe safe _
  · rename_i transfer here
    exact commitTransfer_safe safe (guarded.2.2 transfer here) fate
  · exact own_safe safe _
  · exact enqueue_safe safe _ fate
  · rename_i order phase here
    exact bundle_safe safe fate here guarded
  all_goals exact safe

theorem pairStep_safe (step : PairStep) (desk : PairDesk) (safe : PairsSafe desk)
    (guarded : Guarded rules step desk) : PairsSafe (pairStep rules hash step desk) := by
  cases step with
  | transferVm w vm target => exact safe.takeUp (transferVm_safe safe target)
  | transferDomain w fqdn target => exact safe.takeUp (transferDomain_safe safe target)
  | select w found =>
    dsimp only [pairStep]
    split
    · exact selectDomain_safe safe _ _ found
    · exact safe
  | goOn w fate => exact nextStatement_safe safe guarded
  | claimVm vm account proof fate =>
    dsimp only [pairStep]
    split
    · exact safe
    · apply transact_keeps fate safe
      intro after value done
      exact claimVm_safe safe guarded done
  | finish w vm ipv6 fate => exact safe.takeUp (finish_safe safe ipv6 fate)
  | detach | provisionBundle => exact safe.takeUp (safe.pass rfl)
  | runJob w kind vm => exact safe.takeUp (runJob_safe safe kind)
  | write w delivery fate again =>
    dsimp only [pairStep]
    split
    · rename_i work seen here
      exact write_safe safe here guarded
    · exact safe
  | claim owner value vm fate =>
    dsimp only [pairStep, PairDesk.claim]
    split
    · exact safe
    · apply transact_keeps fate safe
      intro after value done
      exact claimVmAttachment_safe safe guarded done
  | release fqdn vm fate =>
    dsimp only [pairStep]
    split
    · exact safe
    · apply transact_keeps fate safe
      intro after value done
      exact releaseClaim_safe safe done
  | reserve vm owner tokenHash domain =>
    apply transact_keeps .done safe
    intro after value done
    exact reserveVm_safe safe guarded done
  | lifecycle vm state =>
    dsimp only [pairStep]
    split
    · exact safe
    split
    · exact safe
    · rename_i row found
      exact safe.rewriteVm found rfl rfl
  | drop vm =>
    dsimp only [pairStep]
    split
    · exact safe
    · exact safe.eraseVm
  | domainState fqdn status mode =>
    dsimp only [pairStep]
    split
    · exact safe
    split
    · exact safe
    rename_i domain found
    have turns : Turns fqdn none desk.zones { desk.zones with
        domains := desk.zones.domains.put fqdn
          { domain with status := status, nameserverMode := mode } } :=
      Or.inr ⟨domain, _, found, rfl, rfl, Or.inr (Or.inl rfl)⟩
    exact turns_safe safe turns (by simp)
  | pending | account => exact safe.same rfl rfl

theorem PairsSafe.kept (safe : PairsSafe desk) : PairsKept hash desk where
  owners := safe.rows.owners
  vmTokens vm row token moved found := by
    have closed := safe.rows.vms vm row moved found
    simp [canManageVm, closed]
  domainTokens fqdn token moved := by
    have closed : (desk.holders fqdn).anonManagementTokenHash = none :=
      safe.rows.domains fqdn moved
    simp [opensDomain, closed]

theorem conclude_rows (desk : PairDesk) (w : ProcessId) (work : VmWork) (again : Bool) (result : Except Err Unit) :
    (desk.conclude w work again result).zones = desk.zones ∧
      (desk.conclude w work again result).vms = desk.vms := by
  have ended (pending : Bool) : (desk.endJob work pending).zones = desk.zones ∧
      (desk.endJob work pending).vms = desk.vms := by
    unfold PairDesk.endJob
    split
    · exact ⟨rfl, rfl⟩
    · exact ⟨rfl, rfl⟩
  unfold PairDesk.conclude
  split
  · split
    · exact ended false
    · exact ⟨rfl, rfl⟩
  · split
    · exact ended again
    · exact ⟨rfl, rfl⟩

theorem write_rows (work : VmWork) (seen : Option ManagedDomain) (delivery : Delivery)
    (fate : Fate) (again : Bool) (idle : (desk.perform work seen delivery fate).1 = desk.zones) :
    (desk.write w work seen delivery fate again).zones = desk.zones ∧
      (desk.write w work seen delivery fate again).vms = desk.vms := by
  unfold PairDesk.write
  split
  · exact ⟨rfl, rfl⟩
  obtain ⟨zones, vms⟩ := conclude_rows
    { desk with zones := (desk.perform work seen delivery fate).1 } w work again
    (desk.perform work seen delivery fate).2
  exact ⟨zones.trans idle, vms⟩

theorem job_harmless (safe : PairsSafe desk) (step : PairStep)
    (guarded : Guarded rules step desk) : JobHarmless rules hash step desk := by
  rintro w work seen delivery fate again rfl here byJob former
  have idle : (desk.perform work seen delivery fate).1 = desk.zones := by
    cases seen with
    | none => exact perform_unowned desk work delivery fate
    | some found =>
      obtain ⟨domain, listed, own⟩ := safe.jobs w work found here byJob
      rcases former with ⟨_, taken⟩ | ⟨_, row, there, taken⟩
      · exact absurd own (taken domain listed)
      apply perform_elsewhere desk work (some found) delivery fate listed
      · intro names
        have same := safe.rows.owners work.fqdn domain work.vm row listed names there
        exact taken (same.symm.trans own)
      · intro attach free
        have same := guarded work found here attach domain row listed free there
        exact taken (same.symm.trans own)
  have written := write_rows (w := w) work seen delivery fate again idle
  simp only [pairStep, here]
  exact written

end Calls

section
variable (rules : TextRules) (hash : Text → Text) (desk : PairDesk) (actions : List PairStep)
  (settled : Settled desk) (admitted : (guardedTransfers rules hash).admits desk actions)
include settled admitted

theorem run_safe : PairsSafe ((guardedTransfers rules hash).run desk actions) := by
  apply Protocol.run_keeps _ _ actions desk (settled_safe settled) admitted
  intro step desk safe may
  exact pairStep_safe step desk safe may.2

end

def bundleDesk : PairDesk where
  zones := Zones.exampleDesk
  holders _ := {}
  vms _ := none
  wallets _ := none
  retained _ := false
  operations _ := false
  work _ := false
  jobs _ := none
  vmLocks _ := none
  domainLocks _ := none
  stages _ := .idle
  formerDomains _ := none
  formerVms _ := none

theorem bundleDesk_settled : Settled bundleDesk where
  owners fqdn domain vm row _ _ listed := by cases listed
  stages _ := rfl
  domains _ := rfl
  vms _ := rfl

/-- All but the commit of a transfer of the domain to account 5. -/
def domainTransfer (w : ProcessId) : List PairStep :=
  .transferDomain w Zones.exampleFqdn 5 :: List.replicate 6 (.goOn w .done)

def isPreparation (step : PairStep) (desk : PairDesk) : Bool :=
  match step with
  | .transferDomain .. => true
  | .goOn w _ => match desk.stages w with
      | .bundling .. | .clear _ => false
      | _ => true
  | _ => false

theorem preparation_guarded (rules : TextRules) (step : PairStep) (desk : PairDesk)
    (tested : isPreparation step desk = true) : Reads step desk ∧ Guarded rules step desk := by
  cases step with
  | transferDomain w fqdn target => exact ⟨trivial, trivial⟩
  | goOn w fate =>
    dsimp only [isPreparation] at tested
    refine ⟨trivial, fun order fqdn here => ?_, fun order here => ?_, fun transfer here => ?_⟩
    · rw [here] at tested
      cases tested
    · rw [here] at tested
      cases tested
    · rw [here] at tested
      cases tested
  | _ => cases tested

/-- A bundle claims its domain for a VM that it has only planned. The domain is transferred
before the VM is reserved for the old owner. -/
def bundleRun : List PairStep :=
  [.provisionBundle 0 ⟨0, Zones.exampleFqdn, Zones.exampleVm, .evm 7, [], false⟩,
    .goOn 0 .done] ++ domainTransfer 1 ++ [.goOn 1 .done, .goOn 0 .done]

def bundleEnd : PairDesk := (ownerTransfers Zones.plainRules id).run bundleDesk bundleRun

def isNoSelect (step : PairStep) : Bool :=
  match step with
  | .select .. => false
  | _ => true

theorem bundleRun_reads : (ownerTransfers Zones.plainRules id).admits bundleDesk bundleRun := by
  apply Protocol.passes_admits _ fun step _ => isNoSelect step
  · intro step desk tested
    cases step with
    | select w found => cases tested
    | _ => exact trivial
  · rfl

end HyruleCloud.OwnedPairs
