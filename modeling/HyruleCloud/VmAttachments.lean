import HyruleCloud.ManagedZones
import HyruleCloud.Protocol

/-!
The attachment of a VM to a managed zone, domains/service.py. A claim, an attachment, a
detachment and a changeset lock the row of the domain, so each is one step; what
`_owned_domain` saw before the lock is an argument.
-/

namespace HyruleCloud.Zones

open Interaction Function

def ManagedDomain.isActive (domain : ManagedDomain) : Bool :=
  domain.status = .active || domain.status = .renewalDue

/-- `claim_vm_attachment` -/
def claimVmAttachment (rules : TextRules) (owner : AccountId) (value : Text) (vm : VmId) :
    Transaction ZoneDesk Unit := fun desk =>
  match normalizeRegistrableDomain rules value with
  | .error error => .error error
  | .ok fqdn => match desk.domains fqdn with
      | none => .error (.domainProblem 404 "domain_not_found")
      | some domain =>
        if domain.ownerAccountId ≠ some owner then .error (.domainProblem 404 "domain_not_found")
        else if !domain.isActive then .error (.domainProblem 409 "domain_not_active")
        else if domain.nameserverMode ≠ .managed then
          .error (.domainProblem 409 "external_nameservers")
        else match domain.vmId with
          | some other =>
            if other ≠ vm then .error (.domainProblem 409 "domain_already_attached")
            else .ok (desk, ())
          | none =>
            if apexAaaa ∈ desk.records fqdn then .error (.domainProblem 409 "apex_aaaa_in_use")
            else .ok ({ desk with
              domains := desk.domains.put fqdn { domain with vmId := some vm, vmIpv6 := none } },
              ())

/-- `release_vm_attachment_claim`, with the row that its select finds. -/
def releaseVmAttachmentClaim (fqdn : Text) (vm : VmId) : Transaction ZoneDesk Unit := fun desk =>
  match desk.domains fqdn with
  | none => .ok (desk, ())
  | some domain =>
    if domain.vmId = some vm ∧ domain.vmIpv6 = none then
      .ok ({ desk with domains := desk.domains.put fqdn { domain with vmId := none } }, ())
    else .ok (desk, ())

def commitZone (fqdn : Text) (domain : ManagedDomain) (zone : Zone) : Transaction ZoneDesk Unit :=
  fun desk => .ok ({ desk with
    domains := desk.domains.put fqdn domain
    records := update desk.records fqdn zone }, ())

/-- The apex RRset that `attach_vm` writes. -/
def attachedRecord (current : ManagedDomain) (zone : Zone) (ipv6 : Text) : Except Err RecordData :=
  match zone.lookup apexAaaa with
  | none => .ok ⟨300, [ipv6]⟩
  | some record => match current.vmIpv6 with
      | none => .error (.runtime "the apex AAAA RRset is already customer-managed")
      | some previous =>
        if record.ttl ≠ 300 ∨ (record.values ≠ [previous] ∧ record.values ≠ [ipv6]) then
          .error (.runtime "the apex AAAA RRset was changed by the customer")
        else .ok ⟨300, [ipv6]⟩

def attachVm (seen : Option ManagedDomain) (fqdn : Text) (vm : VmId) (ipv6 : Text)
    (delivery : Delivery) (fate : Fate) (desk : ZoneDesk) : ZoneDesk × Except Err Unit :=
  match seen with
  | none => (desk, .error (.domainProblem 404 "domain_not_found"))
  | some domain =>
    if !domain.isActive then (desk, .error (.runtime "managed domain is not active"))
    else match desk.domains fqdn with
      | none => (desk, .error (.runtime "managed domain disappeared"))
      | some current =>
        if current.vmId ≠ none ∧ current.vmId ≠ some vm then
          (desk, .error (.runtime "managed domain is already attached to another VM"))
        else if current.nameserverMode ≠ .managed then
          (desk, .error (.runtime "managed domain is using external nameservers"))
        else match attachedRecord current (desk.records fqdn) ipv6 with
          | .error error => (desk, .error error)
          | .ok record =>
            let zone := (desk.records fqdn).insert apexAaaa record
            let attached := { current with
              vmId := some vm
              vmIpv6 := some ipv6
              zoneRevision := current.zoneRevision + 1 }
            pushAndCommit fqdn ⟨attached.zoneRevision, zone⟩ delivery id
              (commitZone fqdn attached zone) fate desk

def ownsApex (current : ManagedDomain) (zone : Zone) : Bool :=
  match current.vmIpv6 with
  | none => false
  | some ipv6 => zone.lookup apexAaaa = some ⟨300, [ipv6]⟩

def detachVm (seen : Option ManagedDomain) (fqdn : Text) (vm : VmId) (delivery : Delivery)
    (fate : Fate) (desk : ZoneDesk) : ZoneDesk × Except Err Unit :=
  match seen with
  | none => (desk, .error (.domainProblem 404 "domain_not_found"))
  | some _ => match desk.domains fqdn with
      | none => (desk, .ok ())
      | some current =>
        if current.vmId ≠ some vm then (desk, .ok ())
        else
          let detached := { current with vmId := none, vmIpv6 := none }
          if ownsApex current (desk.records fqdn) ∧ current.nameserverMode = .managed then
            let zone := (desk.records fqdn).erase apexAaaa
            let detached := { detached with zoneRevision := current.zoneRevision + 1 }
            pushAndCommit fqdn ⟨detached.zoneRevision, zone⟩ delivery id
              (commitZone fqdn detached zone) fate desk
          else transact (commitZone fqdn detached (desk.records fqdn)) fate desk

inductive ZoneStep where
  | changeset (call : ChangesetCall) (delivery : Delivery) (fate : Fate)
  | claim (owner : AccountId) (value : Text) (vm : VmId) (fate : Fate)
  | attach (seen : Option ManagedDomain) (fqdn : Text) (vm : VmId) (ipv6 : Text)
      (delivery : Delivery) (fate : Fate)
  | detach (seen : Option ManagedDomain) (fqdn : Text) (vm : VmId) (delivery : Delivery)
      (fate : Fate)
  | release (fqdn : Text) (vm : VmId) (fate : Fate)

def zoneStep (rules : TextRules) (limits : ZoneLimits) (step : ZoneStep) (desk : ZoneDesk) :
    ZoneDesk :=
  match step with
  | .changeset call delivery fate => (applyChangeset rules limits call delivery fate desk).1
  | .claim owner value vm fate => (transact (claimVmAttachment rules owner value vm) fate desk).1
  | .attach seen fqdn vm ipv6 delivery fate => (attachVm seen fqdn vm ipv6 delivery fate desk).1
  | .detach seen fqdn vm delivery fate => (detachVm seen fqdn vm delivery fate desk).1
  | .release fqdn vm fate => (transact (releaseVmAttachmentClaim fqdn vm) fate desk).1

def ZoneStep.isChangeset : ZoneStep → Bool
  | .changeset .. => true
  | _ => false

def zoneWriters (rules : TextRules) (limits : ZoneLimits) : Protocol ZoneDesk ZoneStep :=
  ⟨zoneStep rules limits, fun _ _ => True⟩

/-- What DNS control accepts is committed: its answer arrives and the commit works. -/
def Settles (delivery : Delivery) (fate : Fate) : Prop :=
  (∀ error, delivery ≠ .unanswered error) ∧ fate ≠ .failed

/-- A push and its commit go together, no RRset is deleted and put again in one
changeset, and a VM is attached to a zone that has room for its record. -/
def Completes (rules : TextRules) (limits : ZoneLimits) (step : ZoneStep) (desk : ZoneDesk) :
    Prop :=
  match step with
  | .changeset call delivery fate =>
    Settles delivery fate ∧ ∀ fqdn, ¬ Rewrites rules call fqdn desk
  | .attach _ fqdn _ _ delivery fate =>
    Settles delivery fate ∧ (apexAaaa ∈ desk.records fqdn ∨
      (desk.records fqdn).keys.card < limits.maxDnsRrsets)
  | .detach _ _ _ delivery fate => Settles delivery fate
  | _ => True

def orderlyWriters (rules : TextRules) (limits : ZoneLimits) : Protocol ZoneDesk ZoneStep :=
  ⟨zoneStep rules limits, Completes rules limits⟩

structure ZonesSound (limits : ZoneLimits) (desk : ZoneDesk) : Prop where
  attached : ∀ fqdn domain ipv6, desk.domains fqdn = some domain → domain.vmIpv6 = some ipv6 →
    domain.vmId.isSome ∧ (desk.records fqdn).lookup apexAaaa = some ⟨300, [ipv6]⟩
  limit : ∀ fqdn, (desk.records fqdn).keys.card ≤ limits.maxDnsRrsets
  rising : ∀ fqdn, ((desk.control fqdn).map PushedZone.revision).Pairwise (· > ·)

def SameOthers (before after : ZoneDesk) : Prop :=
  ∀ fqdn key, key ≠ apexAaaa → (after.records fqdn).lookup key = (before.records fqdn).lookup key

structure ZonesKept (limits : ZoneLimits) (mid final : ZoneDesk) (rest : List ZoneStep) : Prop where
  sound : ZonesSound limits final
  others : (∀ step ∈ rest, step.isChangeset = false) → SameOthers mid final

/-- The revision of a zone is not behind what DNS control has accepted. -/
structure ZonesStart (limits : ZoneLimits) (desk : ZoneDesk) : Prop
    extends ZonesSound limits desk where
  current : ∀ fqdn domain, desk.domains fqdn = some domain →
    ∀ zone ∈ desk.control fqdn, zone.revision ≤ domain.zoneRevision

/-- A step writes the row `domain` as `written`, and its zone; DNS control has accepted the
zone iff the revision is a new one. -/
structure Writes (limits : ZoneLimits) (fqdn : Text) (domain written : ManagedDomain) (zone : Zone)
    (before after : ZoneDesk) : Prop where
  found : before.domains fqdn = some domain
  domains : after.domains = before.domains.put fqdn written
  records : after.records = update before.records fqdn zone
  control : (after.control = before.control ∧ written.zoneRevision = domain.zoneRevision) ∨
    (after.control = (before.accept fqdn ⟨written.zoneRevision, zone⟩).control ∧
      written.zoneRevision = domain.zoneRevision + 1)
  room : zone.keys.card ≤ limits.maxDnsRrsets
  attached : ∀ ipv6, written.vmIpv6 = some ipv6 →
    written.vmId.isSome ∧ zone.lookup apexAaaa = some ⟨300, [ipv6]⟩

variable {delivery : Delivery} {fate : Fate}

section Steps
variable {rules : TextRules} {limits : ZoneLimits} {desk after : ZoneDesk} {fqdn : Text}
  {domain written : ManagedDomain} {zone : Zone}

theorem writes_start (start : ZonesStart limits desk)
    (writes : Writes limits fqdn domain written zone desk after) : ZonesStart limits after where
  attached name row ipv6 found holds := by
    rw [writes.domains] at found
    rw [writes.records]
    rcases update_cases found with ⟨rfl, ⟨⟩⟩ | ⟨same, found⟩
    · rw [update_self]
      exact writes.attached ipv6 holds
    · rw [update_of_ne same]
      exact start.attached name row ipv6 found holds
  limit name := by
    rw [writes.records]
    by_cases same : name = fqdn
    · subst same
      rw [update_self]
      exact writes.room
    · rw [update_of_ne same]
      exact start.limit name
  rising name := by
    rcases writes.control with ⟨same, _⟩ | ⟨accepted, raised⟩
    · rw [same]
      exact start.rising name
    · rw [accepted, ZoneDesk.accept]
      by_cases same : name = fqdn
      · subst same
        simp only [update_self, List.map_cons, List.pairwise_cons]
        refine ⟨fun revision listed => ?_, start.rising name⟩
        obtain ⟨zone, held, rfl⟩ := List.mem_map.mp listed
        have behind := start.current name domain writes.found zone held
        omega
      · simp only [update_of_ne same]
        exact start.rising name
  current name row found zone held := by
    rw [writes.domains] at found
    rcases update_cases found with ⟨rfl, ⟨⟩⟩ | ⟨same, found⟩
    · rcases writes.control with ⟨same, kept⟩ | ⟨accepted, raised⟩
      · rw [same] at held
        rw [kept]
        exact start.current name domain writes.found zone held
      · rw [accepted, ZoneDesk.accept] at held
        simp only [update_self, List.mem_cons] at held
        rcases held with rfl | held
        · exact le_refl _
        · have behind := start.current name domain writes.found zone held
          omega
    · rcases writes.control with ⟨same, _⟩ | ⟨accepted, _⟩
      · rw [same] at held
        exact start.current name row found zone held
      · rw [accepted, ZoneDesk.accept] at held
        simp only [update_of_ne same] at held
        exact start.current name row found zone held

def Beside (before after : Zone) : Prop :=
  ∀ key, key ≠ apexAaaa → after.lookup key = before.lookup key

def Attaches (limits : ZoneLimits) (before after : ZoneDesk) : Prop :=
  after = before ∨ ∃ fqdn domain written zone,
    Writes limits fqdn domain written zone before after ∧ Beside (before.records fqdn) zone

theorem pushAndCommit_settles {β : Type} {pushed : PushedZone} {commit : Transaction ZoneDesk β}
    {value : β} (raises : Err → Err) (settles : Settles delivery fate)
    (commits : commit (desk.accept fqdn pushed) = .ok (after, value)) :
    let outcome := pushAndCommit fqdn pushed delivery raises commit fate desk
    outcome.1 = desk ∨ outcome.1 = after := by
  cases delivery with
  | refused error => exact Or.inl rfl
  | unanswered error => exact absurd rfl (settles.1 error)
  | answered =>
    cases fate with
    | failed => exact absurd rfl settles.2
    | done | lost => exact Or.inr (by simp [pushAndCommit, applyZone, transact, commits])

theorem transact_either {β : Type} {tx : Transaction ZoneDesk β} {value : β} (fate : Fate)
    (commits : tx desk = .ok (after, value)) :
    (transact tx fate desk).1 = desk ∨ (transact tx fate desk).1 = after := by
  cases fate with
  | failed => exact Or.inl rfl
  | done | lost => exact Or.inr (by simp [transact, commits])

theorem transact_aborts {β : Type} {tx : Transaction ZoneDesk β} {error : Err}
    (aborts : tx desk = .error error) : (transact tx fate desk).1 = desk := by
  cases fate <;> simp [transact, aborts]

theorem columns_write (same : after = { desk with domains := desk.domains.put fqdn written })
    (start : ZonesStart limits desk) (found : desk.domains fqdn = some domain)
    (revision : written.zoneRevision = domain.zoneRevision) (detached : written.vmIpv6 = none) :
    Writes limits fqdn domain written (desk.records fqdn) desk after := by
  subst same
  refine ⟨found, rfl, (update_eq_self _ _).symm, Or.inl ⟨rfl, revision⟩,
    start.limit fqdn, fun ipv6 holds => ?_⟩
  rw [detached] at holds
  cases holds

theorem claimVmAttachment_done {owner : AccountId} {value : Text} {vm : VmId}
    (done : claimVmAttachment rules owner value vm desk = .ok (after, ())) :
    after = desk ∨ ∃ fqdn domain, normalizeRegistrableDomain rules value = .ok fqdn ∧
      desk.domains fqdn = some domain ∧ domain.nameserverMode = .managed ∧
      after = { desk with
        domains := desk.domains.put fqdn { domain with vmId := some vm, vmIpv6 := none } } := by
  unfold claimVmAttachment at done
  split at done
  · cases done
  rename_i fqdn name
  split at done
  · cases done
  rename_i domain found
  split at done
  · cases done
  split at done
  · cases done
  split at done
  · cases done
  rename_i managed
  split at done
  · split at done
    · cases done
    · cases done
      exact Or.inl rfl
  · split at done
    · cases done
    · cases done
      exact Or.inr ⟨fqdn, domain, name, found, not_not.mp managed, rfl⟩

theorem releaseVmAttachmentClaim_done {vm : VmId}
    (done : releaseVmAttachmentClaim fqdn vm desk = .ok (after, ())) :
    after = desk ∨ ∃ domain, desk.domains fqdn = some domain ∧ domain.vmIpv6 = none ∧
      after = { desk with domains := desk.domains.put fqdn { domain with vmId := none } } := by
  unfold releaseVmAttachmentClaim at done
  split at done
  · cases done
    exact Or.inl rfl
  · rename_i domain found
    split at done
    · rename_i claimed
      cases done
      exact Or.inr ⟨domain, found, claimed.2, rfl⟩
    · cases done
      exact Or.inl rfl

theorem claim_attaches (owner : AccountId) (value : Text) (vm : VmId) (fate : Fate)
    (start : ZonesStart limits desk) :
    Attaches limits desk (zoneStep rules limits (.claim owner value vm fate) desk) := by
  cases result : claimVmAttachment rules owner value vm desk with
  | error error => exact Or.inl (transact_aborts result)
  | ok claimed =>
    rcases transact_either fate result with same | same
    · exact Or.inl same
    rcases claimVmAttachment_done result with kept | ⟨fqdn, domain, _, found, _, claims⟩
    · exact Or.inl (same.trans kept)
    · exact Or.inr ⟨fqdn, domain, _, _,
        columns_write (same.trans claims) start found rfl rfl, fun _ _ => rfl⟩

theorem release_attaches (fqdn : Text) (vm : VmId) (fate : Fate) (start : ZonesStart limits desk) :
    Attaches limits desk (zoneStep rules limits (.release fqdn vm fate) desk) := by
  cases result : releaseVmAttachmentClaim fqdn vm desk with
  | error error => exact Or.inl (transact_aborts result)
  | ok released =>
    rcases transact_either fate result with same | same
    · exact Or.inl same
    rcases releaseVmAttachmentClaim_done result with kept | ⟨domain, found, planned, releases⟩
    · exact Or.inl (same.trans kept)
    · exact Or.inr ⟨fqdn, domain, _, _,
        columns_write (same.trans releases) start found rfl planned, fun _ _ => rfl⟩

theorem attachedRecord_value {current : ManagedDomain} {ipv6 : Text} {record : RecordData}
    (done : attachedRecord current zone ipv6 = .ok record) : record = ⟨300, [ipv6]⟩ := by
  unfold attachedRecord at done
  repeat' split at done
  all_goals cases done
  · rfl
  · rfl

theorem card_insert_le (key : RecordKey) (row : RecordData) {limit : Nat}
    (fits : zone.keys.card ≤ limit) (room : key ∈ zone ∨ zone.keys.card < limit) :
    (zone.insert key row).keys.card ≤ limit := by
  have keys : (zone.insert key row).keys = insert key zone.keys := by
    ext other
    simp only [Finmap.mem_keys, Finmap.mem_insert, Finset.mem_insert]
  rw [keys]
  rcases room with there | room
  · rw [Finset.insert_eq_of_mem (Finmap.mem_keys.mpr there)]
    exact fits
  · exact (Finset.card_insert_le _ _).trans room

theorem card_erase_le (key : RecordKey) {limit : Nat} (fits : zone.keys.card ≤ limit) :
    (zone.erase key).keys.card ≤ limit := by
  rw [Finmap.keys_erase]
  exact (Finset.card_le_card (Finset.erase_subset _ _)).trans fits

theorem pushed_attaches (settles : Settles delivery fate) {revision : Nat}
    (found : desk.domains fqdn = some domain) (stored : written.zoneRevision = revision)
    (raised : revision = domain.zoneRevision + 1) (room : zone.keys.card ≤ limits.maxDnsRrsets)
    (attached : ∀ ipv6, written.vmIpv6 = some ipv6 →
      written.vmId.isSome ∧ zone.lookup apexAaaa = some ⟨300, [ipv6]⟩)
    (beside : Beside (desk.records fqdn) zone) :
    Attaches limits desk (pushAndCommit fqdn ⟨revision, zone⟩ delivery id
      (commitZone fqdn written zone) fate desk).1 := by
  subst stored
  have commits : commitZone fqdn written zone (desk.accept fqdn ⟨written.zoneRevision, zone⟩) =
      .ok (_, ()) := rfl
  rcases pushAndCommit_settles id settles commits with same | same
  · exact Or.inl same
  · rw [same]
    exact Or.inr ⟨fqdn, domain, written, zone,
      ⟨found, rfl, rfl, Or.inr ⟨rfl, raised⟩, room, attached⟩, beside⟩

theorem attach_attaches (seen : Option ManagedDomain) (fqdn : Text) (vm : VmId) (ipv6 : Text)
    (start : ZonesStart limits desk)
    (completes : Completes rules limits (.attach seen fqdn vm ipv6 delivery fate) desk) :
    Attaches limits desk
      (zoneStep rules limits (.attach seen fqdn vm ipv6 delivery fate) desk) := by
  obtain ⟨settles, room⟩ := completes
  simp only [zoneStep, attachVm]
  split
  · exact Or.inl rfl
  split
  · exact Or.inl rfl
  split
  · exact Or.inl rfl
  rename_i current found
  split
  · exact Or.inl rfl
  split
  · exact Or.inl rfl
  split
  · exact Or.inl rfl
  rename_i record written
  apply pushed_attaches settles found
  · rfl
  · rfl
  · exact card_insert_le _ _ (start.limit fqdn) room
  · intro address holds
    cases holds
    rw [Finmap.lookup_insert, attachedRecord_value written]
    exact ⟨rfl, rfl⟩
  · exact fun key apart => Finmap.lookup_insert_of_ne _ apart

theorem detach_attaches (seen : Option ManagedDomain) (fqdn : Text) (vm : VmId)
    (start : ZonesStart limits desk)
    (completes : Completes rules limits (.detach seen fqdn vm delivery fate) desk) :
    Attaches limits desk (zoneStep rules limits (.detach seen fqdn vm delivery fate) desk) := by
  simp only [zoneStep, detachVm]
  split
  · exact Or.inl rfl
  split
  · exact Or.inl rfl
  rename_i current found
  split
  · exact Or.inl rfl
  split
  · apply pushed_attaches completes found
    · rfl
    · rfl
    · exact card_erase_le _ (start.limit fqdn)
    · exact nofun
    · exact fun key apart => Finmap.lookup_erase_ne apart
  · have commits : commitZone fqdn { current with vmId := none, vmIpv6 := none }
        (desk.records fqdn) desk = .ok (_, ()) := rfl
    rcases transact_either fate commits with same | same
    · exact Or.inl same
    · rw [same]
      exact Or.inr ⟨fqdn, current, _, _, ⟨found, rfl, rfl, Or.inl ⟨rfl, rfl⟩,
        start.limit fqdn, nofun⟩, fun _ _ => rfl⟩

theorem changeset_writes {call : ChangesetCall} (start : ZonesStart limits desk)
    (completes : Completes rules limits (.changeset call delivery fate) desk) :
    let after := zoneStep rules limits (.changeset call delivery fate) desk
    after = desk ∨ ∃ fqdn domain written zone, Writes limits fqdn domain written zone desk after := by
  obtain ⟨settles, once⟩ := completes
  simp only [zoneStep, applyChangeset]
  split
  · exact Or.inl rfl
  · exact Or.inl rfl
  · rename_i fqdn domain session planned
    have admits := plan_admits planned
    obtain ⟨_, commits⟩ := commit_folds (desk.accept fqdn (nextZone domain session)) admits
      (once fqdn) rfl
    rcases pushAndCommit_settles _ settles commits with same | same
    · exact Or.inl same
    rw [same]
    refine Or.inr ⟨fqdn, domain, _, _, ⟨admits.found, rfl, rfl, Or.inr ⟨rfl, rfl⟩,
      admits.room, fun ipv6 holds => ?_⟩⟩
    obtain ⟨edits, _, edited, spares⟩ := admits.edited
    obtain ⟨owned, record⟩ := start.attached fqdn domain ipv6 admits.found holds
    obtain ⟨_, wanted⟩ :=
      UnitOfWork.edits_wanted edits (UnitOfWork.load_tracks (desk.records fqdn)) edited
    have attached : domain.vmIpv6.isSome := by
      rw [show domain.vmIpv6 = some ipv6 from holds]
      rfl
    rw [wanted, UnitOfWork.fold_spares edits _ (spares attached)]
    exact ⟨owned, record⟩

end Steps

variable {limits : ZoneLimits}

theorem zoneStep_start {rules : TextRules} (step : ZoneStep)
    (desk : ZoneDesk) (start : ZonesStart limits desk)
    (completes : Completes rules limits step desk) :
    ZonesStart limits (zoneStep rules limits step desk) ∧
      (step.isChangeset = false → SameOthers desk (zoneStep rules limits step desk)) := by
  have attachment (attaches : Attaches limits desk (zoneStep rules limits step desk)) :
      ZonesStart limits (zoneStep rules limits step desk) ∧
        SameOthers desk (zoneStep rules limits step desk) := by
    rcases attaches with same | ⟨fqdn, domain, written, zone, writes, beside⟩
    · rw [same]
      exact ⟨start, fun _ _ _ => rfl⟩
    · refine ⟨writes_start start writes, fun name key apart => ?_⟩
      rw [writes.records]
      by_cases same : name = fqdn
      · subst same
        rw [update_self]
        exact beside key apart
      · rw [update_of_ne same]
  cases step with
  | changeset call delivery fate =>
    refine ⟨?_, nofun⟩
    rcases changeset_writes start completes with same | ⟨fqdn, domain, written, zone, writes⟩
    · rw [same]
      exact start
    · exact writes_start start writes
  | claim owner value vm fate =>
    obtain ⟨kept, others⟩ := attachment (claim_attaches owner value vm fate start)
    exact ⟨kept, fun _ => others⟩
  | attach seen fqdn vm ipv6 delivery fate =>
    obtain ⟨kept, others⟩ := attachment (attach_attaches seen fqdn vm ipv6 start completes)
    exact ⟨kept, fun _ => others⟩
  | detach seen fqdn vm delivery fate =>
    obtain ⟨kept, others⟩ := attachment (detach_attaches seen fqdn vm start completes)
    exact ⟨kept, fun _ => others⟩
  | release fqdn vm fate =>
    obtain ⟨kept, others⟩ := attachment (release_attaches fqdn vm fate start)
    exact ⟨kept, fun _ => others⟩

theorem run_others {rules : TextRules} (rest : List ZoneStep)
    (desk : ZoneDesk) (start : ZonesStart limits desk)
    (admitted : (orderlyWriters rules limits).admits desk rest)
    (attachments : ∀ step ∈ rest, step.isChangeset = false) :
    SameOthers desk ((orderlyWriters rules limits).run desk rest) := by
  induction rest generalizing desk with
  | nil => exact fun _ _ _ => rfl
  | cons step rest ih =>
    obtain ⟨kept, others⟩ := zoneStep_start step desk start admitted.1
    intro fqdn key apart
    have first := others (attachments step List.mem_cons_self) fqdn key apart
    have later := ih _ kept admitted.2
      (fun next listed => attachments next (List.mem_cons_of_mem _ listed)) fqdn key apart
    exact later.trans first

/-- In every run whose steps complete, the zones stay sound, and the RRsets of the customer
change by changesets alone. -/
theorem zones_kept (rules : TextRules) (limits : ZoneLimits) (desk : ZoneDesk)
    (first rest : List ZoneStep) (start : ZonesStart limits desk)
    (admitted : (orderlyWriters rules limits).admits desk (first ++ rest)) :
    ZonesKept limits ((orderlyWriters rules limits).run desk first)
      ((orderlyWriters rules limits).run desk (first ++ rest)) rest := by
  have keeps (steps : List ZoneStep) (admitted : (orderlyWriters rules limits).admits desk steps) :
      ZonesStart limits ((orderlyWriters rules limits).run desk steps) :=
    Protocol.run_keeps _ (fun step desk start completes => (zoneStep_start step desk start completes).1)
      steps desk start admitted
  have sound := (keeps _ admitted).toZonesSound
  rw [Protocol.admits_append] at admitted
  refine ⟨sound, fun attachments => ?_⟩
  rw [Protocol.run_append]
  exact run_others rest _ (keeps first admitted.1) admitted.2 attachments

theorem exampleDesk_start (room : 1 ≤ limits.maxDnsRrsets) :
    ZonesStart limits exampleDesk where
  attached fqdn domain ipv6 found holds := by
    simp only [exampleDesk] at found
    split at found <;> cases found
    cases holds
  limit fqdn := by
    simp only [exampleDesk]
    split
    · simpa using room
    · simp
  rising fqdn := by
    simp only [exampleDesk]
    split <;> simp
  current fqdn domain found zone held := by
    simp only [exampleDesk] at found held
    split at found <;> cases found
    rename_i here
    rw [if_pos here, List.mem_singleton] at held
    rw [held]

def exampleAddress : Text := "2001:db8::20".toList

def exampleVm : VmId := ⟨.request 0, 0⟩

def attachExample : ZoneStep :=
  .attach (some { ownerAccountId := some 0 }) exampleFqdn exampleVm exampleAddress .answered .done

def detachExample : ZoneStep :=
  .detach (some { ownerAccountId := some 0 }) exampleFqdn exampleVm .answered .done

def addCall : ChangesetCall where
  owner := 0
  domain := exampleFqdn
  expectedRevision := 2
  changes := [⟨.upsert, exampleRrset "api".toList '2'⟩]
  idempotencyKey := "add".toList

theorem addCall_once (fqdn : Text) (desk : ZoneDesk) : ¬ Rewrites plainRules addCall fqdn desk := by
  rintro ⟨edits, valid, key, _, row, twice⟩
  have single : edits.length = 1 := by
    simp only [addCall, editsOf] at valid
    split at valid <;> cases valid
    rfl
  have two := twice.length_le
  simp [single] at two

/-- A VM is claimed, attached and detached around a changeset. -/
theorem attached_zone_kept :
    ZonesKept ⟨2, 100⟩
      ((orderlyWriters plainRules ⟨2, 100⟩).run exampleDesk
        [.claim 0 exampleFqdn exampleVm .done, attachExample])
      ((orderlyWriters plainRules ⟨2, 100⟩).run exampleDesk
        ([.claim 0 exampleFqdn exampleVm .done, attachExample] ++
          [.changeset addCall .answered .done, detachExample]))
      [.changeset addCall .answered .done, detachExample] := by
  have settles : Settles .answered .done := ⟨nofun, nofun⟩
  exact zones_kept plainRules ⟨2, 100⟩ exampleDesk _ _ (exampleDesk_start (by decide))
    ⟨trivial, ⟨settles, Or.inr (by decide +kernel)⟩, ⟨settles, fun fqdn => addCall_once fqdn _⟩,
      settles, trivial⟩

/-- The record of an attached VM does not count against the limit. -/
theorem limit_passed_by_attachment :
    ¬ ∀ (rules : TextRules) (limits : ZoneLimits) (desk : ZoneDesk) (first rest : List ZoneStep),
      ZonesStart limits desk → (zoneWriters rules limits).admits desk (first ++ rest) →
      ZonesKept limits ((zoneWriters rules limits).run desk first)
        ((zoneWriters rules limits).run desk (first ++ rest)) rest := by
  intro always
  have kept := always plainRules ⟨1, 100⟩ exampleDesk [.claim 0 exampleFqdn exampleVm .done]
    [attachExample] (exampleDesk_start (le_refl 1)) ⟨trivial, trivial, trivial⟩
  exact absurd (kept.sound.limit exampleFqdn) (by decide +kernel)

end HyruleCloud.Zones
