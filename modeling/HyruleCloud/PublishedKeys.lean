import HyruleCloud.RegistrarKeys

/-!
The keys at the registrar are those of the authority that the domain is delegated to. What
is left of a job is read as what it needs: `Fits` follows the calls one by one, and says at
each of them what the desk would be left with if the attempt ended there.
-/

namespace HyruleCloud.RegistrarKeys

open Interaction Zones KeyDesk Function

variable {call : KeyCall} {mode : DnssecMode} {submitted : List DSRecord}
  {answer : Option (List DnsKey)} {todo : List KeyCall} {w : ProcessId} {job : OperationId}

variable {nameservers : List Text}

variable {rest : List KeyCall}

section Fitting
variable {rules : KeyRules} {kind : KeyJobKind} {owing : Bool} {rest : List KeyCall}
  {locals : Locals} {row : DelegatedDomain} {registrar : Registration}

def FromManaged (rules : KeyRules) (keys : List DnsKey) : Prop :=
  ∀ key ∈ keys, rules.serves (authority rules.managedNameservers) key

def Owes (rules : KeyRules) (kind : KeyJobKind) (row : DelegatedDomain)
    (registrar : Registration) : Prop :=
  match kind with
  | .dnssec .managed _ => row.nameserverMode = .managed ∧ row.dnssecMode ≠ .external ∧
      FromManaged rules registrar.dnssecKeys ∧ FromAuthority rules registrar
  | .dnssec .external _ => row.nameserverMode = .external ∧ row.dnssecMode ≠ .managed ∧
      FromAuthority rules registrar
  | .nameservers .managed _ => row.nameserverMode = .managed ∧ row.dnssecMode = .external ∧
      registrar.dnssecKeys = []
  | _ => False

def Rests (rules : KeyRules) (kind : KeyJobKind) (owing : Bool) (row : DelegatedDomain)
    (registrar : Registration) : Prop :=
  match owing with
  | true => Owes rules kind row registrar
  | false => Settled rules row registrar

def Fits (rules : KeyRules) (kind : KeyJobKind) (owing : Bool) :
    List KeyCall → Locals → DelegatedDomain → Registration → Prop
  | [], _, row, registrar => Settled rules row registrar
  | call :: rest, locals, row, registrar =>
    Rests rules kind (owing || ahead (call :: rest)) row registrar ∧
    ∀ answer, Answers rules call answer registrar → ∀ locals' row' registrar',
      call.run rules answer locals row registrar = some (locals', row', registrar') →
      Fits rules kind owing rest locals' row' registrar'

theorem fromAuthority_nil (nameservers : List Text) : FromAuthority rules ⟨nameservers, []⟩ := by
  intro key listed
  cases listed

theorem owes_source (owes : Owes rules kind row registrar) : FromAuthority rules registrar := by
  unfold Owes at owes
  split at owes
  · exact owes.2.2.2
  · exact owes.2.2
  · intro key listed
    rw [owes.2.2] at listed
    cases listed
  · exact owes.elim

theorem rests_source (rests : Rests rules kind owing row registrar) :
    FromAuthority rules registrar := by
  cases owing with
  | true => exact owes_source rests
  | false => exact rests.source

theorem fits_call (calm : ahead (call :: rest) = false)
    (rests : Rests rules kind owing row registrar)
    (after : ∀ answer, Answers rules call answer registrar → ∀ locals' row' registrar',
      call.run rules answer locals row registrar = some (locals', row', registrar') →
      Fits rules kind owing rest locals' row' registrar') :
    Fits rules kind owing (call :: rest) locals row registrar := by
  refine ⟨?_, after⟩
  rw [calm, Bool.or_false]
  exact rests

theorem fits_clear (rests : Rests rules kind owing row registrar)
    (after : Fits rules kind owing rest locals row { registrar with dnssecKeys := [] }) :
    Fits rules kind owing (.clearKeys :: rest) locals row registrar := by
  apply fits_call rfl rests
  rintro answer _ _ _ _ ⟨⟩
  exact after

theorem fits_update (rests : Rests rules kind owing row registrar)
    (after : Fits rules kind owing rest locals row { registrar with nameservers := nameservers }) :
    Fits rules kind owing (.updateNameservers nameservers :: rest) locals row registrar := by
  apply fits_call rfl rests
  rintro answer _ _ _ _ ⟨⟩
  exact after

theorem fits_delegation {mode : NameserverMode} {incompatible : Bool}
    (rests : Rests rules kind
      (owing || ahead [.writeDelegation mode nameservers incompatible]) row registrar)
    (after : ∀ written : DelegatedDomain, written.nameserverMode = mode →
      written.dnssecMode = (if incompatible then .off else row.dnssecMode) →
      Settled rules written registrar) :
    Fits rules kind owing [.writeDelegation mode nameservers incompatible] locals row registrar := by
  refine ⟨rests, ?_⟩
  rintro answer _ _ _ _ ⟨⟩
  apply after
  · cases incompatible <;> rfl
  · cases incompatible <;> rfl

theorem fits_dnssec (rests : Rests rules kind (owing || ahead [.writeDnssec mode]) row registrar)
    (after : ∀ written : DelegatedDomain, written.nameserverMode = row.nameserverMode →
      written.dnssecMode = mode → Settled rules written registrar) :
    Fits rules kind owing [.writeDnssec mode] locals row registrar := by
  refine ⟨rests, ?_⟩
  rintro answer _ _ _ _ ⟨⟩
  exact after _ rfl rfl

/-- `_ensure_managed_zone` publishes keys under managed DNSSEC. -/
def Signs (mode : Option DnssecMode) (row : DelegatedDomain) : Prop :=
  match mode with
  | some mode => mode = .managed
  | none => row.dnssecMode = .managed

theorem ensure_fits {mode : Option DnssecMode}
    (own : FromManaged rules registrar.dnssecKeys)
    (begins : Rests rules kind owing row registrar)
    (moves : Rests rules kind owing row { registrar with nameservers := rules.managedNameservers })
    (published : ∀ keys, FromManaged rules keys →
      (¬ Signs mode row → keys = registrar.dnssecKeys) →
      Rests rules kind (owing || ahead (.activate :: rest)) row ⟨rules.managedNameservers, keys⟩ ∧
      ∀ (locals : Locals) (written : DelegatedDomain), written.nameserverMode = .managed →
        written.dnssecMode = row.dnssecMode →
        Fits rules kind owing rest locals written ⟨rules.managedNameservers, keys⟩) :
    Fits rules kind owing (ensureManagedZone rules mode ++ rest) locals row registrar := by
  have activates (locals : Locals) (left : List DnsKey) (served : FromManaged rules left)
      (still : ¬ Signs mode row → left = registrar.dnssecKeys) :
      Fits rules kind owing (.activate :: rest) locals row ⟨rules.managedNameservers, left⟩ := by
    obtain ⟨rests, after⟩ := published left served still
    refine ⟨rests, ?_⟩
    rintro answer _ _ _ _ ⟨⟩
    exact after _ _ rfl rfl
  have publishes (locals : Locals) (signs : locals.managedDnssec = true ↔ Signs mode row)
      (fetched : locals.managedDnssec = true → FromManaged rules locals.keys) :
      Fits rules kind owing (.updateNameservers rules.managedNameservers :: .setManagedKeys ::
        .activate :: rest) locals row registrar := by
    apply fits_update begins
    apply fits_call rfl moves
    intro answer _ locals' row' registrar' ran
    simp only [KeyCall.run] at ran
    split at ran
    · rename_i signed
      cases ran
      exact activates _ _ (fetched signed) fun unsigned => absurd (signs.mp signed) unsigned
    · cases ran
      exact activates _ _ own fun _ => rfl
  have fetches (locals : Locals) (signs : locals.managedDnssec = true ↔ Signs mode row) :
      Fits rules kind owing (.fetchKeys :: .updateNameservers rules.managedNameservers ::
        .setManagedKeys :: .activate :: rest) locals row registrar := by
    apply fits_call rfl begins
    intro answer served locals' row' registrar' ran
    simp only [KeyCall.run] at ran
    split at ran
    · split at ran
      · cases ran
      · cases ran
      · cases ran
        exact publishes _ signs fun _ => served _ rfl
    · rename_i unsigned
      cases ran
      exact publishes _ signs fun signed => absurd signed unsigned
  apply fits_call rfl begins
  rintro _ _ read _ _ ⟨⟩
  apply fetches
  cases mode with
  | none | some => exact decide_eq_true_iff

section
variable (settled : Settled rules row registrar)
include settled

theorem settled_moved (own : FromManaged rules registrar.dnssecKeys) :
    Settled rules row { registrar with nameservers := rules.managedNameservers } :=
  ⟨{ settled.agrees with }, settled.own, own⟩

theorem settled_cleared :
    Settled rules row { registrar with dnssecKeys := [] } :=
  ⟨⟨settled.agrees.managed, settled.agrees.external, fun _ => rfl⟩, fun _ => nofun,
    fromAuthority_nil _⟩

theorem settled_own (inside : row.dnssecMode ≠ .external) :
    FromManaged rules registrar.dnssecKeys := by
  cases mode : row.dnssecMode with
  | managed => exact settled.own mode
  | external => exact absurd mode inside
  | off =>
    rw [settled.agrees.off mode]
    exact nofun

end

theorem rests_settled (nothing : ¬ Owes rules kind row registrar)
    (rests : Rests rules kind owing row registrar) :
    owing = false ∧ Settled rules row registrar := by
  cases owing with
  | true => exact absurd rests nothing
  | false => exact ⟨rfl, rests⟩

theorem managed_dnssec_fits (rests : Rests rules (.dnssec .managed submitted) owing row registrar)
    (managed : row.nameserverMode = .managed) :
    Fits rules (.dnssec .managed submitted) owing
      (ensureManagedZone rules (some .managed) ++ [.writeDnssec .managed]) locals row registrar := by
  have inside : row.dnssecMode ≠ .external := by
    cases owing with
    | true => exact rests.2.1
    | false =>
      intro external
      have mode := rests.agrees.external external
      rw [managed] at mode
      cases mode
  have own : FromManaged rules registrar.dnssecKeys := by
    cases owing with
    | true => exact rests.2.2.1
    | false => exact settled_own rests inside
  apply ensure_fits own rests
  · cases owing with
    | true => exact ⟨managed, inside, own, own⟩
    | false => exact settled_moved rests own
  · intro keys served _
    constructor
    · rw [show ahead [.activate, .writeDnssec .managed] = true from rfl, Bool.or_true]
      exact ⟨managed, inside, served, served⟩
    · intro locals written mode dnssec
      apply fits_dnssec
      · rw [show ahead [.writeDnssec .managed] = true from rfl, Bool.or_true]
        exact ⟨mode, dnssec ▸ inside, served, served⟩
      · intro last stays signed
        have current : last.nameserverMode = .managed := stays.trans mode
        constructor
        · exact ⟨fun _ => current, by rw [signed]; nofun, by rw [signed]; nofun⟩
        · exact fun _ => served
        · exact served

theorem resolve_served {makeDs : DnsKey → List DSRecord} {keys : List DnsKey}
    {dsRecords : List DSRecord}
    (resolved : resolveMatchingDnskeys makeDs answer submitted = .ok (keys, dsRecords)) :
    ∃ answered, answer = some answered ∧ ∀ key ∈ keys, key ∈ answered := by
  unfold resolveMatchingDnskeys at resolved
  split at resolved
  · cases resolved
  split at resolved
  · cases resolved
  rename_i answered
  dsimp only at resolved
  split at resolved
  · cases resolved
  cases resolved
  refine ⟨answered, rfl, ?_⟩
  intro key listed
  exact (List.mem_filter.mp (List.mem_eraseDups.mp listed)).1

theorem external_dnssec_fits (rests : Rests rules (.dnssec .external submitted) owing row registrar)
    (external : row.nameserverMode = .external) :
    Fits rules (.dnssec .external submitted) owing
      [.resolveKeys submitted, .setKeys, .writeDnssec .external] locals row registrar := by
  have outside : row.dnssecMode ≠ .managed := by
    cases owing with
    | true => exact rests.2.1
    | false =>
      intro managed
      have mode := rests.agrees.managed managed
      rw [external] at mode
      cases mode
  apply fits_call rfl rests
  intro answer served locals' row' registrar' ran
  simp only [KeyCall.run] at ran
  split at ran
  · cases ran
  rename_i keys dsRecords resolved
  cases ran
  obtain ⟨answered, rfl, among⟩ := resolve_served resolved
  have source : FromAuthority rules { registrar with dnssecKeys := keys } :=
    fun key listed => served answered rfl key (among key listed)
  apply fits_call rfl rests
  rintro _ _ _ _ _ ⟨⟩
  apply fits_dnssec
  · rw [show ahead [.writeDnssec .external] = true from rfl, Bool.or_true]
    exact ⟨external, outside, source⟩
  · intro last stays signed
    have current : last.nameserverMode = .external := stays.trans external
    exact ⟨⟨by rw [signed]; nofun, fun _ => current, by rw [signed]; nofun⟩, by rw [signed]; nofun,
      source⟩

theorem dnssec_off_fits (rests : Rests rules (.dnssec .off submitted) owing row registrar) :
    Fits rules (.dnssec .off submitted) owing [.clearKeys, .writeDnssec .off] locals row
      registrar := by
  obtain ⟨rfl, settled⟩ := rests_settled id rests
  refine fits_clear settled (fits_dnssec ?_ ?_)
  · exact settled_cleared settled
  · intro last _ signed
    exact ⟨⟨by rw [signed]; nofun, by rw [signed]; nofun, fun _ => rfl⟩, fun _ => nofun,
      fromAuthority_nil _⟩

theorem ensure_managed_fits (settled : Settled rules row registrar)
    (inside : row.dnssecMode ≠ .external) (calm : ahead (.activate :: rest) = false)
    (after : ∀ (locals : Locals) (written : DelegatedDomain) (registrar : Registration),
      written.nameserverMode = .managed → written.dnssecMode ≠ .external →
      Settled rules written registrar → Fits rules kind false rest locals written registrar) :
    Fits rules kind false (ensureManagedZone rules none ++ rest) locals row registrar := by
  have own := settled_own settled inside
  refine ensure_fits own settled (settled_moved settled own) ?_
  intro keys served still
  have off (mode : row.dnssecMode = .off) : keys = [] := by
    have unsigned : ¬ Signs none row := by
      intro signed
      have managed : row.dnssecMode = .managed := signed
      rw [mode] at managed
      cases managed
    rw [still unsigned, settled.agrees.off mode]
  have published : Settled rules row ⟨rules.managedNameservers, keys⟩ :=
    ⟨⟨settled.agrees.managed, settled.agrees.external, off⟩, fun _ => served, served⟩
  constructor
  · rw [calm]
    exact published
  · intro locals written mode dnssec
    have stays : written.dnssecMode ≠ .external := dnssec ▸ inside
    apply after locals written _ mode stays
    exact ⟨⟨fun _ => mode, fun external => absurd external stays, fun none => off (dnssec ▸ none)⟩,
      fun _ => served, served⟩

section
variable {nameservers : List Text}
  (rests : Rests rules (.nameservers .managed nameservers) owing row registrar)
include rests

theorem managed_leaves_external (external : row.dnssecMode = .external) :
    Fits rules (.nameservers .managed nameservers) owing
      (.clearKeys :: (ensureManagedZone rules (some .off) ++
        [.writeDelegation .managed nameservers true])) locals row registrar := by
  have kept (names : List Text) (owed : owing = true) :
      Owes rules (.nameservers .managed nameservers) row ⟨names, []⟩ := by
    subst owed
    exact ⟨rests.1, external, rfl⟩
  have cleared (names : List Text) :
      Rests rules (.nameservers .managed nameservers) owing row ⟨names, []⟩ := by
    cases owing with
    | true => exact kept names rfl
    | false =>
      have settled : Settled rules row registrar := rests
      exact ⟨⟨settled.agrees.managed, settled.agrees.external, fun _ => rfl⟩, fun _ => nofun,
        fromAuthority_nil _⟩
  have empty : FromManaged rules [] := fun _ => nofun
  apply fits_clear rests
  refine ensure_fits empty (cleared _) (cleared _) ?_
  intro keys _ still
  cases still (by unfold Signs; nofun)
  constructor
  · rw [show ahead [.activate, .writeDelegation .managed nameservers true] = false from rfl,
      Bool.or_false]
    exact cleared _
  · intro locals written mode dnssec
    apply fits_delegation
    · rw [show ahead [.writeDelegation .managed nameservers true] = true from rfl, Bool.or_true]
      exact ⟨mode, dnssec.trans external, rfl⟩
    · intro last _ off
      exact ⟨⟨by rw [off]; nofun, by rw [off]; nofun, fun _ => rfl⟩, fun _ => nofun,
        fromAuthority_nil _⟩

theorem managed_fits (inside : row.dnssecMode ≠ .external) :
    Fits rules (.nameservers .managed nameservers) owing
      (ensureManagedZone rules none ++ [.writeDelegation .managed nameservers false]) locals row
      registrar := by
  have nothing : ¬ Owes rules (.nameservers .managed nameservers) row registrar :=
    fun owes => inside owes.2.1
  obtain ⟨rfl, settled⟩ := rests_settled nothing rests
  apply ensure_managed_fits settled inside rfl
  intro locals written registrar mode stays current
  apply fits_delegation
  · exact current
  · intro last managed dnssec
    exact ⟨⟨fun _ => managed, fun external => absurd (dnssec.symm.trans external) stays,
      fun off => current.agrees.off (dnssec.symm.trans off)⟩,
      fun signed => current.own (dnssec.symm.trans signed), current.source⟩

end

theorem external_leaves_managed (settled : Settled rules row registrar) :
    Fits rules (.nameservers .external nameservers) false
      [.clearKeys, .updateNameservers nameservers, .writeDelegation .external nameservers true]
      locals row registrar := by
  have cleared (names : List Text) : Settled rules row ⟨names, []⟩ :=
    ⟨⟨settled.agrees.managed, settled.agrees.external, fun _ => rfl⟩, fun _ => nofun,
      fromAuthority_nil _⟩
  refine fits_clear settled (fits_update (cleared _) (fits_delegation ?_ ?_))
  · exact cleared _
  · intro last _ off
    exact ⟨⟨by rw [off]; nofun, by rw [off]; nofun, fun _ => rfl⟩, fun _ => nofun,
      fromAuthority_nil _⟩

theorem external_fits (settled : Settled rules row registrar)
    (unsigned : row.dnssecMode ≠ .managed)
    (keeps : row.dnssecMode = .external → authority nameservers = authority registrar.nameservers) :
    Fits rules (.nameservers .external nameservers) false
      [.updateNameservers nameservers, .writeDelegation .external nameservers false]
      locals row registrar := by
  have source : FromAuthority rules { registrar with nameservers := nameservers } := by
    cases mode : row.dnssecMode with
    | managed => exact absurd mode unsigned
    | external =>
      intro key listed
      rw [keeps mode]
      exact settled.source key listed
    | off =>
      intro key listed
      have none := settled.agrees.off mode
      rw [none] at listed
      cases listed
  have moved : Settled rules row { registrar with nameservers := nameservers } :=
    ⟨{ settled.agrees with }, settled.own, source⟩
  refine fits_update settled (fits_delegation ?_ ?_)
  · exact moved
  · intro last external dnssec
    exact ⟨⟨fun managed => absurd (dnssec.symm.trans managed) unsigned, fun _ => external,
      fun off => settled.agrees.off (dnssec.symm.trans off)⟩,
      fun managed => absurd (dnssec.symm.trans managed) unsigned, source⟩

end Fitting

variable {row : DelegatedDomain} {registrar : Registration}

variable {locals : Locals} {row' : DelegatedDomain} {work : Option KeyWork}

section Running
variable {rules : KeyRules} {kind : KeyJobKind} {owing : Bool} {desk : KeyDesk}

theorem applyNameservers_fits {mode : NameserverMode}
    (rests : Rests rules (.nameservers mode nameservers) owing desk.row
      desk.registrar) (keeps : KeepsAuthority (.nameservers mode nameservers) desk)
    (calls : applyNameservers rules mode nameservers desk.row = .ok todo) (locals : Locals) :
    Fits rules (.nameservers mode nameservers) owing todo locals desk.row desk.registrar := by
  cases mode with
  | managed =>
    simp only [applyNameservers] at calls
    split at calls
    · cases calls
    cases calls
    by_cases external : desk.row.dnssecMode = .external
    · rw [show incompatibleDnssec .managed desk.row = true by simp [incompatibleDnssec, external]]
      exact managed_leaves_external rests external
    · rw [show incompatibleDnssec .managed desk.row = false by
        simp [incompatibleDnssec, external]]
      exact managed_fits rests external
  | external =>
    obtain ⟨rfl, settled⟩ := rests_settled id rests
    unfold applyNameservers at calls
    split at calls
    · cases calls
    split at calls
    · cases calls
    cases calls
    by_cases managed : desk.row.dnssecMode = .managed
    · rw [show incompatibleDnssec .external desk.row = true by simp [incompatibleDnssec, managed]]
      exact external_leaves_managed settled
    · rw [show incompatibleDnssec .external desk.row = false by
        simp [incompatibleDnssec, managed]]
      exact external_fits settled managed keeps

theorem applyDnssec_fits
    (rests : Rests rules (.dnssec mode submitted) owing desk.row desk.registrar)
    (calls : applyDnssec rules mode submitted desk.row = .ok todo) (locals : Locals) :
    Fits rules (.dnssec mode submitted) owing todo locals desk.row desk.registrar := by
  unfold applyDnssec at calls
  split at calls
  · cases calls
  cases mode with
  | managed =>
    dsimp only at calls
    split at calls
    · cases calls
    · rename_i managed
      cases calls
      exact managed_dnssec_fits rests (not_not.mp managed)
  | external =>
    dsimp only at calls
    split at calls
    · cases calls
    · rename_i external
      cases calls
      exact external_dnssec_fits rests (not_not.mp external)
  | off =>
    cases calls
    exact dnssec_off_fits rests

theorem ensure_job_fits (settled : Settled rules desk.row desk.registrar)
    (inside : desk.row.dnssecMode ≠ .external) (locals : Locals) :
    Fits rules kind false (ensureManagedZone rules none) locals desk.row desk.registrar := by
  apply ensure_managed_fits settled inside rfl
  intro locals written registrar _ _ current
  exact current

theorem callsOf_fits (rests : Rests rules kind owing desk.row desk.registrar)
    (keeps : KeepsAuthority kind desk) (calls : callsOf rules kind desk.row = .ok todo)
    (locals : Locals) : Fits rules kind owing todo locals desk.row desk.registrar := by
  cases kind with
  | nameservers mode nameservers => exact applyNameservers_fits rests keeps calls locals
  | dnssec mode submitted => exact applyDnssec_fits rests calls locals
  | fulfilOrder =>
    obtain ⟨rfl, settled⟩ := rests_settled id rests
    cases calls
    exact ensure_job_fits settled keeps locals
  | reconcileDomain =>
    obtain ⟨rfl, settled⟩ := rests_settled id rests
    simp only [callsOf] at calls
    split at calls
    · rename_i managed
      cases calls
      apply ensure_job_fits settled
      intro external
      have mode := settled.agrees.external external
      rw [managed] at mode
      cases mode
    · cases calls
      exact settled

/-! What else writes the row leaves all of this as it is. -/

structure SameModes (before after : DelegatedDomain) : Prop where
  nameservers : after.nameserverMode = before.nameserverMode
  dnssec : after.dnssecMode = before.dnssecMode

section
variable {row row' : DelegatedDomain} {registrar : Registration} (same : SameModes row row')
include same

theorem settled_same (settled : Settled rules row registrar) :
    Settled rules row' registrar := by
  obtain ⟨⟨managed, external, off⟩, own, source⟩ := settled
  rw [← same.dnssec, ← same.nameservers] at managed external
  rw [← same.dnssec] at off own
  exact ⟨⟨managed, external, off⟩, own, source⟩

theorem owes_same (owes : Owes rules kind row registrar) :
    Owes rules kind row' registrar := by
  unfold Owes at owes ⊢
  rw [same.nameservers, same.dnssec]
  exact owes

theorem rests_same (rests : Rests rules kind owing row registrar) :
    Rests rules kind owing row' registrar := by
  cases owing with
  | true => exact owes_same same rests
  | false => exact settled_same same rests

end

theorem run_same {next : Locals} {written : DelegatedDomain}
    {registrar' : Registration} (same : SameModes row row')
    (ran : call.run rules answer locals row' registrar = some (next, written, registrar')) :
    ∃ earlier, call.run rules answer locals row registrar = some (next, earlier, registrar') ∧
      SameModes earlier written := by
  cases call with
  | readZone mode =>
    simp only [KeyCall.run, same.dnssec] at ran ⊢
    cases ran
    exact ⟨row, rfl, same⟩
  | fetchKeys =>
    simp only [KeyCall.run] at ran
    split at ran
    · rename_i signed
      split at ran
      · cases ran
      · cases ran
      · cases ran
        exact ⟨row, by simp only [KeyCall.run, signed, if_true], same⟩
    · rename_i unsigned
      cases ran
      exact ⟨row, if_neg unsigned, same⟩
  | setManagedKeys =>
    simp only [KeyCall.run] at ran
    split at ran
    · rename_i signed
      cases ran
      exact ⟨row, if_pos signed, same⟩
    · rename_i unsigned
      cases ran
      exact ⟨row, if_neg unsigned, same⟩
  | activate =>
    cases ran
    exact ⟨_, rfl, rfl, same.dnssec⟩
  | resolveKeys submitted =>
    simp only [KeyCall.run] at ran
    split at ran
    · cases ran
    · rename_i keys dsRecords resolved
      cases ran
      exact ⟨row, by simp only [KeyCall.run, resolved], same⟩
  | writeDelegation mode nameservers incompatible =>
    cases ran
    refine ⟨_, rfl, ?_⟩
    cases incompatible with
    | true => exact ⟨rfl, rfl⟩
    | false => exact ⟨rfl, same.dnssec⟩
  | writeDnssec mode =>
    cases ran
    exact ⟨_, rfl, same.nameservers, rfl⟩
  | clearKeys | updateNameservers | setKeys =>
    cases ran
    exact ⟨row, rfl, same⟩

theorem fits_same
    (same : SameModes row row') (fits : Fits rules kind owing todo locals row registrar) :
    Fits rules kind owing todo locals row' registrar := by
  induction todo generalizing locals row row' registrar with
  | nil => exact settled_same same fits
  | cons call rest ih =>
    refine ⟨rests_same same fits.1, ?_⟩
    intro answer answers next written registrar' ran
    obtain ⟨earlier, before, alike⟩ := run_same same ran
    exact ih alike (fits.2 answer answers next earlier registrar' before)

/-- An earlier attempt of the job has ended ahead of its commit. -/
def resumes (desk : KeyDesk) (job : OperationId) (kind : KeyJobKind) : Bool :=
  desk.jobs job = some ⟨kind, true⟩

structure KeysSafe (rules : KeyRules) (desk : KeyDesk) : Prop where
  alone : ∀ v w one other, desk.works v = some one → desk.works w = some other → v = w
  owed : (∀ v, desk.works v = none) → ∀ job row, desk.jobs job = some row → row.owing = true →
    Owes rules row.kind desk.row desk.registrar
  settled : (∀ v, desk.works v = none) → (∀ job row, desk.jobs job = some row → row.owing = false) →
    Settled rules desk.row desk.registrar
  own : ∀ w work, desk.works w = some work → ∀ job row, desk.jobs job = some row →
    row.owing = true → job = work.job ∧ row.kind = work.kind
  fits : ∀ w work, desk.works w = some work →
    Fits rules work.kind (resumes desk work.job work.kind) work.todo work.locals desk.row
      desk.registrar

theorem goOn_own : (goOn w work desk).works w = work :=
  update_self ..

theorem goOn_other {v : ProcessId} (other : v ≠ w) :
    (goOn w work desk).works v = desk.works v :=
  update_of_ne other ..

theorem alone_idle (safe : KeysSafe rules desk) {work : KeyWork} (found : desk.works w = some work)
    {v : ProcessId} (other : v ≠ w) : desk.works v = none := by
  cases runs : desk.works v with
  | none => rfl
  | some one => exact absurd (safe.alone v w one work runs found) other

theorem goOn_safe {work : KeyWork} (idle : ∀ v, v ≠ w → desk.works v = none)
    (own : ∀ job row, desk.jobs job = some row → row.owing = true →
      job = work.job ∧ row.kind = work.kind)
    (fits : Fits rules work.kind (resumes desk work.job work.kind) work.todo work.locals desk.row
      desk.registrar) : KeysSafe rules (goOn w (some work) desk) := by
  have mine {v : ProcessId} {one : KeyWork}
      (found : (goOn w (some work) desk).works v = some one) : v = w ∧ one = work := by
    by_cases same : v = w
    · subst same
      rw [goOn_own] at found
      cases found
      exact ⟨rfl, rfl⟩
    · rw [goOn_other same, idle v same] at found
      cases found
  have busy : ¬ ∀ v, (goOn w (some work) desk).works v = none := by
    intro none
    have stops := none w
    rw [goOn_own] at stops
    cases stops
  constructor
  · intro v u one other first second
    exact (mine first).1.trans (mine second).1.symm
  · exact fun none => absurd none busy
  · exact fun none => absurd none busy
  · intro v one found
    obtain ⟨rfl, rfl⟩ := mine found
    exact own
  · intro v one found
    obtain ⟨rfl, rfl⟩ := mine found
    exact fits

theorem ended_safe (idle : ∀ v, v ≠ w → desk.works v = none)
    (owed : ∀ job row, desk.jobs job = some row → row.owing = true →
      Owes rules row.kind desk.row desk.registrar)
    (settled : (∀ job row, desk.jobs job = some row → row.owing = false) →
      Settled rules desk.row desk.registrar) : KeysSafe rules (goOn w none desk) := by
  have nobody (v : ProcessId) : (goOn w none desk).works v = none := by
    by_cases same : v = w
    · subst same
      exact goOn_own
    · exact (goOn_other same).trans (idle v same)
  have absent {v : ProcessId} {one : KeyWork}
      (found : (goOn w none desk).works v = some one) : False := by
    rw [nobody] at found
    cases found
  constructor
  · exact fun v u one other first _ => (absent first).elim
  · exact fun _ => owed
  · exact fun _ => settled
  · exact fun v one found => (absent found).elim
  · exact fun v one found => (absent found).elim

theorem resumes_listed {row : KeyJob} (listed : desk.jobs job = some row) :
    resumes desk job row.kind = row.owing := by
  obtain ⟨kind, owing⟩ := row
  cases owing with
  | true | false => simp [resumes, listed]

theorem idle_rests (safe : KeysSafe rules desk) {row : KeyJob} (idle : ∀ v, desk.works v = none)
    (first : ∀ other row, desk.jobs other = some row → row.owing = true → other = job)
    (listed : desk.jobs job = some row) :
    Rests rules row.kind (resumes desk job row.kind) desk.row desk.registrar := by
  rw [resumes_listed listed]
  cases owing : row.owing with
  | true => exact safe.owed idle job row listed owing
  | false =>
    apply safe.settled idle
    intro other found listed'
    cases owes : found.owing with
    | false => rfl
    | true =>
      cases first other found listed' owes
      rw [listed] at listed'
      cases listed'
      rw [owing] at owes
      cases owes

theorem start_safe (safe : KeysSafe rules desk) (w : ProcessId) (job : OperationId)
    (idle : ∀ v, desk.works v = none)
    (first : ∀ other row, desk.jobs other = some row → row.owing = true → other = job)
    (keeps : ∀ row, desk.jobs job = some row → KeepsAuthority row.kind desk) :
    KeysSafe rules (desk.start rules w job) := by
  unfold start
  split
  · rename_i row _ listed
    split
    · rename_i call rest calls
      apply goOn_safe (fun v _ => idle v)
      · intro other found listed' owing
        cases first other found listed' owing
        rw [listed] at listed'
        cases listed'
        exact ⟨rfl, rfl⟩
      · exact callsOf_fits (idle_rests safe idle first listed) (keeps row listed) calls {}
    · exact safe
  · exact safe

theorem markJob_jobs (job other : OperationId) (mark : Bool → Bool) :
    (markJob job kind mark desk).jobs other = (desk.jobs other).map fun row =>
      if other = job ∧ row.kind = kind then { row with owing := mark row.owing } else row := by
  unfold markJob
  split
  · rename_i row listed
    split
    · rename_i same
      by_cases mine : other = job
      · subst mine
        simp only [Table.put, update_self, listed, Option.map_some, same, and_self, if_true]
      · simp only [Table.put, update_of_ne mine, mine, false_and, if_false, Option.map_id']
    · rename_i apart
      by_cases mine : other = job
      · subst mine
        simp only [listed, Option.map_some, apart, and_false, if_false]
      · simp only [mine, false_and, if_false, Option.map_id']
  · rename_i absent
    by_cases mine : other = job
    · subst mine
      simp only [absent, Option.map_none]
    · simp only [mine, false_and, if_false, Option.map_id']

theorem markJob_rest (desk : KeyDesk) (job : OperationId) (kind : KeyJobKind) (mark : Bool → Bool) :
    (markJob job kind mark desk).row = desk.row ∧
      (markJob job kind mark desk).registrar = desk.registrar ∧
      (markJob job kind mark desk).works = desk.works := by
  unfold markJob
  split
  · split
    · exact ⟨rfl, rfl, rfl⟩
    · exact ⟨rfl, rfl, rfl⟩
  · exact ⟨rfl, rfl, rfl⟩

theorem stop_safe (safe : KeysSafe rules desk) (w : ProcessId)
    (left : ∀ work, desk.works w = some work → ahead work.todo = true →
      desk.hasJob work.job work.kind = true) : KeysSafe rules (desk.stop w) := by
  unfold stop
  split
  · exact safe
  rename_i work found
  obtain ⟨row, registrar, works⟩ := markJob_rest desk work.job work.kind fun owing =>
    owing || ahead work.todo
  have rests : Rests rules work.kind (resumes desk work.job work.kind || ahead work.todo) desk.row
      desk.registrar := (safe.fits w work found).1
  have marks {listed : KeyJob} (stood : desk.jobs work.job = some listed)
      (same : listed.kind = work.kind) :
      resumes desk work.job work.kind = listed.owing := same ▸ resumes_listed stood
  apply ended_safe
  · intro v other
    rw [works]
    exact alone_idle safe found other
  · intro job row' listed owing
    rw [row, registrar]
    rw [markJob_jobs] at listed
    obtain ⟨before, stood, marked⟩ := Option.map_eq_some_iff.mp listed
    split at marked
    · rename_i mine
      obtain ⟨rfl, same⟩ := mine
      subst marked
      have leads : (before.owing || ahead work.todo) = true := owing
      rw [marks stood same, leads] at rests
      rw [← same] at rests
      exact rests
    · rename_i apart
      subst marked
      exact absurd (safe.own w work found job before stood owing) apart
  · intro unmarked
    rw [row, registrar]
    have calm : (resumes desk work.job work.kind || ahead work.todo) = false := by
      cases stood : desk.jobs work.job with
      | none =>
        have moved : ¬ ahead work.todo = true := by
          intro leads
          have has := left work found leads
          rw [hasJob, stood] at has
          cases has
        simp [resumes, stood, moved]
      | some listed =>
        by_cases same : listed.kind = work.kind
        · rw [marks stood same]
          apply unmarked work.job { listed with owing := listed.owing || ahead work.todo }
          rw [markJob_jobs, stood, Option.map_some, if_pos ⟨rfl, same⟩]
        · have moved : ¬ ahead work.todo = true := by
            intro leads
            have has := left work found leads
            simp [hasJob, stood, same] at has
          have fresh : resumes desk work.job work.kind = false := by
            rw [resumes, stood]
            apply decide_eq_false
            rintro ⟨⟩
            exact same rfl
          rw [fresh, Bool.eq_false_of_not_eq_true moved]
          rfl
    rw [calm] at rests
    exact rests

theorem raised_calm (raised : call.run rules answer locals row registrar = none) :
    ahead (call :: rest) = false := by
  cases call with
  | fetchKeys | resolveKeys | clearKeys | updateNameservers | readZone | setKeys
  | setManagedKeys => rfl
  | activate | writeDelegation | writeDnssec => cases raised

section
variable (safe : KeysSafe rules desk)
include safe

theorem next_safe (w : ProcessId) (answer : Option (List DnsKey))
    (answers : ∀ work, desk.works w = some work → Answers rules work.call answer desk.registrar) :
    KeysSafe rules (desk.next rules w answer) := by
  unfold KeyDesk.next
  split
  · exact safe
  rename_i work found
  split
  · rename_i raised
    apply stop_safe safe
    intro work' found' leads
    rw [found] at found'
    cases found'
    rw [KeyWork.todo, raised_calm raised] at leads
    cases leads
  rename_i locals row registrar ran
  have follows := (safe.fits w work found).2 answer (answers work found) locals row registrar ran
  have own := safe.own w work found
  split
  · rename_i last
    rw [last] at follows
    obtain ⟨row', registrar', works⟩ := markJob_rest
      { desk with row := row, registrar := registrar } work.job work.kind fun _ => false
    apply ended_safe
    · intro v other
      rw [works]
      exact alone_idle safe found other
    · intro job listed marked owing
      rw [markJob_jobs] at marked
      obtain ⟨before, stood, was⟩ := Option.map_eq_some_iff.mp marked
      split at was
      · subst was
        cases owing
      · rename_i apart
        subst was
        exact absurd (own job before stood owing) apart
    · intro _
      rw [row', registrar']
      exact follows
  · rename_i call rest remains
    rw [remains] at follows
    exact goOn_safe (fun v other => alone_idle safe found other) own follows

theorem writeColumns_safe
    (change : DelegatedDomain → DelegatedDomain) : KeysSafe rules (desk.writeColumns change) := by
  have same : SameModes desk.row (desk.writeColumns change).row := ⟨rfl, rfl⟩
  exact ⟨safe.alone,
    fun idle job row listed owing => owes_same same (safe.owed idle job row listed owing),
    fun idle none => settled_same same (safe.settled idle none), safe.own,
    fun w work found => fits_same same (safe.fits w work found)⟩

theorem jobs_safe (jobs : Table OperationId KeyJob)
    (same : ∀ job kind, jobs job = some ⟨kind, true⟩ ↔ desk.jobs job = some ⟨kind, true⟩) :
    KeysSafe rules { desk with jobs := jobs } := by
  have stood {job : OperationId} {row : KeyJob} (listed : jobs job = some row)
      (owing : row.owing = true) : desk.jobs job = some row := by
    obtain ⟨kind, flag⟩ := row
    cases owing
    exact (same job kind).mp listed
  have flags (job : OperationId) (kind : KeyJobKind) :
      resumes { desk with jobs := jobs } job kind = resumes desk job kind := by
    simp only [resumes, same]
  constructor
  · exact safe.alone
  · exact fun idle job row listed owing => safe.owed idle job row (stood listed owing) owing
  · intro idle none
    apply safe.settled idle
    intro job row listed
    cases owing : row.owing with
    | false => rfl
    | true =>
      obtain ⟨kind, flag⟩ := row
      cases owing
      have still := none job ⟨kind, true⟩ ((same job kind).mpr listed)
      cases still
  · exact fun w work found job row listed owing =>
      safe.own w work found job row (stood listed owing) owing
  · intro w work found
    rw [flags]
    exact safe.fits w work found

theorem enqueue_safe (job : OperationId) (kind : KeyJobKind) :
    KeysSafe rules (desk.enqueue job kind) := by
  unfold enqueue
  split
  · exact safe
  rename_i absent
  apply jobs_safe safe
  intro other kind'
  by_cases mine : other = job
  · subst mine
    simp [Table.put, absent]
  · simp [Table.put, mine]

theorem drop_safe (calm : ∀ row, desk.jobs job = some row → row.owing = false) :
    KeysSafe rules { desk with jobs := desk.jobs.erase job } := by
  apply jobs_safe safe
  intro other kind
  by_cases mine : other = job
  · subst mine
    simp only [Table.erase, update_self]
    constructor
    · intro gone
      cases gone
    · intro listed
      have quiet := calm _ listed
      cases quiet
  · simp [Table.erase, mine]

end

end Running

variable {desk : KeyDesk}

theorem keyStep_safe (rules : KeyRules) (step : KeyStep)
    (safe : KeysSafe rules desk) (may : mayAnswer rules step desk) (order : keepsOrder step desk) :
    KeysSafe rules (keyStep rules step desk) := by
  cases step with
  | start w job => exact start_safe safe w job order.1 order.2.1 order.2.2
  | next w answer => exact next_safe safe w answer may
  | stop w => exact stop_safe safe w order
  | columns change => exact writeColumns_safe safe change
  | enqueue job kind => exact enqueue_safe safe job kind
  | drop job => exact drop_safe safe order

theorem keysStart_safe {rules : KeyRules} (start : KeysStart rules desk) :
    KeysSafe rules desk := by
  constructor
  · intro v w one other found
    rw [start.works] at found
    cases found
  · intro _ job row listed owing
    rw [start.jobs job row listed] at owing
    cases owing
  · exact fun _ _ => start.settled
  · intro w work found
    rw [start.works] at found
    cases found
  · intro w work found
    rw [start.works] at found
    cases found

theorem safe_source {rules : KeyRules} (safe : KeysSafe rules desk) :
    FromAuthority rules desk.registrar := by
  by_cases idle : ∀ v, desk.works v = none
  · by_cases none : ∀ job row, desk.jobs job = some row → row.owing = false
    · exact (safe.settled idle none).source
    · push Not at none
      obtain ⟨job, row, listed, owing⟩ := none
      exact owes_source (safe.owed idle job row listed (Bool.eq_true_of_not_eq_false owing))
  · push Not at idle
    obtain ⟨w, busy⟩ := idle
    obtain ⟨work, found⟩ := Option.ne_none_iff_exists'.mp busy
    exact rests_source (safe.fits w work found).1

/-- In every run the keys at the registrar are keys of the authority that the domain is
delegated to, and the row agrees with the registrar once nothing is left to do. -/
theorem published_keys_follow (rules : KeyRules) {desk : KeyDesk} (start : KeysStart rules desk)
    (steps : List KeyStep) (admitted : (orderedKeyJobs rules).admits desk steps) :
    FromAuthority rules ((orderedKeyJobs rules).run desk steps).registrar ∧
      (KeysQuiescent ((orderedKeyJobs rules).run desk steps) →
        RowAgrees ((orderedKeyJobs rules).run desk steps).row
          ((orderedKeyJobs rules).run desk steps).registrar) := by
  have safe : KeysSafe rules ((orderedKeyJobs rules).run desk steps) :=
    (orderedKeyJobs rules).run_keeps (fun step _ kept may => keyStep_safe rules step kept may.1 may.2)
      steps desk (keysStart_safe start) admitted
  constructor
  · exact safe_source safe
  · intro quiescent
    apply (safe.settled quiescent.works ?_).agrees
    intro job row listed
    rw [quiescent.jobs] at listed
    cases listed

def exampleKey : DnsKey := ⟨257, 3, 13, "key".toList⟩

def elsewhere : List Text := ["ns1.example.net".toList, "ns2.example.net".toList]

def keyRules : KeyRules where
  managedNameservers := ["ns1.zone.dev".toList, "ns2.zone.dev".toList]
  makeDs key := [⟨1, key.alg, 2, "AB".toList⟩]
  serves names key := names = authority elsewhere ∧ key = exampleKey

def delegatedKeys (kind : KeyJobKind) (mode : DnssecMode) (keys : List DnsKey) : KeyDesk where
  row := { registeredExample with nameserverMode := .external, dnssecMode := mode }
  registrar := ⟨elsewhere, keys⟩
  works _ := none
  jobs job := if job = 0 then some ⟨kind, false⟩ else none

theorem delegatedKeys_jobs {kind : KeyJobKind} {keys : List DnsKey} (job : OperationId)
    (row : KeyJob) (listed : (delegatedKeys kind mode keys).jobs job = some row) :
    job = 0 ∧ row = ⟨kind, false⟩ := by
  simp only [delegatedKeys] at listed
  split at listed
  · cases listed
    exact ⟨‹_›, rfl⟩
  · cases listed

def signExample : KeyJobKind := .dnssec .external [⟨1, 13, 2, "ab".toList⟩]

theorem delegated_unsigned_start : KeysStart keyRules (delegatedKeys signExample .off []) where
  works _ := rfl
  jobs job row listed := by rw [(delegatedKeys_jobs job row listed).2]
  settled := ⟨⟨nofun, nofun, fun _ => rfl⟩, nofun, fromAuthority_nil _⟩

def signSteps : List KeyStep :=
  [.start 0 0, .next 0 (some [exampleKey]), .next 0 none, .next 0 none, .drop 0]

def signedDesk : KeyDesk :=
  (orderedKeyJobs keyRules).run (delegatedKeys signExample .off []) signSteps

/-- The keys elsewhere are resolved, matched and published. -/
theorem resolved_keys_published : FromAuthority keyRules signedDesk.registrar ∧
    (KeysQuiescent signedDesk → RowAgrees signedDesk.row signedDesk.registrar) := by
  apply published_keys_follow keyRules delegated_unsigned_start signSteps
  refine ⟨⟨trivial, fun _ => rfl, ?_, ?_⟩, ⟨?_, trivial⟩, ⟨?_, trivial⟩, ⟨?_, trivial⟩,
    ⟨trivial, ?_⟩, trivial⟩
  · intro job row listed owing
    rw [(delegatedKeys_jobs job row listed).2] at owing
    cases owing
  · intro row listed
    rw [(delegatedKeys_jobs 0 row listed).2]
    trivial
  · rintro work ⟨⟩ keys ⟨⟩ key listed
    exact ⟨rfl, List.mem_singleton.mp listed⟩
  · rintro work ⟨⟩
    trivial
  · rintro work ⟨⟩
    trivial
  · rintro row ⟨⟩
    rfl

def moveExample : KeyJobKind := .nameservers .external ["ns1.example.org".toList]

def moveSteps : List KeyStep := [.start 0 0, .next 0 none, .next 0 none, .drop 0]

theorem delegated_signed_start :
    KeysStart keyRules (delegatedKeys moveExample .external [exampleKey]) where
  works _ := rfl
  jobs job row listed := by rw [(delegatedKeys_jobs job row listed).2]
  settled := ⟨⟨nofun, fun _ => rfl, nofun⟩, nofun, fun _ listed =>
    ⟨rfl, List.mem_singleton.mp listed⟩⟩

/-- A domain with external DNSSEC goes to other external nameservers, with its keys. -/
theorem moved_domain_keeps_keys :
    ¬ ∀ (rules : KeyRules) (desk : KeyDesk) (steps : List KeyStep), KeysStart rules desk →
      (keyJobs rules).admits desk steps → KeysQuiescent ((keyJobs rules).run desk steps) →
      FromAuthority rules ((keyJobs rules).run desk steps).registrar ∧
        RowAgrees ((keyJobs rules).run desk steps).row ((keyJobs rules).run desk steps).registrar := by
  intro always
  have moved := always keyRules (delegatedKeys moveExample .external [exampleKey]) moveSteps
    delegated_signed_start
  have admitted : (keyJobs keyRules).admits
      (delegatedKeys moveExample .external [exampleKey]) moveSteps := by
    refine ⟨trivial, ?_, ?_, trivial, trivial⟩
    · rintro work ⟨⟩
      trivial
    · rintro work ⟨⟩
      trivial
  have quiescent : KeysQuiescent ((keyJobs keyRules).run
      (delegatedKeys moveExample .external [exampleKey]) moveSteps) := by
    constructor
    · intro w
      by_cases mine : w = 0
      · subst mine
        rfl
      · exact (update_of_ne mine ..).trans
          ((update_of_ne mine ..).trans (update_of_ne mine ..))
    · intro job
      by_cases mine : job = 0
      · subst mine
        rfl
      · exact (update_of_ne mine ..).trans
          ((update_of_ne mine ..).trans (if_neg mine))
  have served := (moved admitted quiescent).1 exampleKey (List.mem_singleton.mpr rfl)
  exact absurd served.1 (by decide +kernel)

end HyruleCloud.RegistrarKeys
