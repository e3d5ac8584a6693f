import HyruleCloud.ZoneCopies

/-!
The copies of a zone agree whenever nothing is left to do. DNS control is at most one
revision ahead of the row, and then a write is under way, or owed by a job. A zone read
before a commit is below what DNS control holds by its push, unless a delegation has
deleted the zone and still owes its commit.
-/

namespace HyruleCloud.Zones

open Interaction CopyDesk Function

def Owed (desk : CopyDesk) (kind : ZoneJobKind) : Prop :=
  ∃ job, desk.jobs job = some ⟨kind, true⟩

def Deleted (desk : CopyDesk) : Prop :=
  Owed desk .delegate ∨ ∃ w job seen, desk.works w = some (.delegating job seen) ∧
    seen.nameserverMode = .managed

def Ahead (desk : CopyDesk) : Prop :=
  ∃ zone, desk.control = some zone ∧ desk.row.zoneRevision < zone.revision

def Behind (desk : CopyDesk) (revision : Nat) : Prop :=
  revision < desk.row.zoneRevision ∧ ∃ zone, desk.control = some zone ∧ revision < zone.revision

/-- The row has been written since it was read: it is managed, and DNS control has the later
zone, or a delegation has deleted it. -/
def Outdated (desk : CopyDesk) (revision : Nat) : Prop :=
  desk.row.nameserverMode = .managed ∧ (Behind desk revision ∨ Deleted desk)

/-- `w` has the row, which is managed, and will write its next revision. -/
structure Locked (desk : CopyDesk) (w : ProcessId) (written : ManagedDomain) : Prop where
  holds : desk.holder = some w
  managed : desk.row.nameserverMode = .managed
  stays : written.nameserverMode = .managed
  next : written.zoneRevision = desk.row.zoneRevision + 1

def WorkSafe (desk : CopyDesk) (w : ProcessId) : CopyWork → Prop
  | .pushing _ written _ => Locked desk w written
  | .writing _ written zone =>
    Locked desk w written ∧ (desk.control = some ⟨written.zoneRevision, zone⟩ ∨ Deleted desk)
  | .reading _ revision => revision ≤ desk.row.zoneRevision ∧
      (revision = desk.row.zoneRevision ∨ Outdated desk revision)
  | .refreshing _ revision records => revision ≤ desk.row.zoneRevision ∧
      (⟨revision, records⟩ = desk.held ∨ Outdated desk revision)
  | .managing _ _ => desk.control = some desk.held ∨ Ahead desk ∨ Deleted desk
  | .settling _ => desk.row.nameserverMode = .managed
  | .deleting _ seen => seen.nameserverMode = .external → desk.row.nameserverMode = .external
  | .delegating _ seen => (seen.nameserverMode = .managed → desk.control = none) ∧
      (seen.nameserverMode = .external → desk.row.nameserverMode = .external)

structure CopiesSafe (desk : CopyDesk) : Prop where
  works : ∀ w work, desk.works w = some work → WorkSafe desk w work
  apart : ∀ v w one other, desk.works v = some one → desk.works w = some other →
    one.kind = .manage → other.kind = .delegate → False
  bound : ∀ zone, desk.control = some zone → zone.revision ≤ desk.row.zoneRevision + 1
  ahead : Ahead desk → Owed desk .write ∨
    ∃ w job written zone, desk.works w = some (.writing job written zone)
  managed : desk.row.nameserverMode = .managed →
    desk.control = some desk.held ∨ Ahead desk ∨ Deleted desk ∨
      (desk.control = none ∧ Owed desk .manage)
  external : desk.row.nameserverMode = .external → desk.control = none ∨
    (desk.control = some desk.held ∧
      (Owed desk .manage ∨ ∃ w job, desk.works w = some (.managing job true)))

variable {revision : Nat} {written : ManagedDomain} {next : Option CopyWork} {one other : CopyWork}
  {job : ZoneJobId} {zone records : Zone}

section Frames
variable {desk after : CopyDesk} {w v : ProcessId} {work : CopyWork}

structure SameCopies (before after : CopyDesk) : Prop where
  revision : after.row.zoneRevision = before.row.zoneRevision
  mode : after.row.nameserverMode = before.row.nameserverMode
  records : after.records = before.records
  control : after.control = before.control

section
variable (same : SameCopies desk after)
include same

theorem SameCopies.held : after.held = desk.held := by
  simp only [CopyDesk.held, same.revision, same.records]

theorem SameCopies.ahead : Ahead after ↔ Ahead desk := by
  simp only [Ahead, same.revision, same.control]

theorem SameCopies.behind (revision : Nat) :
    Behind after revision ↔ Behind desk revision := by
  simp only [Behind, same.revision, same.control]

theorem outdated_same (deleted : Deleted desk → Deleted after) (outdated : Outdated desk revision) :
    Outdated after revision :=
  ⟨same.mode.trans outdated.1, outdated.2.imp (same.behind revision).mpr deleted⟩

theorem locked_same (holds : desk.holder = some v → after.holder = some v)
    (locked : Locked desk v written) :
    Locked after v written where
  holds := holds locked.holds
  managed := same.mode.trans locked.managed
  stays := locked.stays
  next := by rw [same.revision]; exact locked.next

theorem work_same (deleted : Deleted desk → Deleted after)
    (holds : desk.holder = some v → after.holder = some v) (safe : WorkSafe desk v work) :
    WorkSafe after v work := by
  cases work with
  | pushing job written zone => exact locked_same same holds safe
  | writing job written zone =>
    refine ⟨locked_same same holds safe.1, ?_⟩
    rw [same.control]
    exact safe.2.imp_right deleted
  | reading job revision =>
    simp only [WorkSafe, same.revision]
    exact ⟨safe.1, safe.2.imp_right (outdated_same same deleted)⟩
  | refreshing job revision records =>
    simp only [WorkSafe, same.revision, same.held]
    exact ⟨safe.1, safe.2.imp_right (outdated_same same deleted)⟩
  | managing job accepted =>
    simp only [WorkSafe, same.control, same.held, same.ahead]
    exact safe.imp_right (Or.imp_right deleted)
  | settling job => exact same.mode.trans safe
  | deleting job seen =>
    simp only [WorkSafe, same.mode]
    exact safe
  | delegating job seen =>
    simp only [WorkSafe, same.mode, same.control]
    exact safe

end

/-- A step of `w` alone, which leaves both copies. What `w` drops, it owes. -/
structure Quiet (w : ProcessId) (desk after : CopyDesk) : Prop where
  same : SameCopies desk after
  others : ∀ v, v ≠ w → after.works v = desk.works v
  locks : ∀ v, v ≠ w → desk.holder = some v → after.holder = some v
  deleted : Deleted desk → Deleted after
  owed : ∀ kind, Owed desk kind → Owed after kind
  writing : ∀ job written zone, desk.works w = some (.writing job written zone) →
    after.works w = desk.works w ∨ Owed after .write
  managing : ∀ job, desk.works w = some (.managing job true) →
    after.works w = desk.works w ∨ Owed after .manage

theorem quiet_safe (safe : CopiesSafe desk) (quiet : Quiet w desk after)
    (stands : after.works w = next) (own : ∀ work, next = some work → WorkSafe after w work)
    (apart : ∀ v one other, desk.works v = some other → next = some one → v ≠ w →
      (one.kind = .manage → other.kind ≠ .delegate) ∧ (one.kind = .delegate → other.kind ≠ .manage)) :
    CopiesSafe after where
  works v work found := by
    by_cases same : v = w
    · subst same
      exact own work (stands.symm.trans found)
    · rw [quiet.others v same] at found
      exact work_same quiet.same quiet.deleted (quiet.locks v same) (safe.works v work found)
  apart v u one other first second manages delegates := by
    by_cases mine : v = w
    · by_cases too : u = w
      · rw [mine] at first
        rw [too, first] at second
        cases second
        rw [manages] at delegates
        cases delegates
      · rw [quiet.others u too] at second
        rw [mine, stands] at first
        exact (apart u one other second first too).1 manages delegates
    · rw [quiet.others v mine] at first
      by_cases too : u = w
      · rw [too, stands] at second
        exact (apart v other one first second mine).2 delegates manages
      · rw [quiet.others u too] at second
        exact safe.apart v u one other first second manages delegates
  bound zone found := by
    rw [quiet.same.control] at found
    rw [quiet.same.revision]
    exact safe.bound zone found
  ahead leads := by
    rcases safe.ahead (quiet.same.ahead.mp leads) with owed | ⟨v, job, written, zone, writes⟩
    · exact Or.inl (quiet.owed _ owed)
    by_cases mine : v = w
    · subst mine
      rcases quiet.writing job written zone writes with stays | owed
      · exact Or.inr ⟨v, job, written, zone, stays.trans writes⟩
      · exact Or.inl owed
    · exact Or.inr ⟨v, job, written, zone, (quiet.others v mine).trans writes⟩
  managed mode := by
    rw [quiet.same.mode] at mode
    rw [quiet.same.control, quiet.same.held, quiet.same.ahead]
    exact (safe.managed mode).imp_right
      (Or.imp_right (Or.imp quiet.deleted (And.imp_right (quiet.owed _))))
  external mode := by
    rw [quiet.same.mode] at mode
    rw [quiet.same.control, quiet.same.held]
    rcases safe.external mode with empty | ⟨holds, owed | ⟨v, job, manages⟩⟩
    · exact Or.inl empty
    · exact Or.inr ⟨holds, Or.inl (quiet.owed _ owed)⟩
    · refine Or.inr ⟨holds, ?_⟩
      by_cases mine : v = w
      · subst mine
        rcases quiet.managing job manages with stays | owed
        · exact Or.inr ⟨v, job, stays.trans manages⟩
        · exact Or.inl owed
      · exact Or.inr ⟨v, job, (quiet.others v mine).trans manages⟩

end Frames

variable {v : ProcessId} {after : CopyDesk}

variable {row : ManagedDomain}

section Jobs
variable {desk : CopyDesk} {w : ProcessId} {work : CopyWork} {mark : Bool → Bool}
  {kind : ZoneJobKind}

theorem markJob_jobs (desk : CopyDesk) (work : CopyWork) (mark : Bool → Bool) :
    ∃ jobs, markJob work mark desk = { desk with jobs := jobs } := by
  unfold markJob
  split
  · exact ⟨desk.jobs, rfl⟩
  · split
    · exact ⟨_, rfl⟩
    · exact ⟨desk.jobs, rfl⟩

theorem markJob_owed (owed : Owed desk kind) (keeps : kind ≠ work.kind ∨ mark true = true) :
    Owed (markJob work mark desk) kind := by
  obtain ⟨job, listed⟩ := owed
  unfold markJob
  split
  · exact ⟨job, listed⟩
  rename_i own _
  split
  · rename_i has
    refine ⟨job, ?_⟩
    by_cases same : job = own
    · subst same
      simp only [hasJob, listed, Option.any_some, decide_eq_true_eq] at has
      simp only [update_self, listed, Option.map_some]
      rcases keeps with other | marks
      · exact absurd has other
      · rw [marks]
    · dsimp only
      rw [update_of_ne same]
      exact listed
  · exact ⟨job, listed⟩

theorem markJob_owes (left : desk.isLeft work = true) (marks : ∀ touched, mark touched = true) :
    Owed (markJob work mark desk) work.kind := by
  unfold isLeft at left
  unfold markJob
  split
  · rename_i nobody
    rw [nobody] at left
    cases left
  rename_i job own
  rw [own] at left
  rw [if_pos left]
  obtain ⟨row, listed, same⟩ := (Option.any_eq_true ..).mp left
  refine ⟨job, ?_⟩
  simp only [update_self, listed, Option.map_some, marks]
  rw [of_decide_eq_true same]

theorem goOn_own : (goOn w next desk).works w = next :=
  update_self ..

theorem goOn_other (other : v ≠ w) : (goOn w next desk).works v = desk.works v :=
  update_of_ne other ..

theorem goOn_quiet {holder : Option ProcessId} {before : Option CopyWork}
    (stands : desk.works w = before) (rests : ∀ work, before = some work → work.touched = false)
    (locks : ∀ v, v ≠ w → desk.holder = some v → holder = some v) :
    Quiet w desk (goOn w next { desk with holder := holder }) where
  same := ⟨rfl, rfl, rfl, rfl⟩
  others v other := update_of_ne other ..
  locks := locks
  deleted deleted := by
    rcases deleted with owed | ⟨v, job, seen, found, managed⟩
    · exact Or.inl owed
    refine Or.inr ⟨v, job, seen, ?_, managed⟩
    have other : v ≠ w := by
      rintro rfl
      have still := rests _ (stands.symm.trans found)
      simp only [CopyWork.touched, managed, decide_true, Bool.true_eq_false] at still
    exact (update_of_ne other ..).trans found
  owed kind owed := owed
  writing job written zone found := by
    have still := rests _ (stands.symm.trans found)
    cases still
  managing job found := by
    have still := rests _ (stands.symm.trans found)
    cases still

theorem write_apart (write : one.kind = .write) :
    (one.kind = .manage → other.kind ≠ .delegate) ∧ (one.kind = .delegate → other.kind ≠ .manage) := by
  rw [write]
  exact ⟨nofun, nofun⟩

def Plans (desk : CopyDesk) (planned : Option (ManagedDomain × Zone)) : Prop :=
  ∀ written zone, planned = some (written, zone) → desk.row.nameserverMode = .managed ∧
    written.nameserverMode = .managed ∧ written.zoneRevision = desk.row.zoneRevision + 1

theorem lockPlanned_safe (safe : CopiesSafe desk) {planned : Option (ManagedDomain × Zone)}
    (plans : Plans desk planned) (job : Option ZoneJobId) :
    CopiesSafe (lockPlanned w job planned desk) := by
  unfold lockPlanned
  split
  · exact safe
  rename_i written zone
  obtain ⟨managed, stays, next⟩ := plans written zone rfl
  unfold lockRow
  split
  · rename_i idle free
    have quiet : Quiet w desk (goOn w (some (.pushing job written zone))
        { desk with holder := some w }) := by
      apply goOn_quiet idle (by rintro work ⟨⟩)
      intro v _ held
      rw [free] at held
      cases held
    apply quiet_safe safe quiet goOn_own
    · rintro work ⟨⟩
      exact ⟨rfl, managed, stays, next⟩
    · rintro v one other _ ⟨⟩ _
      exact write_apart rfl
  · exact safe

theorem attachment_plans (vm : VmId) (ipv6 : Text) : Plans desk (desk.attachment vm ipv6) := by
  intro written zone planned
  simp only [attachment] at planned
  split at planned
  · cases planned
  split at planned
  · cases planned
  rename_i managed
  split at planned
  · cases planned
  · cases planned
    exact ⟨not_not.mp managed, not_not.mp managed, rfl⟩

theorem detachment_plans (vm : VmId) : Plans desk (desk.detachment vm) := by
  intro written zone planned
  simp only [detachment] at planned
  split at planned
  · cases planned
  split at planned
  · rename_i owns
    cases planned
    exact ⟨owns.2, owns.2, rfl⟩
  · cases planned

theorem changed_plans (rules : TextRules) (limits : ZoneLimits) (fqdn : Text)
    (call : ChangesetCall) : Plans desk (desk.changed rules limits fqdn call) := by
  intro written zone planned
  simp only [changed] at planned
  split at planned
  · rename_i domain session pushes
    cases planned
    unfold planPush at pushes
    split at pushes
    · cases pushes
    rename_i row found
    simp only [zoneDesk, if_true, Option.some.injEq] at found
    subst found
    split at pushes
    · cases pushes
    split at pushes
    · cases pushes
    rename_i managed
    split at pushes
    · cases pushes
    split at pushes
    · cases pushes
    split at pushes
    · cases pushes
    split at pushes
    · cases pushes
    cases pushes
    exact ⟨not_not.mp managed, not_not.mp managed, rfl⟩
  · cases planned

section
variable (safe : CopiesSafe desk)
include safe

theorem ensure_safe (job : ZoneJobId)
    (may : ∀ v work, desk.works v = some work → work.kind ≠ .delegate) :
    CopiesSafe (desk.ensure w job) := by
  unfold ensure
  split
  · exact safe
  rename_i begins
  have idle : desk.works w = none := by
    cases runs : desk.works w with
    | none => rfl
    | some work => simp [runs] at begins
  apply quiet_safe safe (goOn_quiet idle (by rintro work ⟨⟩) fun _ _ held => held) goOn_own
  · rintro work ⟨⟩
    exact ⟨le_refl _, Or.inl rfl⟩
  · rintro v one other theirs ⟨⟩ _
    exact ⟨fun _ => may v other theirs, nofun⟩

theorem delegate_safe (job : ZoneJobId)
    (may : ∀ v work, desk.works v = some work → work.kind ≠ .manage) :
    CopiesSafe (desk.delegate w job) := by
  unfold delegate
  split
  · exact safe
  rename_i begins
  split
  · exact safe
  have idle : desk.works w = none := by
    cases runs : desk.works w with
    | none => rfl
    | some work => simp [runs] at begins
  apply quiet_safe safe (goOn_quiet idle (by rintro work ⟨⟩) fun _ _ held => held) goOn_own
  · rintro work ⟨⟩
    exact id
  · rintro v one other theirs ⟨⟩ _
    exact ⟨nofun, fun _ => may v other theirs⟩

theorem same_apart {before next : CopyWork} (found : desk.works w = some before)
    (theirs : desk.works v = some other) (mine : some next = some one)
    (same : next.kind = before.kind) :
    (one.kind = .manage → other.kind ≠ .delegate) ∧
      (one.kind = .delegate → other.kind ≠ .manage) := by
  cases mine
  rw [same]
  exact ⟨fun manages delegates => safe.apart w v _ _ found theirs manages delegates,
    fun delegates manages => safe.apart v w _ _ theirs found manages delegates⟩

theorem read_safe : CopiesSafe (desk.read w) := by
  unfold CopyDesk.read
  split
  · rename_i job revision found
    have quiet : Quiet w desk (goOn w (some (.refreshing job revision desk.records)) desk) :=
      goOn_quiet found (by rintro work ⟨⟩; rfl) fun _ _ held => held
    apply quiet_safe safe quiet goOn_own
    · rintro work ⟨⟩
      obtain ⟨bound, current | outdated⟩ := safe.works w _ found
      · exact ⟨bound, Or.inl (by rw [current]; rfl)⟩
      · exact ⟨bound, Or.inr (outdated_same quiet.same quiet.deleted outdated)⟩
    · exact fun v one other theirs mine _ => same_apart safe found theirs mine rfl
  · exact safe

theorem stop_safe
    (may : ∀ work, desk.works w = some work → work.touched = true → desk.isLeft work = true) :
    CopiesSafe (desk.stop w) := by
  unfold stop
  split
  · exact safe
  rename_i work found
  have owes (touched : work.touched = true) :
      Owed (markJob work (fun touched => touched || work.touched) desk) work.kind :=
    markJob_owes (may work found touched) fun _ => by rw [touched, Bool.or_true]
  have keeps (kind : ZoneJobKind) (owed : Owed desk kind) :
      Owed (markJob work (fun touched => touched || work.touched) desk) kind :=
    markJob_owed owed (Or.inr rfl)
  obtain ⟨jobs, marked⟩ := markJob_jobs desk work fun touched => touched || work.touched
  rw [marked] at owes keeps ⊢
  have quiet : Quiet w desk (leave w { desk with jobs := jobs }) := by
    constructor
    · exact ⟨rfl, rfl, rfl, rfl⟩
    · exact fun v other => goOn_other other
    · intro v other held
      have apart : desk.holder ≠ some w := by
        rw [held]
        exact fun same => other (Option.some.inj same)
      simp only [leave, goOn, if_neg apart]
      exact held
    · rintro (owed | ⟨v, job, seen, stands, managed⟩)
      · exact Or.inl (keeps _ owed)
      · by_cases mine : v = w
        · subst mine
          rw [found] at stands
          cases stands
          exact Or.inl (owes (decide_eq_true managed))
        · exact Or.inr ⟨v, job, seen, (goOn_other mine).trans stands, managed⟩
    · exact keeps
    · intro job written zone stands
      rw [found] at stands
      cases stands
      exact Or.inr (owes rfl)
    · intro job stands
      rw [found] at stands
      cases stands
      exact Or.inr (owes rfl)
  apply quiet_safe safe quiet goOn_own
  · rintro next ⟨⟩
  · rintro v one other _ ⟨⟩

theorem writers_alone (found : desk.works v = some other)
    (kind : other.kind = .write) : desk.holder = some v := by
  have stands := safe.works v other found
  cases other with
  | pushing job written zone => exact stands.holds
  | writing job written zone => exact stands.1.holds
  | _ => cases kind

theorem still_apart {before : CopyWork} (next : Option CopyWork)
    (found : desk.works w = some before) (same : ∀ work, next = some work → work.kind = before.kind)
    (works : after.works = update desk.works w next) {u : ProcessId}
    (first : after.works v = some one) (second : after.works u = some other)
    (manages : one.kind = .manage) (delegates : other.kind = .delegate) : False := by
  have earlier {x : ProcessId} {work : CopyWork} (now : after.works x = some work) :
      ∃ old, desk.works x = some old ∧ work.kind = old.kind := by
    rw [works] at now
    by_cases mine : x = w
    · rw [mine, update_self] at now
      rw [mine]
      exact ⟨before, found, same work now⟩
    · rw [update_of_ne mine] at now
      exact ⟨work, now, rfl⟩
  obtain ⟨old, stood, kind⟩ := earlier first
  obtain ⟨old', stood', kind'⟩ := earlier second
  exact safe.apart v u old old' stood stood' (kind ▸ manages) (kind' ▸ delegates)

theorem taken_work {zone : PushedZone}
    (row : after.row = desk.row) (records : after.records = desk.records)
    (control : after.control = some zone)
    (higher : ∀ held, desk.control = some held → held.revision ≤ zone.revision)
    (deleted : Deleted desk → Deleted after)
    (settles : after.control = some after.held ∨ Ahead after ∨ Deleted after)
    (writes : work.kind = .write → WorkSafe after v work)
    (delegates : ∀ job seen, work = .delegating job seen → seen.nameserverMode ≠ .managed)
    (found : desk.works v = some work) : WorkSafe after v work := by
  have stands := safe.works v work found
  have outdated {revision : Nat} (before : Outdated desk revision) : Outdated after revision := by
    refine ⟨by rw [row]; exact before.1, ?_⟩
    rcases before.2 with ⟨lower, held, holds, above⟩ | gone
    · refine Or.inl ⟨by rw [row]; exact lower, zone, control, ?_⟩
      exact Nat.lt_of_lt_of_le above (higher held holds)
    · exact Or.inr (deleted gone)
  cases work with
  | pushing | writing => exact writes rfl
  | reading job revision =>
    simp only [WorkSafe, row]
    exact ⟨stands.1, stands.2.imp_right outdated⟩
  | refreshing job revision records' =>
    simp only [WorkSafe, CopyDesk.held, row, records]
    exact ⟨stands.1, stands.2.imp_right outdated⟩
  | managing job accepted => exact settles
  | settling | deleting =>
    simp only [WorkSafe, row]
    exact stands
  | delegating job seen =>
    simp only [WorkSafe, row]
    exact ⟨fun managed => absurd managed (delegates job seen rfl), stands.2⟩

theorem writer_takes {job : Option ZoneJobId}
    (found : desk.works w = some (.pushing job written zone)) :
    desk.takes written.zoneRevision = true := by
  have locked : Locked desk w written := safe.works w _ found
  unfold takes
  split
  · rfl
  rename_i held holds
  have bound := safe.bound held holds
  rw [← locked.next] at bound
  exact decide_eq_true bound

end

theorem takes_higher (takes : desk.takes revision = true) :
    ∀ held, desk.control = some held → held.revision ≤ revision := by
  intro held holds
  rw [CopyDesk.takes, holds] at takes
  exact of_decide_eq_true takes

section
variable (safe : CopiesSafe desk)
include safe

theorem writer_pushes {job : Option ZoneJobId}
    (found : desk.works w = some (.pushing job written zone))
    (may : ∀ v job seen, desk.works v = some (.delegating job seen) →
      seen.nameserverMode ≠ .managed) :
    CopiesSafe (goOn w (some (.writing job written zone))
      { desk with control := some ⟨written.zoneRevision, zone⟩ }) := by
  have locked : Locked desk w written := safe.works w _ found
  have higher := takes_higher (writer_takes safe found)
  have above : desk.row.zoneRevision < written.zoneRevision := by
    rw [locked.next]
    exact Nat.lt_succ_self _
  constructor
  · intro v work now
    by_cases mine : v = w
    · subst mine
      rw [goOn_own] at now
      cases now
      exact ⟨{ locked with }, Or.inl rfl⟩
    · rw [goOn_other mine] at now
      have before : desk.works v = some work := now
      have deleted : Deleted desk → Deleted (goOn w (some (.writing job written zone))
          { desk with control := some ⟨written.zoneRevision, zone⟩ }) := by
        rintro (owed | ⟨u, other, seen, stands, managed⟩)
        · exact Or.inl owed
        · exact absurd managed (may u other seen stands)
      have writes (kind : work.kind = .write) : WorkSafe (goOn w (some (.writing job written zone))
          { desk with control := some ⟨written.zoneRevision, zone⟩ }) v work := by
        have holds := writers_alone safe before kind
        rw [locked.holds] at holds
        exact absurd (Option.some.inj holds).symm mine
      have delegates (other : ZoneJobId) (seen : ManagedDomain)
          (same : work = .delegating other seen) : seen.nameserverMode ≠ .managed :=
        may v other seen (same ▸ before)
      exact taken_work safe rfl rfl rfl higher deleted (Or.inr (Or.inl ⟨_, rfl, above⟩)) writes
        delegates before
  · exact fun _ _ _ _ => still_apart safe (some _) found (by rintro work ⟨⟩; rfl) rfl
  · rintro held ⟨⟩
    exact le_of_eq locked.next
  · exact fun _ => Or.inr ⟨w, job, written, zone, goOn_own⟩
  · exact fun _ => Or.inr (Or.inl ⟨_, rfl, above⟩)
  · intro mode
    have managed : desk.row.nameserverMode = .external := mode
    rw [locked.managed] at managed
    cases managed

theorem refresh_settles (found : desk.works w = some (.refreshing job revision records))
    (takes : desk.takes revision = true) : ⟨revision, records⟩ = desk.held ∨ Deleted desk := by
  obtain ⟨_, current | ⟨_, ⟨_, held, holds, above⟩ | deleted⟩⟩ := safe.works w _ found
  · exact Or.inl current
  · have higher := takes_higher takes held holds
    omega
  · exact Or.inr deleted

theorem refresh_pushes (found : desk.works w = some (.refreshing job revision records))
    (takes : desk.takes revision = true) :
    CopiesSafe (goOn w (some (.managing job true))
      { desk with control := some ⟨revision, records⟩ }) := by
  have bound : revision ≤ desk.row.zoneRevision := (safe.works w _ found).1
  have alone {v : ProcessId} {other : CopyWork} (stands : desk.works v = some other) :
      other.kind ≠ .delegate := fun kind => safe.apart w v _ _ found stands rfl kind
  have deleted : Deleted desk → Deleted (goOn w (some (.managing job true))
      { desk with control := some ⟨revision, records⟩ }) := by
    rintro (owed | ⟨u, other, seen, stands, _⟩)
    · exact Or.inl owed
    · exact absurd rfl (alone stands)
  have settles : some (⟨revision, records⟩ : PushedZone) = some desk.held ∨
      Deleted (goOn w (some (.managing job true))
        { desk with control := some ⟨revision, records⟩ }) :=
    (refresh_settles safe found takes).imp (congrArg some) deleted
  constructor
  · intro v work now
    by_cases mine : v = w
    · subst mine
      rw [goOn_own] at now
      cases now
      exact settles.imp_right Or.inr
    · rw [goOn_other mine] at now
      have before : desk.works v = some work := now
      have stands := safe.works v work before
      have writes (kind : work.kind = .write) : WorkSafe (goOn w (some (.managing job true))
          { desk with control := some ⟨revision, records⟩ }) v work := by
        cases work with
        | pushing job written zone => exact { stands with }
        | writing job written zone =>
          obtain ⟨locked, held | gone⟩ := stands
          · have higher := takes_higher takes _ held
            have next := locked.next
            dsimp only at higher
            omega
          · exact ⟨{ locked with },
              Or.inr (deleted gone)⟩
        | _ => cases kind
      have delegates (other : ZoneJobId) (seen : ManagedDomain)
          (same : work = .delegating other seen) : seen.nameserverMode ≠ .managed := by
        subst same
        exact absurd rfl (alone before)
      exact taken_work safe rfl rfl rfl (takes_higher takes) deleted (settles.imp_right Or.inr)
        writes delegates before
  · exact fun _ _ _ _ => still_apart safe (some _) found (by rintro work ⟨⟩; rfl) rfl
  · rintro held ⟨⟩
    exact Nat.le_succ_of_le bound
  · rintro ⟨held, ⟨⟩, above⟩
    exact absurd above (Nat.not_lt.mpr bound)
  · intro _
    rcases settles with same | gone
    · exact Or.inl same
    · exact Or.inr (Or.inr (Or.inl gone))
  · intro mode
    have external : desk.row.nameserverMode = .external := mode
    obtain ⟨_, current | ⟨managed, _⟩⟩ := safe.works w _ found
    · exact Or.inr ⟨congrArg some current, Or.inr ⟨w, job, goOn_own⟩⟩
    · rw [external] at managed
      cases managed

theorem refresh_ignored (found : desk.works w = some (.refreshing job revision records))
    (ignored : desk.takes revision = false) :
    CopiesSafe (goOn w (some (.managing job false)) desk) := by
  have quiet : Quiet w desk (goOn w (some (.managing job false)) desk) :=
    goOn_quiet found (by rintro work ⟨⟩; rfl) fun _ _ held => held
  obtain ⟨held, holds, above⟩ : ∃ held, desk.control = some held ∧ revision < held.revision := by
    cases holds : desk.control with
    | none => simp [CopyDesk.takes, holds] at ignored
    | some held =>
      simp only [CopyDesk.takes, holds, decide_eq_false_iff_not, not_le] at ignored
      exact ⟨held, rfl, ignored⟩
  have settled : desk.control = some desk.held ∨ Ahead desk ∨ Deleted desk := by
    cases mode : desk.row.nameserverMode with
    | managed =>
      rcases safe.managed mode with same | ahead | gone | ⟨empty, _⟩
      · exact Or.inl same
      · exact Or.inr (Or.inl ahead)
      · exact Or.inr (Or.inr gone)
      · rw [empty] at holds
        cases holds
    | external =>
      rcases safe.external mode with empty | ⟨same, _⟩
      · rw [empty] at holds
        cases holds
      · exact Or.inl same
  apply quiet_safe safe quiet goOn_own
  · rintro work ⟨⟩
    exact settled.imp_right (Or.imp_right quiet.deleted)
  · exact fun v one other theirs mine _ => same_apart safe found theirs mine rfl

theorem push_safe (strict : Bool)
    (may : ∀ v job seen, desk.works v = some (.delegating job seen) →
      seen.nameserverMode ≠ .managed) : CopiesSafe (desk.push strict w) := by
  unfold push
  split
  · rename_i job written zone found
    rw [if_pos (writer_takes safe found)]
    exact writer_pushes safe found may
  · rename_i job revision records found
    split
    · rename_i takes
      exact refresh_pushes safe found takes
    · rename_i ignored
      split
      · apply stop_safe safe
        intro work now touched
        rw [found] at now
        cases now
        cases touched
      · exact refresh_ignored safe found (Bool.eq_false_of_not_eq_true ignored)
  · exact safe

theorem delete_safe : CopiesSafe (desk.delete w) := by
  unfold delete
  split
  · rename_i job seen found
    split
    · rename_i managed
      have deleted : Deleted (goOn w (some (.delegating job seen)) { desk with control := none }) :=
        Or.inr ⟨w, job, seen, goOn_own, managed⟩
      have outdated {revision : Nat} (before : Outdated desk revision) :
          Outdated (goOn w (some (.delegating job seen)) { desk with control := none }) revision :=
        ⟨before.1, Or.inr deleted⟩
      constructor
      · intro v work now
        by_cases mine : v = w
        · subst mine
          rw [goOn_own] at now
          cases now
          exact ⟨fun _ => rfl, safe.works v _ found⟩
        · rw [goOn_other mine] at now
          have stands := safe.works v work now
          cases work with
          | pushing other written zone =>
            exact { stands with }
          | writing other written zone =>
            obtain ⟨locked, _⟩ := stands
            exact ⟨{ locked with }, Or.inr deleted⟩
          | reading | refreshing => exact ⟨stands.1, stands.2.imp_right outdated⟩
          | managing other accepted => exact Or.inr (Or.inr deleted)
          | settling | deleting => exact stands
          | delegating other seen' => exact ⟨fun _ => rfl, stands.2⟩
      · exact fun _ _ _ _ => still_apart safe (some _) found (by rintro work ⟨⟩; rfl) rfl
      · rintro zone ⟨⟩
      · rintro ⟨zone, ⟨⟩, _⟩
      · exact fun _ => Or.inr (Or.inr (Or.inl deleted))
      · exact fun _ => Or.inl rfl
    · rename_i external
      apply quiet_safe safe (goOn_quiet found (by rintro work ⟨⟩; rfl) fun _ _ held => held)
        goOn_own
      · rintro work ⟨⟩
        exact ⟨fun managed => absurd managed external, safe.works w _ found⟩
      · exact fun v one other theirs mine _ => same_apart safe found theirs mine rfl
  · exact safe

end

theorem committed_jobs (desk : CopyDesk) (work : CopyWork) (row : ManagedDomain) (records : Zone) :
    ∃ jobs, markJob work (fun _ => false) { desk with row := row, records := records } =
        { desk with row := row, records := records, jobs := jobs } ∧
      ∀ kind, kind ≠ work.kind → Owed desk kind → ∃ job, jobs job = some ⟨kind, true⟩ := by
  obtain ⟨jobs, marked⟩ := markJob_jobs { desk with row := row, records := records } work
    fun _ => false
  refine ⟨jobs, marked, ?_⟩
  intro kind other owed
  have kept : Owed (markJob work (fun _ => false) { desk with row := row, records := records })
      kind := markJob_owed owed (Or.inl other)
  rw [marked] at kept
  exact kept

theorem still_deleted (found : desk.works w = some work)
    (kind : work.kind ≠ .delegate) (others : ∀ v, v ≠ w → after.works v = desk.works v)
    (owed : Owed desk .delegate → Owed after .delegate) (deleted : Deleted desk) :
    Deleted after := by
  rcases deleted with before | ⟨v, job, seen, stands, managed⟩
  · exact Or.inl (owed before)
  refine Or.inr ⟨v, job, seen, ?_, managed⟩
  have other : v ≠ w := by
    rintro rfl
    rw [found] at stands
    cases stands
    exact kind rfl
  exact (others v other).trans stands

section
variable (safe : CopiesSafe desk)
include safe

theorem writer_commits {job : Option ZoneJobId}
    (found : desk.works w = some (.writing job written zone)) :
    CopiesSafe (leave w (markJob (.writing job written zone) (fun _ => false)
      { desk with row := written, records := zone })) := by
  obtain ⟨locked, pushed⟩ : Locked desk w written ∧
    (desk.control = some ⟨written.zoneRevision, zone⟩ ∨ Deleted desk) := safe.works w _ found
  obtain ⟨jobs, marked, kept⟩ := committed_jobs desk (.writing job written zone) written zone
  rw [marked]
  have deleted (before : Deleted desk) :
      Deleted (leave w { desk with row := written, records := zone, jobs := jobs }) :=
    still_deleted found nofun (fun _ other => goOn_other other) (kept _ nofun) before
  have settled := pushed.imp_right deleted
  have next := locked.next
  -- whatever was read before is below what DNS control holds
  have outdated {revision : Nat} (bound : revision ≤ desk.row.zoneRevision) :
      Outdated (leave w { desk with row := written, records := zone, jobs := jobs }) revision := by
    have lower : revision < written.zoneRevision := by omega
    exact ⟨locked.stays, settled.imp_left fun holds => ⟨lower, _, holds, lower⟩⟩
  constructor
  · intro v work now
    by_cases mine : v = w
    · subst mine
      rw [leave, goOn_own] at now
      cases now
    · rw [leave, goOn_other mine] at now
      have stands := safe.works v work now
      have alone : work.kind ≠ .write := by
        intro kind
        have holds := writers_alone safe now kind
        rw [locked.holds] at holds
        exact mine (Option.some.inj holds).symm
      have managed (seen : ManagedDomain)
          (before : seen.nameserverMode = .external → desk.row.nameserverMode = .external)
          (external : seen.nameserverMode = .external) : False := by
        have mode := before external
        rw [locked.managed] at mode
        cases mode
      cases work with
      | pushing | writing => exact absurd rfl alone
      | reading | refreshing =>
        exact ⟨by have := stands.1; simp only [leave, goOn]; omega, Or.inr (outdated stands.1)⟩
      | managing other accepted => exact settled.imp_right Or.inr
      | settling other => exact locked.stays
      | deleting other seen => exact fun external => (managed seen stands external).elim
      | delegating other seen =>
        exact ⟨stands.1, fun external => (managed seen stands.2 external).elim⟩
  · exact fun _ _ _ _ => still_apart safe none found (by rintro work ⟨⟩) rfl
  · intro held holds
    have bound := safe.bound held holds
    simp only [leave, goOn]
    omega
  · rintro ⟨held, holds, above⟩
    have bound := safe.bound held holds
    simp only [leave, goOn] at above
    omega
  · intro _
    exact settled.imp_right fun gone => Or.inr (Or.inl gone)
  · intro mode
    have external : written.nameserverMode = .external := mode
    rw [locked.stays] at external
    cases external

theorem free_apart (free : desk.holder = none) (found : desk.works v = some other) :
    other.kind ≠ .write := by
  intro kind
  have holds := writers_alone safe found kind
  rw [free] at holds
  cases holds

theorem ensure_commits {accepted : Bool} (found : desk.works w = some (.managing job accepted))
    (free : desk.holder = none) (mode : row.nameserverMode = .managed)
    (revision : row.zoneRevision = desk.row.zoneRevision) :
    CopiesSafe (goOn w (some (.settling job)) (markJob (.managing job accepted) (fun _ => false)
      { desk with row := row })) := by
  obtain ⟨jobs, marked, kept⟩ := committed_jobs desk (.managing job accepted) row desk.records
  rw [marked]
  have deleted (before : Deleted desk) : Deleted (goOn w (some (.settling job)) { desk with row := row, jobs := jobs }) :=
    still_deleted found nofun (fun _ other => goOn_other other) (kept _ nofun) before
  have settled : desk.control = some ⟨row.zoneRevision, desk.records⟩ ∨
      Ahead (goOn w (some (.settling job)) { desk with row := row, jobs := jobs }) ∨
        Deleted (goOn w (some (.settling job)) { desk with row := row, jobs := jobs }) := by
    rcases safe.works w _ found with holds | ⟨zone, holds, above⟩ | gone
    · exact Or.inl (by rw [revision]; exact holds)
    · exact Or.inr (Or.inl ⟨zone, holds, revision ▸ above⟩)
    · exact Or.inr (Or.inr (deleted gone))
  have outdated {earlier : Nat} (before : Outdated desk earlier) :
      Outdated (goOn w (some (.settling job)) { desk with row := row, jobs := jobs }) earlier := by
    refine ⟨mode, before.2.imp ?_ deleted⟩
    rintro ⟨lower, pushed⟩
    exact ⟨revision ▸ lower, pushed⟩
  constructor
  · intro v work now
    by_cases mine : v = w
    · subst mine
      rw [goOn_own] at now
      cases now
      exact mode
    · rw [goOn_other mine] at now
      have stands := safe.works v work now
      have alone := free_apart safe free now
      have apart : work.kind ≠ .delegate := fun kind => safe.apart w v _ _ found now rfl kind
      cases work with
      | pushing | writing => exact absurd rfl alone
      | reading other earlier =>
        simp only [WorkSafe, goOn, revision]
        exact ⟨stands.1, stands.2.imp_right outdated⟩
      | refreshing other earlier records =>
        simp only [WorkSafe, CopyDesk.held, goOn, revision]
        exact ⟨stands.1, stands.2.imp_right outdated⟩
      | managing other accepted => exact settled
      | settling other => exact mode
      | deleting | delegating => exact absurd rfl apart
  · exact fun _ _ _ _ => still_apart safe (some _) found (by rintro work ⟨⟩; rfl) rfl
  · intro zone holds
    simp only [goOn, revision]
    exact safe.bound zone holds
  · rintro ⟨zone, holds, above⟩
    rcases safe.ahead ⟨zone, holds, revision ▸ above⟩ with owed | ⟨v, other, written, zone', stands⟩
    · exact Or.inl (kept _ nofun owed)
    · exact absurd rfl (free_apart safe free stands)
  · exact fun _ => settled.imp_right (Or.imp_right Or.inl)
  · intro external
    have now : row.nameserverMode = .external := external
    rw [mode] at now
    cases now

theorem delegation_commits {seen : ManagedDomain}
    (found : desk.works w = some (.delegating job seen)) (free : desk.holder = none)
    (mode : row.nameserverMode = .external)
    (revision : row.zoneRevision = desk.row.zoneRevision) :
    CopiesSafe (leave w (markJob (.delegating job seen) (fun _ => false)
      { desk with row := row })) := by
  obtain ⟨jobs, marked, kept⟩ := committed_jobs desk (.delegating job seen) row desk.records
  rw [marked]
  have stood := safe.works w _ found
  constructor
  · intro v work now
    by_cases mine : v = w
    · subst mine
      rw [leave, goOn_own] at now
      cases now
    · rw [leave, goOn_other mine] at now
      have stands := safe.works v work now
      have alone := free_apart safe free now
      have apart : work.kind ≠ .manage := fun kind => safe.apart v w _ _ now found kind rfl
      cases work with
      | pushing | writing => exact absurd rfl alone
      | reading | refreshing | managing | settling => exact absurd rfl apart
      | deleting other seen' => exact fun _ => mode
      | delegating other seen' => exact ⟨stands.1, fun _ => mode⟩
  · exact fun _ _ _ _ => still_apart safe none found (by rintro work ⟨⟩) rfl
  · intro zone holds
    simp only [leave, goOn, revision]
    exact safe.bound zone holds
  · rintro ⟨zone, holds, above⟩
    rcases safe.ahead ⟨zone, holds, revision ▸ above⟩ with owed | ⟨v, other, written, zone', stands⟩
    · exact Or.inl (kept _ nofun owed)
    · exact absurd rfl (free_apart safe free stands)
  · intro managed
    have now : row.nameserverMode = .managed := managed
    rw [mode] at now
    cases now
  · intro _
    cases before : seen.nameserverMode with
    | managed => exact Or.inl (stood.1 before)
    | external =>
      rcases safe.external (stood.2 before) with empty | ⟨holds, owed | ⟨v, other, stands⟩⟩
      · exact Or.inl empty
      · refine Or.inr ⟨?_, Or.inl (kept _ nofun owed)⟩
        simp only [CopyDesk.held, leave, goOn, revision]
        exact holds
      · exact (safe.apart v w _ _ stands found rfl rfl).elim

theorem still_safe (same : SameCopies desk after)
    (works : after.works = desk.works) (holder : after.holder = desk.holder)
    (owed : ∀ kind, Owed desk kind → Owed after kind) : CopiesSafe after := by
  have deleted : Deleted desk → Deleted after := by
    rintro (before | stands)
    · exact Or.inl (owed _ before)
    · exact Or.inr (by rw [works]; exact stands)
  have quiet : Quiet 0 desk after := by
    constructor
    · exact same
    · exact fun v _ => congrFun works v
    · exact fun v _ held => holder.trans held
    · exact deleted
    · exact owed
    · exact fun _ _ _ _ => Or.inl (congrFun works 0)
    · exact fun _ _ => Or.inl (congrFun works 0)
  apply quiet_safe safe quiet (congrFun works 0)
  · intro work found
    exact work_same same deleted (fun held => holder.trans held) (safe.works 0 work found)
  · intro v one other theirs mine _
    exact ⟨fun manages delegates => safe.apart 0 v _ _ mine theirs manages delegates,
      fun delegates manages => safe.apart v 0 _ _ theirs mine manages delegates⟩

theorem settle_safe (found : desk.works w = some (.settling job)) :
    CopiesSafe (leave w { desk with row := { desk.row with nameserverMode := .managed } }) := by
  have managed : desk.row.nameserverMode = .managed := safe.works w _ found
  have written : CopiesSafe { desk with row := { desk.row with nameserverMode := .managed } } :=
    still_safe safe ⟨rfl, managed.symm, rfl, rfl⟩ rfl rfl fun _ owed => owed
  apply quiet_safe written (goOn_quiet found (by rintro work ⟨⟩; rfl) ?_) goOn_own
  · rintro work ⟨⟩
  · rintro v one other _ ⟨⟩
  · intro v other held
    have apart : desk.holder ≠ some w := by
      have locked : desk.holder = some v := held
      rw [locked]
      exact fun same => other (Option.some.inj same)
    exact (if_neg apart).trans held

theorem commit_safe : CopiesSafe (desk.commit w) := by
  unfold commit
  split
  · rename_i job written zone found
    exact writer_commits safe found
  · rename_i job accepted found
    split
    · exact safe
    · rename_i free
      exact ensure_commits safe found (Option.not_isSome_iff_eq_none.mp free) rfl rfl
  · rename_i job found
    split
    · exact safe
    · exact settle_safe safe found
  · rename_i job seen found
    split
    · exact safe
    · rename_i free
      exact delegation_commits safe found (Option.not_isSome_iff_eq_none.mp free) rfl rfl
  · exact safe

theorem writeColumns_safe (change : ManagedDomain → ManagedDomain) :
    CopiesSafe (desk.writeColumns change) := by
  unfold writeColumns
  split
  · exact safe
  · exact still_safe safe ⟨rfl, rfl, rfl, rfl⟩ rfl rfl fun _ owed => owed

theorem enqueue_safe (job : ZoneJobId) (kind : ZoneJobKind) :
    CopiesSafe (desk.enqueue job kind) := by
  unfold enqueue
  split
  · exact safe
  rename_i absent
  have owed (owes : ZoneJobKind) : Owed desk owes → Owed
      { desk with jobs := update desk.jobs job (some ⟨kind, false⟩) } owes := by
    rintro ⟨other, listed⟩
    have apart : other ≠ job := keys_apart listed absent nofun
    exact ⟨other, (update_of_ne apart ..).trans listed⟩
  exact still_safe safe ⟨rfl, rfl, rfl, rfl⟩ rfl rfl owed

theorem drop_safe (may : ∀ row, desk.jobs job = some row → row.touched = false) :
    CopiesSafe { desk with jobs := update desk.jobs job none } := by
  have owed (owes : ZoneJobKind) : Owed desk owes →
      Owed { desk with jobs := update desk.jobs job none } owes := by
    rintro ⟨other, listed⟩
    have apart : other ≠ job := by
      rintro rfl
      have untouched := may _ listed
      cases untouched
    exact ⟨other, (update_of_ne apart ..).trans listed⟩
  exact still_safe safe ⟨rfl, rfl, rfl, rfl⟩ rfl rfl owed

end

end Jobs

variable {desk : CopyDesk}

theorem copyStep_safe (rules : CopyRules) (step : CopyStep)
    (safe : CopiesSafe desk) (may : mayCopy step desk) : CopiesSafe (copyStep rules step desk) := by
  cases step with
  | changeset w call =>
    exact lockPlanned_safe safe (changed_plans rules.text rules.limits rules.fqdn call) none
  | attach w job vm ipv6 =>
    dsimp only [copyStep]
    split
    · exact lockPlanned_safe safe (attachment_plans vm ipv6) (some job)
    · exact safe
  | detach w job vm =>
    dsimp only [copyStep]
    split
    · exact lockPlanned_safe safe (detachment_plans vm) (some job)
    · exact safe
  | ensure w job => exact ensure_safe safe job may
  | delegate w job => exact delegate_safe safe job may
  | read w => exact read_safe safe
  | push w => exact push_safe safe rules.strict may
  | delete w => exact delete_safe safe
  | commit w => exact commit_safe safe
  | stop w => exact stop_safe safe may
  | columns change => exact writeColumns_safe safe change
  | enqueue job kind => exact enqueue_safe safe job kind
  | drop job => exact drop_safe safe may

theorem start_safe (start : CopiesStart desk) : CopiesSafe desk := by
  have level : ¬ Ahead desk := by
    rintro ⟨zone, holds, above⟩
    rcases start.synced with synced | ⟨empty, _⟩
    · cases mode : desk.row.nameserverMode with
      | managed =>
        simp only [Synced, mode] at synced
        rw [synced] at holds
        cases holds
        exact absurd above (Nat.lt_irrefl _)
      | external =>
        simp only [Synced, mode] at synced
        rw [synced] at holds
        cases holds
    · rw [empty] at holds
      cases holds
  constructor
  · intro w work found
    rw [start.works] at found
    cases found
  · intro v w one other found
    rw [start.works] at found
    cases found
  · intro zone holds
    by_contra higher
    exact level ⟨zone, holds, by omega⟩
  · exact fun ahead => absurd ahead level
  · intro mode
    rcases start.synced with synced | first
    · simp only [Synced, mode] at synced
      exact Or.inl synced
    · exact Or.inr (Or.inr (Or.inr first))
  · intro mode
    rcases start.synced with synced | first
    · simp only [Synced, mode] at synced
      exact Or.inl synced
    · exact Or.inl first.1

theorem quiescent_synced (safe : CopiesSafe desk) (quiescent : Quiescent desk) :
    Synced desk := by
  have paid (kind : ZoneJobKind) : ¬ Owed desk kind := by
    rintro ⟨job, listed⟩
    rw [quiescent.jobs] at listed
    cases listed
  have idle (w : ProcessId) (work : CopyWork) : desk.works w ≠ some work := by
    rw [quiescent.works]
    nofun
  have level : ¬ Ahead desk := by
    intro ahead
    rcases safe.ahead ahead with owed | ⟨w, job, written, zone, writes⟩
    · exact paid _ owed
    · exact idle w _ writes
  have standing : ¬ Deleted desk := by
    rintro (owed | ⟨w, job, seen, stands, _⟩)
    · exact paid _ owed
    · exact idle w _ stands
  unfold Synced
  split
  · rename_i mode
    rcases safe.managed mode with same | ahead | gone | ⟨_, owed⟩
    · exact same
    · exact absurd ahead level
    · exact absurd gone standing
    · exact absurd owed (paid _)
  · rename_i mode
    rcases safe.external mode with empty | ⟨_, owed | ⟨w, job, manages⟩⟩
    · exact empty
    · exact absurd owed (paid _)
    · exact absurd manages (idle w _)

/-- In every run the committed zone is the one that DNS control has, once nothing of it is
left to do. -/
theorem copies_agree (rules : CopyRules) {desk : CopyDesk} (start : CopiesStart desk)
    (steps : List CopyStep) (admitted : (copies rules).admits desk steps)
    (quiescent : Quiescent ((copies rules).run desk steps)) :
    Synced ((copies rules).run desk steps) := by
  have safe : CopiesSafe ((copies rules).run desk steps) :=
    (copies rules).run_keeps (fun step _ kept may => copyStep_safe rules step kept may)
      steps desk (start_safe start) admitted
  exact quiescent_synced safe quiescent

def copyRules : CopyRules := ⟨plainRules, ⟨500, 100⟩, exampleFqdn, false⟩

def registeredCopies : CopyDesk where
  row := registeredExample
  records := ∅
  control := none
  holder := none
  works _ := none
  jobs job := if job = 0 then some ⟨.manage, true⟩ else none

theorem registeredCopies_start : CopiesStart registeredCopies where
  works _ := rfl
  holder := rfl
  jobs job row listed _ := by
    simp only [registeredCopies] at listed
    split at listed <;> cases listed
    rfl
  synced := Or.inr ⟨rfl, 0, rfl⟩

theorem lone_update {works : ProcessId → Option CopyWork} {work : Option CopyWork}
    (idle : ∀ v, v ≠ 0 → works v = none) (v : ProcessId) (other : v ≠ 0) :
    update works 0 work v = none :=
  (update_of_ne other ..).trans (idle v other)

/-- The job of the registration pushes the first zone. -/
theorem registered_copies_agree :
    Synced ((copies copyRules).run registeredCopies
      [.ensure 0 0, .read 0, .push 0, .commit 0, .commit 0, .drop 0]) := by
  apply copies_agree copyRules registeredCopies_start
  · refine ⟨fun _ _ => nofun, trivial, ?_, trivial, trivial, ?_, trivial⟩
    · intro v job seen found
      by_cases mine : v = 0
      · subst mine
        have kind : some ZoneJobKind.manage = some .delegate :=
          congrArg (Option.map CopyWork.kind) found
        cases kind
      · have idle := (lone_update (lone_update fun _ _ => rfl) v mine).symm.trans found
        cases idle
    · rintro row ⟨⟩
      rfl
  · constructor
    · intro v
      by_cases mine : v = 0
      · subst mine
        rfl
      · exact lone_update (lone_update (lone_update (lone_update (lone_update fun _ _ => rfl))))
          v mine
    · intro job
      by_cases first : job = 0
      · subst first
        rfl
      · exact (update_of_ne first ..).trans
          ((update_of_ne first ..).trans (if_neg first))

def syncedCopies : CopyDesk where
  row := registeredExample
  records := exampleDesk.records exampleFqdn
  control := some ⟨1, exampleDesk.records exampleFqdn⟩
  holder := none
  works _ := none
  jobs _ := none

/-- A changeset reaches DNS control, and its session cannot commit it. -/
theorem stopped_changeset_diverges :
    ¬ ∀ (rules : CopyRules) (desk : CopyDesk) (steps : List CopyStep), CopiesStart desk →
      Quiescent ((copies rules).run desk steps) → Synced ((copies rules).run desk steps) := by
  intro always
  have start : CopiesStart syncedCopies := ⟨fun _ => rfl, rfl, nofun, Or.inl rfl⟩
  obtain ⟨⟨written, zone⟩, planned⟩ := Option.isSome_iff_exists.mp (by decide +kernel :
    (syncedCopies.changed plainRules ⟨500, 100⟩ exampleFqdn replaceCall).isSome = true)
  obtain ⟨_, _, next⟩ := changed_plans plainRules ⟨500, 100⟩ exampleFqdn replaceCall _ _ planned
  have locks : copyStep copyRules (.changeset 0 replaceCall) syncedCopies =
      goOn 0 (some (.pushing none written zone)) { syncedCopies with holder := some 0 } := by
    simp only [copyStep, copyRules, planned, lockPlanned]
    rfl
  have takes : syncedCopies.takes written.zoneRevision = true := by
    rw [next]
    rfl
  have pushes : push false 0
      (goOn 0 (some (.pushing none written zone)) { syncedCopies with holder := some 0 }) =
        goOn 0 (some (.writing none written zone)) (goOn 0 (some (.pushing none written zone))
          { syncedCopies with
            holder := some 0
            control := some ⟨written.zoneRevision, zone⟩ }) := if_pos takes
  have ends : (copies copyRules).run syncedCopies [.changeset 0 replaceCall, .push 0, .stop 0] =
      leave 0 (goOn 0 (some (.writing none written zone)) (goOn 0 (some (.pushing none written zone))
        { syncedCopies with
          holder := some 0
          control := some ⟨written.zoneRevision, zone⟩ })) := by
    change stop 0 (push false 0 (copyStep copyRules (.changeset 0 replaceCall) syncedCopies)) = _
    rw [locks, pushes]
    rfl
  have quiescent : Quiescent
      ((copies copyRules).run syncedCopies [.changeset 0 replaceCall, .push 0, .stop 0]) := by
    rw [ends]
    constructor
    · intro v
      by_cases mine : v = 0
      · subst mine
        rfl
      · exact lone_update (lone_update (lone_update fun _ _ => rfl)) v mine
    · exact fun _ => rfl
  have agrees := always copyRules syncedCopies _ start quiescent
  rw [ends] at agrees
  have revisions : some written.zoneRevision = some 1 :=
    congrArg (Option.map PushedZone.revision) agrees
  rw [next] at revisions
  cases revisions

end HyruleCloud.Zones
