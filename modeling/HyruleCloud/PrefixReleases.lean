import HyruleCloud.CustomerPrefixes

/-!
The invariant of the customer prefixes: a row whose guest may still exist holds the prefix
that its guest was given. Every step keeps it, as long as the calls that write what they
have read without a lock find no guest to lose.
-/

namespace HyruleCloud.CustomerPrefixes

open AddressBlocks Interaction Probing Function

section Choice

variable {supernet : Network} {digest : VmId → Nat} {taken : List Nat} {vm : VmId}
  {index : Nat} {block : Network}

def Usable (supernet : Network) (index : Nat) : Prop :=
  1 ≤ index ∧ index < 2 ^ (64 - supernet.prefixLength)

theorem usable_block (longer : supernet.prefixLength ≤ 64) (usable : Usable supernet index) :
    ∃ block, prefixForIndex supernet index = some block :=
  Block.part_isSome longer (by decide) usable.2

theorem allocateCustomerPrefix_spec (longer : supernet.prefixLength ≤ 64)
    (many : 1 < 2 ^ (64 - supernet.prefixLength)) :
    ((∃ index, Usable supernet index ∧ index ∉ taken) →
        ∃ index block, allocateCustomerPrefix supernet digest taken vm = some (index, block)) ∧
      ∀ index block, allocateCustomerPrefix supernet digest taken vm = some (index, block) →
        Usable supernet index ∧ index ∉ taken ∧ prefixForIndex supernet index = some block := by
  have count : customerPrefixCount supernet = some (2 ^ (64 - supernet.prefixLength)) := by
    unfold customerPrefixCount
    rw [if_neg (by omega)]
  have candidate : prefixIndexCandidate digest vm supernet =
      some (digest vm % (2 ^ (64 - supernet.prefixLength) - 1) + 1) := by
    unfold prefixIndexCandidate
    rw [count, Option.bind_some, if_neg]
    · rfl
    · change ¬ 2 ^ (64 - supernet.prefixLength) ≤ 1
      exact Nat.not_le.mpr many
  generalize smaller : 2 ^ (64 - supernet.prefixLength) - 1 = size at candidate
  have search : allocateCustomerPrefix supernet digest taken vm =
      (probe size (digest vm % size) fun place => decide (place + 1 ∉ taken ++ [0])).bind
        fun place => (prefixForIndex supernet (place + 1)).map fun block => (place + 1, block) := by
    unfold allocateCustomerPrefix
    rw [count, candidate, ← smaller]
    simp only [Option.bind_eq_bind, Option.bind_some, Option.pure_def, Option.map_eq_bind]
    rfl
  rw [search]
  constructor
  · rintro ⟨index, ⟨above, below⟩, unused⟩
    cases found : probe size (digest vm % size) fun place =>
        decide (place + 1 ∉ taken ++ [0]) with
    | none =>
      have used := probe_none.mp found (index - 1) (by omega)
      rw [Nat.sub_add_cancel above] at used
      simp [unused, show index ≠ 0 by omega] at used
    | some place =>
      have ⟨inside, _⟩ := probe_some found
      obtain ⟨block, is⟩ := @usable_block supernet (place + 1) longer ⟨by omega, by omega⟩
      refine ⟨place + 1, block, ?_⟩
      rw [Option.bind_some, is]
      rfl
  · intro index block chosen
    obtain ⟨place, found, cut⟩ := Option.bind_eq_some_iff.mp chosen
    obtain ⟨part, is, same⟩ := Option.map_eq_some_iff.mp cut
    rw [Prod.mk.injEq] at same
    have ⟨inside, free⟩ := probe_some found
    rw [← same.1, ← same.2]
    refine ⟨⟨by omega, by omega⟩, ?_, is⟩
    have unused := of_decide_eq_true free
    exact fun listed => unused (List.mem_append_left _ listed)

end Choice

def PrefixRow.Ended (row : PrefixRow) : Prop := row.status = .failed ∨ row.status = .destroyed

theorem ended_ne {row : PrefixRow} (ended : row.Ended) : row.status ≠ .provisioning := by
  rcases ended with failed | destroyed
  · rw [failed]
    decide
  · rw [destroyed]
    decide

/-- A row of the table. Without a prefix it has no guest and gets none. -/
structure RowKept (supernet : Network) (site : Site) (vm : VmId) (row : PrefixRow) : Prop where
  listed : vm ∈ site.vms
  ranged : ∀ index, row.prefixIndex = some index → Usable supernet index
  unpaid : row.paid = false → row.xcpngUuid = none ∧ row.receipt = none ∧
    site.attempts vm = none ∧ ∀ request ∈ site.requests, request.vm ≠ vm
  guestless : row.prefixIndex = none →
    (∀ uuid, row.xcpngUuid = some uuid → uuid ∈ site.deleted) ∧
      (row.xcpngUuid = none → row.Ended ∧ ∀ request ∈ site.requests, request.vm ≠ vm)
  indexed : ∀ index, row.prefixIndex = some index →
    (∀ request ∈ site.requests, request.vm = vm → request.index = index) ∧
      ∀ attempt, site.attempts vm = some attempt → attempt.index = index
  tracked : ∀ uuid, row.xcpngUuid = some uuid →
    ∃ guest ∈ site.guests, guest.uuid = uuid ∧ guest.request.vm = vm
  receipted : row.receipt = none → ∀ request ∈ site.requests, request.vm ≠ vm
  confirmed : ∀ uuid, row.providerDeleted = some uuid → uuid ∈ site.deleted

def PrefixRow.Settled (row : PrefixRow) : Prop :=
  row.xcpngUuid = none →
    row.status ≠ .provisioning ∧ row.receipt = none ∧ row.deletionStarted = true

/-- What a call of `destroy_vm` relies on. -/
def CallKept (site : Site) (call : DestroyCall) : Prop :=
  match call.uuid with
  | some uuid => call.gone = true → uuid ∈ site.deleted
  | none => call.status ≠ .provisioning → call.unresolved = false →
      ∃ row, site.rows call.vm = some row ∧ row.Settled

def ReadKept (site : Site) (read : UnlockedRead) : Prop :=
  match read with
  | .bundleFailed vm .failed => ∃ row, site.rows vm = some row ∧ row.Ended
  | _ => True

def StageKept (site : Site) (vm : VmId) (stage : Stage) : Prop :=
  match stage with
  | .found uuid _ => ∃ guest ∈ site.guests, guest.uuid = uuid ∧ guest.request.vm = vm
  | _ => True

structure Kept (supernet : Network) (site : Site) : Prop where
  rows : ∀ vm row, site.rows vm = some row → RowKept supernet site vm row
  unique : ∀ vm other row next index, site.rows vm = some row → site.rows other = some next →
    row.prefixIndex = some index → next.prefixIndex = some index → vm = other
  absent : ∀ vm, site.rows vm = none →
    site.attempts vm = none ∧ ∀ request ∈ site.requests, request.vm ≠ vm
  allocated : ∀ allocation ∈ site.allocations, Usable supernet allocation.index
  made : ∀ guest ∈ site.guests, guest.request ∈ site.requests ∧ guest.uuid < site.guests.length
  distinct : ∀ guest ∈ site.guests, ∀ other ∈ site.guests, guest.uuid = other.uuid → guest = other
  stages : ∀ vm attempt, site.attempts vm = some attempt → StageKept site vm attempt.stage
  calls : ∀ call ∈ site.destroys, CallKept site call
  reads : ∀ read ∈ site.reads, ReadKept site read

theorem kept_empty (supernet : Network) : Kept supernet Site.empty := by
  constructor
  · intro vm row found
    cases found
  · intro vm other row next index found
    cases found
  · intro vm _
    exact ⟨rfl, fun _ listed => absurd listed (List.not_mem_nil)⟩
  · intro allocation listed
    cases listed
  · intro guest listed
    cases listed
  · intro guest listed
    cases listed
  · intro vm attempt found
    cases found
  · intro call listed
    cases listed
  · intro read listed
    cases listed

section Rewritten

variable {supernet : Network} {site : Site} {vm : VmId} {old new : PrefixRow}

theorem used_iff (kept : Kept supernet site) {index : Nat} :
    index ∈ site.used ↔ ∃ vm row, site.rows vm = some row ∧ row.prefixIndex = some index := by
  unfold Site.used
  rw [List.mem_filterMap]
  constructor
  · rintro ⟨vm, _, found⟩
    obtain ⟨row, present, is⟩ := Option.bind_eq_some_iff.mp found
    exact ⟨vm, row, present, is⟩
  · rintro ⟨vm, row, present, is⟩
    refine ⟨vm, (kept.rows vm row present).listed, ?_⟩
    rw [present]
    exact is

section
variable (kept : Kept supernet site) {next : Site}
include kept

theorem calls_stay (deleted : ∀ uuid ∈ site.deleted, uuid ∈ next.deleted)
    (stays : ∀ vm, (∃ row, site.rows vm = some row ∧ row.Settled) →
      ∃ row, next.rows vm = some row ∧ row.Settled) :
    ∀ call ∈ site.destroys, CallKept next call := by
  intro call listed
  have before := kept.calls call listed
  unfold CallKept at before ⊢
  cases uuid : call.uuid with
  | some guest =>
    rw [uuid] at before
    exact fun gone => deleted guest (before gone)
  | none =>
    rw [uuid] at before
    exact fun ready resolved => stays call.vm (before ready resolved)

theorem reads_stay (stays : ∀ vm, (∃ row, site.rows vm = some row ∧ row.Ended) →
      ∃ row, next.rows vm = some row ∧ row.Ended) :
    ∀ read ∈ site.reads, ReadKept next read := by
  intro read listed
  have before := kept.reads read listed
  unfold ReadKept at before ⊢
  split
  · exact stays _ before
  · trivial

end

theorem setRow_kept (kept : Kept supernet site) (present : site.rows vm = some old)
    (next : RowKept supernet site vm new)
    (index : new.prefixIndex = old.prefixIndex ∨ new.prefixIndex = none)
    (settled : old.Settled → new.Settled) (ended : old.Ended → new.Ended) :
    Kept supernet (site.setRow vm (some new)) := by
  have rowsOf : ∀ other row, (site.setRow vm (some new)).rows other = some row →
      (other = vm ∧ row = new) ∨ (other ≠ vm ∧ site.rows other = some row) := by
    intro other row found
    by_cases same : other = vm
    · subst same
      simp only [Site.setRow, update_self, Option.some.injEq] at found
      exact Or.inl ⟨rfl, found.symm⟩
    · simp only [Site.setRow, update_of_ne same] at found
      exact Or.inr ⟨same, found⟩
  -- every row has a row before with the prefix that it has
  have before : ∀ other row index, (site.setRow vm (some new)).rows other = some row →
      row.prefixIndex = some index →
        ∃ earlier, site.rows other = some earlier ∧ earlier.prefixIndex = some index := by
    intro other row place found is
    rcases rowsOf other row found with ⟨same, equal⟩ | ⟨_, unchanged⟩
    · subst same equal
      rcases index with keeps | loses
      · exact ⟨old, present, keeps ▸ is⟩
      · rw [loses] at is
        cases is
    · exact ⟨row, unchanged, is⟩
  -- what holds of some row of a VM goes on to hold
  have stays : ∀ (holds : PrefixRow → Prop) other, (holds old → holds new) →
      (∃ row, site.rows other = some row ∧ holds row) →
        ∃ row, (site.setRow vm (some new)).rows other = some row ∧ holds row := by
    rintro holds other goesOn ⟨row, found, held⟩
    by_cases same : other = vm
    · subst same
      rw [present] at found
      cases found
      exact ⟨new, by simp [Site.setRow], goesOn held⟩
    · exact ⟨row, by simp [Site.setRow, same, found], held⟩
  refine { kept with
    rows := ?_
    unique := ?_
    absent := ?_
    calls := calls_stay kept (fun _ gone => gone) fun other =>
      stays PrefixRow.Settled other settled
    reads := reads_stay kept fun other => stays PrefixRow.Ended other ended }
  · intro other row found
    rcases rowsOf other row found with ⟨same, equal⟩ | ⟨_, unchanged⟩
    · subst same equal
      exact { next with }
    · exact { kept.rows other row unchanged with }
  · intro first second row next index found also is too
    obtain ⟨earlier, there, holds⟩ := before first row index found is
    obtain ⟨later, here, alsoHolds⟩ := before second next index also too
    exact kept.unique first second earlier later index there here holds alsoHolds
  · intro other missing
    by_cases same : other = vm
    · subst same
      simp [Site.setRow] at missing
    · simp only [Site.setRow, update_of_ne same] at missing
      exact kept.absent other missing

theorem removeRow_kept (kept : Kept supernet site) (present : site.rows vm = some old)
    (unpaid : old.unpaidReservation = true) : Kept supernet (site.setRow vm none) := by
  simp only [PrefixRow.unpaidReservation, Bool.and_eq_true, Bool.not_eq_true',
    decide_eq_true_eq] at unpaid
  have own := kept.rows vm old present
  have ⟨guestless, unreported, unattempted, unrequested⟩ := own.unpaid unpaid.1
  have rowsOf : ∀ other row, (site.setRow vm none).rows other = some row →
      other ≠ vm ∧ site.rows other = some row := by
    intro other row found
    by_cases same : other = vm
    · subst same
      simp [Site.setRow] at found
    · simp only [Site.setRow, update_of_ne same] at found
      exact ⟨same, found⟩
  have stays : ∀ (holds : PrefixRow → Prop) other, ¬ holds old →
      (∃ row, site.rows other = some row ∧ holds row) →
        ∃ row, (site.setRow vm none).rows other = some row ∧ holds row := by
    rintro holds other never ⟨row, found, held⟩
    by_cases same : other = vm
    · subst same
      rw [present] at found
      cases found
      exact absurd held never
    · exact ⟨row, by simp [Site.setRow, same, found], held⟩
  refine { kept with
    rows := fun other row found => { kept.rows other row (rowsOf other row found).2 with }
    unique := ?_
    absent := ?_
    calls := calls_stay kept (fun _ gone => gone) fun other => stays PrefixRow.Settled other ?_
    reads := reads_stay kept fun other => stays PrefixRow.Ended other ?_ }
  · intro first second row next index found also
    exact kept.unique first second row next index (rowsOf first row found).2
      (rowsOf second next also).2
  · intro other missing
    by_cases same : other = vm
    · subst same
      exact ⟨unattempted, unrequested⟩
    · simp only [Site.setRow, update_of_ne same] at missing
      exact kept.absent other missing
  · exact fun settled => (settled guestless).1 unpaid.2
  · exact fun ended => ended_ne ended unpaid.2

end Rewritten

section Parts

variable {supernet : Network} {site next : Site} {vm : VmId} {row : PrefixRow}

section
variable (kept : Kept supernet site)
include kept

theorem carry_kept (vms : next.vms = site.vms)
    (rows : next.rows = site.rows) (attempts : next.attempts = site.attempts)
    (requests : next.requests = site.requests) (guests : next.guests = site.guests)
    (deleted : next.deleted = site.deleted)
    (allocated : ∀ allocation ∈ next.allocations, Usable supernet allocation.index)
    (calls : ∀ call ∈ next.destroys, CallKept site call)
    (reads : ∀ read ∈ next.reads, ReadKept site read) : Kept supernet next := by
  cases site with
  | mk vms' rows' allocations' reads' attempts' destroys' generations' requests' guests' deleted' =>
    cases next
    subst vms rows attempts requests guests deleted
    exact { kept with
      rows := fun vm row found => { kept.rows vm row found with }
      allocated := allocated
      calls := calls
      reads := reads }

theorem setAttempt_kept {attempt : Option Attempt}
    (fits : ∀ new, attempt = some new → StageKept site vm new.stage ∧
      ∃ row, site.rows vm = some row ∧ row.paid = true ∧
        ∀ index, row.prefixIndex = some index → new.index = index) :
    Kept supernet (site.setAttempt vm attempt) := by
  have elsewhere : ∀ other, other ≠ vm →
      (site.setAttempt vm attempt).attempts other = site.attempts other := by
    intro other differ
    simp only [Site.setAttempt, update_of_ne differ]
  have here : (site.setAttempt vm attempt).attempts vm = attempt := by
    simp only [Site.setAttempt, update_self]
  refine { kept with rows := ?_, absent := ?_, stages := ?_ }
  · intro other row found
    have own := kept.rows other row found
    refine { own with unpaid := ?_, indexed := ?_ }
    · intro unpaid
      have ⟨guestless, unreported, unattempted, unrequested⟩ := own.unpaid unpaid
      refine ⟨guestless, unreported, ?_, unrequested⟩
      by_cases same : other = vm
      · subst same
        rw [here]
        cases new : attempt with
        | none => rfl
        | some begun =>
          obtain ⟨_, there, present, paid, _⟩ := fits begun new
          have equal := Option.some.inj (found.symm.trans present)
          rw [← equal, unpaid] at paid
          cases paid
      · rw [elsewhere other same]
        exact unattempted
    · intro index is
      refine ⟨(own.indexed index is).1, ?_⟩
      intro begun at_
      by_cases same : other = vm
      · subst same
        rw [here] at at_
        obtain ⟨_, there, present, _, agrees⟩ := fits begun at_
        have equal := Option.some.inj (found.symm.trans present)
        exact agrees index (equal ▸ is)
      · rw [elsewhere other same] at at_
        exact (own.indexed index is).2 begun at_
  · intro other missing
    have ⟨unattempted, unrequested⟩ := kept.absent other missing
    refine ⟨?_, unrequested⟩
    by_cases same : other = vm
    · subst same
      rw [here]
      cases new : attempt with
      | none => rfl
      | some begun =>
        obtain ⟨_, there, present, _⟩ := fits begun new
        have found : site.rows other = none := missing
        rw [found] at present
        cases present
    · rw [elsewhere other same]
      exact unattempted
  · intro other begun at_
    by_cases same : other = vm
    · subst same
      rw [here] at at_
      exact (fits begun at_).1
    · rw [elsewhere other same] at at_
      exact kept.stages other begun at_

theorem leave_kept : Kept supernet (site.setAttempt vm none) :=
  setAttempt_kept kept nofun

theorem advance_kept {attempt : Attempt} {stage : Stage}
    (begun : site.attempts vm = some attempt) (stands : StageKept site vm stage) :
    Kept supernet (site.setAttempt vm (some { attempt with stage := stage })) := by
  apply setAttempt_kept kept
  intro new is
  cases is
  refine ⟨stands, ?_⟩
  cases present : site.rows vm with
  | none =>
    rw [(kept.absent vm present).1] at begun
    cases begun
  | some row =>
    have own := kept.rows vm row present
    refine ⟨row, rfl, ?_, fun index is => (own.indexed index is).2 attempt begun⟩
    by_contra unpaid
    rw [Bool.not_eq_true] at unpaid
    rw [(own.unpaid unpaid).2.2.1] at begun
    cases begun

theorem addRequest_kept {request : CloneRequest}
    (present : site.rows request.vm = some row) (paid : row.paid = true)
    (index : row.prefixIndex = some request.index) (reported : row.receipt ≠ none) :
    Kept supernet { site with requests := request :: site.requests } := by
  refine { kept with rows := ?_, absent := ?_, made := ?_ }
  · intro vm other found
    have own := kept.rows vm other found
    by_cases same : vm = request.vm
    · subst same
      have equal := Option.some.inj (found.symm.trans present)
      subst equal
      refine { own with unpaid := ?_, guestless := ?_, indexed := ?_, receipted := ?_ }
      · intro unpaid
        rw [paid] at unpaid
        cases unpaid
      · intro lost
        rw [index] at lost
        cases lost
      · intro place is
        refine ⟨?_, (own.indexed place is).2⟩
        intro asked listed of_
        rcases List.mem_cons.mp listed with now | earlier
        · rw [now]
          exact Option.some.inj (index.symm.trans is)
        · exact (own.indexed place is).1 asked earlier of_
      · intro unreported
        exact absurd unreported reported
    · have others : ∀ {holds : CloneRequest → Prop},
          (∀ asked ∈ site.requests, asked.vm = vm → holds asked) →
            ∀ asked ∈ request :: site.requests, asked.vm = vm → holds asked := by
        intro holds all asked listed of_
        rcases List.mem_cons.mp listed with now | earlier
        · rw [now] at of_
          exact absurd of_.symm same
        · exact all asked earlier of_
      refine { own with unpaid := ?_, guestless := ?_, indexed := ?_, receipted := ?_ }
      · intro unpaid
        have ⟨guestless, unreported, unattempted, unrequested⟩ := own.unpaid unpaid
        exact ⟨guestless, unreported, unattempted, others unrequested⟩
      · intro lost
        have ⟨gone, waiting⟩ := own.guestless lost
        refine ⟨gone, fun unguested => ?_⟩
        exact ⟨(waiting unguested).1, others (waiting unguested).2⟩
      · intro place is
        exact ⟨others (own.indexed place is).1, (own.indexed place is).2⟩
      · intro unreported
        exact others (own.receipted unreported)
  · intro vm missing
    have ⟨unattempted, unrequested⟩ := kept.absent vm missing
    refine ⟨unattempted, ?_⟩
    intro asked listed of_
    rcases List.mem_cons.mp listed with now | earlier
    · have found : site.rows vm = none := missing
      rw [← of_, now, present] at found
      cases found
    · exact unrequested asked earlier of_
  · intro guest listed
    have ⟨asked, numbered⟩ := kept.made guest listed
    exact ⟨List.mem_cons_of_mem _ asked, numbered⟩

theorem makeClone_kept (request : CloneRequest) :
    Kept supernet (makeClone request site) := by
  unfold makeClone
  split
  · rename_i asked
    refine { kept with rows := ?_, made := ?_, distinct := ?_, stages := ?_ }
    · intro vm row found
      have own := kept.rows vm row found
      refine { own with tracked := ?_ }
      intro uuid is
      obtain ⟨guest, listed, same⟩ := own.tracked uuid is
      exact ⟨guest, List.mem_cons_of_mem _ listed, same⟩
    · intro guest listed
      rcases List.mem_cons.mp listed with now | earlier
      · rw [now]
        exact ⟨asked, Nat.lt_succ_self _⟩
      · have ⟨requested, numbered⟩ := kept.made guest earlier
        exact ⟨requested, Nat.lt_succ_of_lt numbered⟩
    · intro guest listed other also same
      rcases List.mem_cons.mp listed with now | earlier
      · rcases List.mem_cons.mp also with too | before
        · exact now.trans too.symm
        · have numbered := (kept.made other before).2
          rw [← same, now] at numbered
          exact absurd numbered (Nat.lt_irrefl _)
      · rcases List.mem_cons.mp also with too | before
        · have numbered := (kept.made guest earlier).2
          rw [same, too] at numbered
          exact absurd numbered (Nat.lt_irrefl _)
        · exact kept.distinct guest earlier other before same
    · intro vm attempt begun
      have before := kept.stages vm attempt begun
      unfold StageKept at before ⊢
      split
      · rename_i uuid generation is
        rw [is] at before
        obtain ⟨guest, listed, same⟩ := before
        exact ⟨guest, List.mem_cons_of_mem _ listed, same⟩
      · trivial
  · exact kept

theorem addDeleted_kept (uuid : Uuid) :
    Kept supernet { site with deleted := uuid :: site.deleted } := by
  refine { kept with
    rows := fun vm row found => ?_
    calls := calls_stay kept (fun _ => List.mem_cons_of_mem _) fun _ settled => settled }
  have own := kept.rows vm row found
  refine { own with guestless := ?_, confirmed := ?_ }
  · intro lost
    have ⟨gone, waiting⟩ := own.guestless lost
    exact ⟨fun guest is => List.mem_cons_of_mem _ (gone guest is), waiting⟩
  · intro guest is
    exact List.mem_cons_of_mem _ (own.confirmed guest is)

theorem addRow_kept {index : Nat} {paid : Bool}
    (absent : site.rows vm = none) (unused : index ∉ site.used) (usable : Usable supernet index) :
    Kept supernet { site with
      vms := vm :: site.vms
      rows := update site.rows vm
        (some ⟨.provisioning, none, some index, paid, false, none, none⟩) } := by
  have ⟨unattempted, unrequested⟩ := kept.absent vm absent
  have rowsOf : ∀ other row, update site.rows vm
      (some ⟨.provisioning, none, some index, paid, false, none, none⟩) other = some row →
        (other = vm ∧ row = ⟨.provisioning, none, some index, paid, false, none, none⟩) ∨
          (other ≠ vm ∧ site.rows other = some row) := by
    intro other row found
    by_cases same : other = vm
    · subst same
      rw [update_self] at found
      exact Or.inl ⟨rfl, (Option.some.inj found).symm⟩
    · rw [update_of_ne same] at found
      exact Or.inr ⟨same, found⟩
  have stays : ∀ (holds : PrefixRow → Prop) other,
      (∃ row, site.rows other = some row ∧ holds row) →
        ∃ row, update site.rows vm
          (some ⟨.provisioning, none, some index, paid, false, none, none⟩) other = some row ∧
            holds row := by
    rintro holds other ⟨row, found, held⟩
    have differ : other ≠ vm := by
      intro same
      rw [same, absent] at found
      cases found
    refine ⟨row, ?_, held⟩
    rw [update_of_ne differ]
    exact found
  have fresh : ∀ other row, site.rows other = some row → row.prefixIndex ≠ some index := by
    intro other row found is
    exact unused ((used_iff kept).mpr ⟨other, row, found, is⟩)
  refine { kept with
    rows := ?_
    unique := ?_
    absent := ?_
    calls := calls_stay kept (fun _ gone => gone) (stays PrefixRow.Settled)
    reads := reads_stay kept (stays PrefixRow.Ended) }
  · intro other row found
    rcases rowsOf other row found with ⟨same, equal⟩ | ⟨_, before⟩
    · subst same equal
      refine ⟨List.mem_cons_self, ?_, ?_, nofun, ?_, nofun, fun _ => unrequested, nofun⟩
      · intro place is
        cases is
        exact usable
      · intro _
        exact ⟨rfl, rfl, unattempted, unrequested⟩
      · intro place _
        constructor
        · intro request listed of_
          exact absurd of_ (unrequested request listed)
        · intro attempt begun
          rw [show site.attempts other = some attempt from begun] at unattempted
          cases unattempted
    · have own := kept.rows other row before
      exact { own with listed := List.mem_cons_of_mem _ own.listed }
  · intro first second row next place found also is too
    rcases rowsOf first row found with ⟨same, equal⟩ | ⟨_, before⟩
    · rcases rowsOf second next also with ⟨alike, _⟩ | ⟨_, earlier⟩
      · exact same.trans alike.symm
      · rw [equal] at is
        rw [← is] at too
        exact absurd too (fresh second next earlier)
    · rcases rowsOf second next also with ⟨alike, equal⟩ | ⟨_, earlier⟩
      · rw [equal] at too
        rw [← too] at is
        exact absurd is (fresh first row before)
      · exact kept.unique first second row next place before earlier is too
  · intro other missing
    by_cases same : other = vm
    · subst same
      simp at missing
    · simp only [update_of_ne same] at missing
      exact kept.absent other missing

end

end Parts

variable {generation : Generation} {guest : Uuid}

variable {read : UnlockedRead} {attempt : Attempt} {status : VMStatus}

section Steps

variable {supernet : Network} {digest : VmId → Nat} {site : Site} {vm : VmId} {old row : PrefixRow}

section
variable (kept : Kept supernet site)
include kept

theorem dispatch_kept (present : site.rows vm = some old)
    (next : RowKept supernet site vm row)
    (index : row.prefixIndex = old.prefixIndex ∨ row.prefixIndex = none) (paid : row.paid = true)
    (settled : old.Settled → row.xcpngUuid ≠ none) (ended : old.Ended → row.Ended) :
    Kept supernet (dispatch vm row site) := by
  unfold dispatch PrefixRow.stage
  by_cases unstaged : row.receipt = none ∧ row.xcpngUuid = none
  · rw [if_pos unstaged]
    have staged : RowKept supernet site vm { row with receipt := some site.generations } := by
      refine { next with unpaid := fun unpaid => ?_, receipted := nofun }
      rw [show row.paid = false from unpaid] at paid
      cases paid
    have rewritten := setRow_kept kept present staged index
      (fun before guestless => absurd guestless (settled before)) ended
    exact carry_kept rewritten rfl rfl rfl rfl rfl rfl rewritten.allocated rewritten.calls
      rewritten.reads
  · rw [if_neg unstaged]
    have rewritten := setRow_kept kept present next index
      (fun before guestless => absurd guestless (settled before)) ended
    exact carry_kept rewritten rfl rfl rfl rfl rfl rfl rewritten.allocated rewritten.calls
      rewritten.reads

theorem allocate_kept (longer : supernet.prefixLength ≤ 64)
    (many : 1 < 2 ^ (64 - supernet.prefixLength)) (paid : Bool) :
    Kept supernet (allocate supernet digest vm paid site) := by
  unfold allocate
  split
  · exact kept
  rename_i index block chosen
  refine carry_kept kept rfl rfl rfl rfl rfl rfl ?_ kept.calls kept.reads
  intro allocation listed
  rcases List.mem_cons.mp listed with now | earlier
  · rw [now]
    exact ((allocateCustomerPrefix_spec longer many).2 index block chosen).1
  · exact kept.allocated allocation earlier

theorem insertVmRow_kept (allocation : Allocation) :
    Kept supernet (insertVmRow allocation site) := by
  unfold insertVmRow
  split
  · exact kept
  rename_i listed
  rw [not_not] at listed
  dsimp only
  have rest : Kept supernet { site with allocations := site.allocations.erase allocation } :=
    carry_kept kept rfl rfl rfl rfl rfl rfl
      (fun other remains => kept.allocated other (List.mem_of_mem_erase remains)) kept.calls kept.reads
  split
  · exact rest
  rename_i free
  simp only [Bool.or_eq_true, decide_eq_true_eq, not_or, Bool.not_eq_true,
    Option.isSome_eq_false_iff, Option.isNone_iff_eq_none] at free
  have added := @addRow_kept _ _ allocation.vm rest allocation.index allocation.paid free.1
    free.2 (kept.allocated allocation listed)
  split
  · rename_i paid
    have present : (update site.rows allocation.vm (some ⟨.provisioning, none,
        some allocation.index, allocation.paid, false, none, none⟩)) allocation.vm = some
          ⟨.provisioning, none, some allocation.index, allocation.paid, false, none, none⟩ :=
      update_self ..
    have dispatched := dispatch_kept added present (added.rows _ _ present) (Or.inl rfl) paid
      (fun settled => absurd rfl (settled rfl).1) id
    -- the dispatch writes the new row over itself
    have same : dispatch allocation.vm ⟨.provisioning, none, some allocation.index,
        allocation.paid, false, none, none⟩ { site with
          allocations := site.allocations.erase allocation
          vms := allocation.vm :: site.vms } =
        dispatch allocation.vm ⟨.provisioning, none, some allocation.index,
          allocation.paid, false, none, none⟩ { site with
            allocations := site.allocations.erase allocation
            vms := allocation.vm :: site.vms
            rows := update site.rows allocation.vm (some ⟨.provisioning, none,
              some allocation.index, allocation.paid, false, none, none⟩) } := by
      simp [dispatch, Site.setRow]
    rw [same]
    exact dispatched
  · exact added

theorem activateVmReservation_kept :
    Kept supernet (activateVmReservation vm site) := by
  unfold activateVmReservation
  split
  · exact kept
  rename_i row present
  have own := kept.rows vm row present
  have paid : RowKept supernet site vm { row with paid := true } :=
    { own with unpaid := nofun }
  dsimp only
  split
  · rename_i provisioning
    exact dispatch_kept kept present paid (Or.inl rfl) rfl
      (fun settled guestless => (settled guestless).1 provisioning) id
  · exact setRow_kept kept present paid (Or.inl rfl) id id

theorem purgeReservation_kept :
    Kept supernet (purgeReservation vm site) := by
  unfold purgeReservation
  split
  · exact kept
  rename_i row present
  split
  · rename_i unpaid
    rw [Bool.and_eq_true] at unpaid
    exact removeRow_kept kept present unpaid.1
  · exact kept

theorem startUnlocked_kept
    (stands : ReadKept site read) : Kept supernet (startUnlocked read site) := by
  refine carry_kept kept rfl rfl rfl rfl rfl rfl kept.allocated kept.calls ?_
  intro other listed
  rcases List.mem_cons.mp listed with now | earlier
  · rw [now]
    exact stands
  · exact kept.reads other earlier

theorem readForRelease_kept :
    Kept supernet (readForRelease vm site) := by
  unfold readForRelease
  split
  · exact startUnlocked_kept kept trivial
  · exact kept

theorem readForMark_kept : Kept supernet (readForMark vm site) := by
  unfold readForMark
  split
  · exact startUnlocked_kept kept trivial
  · exact kept

theorem readForBundle_kept :
    Kept supernet (readForBundle vm site) := by
  unfold readForBundle
  split
  · exact kept
  rename_i row present
  split
  · rename_i status
    apply startUnlocked_kept kept
    rcases status with provisioning | failed
    · rw [provisioning]
      trivial
    · rw [failed]
      exact ⟨row, present, Or.inl failed⟩
  · exact kept

end

theorem mayExist_false (present : site.rows vm = some row) :
    site.guestMayExist vm = false ↔
      (∀ uuid, row.xcpngUuid = some uuid → uuid ∈ site.deleted) ∧
        (row.xcpngUuid = none → ∀ request ∈ site.requests, request.vm ≠ vm) := by
  unfold Site.guestMayExist
  rw [present, Option.any_some]
  cases row.xcpngUuid with
  | none => simp
  | some uuid => simp

theorem clearPrefix_kept (kept : Kept supernet site) {readFailed : Bool}
    (ended : readFailed = true → ∃ row, site.rows vm = some row ∧ row.Ended)
    (gone : site.guestMayExist vm = false) : Kept supernet (clearPrefix vm readFailed site) := by
  unfold clearPrefix
  split
  · exact kept
  rename_i row present
  have own := kept.rows vm row present
  have ⟨deleted, unrequested⟩ := (mayExist_false present).mp gone
  -- a status that is not written has been final since it was read
  have final : PrefixRow.Ended { row with
      status := if readFailed then row.status else .failed
      prefixIndex := none } := by
    cases readFailed with
    | false => exact Or.inl rfl
    | true =>
      obtain ⟨found, there, done⟩ := ended rfl
      rw [present] at there
      cases there
      exact done
  apply setRow_kept kept present
  · refine { own with ranged := nofun, guestless := fun _ => ?_, indexed := nofun }
    exact ⟨deleted, fun guestless => ⟨final, unrequested guestless⟩⟩
  · exact Or.inr rfl
  · intro settled guestless
    exact ⟨ended_ne final, (settled guestless).2⟩
  · exact fun _ => final

/-- What has been read still holds of the row where that matters: a guest is not lost, and an
unpaid reservation is one still. -/
def UnlockedRead.Careful (read : UnlockedRead) (site : Site) : Prop :=
  match read with
  | .markFailed vm => site.guestMayExist vm = false
  | .bundleFailed vm _ => site.guestMayExist vm = false
  | .release vm => (site.rows vm).all (·.unpaidReservation) = true

theorem writeUnlocked_kept (kept : Kept supernet site)
    (careful : read ∈ site.reads → read.Careful site) :
    Kept supernet (writeUnlocked read site) := by
  unfold writeUnlocked
  split
  · rename_i listed
    have ready := careful listed
    have rest : Kept supernet { site with reads := site.reads.erase read } :=
      carry_kept kept rfl rfl rfl rfl rfl rfl kept.allocated kept.calls
        fun other remains => kept.reads other (List.mem_of_mem_erase remains)
    have before := kept.reads read listed
    cases read with
    | markFailed vm => exact clearPrefix_kept rest nofun ready
    | bundleFailed vm status =>
      refine clearPrefix_kept rest (fun failed => ?_) ready
      rw [of_decide_eq_true failed] at before
      exact before
    | release vm =>
      unfold UnlockedRead.write
      dsimp only
      unfold UnlockedRead.Careful at ready
      dsimp only at ready
      cases present : site.rows vm with
      | none =>
        have same : Site.setRow { site with reads := site.reads.erase (.release vm) } vm none =
            { site with reads := site.reads.erase (.release vm) } := by
          unfold Site.setRow
          rw [show update site.rows vm none = site.rows from
            update_eq_self_iff.mpr present.symm]
        rw [same]
        exact rest
      | some row =>
        rw [present, Option.all_some] at ready
        exact removeRow_kept rest present ready
  · exact kept

theorem beginAttempt_kept (kept : Kept supernet site) :
    Kept supernet (beginAttempt vm site) := by
  unfold beginAttempt
  split
  · rename_i row present _
    split
    · rename_i index is
      split
      · rename_i paid
        apply setAttempt_kept kept
        intro new begun
        cases begun
        exact ⟨trivial, row, present, paid.1, fun place same => Option.some.inj (is.symm.trans same)⟩
      · exact kept
    · exact kept
  · exact kept

theorem mem_labelled (found : guest ∈ site.labelled vm generation) :
    ∃ made ∈ site.guests, made.uuid = guest ∧ made.request.vm = vm := by
  obtain ⟨made, listed, is⟩ := List.mem_map.mp found
  have ⟨there, fits⟩ := List.mem_filter.mp listed
  exact ⟨made, there, is, (of_decide_eq_true fits).1⟩

section
variable (kept : Kept supernet site)
include kept

theorem recoverPreUuidGuest_kept (begun : site.attempts vm = some attempt) :
    Kept supernet (recoverPreUuidGuest vm attempt site) := by
  unfold recoverPreUuidGuest
  split
  · exact leave_kept kept
  split
  · exact leave_kept kept
  split
  · exact advance_kept kept begun trivial
  split
  · exact advance_kept kept begun trivial
  · rename_i guest labelled
    apply advance_kept kept begun
    exact mem_labelled (labelled ▸ List.mem_singleton_self guest)
  · exact leave_kept kept

theorem recordUuid_kept (present : site.rows vm = some row)
    (made : ∃ made ∈ site.guests, made.uuid = guest ∧ made.request.vm = vm) :
    Kept supernet (recordUuid vm guest row site) := by
  unfold recordUuid
  split
  · exact kept
  rename_i agrees
  have own := kept.rows vm row present
  obtain ⟨clone, listed, numbered, of_⟩ := made
  have requested := (kept.made clone listed).1
  apply setRow_kept kept present
  · refine { own with unpaid := ?_, guestless := ?_, tracked := ?_ }
    · intro unpaid
      exact absurd of_ ((own.unpaid unpaid).2.2.2 _ requested)
    · intro lost
      have ⟨gone, waiting⟩ := own.guestless lost
      refine ⟨?_, nofun⟩
      intro uuid is
      cases is
      cases known : row.xcpngUuid with
      | none => exact absurd of_ ((waiting known).2 _ requested)
      | some other =>
        rw [known] at agrees
        simp only [Option.any_some, decide_not, Bool.not_eq_true', decide_eq_false_iff_not,
          not_not] at agrees
        exact gone guest (known.trans (congrArg some agrees))
    · intro uuid is
      cases is
      exact ⟨clone, listed, numbered, of_⟩
  · exact Or.inl rfl
  · exact fun _ => nofun
  · exact id

theorem adoptGuest_kept (made : ∃ made ∈ site.guests, made.uuid = guest ∧ made.request.vm = vm) :
    Kept supernet (adoptGuest vm guest generation site) := by
  unfold adoptGuest
  split
  · exact leave_kept kept
  rename_i row present
  split
  · exact leave_kept (recordUuid_kept kept present made)
  · exact leave_kept kept

theorem storeUuid_kept : Kept supernet (storeUuid vm guest generation site) := by
  unfold storeUuid
  split
  · rename_i answered
    obtain ⟨made, listed, fits⟩ := List.any_eq_true.mp answered
    have fits := of_decide_eq_true fits
    split
    · exact leave_kept kept
    · rename_i row present
      exact leave_kept (recordUuid_kept kept present ⟨made, listed, fits.1, fits.2.1⟩)
  · exact kept

theorem prepareGuestResult_kept (begun : site.attempts vm = some attempt) :
    Kept supernet (prepareGuestResult vm attempt site) := by
  unfold prepareGuestResult
  split
  · exact leave_kept kept
  rename_i row present
  split
  · rename_i ready
    have own := kept.rows vm row present
    have paid : row.paid = true := by
      by_contra unpaid
      rw [Bool.not_eq_true] at unpaid
      rw [(own.unpaid unpaid).2.2.1] at begun
      cases begun
    -- a row that is being provisioned has its prefix, which the attempt has read
    have index : row.prefixIndex = some attempt.index := by
      cases is : row.prefixIndex with
      | none => exact absurd ready.1 (ended_ne ((own.guestless is).2 ready.2).1)
      | some index => rw [(own.indexed index is).2 attempt begun]
    have rewritten : Kept supernet
        (site.setRow vm (some { row with receipt := some site.generations })) := by
      apply setRow_kept kept present
      · exact { own with
          unpaid := fun unpaid => absurd (paid.symm.trans unpaid) (by decide)
          receipted := nofun }
      · exact Or.inl rfl
      · exact fun settled => absurd ready.1 (settled ready.2).1
      · exact id
    have asked := @addRequest_kept supernet _ { row with receipt := some site.generations }
      rewritten ⟨vm, site.generations, attempt.index⟩ (by simp [Site.setRow]) paid index nofun
    have gone_on := @advance_kept supernet _ vm asked attempt (.cloning site.generations) begun
      trivial
    exact carry_kept gone_on rfl rfl rfl rfl rfl rfl gone_on.allocated gone_on.calls gone_on.reads
  · exact leave_kept kept

theorem changeStatus_kept (present : site.rows vm = some row)
    {deletionStarted : Bool}
    (rests : status = .provisioning → row.xcpngUuid = none → row.status = .provisioning)
    (claimed : row.deletionStarted = true → row.xcpngUuid = none → deletionStarted = true)
    (ended : row.Ended → status = .failed ∨ status = .destroyed) :
    Kept supernet (site.setRow vm (some { row with
      status := status
      deletionStarted := deletionStarted })) := by
  have own := kept.rows vm row present
  apply setRow_kept kept present
  · refine { own with guestless := fun lost => ?_ }
    have ⟨gone, waiting⟩ := own.guestless lost
    exact ⟨gone, fun guestless => ⟨ended (waiting guestless).1, (waiting guestless).2⟩⟩
  · exact Or.inl rfl
  · intro settled guestless
    have ⟨still, unreported, started⟩ := settled guestless
    exact ⟨fun provisioning => still (rests provisioning guestless), unreported,
      claimed started guestless⟩
  · exact ended

theorem failProvisioning_kept :
    Kept supernet (failProvisioning vm site) := by
  unfold failProvisioning
  split
  · exact kept
  rename_i row present
  split
  · exact changeStatus_kept kept present nofun (fun claimed _ => claimed) fun _ => Or.inl rfl
  · exact kept

theorem changePower_kept :
    Kept supernet (changePower vm status site) := by
  unfold changePower
  split
  · exact kept
  rename_i row present
  split
  · rename_i allowed
    apply changeStatus_kept kept present
    · intro provisioning
      rw [provisioning] at allowed
      exact absurd allowed.1 (by decide)
    · exact fun claimed _ => claimed
    · intro done
      refine absurd ?_ allowed.2
      rcases done with failed | destroyed
      · rw [failed]
        decide
      · rw [destroyed]
        decide
  · exact kept

theorem restartProvisioning_kept :
    Kept supernet (restartProvisioning vm site) := by
  unfold restartProvisioning
  split
  · exact kept
  rename_i row present
  split
  · rename_i ready
    have own := kept.rows vm row present
    have unfinished : ¬ row.Ended := by
      rintro (failed | destroyed)
      · rw [ready.1] at failed
        cases failed
      · rw [ready.1] at destroyed
        cases destroyed
    refine dispatch_kept kept present ?_ (Or.inl rfl) ready.2.2.2 ?_
      (fun done => absurd done unfinished)
    · refine { own with guestless := fun lost => ?_ }
      exact absurd ((own.guestless lost).2 ready.2.1).1 unfinished
    · intro settled guestless
      have started := (settled guestless).2.2
      rw [ready.2.2.1] at started
      cases started
  · exact kept

theorem completeRestore_kept :
    Kept supernet (completeRestore vm site) := by
  unfold completeRestore
  split
  · exact kept
  rename_i row present
  split
  · rename_i tracked
    apply changeStatus_kept kept present
    · exact fun provisioning _ => provisioning
    · intro _ guestless
      rw [guestless] at tracked
      cases tracked
    · exact id
  · exact kept

theorem claimDeletion_kept :
    Kept supernet (claimDeletion vm site) := by
  unfold claimDeletion
  split
  · exact kept
  rename_i row present
  split
  · exact kept
  have own := kept.rows vm row present
  have claimed : Kept supernet (site.setRow vm (some { row with deletionStarted := true })) :=
    changeStatus_kept kept present (fun same _ => same) (fun _ _ => rfl) id
  refine carry_kept claimed rfl rfl rfl rfl rfl rfl claimed.allocated ?_ claimed.reads
  intro call listed
  rcases List.mem_cons.mp listed with now | earlier
  · rw [now]
    cases guest : row.xcpngUuid with
    | some uuid =>
      intro verified
      simp only [PrefixRow.verified, guest, Option.isSome_some, Bool.true_and,
        decide_eq_true_eq] at verified
      exact own.confirmed uuid verified
    | none =>
      intro ready resolved
      refine ⟨{ row with deletionStarted := true }, by simp [Site.setRow, guest], fun _ => ?_⟩
      refine ⟨ready, ?_, rfl⟩
      simpa using resolved
  · exact claimed.calls call earlier

theorem deleteGuest_kept (call : DestroyCall) (reply : DeleteReply) :
    Kept supernet (deleteGuest call reply site) := by
  unfold deleteGuest
  split
  · exact kept
  rename_i uuid is
  split
  · exact kept
  have added := addDeleted_kept kept uuid
  have erased : ∀ other ∈ site.destroys.erase call, other ∈ site.destroys :=
    fun other remains => List.mem_of_mem_erase remains
  cases reply with
  | deleted =>
    refine carry_kept added rfl rfl rfl rfl rfl rfl added.allocated ?_ added.reads
    intro other listed
    rcases List.mem_cons.mp listed with now | earlier
    · rw [now]
      rw [is]
      exact fun _ => List.mem_cons_self
    · exact added.calls other (erased other earlier)
  | raised took =>
    cases took with
    | true =>
      exact carry_kept added rfl rfl rfl rfl rfl rfl added.allocated
        (fun other listed => added.calls other (erased other listed)) added.reads
    | false =>
      exact carry_kept kept rfl rfl rfl rfl rfl rfl kept.allocated
        (fun other listed => kept.calls other (erased other listed)) kept.reads

theorem cleanup_gone {call : DestroyCall} {dnsClean : Bool}
    (listed : call ∈ site.destroys) (deleted : ¬(call.uuid.isSome = true ∧ call.gone = false))
    (present : site.rows call.vm = some row)
    (clears : (call.cleanupOk dnsClean && decide (row.xcpngUuid = call.uuid)) = true) :
    site.guestMayExist call.vm = false := by
  rw [Bool.and_eq_true, decide_eq_true_eq] at clears
  have before := kept.calls call listed
  unfold CallKept at before
  refine (mayExist_false present).mpr ⟨?_, ?_⟩
  · intro uuid is
    have same := clears.2.symm.trans is
    rw [same] at before deleted
    refine before ?_
    simpa using deleted
  · intro guestless
    have same := clears.2.symm.trans guestless
    have ok := clears.1
    unfold DestroyCall.cleanupOk at ok
    simp only [same, Option.isSome_none, Bool.false_or, Bool.and_eq_true, Bool.not_eq_true',
      Bool.or_eq_false_iff, decide_eq_false_iff_not] at ok
    rw [same] at before
    obtain ⟨found, there, settled⟩ := before ok.2.1 ok.2.2
    rw [present] at there
    cases there
    exact (kept.rows call.vm row present).receipted (settled guestless).2.1

theorem finishDestroy_kept (call : DestroyCall) (dnsClean : Bool) :
    Kept supernet (finishDestroy call dnsClean site) := by
  unfold finishDestroy
  split
  · exact kept
  rename_i ready
  rw [not_or, not_not] at ready
  have erased : Kept supernet { site with destroys := site.destroys.erase call } :=
    carry_kept kept rfl rfl rfl rfl rfl rfl kept.allocated
      (fun other remains => kept.calls other (List.mem_of_mem_erase remains)) kept.reads
  split
  · exact erased
  rename_i row present
  have own := kept.rows call.vm row present
  have before := kept.calls call ready.1
  apply setRow_kept erased present
  · refine { own with ranged := ?_, guestless := ?_, indexed := ?_, confirmed := ?_ }
    · intro index is
      unfold PrefixRow.destroyed at is
      split at is
      · cases is
      · exact own.ranged index is
    · intro lost
      unfold PrefixRow.destroyed at lost
      split at lost
      · rename_i clears
        have ⟨gone, unrequested⟩ :=
          (mayExist_false present).mp (cleanup_gone kept ready.1 ready.2 present clears)
        exact ⟨gone, fun guestless => ⟨Or.inr rfl, unrequested guestless⟩⟩
      · have ⟨gone, waiting⟩ := own.guestless lost
        exact ⟨gone, fun guestless => ⟨Or.inr rfl, (waiting guestless).2⟩⟩
    · intro index is
      unfold PrefixRow.destroyed at is
      split at is
      · cases is
      · exact own.indexed index is
    · intro uuid is
      unfold PrefixRow.destroyed at is
      dsimp only at is
      split at is
      · rename_i tracked
        unfold CallKept at before
        rw [is] at before
        refine before ?_
        have deleted := ready.2
        rw [not_and, Bool.not_eq_false] at deleted
        exact deleted tracked
      · exact own.confirmed uuid is
  · unfold PrefixRow.destroyed
    split
    · exact Or.inr rfl
    · exact Or.inl rfl
  · intro settled guestless
    have ⟨_, unreported, started⟩ := settled guestless
    exact ⟨nofun, unreported, started⟩
  · exact fun _ => Or.inr rfl

theorem release_gone (present : site.rows vm = some row)
    (verified : ¬(row.xcpngUuid.isSome = true ∧ row.providerDeleted ≠ row.xcpngUuid))
    (unreported : ¬(row.xcpngUuid = none ∧ row.receipt.isSome = true)) :
    site.guestMayExist vm = false := by
  have own := kept.rows vm row present
  refine (mayExist_false present).mpr ⟨?_, ?_⟩
  · intro uuid is
    rw [is] at verified
    simp only [Option.isSome_some, true_and, not_not] at verified
    exact own.confirmed uuid verified
  · intro guestless
    refine own.receipted ?_
    simpa [guestless] using unreported

theorem releaseDestroyedPrefix_kept :
    Kept supernet (releaseDestroyedPrefix vm site) := by
  unfold releaseDestroyedPrefix
  split
  · exact kept
  rename_i row present
  split
  · exact kept
  rename_i destroyed
  split
  · exact kept
  rename_i verified
  split
  · exact kept
  rename_i unreported
  have own := kept.rows vm row present
  have ⟨gone, unrequested⟩ :=
    (mayExist_false present).mp (release_gone kept present verified unreported)
  rw [not_not] at destroyed
  apply setRow_kept kept present
  · refine { own with ranged := nofun, guestless := fun _ => ?_, indexed := nofun }
    exact ⟨gone, fun guestless => ⟨Or.inr destroyed, unrequested guestless⟩⟩
  · exact Or.inr rfl
  · exact id
  · exact id

end

end Steps

end HyruleCloud.CustomerPrefixes
