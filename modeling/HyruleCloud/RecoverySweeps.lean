import Mathlib.Data.Finset.Card
import Mathlib.Data.List.MinMax
import Mathlib.Data.List.Sort

/-!
The sweeps of `recover_tracked_provisioning`, orchestrator.py. A cycle takes the eligible guests
up to a mark in batches of four, by the order of their ids, and the rows may change before each
statement. The empty text, with which the cursor and the mark begin, is below every id.
-/

namespace HyruleCloud.RecoverySweeps

variable {VmId : Type} [LinearOrder VmId]

structure Sweep (VmId : Type) where
  recoveryCursor : WithBot VmId
  recoveryCycleMax : WithBot VmId

/-- What the database does to a pass that raises: it fails at the SELECT of the batch, or in the
call of `_spawn_provisioning` with this index. -/
inductive Failure where
  | listing
  | spawning (index : Nat)
  deriving DecidableEq

/-- The eligible ids at the SELECT of the mark and at the SELECT of the batch. -/
structure Pass (VmId : Type) where
  marked : List VmId
  listed : List VmId
  failure : Option Failure

namespace Sweep

def initial : Sweep VmId := ⟨⊥, ⊥⟩

def cycleMax (sweep : Sweep VmId) (pass : Pass VmId) : WithBot VmId :=
  if sweep.recoveryCycleMax = ⊥ then pass.marked.maximum else sweep.recoveryCycleMax

def due (sweep : Sweep VmId) (pass : Pass VmId) : List VmId :=
  (pass.listed.filter fun id : VmId =>
    sweep.recoveryCursor < id ∧ id ≤ sweep.cycleMax pass).insertionSort (· ≤ ·)

def vmIds (sweep : Sweep VmId) (pass : Pass VmId) : List VmId := (sweep.due pass).take 4

/-- The cursor moves before the batch is spawned. -/
def advance (sweep : Sweep VmId) (pass : Pass VmId) : Sweep VmId :=
  if pass.failure = some .listing then ⟨sweep.recoveryCursor, sweep.cycleMax pass⟩
  else match (sweep.vmIds pass).getLast? with
    | none => initial
    | some last =>
      if (last : WithBot VmId) = sweep.cycleMax pass then initial
      else ⟨last, sweep.cycleMax pass⟩

/-- The ids passed to `_spawn_provisioning`. -/
def spawned (sweep : Sweep VmId) (pass : Pass VmId) : List VmId :=
  match pass.failure with
  | none => sweep.vmIds pass
  | some .listing => []
  | some (.spawning index) => (sweep.vmIds pass).take (index + 1)

def recover (sweep : Sweep VmId) (passes : List (Pass VmId)) : Sweep VmId :=
  passes.foldl advance sweep

def recovered (sweep : Sweep VmId) : List (Pass VmId) → List VmId
  | [] => []
  | pass :: rest => sweep.spawned pass ++ (sweep.advance pass).recovered rest

/-- None of the passes ends the cycle. -/
def Ongoing (sweep : Sweep VmId) : List (Pass VmId) → Prop
  | [] => True
  | pass :: rest =>
    (sweep.advance pass).recoveryCycleMax ≠ ⊥ ∧ (sweep.advance pass).Ongoing rest

/-- The batch is read, and no call raises before the last one of it. -/
def Complete (sweep : Sweep VmId) (pass : Pass VmId) : Prop :=
  pass.failure ≠ some .listing ∧
    ∀ index, pass.failure = some (.spawning index) → (sweep.vmIds pass).length ≤ index + 1

def Completes (sweep : Sweep VmId) : List (Pass VmId) → Prop
  | [] => True
  | pass :: rest => sweep.Complete pass ∧ (sweep.advance pass).Completes rest

/-! What one pass does. -/

section Pass

variable {sweep : Sweep VmId} {pass : Pass VmId} {id : VmId}

theorem mem_due : id ∈ sweep.due pass ↔
    id ∈ pass.listed ∧ sweep.recoveryCursor < id ∧ id ≤ sweep.cycleMax pass := by
  unfold due
  rw [List.mem_insertionSort, List.mem_filter, decide_eq_true_eq]

theorem due_batched {last : VmId} (ends : (sweep.vmIds pass).getLast? = some last)
    (waits : id ∈ sweep.due pass) : id ∈ sweep.vmIds pass ∨ last < id := by
  have sorted : (sweep.due pass).Pairwise (· ≤ ·) := List.pairwise_insertionSort _ _
  have whole := List.take_append_drop 4 (sweep.due pass)
  rw [← whole] at waits sorted
  rcases List.mem_append.mp waits with taken | left_
  · exact Or.inl taken
  · have taken := List.mem_of_getLast? ends
    have upTo := (List.pairwise_append.mp sorted).2.2 last taken id left_
    rcases eq_or_lt_of_le upTo with same | later
    · exact Or.inl (same ▸ taken)
    · exact Or.inr later

theorem spawned_all (complete : sweep.Complete pass) : sweep.spawned pass = sweep.vmIds pass := by
  unfold spawned
  split
  · rfl
  · rename_i failed
    exact absurd failed complete.1
  · rename_i index failed
    exact List.take_of_length_le (complete.2 index failed)

theorem advance_last (listed : pass.failure ≠ some .listing)
    (goes : (sweep.advance pass).recoveryCycleMax ≠ ⊥) :
    (sweep.advance pass).recoveryCycleMax = sweep.cycleMax pass ∧ ∃ last : VmId,
      (sweep.vmIds pass).getLast? = some last ∧ (sweep.advance pass).recoveryCursor = last := by
  unfold advance at goes ⊢
  rw [if_neg listed] at goes ⊢
  split at goes
  · exact absurd rfl goes
  · split at goes
    · exact absurd rfl goes
    · rename_i last ends before
      rw [if_neg before]
      exact ⟨rfl, last, ends, rfl⟩

theorem advance_goes (complete : sweep.Complete pass)
    (goes : (sweep.advance pass).recoveryCycleMax ≠ ⊥) :
    (sweep.advance pass).recoveryCycleMax = sweep.cycleMax pass ∧
      ∃ last : VmId, (sweep.advance pass).recoveryCursor = last ∧ last ∈ sweep.due pass ∧
        ∀ id ∈ sweep.due pass, id ∈ sweep.spawned pass ∨ last < id := by
  rw [spawned_all complete]
  obtain ⟨same, last, ends, cursor⟩ := advance_last complete.1 goes
  refine ⟨same, last, cursor, List.mem_of_mem_take (List.mem_of_getLast? ends), ?_⟩
  exact fun id waits => due_batched ends waits

theorem advance_ends (complete : sweep.Complete pass)
    (ended : (sweep.advance pass).recoveryCycleMax = ⊥) (waits : id ∈ sweep.due pass) :
    id ∈ sweep.spawned pass := by
  rw [spawned_all complete]
  unfold advance at ended
  rw [if_neg complete.1] at ended
  have ⟨_, _, upTo⟩ := mem_due.mp waits
  split at ended
  · rename_i none
    have empty : sweep.due pass = [] := by simpa [vmIds] using none
    rw [empty] at waits
    cases waits
  · rename_i last ends
    refine (due_batched ends waits).resolve_right fun later => ?_
    split at ended
    · rename_i top
      rw [← top, WithBot.coe_le_coe] at upTo
      exact absurd upTo (not_le_of_gt later)
    · exact absurd (le_of_le_of_eq upTo ended) (WithBot.not_coe_le_bot id)

theorem advance_reset (reset : sweep.recoveryCycleMax = ⊥ → sweep.recoveryCursor = ⊥)
    (ended : (sweep.advance pass).recoveryCycleMax = ⊥) :
    (sweep.advance pass).recoveryCursor = ⊥ := by
  unfold advance at ended ⊢
  split at ended
  · rename_i failed
    rw [if_pos failed]
    refine reset (by_contra fun kept => kept ?_)
    rw [← ended, cycleMax, if_neg kept]
  · rename_i listed
    rw [if_neg listed]
    split at ended
    · rfl
    · split at ended
      · rename_i top
        rw [if_pos top]
        rfl
      · rename_i last ends before
        have waits := List.mem_of_mem_take (List.mem_of_getLast? ends)
        have ⟨_, _, upTo⟩ := mem_due.mp waits
        exact absurd (le_of_le_of_eq upTo ended) (WithBot.not_coe_le_bot last)

theorem spawned_sublist : (sweep.spawned pass).Sublist (sweep.vmIds pass) := by
  unfold spawned
  split
  · exact List.Sublist.refl _
  · exact List.nil_sublist _
  · exact List.take_sublist _ _

theorem vmIds_ascends (keyed : pass.listed.Nodup) : (sweep.vmIds pass).Pairwise (· < ·) := by
  have distinct : (sweep.due pass).Nodup :=
    (List.perm_insertionSort _ _).nodup_iff.mpr (keyed.filter _)
  have sorted : (sweep.due pass).Pairwise (· ≤ ·) := List.pairwise_insertionSort _ _
  exact ((sorted.and distinct).imp fun both => lt_of_le_of_ne both.1 both.2).sublist
    (List.take_sublist _ _)

theorem spawned_ahead (now : id ∈ sweep.spawned pass) : sweep.recoveryCursor < id :=
  (mem_due.mp (List.mem_of_mem_take (spawned_sublist.mem now))).2.1

theorem spawned_behind (keyed : pass.listed.Nodup)
    (goes : (sweep.advance pass).recoveryCycleMax ≠ ⊥) :
    sweep.recoveryCursor ≤ (sweep.advance pass).recoveryCursor ∧
      ∀ id ∈ sweep.spawned pass, (id : WithBot VmId) ≤ (sweep.advance pass).recoveryCursor := by
  by_cases failed : pass.failure = some .listing
  · simp [advance, spawned, failed]
  obtain ⟨_, last, ends, cursor⟩ := advance_last failed goes
  obtain ⟨front, batch⟩ := List.getLast?_eq_some_iff.mp ends
  have ascends := @vmIds_ascends _ _ sweep _ keyed
  rw [batch] at ascends
  rw [cursor]
  refine ⟨(mem_due.mp (List.mem_of_mem_take (List.mem_of_getLast? ends))).2.1.le,
    fun id now => WithBot.coe_le_coe.mpr ?_⟩
  rcases List.mem_append.mp (batch ▸ spawned_sublist.mem now) with early | only
  · exact ((List.pairwise_append.mp ascends).2.2 id early last List.mem_cons_self).le
  · exact (List.mem_singleton.mp only).le

end Pass

variable {mark : WithBot VmId}

/-! What the passes of a cycle do. -/

section Cycle

variable {sweep : Sweep VmId} {final : Pass VmId} {passes : List (Pass VmId)}

theorem recover_reset (reset : sweep.recoveryCycleMax = ⊥ → sweep.recoveryCursor = ⊥)
    (ended : (sweep.recover passes).recoveryCycleMax = ⊥) :
    (sweep.recover passes).recoveryCursor = ⊥ := by
  induction passes generalizing sweep with
  | nil => exact reset ended
  | cons pass rest ih => exact ih (fun ended => advance_reset reset ended) ended

theorem cycleMax_kept (goes : sweep.recoveryCycleMax ≠ ⊥)
    (same : sweep.recoveryCycleMax = mark) (pass : Pass VmId) : sweep.cycleMax pass = mark := by
  rw [cycleMax, if_neg goes, same]

theorem cycle_covers {id : VmId}
    (marks : ∀ pass ∈ (passes ++ [final]).head?, sweep.cycleMax pass = mark)
    (completes : sweep.Completes (passes ++ [final])) (ongoing : sweep.Ongoing passes)
    (ended : (sweep.recover (passes ++ [final])).recoveryCycleMax = ⊥)
    (stays : ∀ pass ∈ passes ++ [final], id ∈ pass.listed)
    (ahead : sweep.recoveryCursor < id) (upTo : id ≤ mark) :
    id ∈ sweep.recovered (passes ++ [final]) := by
  induction passes generalizing sweep with
  | nil =>
    have waits : id ∈ sweep.due final := by
      refine mem_due.mpr ⟨stays final List.mem_cons_self, ahead, ?_⟩
      rw [marks final rfl]
      exact upTo
    exact List.mem_append_left _ (advance_ends completes.1 ended waits)
  | cons pass rest ih =>
    have ⟨goes, later⟩ := ongoing
    have ⟨same, last, cursor, _, batched⟩ := advance_goes completes.1 goes
    have own := marks pass rfl
    have waits : id ∈ sweep.due pass :=
      mem_due.mpr ⟨stays pass List.mem_cons_self, ahead, own ▸ upTo⟩
    rcases batched id waits with now | after
    · exact List.mem_append_left _ now
    · refine List.mem_append_right _ (ih ?_ completes.2 later ended ?_ ?_)
      · exact fun next _ => cycleMax_kept goes (same.trans own) next
      · exact fun next listed => stays next (List.mem_cons_of_mem _ listed)
      · rw [cursor]
        exact WithBot.coe_lt_coe.mpr after

def between (low high : WithBot VmId) (passes : List (Pass VmId)) : Finset VmId :=
  ((passes.flatMap (·.listed)).filter fun id : VmId => low < id ∧ id ≤ high).toFinset

theorem mem_between {low high : WithBot VmId} {id : VmId} : id ∈ between low high passes ↔
    (∃ pass ∈ passes, id ∈ pass.listed) ∧ low < id ∧ id ≤ high := by
  simp [between]

theorem ongoing_bounded (marks : ∀ pass ∈ passes.head?, sweep.cycleMax pass = mark)
    (completes : sweep.Completes passes) (ongoing : sweep.Ongoing passes) :
    passes.length ≤ (between sweep.recoveryCursor mark passes).card := by
  induction passes generalizing sweep with
  | nil => exact Nat.zero_le _
  | cons pass rest ih =>
    have ⟨goes, later⟩ := ongoing
    have ⟨same, last, cursor, due_, _⟩ := advance_goes completes.1 goes
    have own := marks pass rfl
    have ⟨listed, ahead, upTo⟩ := mem_due.mp due_
    have bound := ih (fun next _ => cycleMax_kept goes (same.trans own) next) completes.2 later
    rw [cursor] at bound
    have fresh : last ∉ between last mark rest := fun member =>
      absurd (mem_between.mp member).2.1 (lt_irrefl _)
    have grows : insert last (between last mark rest) ⊆
        between sweep.recoveryCursor mark (pass :: rest) := by
      intro id member
      rcases Finset.mem_insert.mp member with same | after
      · rw [same]
        exact mem_between.mpr ⟨⟨pass, List.mem_cons_self, listed⟩, ahead, own ▸ upTo⟩
      · have ⟨⟨next, among, present⟩, above, below⟩ := mem_between.mp after
        refine mem_between.mpr ⟨⟨next, List.mem_cons_of_mem _ among, present⟩, ?_, below⟩
        exact lt_trans ahead above
    have counted := Finset.card_le_card grows
    rw [Finset.card_insert_of_notMem fresh] at counted
    exact le_trans (Nat.succ_le_succ bound) counted

end Cycle

/-- The ids up to the mark that are listed in the cycle but were not there when it began. -/
def arrivals (first : Pass VmId) (passes : List (Pass VmId)) : Finset VmId :=
  between ⊥ first.marked.maximum passes \ first.marked.toFinset

/-- In a cycle whose passes all complete: `covers` of the guests that are eligible throughout,
and `ends` of a cycle that has not ended. -/
structure CycleSound (start : Sweep VmId) (first : Pass VmId) (rest : List (Pass VmId)) :
    Prop where
  covers : ∀ passes final, first :: rest = passes ++ [final] → start.Ongoing passes →
    (start.recover (first :: rest)).recoveryCycleMax = ⊥ → ∀ id ∈ first.marked,
      (∀ pass ∈ first :: rest, id ∈ pass.listed) → id ∈ start.recovered (first :: rest)
  ends : start.Ongoing (first :: rest) →
    (first :: rest).length ≤ first.marked.toFinset.card + (arrivals first (first :: rest)).card

theorem cycle_sound (before : List (Pass VmId)) (first : Pass VmId) (rest : List (Pass VmId))
    (starts : (recover initial before).recoveryCycleMax = ⊥)
    (completes : (recover initial before).Completes (first :: rest)) :
    CycleSound (recover initial before) first rest := by
  have cursor : (recover initial before).recoveryCursor = ⊥ :=
    recover_reset (fun _ => rfl) starts
  have marks : ∀ pass ∈ (first :: rest).head?,
      (recover initial before).cycleMax pass = first.marked.maximum := by
    rintro pass ⟨⟩
    exact if_pos starts
  constructor
  · intro passes final split ongoing ended id marked stays
    rw [split] at marks completes ended stays ⊢
    refine cycle_covers marks completes ongoing ended stays ?_ (List.le_maximum_of_mem' marked)
    rw [cursor]
    exact WithBot.bot_lt_coe id
  · intro ongoing
    have bound := ongoing_bounded marks completes ongoing
    rw [cursor] at bound
    refine le_trans bound (le_trans (Finset.card_le_card ?_) (Finset.card_union_le _ _))
    intro id member
    by_cases early : id ∈ first.marked
    · exact Finset.mem_union_left _ (List.mem_toFinset.mpr early)
    · refine Finset.mem_union_right _ (Finset.mem_sdiff.mpr ⟨member, ?_⟩)
      exact fun listed => early (List.mem_toFinset.mp listed)

theorem two_passes_sound :
    CycleSound (recover initial []) ⟨[1, 2, 3, 4, 5], [1, 2, 3, 4, 5], none⟩
      [⟨[], [2, 5, 7], some (.spawning 0)⟩] := by
  refine cycle_sound [] _ _ rfl ⟨⟨nofun, nofun⟩, ⟨nofun, ?_⟩, trivial⟩
  rintro _ ⟨⟩
  decide +kernel

/-- Five guests are eligible all the time. The first call of the first pass raises; the cycle
ends with the second pass, and three guests were not tried. -/
theorem failed_spawn_skips :
    let first : Pass Nat := ⟨[1, 2, 3, 4, 5], [1, 2, 3, 4, 5], some (.spawning 0)⟩
    let second : Pass Nat := ⟨[1, 2, 3, 4, 5], [1, 2, 3, 4, 5], none⟩
    ¬ CycleSound initial first [second] ∧ initial.recovered [first, second] = [1, 5] := by
  intro first second
  have tried : initial.recovered [first, second] = [1, 5] := by decide +kernel
  refine ⟨fun sound => ?_, tried⟩
  have missed := sound.covers [first] second rfl (by unfold Ongoing Ongoing; decide +kernel)
    (by decide +kernel) 2 (by decide +kernel) (by decide +kernel)
  rw [tried] at missed
  exact absurd missed (by decide)

/-- In one cycle, whichever of its passes fail, the guests are spawned in the order of their
ids, each at most once. -/
theorem cycle_ascends (sweep : Sweep VmId) (passes : List (Pass VmId)) (final : Pass VmId)
    (keyed : ∀ pass ∈ passes ++ [final], pass.listed.Nodup) (ongoing : sweep.Ongoing passes) :
    (sweep.recovered (passes ++ [final])).Pairwise (· < ·) ∧
      ∀ id ∈ sweep.recovered (passes ++ [final]), sweep.recoveryCursor < id := by
  induction passes generalizing sweep with
  | nil =>
    have ascends := (vmIds_ascends (keyed final List.mem_cons_self)).sublist
      (@spawned_sublist _ _ sweep _)
    simpa [recovered] using ⟨ascends, fun id now => spawned_ahead now⟩
  | cons pass rest ih =>
    obtain ⟨goes, later⟩ := ongoing
    have own := keyed pass List.mem_cons_self
    obtain ⟨moved, behind⟩ := spawned_behind own goes
    obtain ⟨ascends, ahead⟩ := ih (sweep.advance pass)
      (fun next listed => keyed next (List.mem_cons_of_mem _ listed)) later
    refine ⟨List.pairwise_append.mpr ⟨(vmIds_ascends own).sublist spawned_sublist, ascends,
      fun id now other after => ?_⟩, fun id among => ?_⟩
    · exact WithBot.coe_lt_coe.mp ((behind id now).trans_lt (ahead other after))
    · rcases List.mem_append.mp among with now | after
      · exact spawned_ahead now
      · exact moved.trans_lt (ahead id after)

/-- The SELECT of the second pass fails, and the first call of the third. -/
theorem failed_passes_ascend : let passes : List (Pass Nat) :=
      [⟨[1, 2, 5, 7, 9], [5, 1, 9, 2, 7], none⟩, ⟨[], [], some .listing⟩]
    (initial.recovered (passes ++ [⟨[], [9, 1], some (.spawning 0)⟩])).Pairwise (· < ·) :=
  (cycle_ascends initial _ _ (by decide +kernel)
    (by unfold Ongoing Ongoing Ongoing; decide +kernel)).1

end Sweep

end HyruleCloud.RecoverySweeps
