import HyruleCloud.ReadCommitted

/-!
One-shot claims on the rows of a table. A row is spent by a draft of its claimant;
once this is committed the claimant has won the row, and shows it once. What is left
to the transactions is to draft a claim only on a row that is not spent, and never to
revive a spent row.
-/

namespace ReadCommitted

variable {π κ ρ γ : Type}

inductive Claim (κ : Type) where
  | none
  | drafted (key : κ)
  | won (key : κ)

def SpentAt (spent : ρ → Bool) (table : LockedTable π κ ρ) (key : κ) : Prop :=
  ∃ row, table.committed key = some row ∧ spent row = true

structure OneShot (spent : ρ → Bool) (table : LockedTable π κ ρ) (claims : π → Claim κ)
    (shown : List κ) : Prop where
  drafted : ∀ who key, claims who = .drafted key →
    (∃ row, table.drafts key = some (who, some row) ∧ spent row = true) ∧
      ¬ SpentAt spent table key
  kept : ∀ key who draft, table.drafts key = some (who, draft) → SpentAt spent table key →
    ∃ row, draft = some row ∧ spent row = true
  won : ∀ who key, claims who = .won key → SpentAt spent table key ∧ key ∉ shown ∧
    ∀ other, claims other = .won key → other = who
  told : ∀ key ∈ shown, SpentAt spent table key
  once : shown.Nodup

namespace OneShot

variable {spent : ρ → Bool} {table : LockedTable π κ ρ}
  {claims after : π → Claim κ} {shown : List κ} {who : π} {key : κ} {row : ρ}

theorem begins (free : ∀ who, claims who = .none) (undrafted : ∀ key, table.drafts key = none) :
    OneShot spent table claims [] where
  drafted who key held := by
    rw [free who] at held
    cases held
  kept key who draft held := by
    rw [undrafted key] at held
    cases held
  won who key held := by
    rw [free who] at held
    cases held
  told key none := by cases none
  once := List.nodup_nil

variable [DecidableEq π]

theorem goes_on (safe : OneShot spent table claims shown)
    (others : ∀ other, other ≠ who → after other = claims other)
    (own : after who = claims who ∨ after who = .none) : OneShot spent table after shown := by
  have was : ∀ other, after other = claims other ∨ after other = .none := by
    intro other
    by_cases same : other = who
    · rw [same]
      exact own
    · exact Or.inl (others other same)
  constructor
  · intro other key held
    rcases was other with still | gone
    · exact safe.drafted other key (still ▸ held)
    · rw [gone] at held
      cases held
  · exact safe.kept
  · intro other key held
    rcases was other with still | gone
    · obtain ⟨spentAt, unshown, sole⟩ := safe.won other key (still ▸ held)
      refine ⟨spentAt, unshown, fun third also => ?_⟩
      rcases was third with kept | dropped
      · exact sole third (kept ▸ also)
      · rw [dropped] at also
        cases also
    · rw [gone] at held
      cases held
  · exact safe.told
  · exact safe.once

theorem write_keeps [DecidableEq κ] (safe : OneShot spent table claims shown)
    (free : table.waits who [key] = false)
    (others : ∀ other, other ≠ who → after other = claims other)
    (own : after who = .none ∨
      (after who = .drafted key ∧ spent row = true ∧ ¬ SpentAt spent table key))
    (stays : SpentAt spent table key → spent row = true) :
    OneShot spent (table.write who [key] fun _ => some row) after shown := by
  constructor
  · intro other held claimed
    by_cases same : other = who
    · subst same
      rcases own with none | ⟨drafts, spends, unspent⟩
      · rw [none] at claimed
        cases claimed
      · rw [drafts] at claimed
        cases claimed
        refine ⟨⟨row, ?_, spends⟩, unspent⟩
        simp [LockedTable.write]
    · rw [others other same] at claimed
      obtain ⟨⟨drafted, holds, spends⟩, unspent⟩ := safe.drafted other held claimed
      exact ⟨⟨drafted, (LockedTable.write_other same free).mpr holds, spends⟩, unspent⟩
  · intro held other draft holds spentAt
    by_cases same : other = who
    · subst same
      rcases LockedTable.write_own holds with ⟨written, is⟩ | before
      · rw [List.mem_singleton] at written
        subst written
        exact ⟨row, is, stays spentAt⟩
      · exact safe.kept held other draft before spentAt
    · exact safe.kept held other draft ((LockedTable.write_other same free).mp holds) spentAt
  · intro other held claimed
    have apart : ∀ third, after third = .won held → third ≠ who := by
      intro third wins same
      rw [same] at wins
      rcases own with none | ⟨drafts, _⟩
      · rw [none] at wins
        cases wins
      · rw [drafts] at wins
        cases wins
    have mine := others other (apart other claimed)
    obtain ⟨spentAt, unshown, sole⟩ := safe.won other held (mine ▸ claimed)
    refine ⟨spentAt, unshown, fun third also => ?_⟩
    have theirs := others third (apart third also)
    exact sole third (theirs ▸ also)
  · exact safe.told
  · exact safe.once

section
variable (safe : OneShot spent table claims shown)
include safe

theorem rollback_keeps
    (others : ∀ other, other ≠ who → after other = claims other) (own : after who = .none) :
    OneShot spent (table.rollback who) after shown := by
  have moved := safe.goes_on others (Or.inr own)
  constructor
  · intro other key held
    obtain ⟨⟨row, holds, spends⟩, unspent⟩ := moved.drafted other key held
    have apart : other ≠ who := by
      rintro rfl
      rw [own] at held
      cases held
    exact ⟨⟨row, LockedTable.rollback_drafts.mpr ⟨apart, holds⟩, spends⟩, unspent⟩
  · intro key other draft holds
    exact safe.kept key other draft (LockedTable.rollback_drafts.mp holds).2
  · exact moved.won
  · exact safe.told
  · exact safe.once

theorem commit_spent (spentAt : SpentAt spent table key) :
    SpentAt spent (table.commit who) key := by
  by_cases held : ∃ draft, table.drafts key = some (who, draft)
  · obtain ⟨draft, holds⟩ := held
    obtain ⟨row, is, spends⟩ := safe.kept key who draft holds spentAt
    refine ⟨row, ?_, spends⟩
    rw [LockedTable.commit_held holds, is]
  · obtain ⟨row, present, spends⟩ := spentAt
    refine ⟨row, ?_, spends⟩
    rw [LockedTable.commit_free fun draft holds => held ⟨draft, holds⟩]
    exact present

theorem commit_keeps (others : ∀ other, other ≠ who → after other = claims other)
    (own : after who = .none ∨ ∃ key, claims who = .drafted key ∧ after who = .won key) :
    OneShot spent (table.commit who) after shown := by
  have unmoved : ∀ other key draft, other ≠ who → table.drafts key = some (other, draft) →
      (SpentAt spent (table.commit who) key ↔ SpentAt spent table key) := by
    intro other key draft apart holds
    unfold SpentAt
    rw [LockedTable.commit_other apart holds]
  constructor
  · intro other key held
    have apart : other ≠ who := by
      rintro rfl
      rcases own with none | ⟨_, _, wins⟩
      · rw [none] at held
        cases held
      · rw [wins] at held
        cases held
    rw [others other apart] at held
    obtain ⟨⟨row, holds, spends⟩, unspent⟩ := safe.drafted other key held
    refine ⟨⟨row, LockedTable.rollback_drafts.mpr ⟨apart, holds⟩, spends⟩, ?_⟩
    rw [unmoved other key _ apart holds]
    exact unspent
  · intro key other draft holds spentAt
    obtain ⟨apart, held⟩ := LockedTable.rollback_drafts.mp holds
    exact safe.kept key other draft held ((unmoved other key draft apart held).mp spentAt)
  · intro other key held
    -- a row that another has won was spent before, the drafted one was not
    have before : ∀ third, third ≠ who → after third = .won key →
        SpentAt spent table key ∧ key ∉ shown ∧ ∀ v, claims v = .won key → v = third := by
      intro third apart wins
      rw [others third apart] at wins
      exact safe.won third key wins
    by_cases same : other = who
    · subst same
      rcases own with none | ⟨key', drafts, wins⟩
      · rw [none] at held
        cases held
      · rw [wins] at held
        cases held
        obtain ⟨⟨row, holds, spends⟩, unspent⟩ := safe.drafted other key drafts
        refine ⟨⟨row, LockedTable.commit_held holds, spends⟩, ?_, ?_⟩
        · intro listed
          exact unspent (safe.told key listed)
        · intro third also
          by_contra apart
          exact unspent (before third apart also).1
    · obtain ⟨spentAt, unshown, sole⟩ := before other same held
      refine ⟨safe.commit_spent spentAt, unshown, fun third also => ?_⟩
      by_cases acting : third = who
      · subst acting
        rcases own with none | ⟨key', drafts, wins⟩
        · rw [none] at also
          cases also
        · rw [wins] at also
          cases also
          exact absurd spentAt (safe.drafted third key drafts).2
      · rw [others third acting] at also
        exact sole third also
  · intro key listed
    exact safe.commit_spent (safe.told key listed)
  · exact safe.once

theorem show_keeps (wins : claims who = .won key)
    (others : ∀ other, other ≠ who → after other = claims other) (own : after who = .none) :
    OneShot spent table after (key :: shown) := by
  obtain ⟨spentAt, unshown, sole⟩ := safe.won who key wins
  have moved := safe.goes_on others (Or.inr own)
  constructor
  · exact moved.drafted
  · exact moved.kept
  · intro other held claimed
    obtain ⟨heldSpent, heldUnshown, heldSole⟩ := moved.won other held claimed
    refine ⟨heldSpent, ?_, heldSole⟩
    intro listed
    rcases List.mem_cons.mp listed with same | before
    · subst same
      have apart : other ≠ who := by
        rintro rfl
        rw [own] at claimed
        cases claimed
      rw [others other apart] at claimed
      exact apart (sole other claimed)
    · exact heldUnshown before
  · intro held listed
    rcases List.mem_cons.mp listed with same | before
    · exact same ▸ spentAt
    · exact safe.told held before
  · exact List.nodup_cons.mpr ⟨unshown, safe.once⟩

end

end OneShot

/-! A field of the rows that no draft changes. -/

def Unchanging (field : ρ → γ) (table : LockedTable π κ ρ) : Prop :=
  ∀ key who draft, table.drafts key = some (who, draft) →
    draft.map field = (table.committed key).map field

section Unchanging

variable [DecidableEq π] {field : ρ → γ} {table : LockedTable π κ ρ} {who : π}
  {key : κ} {row : ρ}

variable (keeps : Unchanging field table)
include keeps

theorem Unchanging.view (who : π) (key : κ) :
    (table.view who key).map field = (table.committed key).map field := by
  by_cases held : ∃ draft, table.drafts key = some (who, draft)
  · obtain ⟨draft, holds⟩ := held
    rw [LockedTable.view_held holds]
    exact keeps key who draft holds
  · rw [LockedTable.view_free fun draft holds => held ⟨draft, holds⟩]

theorem Unchanging.write [DecidableEq κ] (free : table.waits who [key] = false)
    (same : some (field row) = (table.committed key).map field) :
    Unchanging field (table.write who [key] fun _ => some row) := by
  intro held other draft holds
  by_cases acting : other = who
  · subst acting
    rcases LockedTable.write_own holds with ⟨written, is⟩ | before
    · rw [List.mem_singleton] at written
      rw [written, is]
      exact same
    · exact keeps held other draft before
  · exact keeps held other draft ((LockedTable.write_other acting free).mp holds)

theorem Unchanging.rollback (who : π) :
    Unchanging field (table.rollback who) := by
  intro key other draft holds
  exact keeps key other draft (LockedTable.rollback_drafts.mp holds).2

theorem Unchanging.commit (who : π) :
    Unchanging field (table.commit who) := by
  intro key other draft holds
  obtain ⟨apart, held⟩ := LockedTable.rollback_drafts.mp holds
  rw [LockedTable.commit_other apart held]
  exact keeps key other draft held

omit keeps

end Unchanging

end ReadCommitted
