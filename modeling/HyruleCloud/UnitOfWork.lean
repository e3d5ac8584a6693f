import Mathlib.Data.Finmap

/-!
The unit of work of an object-relational session over one table with a unique key.
The program edits objects and keeps a mapping of those it wants; nothing reaches the
table before the flush, which writes new and changed rows first and deletes last.
-/

namespace UnitOfWork

variable {κ ρ : Type}

abbrev Rows (κ ρ : Type) := Finmap fun _ : κ => ρ

inductive Edit (κ ρ : Type) where
  | put (key : κ) (row : ρ)
  | drop (key : κ)

/-- What an edit means, with no session between it and the table. -/
def Edit.apply [DecidableEq κ] (rows : Rows κ ρ) : Edit κ ρ → Rows κ ρ
  | .put key row => rows.insert key row
  | .drop key => rows.erase key

def Edit.key : Edit κ ρ → κ
  | .put key _ => key
  | .drop key => key

/-- `added` are the keys of the objects that have no row yet, `dropped` those of the
rows that are marked for deletion. -/
structure Session (κ ρ : Type) where
  wanted : Rows κ ρ
  added : List κ
  dropped : List κ

def load (rows : Rows κ ρ) : Session κ ρ := ⟨rows, [], []⟩

structure Session.Tracks (rows : Rows κ ρ) (session : Session κ ρ) : Prop where
  stored : ∀ key ∈ rows, key ∉ session.wanted → key ∈ session.dropped
  fresh : ∀ key ∈ session.wanted, key ∉ rows → key ∈ session.added
  dropped : ∀ key ∈ session.dropped, key ∈ rows ∧ (key ∈ session.wanted → key ∈ session.added)
  added : ∀ key ∈ session.added, key ∈ session.wanted ∧ (key ∈ rows → key ∈ session.dropped)

theorem load_tracks (rows : Rows κ ρ) : (load rows).Tracks rows where
  stored _ there missing := absurd there missing
  fresh _ there missing := absurd there missing
  dropped _ none := nomatch none
  added _ none := nomatch none

variable [DecidableEq κ]

/-- `none` iff the edit deletes an object that has no row yet. -/
def Session.edit (session : Session κ ρ) (edit : Edit κ ρ) : Option (Session κ ρ) :=
  match edit with
  | .put key row =>
    if key ∈ session.wanted then
      some { session with wanted := session.wanted.insert key row }
    else
      some { session with
        wanted := session.wanted.insert key row
        added := key :: session.added }
  | .drop key =>
    if key ∈ session.wanted then
      if key ∈ session.added then none
      else some { session with
        wanted := session.wanted.erase key
        dropped := key :: session.dropped }
    else some session

def Session.edits (session : Session κ ρ) : List (Edit κ ρ) → Option (Session κ ρ)
  | [] => some session
  | edit :: rest => match session.edit edit with
      | none => none
      | some next => next.edits rest

/-- `none` iff an inserted row meets the key of a row that is still there. -/
def Session.flush (session : Session κ ρ) (rows : Rows κ ρ) : Option (Rows κ ρ) :=
  if ∃ key ∈ session.added, key ∈ rows then none
  else some (session.dropped.foldl (fun rows key => rows.erase key) (session.wanted ∪ rows))

def Recreates (rows : Rows κ ρ) (edits : List (Edit κ ρ)) : Prop :=
  ∃ key ∈ rows, ∃ row, [.drop key, .put key row].Sublist edits

theorem fold_spares {key : κ} (edits : List (Edit κ ρ)) (rows : Rows κ ρ)
    (spares : ∀ edit ∈ edits, edit.key ≠ key) :
    (edits.foldl Edit.apply rows).lookup key = rows.lookup key := by
  induction edits generalizing rows with
  | nil => rfl
  | cons edit rest ih =>
    have apart : key ≠ edit.key := (spares edit List.mem_cons_self).symm
    rw [List.foldl_cons, ih _ fun later listed => spares later (List.mem_cons_of_mem _ listed)]
    cases edit with
    | put other row => exact Finmap.lookup_insert_of_ne _ apart
    | drop other => exact Finmap.lookup_erase_ne apart

section Steps
variable {rows : Rows κ ρ} {session next : Session κ ρ}

theorem edit_wanted {edit : Edit κ ρ} (done : session.edit edit = some next) :
    next.wanted = edit.apply session.wanted := by
  cases edit with
  | put key row =>
    simp only [Session.edit] at done
    split at done <;> cases done <;> rfl
  | drop key =>
    simp only [Session.edit] at done
    split at done
    · split at done
      · cases done
      · cases done
        rfl
    · rename_i absent
      cases done
      refine Finmap.ext_lookup fun other => ?_
      by_cases same : other = key
      · subst same
        rw [Edit.apply, Finmap.lookup_erase]
        exact Finmap.lookup_eq_none.mpr absent
      · rw [Edit.apply, Finmap.lookup_erase_ne same]

theorem edit_tracks {edit : Edit κ ρ} (tracks : session.Tracks rows)
    (done : session.edit edit = some next) : next.Tracks rows := by
  cases edit with
  | put key row =>
    simp only [Session.edit] at done
    split at done
    · rename_i there
      cases done
      have same (other : κ) : other ∈ session.wanted.insert key row ↔ other ∈ session.wanted := by
        rw [Finmap.mem_insert]
        exact ⟨fun either => either.elim (fun same => same ▸ there) id, Or.inr⟩
      constructor <;> intro other
      · rw [same]
        exact tracks.stored other
      · rw [same]
        exact tracks.fresh other
      · rw [same]
        exact tracks.dropped other
      · rw [same]
        exact tracks.added other
    · rename_i absent
      cases done
      constructor <;> intro other <;>
        simp only [Finmap.mem_insert, List.mem_cons, not_or, and_imp] at *
      · exact fun stored _ missing => tracks.stored other stored missing
      · rintro (new | there) missing
        · exact Or.inl new
        · exact Or.inr (tracks.fresh other there missing)
      · intro gone
        refine ⟨(tracks.dropped other gone).1, ?_⟩
        rintro (new | there)
        · exact Or.inl new
        · exact Or.inr ((tracks.dropped other gone).2 there)
      · rintro (rfl | there)
        · exact ⟨Or.inl rfl, fun stored => tracks.stored other stored absent⟩
        · exact ⟨Or.inr (tracks.added other there).1, (tracks.added other there).2⟩
  | drop key =>
    simp only [Session.edit] at done
    split at done
    · rename_i there
      split at done
      · cases done
      rename_i old
      cases done
      have stored : key ∈ rows := by
        by_contra missing
        exact old (tracks.fresh key there missing)
      constructor <;> intro other <;>
        simp only [Finmap.mem_erase, List.mem_cons, not_and_or, not_not] at *
      · rintro held (rfl | missing)
        · exact Or.inl rfl
        · exact Or.inr (tracks.stored other held missing)
      · exact fun kept missing => tracks.fresh other kept.2 missing
      · rintro (rfl | gone)
        · exact ⟨stored, fun kept => absurd rfl kept.1⟩
        · exact ⟨(tracks.dropped other gone).1, fun kept => (tracks.dropped other gone).2 kept.2⟩
      · intro new
        have apart : other ≠ key := fun same => old (same ▸ new)
        exact ⟨⟨apart, (tracks.added other new).1⟩, fun held =>
          Or.inr ((tracks.added other new).2 held)⟩
    · cases done
      exact tracks

theorem put_lists {key : κ} {row : ρ} (other : κ) (done : session.edit (.put key row) = some next) :
    next.dropped = session.dropped ∧
      (other ∈ next.added ↔ other ∈ session.added ∨ (other = key ∧ key ∉ session.wanted)) := by
  simp only [Session.edit] at done
  split at done
  · rename_i there
    cases done
    simp [there]
  · rename_i absent
    cases done
    simp [absent, or_comm]

theorem drop_lists {key : κ} (other : κ) (done : session.edit (.drop key) = some next) :
    next.added = session.added ∧
      (other ∈ next.dropped ↔ other ∈ session.dropped ∨ (other = key ∧ key ∈ session.wanted)) := by
  simp only [Session.edit] at done
  split at done
  · rename_i there
    split at done
    · cases done
    · cases done
      simp [there, or_comm]
  · rename_i absent
    cases done
    simp [absent]

theorem edits_added {key : κ} (edits : List (Edit κ ρ)) (tracks : session.Tracks rows)
    (stored : key ∈ rows) (done : session.edits edits = some next) :
    key ∈ next.added ↔ key ∈ session.added ∨ (key ∈ session.dropped ∧ ∃ row, .put key row ∈ edits) ∨
      ∃ row, [.drop key, .put key row].Sublist edits := by
  induction edits generalizing session with
  | nil =>
    cases done
    simp
  | cons edit rest ih =>
    simp only [Session.edits] at done
    split at done
    · cases done
    rename_i later edited
    have again := ih (edit_tracks tracks edited) done
    simp only [List.cons_sublist_cons', List.singleton_sublist, List.mem_cons]
    rw [again]
    cases edit with
    | put other row =>
      obtain ⟨dropped, added⟩ := put_lists key edited
      have returns : key = other → key ∉ session.wanted → key ∈ session.dropped :=
        fun _ absent => tracks.stored key stored absent
      have holds : key ∈ session.dropped → key ∈ session.wanted → key ∈ session.added :=
        fun gone => (tracks.dropped key gone).2
      rw [added, dropped]
      grind
    | drop other =>
      obtain ⟨added, dropped⟩ := drop_lists key edited
      have gone : key = other → key ∉ session.wanted → key ∈ session.dropped :=
        fun _ absent => tracks.stored key stored absent
      rw [added, dropped]
      grind

end Steps

theorem edits_wanted {rows : Rows κ ρ} {session next : Session κ ρ} (edits : List (Edit κ ρ))
    (tracks : session.Tracks rows) (done : session.edits edits = some next) :
    next.Tracks rows ∧ next.wanted = edits.foldl Edit.apply session.wanted := by
  induction edits generalizing session with
  | nil =>
    cases done
    exact ⟨tracks, rfl⟩
  | cons edit rest ih =>
    simp only [Session.edits] at done
    split at done
    · cases done
    · rename_i later edited
      rw [List.foldl_cons, ← edit_wanted edited]
      exact ih (edit_tracks tracks edited) done

theorem lookup_dropped (dropped : List κ) (rows : Rows κ ρ) (key : κ) :
    (dropped.foldl (fun rows key => rows.erase key) rows).lookup key =
      if key ∈ dropped then none else rows.lookup key := by
  induction dropped generalizing rows with
  | nil => simp
  | cons first rest ih =>
    rw [List.foldl_cons, ih]
    by_cases later : key ∈ rest
    · simp [later]
    by_cases same : key = first
    · subst same
      simp
    · simp [later, same]

theorem flush_wanted {rows : Rows κ ρ} {session : Session κ ρ} (tracks : session.Tracks rows)
    (free : ¬ ∃ key ∈ session.added, key ∈ rows) : session.flush rows = some session.wanted := by
  rw [Session.flush, if_neg free]
  congr 1
  refine Finmap.ext_lookup fun key => ?_
  rw [lookup_dropped]
  by_cases gone : key ∈ session.dropped
  · obtain ⟨stored, again⟩ := tracks.dropped key gone
    rw [if_pos gone, eq_comm, Finmap.lookup_eq_none]
    exact fun there => free ⟨key, again there, stored⟩
  · rw [if_neg gone]
    by_cases there : key ∈ session.wanted
    · exact Finmap.lookup_union_left there
    · rw [Finmap.lookup_union_right there, Finmap.lookup_eq_none.mpr there, Finmap.lookup_eq_none]
      exact fun stored => gone (tracks.stored key stored there)

section Flushing
variable {rows : Rows κ ρ} {session : Session κ ρ} {edits : List (Edit κ ρ)}

section
variable (done : (load rows).edits edits = some session)
include done

theorem conflict_recreates :
    (∃ key ∈ session.added, key ∈ rows) ↔ Recreates rows edits := by
  have again {key : κ} (stored : key ∈ rows) :
      key ∈ session.added ↔ ∃ row, [.drop key, .put key row].Sublist edits := by
    rw [edits_added edits (load_tracks rows) stored done]
    simp [load]
  constructor
  · rintro ⟨key, new, stored⟩
    exact ⟨key, stored, (again stored).mp new⟩
  · rintro ⟨key, stored, twice⟩
    exact ⟨key, (again stored).mpr twice, stored⟩

theorem flush_fold
    (once : ¬ Recreates rows edits) : session.flush rows = some (edits.foldl Edit.apply rows) := by
  obtain ⟨tracks, wanted⟩ := edits_wanted edits (load_tracks rows) done
  rw [flush_wanted tracks (fun conflict => once ((conflict_recreates done).mp conflict)), wanted]
  rfl

theorem flush_recreates (twice : Recreates rows edits) : session.flush rows = none := by
  rw [Session.flush, if_pos ((conflict_recreates done).mpr twice)]

end

end Flushing

end UnitOfWork
