import Mathlib.Algebra.Order.Ring.Rat
import Mathlib.Data.List.MinMax
import Mathlib.Tactic.Linarith

/-!
The caches of the BGP, RDAP, WHOIS and IP lookups: services/cache.py, and the keys and times to
live that the four services give it. An IP lookup's own RDAP and WHOIS lookups are lookups of
theirs.
-/

namespace HyruleCloud.CacheFreshness

abbrev Text := List Char

inductive Service where
  | rdap
  | whois
  | ip
  | bgp
  deriving DecidableEq

/-- The default of `max_age_seconds`, and the time to live where it is zero. -/
def Service.defaultAge : Service → Nat
  | .rdap | .whois => 86400
  | .ip => 3600
  | .bgp => 900

/-- A request: the type and value of its subject or its address, and the other fields of its key:
`include_raw`, the sorted views, or the rest of a BGP request. -/
structure Lookup where
  service : Service
  subject : Text
  detail : Text
  maxAge : Option Nat
  deriving DecidableEq

def Lookup.maxAgeSeconds (lookup : Lookup) : Nat := lookup.maxAge.getD lookup.service.defaultAge

/-- `max_age_seconds or default` -/
def Lookup.ttl (lookup : Lookup) : Nat :=
  if lookup.maxAgeSeconds = 0 then lookup.service.defaultAge else lookup.maxAgeSeconds

abbrev Key := Text × Text × Option Nat

/-- Only the BGP key, which has the whole request, tells the ages apart. -/
def Lookup.key (lookup : Lookup) : Key := (lookup.subject, lookup.detail,
  if lookup.service = .bgp then some lookup.maxAgeSeconds else none)

/-- An entry, with the lookup that generated its response. -/
structure Entry where
  filledBy : Lookup
  generatedAt : Rat
  expiresAt : Rat
  deriving DecidableEq

/-- The dictionary of a `TTLCache`, in its order. -/
abbrev Values := List (Key × Entry)

def maxEntries : Nat := 2048

def pop (key : Key) (values : Values) : Values := values.filter (·.1 ≠ key)

/-- `TTLCache.get` -/
def get (key : Key) (now : Rat) (values : Values) : Option Entry × Values :=
  match values.find? (·.1 = key) with
  | none => (none, values)
  | some (_, entry) =>
    if entry.expiresAt < now then (none, pop key values) else (some entry, values)

/-- The first part of `TTLCache.set`. -/
def evict (now : Rat) (values : Values) : Values :=
  if values.length < maxEntries then values else
    let live := values.filter (¬ ·.2.expiresAt < now)
    if live.length < maxEntries then live else
      match live.argmin (·.2.expiresAt) with
      | none => live
      | some oldest => pop oldest.1 live

def assign (key : Key) (entry : Entry) (values : Values) : Values :=
  if values.any (·.1 = key) then values.map fun old => if old.1 = key then (key, entry) else old
  else values ++ [(key, entry)]

/-- A lookup that asks the cache, and one that has missed it and stores what it generated. -/
inductive Step where
  | look (lookup : Lookup) (now : Rat)
  | answer (lookup : Lookup) (now : Rat)

abbrev Caches := Service → Values

def Step.apply (caches : Caches) : Step → Caches
  | .look lookup now => Function.update caches lookup.service
      (get lookup.key now (caches lookup.service)).2
  | .answer lookup now => Function.update caches lookup.service
      (assign lookup.key ⟨lookup, now, now + lookup.ttl⟩ (evict now (caches lookup.service)))

def run (steps : List Step) : Caches := steps.foldl Step.apply fun _ => []

def cached (caches : Caches) (lookup : Lookup) (now : Rat) : Option Entry :=
  (get lookup.key now (caches lookup.service)).1

/-! What every step keeps. -/

structure Kept (values : Values) : Prop where
  bounded : values.length ≤ maxEntries
  expires : ∀ item ∈ values, item.2.expiresAt = item.2.generatedAt + item.2.filledBy.ttl

variable {values : Values} {key : Key} {entry : Entry} {now : Rat}

theorem sublist_kept {fewer : Values} (kept : Kept values) (less : fewer.Sublist values) :
    Kept fewer :=
  ⟨less.length_le.trans kept.bounded, fun item among => kept.expires item (less.mem among)⟩

theorem get_sublist (key : Key) (now : Rat) (values : Values) :
    (get key now values).2.Sublist values := by
  unfold get
  split
  · exact List.Sublist.refl _
  · split
    · exact List.filter_sublist
    · exact List.Sublist.refl _

theorem evict_sublist (now : Rat) (values : Values) : (evict now values).Sublist values := by
  unfold evict
  split
  · exact List.Sublist.refl _
  dsimp only
  split
  · exact List.filter_sublist
  · split
    · exact List.filter_sublist
    · exact List.filter_sublist.trans List.filter_sublist

theorem evict_room (kept : Kept values) : (evict now values).length < maxEntries := by
  unfold evict
  split
  · assumption
  dsimp only
  split
  · assumption
  rename_i full
  split
  · rename_i empty
    rw [List.argmin_eq_none.mp empty] at full
    exact absurd (by decide) full
  · rename_i oldest least
    have among := List.argmin_mem least
    have fewer : (pop oldest.1 (values.filter (¬ ·.2.expiresAt < now))).length <
        (values.filter (¬ ·.2.expiresAt < now)).length := by
      refine List.length_filter_lt_length_iff_exists.mpr ⟨oldest, among, ?_⟩
      simp
    have shorter : (values.filter (¬ ·.2.expiresAt < now)).length ≤ values.length :=
      List.length_filter_le _ _
    have bounded := kept.bounded
    omega

theorem assign_kept (kept : Kept values) (room : values.length < maxEntries)
    (expires : entry.expiresAt = entry.generatedAt + entry.filledBy.ttl) :
    Kept (assign key entry values) := by
  unfold assign
  split
  · refine ⟨by rw [List.length_map]; exact kept.bounded, fun item among => ?_⟩
    obtain ⟨old, listed, rfl⟩ := List.mem_map.mp among
    split
    · exact expires
    · exact kept.expires old listed
  · refine ⟨by rw [List.length_append]; exact room, fun item among => ?_⟩
    rcases List.mem_append.mp among with listed | last
    · exact kept.expires item listed
    · rw [List.mem_singleton.mp last]
      exact expires

theorem run_keeps {holds : Service → Values → Prop} (empty : ∀ service, holds service [])
    (looks : ∀ (lookup : Lookup) now values, holds lookup.service values →
      holds lookup.service (get lookup.key now values).2)
    (answers : ∀ (lookup : Lookup) now values, holds lookup.service values →
      holds lookup.service (assign lookup.key ⟨lookup, now, now + lookup.ttl⟩ (evict now values)))
    (steps : List Step) (service : Service) : holds service (run steps service) := by
  have each : ∀ caches : Caches, (∀ service, holds service (caches service)) →
      ∀ service, holds service (steps.foldl Step.apply caches service) := by
    induction steps with
    | nil => exact fun caches held => held
    | cons step rest ih =>
      refine fun caches held => ih _ fun service => ?_
      cases step with
      | look lookup now | answer lookup now =>
        by_cases same : service = lookup.service
        · subst same
          simp [Step.apply, looks, answers, held]
        · simp [Step.apply, same, held]
  exact each _ empty service

theorem run_kept (steps : List Step) (service : Service) : Kept (run steps service) := by
  refine @run_keeps (fun _ => Kept) (fun _ => ⟨Nat.zero_le _, fun _ among => by cases among⟩)
    (fun _ _ _ kept => sublist_kept kept (get_sublist _ _ _)) (fun lookup now values kept => ?_)
    steps service
  exact assign_kept (sublist_kept kept (evict_sublist now values)) (evict_room kept) rfl

/-! What a lookup is served. -/

/-- The entry that is stored under the key of a lookup, if there is one. -/
def stored (caches : Caches) (lookup : Lookup) : Option Entry :=
  ((caches lookup.service).find? (·.1 = lookup.key)).map (·.2)

theorem cached_iff {caches : Caches} {lookup : Lookup} : cached caches lookup now = some entry ↔
    stored caches lookup = some entry ∧ now ≤ entry.expiresAt := by
  unfold cached stored get
  cases found : (caches lookup.service).find? (·.1 = lookup.key) with
  | none => simp
  | some item =>
    dsimp only [Option.map_some]
    split
    · rename_i late
      simp only [Option.some.injEq, false_iff, not_and, not_le, reduceCtorEq]
      rintro rfl
      exact late
    · rename_i timely
      simp only [Option.some.injEq, iff_self_and]
      rintro rfl
      exact not_lt.mp timely

structure CachesSound (caches : Caches) : Prop where
  bounded : ∀ service, (caches service).length ≤ maxEntries
  unexpired : ∀ lookup now entry, cached caches lookup now = some entry → now ≤ entry.expiresAt
  fresh : ∀ lookup m, lookup.maxAge = some m →
    ((∀ now entry, cached caches lookup now = some entry → now - entry.generatedAt ≤ m) ↔
      ∀ entry, stored caches lookup = some entry → entry.filledBy.ttl ≤ m)

/-- After any lookups: what the cache serves is never older than a lookup allows exactly when the
entry under its key was stored for no longer than that. -/
theorem caches_sound (steps : List Step) : CachesSound (run steps) where
  bounded service := (run_kept steps service).bounded
  unexpired lookup now entry served := (cached_iff.mp served).2
  fresh lookup m states := by
    have expires : ∀ entry, stored (run steps) lookup = some entry →
        entry.expiresAt = entry.generatedAt + entry.filledBy.ttl := by
      intro entry found
      obtain ⟨item, listed, rfl⟩ := Option.map_eq_some_iff.mp found
      exact (run_kept steps lookup.service).expires item (List.mem_of_find?_eq_some listed)
    constructor
    · intro fresh entry found
      have last := fresh entry.expiresAt entry (cached_iff.mpr ⟨found, le_refl _⟩)
      rw [expires entry found] at last
      have within : (entry.filledBy.ttl : Rat) ≤ m := by linarith
      exact_mod_cast within
    · intro brief now entry served
      obtain ⟨found, timely⟩ := cached_iff.mp served
      have within : (entry.filledBy.ttl : Rat) ≤ m := by exact_mod_cast brief entry found
      rw [expires entry found] at timely
      linarith

/-! Whose response it is served. -/

/-- Every entry stands under the key of the lookup that stored it, one of this service. -/
def Keyed (service : Service) (values : Values) : Prop :=
  ∀ item ∈ values, item.1 = item.2.filledBy.key ∧ item.2.filledBy.service = service

theorem sublist_keyed {service : Service} {fewer : Values} (keyed : Keyed service values)
    (less : fewer.Sublist values) : Keyed service fewer :=
  fun item among => keyed item (less.mem among)

theorem assign_keyed {lookup : Lookup} (keyed : Keyed lookup.service values)
    (filled : entry.filledBy = lookup) : Keyed lookup.service (assign lookup.key entry values) := by
  subst filled
  unfold assign
  split
  · intro item among
    obtain ⟨old, listed, rfl⟩ := List.mem_map.mp among
    split
    · exact ⟨rfl, rfl⟩
    · exact keyed old listed
  · intro item among
    rcases List.mem_append.mp among with listed | last
    · exact keyed item listed
    · rw [List.mem_singleton.mp last]
      exact ⟨rfl, rfl⟩

/-- A lookup is only served what a lookup of the same subject and detail has generated, for as
long as that one asked; a BGP lookup that states an age is served nothing older. -/
theorem own_answers (steps : List Step) (lookup : Lookup) (now : Rat) (entry : Entry)
    (served : cached (run steps) lookup now = some entry) :
    entry.filledBy.service = lookup.service ∧ entry.filledBy.subject = lookup.subject ∧
      entry.filledBy.detail = lookup.detail ∧ now - entry.generatedAt ≤ entry.filledBy.ttl ∧
      (lookup.service = .bgp → lookup.maxAgeSeconds ≠ 0 →
        now - entry.generatedAt ≤ lookup.maxAgeSeconds) := by
  have keyed : Keyed lookup.service (run steps lookup.service) := by
    refine @run_keeps Keyed (fun _ _ among => by cases among)
      (fun lookup now values keyed => sublist_keyed keyed (get_sublist _ _ _))
      (fun lookup now values keyed => ?_) steps lookup.service
    exact assign_keyed (sublist_keyed keyed (evict_sublist now values)) rfl
  obtain ⟨found, timely⟩ := cached_iff.mp served
  obtain ⟨item, listed, rfl⟩ := Option.map_eq_some_iff.mp found
  have among := List.mem_of_find?_eq_some listed
  have named : item.1 = lookup.key := by simpa using List.find?_some listed
  obtain ⟨own, same⟩ := keyed item among
  rw [own, Lookup.key, Lookup.key, same] at named
  obtain ⟨subject, detail, age⟩ : _ ∧ _ ∧ _ := by simpa using named
  have brief : now - item.2.generatedAt ≤ item.2.filledBy.ttl := by
    rw [(run_kept steps lookup.service).expires item among] at timely
    linarith
  refine ⟨same, subject, detail, brief, fun bgp stated => ?_⟩
  rw [if_pos bgp, if_pos bgp, Option.some.injEq] at age
  rwa [Lookup.ttl, age, if_neg stated] at brief

theorem own_answers_minute : let lookup : Lookup := ⟨.bgp, [], [], some 60⟩
    ∃ entry, cached (run [.answer lookup 3540]) lookup 3600 = some entry ∧
      3600 - entry.generatedAt ≤ 60 := by
  intro lookup
  have served : cached (run [.answer lookup 3540]) lookup 3600 = some ⟨lookup, 3540, 3600⟩ := by
    decide +kernel
  exact ⟨_, served, (own_answers _ lookup 3600 _ served).2.2.2.2 rfl (by decide)⟩

/-- An answer of an hour ago is served to a request that states a minute. -/
theorem stale_answer : ¬ ∀ steps lookup m now entry, lookup.maxAge = some m →
    cached (run steps) lookup now = some entry → now - entry.generatedAt ≤ (m : Rat) := by
  intro claim
  have late := claim [.answer ⟨.rdap, [], [], none⟩ 0] ⟨.rdap, [], [], some 60⟩ 60 3600
    ⟨⟨.rdap, [], [], none⟩, 0, 86400⟩ rfl (by decide +kernel)
  revert late
  decide +kernel

end HyruleCloud.CacheFreshness
