import Mathlib.Data.Finset.Card
import Mathlib.Data.List.Nodup

/-!
Caches of bounded size whose entries expire. The entries stand from the least recently used
one on; an assignment first drops what has expired, then, for a new key, the least recently
used entries for which there is no room.

An entry is held as long as fewer other keys than the cache has room for were used since its
own last use.
-/

namespace ExpiringCache

variable {Key Value Time : Type} {capacity : Nat}

structure Entry (Key Value Time : Type) where
  key : Key
  value : Value
  expires : Time

structure Cache (Key Value Time : Type) (capacity : Nat) where
  entries : List (Entry Key Value Time)
  distinct : (entries.map Entry.key).Nodup

namespace Cache

def fresh : Cache Key Value Time capacity := ⟨[], List.nodup_nil⟩

def evict (cache : Cache Key Value Time capacity) : Cache Key Value Time capacity where
  entries := cache.entries.drop (cache.entries.length + 1 - capacity)
  distinct := cache.distinct.sublist ((List.drop_sublist _ _).map _)

def Held (cache : Cache Key Value Time capacity) (entry : Entry Key Value Time)
    (used : Finset Key) : Prop :=
  ∃ older newer, cache.entries = older ++ entry :: newer ∧ ∀ other ∈ newer, other.key ∈ used

variable {cache : Cache Key Value Time capacity} {entry other : Entry Key Value Time}
  {used : Finset Key} {now : Time} {key : Key}

theorem held_mono {wider : Finset Key} (held : cache.Held entry used) (grows : used ⊆ wider) :
    cache.Held entry wider := by
  obtain ⟨older, newer, split, within⟩ := held
  exact ⟨older, newer, split, fun last among => grows (within last among)⟩

variable {older newer : List (Entry Key Value Time)}

theorem older_apart
    (split : cache.entries = older ++ entry :: newer) : ∀ other ∈ older, other.key ≠ entry.key := by
  have distinct := cache.distinct
  rw [split, List.map_append, List.map_cons, List.nodup_append] at distinct
  intro other among
  exact distinct.2.2 _ (List.mem_map_of_mem among) _ List.mem_cons_self

section Times

variable [LinearOrder Time]

def alive (cache : Cache Key Value Time capacity) (now : Time) :
    Cache Key Value Time capacity where
  entries := cache.entries.filter (now < ·.expires)
  distinct := cache.distinct.sublist (List.filter_sublist.map _)

theorem held_alive (held : cache.Held entry used) (live : now < entry.expires) :
    (cache.alive now).Held entry used := by
  obtain ⟨older, newer, split, within⟩ := held
  refine ⟨older.filter (now < ·.expires), newer.filter (now < ·.expires), ?_, ?_⟩
  · simp [alive, split, live]
  · intro last among
    exact within _ (List.mem_filter.mp among).1

end Times

section Keys

variable [DecidableEq Key]

theorem keyless_nodup {entries : List (Entry Key Value Time)} {entry : Entry Key Value Time}
    (distinct : (entries.map Entry.key).Nodup) :
    ((entries.filter (·.key ≠ entry.key) ++ [entry]).map Entry.key).Nodup := by
  rw [List.map_append, List.nodup_append]
  refine ⟨?_, List.nodup_singleton _, ?_⟩
  · exact distinct.sublist (List.filter_sublist.map _)
  · rintro key among other only rfl
    obtain ⟨kept, listed, rfl⟩ := List.mem_map.mp among
    have apart := of_decide_eq_true (List.mem_filter.mp listed).2
    exact apart (List.mem_singleton.mp only)

def find (cache : Cache Key Value Time capacity) (key : Key) : Option (Entry Key Value Time) :=
  cache.entries.find? (·.key = key)

def use (cache : Cache Key Value Time capacity) (entry : Entry Key Value Time) :
    Cache Key Value Time capacity where
  entries := cache.entries.filter (·.key ≠ entry.key) ++ [entry]
  distinct := keyless_nodup cache.distinct

theorem find_key (found : cache.find key = some entry) : entry.key = key := by
  simpa using List.find?_some found

theorem held_find (held : cache.Held entry used) : cache.find entry.key = some entry := by
  obtain ⟨older, newer, split, -⟩ := held
  have apart := older_apart split
  unfold find
  rw [split, List.find?_append, List.find?_eq_none.mpr (by simpa using apart)]
  simp

theorem use_held : (cache.use entry).Held entry ∅ :=
  ⟨_, [], rfl, by simp⟩

theorem held_use (held : cache.Held entry used) (differ : other.key ≠ entry.key) :
    (cache.use other).Held entry (insert other.key used) := by
  obtain ⟨older, newer, split, within⟩ := held
  refine ⟨older.filter (·.key ≠ other.key), newer.filter (·.key ≠ other.key) ++ [other], ?_, ?_⟩
  · simp [use, split, Ne.symm differ]
  · intro last among
    rcases List.mem_append.mp among with kept | only
    · exact Finset.mem_insert_of_mem (within _ (List.mem_filter.mp kept).1)
    · rw [List.mem_singleton.mp only]
      exact Finset.mem_insert_self _ _

theorem newer_card
    (split : cache.entries = older ++ entry :: newer) (within : ∀ other ∈ newer, other.key ∈ used) :
    newer.length ≤ used.card := by
  have distinct := cache.distinct
  rw [split, List.map_append, List.map_cons, List.nodup_append, List.nodup_cons] at distinct
  have nodup : (newer.map Entry.key).Nodup := distinct.2.1.2
  have inside : (newer.map Entry.key).toFinset ⊆ used := by
    intro key among
    obtain ⟨last, listed, rfl⟩ := List.mem_map.mp (List.mem_toFinset.mp among)
    exact within _ listed
  calc newer.length = (newer.map Entry.key).toFinset.card := by
        rw [List.toFinset_card_of_nodup nodup, List.length_map]
    _ ≤ used.card := Finset.card_le_card inside

theorem held_evict (held : cache.Held entry used) (room : used.card + 1 < capacity) :
    cache.evict.Held entry used := by
  obtain ⟨older, newer, split, within⟩ := held
  have few := newer_card split within
  refine ⟨older.drop (cache.entries.length + 1 - capacity), newer, ?_, within⟩
  have long : cache.entries.length = older.length + (newer.length + 1) := by
    rw [split, List.length_append, List.length_cons]
  have left : cache.evict.entries =
      (older ++ entry :: newer).drop (cache.entries.length + 1 - capacity) := by
    rw [← split]
    rfl
  rw [left]
  exact List.drop_append_of_le_length (by omega)

theorem held_without (held : cache.Held entry used) (absent : cache.find key = none) :
    cache.Held entry (used.erase key) := by
  obtain ⟨older, newer, split, within⟩ := held
  refine ⟨older, newer, split, fun last among => Finset.mem_erase.mpr ⟨?_, within last among⟩⟩
  have listed : last ∈ cache.entries := by
    rw [split]
    exact List.mem_append_right _ (List.mem_cons_of_mem _ among)
  simpa using List.find?_eq_none.mp absent last listed

variable [LinearOrder Time]

def get (cache : Cache Key Value Time capacity) (now : Time) (key : Key) :
    Option Value × Cache Key Value Time capacity :=
  match cache.find key with
  | none => (none, cache)
  | some entry =>
    if now < entry.expires then (some entry.value, cache.use entry) else (none, cache)

def set (cache : Cache Key Value Time capacity) (now : Time) (entry : Entry Key Value Time) :
    Cache Key Value Time capacity :=
  let current := cache.alive now
  (if (current.find entry.key).isSome then current else current.evict).use entry

theorem get_held (held : cache.Held entry used) (live : now < entry.expires) :
    cache.get now entry.key = (some entry.value, cache.use entry) := by
  unfold get
  rw [held_find held]
  exact if_pos live

theorem held_get (held : cache.Held entry used) (differ : key ≠ entry.key) :
    (cache.get now key).2.Held entry (insert key used) := by
  have wider : cache.Held entry (insert key used) := held_mono held (Finset.subset_insert _ _)
  unfold get
  split
  · exact wider
  rename_i found finds
  have named := find_key finds
  split
  · have kept : (cache.use found).Held entry (insert found.key used) :=
      held_use held (by rw [named]; exact differ)
    rwa [named] at kept
  · exact wider

theorem set_held : (cache.set now entry).Held entry ∅ := use_held

theorem held_set (held : cache.Held entry used) (differ : other.key ≠ entry.key)
    (live : now < entry.expires) (room : (insert other.key used).card < capacity) :
    (cache.set now other).Held entry (insert other.key used) := by
  have current := held_alive held live
  unfold set
  dsimp only
  split
  · exact held_use current differ
  rename_i absent
  have known : insert other.key (used.erase other.key) = insert other.key used := by
    ext key
    by_cases same : key = other.key <;> simp [same]
  rw [← known, Finset.card_insert_of_notMem (Finset.notMem_erase _ _)] at room
  rw [← known]
  have without := held_without current (by simpa using absent)
  exact held_use (held_evict without room) differ

end Keys

end Cache

end ExpiringCache
