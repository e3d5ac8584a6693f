import HyruleCloud.AddressPrefixes
import HyruleCloud.ExpiringCache
import Mathlib.Algebra.Order.Ring.Rat
import Mathlib.Data.Finset.Image
import Mathlib.Tactic.Linarith

/-!
Registrations are counted by the prefix of the client's address, at most five in an hour. The
counters stand in one cache of ten thousand entries, each for an hour after the last request
that it let pass.

The key of a prefix is right for texts that write the network in full, and a counter lasts as
long as fewer than ten thousand other prefixes are seen between two requests of its own.
-/

namespace HyruleCloud.RegisterLimits

open AddressTexts AddressPrefixes ExpiringCache

abbrev Bucket := Cache Text Nat ℚ 10000

abbrev Counter := ExpiringCache.Entry Text Nat ℚ

def hour : ℚ := 3600

def checkRate (bucket : Bucket) (now : ℚ) (key : Text) (limit : Nat) : Bool × Bucket :=
  if key = [] then (true, bucket)
  else
    let looked := bucket.get now key
    let current := looked.1.getD 0
    if limit ≤ current then (false, looked.2)
    else (true, looked.2.set now ⟨key, current + 1, now + hour⟩)

structure Request where
  time : ℚ
  host : Option AddressText

def Request.origin (request : Request) : Option Network := request.host.map network

section Keys

variable (digest : Text → Text) (pepper : Text)

/-- A digest without collisions is never empty, nor the word for a client without address. -/
structure Collisionless : Prop where
  injective : Function.Injective digest
  written : ∀ text, digest text ≠ []
  named : ∀ text, digest text ≠ "anon".toList

/-- `ip_hash or "anon"`. -/
def rateKey (host : Option AddressText) : Text :=
  match deriveIpPrefixHash digest pepper (host.map AddressText.text) with
  | none => "anon".toList
  | some hash => if hash = [] then "anon".toList else hash

structure Desk where
  bucket : Bucket
  passed : List Request

def register (desk : Desk) (request : Request) : Desk :=
  let checked := checkRate desk.bucket request.time (rateKey digest pepper request.host) 5
  ⟨checked.2, if checked.1 then desk.passed ++ [request] else desk.passed⟩

def run (requests : List Request) : Desk :=
  requests.foldl (register digest pepper) ⟨Cache.fresh, []⟩

end Keys

def Ordered (requests : List Request) : Prop :=
  requests.Pairwise fun earlier later => earlier.time ≤ later.time

def Falls (place : Network) (start : ℚ) (request : Request) : Prop :=
  request.origin = some place ∧ start ≤ request.time ∧ request.time < start + hour

instance (place : Network) (start : ℚ) (request : Request) : Decidable (Falls place start request) :=
  inferInstanceAs (Decidable (_ ∧ _ ∧ _))

def within (place : Network) (start : ℚ) (requests : List Request) : List Request :=
  requests.filter (Falls place start)

/-- Two addresses have one key exactly when they are of one network, and at most five requests
of a network pass in any hour. -/
def Limited (digest : Text → Text) (pepper : Text) (requests : List Request) : Prop :=
  (∀ first ∈ requests, ∀ second ∈ requests, ∀ one ∈ first.host, ∀ other ∈ second.host,
    (deriveIpPrefixHash digest pepper (some one.text) =
        deriveIpPrefixHash digest pepper (some other.text) ↔ network one = network other)) ∧
    ∀ place start, (within place start (run digest pepper requests).passed).length ≤ 5

def Written (requests : List Request) : Prop :=
  ∀ request ∈ requests, ∀ host ∈ request.host, WritesPlainly host

/-- Fewer than ten thousand other clients are seen between two requests of a network in an
hour. -/
def Room (place : Network) (start : ℚ) (requests : List Request) : Prop :=
  ∀ before first between second after,
    requests = before ++ first :: (between ++ second :: after) →
    first.origin = some place → second.origin = some place →
    (∀ other ∈ between, other.origin ≠ some place) →
    start ≤ first.time → second.time < start + hour →
    (between.map Request.origin).toFinset.card < 10000

/-- There is room in every hour in which a network makes more than five requests. -/
def Roomy (requests : List Request) : Prop :=
  ∀ place start, 5 < (within place start requests).length → Room place start requests

section Rates

variable {bucket : Bucket} {now : ℚ} {key : Text} {limit : Nat} {entry : Counter}
  {used : Finset Text}

theorem check_other (held : bucket.Held entry used) (live : now < entry.expires)
    (differ : key ≠ entry.key) (room : (insert key used).card < 10000) :
    (checkRate bucket now key limit).2.Held entry (insert key used) := by
  unfold checkRate
  split
  · exact Cache.held_mono held (Finset.subset_insert _ _)
  have looked : (bucket.get now key).2.Held entry (insert key used) := Cache.held_get held differ
  dsimp only
  split
  · exact looked
  have again : insert key (insert key used) = insert key used := Finset.insert_idem _ _
  let counter : Counter := ⟨key, (bucket.get now key).1.getD 0 + 1, now + hour⟩
  have assigned : ((bucket.get now key).2.set now counter).Held entry
      (insert key (insert key used)) := Cache.held_set looked differ live (again.symm ▸ room)
  rwa [again] at assigned

theorem check_passed (named : key ≠ []) (passes : (checkRate bucket now key limit).1 = true) :
    ∃ value, 1 ≤ value ∧ (checkRate bucket now key limit).2.Held ⟨key, value, now + hour⟩ ∅ := by
  unfold checkRate at passes ⊢
  rw [if_neg named] at passes ⊢
  dsimp only at passes ⊢
  split at passes
  · cases passes
  · rename_i fits
    rw [if_neg fits]
    exact ⟨_, Nat.le_add_left _ _, Cache.set_held⟩

theorem check_held (limit : Nat) (held : bucket.Held entry used) (live : now < entry.expires)
    (named : entry.key ≠ []) : checkRate bucket now entry.key limit =
      if limit ≤ entry.value then (false, bucket.use entry)
      else (true, (bucket.use entry).set now ⟨entry.key, entry.value + 1, now + hour⟩) := by
  unfold checkRate
  rw [if_neg named, Cache.get_held held live]
  rfl

end Rates

variable {request : Request} {requests : List Request}

section Runs

variable {digest : Text → Text} {pepper : Text}

/-- The key of the clients of a network, or of the clients without an address. -/
def originKey (digest : Text → Text) (pepper : Text) : Option Network → Text
  | none => "anon".toList
  | some place => digest (place.label ++ pepper)

variable (sound : Collisionless digest)
include sound

theorem originKey_inj : Function.Injective (originKey digest pepper) := by
  intro first second same
  cases first <;> cases second
  · rfl
  · exact absurd same.symm (sound.named _)
  · exact absurd same (sound.named _)
  · rw [label_inj (List.append_cancel_right (sound.injective same))]

theorem originKey_some (origin : Option Network) :
    originKey digest pepper origin ≠ [] := by
  cases origin with
  | none => exact List.cons_ne_nil _ _
  | some place => exact sound.written _

theorem rateKey_plain (plain : ∀ host ∈ request.host, WritesPlainly host) :
    rateKey digest pepper request.host = originKey digest pepper request.origin := by
  unfold Request.origin rateKey
  cases known : request.host with
  | none => rfl
  | some address =>
    have label := (prefix_label address).mpr (plain address known)
    simp only [Option.map_some, hash_some, originKey, label]
    exact if_neg (sound.written _)

omit sound

variable (digest pepper)

def used (requests : List Request) : Finset Text :=
  (requests.map fun request => rateKey digest pepper request.host).toFinset

def count (place : Network) (start : ℚ) (requests : List Request) : Nat :=
  (within place start (run digest pepper requests).passed).length

/-- The counter of a network covers what passed in an hour, and stands till its end unless the
cache has no room. -/
structure Standing (place : Network) (start : ℚ) (seen : List Request) (before : List Request)
    (last : Request) (between : List Request) (entry : Counter) : Prop where
  split : seen = before ++ last :: between
  own : last.origin = some place
  others : ∀ other ∈ between, other.origin ≠ some place
  started : start ≤ last.time
  named : entry.key = originKey digest pepper (some place)
  covers : count digest pepper place start seen ≤ entry.value
  lasts : start + hour ≤ entry.expires
  held : (used digest pepper between).card < 10000 →
    (run digest pepper seen).bucket.Held entry (used digest pepper between)

variable {digest pepper}

theorem run_concat (seen : List Request) (request : Request) :
    run digest pepper (seen ++ [request]) =
      register digest pepper (run digest pepper seen) request := by
  simp [run]

theorem room_seen {place : Network} {start : ℚ} {seen : List Request}
    (room : Room place start (seen ++ [request])) : Room place start seen := by
  intro before first between second after split
  exact room before first between second (after ++ [request]) (by rw [split]; simp)

theorem used_card (sound : Collisionless digest)
    (written : Written requests) : (used digest pepper requests).card ≤
      (requests.map Request.origin).toFinset.card := by
  have inside : used digest pepper requests ⊆
      (requests.map Request.origin).toFinset.image (originKey digest pepper) := by
    intro key among
    obtain ⟨request, listed, rfl⟩ := List.mem_map.mp (List.mem_toFinset.mp among)
    rw [rateKey_plain sound (written request listed)]
    exact Finset.mem_image_of_mem _ (List.mem_toFinset.mpr (List.mem_map_of_mem listed))
  exact le_trans (Finset.card_le_card inside) Finset.card_image_le

def passes (digest : Text → Text) (pepper : Text) (seen : List Request) (request : Request) : Bool :=
  (checkRate (run digest pepper seen).bucket request.time
    (rateKey digest pepper request.host) 5).1

section Steps

variable {place : Network} {start : ℚ} {seen before between : List Request} {last request : Request}
  {entry : Counter}

theorem count_concat (digest : Text → Text) (pepper : Text) (place : Network) (start : ℚ)
    (seen : List Request) (request : Request) : count digest pepper place start (seen ++ [request]) =
    count digest pepper place start seen +
      if passes digest pepper seen request = true ∧ Falls place start request then 1 else 0 := by
  unfold count passes
  rw [run_concat]
  unfold register within
  dsimp only
  by_cases passed : (checkRate (run digest pepper seen).bucket request.time
    (rateKey digest pepper request.host) 5).1 = true
  · rw [if_pos passed, List.filter_append, List.length_append]
    by_cases falls : Falls place start request
    · simp [passed, falls]
    · simp [falls]
  · rw [if_neg passed, if_neg fun both => passed both.1]
    rfl

theorem bucket_concat (digest : Text → Text) (pepper : Text) (seen : List Request)
    (request : Request) : (run digest pepper (seen ++ [request])).bucket =
    (checkRate (run digest pepper seen).bucket request.time
      (rateKey digest pepper request.host) 5).2 := by
  rw [run_concat]
  rfl

theorem used_concat : used digest pepper (between ++ [request]) =
    insert (rateKey digest pepper request.host) (used digest pepper between) := by
  unfold used
  ext key
  simp

theorem standing_other (sound : Collisionless digest)
    (standing : Standing digest pepper place start seen before last between entry)
    (plain : ∀ host ∈ request.host, WritesPlainly host) (other : request.origin ≠ some place)
    (early : request.time < start + hour) :
    Standing digest pepper place start (seen ++ [request]) before last (between ++ [request])
      entry := by
  have key : rateKey digest pepper request.host ≠ entry.key := by
    rw [rateKey_plain sound plain, standing.named]
    exact fun same => other (originKey_inj sound same)
  refine ⟨?_, standing.own, ?_, standing.started, standing.named, ?_, standing.lasts, ?_⟩
  · rw [standing.split]
    simp
  · intro later among
    rcases List.mem_append.mp among with earlier | only
    · exact standing.others later earlier
    · exact List.mem_singleton.mp only ▸ other
  · rw [count_concat, if_neg fun both => other both.2.1]
    exact standing.covers
  · rw [used_concat, bucket_concat]
    intro room
    have fewer : (used digest pepper between).card < 10000 :=
      lt_of_le_of_lt (Finset.card_le_card (Finset.subset_insert _ _)) room
    exact check_other (standing.held fewer) (lt_of_lt_of_le early standing.lasts) key room

theorem standing_own (named : entry.key = originKey digest pepper (some place))
    (own : request.origin = some place) (started : start ≤ request.time)
    (covers : count digest pepper place start (seen ++ [request]) ≤ entry.value)
    (lasts : start + hour ≤ entry.expires)
    (held : (run digest pepper (seen ++ [request])).bucket.Held entry ∅) :
    Standing digest pepper place start (seen ++ [request]) seen request [] entry :=
  ⟨rfl, own, fun _ among => absurd among List.not_mem_nil, started, named, covers, lasts,
    fun _ => held⟩

include sound

theorem standing_first (plain : ∀ host ∈ request.host, WritesPlainly host)
    (none : count digest pepper place start seen = 0)
    (passed : passes digest pepper seen request = true) (falls : Falls place start request) :
    ∃ entry, Standing digest pepper place start (seen ++ [request]) seen request [] entry := by
  have key : rateKey digest pepper request.host = originKey digest pepper (some place) := by
    rw [rateKey_plain sound plain, falls.1]
  have some : rateKey digest pepper request.host ≠ [] := key ▸ originKey_some sound _
  obtain ⟨value, counted, held⟩ := check_passed some passed
  refine ⟨_, standing_own key falls.1 falls.2.1 ?_ ?_ (bucket_concat _ _ _ _ ▸ held)⟩
  · rw [count_concat, none, if_pos ⟨passed, falls⟩]
    exact counted
  · have started := falls.2.1
    linarith

theorem standing_next (standing : Standing digest pepper place start seen before last between entry)
    (plain : ∀ host ∈ request.host, WritesPlainly host) (own : request.origin = some place)
    (later : last.time ≤ request.time) (early : request.time < start + hour)
    (room : (used digest pepper between).card < 10000)
    (few : count digest pepper place start seen ≤ 5) :
    count digest pepper place start (seen ++ [request]) ≤ 5 ∧
      ∃ entry, Standing digest pepper place start (seen ++ [request]) seen request [] entry := by
  have held := standing.held room
  have live : request.time < entry.expires := lt_of_lt_of_le early standing.lasts
  have started : start ≤ request.time := le_trans standing.started later
  have key : rateKey digest pepper request.host = entry.key := by
    rw [rateKey_plain sound plain, own, standing.named]
  have named : entry.key ≠ [] := standing.named ▸ originKey_some sound _
  have checked := check_held 5 held live named
  rw [← key] at checked
  have bucket := bucket_concat digest pepper seen request
  rw [checked] at bucket
  have counted := count_concat digest pepper place start seen request
  unfold passes at counted
  rw [checked] at counted
  by_cases full : 5 ≤ entry.value
  · rw [if_pos full] at bucket counted
    refine ⟨counted ▸ few, entry, ?_⟩
    exact standing_own standing.named own started (counted ▸ standing.covers) standing.lasts
      (bucket ▸ Cache.use_held)
  · rw [if_neg full] at bucket counted
    rw [if_pos ⟨rfl, own, started, early⟩] at counted
    have covers := standing.covers
    refine ⟨by omega, ⟨rateKey digest pepper request.host, entry.value + 1, request.time + hour⟩, ?_⟩
    apply standing_own (key.trans standing.named) own started
    · rw [counted]
      exact Nat.succ_le_succ covers
    · show start + hour ≤ request.time + hour
      linarith
    · rw [bucket]
      exact Cache.set_held

omit sound

end Steps

/-- At most five requests of a network pass in an hour in which the cache has room, and up to
the end of the hour a counter stands for those that did. -/
theorem window_counted (sound : Collisionless digest) (place : Network) (start : ℚ)
    (seen : List Request) (ordered : Ordered seen) (written : Written seen)
    (room : Room place start seen) : count digest pepper place start seen ≤ 5 ∧
      ((∀ request ∈ seen, request.time < start + hour) →
        count digest pepper place start seen = 0 ∨ ∃ before last between entry,
          Standing digest pepper place start seen before last between entry) := by
  induction seen using List.reverseRecOn with
  | nil => exact ⟨Nat.zero_le _, fun _ => .inl rfl⟩
  | append_singleton seen request inductive_ =>
    obtain ⟨ordered, -, last⟩ := List.pairwise_append.mp ordered
    have plain : ∀ host ∈ request.host, WritesPlainly host := written request (by simp)
    have known := inductive_ ordered
      (fun other among => written other (List.mem_append_left _ among)) (room_seen room)
    obtain ⟨few, stands⟩ := known
    by_cases late : request.time < start + hour
    · have early : ∀ other ∈ seen, other.time < start + hour := fun other among =>
        lt_of_le_of_lt (last other among request (by simp)) late
      suffices stated : count digest pepper place start (seen ++ [request]) ≤ 5 ∧
          (count digest pepper place start (seen ++ [request]) = 0 ∨ ∃ before last between entry,
            Standing digest pepper place start (seen ++ [request]) before last between entry) from
        ⟨stated.1, fun _ => stated.2⟩
      rcases stands early with none | ⟨before, latest, between, entry, standing⟩
      · by_cases counts : passes digest pepper seen request = true ∧ Falls place start request
        · obtain ⟨entry, standing⟩ := standing_first sound plain none counts.1 counts.2
          refine ⟨?_, .inr ⟨_, _, _, entry, standing⟩⟩
          rw [count_concat, none, if_pos counts]
          decide
        · rw [count_concat, none, if_neg counts]
          exact ⟨Nat.zero_le _, .inl rfl⟩
      · by_cases own : request.origin = some place
        · have later : latest.time ≤ request.time :=
            last latest (by rw [standing.split]; simp) request (by simp)
          have fits : (used digest pepper between).card < 10000 := by
            have apart : Written between := fun other among => written other (by
              rw [standing.split]
              simp [among])
            refine lt_of_le_of_lt (used_card sound apart) ?_
            exact room before latest between request [] (by rw [standing.split]; simp)
              standing.own own standing.others standing.started late
          obtain ⟨fewer, next, standing⟩ :=
            standing_next sound standing plain own later late fits few
          exact ⟨fewer, .inr ⟨_, _, _, next, standing⟩⟩
        · have standing := standing_other sound standing plain own late
          refine ⟨?_, .inr ⟨_, _, _, _, standing⟩⟩
          rw [count_concat, if_neg fun both => own both.2.1]
          exact few
    · have outside : ¬ Falls place start request := fun falls => late falls.2.2
      refine ⟨?_, fun early => absurd (early request (by simp)) late⟩
      rw [count_concat, if_neg fun both => outside both.2]
      exact few

theorem passed_sublist (requests : List Request) :
    (run digest pepper requests).passed.Sublist requests := by
  induction requests using List.reverseRecOn with
  | nil => exact List.Sublist.slnil
  | append_singleton seen request inductive_ =>
    rw [run_concat]
    unfold register
    dsimp only
    split
    · exact inductive_.append (List.Sublist.refl _)
    · exact inductive_.trans (List.sublist_append_left _ _)

end Runs

/-- Where every address is written plainly and the cache has room, requests are limited; and
the plain texts are the only ones with the key of their network. -/
theorem registrations_limited (digest : Text → Text) (pepper : Text) (sound : Collisionless digest) :
    (∀ requests, Ordered requests → Written requests → Roomy requests →
      Limited digest pepper requests) ∧
    ∀ address, (∀ other, WritesPlainly other → (deriveIpPrefixHash digest pepper (some address.text) =
      deriveIpPrefixHash digest pepper (some other.text) ↔ network address = network other)) ↔
        WritesPlainly address := by
  refine ⟨fun requests ordered written roomy => ⟨?_, ?_⟩, keyed_plain sound.injective⟩
  · intro first one second also address is other named
    exact (keyed_plain sound.injective address).mpr (written first one address is) other
      (written second also other named)
  · intro place start
    by_cases many : 5 < (within place start requests).length
    · exact (window_counted sound place start requests ordered written (roomy place start many)).1
    have fewer : (within place start (run digest pepper requests).passed).length ≤
        (within place start requests).length :=
      ((passed_sublist requests).filter _).length_le
    exact le_trans fewer (not_lt.mp many)

section Examples

def markedDigest (text : Text) : Text := '#' :: text

theorem markedDigest_sound : Collisionless markedDigest where
  injective := fun _ _ same => (List.cons.inj same).2
  written := fun _ => List.cons_ne_nil _ _
  named := fun _ same => absurd (List.cons.inj same).1 (by decide)

def exampleGroup (digits : Text) (written : digits ≠ []) (short : digits.length ≤ 4)
    (digital : digits.all (hexDigits.contains ·) = true) : Group where
  digits := digits
  written := written
  short := short
  digital := fun digit among => List.contains_iff_mem.mp (List.all_eq_true.mp digital digit among)

theorem unzoned : ∀ zone ∈ (none : Option Text), ':' ∉ zone := by simp

/-- `2001:db8::` and one group more. -/
def abbreviated (group : Group) : AddressText :=
  .v6 ⟨[exampleGroup "2001".toList (by decide) (by decide) rfl,
    exampleGroup "db8".toList (by decide) (by decide) rfl], some [group], none, none,
    by show 2 + 1 + 0 ≤ 7; decide, unzoned⟩

def lastGroup (digit : Char) (digital : [digit].all (hexDigits.contains ·) = true) : Group :=
  exampleGroup [digit] (List.cons_ne_nil _ _) (by simp) digital

/-- `2001:db8:0:7::` and one group more. -/
def unabbreviated (group : Group) : AddressText :=
  .v6 ⟨[exampleGroup "2001".toList (by decide) (by decide) rfl,
    exampleGroup "db8".toList (by decide) (by decide) rfl,
    exampleGroup "0".toList (by decide) (by decide) rfl,
    exampleGroup "7".toList (by decide) (by decide) rfl], some [group], none, none,
    by show 4 + 1 + 0 ≤ 7; decide, unzoned⟩

theorem unabbreviated_plain (group : Group) : WritesPlainly (unabbreviated group) := by
  refine ⟨rfl, by show 4 ≤ 4; decide, ?_⟩
  intro written among
  simp only [List.take, List.mem_cons, List.not_mem_nil, or_false] at among
  rcases among with rfl | rfl | rfl | rfl <;> rfl

theorem roomy_few (few : requests.length ≤ 10000) : Roomy requests := by
  intro place start _ before first between second after split _ _ _ _ _
  have clients := List.toFinset_card_le (between.map Request.origin)
  rw [List.length_map] at clients
  rw [split, List.length_append, List.length_cons, List.length_append, List.length_cons] at few
  omega

/-- Six requests from two clients of `2001:db8:0:7::/64` at one time. -/
def repeated : List Request :=
  [lastGroup '1' rfl, lastGroup '2' rfl, lastGroup '1' rfl,
    lastGroup '1' rfl, lastGroup '2' rfl, lastGroup '2' rfl].map
      fun group => ⟨0, some (unabbreviated group)⟩

theorem registrations_limited_repeated : Limited markedDigest [] repeated ∧
    (run markedDigest [] repeated).passed.length = 5 := by
  refine ⟨(registrations_limited markedDigest [] markedDigest_sound).1 repeated ?_ ?_ ?_,
    by decide +kernel⟩
  · simp [Ordered, repeated]
  · intro request among host is
    obtain ⟨group, -, rfl⟩ := List.mem_map.mp among
    cases is
    exact unabbreviated_plain group
  · exact roomy_few (by decide)

/-- Six clients of `2001:db8::/64` at one time. -/
def neighbours : List Request :=
  [lastGroup '1' rfl, lastGroup '2' rfl, lastGroup '3' rfl,
    lastGroup '4' rfl, lastGroup '5' rfl, lastGroup '6' rfl].map
      fun group => ⟨0, some (abbreviated group)⟩

theorem registrations_not_limited : Collisionless markedDigest ∧ Ordered neighbours ∧
    (within (.v6 0x2001 0xdb8 0 0) 0 (run markedDigest [] neighbours).passed).length = 6 ∧
    ¬ Limited markedDigest [] neighbours := by
  have six : (within (.v6 0x2001 0xdb8 0 0) 0 (run markedDigest [] neighbours).passed).length = 6 := by
    decide +kernel
  refine ⟨markedDigest_sound, ?_, six, ?_⟩
  · simp [Ordered, neighbours]
  · intro limited
    have most := limited.2 (.v6 0x2001 0xdb8 0 0) 0
    rw [six] at most
    exact absurd most (by decide)

end Examples

end HyruleCloud.RegisterLimits
