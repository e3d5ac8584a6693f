import Mathlib.Data.List.Nodup

/-!
The assertions of a prefix lookup, services/bgp/lookup.py: three upstreams list origins, the
first five of them are validated, and the last validation that succeeds answers for all.
-/

namespace HyruleCloud.OriginAssertions

abbrev Asn := Nat

/-- The origins that the answers list; none of an upstream that failed, or that does not see the
prefix. -/
structure Upstreams where
  overview : List Asn := []
  routing : List Asn := []
  lookingGlass : List Asn := []

def add (observed : List Asn) (asn : Asn) : List Asn :=
  if asn ∈ observed then observed else observed ++ [asn]

def merge (observed listed : List Asn) : List Asn := listed.foldl add observed

def Upstreams.observed (upstreams : Upstreams) : List Asn :=
  merge (merge (merge [] upstreams.overview) upstreams.routing) upstreams.lookingGlass

/-- `BGPAssertions` -/
structure BgpAssertions where
  expectedOriginAsns : List Asn := []
  expectedRpki : Option String := none

structure OriginObservation where
  asn : Asn
  rpki : Option String

/-- The validation of the origins; `validity` is the status, none where the request failed. -/
def validate (validity : Asn → Option String) (observed : List Asn) :
    Option String × List OriginObservation :=
  (observed.take 5).foldl (fun (rpkiStatus, origins) asn =>
    (validity asn <|> rpkiStatus, origins ++ [⟨asn, validity asn⟩])) (none, [])

structure AssertionOutcome where
  origins : Option Bool
  rpki : Option Bool
  deriving DecidableEq

/-- `_assertions`; an assertion that is not stated has no outcome. -/
def assertions (observed : List Asn) (stated : BgpAssertions) (rpkiStatus : Option String) :
    AssertionOutcome where
  origins := if stated.expectedOriginAsns = [] then none
    else some (stated.expectedOriginAsns.any (· ∈ observed))
  rpki := (stated.expectedRpki.filter (· ≠ "")).map (rpkiStatus = some ·)

/-- `_prefix_lookup`, as far as the assertions go -/
def prefixLookup (validity : Asn → Option String) (stated : BgpAssertions) (upstreams : Upstreams) :
    AssertionOutcome :=
  assertions upstreams.observed stated (validate validity upstreams.observed).1

/-- `as215932_status`, for the AS number that it is about; `routed` is what the answers say of the
prefix, whatever the order of their origins. -/
def statusOk (validity : Asn → Option String) (target : Asn) (routed : Bool)
    (upstreams : Upstreams) : Bool :=
  routed && upstreams.observed.contains target &&
    ((validate validity upstreams.observed).2.find? (·.asn = target)).bind (·.rpki) = some "valid"

variable {validity : Asn → Option String} {stated : BgpAssertions} {upstreams other : Upstreams}
  {observed listed : List Asn} {asn target : Asn} {status : String}

theorem merge_nodup (listed : List Asn) (nodup : observed.Nodup) :
    (merge observed listed).Nodup := by
  induction listed generalizing observed with
  | nil => exact nodup
  | cons asn rest ih =>
    apply ih
    unfold add
    split
    · exact nodup
    · rename_i fresh
      exact nodup.append (List.nodup_singleton _) (by simpa using fresh)

theorem observed_nodup (upstreams : Upstreams) : upstreams.observed.Nodup :=
  merge_nodup _ (merge_nodup _ (merge_nodup _ List.nodup_nil))

theorem merge_fresh (listed : List Asn) (nodup : (observed ++ listed).Nodup) :
    merge observed listed = observed ++ listed := by
  induction listed generalizing observed with
  | nil => simp [merge]
  | cons asn rest ih =>
    rw [List.append_cons] at nodup
    have fresh : asn ∉ observed := by
      have apart := (List.nodup_append.mp nodup).1
      intro among
      exact (List.nodup_append.mp apart).2.2 asn among asn (List.mem_singleton_self _) rfl
    have next := ih nodup
    simp only [merge, List.foldl_cons, add, if_neg fresh] at next ⊢
    rw [next, List.append_assoc]
    rfl

/-- The status that the loop ends with. -/
def lastStatus (validity : Asn → Option String) (observed : List Asn) : Option String :=
  ((observed.take 5).filterMap validity).getLast?

theorem validate_fold (checked : List Asn) (found : Option String)
    (origins : List OriginObservation) :
    checked.foldl (fun (state : Option String × List OriginObservation) asn =>
        (validity asn <|> state.1, state.2 ++ [⟨asn, validity asn⟩])) (found, origins) =
      ((checked.filterMap validity).getLast? <|> found,
        origins ++ checked.map fun asn => ⟨asn, validity asn⟩) := by
  induction checked generalizing found origins with
  | nil => simp
  | cons asn rest ih =>
    rw [List.foldl_cons, ih]
    cases valid : validity asn with
    | none => simp [valid]
    | some status =>
      simp only [List.filterMap_cons_some valid, List.getLast?_cons, List.map_cons, valid,
        List.append_assoc, List.cons_append, List.nil_append, Prod.mk.injEq, and_true]
      cases (rest.filterMap validity).getLast? <;> rfl

theorem validate_eq (observed : List Asn) : validate validity observed =
    (lastStatus validity observed, (observed.take 5).map fun asn => ⟨asn, validity asn⟩) := by
  rw [validate, validate_fold]
  simp [lastStatus]

theorem statusOk_iff (routed : Bool) : statusOk validity target routed upstreams = true ↔
    routed = true ∧ target ∈ upstreams.observed.take 5 ∧ validity target = some "valid" := by
  have seen : ((validate validity upstreams.observed).2.find? (·.asn = target)).bind (·.rpki) =
      if target ∈ upstreams.observed.take 5 then validity target else none := by
    rw [validate_eq]
    induction upstreams.observed.take 5 with
    | nil => rfl
    | cons asn rest ih =>
      by_cases same : asn = target
      · simp [same]
      · simp only [List.map_cons, List.find?_cons, same, decide_false, List.mem_cons,
          Ne.symm same, false_or]
        exact ih
  unfold statusOk
  rw [seen]
  split
  · rename_i checked
    simp [List.mem_of_mem_take checked, checked]
  · rename_i unchecked
    simp [unchecked]

def SameOrigins (one other : Upstreams) : Prop := ∀ asn, asn ∈ one.observed ↔ asn ∈ other.observed

theorem same_length (same : SameOrigins upstreams other) :
    other.observed.Perm upstreams.observed :=
  (List.perm_ext_iff_of_nodup (observed_nodup _) (observed_nodup _)).mpr fun asn => (same asn).symm

theorem reordered (order : listed.Perm upstreams.observed) :
    ∃ other, SameOrigins upstreams other ∧ other.observed = listed := by
  have nodup : listed.Nodup := order.nodup_iff.mpr (observed_nodup _)
  have alone : ({ overview := listed } : Upstreams).observed = listed := by
    have whole : merge [] listed = listed := merge_fresh listed nodup
    exact whole
  exact ⟨{ overview := listed }, fun asn => by rw [alone]; exact order.mem_iff.symm, alone⟩

theorem order_last (among : asn ∈ observed) (valid : validity asn = some status) :
    ∃ listed, listed.Perm observed ∧ lastStatus validity listed = some status := by
  obtain ⟨rest, order⟩ : ∃ rest, (asn :: rest).Perm observed :=
    ⟨_, (List.perm_cons_erase among).symm⟩
  refine ⟨rest.take 4 ++ asn :: rest.drop 4, ?_, ?_⟩
  · refine List.perm_middle.trans ((List.Perm.cons _ ?_).trans order)
    rw [List.take_append_drop]
  · have checked : (rest.take 4 ++ asn :: rest.drop 4).take 5 = rest.take 4 ++ [asn] := by
      rcases Nat.le_total 4 rest.length with long | short
      · rw [List.take_append, List.length_take, Nat.min_eq_left long, List.take_take]
        rfl
      · rw [List.drop_eq_nil_of_le short, List.take_of_length_le]
        rw [List.length_append, List.length_take, List.length_singleton]
        omega
    rw [lastStatus, checked, List.filterMap_append, List.filterMap_cons_some valid]
    simp

theorem order_silent (failing : 5 ≤ observed.countP (validity · = none)) :
    ∃ listed, listed.Perm observed ∧ lastStatus validity listed = none := by
  refine ⟨_, List.filter_append_perm (fun asn => validity asn = none) observed, ?_⟩
  rw [List.countP_eq_length_filter] at failing
  rw [lastStatus, List.take_append_of_le_length failing, List.getLast?_eq_none_iff,
    List.filterMap_eq_nil_iff]
  intro asn checked
  simpa using (List.mem_filter.mp (List.mem_of_mem_take checked)).2

theorem order_unchecked (nodup : observed.Nodup) (among : asn ∈ observed)
    (many : 5 < observed.length) :
    ∃ listed : List Asn, listed.Perm observed ∧ asn ∉ listed.take 5 := by
  refine ⟨observed.erase asn ++ [asn], ?_, fun checked => ?_⟩
  · exact (List.perm_append_singleton _ _).trans (List.perm_cons_erase among).symm
  · have short : 5 ≤ (observed.erase asn).length := by
      rw [List.length_erase_of_mem among]
      omega
    rw [List.take_append_of_le_length short] at checked
    exact nodup.not_mem_erase (List.mem_of_mem_take checked)

/-! The assertions, over all orders of the origins. -/

/-- An origin that the caller asks about. -/
def BgpAssertions.Concerns (stated : BgpAssertions) (asn : Asn) : Prop :=
  stated.expectedOriginAsns = [] ∨ asn ∈ stated.expectedOriginAsns

structure AssertionsSound (validity : Asn → Option String) (stated : BgpAssertions) (target : Asn)
    (routed : Bool) (upstreams : Upstreams) : Prop where
  assertions : ∀ other, SameOrigins upstreams other →
    prefixLookup validity stated other = prefixLookup validity stated upstreams
  status : ∀ other, SameOrigins upstreams other →
    statusOk validity target routed other = statusOk validity target routed upstreams
  validated : ∀ other, SameOrigins upstreams other → stated.expectedRpki = some "valid" →
    (prefixLookup validity stated other).rpki = some true → ∀ asn ∈ other.observed,
      stated.Concerns asn → asn ∈ other.observed.take 5 ∧ validity asn = some "valid"

/-- No origin has the expected status; or all that can be validated have it, fewer than five
cannot, and for `valid` all that the caller asks about are valid, and among at most five. -/
def RpkiClear (validity : Asn → Option String) (stated : BgpAssertions) (observed : List Asn) : Prop :=
  ∀ expected, stated.expectedRpki.filter (· ≠ "") = some expected →
    (∀ asn ∈ observed, validity asn ≠ some expected) ∨
    ((∀ asn ∈ observed, ∀ status, validity asn = some status → status = expected) ∧
      observed.countP (validity · = none) < 5 ∧
      (expected = "valid" → ∀ asn ∈ observed, stated.Concerns asn →
        observed.length ≤ 5 ∧ validity asn = some "valid"))

/-- The AS number in question does not count, or is sure to be checked. -/
def StatusClear (validity : Asn → Option String) (target : Asn) (routed : Bool)
    (observed : List Asn) : Prop :=
  routed = false ∨ target ∉ observed ∨ validity target ≠ some "valid" ∨ observed.length ≤ 5

theorem lookup_rpki (upstreams : Upstreams) {expected : String}
    (asked : stated.expectedRpki.filter (· ≠ "") = some expected) :
    (prefixLookup validity stated upstreams).rpki =
      some (decide (lastStatus validity upstreams.observed = some expected)) := by
  simp only [prefixLookup, assertions, validate_eq]
  rw [asked]
  rfl

theorem lookup_same (same : SameOrigins upstreams other)
    (settled : ∀ expected, stated.expectedRpki.filter (· ≠ "") = some expected →
      (lastStatus validity other.observed = some expected ↔
        lastStatus validity upstreams.observed = some expected)) :
    prefixLookup validity stated other = prefixLookup validity stated upstreams := by
  have origins : (stated.expectedOriginAsns.any (· ∈ other.observed)) =
      stated.expectedOriginAsns.any (· ∈ upstreams.observed) := by
    simp only [← same _]
  simp only [prefixLookup, assertions, origins, validate_eq, AssertionOutcome.mk.injEq, true_and]
  cases asked : stated.expectedRpki.filter (· ≠ "") with
  | none => rfl
  | some expected => simp [settled expected asked]

theorem last_among (last : lastStatus validity observed = some status) :
    ∃ asn ∈ observed, validity asn = some status := by
  obtain ⟨asn, checked, valid⟩ := List.mem_filterMap.mp (List.mem_of_getLast? last)
  exact ⟨asn, List.mem_of_mem_take checked, valid⟩

theorem last_agreed {expected : String} (among : asn ∈ observed) (valid : validity asn = some expected)
    (agree : ∀ asn ∈ observed, ∀ status, validity asn = some status → status = expected)
    (few : observed.countP (validity · = none) < 5) :
    lastStatus validity observed = some expected := by
  cases last : lastStatus validity observed with
  | some status =>
    obtain ⟨checked, listed, holds⟩ := last_among last
    rw [agree checked listed status holds]
  | none =>
    rw [lastStatus, List.getLast?_eq_none_iff, List.filterMap_eq_nil_iff] at last
    have failing : (observed.take 5).countP (validity · = none) = (observed.take 5).length :=
      List.countP_eq_length.mpr (by simpa using last)
    have fewer := (List.take_sublist 5 observed).countP_le (p := (validity · = none))
    have short : observed.length ≤ 5 := by
      rw [List.length_take] at failing
      omega
    rw [List.take_of_length_le short] at last
    rw [last asn among] at valid
    cases valid

theorem clear_of_sound {routed : Bool}
    (sound : AssertionsSound validity stated target routed upstreams) :
    RpkiClear validity stated upstreams.observed ∧
      StatusClear validity target routed upstreams.observed := by
  have nodup := observed_nodup upstreams
  constructor
  · intro expected asked
    have settled : ∀ listed, listed.Perm upstreams.observed →
        (lastStatus validity listed = some expected ↔
          lastStatus validity upstreams.observed = some expected) := by
      intro listed order
      obtain ⟨other, same, rfl⟩ := reordered order
      have outcome := congrArg AssertionOutcome.rpki (sound.assertions other same)
      rw [lookup_rpki _ asked, lookup_rpki _ asked] at outcome
      simpa using outcome
    by_cases absent : ∀ asn ∈ upstreams.observed, validity asn ≠ some expected
    · exact Or.inl absent
    right
    simp only [not_forall, not_not] at absent
    obtain ⟨asn, among, valid⟩ := absent
    obtain ⟨ended, order, last⟩ := order_last among valid
    have always := (settled ended order).mp last
    refine ⟨fun other listed status holds => ?_, ?_, fun strict other listed concerns => ?_⟩
    · obtain ⟨ended', order', last'⟩ := order_last listed holds
      exact Option.some.inj (last'.symm.trans ((settled ended' order').mpr always))
    · by_contra failing
      obtain ⟨silent, order', none⟩ := order_silent (Nat.le_of_not_lt failing)
      rw [(settled silent order').mpr always] at none
      cases none
    · have demanded : stated.expectedRpki = some "valid" := by
        rw [← strict]
        exact (Option.filter_eq_some_iff.mp asked).1
      have passes : ∀ listed : List Asn, listed.Perm upstreams.observed → ∀ asn ∈ listed,
          stated.Concerns asn → asn ∈ listed.take 5 ∧ validity asn = some "valid" := by
        intro listed order
        obtain ⟨other, same, rfl⟩ := reordered order
        refine sound.validated other same demanded ?_
        rw [lookup_rpki _ asked, decide_eq_true ((settled _ order).mpr always)]
      refine ⟨?_, (passes _ (List.Perm.refl _) other listed concerns).2⟩
      by_contra many
      obtain ⟨concealed, order', hidden⟩ := order_unchecked nodup listed (Nat.lt_of_not_le many)
      exact hidden (passes concealed order' other (order'.mem_iff.mpr listed) concerns).1
  · unfold StatusClear
    by_contra doubtful
    simp only [not_or, not_not, Bool.not_eq_false] at doubtful
    obtain ⟨up, among, valid, many⟩ := doubtful
    obtain ⟨concealed, order, hidden⟩ := order_unchecked nodup among (Nat.lt_of_not_le many)
    obtain ⟨other, same, rfl⟩ := reordered order
    obtain ⟨first, order', last⟩ : ∃ listed : List Asn, listed.Perm upstreams.observed ∧
        target ∈ listed.take 5 :=
      ⟨target :: upstreams.observed.erase target, (List.perm_cons_erase among).symm, by simp⟩
    obtain ⟨shown, same', rfl⟩ := reordered order'
    have ok := (statusOk_iff routed).mpr ⟨up, last, valid⟩
    rw [sound.status shown same', ← sound.status other same] at ok
    exact hidden ((statusOk_iff routed).mp ok).2.1

theorem sound_of_clear {routed : Bool} (rpki : RpkiClear validity stated upstreams.observed)
    (clear : StatusClear validity target routed upstreams.observed) :
    AssertionsSound validity stated target routed upstreams := by
  have settled : ∀ other, SameOrigins upstreams other → ∀ expected,
      stated.expectedRpki.filter (· ≠ "") = some expected →
      (lastStatus validity other.observed = some expected ↔
        ∃ asn ∈ upstreams.observed, validity asn = some expected) := by
    intro other same expected asked
    constructor
    · intro last
      obtain ⟨asn, listed, valid⟩ := last_among last
      exact ⟨asn, (same asn).mpr listed, valid⟩
    · rintro ⟨asn, among, valid⟩
      rcases rpki expected asked with none | ⟨agree, few, -⟩
      · exact absurd valid (none asn among)
      · refine last_agreed ((same asn).mp among) valid (fun asn listed => ?_) ?_
        · exact agree asn ((same asn).mpr listed)
        · rwa [(same_length same).countP_eq]
  constructor
  · intro other same
    refine lookup_same same fun expected asked => ?_
    rw [settled other same expected asked, settled upstreams (fun _ => Iff.rfl) expected asked]
  · intro other same
    rw [Bool.eq_iff_iff, statusOk_iff, statusOk_iff]
    rcases clear with down | absent | invalid | few
    · simp [down]
    · have gone : target ∉ other.observed := fun among => absent ((same target).mpr among)
      exact iff_of_false (fun ok => gone (List.mem_of_mem_take ok.2.1))
        (fun ok => absent (List.mem_of_mem_take ok.2.1))
    · simp [invalid]
    · have short : other.observed.length ≤ 5 := by rwa [(same_length same).length_eq]
      rw [List.take_of_length_le few, List.take_of_length_le short, same target]
  · intro other same demanded passed asn listed concerns
    have asked : stated.expectedRpki.filter (· ≠ "") = some "valid" := by
      rw [demanded]
      rfl
    rw [lookup_rpki _ asked] at passed
    have last := of_decide_eq_true (Option.some.inj passed)
    obtain ⟨valid, among, holds⟩ := (settled other same "valid" asked).mp last
    rcases rpki "valid" asked with none | ⟨-, -, sure⟩
    · exact absurd holds (none valid among)
    · obtain ⟨few, fine⟩ := sure rfl asn ((same asn).mpr listed) concerns
      have short : other.observed.length ≤ 5 := by rwa [(same_length same).length_eq]
      exact ⟨by rwa [List.take_of_length_le short], fine⟩

/-- The outcomes depend on the set of origins alone, and a valid one is never claimed for an
origin that was not found valid, exactly when both conditions hold. -/
theorem assertions_sound (validity : Asn → Option String) (stated : BgpAssertions) (target : Asn)
    (routed : Bool) (upstreams : Upstreams) :
    AssertionsSound validity stated target routed upstreams ↔
      RpkiClear validity stated upstreams.observed ∧
        StatusClear validity target routed upstreams.observed :=
  ⟨clear_of_sound, fun clear => sound_of_clear clear.1 clear.2⟩

/-- A valid origin and an invalid one: the later of the two decides. -/
theorem last_origin_decides :
    ¬ ∀ (validity : Asn → Option String) (stated : BgpAssertions) (target : Asn) (routed : Bool)
      (upstreams : Upstreams), AssertionsSound validity stated target routed upstreams := by
  intro claim
  have same := (claim (fun asn => if asn = 1 then some "valid" else some "invalid")
    { expectedRpki := some "valid" } 1 true { overview := [1, 2] }).assertions { overview := [2, 1] }
      (fun asn => by simp [Upstreams.observed, merge, add, or_comm])
  revert same
  decide +kernel

end HyruleCloud.OriginAssertions
