import HyruleCloud.KeyedRows
import HyruleCloud.Protocol
import HyruleCloud.TldMetadata
import Mathlib.Data.Char
import Mathlib.Data.List.Lex

/-!
The domain catalog over its syncs. A sync writes a row for every TLD of the registrar's list
and leaves the rows of the others; staleness is a matter of each row.
-/

namespace HyruleCloud.TldCatalog

open Interaction KeyedRows

structure DomainTldRow where
  tld : Text
  ianaType : Option IanaType
  providerStatus : Option Text
  eligible : Bool
  ineligibleReason : Option IneligibleReason
  registrationCost : Option Rat
  renewalCost : Option Rat
  currency : Option Text
  metadata : Fields
  refreshedAt : Nat

/-- What a sync is given: the events of the IANA page, `none` where the request fails, the
registrar's list, likewise, and the configured allow-list. -/
structure SyncData where
  html : Option (List HtmlEvent)
  tlds : Option (List Fields)
  tldAllowlist : List Text

variable (python : PythonText)

def rowCurrency (registration renewal : Option Price) : Option Text :=
  match registration, renewal with
  | some (_, created), some (_, renewed) =>
    if !created.isEmpty && created = renewed then some created else none
  | _, _ => none

def tldRow (iana : IanaTable) (allowlist : List Text) (refreshedAt : Nat) (raw : Fields) :
    Option DomainTldRow :=
  (tldName python raw).map fun tld =>
    let type := ianaType iana tld
    let registration := operationPrice python raw createOperations
    let renewal := operationPrice python raw renewOperations
    let currency := rowCurrency registration renewal
    let reason := ineligibleReason python tld type raw (registration.map Prod.fst)
      (renewal.map Prod.fst) currency (allowlist.map fun item => dropDots (python.lower item))
    let status := (python.str ((get raw "status").orElse (.text []))).take 32
    { tld := tld
      ianaType := type
      providerStatus := if status.isEmpty then none else some status
      eligible := reason.isNone
      ineligibleReason := reason
      registrationCost := registration.map Prod.fst
      renewalCost := renewal.map Prod.fst
      currency := currency
      metadata := raw
      refreshedAt := refreshedAt }

inductive SyncError where
  | iana | provider | noTlds | database

def syncRows (data : SyncData) (refreshedAt : Nat) : Except SyncError (List DomainTldRow) :=
  match data.html.bind (parseIanaRootDb python) with
  | none => .error .iana
  | some iana => match data.tlds with
    | none => .error .provider
    | some providerTlds =>
      let rows := providerTlds.filterMap (tldRow python iana data.tldAllowlist refreshedAt)
      if rows.isEmpty then .error .noTlds else .ok rows

/-- A sync that has committed: its rows, of which the last of a TLD stays. -/
structure CatalogSync where
  refreshedAt : Nat
  rows : List DomainTldRow

/-- `syncs` holds the syncs that have committed, the newest first. -/
structure CatalogDesk where
  now : Nat
  rows : List DomainTldRow
  syncs : List CatalogSync

/-- The transaction of a sync works or it fails; it ends `delay` seconds after the time that
it writes. -/
inductive CatalogStep where
  | wait (seconds : Nat)
  | sync (data : SyncData) (delay : Nat) (works : Bool)

def syncOutcome (data : SyncData) (works : Bool) (now : Nat) :
    Except SyncError (List DomainTldRow) :=
  match syncRows python data now with
  | .error error => .error error
  | .ok rows => if works then .ok rows else .error .database

def sync (data : SyncData) (delay : Nat) (works : Bool) (desk : CatalogDesk) : CatalogDesk :=
  match syncOutcome python data works desk.now with
  | .error _ => { desk with now := desk.now + delay }
  | .ok rows => {
      now := desk.now + delay
      rows := upserts DomainTldRow.tld desk.rows rows
      syncs := ⟨desk.now, upserts DomainTldRow.tld [] rows⟩ :: desk.syncs }

def catalogStep (step : CatalogStep) (desk : CatalogDesk) : CatalogDesk :=
  match step with
  | .wait seconds => { desk with now := desk.now + seconds }
  | .sync data delay works => sync python data delay works desk

def catalogSyncs : Protocol CatalogDesk CatalogStep where
  step := catalogStep python
  may _ _ := True

def emptyCatalog : CatalogDesk := ⟨0, [], []⟩

inductive CatalogProblem where
  | unsupportedTld | catalogStale

/-- `refreshed_at < now - catalog_max_age_seconds` -/
def isStale (maxAge now : Nat) (row : DomainTldRow) : Bool := row.refreshedAt + maxAge < now

/-- `DomainCatalog.get`, with `require_eligible`. -/
def getTld (maxAge now : Nat) (rows : List DomainTldRow) (tld : Text) :
    Except CatalogProblem DomainTldRow :=
  match lookup DomainTldRow.tld rows (dropDots (python.lower tld)) with
  | none => .error .unsupportedTld
  | some row =>
    if isStale maxAge now row then .error .catalogStale
    else if row.eligible then .ok row
    else .error .unsupportedTld

def listEligible (maxAge now : Nat) (rows : List DomainTldRow) :
    Except CatalogProblem (List DomainTldRow) :=
  let eligible := (rows.filter (·.eligible)).mergeSort fun first second =>
    decide (first.tld ≤ second.tld)
  if eligible.any (isStale maxAge now) then .error .catalogStale else .ok eligible

def CatalogSync.offers (last : CatalogSync) (tld : Text) : Prop :=
  ∃ row, lookup DomainTldRow.tld last.rows tld = some row ∧ row.eligible = true

/-- The list is there and has exactly the TLDs that the sync made eligible, and so has the
look-up of a single one. -/
structure Serves (maxAge now : Nat) (rows : List DomainTldRow) (last : CatalogSync) : Prop where
  list : ∃ listed, listEligible maxAge now rows = .ok listed ∧
    ∀ tld, tld ∈ listed.map DomainTldRow.tld ↔ last.offers tld
  single : ∀ tld, (∃ row, getTld python maxAge now rows tld = .ok row) ↔
    last.offers (dropDots (python.lower tld))

/-- From a committed sync on, for as long as its data is young enough, the catalog serves
it; a sync that fails changes nothing. -/
structure CatalogServes (maxAge : Nat) (desk : CatalogDesk) : Prop where
  fresh : ∀ last, desk.syncs.head? = some last → ∀ now, last.refreshedAt ≤ now →
    now ≤ last.refreshedAt + maxAge → Serves python maxAge now desk.rows last
  failed : ∀ data delay works error, syncOutcome python data works desk.now = .error error →
    (sync python data delay works desk).rows = desk.rows

def latest : List CatalogSync → Text → Option DomainTldRow
  | [], _ => none
  | newest :: earlier, tld =>
    (lookup DomainTldRow.tld newest.rows tld).or (latest earlier tld)

def NothingWithdrawn : List CatalogSync → Prop
  | [] => True
  | newest :: earlier => ∀ tld row, latest earlier tld = some row → row.eligible = true →
      ∃ listed, lookup DomainTldRow.tld newest.rows tld = some listed

/-! The catalog's rows are the latest of every TLD. -/

structure CatalogKept (desk : CatalogDesk) : Prop where
  distinct : Distinct DomainTldRow.tld desk.rows
  latest : ∀ tld, lookup DomainTldRow.tld desk.rows tld = latest desk.syncs tld
  times : ∀ last ∈ desk.syncs, ∀ row ∈ last.rows, row.refreshedAt = last.refreshedAt

variable {python}

variable {row : DomainTldRow} {rows : List DomainTldRow} {now maxAge : Nat} {tld : Text}

theorem tld_row_refreshed {iana : IanaTable} {allowlist : List Text} {refreshedAt : Nat}
    {raw : Fields} (made : tldRow python iana allowlist refreshedAt raw = some row) :
    row.refreshedAt = refreshedAt := by
  obtain ⟨tld, _, rfl⟩ := Option.map_eq_some_iff.mp made
  rfl

theorem sync_rows_refreshed {data : SyncData} {refreshedAt : Nat}
    (read : syncRows python data refreshedAt = .ok rows) :
    ∀ row ∈ rows, row.refreshedAt = refreshedAt := by
  unfold syncRows at read
  split at read
  · cases read
  split at read
  · cases read
  dsimp only at read
  split at read
  · cases read
  cases read
  intro row listed
  obtain ⟨raw, _, made⟩ := List.mem_filterMap.mp listed
  exact tld_row_refreshed made

theorem upserts_mem {added : List DomainTldRow} (listed : row ∈ upserts DomainTldRow.tld rows added) :
    row ∈ rows ∨ row ∈ added := by
  induction added generalizing rows with
  | nil => exact .inl listed
  | cons first rest ih =>
    rcases ih listed with before | after
    · rcases upsert_keys DomainTldRow.tld rows first row before with rfl | older
      · exact .inr List.mem_cons_self
      · exact .inl older
    · exact .inr (List.mem_cons_of_mem _ after)

theorem sync_outcome_rows {data : SyncData} {works : Bool}
    (outcome : syncOutcome python data works now = .ok rows) :
    syncRows python data now = .ok rows := by
  unfold syncOutcome at outcome
  split at outcome
  · cases outcome
  split at outcome
  · cases outcome
    assumption
  · cases outcome

theorem sync_kept (data : SyncData) (delay : Nat) (works : Bool) (desk : CatalogDesk)
    (kept : CatalogKept desk) : CatalogKept (sync python data delay works desk) := by
  unfold sync
  cases outcome : syncOutcome python data works desk.now with
  | error error => exact { kept with }
  | ok rows =>
    constructor
    · exact distinct_upserts _ kept.distinct rows
    · intro tld
      rw [lookup_upserts, kept.latest]
      rfl
    · intro last listed row has
      rcases List.mem_cons.mp listed with rfl | before
      · rcases upserts_mem has with older | added
        · cases older
        · exact sync_rows_refreshed (sync_outcome_rows outcome) row added
      · exact kept.times last before row has

theorem catalog_step_kept (step : CatalogStep) (desk : CatalogDesk) (kept : CatalogKept desk) :
    CatalogKept (catalogStep python step desk) := by
  cases step with
  | wait seconds => exact { kept with }
  | sync data delay works => exact sync_kept data delay works desk kept

theorem empty_kept : CatalogKept emptyCatalog where
  distinct := List.nodup_nil
  latest _ := rfl
  times last listed := by cases listed

theorem failed_sync_idle (desk : CatalogDesk) (data : SyncData) (delay : Nat) (works : Bool)
    (error : SyncError) (failed : syncOutcome python data works desk.now = .error error) :
    (sync python data delay works desk).rows = desk.rows := by
  unfold sync
  rw [failed]

theorem mem_listed : (row ∈ (rows.filter (·.eligible)).mergeSort fun first second =>
      decide (first.tld ≤ second.tld)) ↔ row ∈ rows ∧ row.eligible = true := by
  rw [List.mem_mergeSort, List.mem_filter]

section Newest

variable {desk : CatalogDesk} {newest : CatalogSync} {earlier : List CatalogSync}

section
variable (kept : CatalogKept desk) (syncs : desk.syncs = newest :: earlier)
include kept syncs

theorem stored_of_newest (found : lookup DomainTldRow.tld newest.rows tld = some row) :
    lookup DomainTldRow.tld desk.rows tld = some row := by
  rw [kept.latest, syncs, latest, found]
  rfl

theorem newest_of_stored (nothing : NothingWithdrawn (newest :: earlier))
    (found : lookup DomainTldRow.tld desk.rows tld = some row) (eligible : row.eligible = true) :
    lookup DomainTldRow.tld newest.rows tld = some row := by
  rw [kept.latest, syncs, latest] at found
  cases here : lookup DomainTldRow.tld newest.rows tld with
  | some listed =>
    rw [here] at found
    exact found
  | none =>
    rw [here, Option.none_or] at found
    obtain ⟨listed, is⟩ := nothing tld row found eligible
    rw [here] at is
    cases is

theorem newest_not_stale (young : now ≤ newest.refreshedAt + maxAge)
    (found : lookup DomainTldRow.tld newest.rows tld = some row) :
    isStale maxAge now row = false := by
  have listed : newest ∈ desk.syncs := by rw [syncs]; exact List.mem_cons_self
  have refreshed := kept.times newest listed row (lookup_some _ found).1
  unfold isStale
  rw [refreshed]
  exact decide_eq_false (Nat.not_lt.mpr young)

variable (nothing : NothingWithdrawn (newest :: earlier))
include nothing

theorem list_serves (young : now ≤ newest.refreshedAt + maxAge) :
    ∃ listed, listEligible maxAge now desk.rows = .ok listed ∧
      ∀ tld, tld ∈ listed.map DomainTldRow.tld ↔ newest.offers tld := by
  have of_stored : ∀ row ∈ desk.rows, row.eligible = true →
      lookup DomainTldRow.tld newest.rows row.tld = some row := by
    intro row stored eligible
    exact newest_of_stored kept syncs nothing
      ((mem_iff_lookup _ kept.distinct row).mp stored) eligible
  refine ⟨(desk.rows.filter (·.eligible)).mergeSort fun first second =>
    decide (first.tld ≤ second.tld), ?_, ?_⟩
  · unfold listEligible
    rw [if_neg]
    intro some_stale
    obtain ⟨row, listed, stale⟩ := List.any_eq_true.mp some_stale
    obtain ⟨stored, eligible⟩ := mem_listed.mp listed
    rw [newest_not_stale kept syncs young (of_stored row stored eligible)] at stale
    cases stale
  · intro tld
    rw [List.mem_map]
    constructor
    · rintro ⟨row, listed, rfl⟩
      obtain ⟨stored, eligible⟩ := mem_listed.mp listed
      exact ⟨row, of_stored row stored eligible, eligible⟩
    · rintro ⟨row, found, eligible⟩
      have stored := lookup_some _ (stored_of_newest kept syncs found)
      exact ⟨row, mem_listed.mpr ⟨stored.1, eligible⟩, stored.2⟩

theorem single_serves (young : now ≤ newest.refreshedAt + maxAge) (tld : Text) :
    (∃ row, getTld python maxAge now desk.rows tld = .ok row) ↔
      newest.offers (dropDots (python.lower tld)) := by
  unfold getTld
  constructor
  · rintro ⟨row, got⟩
    split at got
    · cases got
    rename_i stored found
    split at got
    · cases got
    split at got
    · rename_i eligible
      exact ⟨stored, newest_of_stored kept syncs nothing found eligible, eligible⟩
    · cases got
  · rintro ⟨row, found, eligible⟩
    refine ⟨row, ?_⟩
    simp only [stored_of_newest kept syncs found, newest_not_stale kept syncs young found,
      Bool.false_eq_true, if_false, eligible, if_true]

omit nothing

theorem withdrawn_disturbs (withdrawn : lookup DomainTldRow.tld newest.rows tld = none)
    (left : latest earlier tld = some row) (eligible : row.eligible = true) :
    ¬ Serves python maxAge now desk.rows newest := by
  intro serves
  have found : lookup DomainTldRow.tld desk.rows tld = some row := by
    rw [kept.latest, syncs, latest, withdrawn, Option.none_or]
    exact left
  obtain ⟨stored, named⟩ := lookup_some _ found
  obtain ⟨listed, is, exact_list⟩ := serves.list
  unfold listEligible at is
  dsimp only at is
  split at is
  · cases is
  cases is
  have offered := (exact_list tld).mp
    (List.mem_map.mpr ⟨row, mem_listed.mpr ⟨stored, eligible⟩, named⟩)
  obtain ⟨other, known, _⟩ := offered
  rw [withdrawn] at known
  cases known

end

end Newest

theorem kept_serves_iff {desk : CatalogDesk} (kept : CatalogKept desk) (maxAge : Nat) :
    CatalogServes python maxAge desk ↔ NothingWithdrawn desk.syncs := by
  constructor
  · intro serves
    cases syncs : desk.syncs with
    | nil => trivial
    | cons newest earlier =>
      intro tld row left eligible
      cases withdrawn : lookup DomainTldRow.tld newest.rows tld with
      | some listed => exact ⟨listed, rfl⟩
      | none =>
        have served := serves.fresh newest (by rw [syncs]; rfl) newest.refreshedAt
          (Nat.le_refl _) (Nat.le_add_right _ _)
        exact absurd served (withdrawn_disturbs kept syncs withdrawn left eligible)
  · intro nothing
    constructor
    · intro last head now _ young
      cases syncs : desk.syncs with
      | nil =>
        rw [syncs] at head
        cases head
      | cons newest earlier =>
        rw [syncs] at head nothing
        cases head
        exact ⟨list_serves kept syncs nothing young, single_serves kept syncs nothing young⟩
    · intro data delay works error failed
      exact failed_sync_idle desk data delay works error failed

/-- After any history of syncs the catalog serves the data of the newest one exactly if no
TLD was eligible when it was last listed and is missing from the newest list. -/
theorem catalog_serves_iff (python : PythonText) (maxAge : Nat) (steps : List CatalogStep) :
    CatalogServes python maxAge ((catalogSyncs python).run emptyCatalog steps) ↔
      NothingWithdrawn ((catalogSyncs python).run emptyCatalog steps).syncs := by
  have kept : CatalogKept ((catalogSyncs python).run emptyCatalog steps) :=
    (catalogSyncs python).run_keeps
      (fun step desk kept _ => catalog_step_kept step desk kept) steps emptyCatalog empty_kept
      ((catalogSyncs python).admits_all (fun _ _ => trivial) _ _)
  exact kept_serves_iff kept maxAge

section Runs

def plainPython : PythonText where
  str := fun value => match value with
    | .text text => text
    | _ => []
  lower := fun text => text.map Char.toLower
  upper := fun text => text.map Char.toUpper
  strip := id
  words := id
  decimal := fun text => if text = "9".toList then some 9 else none

def ianaRow (tld : String) : List HtmlEvent :=
  [.start "td", .data ('.' :: tld.toList), .stop "td", .start "td", .data "generic".toList,
    .stop "td", .stop "tr"]

def registrarEntry (tld : String) : Fields :=
  let price := Json.object [("price".toList, .text "9".toList)]
  [("name".toList, .text tld.toList), ("status".toList, .text "ACT".toList),
    ("prices".toList, .object [("create".toList, price), ("renew".toList, price)])]

def listing (tlds : List String) : SyncData where
  html := some ((tlds.map ianaRow).flatten)
  tlds := some (tlds.map registrarEntry)
  tldAllowlist := []

def withdrawal : List CatalogStep :=
  [.sync (listing ["alpha", "beta"]) 0 true, .wait 30, .sync (listing ["beta"]) 0 true]

theorem withdrawal_blocks : ¬ ∀ python maxAge steps,
      CatalogServes python maxAge ((catalogSyncs python).run emptyCatalog steps) := by
  intro always
  have served := always plainPython 20 withdrawal
  have kept : CatalogKept ((catalogSyncs plainPython).run emptyCatalog withdrawal) :=
    (catalogSyncs plainPython).run_keeps
      (fun step desk kept _ => catalog_step_kept step desk kept) withdrawal emptyCatalog
      empty_kept ((catalogSyncs plainPython).admits_all (fun _ _ => trivial) _ _)
  have nothing := (kept_serves_iff kept 20).mp served
  have left : ((latest ((catalogSyncs plainPython).run emptyCatalog withdrawal).syncs.tail
      "alpha".toList).any (·.eligible)) = true := by
    decide +kernel
  have missing : ((((catalogSyncs plainPython).run emptyCatalog withdrawal).syncs.head?.bind
      fun newest => lookup DomainTldRow.tld newest.rows "alpha".toList).isNone) = true := by
    decide +kernel
  cases syncs : ((catalogSyncs plainPython).run emptyCatalog withdrawal).syncs with
  | nil =>
    rw [syncs] at left
    cases left
  | cons newest earlier =>
    rw [syncs] at nothing left missing
    obtain ⟨row, known, eligible⟩ := (Option.any_eq_true _ _).mp left
    obtain ⟨listed, found⟩ := nothing "alpha".toList row known eligible
    change (lookup DomainTldRow.tld newest.rows "alpha".toList).isNone = true at missing
    rw [found] at missing
    cases missing

end Runs

end HyruleCloud.TldCatalog
