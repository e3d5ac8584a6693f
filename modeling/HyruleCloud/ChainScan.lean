import Mathlib.Algebra.BigOperators.Group.List.Basic
import Mathlib.Algebra.Order.BigOperators.Group.List
import Mathlib.Data.List.MinMax
import HyruleCloud.IntentEngine

/-!
providers/native_crypto.py: what a scan of a receive address reports of the
transfers behind it. A scanner folds the transfers into one total and one
confirmation count, and `_decide_status` only sees these two numbers. The count
is cautious when no transfer lies shallower than it says.
-/

namespace HyruleCloud

inductive Reply (α : Type) where
  | ok (body : α)
  | status (code : Nat)
  | raised

structure EsploraStats where
  chainFunded : Option Nat
  mempoolFunded : Option Nat

structure EsploraTx where
  txid : Option Nat
  confirmed : Bool
  blockHeight : Option Nat

structure Esplora where
  address : Reply EsploraStats
  txs : Reply (List EsploraTx)
  tip : Reply Nat

def satPerBtc : Rat := 100000000
def piconeroPerXmr : Rat := 1000000000000

/-- `confs` of the newest transaction; `none` is an exception. -/
def latestConfirmations (tip : Reply Nat) (latest : EsploraTx) : Option Nat :=
  if latest.confirmed then
    match tip with
    | .ok height => latest.blockHeight.map (height + 1 - ·)
    | .status _ => some 1
    | .raised => none
  else some 0

/-- One pass of the loop of `scan_btc_address`; `none` moves on to the next explorer. -/
def scanEsplora (explorer : Esplora) : Option ScanResult :=
  match explorer.address with
  | .ok stats =>
    let fundedSats := stats.chainFunded.getD 0 + stats.mempoolFunded.getD 0
    let received := (fundedSats : Rat) / satPerBtc
    if fundedSats = 0 then some { receivedTotal := 0, confirmations := 0 }
    else match explorer.txs with
      | .ok [] => some { receivedTotal := received, confirmations := 0 }
      | .ok (latest :: _) =>
        (latestConfirmations explorer.tip latest).map fun confs =>
          { receivedTotal := received, confirmations := confs, txHash := latest.txid }
      | .status _ => some { receivedTotal := received, confirmations := 0 }
      | .raised => none
  | _ => none

/-- `scan_btc_address`; `none`: all explorers failed. -/
def scanBtcAddress (primary fallback : Esplora) : Option ScanResult :=
  scanEsplora primary <|> scanEsplora fallback

/-- An entry of `get_transfers`. -/
structure XmrTransfer where
  amount : Option Nat
  confirmations : Option Nat
  txid : Option Nat := none

/-- `scan_xmr_subaddress`; `none`: the wallet did not answer. -/
def scanXmrSubaddress (wallet : Option (List XmrTransfer)) : Option ScanResult :=
  wallet.map fun incoming => match incoming with
    | [] => { receivedTotal := 0, confirmations := 0 }
    | first :: _ => {
        receivedTotal := ((incoming.map (·.amount.getD 0)).sum : Nat) / piconeroPerXmr
        confirmations := (incoming.map (·.confirmations.getD 0)).foldr max 0
        txHash := first.txid }

structure ChainAnswers where
  primary : Esplora
  fallback : Esplora
  wallet : Option (List XmrTransfer)

/-- The scan of `poll_one_intent`. -/
def scanIntent (asset : Asset) (answers : ChainAnswers) : Option ScanResult :=
  match asset with
  | .btc => scanBtcAddress answers.primary answers.fallback
  | .xmr => scanXmrSubaddress answers.wallet

/-! The deposit itself, with a depth for each transfer. -/

structure Transfer where
  amount : Rat
  confirmations : Nat

def total (transfers : List Transfer) : Rat := (transfers.map Transfer.amount).sum

def ripe (minConfs : Nat) (transfers : List Transfer) : List Transfer :=
  transfers.filter fun transfer => minConfs ≤ transfer.confirmations

def Cautious (confs : Nat) (transfers : List Transfer) : Prop :=
  ∀ transfer ∈ transfers, confs ≤ transfer.confirmations

theorem cautious_ripe {confs minConfs : Nat} {transfers : List Transfer}
    (cautious : Cautious confs transfers) (reached : minConfs ≤ confs) :
    ripe minConfs transfers = transfers := by
  apply List.filter_eq_self.mpr
  intro transfer member
  have deep := cautious transfer member
  simp only [decide_eq_true_eq]
  omega

def RipeAcceptable (row : CryptoIntentRow) (transfers : List Transfer) (rate : Option Rat) : Prop :=
  acceptable row (total (ripe (minConfirmations row.asset) transfers)) rate = true

/-- Some transfer is deep enough, and it takes the shallow ones to make the
deposit acceptable. -/
def ShallowDecides (row : CryptoIntentRow) (transfers : List Transfer) (rate : Option Rat) : Prop :=
  (∃ transfer ∈ transfers, minConfirmations row.asset ≤ transfer.confirmations) ∧
    acceptable row (total transfers) rate = true ∧ ¬ RipeAcceptable row transfers rate

structure BtcTransfer where
  txid : Nat
  sats : Nat
  /-- `none` in the mempool -/
  height : Option Nat

/-- The order of an explorer: mempool first, then down the chain. -/
def NotAbove (later earlier : BtcTransfer) : Prop :=
  ∀ height ∈ later.height, ∃ below ∈ earlier.height, below ≤ height

structure BtcDeposit where
  tip : Nat
  transfers : List BtcTransfer
  ordered : transfers.Pairwise NotAbove
  mined : ∀ transfer ∈ transfers, ∀ height ∈ transfer.height, height ≤ tip

def BtcDeposit.confirmations (deposit : BtcDeposit) (transfer : BtcTransfer) : Nat :=
  match transfer.height with
  | none => 0
  | some height => deposit.tip + 1 - height

def BtcDeposit.seen (deposit : BtcDeposit) : List Transfer :=
  deposit.transfers.map fun transfer =>
    { amount := transfer.sats / satPerBtc, confirmations := deposit.confirmations transfer }

def XmrTransfer.seen (transfer : XmrTransfer) : Transfer where
  amount := (transfer.amount.getD 0 : Nat) / piconeroPerXmr
  confirmations := transfer.confirmations.getD 0

def fundedSum (mined : Bool) (transfers : List BtcTransfer) : Nat :=
  ((transfers.filter (·.height.isSome == mined)).map BtcTransfer.sats).sum

def BtcTransfer.listed (transfer : BtcTransfer) : EsploraTx where
  txid := some transfer.txid
  confirmed := transfer.height.isSome
  blockHeight := transfer.height

/-- What an explorer that answers tells about a deposit; of the transactions
only the head of the first page matters. -/
structure Shows (deposit : BtcDeposit) (explorer : Esplora) : Prop where
  funded : ∀ stats, explorer.address = .ok stats →
    stats.chainFunded.getD 0 = fundedSum true deposit.transfers ∧
      stats.mempoolFunded.getD 0 = fundedSum false deposit.transfers
  newest : ∀ page, explorer.txs = .ok page →
    page.head? = (deposit.transfers.map BtcTransfer.listed).head?
  tip : ∀ height, explorer.tip = .ok height → height = deposit.tip

inductive Deposit where
  | btc (deposit : BtcDeposit)
  | xmr (incoming : List XmrTransfer)

def Deposit.asset : Deposit → Asset
  | .btc _ => .btc
  | .xmr _ => .xmr

def Deposit.transfers : Deposit → List Transfer
  | .btc deposit => deposit.seen
  | .xmr incoming => incoming.map XmrTransfer.seen

def Deposit.Reported (answers : ChainAnswers) : Deposit → Prop
  | .btc deposit => Shows deposit answers.primary ∧ Shows deposit answers.fallback
  | .xmr incoming => ∀ listed, answers.wallet = some listed → listed = incoming

section
variable (deposit : BtcDeposit)

theorem newest_cautious (latest : BtcTransfer) (rest : List BtcTransfer)
    (order : deposit.transfers = latest :: rest) (confs : Nat)
    (bound : confs ≤ deposit.confirmations latest) : Cautious confs deposit.seen := by
  have ordered := deposit.ordered
  rw [order, List.pairwise_cons] at ordered
  intro transfer member
  obtain ⟨source, listed, same⟩ := List.mem_map.mp member
  subst same
  rw [order] at listed
  refine Nat.le_trans bound ?_
  cases listed with
  | head => exact Nat.le_refl _
  | tail _ later =>
    have above := ordered.1 source later
    simp only [BtcDeposit.confirmations]
    cases height : latest.height with
    | none => simp
    | some top =>
      obtain ⟨below, mined, lower⟩ := above top height
      simp only [Option.mem_def] at mined
      simp only [mined]
      omega

/-- The count for the newest transaction never exceeds its depth: a tip that
could not be fetched counts a mined transaction once. -/
theorem latest_bounded (explorer : Esplora) (shown : Shows deposit explorer)
    (latest : BtcTransfer) (member : latest ∈ deposit.transfers) (confs : Nat)
    (counted : latestConfirmations explorer.tip latest.listed = some confs) :
    confs ≤ deposit.confirmations latest := by
  simp only [latestConfirmations, BtcTransfer.listed] at counted
  simp only [BtcDeposit.confirmations]
  cases height : latest.height with
  | none => simp_all
  | some block =>
    have mined := deposit.mined latest member block height
    cases answer : explorer.tip with
    | ok tip =>
      have same := shown.tip tip answer
      simp_all
    | status code =>
      have once : 1 = confs := by simpa [height, answer] using counted
      show confs ≤ deposit.tip + 1 - block
      omega
    | raised => simp [height, answer] at counted

theorem fundedSum_total :
    ((fundedSum true deposit.transfers + fundedSum false deposit.transfers : Nat) : Rat) / satPerBtc =
      total deposit.seen := by
  simp only [total, BtcDeposit.seen, List.map_map]
  induction deposit.transfers with
  | nil => simp [fundedSum]
  | cons first rest ih =>
    simp only [List.map_cons, List.sum_cons, Function.comp, ← ih, fundedSum, List.filter_cons]
    cases first.height.isSome <;> simp <;> ring

/-- `AddressScanResult` of one explorer about a Bitcoin deposit. -/
theorem esplora_reports (explorer : Esplora) (shown : Shows deposit explorer)
    (scan : ScanResult) (scanned : scanEsplora explorer = some scan) :
    scan.receivedTotal = total deposit.seen ∧ Cautious scan.confirmations deposit.seen := by
  have unseen : Cautious 0 deposit.seen := fun _ _ => Nat.zero_le _
  simp only [scanEsplora] at scanned
  split at scanned
  · rename_i stats answer
    obtain ⟨chain, mempool⟩ := shown.funded stats answer
    have sum := fundedSum_total deposit
    rw [chain, mempool] at scanned
    split at scanned
    · rename_i empty
      rw [empty] at sum
      cases scanned
      exact ⟨by simpa using sum, unseen⟩
    · rw [sum] at scanned
      split at scanned
      · cases scanned
        exact ⟨rfl, unseen⟩
      · rename_i latest rest page
        obtain ⟨confs, counted, same⟩ := Option.map_eq_some_iff.mp scanned
        subst same
        have head := shown.newest _ page
        cases order : deposit.transfers with
        | nil => simp [order] at head
        | cons first others =>
          simp only [order, List.head?_cons, List.map_cons, Option.some.injEq] at head
          subst head
          have member : first ∈ deposit.transfers := order ▸ List.mem_cons_self
          exact ⟨rfl, newest_cautious deposit first others order confs
            (latest_bounded deposit explorer shown first member confs counted)⟩
      · cases scanned
        exact ⟨rfl, unseen⟩
      · cases scanned
  · cases scanned

theorem btc_reports (answers : ChainAnswers)
    (reported : (Deposit.btc deposit).Reported answers) (scan : ScanResult)
    (scanned : scanIntent .btc answers = some scan) :
    scan.receivedTotal = total deposit.seen ∧ Cautious scan.confirmations deposit.seen := by
  simp only [scanIntent, scanBtcAddress] at scanned
  cases first : scanEsplora answers.primary with
  | some result =>
    rw [first] at scanned
    have same : result = scan := Option.some.inj scanned
    subst same
    exact esplora_reports deposit _ reported.1 result first
  | none =>
    rw [first] at scanned
    exact esplora_reports deposit _ reported.2 scan scanned

end

variable (incoming : List XmrTransfer)
include incoming

theorem deepest_reached {minConfs : Nat} (positive : 0 < minConfs) :
    minConfs ≤ (incoming.map (·.confirmations.getD 0)).foldr max 0 ↔
      ∃ transfer ∈ incoming.map XmrTransfer.seen, minConfs ≤ transfer.confirmations := by
  induction incoming with
  | nil => simp; omega
  | cons first rest ih =>
    simp only [List.map_cons, List.foldr_cons, le_max_iff, ih, List.mem_cons,
      exists_eq_or_imp]
    exact Iff.rfl

theorem picoSum_total : (((incoming.map (·.amount.getD 0)).sum : Nat) : Rat) / piconeroPerXmr =
      total (incoming.map XmrTransfer.seen) := by
  simp only [total, List.map_map]
  induction incoming with
  | nil => simp
  | cons first rest ih =>
    simp only [List.map_cons, List.sum_cons, Nat.cast_add, add_div, ih]
    rfl

theorem xmr_reports (answers : ChainAnswers)
    (reported : (Deposit.xmr incoming).Reported answers) (scan : ScanResult)
    (scanned : scanIntent .xmr answers = some scan) :
    scan.receivedTotal = total (incoming.map XmrTransfer.seen) ∧
      (minConfirmations .xmr ≤ scan.confirmations ↔
        ∃ transfer ∈ incoming.map XmrTransfer.seen,
          minConfirmations .xmr ≤ transfer.confirmations) := by
  obtain ⟨listed, answer, same⟩ := Option.map_eq_some_iff.mp scanned
  have all := reported listed answer
  subst all
  have sum := picoSum_total listed
  have deepest := deepest_reached listed (show 0 < minConfirmations .xmr by decide)
  cases listed with
  | nil =>
    subst same
    exact ⟨by simp [total], by simpa using deepest⟩
  | cons first rest =>
    subst same
    exact ⟨sum, deepest⟩

omit incoming

theorem deposit_nonneg (deposit : Deposit) :
    ∀ transfer ∈ deposit.transfers, 0 ≤ transfer.amount := by
  intro transfer member
  cases deposit with
  | btc deposit =>
    obtain ⟨source, _, same⟩ := List.mem_map.mp member
    subst same
    exact div_nonneg (Nat.cast_nonneg _) (by norm_num [satPerBtc])
  | xmr incoming =>
    obtain ⟨source, _, same⟩ := List.mem_map.mp member
    subst same
    exact div_nonneg (Nat.cast_nonneg _) (by norm_num [piconeroPerXmr])

theorem ripe_nothing (minConfs : Nat) (transfers : List Transfer)
    (nonneg : ∀ transfer ∈ transfers, 0 ≤ transfer.amount) (nothing : total transfers = 0) :
    total (ripe minConfs transfers) = 0 := by
  have zero : ∀ amount ∈ transfers.map Transfer.amount, amount = 0 := fun _ =>
    List.all_zero_of_le_zero_le_of_sum_eq_zero (by simpa using nonneg) nothing
  apply List.sum_eq_zero
  intro amount member
  obtain ⟨transfer, kept, same⟩ := List.mem_map.mp member
  exact zero amount (List.mem_map.mpr ⟨transfer, (List.mem_filter.mp kept).1, same⟩)

section
variable (row : CryptoIntentRow) (scan : ScanResult)

theorem decideStatus_settled (minConfs : Nat)
    (rate : Option Rat) :
    decideStatus row scan minConfs rate = .settled ↔
      scan.receivedTotal ≠ 0 ∧ minConfs ≤ scan.confirmations ∧
        acceptable row scan.receivedTotal rate = true := by
  simp only [decideStatus]
  split
  · rename_i nothing
    simp [nothing]
  · rename_i paid
    split
    · rename_i shallow
      simp [Nat.not_le.mpr shallow]
    · rename_i deep
      split <;> simp_all

theorem appliedScan_confirmed (now : Time)
    (fetched : Option Rat) (paid : scan.receivedTotal ≠ 0)
    (deep : minConfirmations row.asset ≤ scan.confirmations) :
    (appliedScan row scan now fetched).status =
      if acceptable row scan.receivedTotal (maybeRequote row now fetched) then .settled
      else .refundManual := by
  have same : ∀ rate, acceptable (scannedRow row scan) scan.receivedTotal rate =
      acceptable row scan.receivedTotal rate := fun _ => rfl
  simp only [appliedScan, decideStatus, same, paid, Nat.not_lt.mpr deep, beq_iff_eq,
    Bool.and_eq_true, and_false, if_false]

theorem appliedScan_settles (now : Time)
    (fetched : Option Rat) :
    (appliedScan row scan now fetched).status = .settled ↔
      scan.receivedTotal ≠ 0 ∧ minConfirmations row.asset ≤ scan.confirmations ∧
        acceptable row scan.receivedTotal (maybeRequote row now fetched) = true := by
  refine Iff.trans ?_ (decideStatus_settled (scannedRow row scan) scan _ _)
  by_cases nothing : scan.receivedTotal = 0
  · have waiting := mt (decideStatus_settled (scannedRow row scan) scan
      (minConfirmations row.asset) (maybeRequote row now fetched)).mp (by simp [nothing])
    simp only [waiting, iff_false, appliedScan]
    cases row.expiresAt with
    | none => exact waiting
    | some limit =>
      by_cases closed : limit < now
      · simp [closed, nothing]
      · simpa [closed] using waiting
  · simp only [appliedScan, nothing, beq_iff_eq, Bool.and_eq_true, and_false, if_false]

end

/-- Bitcoin counts from the newest transaction and never lets shallow value
settle an intent; Monero counts from the deepest transfer and does so whenever
the shallow value decides. -/
theorem settled_on_ripe_value (s s' : Store) (intent : IntentId) (row next : CryptoIntentRow)
    (deposit : Deposit) (answers : ChainAnswers) (scan : ScanResult) (now : Time)
    (fetched : Option Rat) (found : s.intents intent = some row)
    (live : row.status.isTerminal = false) (same : row.asset = deposit.asset)
    (reported : deposit.Reported answers) (scanned : scanIntent row.asset answers = some scan)
    (applied : applyIntentScan intent scan now fetched s = .ok (s', some next)) :
    (next.status = .settled →
        RipeAcceptable row deposit.transfers (maybeRequote row now fetched)) ↔
      (deposit.asset = .xmr →
        ¬ ShallowDecides row deposit.transfers (maybeRequote row now fetched)) := by
  have moved : next = appliedScan row scan now fetched := by
    simp only [applyIntentScan, found, live] at applied
    cases applied
    rfl
  rw [moved, appliedScan_settles]
  rw [same] at scanned
  cases deposit with
  | btc deposit =>
    obtain ⟨sum, cautious⟩ := btc_reports deposit answers reported scan scanned
    constructor
    · intro _ other
      cases other
    · rintro _ ⟨_, deep, accepted⟩
      have whole := cautious_ripe cautious deep
      simpa only [RipeAcceptable, Deposit.transfers, whole, ← sum] using accepted
  | xmr incoming =>
    obtain ⟨sum, deepest⟩ := xmr_reports incoming answers reported scan scanned
    have required : minConfirmations row.asset = minConfirmations .xmr := by rw [same]; rfl
    simp only [ShallowDecides, Deposit.transfers, required, ← deepest, ← sum]
    constructor
    · rintro careful _ ⟨deep, accepted, shallow⟩
      refine shallow (careful ⟨?_, deep, accepted⟩)
      intro nothing
      have none := ripe_nothing (minConfirmations row.asset) (incoming.map XmrTransfer.seen)
        (deposit_nonneg (.xmr incoming)) (sum ▸ nothing)
      rw [nothing] at accepted
      exact shallow (by simpa only [RipeAcceptable, none] using accepted)
    · rintro careful ⟨_, deep, accepted⟩
      by_contra shallow
      exact careful rfl ⟨deep, accepted, shallow⟩

instance (row : CryptoIntentRow) (transfers : List Transfer) (rate : Option Rat) :
    Decidable (RipeAcceptable row transfers rate) :=
  inferInstanceAs (Decidable (_ = true))

def coinIntent (asset : Asset) : CryptoIntentRow where
  asset := asset
  amountCrypto := 1
  amountUsd := some 100
  status := .waitingPayment
  expiresAt := some 3600
  rateValidUntil := some 900
  orderPayload := none

/-- A thousandth of a coin ten blocks deep, and a whole coin one block deep. -/
def grainAndCoin : List XmrTransfer :=
  [⟨some 1000000000, some 10, none⟩, ⟨some 1000000000000, some 1, none⟩]

theorem shallow_monero_settles :
    ¬ ∀ (row : CryptoIntentRow) (deposit : Deposit) (answers : ChainAnswers) (scan : ScanResult)
      (now : Time) (fetched : Option Rat), row.status.isTerminal = false →
      row.asset = deposit.asset → deposit.Reported answers →
      scanIntent row.asset answers = some scan →
      (appliedScan row scan now fetched).status = .settled →
      RipeAcceptable row deposit.transfers (maybeRequote row now fetched) := by
  intro claim
  have rests := claim (coinIntent .xmr) (.xmr grainAndCoin)
    ⟨⟨.raised, .raised, .raised⟩, ⟨.raised, .raised, .raised⟩, some grainAndCoin⟩
    ⟨1001 / 1000, 10, none⟩ 600 none rfl rfl
    (by intro listed same; exact (Option.some.inj same).symm) (by decide +kernel) (by decide +kernel)
  revert rests
  decide +kernel

def halves : BtcDeposit where
  tip := 800
  transfers := [⟨1, 50000000, some 800⟩, ⟨2, 50000000, some 797⟩]
  ordered := by simp [NotAbove]
  mined := by decide

def halvesExplorer : Esplora where
  address := .ok ⟨some 100000000, none⟩
  txs := .ok [⟨some 1, true, some 800⟩, ⟨some 2, true, some 797⟩]
  tip := .status 502

theorem halves_shown : Shows halves halvesExplorer where
  funded := by
    intro stats answer
    cases answer
    decide
  newest := by
    intro page answer
    cases answer
    rfl
  tip := by
    intro height answer
    cases answer

def halvesAnswers : ChainAnswers := ⟨halvesExplorer, halvesExplorer, none⟩

def loneIntent (row : CryptoIntentRow) : Store where
  vmQuotes := fun _ => none
  vms := fun _ => none
  intents := Table.put (fun _ => none) 0 row
  domainQuotes := fun _ => none
  orders := fun _ => none
  domains := fun _ => none
  operations := fun _ => none
  jobs := fun _ => none
  events := []
  disabled := fun _ => false

theorem halves_settle_on_ripe_value : RipeAcceptable (coinIntent .btc) halves.seen none := by
  have settles : (appliedScan (coinIntent .btc) ⟨1, 1, some 1⟩ 600 (some 200)).status = .settled := by
    decide +kernel
  have scanned : scanIntent .btc halvesAnswers = some ⟨1, 1, some 1⟩ := by decide +kernel
  have law := settled_on_ripe_value (loneIntent (coinIntent .btc)) _ 0 (coinIntent .btc)
    (appliedScan (coinIntent .btc) ⟨1, 1, some 1⟩ 600 (some 200)) (.btc halves) halvesAnswers
    ⟨1, 1, some 1⟩ 600 (some 200) rfl rfl rfl ⟨halves_shown, halves_shown⟩ scanned rfl
  exact law.mpr nofun settles

end HyruleCloud
