import HyruleCloud.ChainScan

/-!
services/intents.py: the price of a deposit over a history of polls. A poll
keeps no record of when the money was first seen, so the deposit is priced by
the clock of the poll that finds it confirmed.
-/

namespace HyruleCloud

/-- One scan as `_apply_intent_scan` receives it, the rate a requote would
fetch, and what becomes of the session. -/
structure Poll where
  scan : ScanResult
  now : Time
  fetched : Option Rat
  fate : Fate := .done

def applyPoll (intent : IntentId) (s : Store) (poll : Poll) : Store :=
  (transact (applyIntentScan intent poll.scan poll.now poll.fetched) poll.fate s).1

def applyPolls (intent : IntentId) (polls : List Poll) (s : Store) : Store :=
  polls.foldl (applyPoll intent) s

structure SameTerms (row next : CryptoIntentRow) : Prop where
  asset : next.asset = row.asset
  amountCrypto : next.amountCrypto = row.amountCrypto
  amountUsd : next.amountUsd = row.amountUsd
  rateValidUntil : next.rateValidUntil = row.rateValidUntil

theorem SameTerms.trans {first second third : CryptoIntentRow} (one : SameTerms first second)
    (two : SameTerms second third) : SameTerms first third where
  asset := two.asset.trans one.asset
  amountCrypto := two.amountCrypto.trans one.amountCrypto
  amountUsd := two.amountUsd.trans one.amountUsd
  rateValidUntil := two.rateValidUntil.trans one.rateValidUntil

theorem appliedScan_terms (row : CryptoIntentRow) (scan : ScanResult) (now : Time)
    (fetched : Option Rat) : SameTerms row (appliedScan row scan now fetched) := by
  simp only [appliedScan]
  split <;> split <;> exact ⟨rfl, rfl, rfl, rfl⟩

section
variable (intent : IntentId) (s : Store) (poll : Poll) (row : CryptoIntentRow)
  (found : s.intents intent = some row)
include found

theorem applyPoll_row :
    (applyPoll intent s poll).intents intent = some (
      if row.status.isTerminal ∨ poll.fate = .failed then row
      else appliedScan row poll.scan poll.now poll.fetched) := by
  simp only [applyPoll, transact, applyIntentScan, found]
  cases live : row.status.isTerminal <;> cases fate : poll.fate <;> simp [found]

theorem applyPoll_terms :
    ∃ next, (applyPoll intent s poll).intents intent = some next ∧ SameTerms row next := by
  refine ⟨_, applyPoll_row intent s poll row found, ?_⟩
  split
  · exact ⟨rfl, rfl, rfl, rfl⟩
  · exact appliedScan_terms row _ _ _

end

theorem applyPolls_terms (intent : IntentId) (polls : List Poll) (s : Store)
    (row : CryptoIntentRow) (found : s.intents intent = some row) :
    ∃ next, (applyPolls intent polls s).intents intent = some next ∧ SameTerms row next := by
  induction polls generalizing s row with
  | nil => exact ⟨row, found, ⟨rfl, rfl, rfl, rfl⟩⟩
  | cons poll rest ih =>
    obtain ⟨middle, reached, kept⟩ := applyPoll_terms intent s poll row found
    obtain ⟨next, final, same⟩ := ih (applyPoll intent s poll) middle reached
    exact ⟨next, final, kept.trans same⟩

/-- The confirming poll still honours the locked price: the lock has not run
out, nothing fresh is there to compare with, or the market has barely moved. -/
def QuoteKept (row : CryptoIntentRow) (poll : Poll) : Prop :=
  (∃ limit, row.rateValidUntil = some limit ∧ poll.now ≤ limit) ∨
    poll.fetched = none ∨ row.amountUsd = none ∨
    ∃ rate usd, poll.fetched = some rate ∧ row.amountUsd = some usd ∧
      withinTolerance poll.scan.receivedTotal (quantize12 (usd / rate)) latePaidSlippage = true

theorem quoteKept_acceptable (row : CryptoIntentRow) (poll : Poll) (limit : Time)
    (lock : row.rateValidUntil = some limit)
    (enough : row.amountCrypto * (1 - exactAmountTolerance) ≤ poll.scan.receivedTotal) :
    acceptable row poll.scan.receivedTotal (maybeRequote row poll.now poll.fetched) = true ↔
      QuoteKept row poll := by
  simp only [maybeRequote, lock, QuoteKept, Option.some.injEq, exists_eq_left']
  by_cases within : poll.now ≤ limit
  · simp [within, acceptable, enough]
  cases fetched : poll.fetched with
  | none => simp [within, acceptable, enough]
  | some rate =>
    cases price : row.amountUsd with
    | none => simp [within, acceptable, price, enough]
    | some usd => simp [within, acceptable, price]

theorem deposit_grows (seen ripe : Poll) (middle : List Poll)
    (grows : (seen :: (middle ++ [ripe])).Pairwise
      fun earlier later => earlier.scan.receivedTotal ≤ later.scan.receivedTotal) :
    seen.scan.receivedTotal ≤ ripe.scan.receivedTotal := by
  apply (List.pairwise_cons.mp grows).1
  simp

/-- A payment seen within its rate lock settles at the poll that finds it
confirmed exactly when that poll keeps the quote, and is sent to manual refund
otherwise. That it was seen in time makes no difference to the code. -/
theorem arrived_payment_settles (s : Store) (intent : IntentId) (row last : CryptoIntentRow)
    (before middle : List Poll) (seen ripe : Poll) (limit : Time)
    (found : s.intents intent = some row) (lock : row.rateValidUntil = some limit)
    (_inTime : seen.now ≤ limit) (payment : 0 < seen.scan.receivedTotal)
    (arrived : row.amountCrypto * (1 - exactAmountTolerance) ≤ seen.scan.receivedTotal)
    (grows : (seen :: (middle ++ [ripe])).Pairwise
      fun earlier later => earlier.scan.receivedTotal ≤ later.scan.receivedTotal)
    (confirmed : minConfirmations row.asset ≤ ripe.scan.confirmations)
    (reached : (applyPolls intent (before ++ seen :: middle) s).intents intent = some last)
    (live : last.status.isTerminal = false) (committed : ripe.fate ≠ .failed) :
    ∃ next, (applyPolls intent (before ++ seen :: (middle ++ [ripe])) s).intents intent = some next ∧
      (next.status = .settled ↔ QuoteKept row ripe) ∧
      (next.status = .refundManual ↔ ¬ QuoteKept row ripe) := by
  obtain ⟨_, same, terms⟩ := applyPolls_terms intent (before ++ seen :: middle) s row found
  rw [reached] at same
  cases same
  have more := deposit_grows seen ripe middle grows
  have paid : ripe.scan.receivedTotal ≠ 0 := (lt_of_lt_of_le payment more).ne'
  have enough : last.amountCrypto * (1 - exactAmountTolerance) ≤ ripe.scan.receivedTotal := by
    rw [terms.amountCrypto]
    exact le_trans arrived more
  have kept : QuoteKept last ripe ↔ QuoteKept row ripe := by
    simp only [QuoteKept, terms.amountUsd, terms.rateValidUntil]
  have priced := quoteKept_acceptable last ripe limit (terms.rateValidUntil.trans lock) enough
  have split : before ++ seen :: (middle ++ [ripe]) = (before ++ seen :: middle) ++ [ripe] := by simp
  have final := applyPoll_row intent _ ripe last reached
  simp only [live, committed, or_self, if_false, Bool.false_eq_true] at final
  refine ⟨_, by rw [split, applyPolls, List.foldl_append]; exact final, ?_⟩
  rw [appliedScan_confirmed last ripe.scan ripe.now ripe.fetched paid (terms.asset ▸ confirmed)]
  rw [← kept, ← priced]
  by_cases accepted : acceptable last ripe.scan.receivedTotal
      (maybeRequote last ripe.now ripe.fetched) = true
  · simp [accepted]
  · simp [accepted]

/-- One Monero for a hundred dollars, seen ten minutes into the quarter-hour
lock and confirmed after half an hour, when the rate is 102. -/
def earlyPoll : Poll := ⟨⟨1, 1, none⟩, 600, none, .done⟩
def driftedPoll : Poll := ⟨⟨1, 10, none⟩, 1800, some 102, .done⟩

theorem early_payment_refused :
    ¬ ∀ (s : Store) (intent : IntentId) (row last : CryptoIntentRow) (before middle : List Poll)
      (seen ripe : Poll) (limit : Time), s.intents intent = some row →
      row.rateValidUntil = some limit → seen.now ≤ limit → 0 < seen.scan.receivedTotal →
      row.amountCrypto * (1 - exactAmountTolerance) ≤ seen.scan.receivedTotal →
      (seen :: (middle ++ [ripe])).Pairwise
        (fun earlier later => earlier.scan.receivedTotal ≤ later.scan.receivedTotal) →
      minConfirmations row.asset ≤ ripe.scan.confirmations →
      (applyPolls intent (before ++ seen :: middle) s).intents intent = some last →
      last.status.isTerminal = false → ripe.fate ≠ .failed →
      ∃ next, (applyPolls intent (before ++ seen :: (middle ++ [ripe])) s).intents intent =
        some next ∧ next.status = .settled := by
  intro claim
  obtain ⟨next, final, settled⟩ := claim (loneIntent (coinIntent .xmr)) 0 (coinIntent .xmr)
    (appliedScan (coinIntent .xmr) earlyPoll.scan 600 none) [] [] earlyPoll driftedPoll 900
    rfl rfl (by decide) (by decide +kernel) (by decide +kernel) (by decide +kernel) (by decide)
    rfl (by decide +kernel) (by decide)
  have refused : ((applyPolls 0 [earlyPoll, driftedPoll] (loneIntent (coinIntent .xmr))).intents
      0).map (·.status) = some .refundManual := by decide +kernel
  have same : (applyPolls 0 [earlyPoll, driftedPoll] (loneIntent (coinIntent .xmr))).intents 0 =
      some next := final
  rw [same, Option.map_some, settled] at refused
  cases refused

/-- The rate moved by half a percent. -/
theorem steady_payment_settles :
    ∃ next, (applyPolls 0 [earlyPoll, { driftedPoll with fetched := some (201 / 2) }]
      (loneIntent (coinIntent .xmr))).intents 0 = some next ∧ next.status = .settled := by
  obtain ⟨next, final, settles, _⟩ := arrived_payment_settles (loneIntent (coinIntent .xmr)) 0
    (coinIntent .xmr) (appliedScan (coinIntent .xmr) earlyPoll.scan 600 none) [] [] earlyPoll
    { driftedPoll with fetched := some (201 / 2) } 900
    rfl rfl (by decide) (by decide +kernel) (by decide +kernel) (by decide +kernel) (by decide)
    rfl (by decide +kernel) (by decide)
  have kept : QuoteKept (coinIntent .xmr) { driftedPoll with fetched := some (201 / 2) } :=
    Or.inr (Or.inr (Or.inr ⟨201 / 2, 100, rfl, rfl, by decide +kernel⟩))
  exact ⟨next, final, settles.mpr kept⟩

end HyruleCloud
