import HyruleCloud.Decimals
import HyruleCloud.IntentEngine

/-!
The amount of a native payment, from the quote of `_create_intent_unfenced` over the payment
URI of providers/native_crypto.py to `_decide_status`. An amount is stored with twelve places
and asked for in atomic units.
-/

namespace HyruleCloud.PaymentUris

open Decimals

def precision : Nat := 28

def unitPlaces : Asset → Nat
  | .btc => 8
  | .xmr => 12

/-- `(amount_usd / rate).quantize(Decimal("0.000000000001"))`; an amount that takes more digits
than the context has raises. -/
def amountCrypto (amountUsd rate : Decimal) : Option Decimal :=
  (amountUsd.div precision rate).quantize precision 12

/-- A row, and its `amount_crypto` as the driver reads it. -/
structure Quoted where
  row : CryptoIntentRow
  amount : Decimal
  stored : row.amountCrypto = amount.value

/-- `_create_intent_unfenced` in the columns that the amount is in; `NUMERIC(24, 12)` holds 24
digits. -/
def createIntent (other : CryptoIntentRow) (asset : Asset) (amountUsd rate : Decimal) :
    Option Quoted :=
  match amountCrypto amountUsd rate with
  | none => none
  | some amount =>
    if digits amount.coefficient ≤ 24 then
      some ⟨{ other with
        asset := asset
        amountCrypto := amount.value
        amountUsd := some amountUsd.value }, amount, rfl⟩
    else none

def uriHead (asset : Asset) (address : String) : List Char :=
  match asset with
  | .btc => ("bitcoin:" ++ address ++ "?amount=").toList
  | .xmr => ("monero:" ++ address ++ "?tx_amount=").toList

/-- `build_uri` -/
def buildUri (asset : Asset) (address : String) (amount : Decimal) : Option (List Char) :=
  (amount.quantize precision (unitPlaces asset)).map fun rendered =>
    uriHead asset address ++ rendered.format

def askedUnits (asset : Asset) (address : String) (uri : List Char) : Option Int :=
  (parse (uri.drop (uriHead asset address).length)).map fun amount =>
    ⌊amount.value * 10 ^ unitPlaces asset⌋

/-- What a scan finds of a deposit of this many units; a power of ten divides exactly. -/
def scanOf (asset : Asset) (units : Int) (confirmations : Nat) : ScanResult where
  receivedTotal := units / 10 ^ unitPlaces asset
  confirmations := confirmations

/-- `k` is the amount in units of the twelfth place. A satoshi has 10000 of them. -/
def RoundsUp (k : Int) : Prop :=
  5000 < k % 10000 ∨ k % 10000 = 5000 ∧ k / 10000 % 2 = 1

instance (k : Int) : Decidable (RoundsUp k) := by
  unfold RoundsUp
  infer_instance

/-- Some of the amount is left at twelve places, and rounding to satoshis takes at most a
thousandth away. -/
def Payable (asset : Asset) (k : Int) : Prop :=
  match asset with
  | .xmr => 0 < k
  | .btc => 0 < k ∧ (RoundsUp k ∨ 1000 * (k % 10000) ≤ k)

def quotedUnits (amountUsd rate : Decimal) : Option Int :=
  (amountCrypto amountUsd rate).map Decimal.coefficient

variable {amountUsd rate : Decimal} {quoted : Quoted} {k : Int}

variable {other : CryptoIntentRow} {asset : Asset}

theorem createIntent_amount (created : createIntent other asset amountUsd rate = some quoted) :
    amountCrypto amountUsd rate = some quoted.amount ∧
      digits quoted.amount.coefficient ≤ 24 ∧ quoted.row.asset = asset := by
  unfold createIntent at created
  split at created
  · cases created
  rename_i amount known
  split at created
  · rename_i fits
    rw [← Option.some.inj created]
    exact ⟨known, fits, rfl⟩
  · cases created

/-! What is asked for, and what is accepted. -/

def atomic (asset : Asset) (k : Int) : Int :=
  match asset with
  | .btc => halfEven k 10000
  | .xmr => k

section
variable (asset : Asset)

theorem atomic_nonneg (unsigned : 0 ≤ k) : 0 ≤ atomic asset k := by
  cases asset with
  | btc => exact halfEven_nonneg unsigned
  | xmr => exact unsigned

theorem rescaled_atomic (k : Int) :
    (⟨k, -12⟩ : Decimal).rescaled (-unitPlaces asset) = atomic asset k := by
  cases asset with
  | btc => rfl
  | xmr => exact Int.mul_one k

theorem digits_atomic (fits : digits k ≤ 24) : digits (atomic asset k) ≤ precision := by
  rw [digits_le] at fits
  rw [digits_le]
  unfold precision
  cases asset with
  | btc =>
    have near := halfEven_near k (by decide : 0 < 10000)
    rw [show atomic .btc k = halfEven k 10000 from rfl]
    omega
  | xmr =>
    rw [show atomic .xmr k = k from rfl]
    omega

theorem quantize_atomic (fits : digits k ≤ 24) :
    (⟨k, -12⟩ : Decimal).quantize precision (unitPlaces asset) =
      some ⟨atomic asset k, -unitPlaces asset⟩ := by
  rw [Decimal.quantize_eq_some, rescaled_atomic]
  exact ⟨digits_atomic asset fits, rfl⟩

theorem asked_units (address : String) {n : Int} (unsigned : 0 ≤ n) :
    askedUnits asset address (uriHead asset address ++
      (⟨n, -unitPlaces asset⟩ : Decimal).format) = some n := by
  obtain ⟨read, parsed, same⟩ := Decimal.parse_format (d := ⟨n, -unitPlaces asset⟩) unsigned
  have units : read.value * 10 ^ unitPlaces asset = n := by
    rw [same]
    unfold Decimal.value
    rw [zpow_neg, zpow_natCast, inv_mul_cancel_right₀ (by positivity)]
  unfold askedUnits
  rw [List.drop_left, parsed, Option.map_some, units, Int.floor_intCast]

end

theorem acceptable_atomic {n : Int} (amount : quoted.amount = ⟨k, -12⟩) :
    acceptable quoted.row (n / 10 ^ unitPlaces asset) none = true ↔
      999 * k * 10 ^ unitPlaces asset ≤ n * 1000000000000000 := by
  have positive : (0 : Rat) < 10 ^ unitPlaces asset := by positivity
  unfold acceptable exactAmountTolerance
  rw [decide_eq_true_iff, quoted.stored, amount, le_div_iff₀ positive]
  have value : (⟨k, -12⟩ : Decimal).value = k / 1000000000000 := by
    unfold Decimal.value
    norm_num
    ring
  rw [value]
  constructor
  · intro enough
    have scaled : (999 * k * 10 ^ unitPlaces asset : Rat) ≤ n * 1000000000000000 := by
      linarith
    exact_mod_cast scaled
  · intro enough
    have scaled : (999 * k * 10 ^ unitPlaces asset : Rat) ≤ n * 1000000000000000 := by
      exact_mod_cast enough
    linarith

theorem payable_iff (asset : Asset) (unsigned : 0 ≤ k) :
    (atomic asset k ≠ 0 ∧ 999 * k * 10 ^ unitPlaces asset ≤ atomic asset k * 1000000000000000) ↔
      Payable asset k := by
  cases asset with
  | xmr =>
    simp only [atomic, unitPlaces, Payable]
    omega
  | btc =>
    simp only [atomic, unitPlaces, Payable, RoundsUp, halfEven]
    split
    · omega
    · split
      · omega
      · split <;> omega

theorem created_units (created : createIntent other asset amountUsd rate = some quoted) :
    ∃ k, quotedUnits amountUsd rate = some k ∧ quoted.amount = ⟨k, -12⟩ ∧ digits k ≤ 24 := by
  obtain ⟨known, fits, _⟩ := createIntent_amount created
  obtain ⟨_, is⟩ := Decimal.quantize_eq_some.mp known
  refine ⟨quoted.amount.coefficient, ?_, ?_, fits⟩
  · unfold quotedUnits
    rw [known]
    rfl
  · rw [is]
    rfl

theorem units_nonneg (price : 0 < amountUsd.coefficient) (priced : 0 < rate.coefficient)
    (known : quotedUnits amountUsd rate = some k) : 0 ≤ k := by
  unfold quotedUnits at known
  cases quoted : amountCrypto amountUsd rate with
  | none =>
    rw [quoted] at known
    cases known
  | some amount =>
    rw [quoted] at known
    obtain ⟨_, is⟩ := Decimal.quantize_eq_some.mp quoted
    rw [← Option.some.inj known, is]
    exact Decimal.rescaled_nonneg (Decimal.div_nonneg price priced) _

theorem decideStatus_settled (row : CryptoIntentRow) (scan : ScanResult) (minConfs : Nat)
    (deep : minConfs ≤ scan.confirmations) :
    decideStatus row scan minConfs none = .settled ↔
      scan.receivedTotal ≠ 0 ∧ acceptable row scan.receivedTotal none = true := by
  unfold decideStatus
  by_cases nothing : scan.receivedTotal = 0
  · simp [nothing]
  rw [if_neg nothing, if_neg (by omega)]
  by_cases enough : acceptable row scan.receivedTotal none = true
  · simp [enough, nothing]
  · simp [enough]

theorem maybeRequote_inWindow {row : CryptoIntentRow} {now : Time} (fetched : Option Rat)
    (inWindow : ∀ limit, row.rateValidUntil = some limit → now ≤ limit) :
    maybeRequote row now fetched = none := by
  unfold maybeRequote
  split
  · rfl
  · rename_i limit is
    rw [if_pos (inWindow limit is)]

/-- A wallet reads in the payment URI how much to send, and a deposit of that much, within the
rate window and deep enough, is settled if and only if the amount is payable. -/
theorem exact_payment (other : CryptoIntentRow) (asset : Asset) (amountUsd rate : Decimal)
    (price : 0 < amountUsd.coefficient) (priced : 0 < rate.coefficient) (quoted : Quoted)
    (created : createIntent other asset amountUsd rate = some quoted) (address : String)
    (now : Time) (fetched : Option Rat)
    (inWindow : ∀ limit, quoted.row.rateValidUntil = some limit → now ≤ limit)
    (confirmations : Nat) (deep : minConfirmations asset ≤ confirmations) :
    ∃ k uri units, quotedUnits amountUsd rate = some k ∧
      buildUri asset address quoted.amount = some uri ∧
      askedUnits asset address uri = some units ∧
      (decideStatus quoted.row (scanOf asset units confirmations)
        (minConfirmations quoted.row.asset) (maybeRequote quoted.row now fetched) = .settled ↔
          Payable asset k) := by
  obtain ⟨k, known, amount, fits⟩ := created_units created
  have unsigned := units_nonneg price priced known
  refine ⟨k, _, atomic asset k, known, ?_, asked_units asset address (atomic_nonneg asset unsigned),
    ?_⟩
  · unfold buildUri
    rw [amount, quantize_atomic asset fits]
    rfl
  · rw [(createIntent_amount created).2.2, maybeRequote_inWindow fetched inWindow,
      decideStatus_settled _ _ _ deep, ← payable_iff asset unsigned]
    have scale : ((10 : Rat) ^ unitPlaces asset) ≠ 0 := by positivity
    have nothing : (scanOf asset (atomic asset k) confirmations).receivedTotal ≠ 0 ↔
        atomic asset k ≠ 0 := by
      simp [scanOf, scale]
    rw [nothing]
    exact and_congr_right fun _ => acceptable_atomic amount

/-! Prices for a day, at a rate where a cent is about ten satoshis. -/

def emptyRow : CryptoIntentRow where
  asset := .btc
  amountCrypto := 0
  amountUsd := none
  expiresAt := none
  rateValidUntil := some 900
  orderPayload := none

def quoteOf (asset : Asset) (cents : Int) : Option Quoted :=
  createIntent emptyRow asset ⟨cents, -2⟩ ⟨9975500, -2⟩

/-- Sixty cents are about 601.47 satoshis. -/
theorem exact_payment_sixty : ∃ quoted uri units, quoteOf .btc 60 = some quoted ∧
    buildUri .btc "bc1q" quoted.amount = some uri ∧ askedUnits .btc "bc1q" uri = some units ∧
    decideStatus quoted.row (scanOf .btc units 1) (minConfirmations quoted.row.asset)
      (maybeRequote quoted.row 900 none) = .settled := by
  have limits : (quoteOf .btc 60).map (fun quoted => quoted.row.rateValidUntil) =
      some (some 900) := by decide +kernel
  obtain ⟨quoted, created, limit⟩ := Option.map_eq_some_iff.mp limits
  have inWindow : ∀ last, quoted.row.rateValidUntil = some last → 900 ≤ last := by
    intro last is
    rw [limit] at is
    exact Nat.le_of_eq (Option.some.inj is)
  obtain ⟨k, uri, units, known, built, asked, settles⟩ := exact_payment emptyRow .btc ⟨60, -2⟩
    ⟨9975500, -2⟩ (by decide) (by decide) quoted created "bc1q" 900 none inWindow 1 (by decide)
  have is : k = 6014736 := Option.some.inj (known.symm.trans (by decide +kernel))
  refine ⟨quoted, uri, units, created, built, asked, settles.mpr ?_⟩
  rw [is]
  unfold Payable
  decide

/-- Twenty cents are about 200.49 satoshis; the 200 that the URI asks for are refused. -/
theorem exact_payment_refused : (quoteOf .btc 20).map (fun quoted =>
    let asked := (buildUri .btc "bc1q" quoted.amount).bind (askedUnits .btc "bc1q")
    (asked, asked.map fun units => decideStatus quoted.row (scanOf .btc units 1)
      (minConfirmations quoted.row.asset) (maybeRequote quoted.row 0 none))) =
    some (some 200, some .refundManual) := by
  decide +kernel

end HyruleCloud.PaymentUris
