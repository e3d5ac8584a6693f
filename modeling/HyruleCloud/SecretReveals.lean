import HyruleCloud.OneShot
import HyruleCloud.Protocol
import HyruleCloud.Store

/-!
The two responses that reveal a secret once: `get_operation` of domains/service.py with
the auth code of a transfer out, and `get_crypto_intent_status` of api/routes.py with the
management token of a native intent. A call stops at each of its statements. `decrypt` is
Fernet's, with the configured key.
-/

namespace HyruleCloud.SecretReveals

open Interaction ReadCommitted Function

inductive OperationKind where
  | transferOut | other
  deriving DecidableEq

structure OperationRow where
  ownerAccountId : AccountId
  kind : OperationKind
  secretCiphertext : Option String
  secretExpiresAt : Option Time
  secretRevealedAt : Option Time

structure IntentRow where
  ownerAccountId : Option AccountId
  vmId : Option VmId
  anonTokenCleartext : Option String

structure Account where
  accountId : AccountId
  isAdmin : Bool

/-- The response of `get_operation`, and when it is made. -/
structure OperationResponse where
  operationId : OperationId
  secret : Option String
  time : Time

/-- `managementUrl` holds what `management_url` is made of. -/
structure IntentResponse where
  intentId : IntentId
  managementToken : Option String
  managementUrl : Option (VmId × String)

structure ApiError where
  status : Nat
  detail : String

/-- A secret that has passed the checks, and until when it may be shown. -/
structure DueSecret where
  secret : String
  expiresAt : Time

inductive Stage where
  | idle
  | operationRead (id : OperationId) (reveal : Bool) (row : OperationRow)
  | revealing (id : OperationId) (due : DueSecret) (checkedAt : Time)
  | clearing (id : OperationId)
  | flushed (id : OperationId) (due : Option DueSecret)
  | committed (id : OperationId) (due : Option DueSecret)
  | tokenRead (id : IntentId) (row : IntentRow) (revealed : String)
  | tokenCleared (id : IntentId) (row : IntentRow) (revealed : String) (matched : Bool)
  | tokenCommitted (id : IntentId) (row : IntentRow) (revealed : String) (matched : Bool)

structure RevealDesk where
  now : Time
  operations : LockedTable ProcessId OperationId OperationRow
  intents : LockedTable ProcessId IntentId IntentRow
  stages : ProcessId → Stage
  operationReplies : List (Except ApiError OperationResponse)
  intentReplies : List (Except ApiError IntentResponse)

namespace RevealDesk

variable (desk : RevealDesk)

def goOn (w : ProcessId) (stage : Stage) : RevealDesk :=
  { desk with stages := update desk.stages w stage }

def replyOperation (w : ProcessId) (reply : Except ApiError OperationResponse) : RevealDesk :=
  { desk.goOn w .idle with operationReplies := reply :: desk.operationReplies }

def replyIntent (w : ProcessId) (reply : Except ApiError IntentResponse) : RevealDesk :=
  { desk.goOn w .idle with intentReplies := reply :: desk.intentReplies }

end RevealDesk

def serverError : ApiError := ⟨500, "Internal Server Error"⟩

/-! `get_operation` -/

def readOperation (w : ProcessId) (owner : AccountId) (id : OperationId) (reveal : Bool)
    (desk : RevealDesk) : RevealDesk :=
  match desk.operations.view w id with
  | none => desk.replyOperation w (.error ⟨404, "Domain operation not found."⟩)
  | some row =>
    if row.ownerAccountId ≠ owner then
      desk.replyOperation w (.error ⟨404, "Domain operation not found."⟩)
    else desk.goOn w (.operationRead id reveal row)

def stored (text : Option String) : Bool := text.any (· ≠ "")

def checkSecret (decrypt : String → Option String) (w : ProcessId) (id : OperationId)
    (reveal : Bool) (row : OperationRow) (desk : RevealDesk) : RevealDesk :=
  if reveal && row.kind = .transferOut && stored row.secretCiphertext &&
      row.secretRevealedAt.isNone && row.secretExpiresAt.any (desk.now < ·) then
    match row.secretCiphertext.bind decrypt, row.secretExpiresAt with
    | some secret, some expiresAt => desk.goOn w (.revealing id ⟨secret, expiresAt⟩ desk.now)
    | _, _ => desk.replyOperation w (.ok ⟨id, none, desk.now⟩)
  else if stored row.secretCiphertext && row.secretExpiresAt.all (· ≤ desk.now) then
    desk.goOn w (.clearing id)
  else desk.replyOperation w (.ok ⟨id, none, desk.now⟩)

/-- The UPDATE of the columns that the session has changed, by the primary key. -/
def flushOperation (w : ProcessId) (id : OperationId) (due : Option DueSecret)
    (change : OperationRow → OperationRow) (desk : RevealDesk) : RevealDesk :=
  if desk.operations.waits w [id] then desk
  else match desk.operations.view w id with
    | none => { desk with operations := desk.operations.rollback w }.replyOperation w
        (.error serverError)
    | some row =>
      { desk with operations := desk.operations.write w [id] fun _ => some (change row) }.goOn w
        (.flushed id due)

def markRevealed (checkedAt : Time) (row : OperationRow) : OperationRow :=
  { row with secretRevealedAt := some checkedAt, secretCiphertext := none }

def clearExpired (row : OperationRow) : OperationRow := { row with secretCiphertext := none }

def commitOperation (w : ProcessId) (id : OperationId) (due : Option DueSecret) (fate : Fate)
    (desk : RevealDesk) : RevealDesk :=
  match fate with
  | .done => { desk with operations := desk.operations.commit w }.goOn w (.committed id due)
  | .failed => { desk with operations := desk.operations.rollback w }.replyOperation w
      (.error serverError)
  | .lost => { desk with operations := desk.operations.commit w }.replyOperation w
      (.error serverError)

def refreshOperation (w : ProcessId) (id : OperationId) (due : Option DueSecret)
    (desk : RevealDesk) : RevealDesk :=
  match desk.operations.view w id with
  | none => desk.replyOperation w (.error serverError)
  | some _ => desk.replyOperation w (.ok ⟨id, due.map (·.secret), desk.now⟩)

/-! `get_crypto_intent_status` -/

/-- `_require_resource_owner` -/
def mayRead (owner : Option AccountId) (account : Option Account) : Bool :=
  match owner, account with
  | none, _ => true
  | some _, none => false
  | some owner, some account => account.accountId = owner || account.isAdmin

/-- `_intent_to_response`, with the token that is in the session's row. -/
def intentToResponse (id : IntentId) (row : IntentRow) (token : Option String) : IntentResponse where
  intentId := id
  managementToken := token
  managementUrl := match row.vmId, token with
    | some vm, some token => if token = "" then none else some (vm, token)
    | _, _ => none

def readIntent (w : ProcessId) (account : Option Account) (id : IntentId) (desk : RevealDesk) :
    RevealDesk :=
  match desk.intents.view w id with
  | none => desk.replyIntent w (.error ⟨404, "Intent not found"⟩)
  | some row =>
    if mayRead row.ownerAccountId account then
      match row.anonTokenCleartext with
      | none => desk.replyIntent w (.ok (intentToResponse id row none))
      | some revealed => desk.goOn w (.tokenRead id row revealed)
    else desk.replyIntent w (.error ⟨404, "Intent not found"⟩)

def clearToken (w : ProcessId) (id : IntentId) (row : IntentRow) (revealed : String)
    (desk : RevealDesk) : RevealDesk :=
  if desk.intents.waits w [id] then desk
  else match desk.intents.view w id with
    | none => desk.goOn w (.tokenCleared id row revealed false)
    | some current =>
      if current.anonTokenCleartext.isSome then
        let cleared := { current with anonTokenCleartext := none }
        { desk with intents := desk.intents.write w [id] fun _ => some cleared }.goOn w
          (.tokenCleared id row revealed true)
      else desk.goOn w (.tokenCleared id row revealed false)

def commitToken (w : ProcessId) (id : IntentId) (row : IntentRow) (revealed : String)
    (matched : Bool) (fate : Fate) (desk : RevealDesk) : RevealDesk :=
  match fate with
  | .done => { desk with intents := desk.intents.commit w }.goOn w
      (.tokenCommitted id row revealed matched)
  | .failed => { desk with intents := desk.intents.rollback w }.replyIntent w (.error serverError)
  | .lost => { desk with intents := desk.intents.commit w }.replyIntent w (.error serverError)

inductive RevealStep where
  | tick
  | readOperation (w : ProcessId) (owner : AccountId) (id : OperationId) (reveal : Bool)
  | check (w : ProcessId)
  | flush (w : ProcessId)
  | commit (w : ProcessId) (fate : Fate)
  | refresh (w : ProcessId)
  | readIntent (w : ProcessId) (account : Option Account) (id : IntentId)
  | clearToken (w : ProcessId)
  | answerToken (w : ProcessId)

def revealStep (decrypt : String → Option String) (step : RevealStep) (desk : RevealDesk) :
    RevealDesk :=
  match step with
  | .tick => { desk with now := desk.now + 1 }
  | .readOperation w owner id reveal => match desk.stages w with
      | .idle => readOperation w owner id reveal desk
      | _ => desk
  | .check w => match desk.stages w with
      | .operationRead id reveal row => checkSecret decrypt w id reveal row desk
      | _ => desk
  | .flush w => match desk.stages w with
      | .revealing id due checkedAt => flushOperation w id (some due) (markRevealed checkedAt) desk
      | .clearing id => flushOperation w id none clearExpired desk
      | _ => desk
  | .commit w fate => match desk.stages w with
      | .flushed id due => commitOperation w id due fate desk
      | .tokenCleared id row revealed matched => commitToken w id row revealed matched fate desk
      | _ => desk
  | .refresh w => match desk.stages w with
      | .committed id due => refreshOperation w id due desk
      | _ => desk
  | .readIntent w account id => match desk.stages w with
      | .idle => readIntent w account id desk
      | _ => desk
  | .clearToken w => match desk.stages w with
      | .tokenRead id row revealed => clearToken w id row revealed desk
      | _ => desk
  | .answerToken w => match desk.stages w with
      | .tokenCommitted id row revealed matched => desk.replyIntent w
          (.ok (intentToResponse id row (if matched then some revealed else none)))
      | _ => desk

def reveals (decrypt : String → Option String) : Protocol RevealDesk RevealStep where
  step := revealStep decrypt
  may _ _ := True

def shownOperations (replies : List (Except ApiError OperationResponse)) : List OperationId :=
  replies.filterMap fun reply => match reply with
    | .ok response => response.secret.map fun _ => response.operationId
    | .error _ => none

def shownIntents (replies : List (Except ApiError IntentResponse)) : List IntentId :=
  replies.filterMap fun reply => match reply with
    | .ok response => response.managementToken.map fun _ => response.intentId
    | .error _ => none

/-- Each secret is in one response at most, none is in a response after its expiry, and no
row stores a secret that has been in one. -/
structure RevealedOnce (desk : RevealDesk) : Prop where
  operationOnce : (shownOperations desk.operationReplies).Nodup
  operationCleared : ∀ id ∈ shownOperations desk.operationReplies,
    ∃ row, desk.operations.committed id = some row ∧ row.secretCiphertext = none
  timely : ∀ response, .ok response ∈ desk.operationReplies → response.secret.isSome →
    ∃ row expiresAt, desk.operations.committed response.operationId = some row ∧
      row.secretExpiresAt = some expiresAt ∧ response.time < expiresAt
  intentOnce : (shownIntents desk.intentReplies).Nodup
  intentCleared : ∀ id ∈ shownIntents desk.intentReplies,
    ∃ row, desk.intents.committed id = some row ∧ row.anonTokenCleartext = none

structure RevealStart (desk : RevealDesk) : Prop where
  stages : ∀ w, desk.stages w = .idle
  operations : ∀ id, desk.operations.drafts id = none
  intents : ∀ id, desk.intents.drafts id = none
  operationReplies : desk.operationReplies = []
  intentReplies : desk.intentReplies = []

/-- The UPDATE that marks a secret as revealed finds it unrevealed, and the clock has not
reached the expiry when the response is made. -/
def FirstToReveal (step : RevealStep) (desk : RevealDesk) : Prop :=
  match step with
  | .flush w => match desk.stages w with
      | .revealing id _ _ => ∀ row, desk.operations.view w id = some row →
          row.secretRevealedAt = none
      | _ => True
  | .refresh w => match desk.stages w with
      | .committed _ (some due) => desk.now < due.expiresAt
      | _ => True
  | _ => True

def firstReveals (decrypt : String → Option String) : Protocol RevealDesk RevealStep where
  step := revealStep decrypt
  may := FirstToReveal

def Stage.operationClaim : Stage → Claim OperationId
  | .flushed id (some _) => .drafted id
  | .committed id (some _) => .won id
  | _ => .none

def Stage.intentClaim : Stage → Claim IntentId
  | .tokenCleared id _ _ true => .drafted id
  | .tokenCommitted id _ _ true => .won id
  | _ => .none

def OperationRow.spent (row : OperationRow) : Bool :=
  row.secretRevealedAt.isSome && row.secretCiphertext.isNone

def IntentRow.spent (row : IntentRow) : Bool := row.anonTokenCleartext.isNone

def ExpiresAt (desk : RevealDesk) (id : OperationId) (expiresAt : Time) : Prop :=
  (desk.operations.committed id).map (·.secretExpiresAt) = some (some expiresAt)

def StageTimely (desk : RevealDesk) : Stage → Prop
  | .operationRead id _ row =>
    (desk.operations.committed id).map (·.secretExpiresAt) = some row.secretExpiresAt
  | .revealing id due _ => ExpiresAt desk id due.expiresAt
  | .flushed id (some due) | .committed id (some due) => ExpiresAt desk id due.expiresAt
  | _ => True

structure RevealsSafe (desk : RevealDesk) : Prop where
  operations : OneShot OperationRow.spent desk.operations
    (fun w => (desk.stages w).operationClaim) (shownOperations desk.operationReplies)
  intents : OneShot IntentRow.spent desk.intents
    (fun w => (desk.stages w).intentClaim) (shownIntents desk.intentReplies)
  expiry : Unchanging OperationRow.secretExpiresAt desk.operations
  stages : ∀ w, StageTimely desk (desk.stages w)
  timely : ∀ response, .ok response ∈ desk.operationReplies → response.secret.isSome →
    ∃ expiresAt, ExpiresAt desk response.operationId expiresAt ∧ response.time < expiresAt

variable {decrypt : String → Option String}

variable {reveal matched : Bool}

section Safety

variable {desk after : RevealDesk} {w : ProcessId} {stage : Stage}

theorem claim_others {κ : Type} (claim : Stage → Claim κ) (stage : Stage) (other : ProcessId)
    (apart : other ≠ w) :
    claim ((desk.goOn w stage).stages other) = claim (desk.stages other) := by
  simp only [RevealDesk.goOn, update_of_ne apart]

theorem claim_own {κ : Type} (claim : Stage → Claim κ) (stage : Stage) :
    claim ((desk.goOn w stage).stages w) = claim stage := by
  simp only [RevealDesk.goOn, update_self]

variable (safe : RevealsSafe desk)
include safe

theorem operations_goOn (free : stage.operationClaim = .none) :
    OneShot OperationRow.spent desk.operations
      (fun v => ((desk.goOn w stage).stages v).operationClaim)
      (shownOperations desk.operationReplies) := by
  apply safe.operations.goes_on (claim_others Stage.operationClaim stage)
  exact Or.inr ((claim_own Stage.operationClaim stage).trans free)

theorem intents_goOn (free : stage.intentClaim = .none) :
    OneShot IntentRow.spent desk.intents
      (fun v => ((desk.goOn w stage).stages v).intentClaim)
      (shownIntents desk.intentReplies) := by
  apply safe.intents.goes_on (claim_others Stage.intentClaim stage)
  exact Or.inr ((claim_own Stage.intentClaim stage).trans free)

omit safe

def SameExpiries (desk after : RevealDesk) : Prop :=
  ∀ id, (after.operations.committed id).map (·.secretExpiresAt) =
    (desk.operations.committed id).map (·.secretExpiresAt)

theorem stageTimely_same (same : SameExpiries desk after) (timely : StageTimely desk stage) :
    StageTimely after stage := by
  cases stage with
  | operationRead id | revealing id => exact (same id).trans timely
  | flushed id due | committed id due =>
    cases due with
    | none => trivial
    | some due => exact (same id).trans timely
  | idle | clearing | tokenRead | tokenCleared | tokenCommitted => trivial

section
variable (safe : RevealsSafe desk)
include safe

theorem stages_same (same : SameExpiries desk after)
    (stages : after.stages = update desk.stages w stage)
    (own : StageTimely desk stage) (v : ProcessId) : StageTimely after (after.stages v) := by
  rw [stages]
  by_cases acting : v = w
  · rw [acting, update_self]
    exact stageTimely_same same own
  · rw [update_of_ne acting]
    exact stageTimely_same same (safe.stages v)

theorem timely_same (same : SameExpiries desk after)
    {response : OperationResponse} (listed : .ok response ∈ desk.operationReplies)
    (reveals : response.secret.isSome) :
    ∃ expiresAt, ExpiresAt after response.operationId expiresAt ∧ response.time < expiresAt := by
  obtain ⟨expiresAt, has, early⟩ := safe.timely response listed reveals
  exact ⟨expiresAt, (same response.operationId).trans has, early⟩

theorem commit_expiries (w : ProcessId) :
    SameExpiries desk { desk with operations := desk.operations.commit w } := by
  intro id
  exact safe.expiry.view w id

theorem goOn_safe (own : StageTimely desk stage)
    (operation : stage.operationClaim = .none) (intent : stage.intentClaim = .none) :
    RevealsSafe (desk.goOn w stage) := by
  constructor
  · exact operations_goOn safe operation
  · exact intents_goOn safe intent
  · exact safe.expiry
  · exact stages_same safe (fun _ => rfl) rfl own
  · exact fun response => timely_same safe fun _ => rfl

theorem idle_safe : RevealsSafe (desk.goOn w .idle) :=
  goOn_safe safe True.intro rfl rfl

end

theorem replyOperation_safe {reply : Except ApiError OperationResponse}
    (moved : RevealsSafe (desk.goOn w .idle))
    (plain : ∀ response, reply = .ok response → response.secret = none) :
    RevealsSafe (desk.replyOperation w reply) := by
  have unshown : shownOperations (reply :: desk.operationReplies) =
      shownOperations desk.operationReplies := by
    apply List.filterMap_cons_none
    cases reply with
    | error error => rfl
    | ok response => simp only [plain response rfl, Option.map_none]
  constructor
  · have kept := moved.operations
    rw [show (desk.goOn w .idle).operationReplies = desk.operationReplies from rfl,
      ← unshown] at kept
    exact kept
  · exact moved.intents
  · exact moved.expiry
  · exact moved.stages
  · intro response listed reveals
    rcases List.mem_cons.mp listed with new | before
    · rw [plain response new.symm] at reveals
      cases reveals
    · exact moved.timely response before reveals

theorem replyIntent_safe {reply : Except ApiError IntentResponse}
    (moved : RevealsSafe (desk.goOn w .idle))
    (plain : ∀ response, reply = .ok response → response.managementToken = none) :
    RevealsSafe (desk.replyIntent w reply) := by
  have unshown : shownIntents (reply :: desk.intentReplies) = shownIntents desk.intentReplies := by
    apply List.filterMap_cons_none
    cases reply with
    | error error => rfl
    | ok response => simp only [plain response rfl, Option.map_none]
  constructor
  · exact moved.operations
  · have kept := moved.intents
    rw [show (desk.goOn w .idle).intentReplies = desk.intentReplies from rfl,
      ← unshown] at kept
    exact kept
  · exact moved.expiry
  · exact moved.stages
  · exact moved.timely

/-! `get_operation` -/

include safe

theorem readOperation_safe {owner : AccountId} {id : OperationId}
    : RevealsSafe (readOperation w owner id reveal desk) := by
  unfold readOperation
  split
  · exact replyOperation_safe (idle_safe safe) nofun
  rename_i row present
  split
  · exact replyOperation_safe (idle_safe safe) nofun
  refine goOn_safe safe ?_ rfl rfl
  have same := safe.expiry.view w id
  rw [present] at same
  exact same.symm

theorem checkSecret_safe {id : OperationId}
    {row : OperationRow}
    (runs : desk.stages w = .operationRead id reveal row) :
    RevealsSafe (checkSecret decrypt w id reveal row desk) := by
  have own := safe.stages w
  rw [runs] at own
  have plain : RevealsSafe (desk.replyOperation w (.ok ⟨id, none, desk.now⟩)) := by
    apply replyOperation_safe (idle_safe safe)
    intro response is
    cases is
    rfl
  unfold checkSecret
  split
  · split
    · rename_i secret expiresAt _ has
      exact goOn_safe safe (Eq.trans own (congrArg some has)) rfl rfl
    · exact plain
  · split
    · exact goOn_safe safe True.intro rfl rfl
    · exact plain

theorem rollbackOperation_safe :
    RevealsSafe ({ desk with operations := desk.operations.rollback w }.goOn w .idle) := by
  constructor
  · exact safe.operations.rollback_keeps (claim_others Stage.operationClaim .idle)
      (claim_own Stage.operationClaim .idle)
  · exact intents_goOn safe rfl
  · exact safe.expiry.rollback w
  · exact stages_same safe (fun _ => rfl) rfl True.intro
  · exact safe.timely

omit safe

section
variable {id : OperationId} {due : Option DueSecret}

include safe

theorem flushOperation_safe {change : OperationRow → OperationRow}
    (own : StageTimely desk (.flushed id due))
    (expiry : ∀ row, (change row).secretExpiresAt = row.secretExpiresAt)
    (stays : ∀ row : OperationRow, row.spent = true → (change row).spent = true)
    (claims : due = none ∨ ∀ row, desk.operations.view w id = some row →
      (change row).spent = true ∧ row.secretRevealedAt = none) :
    RevealsSafe (flushOperation w id due change desk) := by
  unfold flushOperation
  split
  · exact safe
  rename_i waits
  have free : desk.operations.waits w [id] = false := Bool.not_eq_true _ ▸ waits
  split
  · exact replyOperation_safe (rollbackOperation_safe safe) nofun
  rename_i row present
  -- a spent row is spent in every view of it
  have spends : SpentAt OperationRow.spent desk.operations id → row.spent = true := by
    intro spentAt
    obtain ⟨viewed, is, spent⟩ : SpentAt OperationRow.spent (desk.operations.commit w) id :=
      safe.operations.commit_spent spentAt
    cases present.symm.trans is
    exact spent
  constructor
  · apply safe.operations.write_keeps free (claim_others Stage.operationClaim (.flushed id due))
    · rcases claims with none | reveals
      · subst none
        exact Or.inl (claim_own Stage.operationClaim (.flushed id .none))
      · cases due with
        | none => exact Or.inl (claim_own Stage.operationClaim (.flushed id none))
        | some due =>
          obtain ⟨spent, unrevealed⟩ := reveals row present
          refine Or.inr ⟨claim_own Stage.operationClaim (.flushed id (some due)), spent, ?_⟩
          intro spentAt
          have revealed := spends spentAt
          simp [OperationRow.spent, unrevealed] at revealed
    · exact fun spentAt => stays row (spends spentAt)
  · exact intents_goOn safe rfl
  · apply safe.expiry.write free
    have same := safe.expiry.view w id
    rw [present] at same
    rw [expiry row]
    exact same
  · exact stages_same safe (fun _ => rfl) rfl own
  · exact safe.timely

theorem commitOperation_safe {fate : Fate}
    (runs : desk.stages w = .flushed id due) :
    RevealsSafe (commitOperation w id due fate desk) := by
  have own := safe.stages w
  rw [runs] at own
  have commits : ∀ stage : Stage, StageTimely desk stage → stage.intentClaim = .none →
      (stage.operationClaim = .none ∨ ∃ id, (desk.stages w).operationClaim = .drafted id ∧
        stage.operationClaim = .won id) →
      RevealsSafe ({ desk with operations := desk.operations.commit w }.goOn w stage) := by
    intro stage timely intent claims
    constructor
    · apply safe.operations.commit_keeps (claim_others Stage.operationClaim stage)
      rcases claims with none | ⟨key, drafts, wins⟩
      · exact Or.inl ((claim_own Stage.operationClaim stage).trans none)
      · exact Or.inr ⟨key, drafts, (claim_own Stage.operationClaim stage).trans wins⟩
    · exact intents_goOn safe intent
    · exact safe.expiry.commit w
    · exact stages_same safe (commit_expiries safe w) rfl timely
    · exact fun response => timely_same safe (commit_expiries safe w)
  cases fate with
  | done =>
    cases due with
    | none => exact commits _ True.intro rfl (Or.inl rfl)
    | some due =>
      refine commits _ own rfl (Or.inr ⟨id, ?_, rfl⟩)
      rw [runs]
      rfl
  | failed => exact replyOperation_safe (rollbackOperation_safe safe) nofun
  | lost => exact replyOperation_safe (commits .idle True.intro rfl (Or.inl rfl)) nofun

theorem refreshOperation_safe (runs : desk.stages w = .committed id due)
    (early : ∀ secret, due = some secret → desk.now < secret.expiresAt) :
    RevealsSafe (refreshOperation w id due desk) := by
  have own := safe.stages w
  rw [runs] at own
  unfold refreshOperation
  split
  · exact replyOperation_safe (idle_safe safe) nofun
  cases due with
  | none =>
    apply replyOperation_safe (idle_safe safe)
    intro response is
    cases is
    rfl
  | some due =>
    constructor
    · refine safe.operations.show_keeps ?_ (claim_others Stage.operationClaim .idle)
        (claim_own Stage.operationClaim .idle)
      simp only [runs, Stage.operationClaim]
    · exact intents_goOn safe rfl
    · exact safe.expiry
    · exact stages_same safe (fun _ => rfl) rfl True.intro
    · intro response listed reveals
      rcases List.mem_cons.mp listed with new | before
      · cases new
        exact ⟨due.expiresAt, own, early due rfl⟩
      · exact safe.timely response before reveals

omit safe

end

/-! `get_crypto_intent_status` -/

theorem readIntent_safe {account : Option Account} {id : IntentId} (safe : RevealsSafe desk) :
    RevealsSafe (readIntent w account id desk) := by
  unfold readIntent
  split
  · exact replyIntent_safe (idle_safe safe) nofun
  split
  · split
    · apply replyIntent_safe (idle_safe safe)
      intro response is
      cases is
      rfl
    · exact goOn_safe safe True.intro rfl rfl
  · exact replyIntent_safe (idle_safe safe) nofun

section
variable {id : IntentId} {row : IntentRow} {revealed : String}

include safe

theorem clearToken_safe : RevealsSafe (clearToken w id row revealed desk) := by
  unfold clearToken
  split
  · exact safe
  rename_i waits
  have free : desk.intents.waits w [id] = false := Bool.not_eq_true _ ▸ waits
  split
  · exact goOn_safe safe True.intro rfl rfl
  rename_i current present
  split
  · rename_i matched
    constructor
    · exact operations_goOn safe rfl
    · apply safe.intents.write_keeps free
        (claim_others Stage.intentClaim (.tokenCleared id row revealed true))
      · refine Or.inr ⟨claim_own Stage.intentClaim (.tokenCleared id row revealed true), rfl, ?_⟩
        intro spentAt
        obtain ⟨viewed, is, spent⟩ : SpentAt IntentRow.spent (desk.intents.commit w) id :=
          safe.intents.commit_spent spentAt
        cases present.symm.trans is
        unfold IntentRow.spent at spent
        rw [Option.isNone_iff_eq_none] at spent
        rw [spent] at matched
        cases matched
      · exact fun _ => rfl
    · exact safe.expiry
    · exact stages_same safe (fun _ => rfl) rfl True.intro
    · exact safe.timely
  · exact goOn_safe safe True.intro rfl rfl

theorem commitToken_safe {fate : Fate}
    (runs : desk.stages w = .tokenCleared id row revealed matched) :
    RevealsSafe (commitToken w id row revealed matched fate desk) := by
  have commits : ∀ stage : Stage, StageTimely desk stage → stage.operationClaim = .none →
      (stage.intentClaim = .none ∨ ∃ id, (desk.stages w).intentClaim = .drafted id ∧
        stage.intentClaim = .won id) →
      RevealsSafe ({ desk with intents := desk.intents.commit w }.goOn w stage) := by
    intro stage timely operation claims
    constructor
    · exact operations_goOn safe operation
    · apply safe.intents.commit_keeps (claim_others Stage.intentClaim stage)
      rcases claims with none | ⟨key, drafts, wins⟩
      · exact Or.inl ((claim_own Stage.intentClaim stage).trans none)
      · exact Or.inr ⟨key, drafts, (claim_own Stage.intentClaim stage).trans wins⟩
    · exact safe.expiry
    · exact stages_same safe (fun _ => rfl) rfl timely
    · exact safe.timely
  cases fate with
  | done =>
    cases matched with
    | false => exact commits _ True.intro rfl (Or.inl rfl)
    | true =>
      refine commits _ True.intro rfl (Or.inr ⟨id, ?_, rfl⟩)
      rw [runs]
      rfl
  | failed =>
    refine replyIntent_safe ?_ nofun
    constructor
    · exact operations_goOn safe rfl
    · exact safe.intents.rollback_keeps (claim_others Stage.intentClaim .idle)
        (claim_own Stage.intentClaim .idle)
    · exact safe.expiry
    · exact stages_same safe (fun _ => rfl) rfl True.intro
    · exact safe.timely
  | lost => exact replyIntent_safe (commits .idle True.intro rfl (Or.inl rfl)) nofun

theorem answerToken_safe (runs : desk.stages w = .tokenCommitted id row revealed matched) :
    RevealsSafe (desk.replyIntent w
      (.ok (intentToResponse id row (if matched then some revealed else none)))) := by
  cases matched with
  | false =>
    apply replyIntent_safe (idle_safe safe)
    intro response is
    cases is
    rfl
  | true =>
    constructor
    · exact operations_goOn safe rfl
    · refine safe.intents.show_keeps ?_ (claim_others Stage.intentClaim .idle)
        (claim_own Stage.intentClaim .idle)
      simp only [runs, Stage.intentClaim, intentToResponse]
    · exact safe.expiry
    · exact stages_same safe (fun _ => rfl) rfl True.intro
    · exact safe.timely

omit safe

end

theorem revealStep_safe (step : RevealStep)
    (safe : RevealsSafe desk) (first : FirstToReveal step desk) :
    RevealsSafe (revealStep decrypt step desk) := by
  cases step with
  | tick =>
    constructor
    · exact safe.operations
    · exact safe.intents
    · exact safe.expiry
    · exact fun v => stageTimely_same (fun _ => rfl) (safe.stages v)
    · exact safe.timely
  | readOperation w owner id reveal =>
    simp only [revealStep]
    split
    · exact readOperation_safe safe
    · exact safe
  | check w =>
    simp only [revealStep]
    split
    · exact checkSecret_safe safe ‹_›
    · exact safe
  | flush w =>
    have own := safe.stages w
    simp only [revealStep]
    simp only [FirstToReveal] at first
    split
    · rename_i id due checkedAt runs
      rw [runs] at own first
      refine flushOperation_safe safe own (fun _ => rfl) (fun _ _ => rfl) (Or.inr ?_)
      exact fun row present => ⟨rfl, first row present⟩
    · refine flushOperation_safe safe True.intro (fun _ => rfl) ?_ (Or.inl rfl)
      intro row spent
      simp only [OperationRow.spent, Bool.and_eq_true] at spent
      simp [OperationRow.spent, clearExpired, spent.1]
    · exact safe
  | commit w fate =>
    simp only [revealStep]
    split
    · exact commitOperation_safe safe ‹_›
    · exact commitToken_safe safe ‹_›
    · exact safe
  | refresh w =>
    simp only [revealStep]
    simp only [FirstToReveal] at first
    split
    · rename_i id due runs
      rw [runs] at first
      apply refreshOperation_safe safe runs
      intro secret is
      subst is
      exact first
    · exact safe
  | readIntent w account id =>
    simp only [revealStep]
    split
    · exact readIntent_safe safe
    · exact safe
  | clearToken w =>
    simp only [revealStep]
    split
    · exact clearToken_safe safe
    · exact safe
  | answerToken w =>
    simp only [revealStep]
    split
    · exact answerToken_safe safe ‹_›
    · exact safe

end Safety

variable {desk : RevealDesk}

theorem start_safe (start : RevealStart desk) : RevealsSafe desk := by
  constructor
  · rw [start.operationReplies]
    exact OneShot.begins (fun w => by rw [start.stages w]; rfl) start.operations
  · rw [start.intentReplies]
    exact OneShot.begins (fun w => by rw [start.stages w]; rfl) start.intents
  · intro id w draft held
    rw [start.operations id] at held
    cases held
  · intro w
    rw [start.stages w]
    trivial
  · intro response listed
    rw [start.operationReplies] at listed
    cases listed

theorem safe_once (safe : RevealsSafe desk) : RevealedOnce desk := by
  constructor
  · exact safe.operations.once
  · intro id shown
    obtain ⟨row, present, spent⟩ := safe.operations.told id shown
    refine ⟨row, present, ?_⟩
    simp only [OperationRow.spent, Bool.and_eq_true] at spent
    exact Option.isNone_iff_eq_none.mp spent.2
  · intro response listed reveals
    obtain ⟨expiresAt, has, early⟩ := safe.timely response listed reveals
    obtain ⟨row, present, is⟩ := Option.map_eq_some_iff.mp has
    exact ⟨row, expiresAt, present, is, early⟩
  · exact safe.intents.once
  · intro id shown
    obtain ⟨row, present, spent⟩ := safe.intents.told id shown
    exact ⟨row, present, Option.isNone_iff_eq_none.mp spent⟩

/-- In every run in which each UPDATE that marks a secret as revealed finds it unrevealed,
both endpoints reveal once; the management tokens need no condition. -/
theorem secrets_revealed_once (decrypt : String → Option String) (desk : RevealDesk)
    (steps : List RevealStep) (start : RevealStart desk)
    (admitted : (firstReveals decrypt).admits desk steps) :
    RevealedOnce ((firstReveals decrypt).run desk steps) := by
  apply safe_once
  exact @Protocol.run_keeps _ _ (firstReveals decrypt) RevealsSafe
    (fun step _ safe first => revealStep_safe step safe first) steps desk (start_safe start)
    admitted

def transferOut : OperationRow := ⟨3, .transferOut, some "cipher", some 10, none⟩

def provisionedIntent : IntentRow := ⟨none, some ⟨.intent 5, 0⟩, some "token"⟩

def revealStart : RevealDesk where
  now := 0
  operations := ⟨[7], fun id => if id = 7 then some transferOut else none, fun _ => none⟩
  intents := ⟨[5], fun id => if id = 5 then some provisionedIntent else none, fun _ => none⟩
  stages _ := .idle
  operationReplies := []
  intentReplies := []

theorem revealStart_start : RevealStart revealStart where
  stages _ := rfl
  operations _ := rfl
  intents _ := rfl
  operationReplies := rfl
  intentReplies := rfl

def plainFernet (text : String) : Option String := if text = "cipher" then some "code" else none

def twoReaders : List RevealStep :=
  [.readOperation 0 3 7 true, .readOperation 1 3 7 true, .check 0, .check 1,
    .flush 0, .commit 0 .done, .refresh 0, .flush 1, .commit 1 .done, .refresh 1]

/-- Both responses have the auth code. -/
theorem auth_code_revealed_twice :
    ¬ RevealedOnce ((reveals plainFernet).run revealStart twoReaders) := by
  have shown : shownOperations ((reveals plainFernet).run revealStart twoReaders).operationReplies =
      [7, 7] := by decide +kernel
  intro once
  have distinct := once.operationOnce
  rw [shown] at distinct
  exact absurd distinct (by decide)

/-- One call after the other for the auth code, and two at once for the management token. -/
def readersInTurn : List RevealStep :=
  [.readOperation 0 3 7 true, .check 0, .flush 0, .commit 0 .done, .refresh 0,
    .readOperation 1 3 7 true, .check 1,
    .readIntent 0 none 5, .readIntent 1 none 5, .clearToken 0, .clearToken 1, .commit 0 .done,
    .clearToken 1, .commit 1 .done, .answerToken 0, .answerToken 1]

theorem readers_in_turn_once :
    RevealedOnce ((firstReveals plainFernet).run revealStart readersInTurn) := by
  apply secrets_revealed_once plainFernet revealStart readersInTurn revealStart_start
  refine ⟨trivial, trivial, ?_, trivial, ?_, trivial, trivial, trivial, trivial, trivial, trivial,
    trivial, trivial, trivial, trivial, trivial, trivial⟩
  · intro row present
    cases present
    rfl
  · exact Nat.zero_lt_succ 9

end HyruleCloud.SecretReveals
