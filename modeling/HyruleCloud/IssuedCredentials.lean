import HyruleCloud.AccountAccess

/-!
What a run of `access` keeps. Sessions and keys are compared with the count of disablings of
their account; a recovery code leaves its account with its use, and a challenge is locked
from the look at it to its use.
-/

namespace HyruleCloud.AccountAccess

open Interaction AccessDesk Function

structure IssuedSafe (sessions : Token → Option SessionRow) (keys : KeyId → Option ApiKeyRow)
    (disables : AccountId → Nat) : Prop where
  proven : ∀ token row, sessions token = some row → row.provenAt = disables row.account
  active : ∀ id row, keys id = some row → row.revoked = false →
    row.provenAt = disables row.account
  issuers : ∀ id row, keys id = some row → row.issuerRevoked = false

structure CodesSafe (accounts : AccountId → Option AccountRow) (changes : List ChangeProof)
    (drawn : Nat) : Prop where
  current : ∀ account row code, accounts account = some row → row.recoveryCode = some code →
    code < drawn ∧ .code account code ∉ changes
  spent : ∀ account code, .code account code ∈ changes → code < drawn

structure ChallengesSafe (challenges : Nonce → Option ChallengeRow)
    (holders : Nonce → Option ProcessId) (stages : ProcessId → Option Stage)
    (changes : List ChangeProof) (drawn : Nat) : Prop where
  issued : ∀ nonce row, challenges nonce = some row → nonce < drawn
  spent : ∀ nonce, .challenge nonce ∈ changes →
    ∃ row, challenges nonce = some row ∧ row.used = true
  held : ∀ w nonce newPassword, stages w = some (.recoverWallet nonce newPassword) →
    holders nonce = some w ∧ ∃ row, challenges nonce = some row ∧ row.used = false

structure AccessSafe (desk : AccessDesk) : Prop where
  issued : IssuedSafe desk.sessions desk.keys desk.disables
  codes : CodesSafe desk.accounts desk.changes desk.drawn
  challenges : ChallengesSafe desk.challenges desk.holders desk.stages desk.changes desk.drawn
  spent : (desk.changes.filter isSpent).Nodup

variable {provenAt : Nat} {row : AccountRow}

variable {stage : Option Stage} {newPassword : String}

section Parts
variable {sessions : Token → Option SessionRow} {keys : KeyId → Option ApiKeyRow}
  {disables : AccountId → Nat} {accounts : AccountId → Option AccountRow}
  {changes changes' : List ChangeProof} {drawn drawn' : Nat} {account : AccountId}
  {challenges : Nonce → Option ChallengeRow} {holders : Nonce → Option ProcessId}
  {stages : ProcessId → Option Stage} {w : ProcessId}

section
variable (issued : IssuedSafe sessions keys disables)
include issued

theorem session_issued (proven : provenAt = disables account) (token : Token) :
    IssuedSafe (update sessions token (some ⟨account, provenAt⟩)) keys disables := by
  refine ⟨fun other row found => ?_, issued.active, issued.issuers⟩
  rcases update_cases found with ⟨rfl, ⟨⟩⟩ | ⟨_, found⟩
  · exact proven
  · exact issued.proven other row found

theorem key_issued (scopes : List String) (proven : provenAt = disables account) (id : KeyId) :
    IssuedSafe sessions
      (update keys id (some ⟨account, scopes, false, provenAt, false⟩)) disables := by
  constructor
  · exact issued.proven
  · intro other row found active
    rcases update_cases found with ⟨rfl, ⟨⟩⟩ | ⟨_, found⟩
    · exact proven
    · exact issued.active other row found active
  · intro other row found
    rcases update_cases found with ⟨rfl, ⟨⟩⟩ | ⟨_, found⟩
    · rfl
    · exact issued.issuers other row found

theorem fewer_sessions {left : Token → Option SessionRow}
    (fewer : ∀ token row, left token = some row → sessions token = some row) :
    IssuedSafe left keys disables :=
  ⟨fun token row found => issued.proven token row (fewer token row found), issued.active,
    issued.issuers⟩

theorem fewer_keys {left : KeyId → Option ApiKeyRow}
    (fewer : ∀ id row, left id = some row →
      ∃ before, keys id = some before ∧ (row = before ∨ row = { before with revoked := true })) :
    IssuedSafe sessions left disables := by
  refine ⟨issued.proven, fun id row found active => ?_, fun id row found => ?_⟩
  · obtain ⟨before, stored, rfl | rfl⟩ := fewer id row found
    · exact issued.active id row stored active
    · cases active
  · obtain ⟨before, stored, rfl | rfl⟩ := fewer id row found
    · exact issued.issuers id row stored
    · exact issued.issuers id before stored

theorem disabled_issued (count : Nat)
    (without : ∀ token row, sessions token = some row → row.account ≠ account)
    (revoked : ∀ id row, keys id = some row → row.account = account → row.revoked = true) :
    IssuedSafe sessions keys (update disables account count) := by
  refine ⟨fun token row found => ?_, fun id row found active => ?_, issued.issuers⟩
  · rw [update_of_ne (without token row found)]
    exact issued.proven token row found
  · have other : row.account ≠ account := by
      intro same
      rw [revoked id row found same] at active
      cases active
    rw [update_of_ne other]
    exact issued.active id row found active

end

section
variable (codes : CodesSafe accounts changes drawn)
include codes

theorem codes_later (later : drawn ≤ drawn')
    (same : ∀ account code, .code account code ∈ changes' → .code account code ∈ changes) :
    CodesSafe accounts changes' drawn' := by
  constructor
  · intro account row code found current
    obtain ⟨before, unspent⟩ := codes.current account row code found current
    exact ⟨Nat.lt_of_lt_of_le before later, fun listed => unspent (same account code listed)⟩
  · intro account code listed
    exact Nat.lt_of_lt_of_le (codes.spent account code (same account code listed)) later

theorem codes_written
    (own : ∀ code, row.recoveryCode = some code → code < drawn ∧ .code account code ∉ changes) :
    CodesSafe (update accounts account (some row)) changes drawn := by
  refine ⟨fun other stored code found current => ?_, codes.spent⟩
  rcases update_cases found with ⟨rfl, ⟨⟩⟩ | ⟨_, found⟩
  · exact own code current
  · exact codes.current other stored code found current

theorem fresh_code {code : RecoveryCode}
    (fresh : drawn ≤ code) : .code account code ∉ changes := by
  intro listed
  have before := codes.spent account code listed
  omega

end

section
variable (safe : ChallengesSafe challenges holders stages changes drawn)
include safe

theorem challenges_later (later : drawn ≤ drawn')
    (same : ∀ nonce, .challenge nonce ∈ changes' → .challenge nonce ∈ changes) :
    ChallengesSafe challenges holders stages changes' drawn' :=
  ⟨fun nonce row found => Nat.lt_of_lt_of_le (safe.issued nonce row found) later,
    fun nonce listed => safe.spent nonce (same nonce listed), safe.held⟩

theorem challenges_staged
    (free : ∀ nonce newPassword, stage ≠ some (.recoverWallet nonce newPassword)) :
    ChallengesSafe challenges holders (update stages w stage) changes drawn := by
  refine ⟨safe.issued, safe.spent, fun v nonce newPassword staged => ?_⟩
  by_cases same : v = w
  · subst same
    rw [update_self] at staged
    exact (free nonce newPassword staged).elim
  · rw [update_of_ne same] at staged
    exact safe.held v nonce newPassword staged

theorem challenges_released {nonce : Nonce}
    (staged : stages w = some (.recoverWallet nonce newPassword)) :
    ChallengesSafe challenges (update holders nonce none)
      (update stages w none) changes drawn := by
  refine ⟨safe.issued, safe.spent, fun v other password found => ?_⟩
  by_cases same : v = w
  · subst same
    rw [update_self] at found
    cases found
  rw [update_of_ne same] at found
  obtain ⟨holds, unused⟩ := safe.held v other password found
  have apart : other ≠ nonce := by
    rintro rfl
    rw [(safe.held w other newPassword staged).1] at holds
    exact same (Option.some.inj holds).symm
  rw [update_of_ne apart]
  exact ⟨holds, unused⟩

end

end Parts

section Steps
variable {desk : AccessDesk} {account : AccountId} {w : ProcessId}

section
variable (safe : AccessSafe desk)
include safe

theorem staged_safe (free : ∀ nonce newPassword, stage ≠ some (.recoverWallet nonce newPassword)) :
    AccessSafe (desk.goOn w stage) :=
  { safe with challenges := challenges_staged safe.challenges free }

theorem createSession_safe (proven : provenAt = desk.disables account) :
    AccessSafe (desk.createSession account provenAt) where
  issued := session_issued safe.issued proven desk.drawn
  codes := codes_later safe.codes (Nat.le_succ _) fun _ _ listed => listed
  challenges := challenges_later safe.challenges (Nat.le_succ _) fun _ listed => listed
  spent := safe.spent

theorem createApiKey_safe (scopes : List String) (proven : provenAt = desk.disables account) :
    AccessSafe (desk.createApiKey account scopes provenAt false) where
  issued := key_issued safe.issued scopes proven desk.drawn
  codes := codes_later safe.codes (Nat.le_succ _) fun _ _ listed => listed
  challenges := challenges_later safe.challenges (Nat.le_succ _) fun _ listed => listed
  spent := safe.spent

theorem revokeSessions_safe (keep : Option Token) :
    AccessSafe (desk.revokeSessions account keep) := by
  refine { safe with issued := fewer_sessions safe.issued fun token row found => ?_ }
  exact (Option.filter_eq_some_iff.mp found).1

theorem revokeKeysOf_safe : AccessSafe (desk.revokeKeysOf account) := by
  refine { safe with issued := fewer_keys safe.issued fun id row found => ?_ }
  obtain ⟨before, stored, written⟩ := Option.map_eq_some_iff.mp found
  refine ⟨before, stored, ?_⟩
  split at written
  · exact Or.inr written.symm
  · exact Or.inl written.symm

theorem writeAccount_safe (own : ∀ code, row.recoveryCode = some code →
      code < desk.drawn ∧ .code account code ∉ desk.changes) :
    AccessSafe (desk.writeAccount account row) :=
  { safe with codes := codes_written safe.codes own }

theorem drawn_safe {drawn : Nat} (later : desk.drawn ≤ drawn) :
    AccessSafe { desk with drawn := drawn } where
  issued := safe.issued
  codes := codes_later safe.codes later fun _ _ listed => listed
  challenges := challenges_later safe.challenges later fun _ listed => listed
  spent := safe.spent

theorem register_safe (password : String) (withKey : Bool) :
    AccessSafe (desk.register w account password withKey) := by
  unfold register
  split
  · exact safe
  apply staged_safe
  · have later : desk.drawn ≤ desk.drawn + 2 := by omega
    have drawn := drawn_safe safe later
    refine { drawn with codes := codes_written drawn.codes fun code current => ?_ }
    cases current
    exact ⟨Nat.lt_succ_self _, fresh_code safe.codes (Nat.le_succ _)⟩
  · rintro nonce newPassword ⟨⟩

theorem recoverWallet_safe (nonce : Nonce) (signed : Bool)
    (newPassword : String) (now : Time) :
    AccessSafe (desk.recoverWallet w nonce signed newPassword now) := by
  unfold recoverWallet
  split
  swap
  · exact safe
  rename_i row unheld found
  split
  · exact safe
  rename_i accepted
  have unused : row.used = false := by
    simp only [Bool.or_eq_true, not_or, Bool.not_eq_true] at accepted
    exact accepted.1.1
  refine { safe with challenges := ⟨safe.challenges.issued, safe.challenges.spent, ?_⟩ }
  intro v other password staged
  simp only [goOn] at staged ⊢
  rcases update_cases staged with ⟨rfl, ⟨⟩⟩ | ⟨_, staged⟩
  · exact ⟨update_self .., row, found, unused⟩
  · obtain ⟨holds, before⟩ := safe.challenges.held v other password staged
    have apart : other ≠ nonce := keys_apart holds unheld nofun
    rw [update_of_ne apart]
    exact ⟨holds, before⟩

end

theorem prove_unlocked {request : AccessRequest} {stage : Stage}
    (proven : desk.prove request = some stage) (nonce : Nonce) (newPassword : String) :
    some stage ≠ some (.recoverWallet nonce newPassword) := by
  rintro ⟨⟩
  cases request with
  | register | recoverWallet => cases proven
  | login account password =>
    simp only [prove] at proven
    split at proven
    · cases proven
    split at proven
    · cases proven
    split at proven <;> cases proven
  | recoverCode account code password =>
    simp only [prove] at proven
    split at proven <;> cases proven
  | changePassword | rotateCode =>
    obtain ⟨_, _, impossible⟩ := Option.map_eq_some_iff.mp proven
    cases impossible
  | createKey | revokeKey =>
    simp only [prove] at proven
    split at proven
    · obtain ⟨_, _, impossible⟩ := Option.map_eq_some_iff.mp proven
      cases impossible
    · cases proven

theorem start_safe (safe : AccessSafe desk) (request : AccessRequest) (now : Time) :
    AccessSafe (desk.start w request now) := by
  unfold start
  split
  · exact register_safe safe _ _
  · exact recoverWallet_safe safe _ _ _ _
  · split
    · exact safe
    · rename_i proven
      exact staged_safe safe (prove_unlocked proven)

theorem finishLogin_safe (safe : AccessSafe desk) (hash : PasswordHash) :
    AccessSafe (desk.finishLogin account hash) := by
  unfold finishLogin
  split
  · exact safe
  split
  · exact safe
  · exact createSession_safe safe rfl

theorem finishCode_safe (safe : AccessSafe desk) (code : RecoveryCode) (newPassword : String) :
    AccessSafe (desk.finishCode account code newPassword) := by
  unfold finishCode
  split
  · exact safe
  rename_i row found
  split
  · exact safe
  rename_i accepted
  have current : row.recoveryCode = some code := by
    simp only [Bool.or_eq_true, not_or, Bool.not_eq_true, Bool.not_eq_false', acceptsCode,
      Bool.and_eq_true, decide_eq_true_eq] at accepted
    exact accepted.2.1
  obtain ⟨before, unspent⟩ := safe.codes.current account row code found current
  apply revokeSessions_safe
  refine ⟨safe.issued, ⟨?_, ?_⟩, ?_, ?_⟩
  · intro other stored drawn written known
    rcases update_cases written with ⟨rfl, ⟨⟩⟩ | ⟨same, written⟩
    · cases known
      constructor
      · exact Nat.lt_succ_self _
      · intro listed
        rcases List.mem_cons.mp listed with now | earlier
        · injection now with _ equal
          rw [← equal] at before
          exact absurd before (Nat.not_lt.mpr (Nat.le_succ _))
        · exact fresh_code safe.codes (Nat.le_succ _) earlier
    · obtain ⟨old, apart⟩ := safe.codes.current other stored drawn written known
      constructor
      · exact Nat.lt_of_lt_of_le old (Nat.le_add_right _ 2)
      · intro listed
        rcases List.mem_cons.mp listed with now | earlier
        · cases now
          exact same rfl
        · exact apart earlier
  · intro other spent listed
    rcases List.mem_cons.mp listed with now | earlier
    · cases now
      exact Nat.lt_of_lt_of_le before (Nat.le_add_right _ 2)
    · exact Nat.lt_of_lt_of_le (safe.codes.spent other spent earlier) (Nat.le_add_right _ 2)
  · apply challenges_later safe.challenges (Nat.le_add_right _ 2)
    intro nonce listed
    rcases List.mem_cons.mp listed with now | earlier
    · cases now
    · exact earlier
  · refine List.nodup_cons.mpr ⟨fun listed => ?_, safe.spent⟩
    exact unspent (List.mem_filter.mp listed).1

theorem setPassword_codes (codes : CodesSafe desk.accounts desk.changes desk.drawn)
    (found : desk.accounts account = some row) (newPassword : String) {proof : ChangeProof}
    (uncoded : ∀ other code, proof ≠ .code other code) :
    CodesSafe (desk.setPassword account row newPassword proof).accounts (proof :: desk.changes)
      (desk.drawn + 1) := by
  have same : ∀ other code, .code other code ∈ proof :: desk.changes →
      .code other code ∈ desk.changes := by
    intro other code listed
    rcases List.mem_cons.mp listed with now | earlier
    · exact (uncoded other code now.symm).elim
    · exact earlier
  have later := codes_later codes (Nat.le_succ _) same
  exact codes_written later fun code current => later.current account row code found current

section
variable (safe : AccessSafe desk)
include safe

theorem finishPassword_safe (token : Token)
    (current newPassword : String) :
    AccessSafe (desk.finishPassword account token current newPassword) := by
  unfold finishPassword
  split
  · exact safe
  rename_i row found
  split
  · exact safe
  apply revokeSessions_safe
  refine ⟨safe.issued, setPassword_codes safe.codes found newPassword (by rintro _ _ ⟨⟩), ?_,
    safe.spent⟩
  apply challenges_later safe.challenges (Nat.le_succ _)
  intro nonce listed
  rcases List.mem_cons.mp listed with now | earlier
  · cases now
  · exact earlier

theorem finishRotation_safe (current : String) :
    AccessSafe (desk.finishRotation account current) := by
  unfold finishRotation
  split
  · exact safe
  split
  · exact safe
  have drawn := drawn_safe safe (Nat.le_succ desk.drawn)
  refine { drawn with codes := codes_written drawn.codes fun code known => ?_ }
  cases known
  exact ⟨Nat.lt_succ_self _, fresh_code safe.codes (Nat.le_refl _)⟩

theorem finishWallet_safe {nonce : Nonce}
    (staged : desk.stages w = some (.recoverWallet nonce newPassword)) :
    AccessSafe (goOn w none { desk.finishWallet nonce newPassword with
      holders := update desk.holders nonce none }) := by
  have released := challenges_released safe.challenges staged
  obtain ⟨_, challenge, issued, unused⟩ := safe.challenges.held w nonce newPassword staged
  have kept : AccessSafe (goOn w none { desk with
      holders := update desk.holders nonce none }) :=
    { safe with challenges := released }
  unfold finishWallet
  simp only [issued]
  split
  · exact kept
  rename_i row found
  split
  · exact kept
  have unspent : .challenge nonce ∉ desk.changes := by
    intro listed
    obtain ⟨stored, again, used⟩ := safe.challenges.spent nonce listed
    rw [issued] at again
    cases again
    rw [unused] at used
    cases used
  constructor
  · apply fewer_sessions safe.issued
    intro token session left
    exact (Option.filter_eq_some_iff.mp left).1
  · exact setPassword_codes safe.codes found newPassword (by rintro _ _ ⟨⟩)
  · constructor
    · intro other stored written
      simp only [goOn, revokeSessions, setPassword, writeAccount] at written ⊢
      by_cases same : other = nonce
      · subst same
        exact Nat.lt_succ_of_lt (safe.challenges.issued other challenge issued)
      · rw [update_of_ne same] at written
        exact Nat.lt_succ_of_lt (safe.challenges.issued other stored written)
    · intro other listed
      simp only [goOn, revokeSessions, setPassword, writeAccount] at listed ⊢
      by_cases same : other = nonce
      · subst same
        exact ⟨_, update_self .., rfl⟩
      · rw [update_of_ne same]
        rcases List.mem_cons.mp listed with now | earlier
        · cases now
          exact (same rfl).elim
        · exact safe.challenges.spent other earlier
    · intro v other password left
      simp only [goOn, revokeSessions, setPassword, writeAccount] at left ⊢
      obtain ⟨holds, stored, found, unused⟩ := released.held v other password left
      have apart : other ≠ nonce := by
        rintro rfl
        rw [update_self] at holds
        cases holds
      refine ⟨holds, stored, ?_, unused⟩
      rw [update_of_ne apart]
      exact found
  · exact List.nodup_cons.mpr ⟨fun listed => unspent (List.mem_filter.mp listed).1, safe.spent⟩

theorem finishKey_safe {authority : Authority} {scopes : List String}
    {seenAt : Nat} (may : mayIssue desk (.createKey account authority scopes seenAt) = true) :
    AccessSafe (desk.finishKey account authority scopes seenAt) := by
  unfold finishKey
  split
  · exact safe
  split
  · exact safe
  cases authority with
  | key id =>
    have live : desk.isLive (.key id) = true := may
    simp only [live]
    exact createApiKey_safe safe _ rfl
  | _ =>
    have same : seenAt = desk.disables account := of_decide_eq_true may
    apply createApiKey_safe safe
    rw [same, ite_self]

theorem finishRevocation_safe (key : KeyId) :
    AccessSafe (desk.finishRevocation account key) := by
  unfold finishRevocation
  split
  · exact safe
  rename_i row stored
  split
  · exact safe
  refine { safe with issued := fewer_keys safe.issued fun id left found => ?_ }
  rcases update_cases found with ⟨rfl, ⟨⟩⟩ | ⟨_, found⟩
  · exact ⟨row, stored, Or.inr rfl⟩
  · exact ⟨left, found, Or.inl rfl⟩

theorem next_safe (may : ∀ stage, desk.stages w = some stage → mayIssue desk stage = true) :
    AccessSafe (desk.next w) := by
  unfold next
  split
  · exact safe
  · rename_i account withKey seenAt staged
    apply staged_safe
    · exact createSession_safe safe (of_decide_eq_true (may _ staged))
    · rintro nonce newPassword impossible
      split at impossible <;> cases impossible
  · rename_i account seenAt staged
    apply staged_safe
    · exact createApiKey_safe safe bootstrapScopes (of_decide_eq_true (may _ staged))
    · rintro nonce newPassword ⟨⟩
  · exact staged_safe (finishLogin_safe safe _) (by rintro _ _ ⟨⟩)
  · exact staged_safe (finishCode_safe safe _ _) (by rintro _ _ ⟨⟩)
  · rename_i nonce newPassword staged
    exact finishWallet_safe safe staged
  · exact staged_safe (finishPassword_safe safe _ _ _) (by rintro _ _ ⟨⟩)
  · exact staged_safe (finishRotation_safe safe _) (by rintro _ _ ⟨⟩)
  · rename_i account authority scopes seenAt staged
    exact staged_safe (finishKey_safe safe (may _ staged)) (by rintro _ _ ⟨⟩)
  · exact staged_safe (finishRevocation_safe safe _) (by rintro _ _ ⟨⟩)

theorem abandon_safe : AccessSafe (desk.abandon w) := by
  unfold abandon
  split
  · rename_i nonce newPassword staged
    exact { safe with challenges := challenges_released safe.challenges staged }
  · exact staged_safe safe (by rintro _ _ ⟨⟩)

theorem disable_safe : AccessSafe (desk.disable account) := by
  unfold disable
  split
  · exact safe
  rename_i row found
  have revoked : AccessSafe (revokeKeysOf account (revokeSessions account none
      (writeAccount account { row with disabled := true } desk))) := by
    apply revokeKeysOf_safe
    apply revokeSessions_safe
    apply writeAccount_safe safe
    exact fun code current => safe.codes.current account row code found current
  refine { revoked with issued := disabled_issued revoked.issued _ ?_ ?_ }
  · intro token session left
    have kept := (Option.filter_eq_some_iff.mp left).2
    simpa using kept
  · intro id key left owned
    obtain ⟨before, stored, written⟩ := Option.map_eq_some_iff.mp left
    split at written
    · rw [← written]
    · rename_i other
      rw [← written] at owned
      exact (other owned).elim

theorem enable_safe : AccessSafe (desk.enable account) := by
  unfold enable
  split
  · exact safe
  · rename_i row found
    apply writeAccount_safe safe
    exact fun code current => safe.codes.current account row code found current

theorem issueChallenge_safe (expiresAt : Time) :
    AccessSafe (desk.issueChallenge account expiresAt) := by
  have drawn := drawn_safe safe (Nat.le_succ desk.drawn)
  have older {nonce : Nonce} {row : ChallengeRow} (found : desk.challenges nonce = some row) :
      nonce ≠ desk.drawn := Nat.ne_of_lt (safe.challenges.issued nonce row found)
  refine { drawn with challenges := ⟨?_, ?_, ?_⟩ }
  · intro nonce row found
    simp only [issueChallenge] at found ⊢
    by_cases same : nonce = desk.drawn
    · rw [same]
      exact Nat.lt_succ_self _
    · rw [update_of_ne same] at found
      exact Nat.lt_succ_of_lt (safe.challenges.issued nonce row found)
  · intro nonce listed
    obtain ⟨row, found, used⟩ := safe.challenges.spent nonce listed
    refine ⟨row, ?_, used⟩
    simp only [issueChallenge]
    rw [update_of_ne (older found)]
    exact found
  · intro w nonce newPassword staged
    obtain ⟨holds, row, found, unused⟩ := safe.challenges.held w nonce newPassword staged
    refine ⟨holds, row, ?_, unused⟩
    simp only [issueChallenge]
    rw [update_of_ne (older found)]
    exact found

theorem logout_safe (token : Token) :
    AccessSafe { desk with sessions := update desk.sessions token none } := by
  refine { safe with issued := fewer_sessions safe.issued fun other row found => ?_ }
  rcases update_cases found with ⟨rfl, ⟨⟩⟩ | ⟨_, found⟩
  exact found

end

end Steps

theorem accessStep_safe (event : AccessEvent) (desk : AccessDesk) (safe : AccessSafe desk)
    (may : mayAccess event desk) : AccessSafe (accessStep event desk) := by
  cases event with
  | start w request now =>
    simp only [accessStep]
    split
    · exact safe
    · exact start_safe safe request now
  | next w => exact next_safe safe may
  | abandon w => exact abandon_safe safe
  | challenge account expiresAt => exact issueChallenge_safe safe expiresAt
  | logout token => exact logout_safe safe token
  | disable account => exact disable_safe safe
  | enable account => exact enable_safe safe
  | revokeSessions account => exact revokeSessions_safe safe none
  | revokeKeys account => exact revokeKeysOf_safe safe

theorem start_accessSafe {desk : AccessDesk} (start : AccessStart desk) : AccessSafe desk where
  issued := ⟨start.sessions, start.keys, start.issuers⟩
  codes := by
    constructor
    · intro account row code found current
      rw [start.changes]
      exact ⟨start.codes account row code found current, List.not_mem_nil⟩
    · intro account code listed
      rw [start.changes] at listed
      cases listed
  challenges := by
    refine ⟨start.challenges, fun nonce listed => ?_, fun w nonce newPassword staged => ?_⟩
    · rw [start.changes] at listed
      cases listed
    · rw [start.stages w] at staged
      cases staged
  spent := by
    rw [start.changes]
    exact List.nodup_nil

theorem access_kept (desk : AccessDesk) (events : List AccessEvent) (start : AccessStart desk)
    (admitted : access.admits desk events) : AccessKept (access.run desk events) := by
  have safe := access.run_keeps accessStep_safe events desk (start_accessSafe start) admitted
  exact ⟨safe.issued.proven, safe.issued.active, safe.issued.issuers, safe.spent⟩

/-- `mayAccess`, as a test. -/
def accessTest (event : AccessEvent) (desk : AccessDesk) : Bool :=
  match event with
  | .next w => (desk.stages w).all (mayIssue desk)
  | _ => true

theorem accessTest_may (event : AccessEvent) (desk : AccessDesk)
    (passed : accessTest event desk = true) : mayAccess event desk := by
  cases event with
  | next w =>
    intro stage staged
    simp only [accessTest, staged, Option.all_some] at passed
    exact passed
  | _ => trivial

def signedIn : AccessDesk where
  accounts := fun account =>
    if account = 1 then some ⟨some ⟨"correct horse battery", 0⟩, some 1, false, false⟩ else none
  sessions := fun token => if token = 2 then some ⟨1, 0⟩ else none
  keys := fun id => if id = 3 then some ⟨1, ["vm:read", "api_keys:write"], false, 0, false⟩ else none
  challenges := fun _ => none
  holders := fun _ => none
  stages := fun _ => none
  drawn := 4
  disables := fun _ => 0
  changes := []

theorem signedIn_start : AccessStart signedIn where
  stages _ := rfl
  changes := rfl
  codes account row code found current := by
    simp only [signedIn] at found ⊢
    split at found
    · cases found
      cases current
      decide
    · cases found
  challenges nonce row found := by cases found
  sessions token row found := by
    simp only [signedIn] at found ⊢
    split at found
    · cases found
      rfl
    · cases found
  keys id row found _ := by
    simp only [signedIn] at found ⊢
    split at found
    · cases found
      rfl
    · cases found
  issuers id row found := by
    simp only [signedIn] at found ⊢
    split at found
    · cases found
      rfl
    · cases found

/-- Two requests with one recovery code and a login overlap a disabling; a key issues a key,
and is revoked then. -/
def overlappingRun : List AccessEvent :=
  [.start 0 (.login 1 "correct horse battery") 10,
    .start 1 (.createKey (.key 3) ["vm:read"]) 10, .next 1, .revokeKeys 1,
    .start 1 (.recoverCode 1 1 "a new long password") 10,
    .start 2 (.recoverCode 1 1 "another long password") 10,
    .disable 1, .enable 1, .next 0, .next 1, .next 2]

theorem overlapping_access_kept : AccessKept (access.run signedIn overlappingRun) := by
  apply access_kept signedIn overlappingRun signedIn_start
  exact access.passes_admits accessTest accessTest_may _ _ (by decide +kernel)

/-- The key is revoked between the look at it and the issue of the next one. -/
theorem revoked_key_issues : ¬ AccessKept (access.run signedIn
    [.start 0 (.createKey (.key 3) ["api_keys:write"]) 10, .revokeKeys 1, .next 0]) := by
  intro kept
  have issued : ((access.run signedIn [.start 0 (.createKey (.key 3) ["api_keys:write"]) 10,
      .revokeKeys 1, .next 0]).keys 4) = some ⟨1, ["api_keys:write"], false, 0, true⟩ := by
    decide +kernel
  have unrevoked := kept.issuers 4 _ issued
  cases unrevoked

end HyruleCloud.AccountAccess
