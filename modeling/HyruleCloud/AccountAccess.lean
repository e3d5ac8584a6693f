import HyruleCloud.Protocol
import HyruleCloud.Store

/-!
Sessions, API keys, passwords and recovery codes of an account, api/auth.py, against the
administrators of api/admin.py. A request proves itself without a lock first; its locked
part is one step, and reads the rows again that it locks. Everything drawn at random is the
serial of its draw.
-/

namespace HyruleCloud.AccountAccess

open Interaction Function

abbrev Token := Nat
abbrev KeyId := Nat
abbrev Nonce := Nat
abbrev RecoveryCode := Nat

structure PasswordHash where
  password : String
  salt : Nat
  deriving DecidableEq

structure AccountRow where
  passwordHash : Option PasswordHash
  recoveryCode : Option RecoveryCode
  recoveryCodeUsed : Bool
  disabled : Bool

inductive Authority where
  | registration
  | password (hash : PasswordHash)
  | session (token : Token)
  | key (id : KeyId)

/-- `provenAt` counts the disablings of the account up to the last moment at which the
authority behind the row was seen valid. -/
structure SessionRow where
  account : AccountId
  provenAt : Nat

/-- `issuerRevoked`: the key was issued by a key that was revoked then. -/
structure ApiKeyRow where
  account : AccountId
  scopes : List String
  revoked : Bool
  provenAt : Nat
  issuerRevoked : Bool
  deriving DecidableEq

structure ChallengeRow where
  account : AccountId
  expiresAt : Time
  used : Bool

inductive ChangeProof where
  | password (account : AccountId)
  | code (account : AccountId) (code : RecoveryCode)
  | challenge (nonce : Nonce)

inductive AccessRequest where
  | register (account : AccountId) (password : String) (withKey : Bool)
  | login (account : AccountId) (password : String)
  | recoverCode (account : AccountId) (code : RecoveryCode) (newPassword : String)
  -- `signed`: the signature is by a wallet that has paid for a VM of the account
  | recoverWallet (nonce : Nonce) (signed : Bool) (newPassword : String)
  | changePassword (token : Token) (current newPassword : String)
  | rotateCode (token : Token) (current : String)
  | createKey (authority : Authority) (scopes : List String)
  | revokeKey (authority : Authority) (key : KeyId)

/-- A request that has proved itself, before its locked part. `seenAt` is the count of
disablings at that moment. -/
inductive Stage where
  | registered (account : AccountId) (withKey : Bool) (seenAt : Nat)
  | registeredKey (account : AccountId) (seenAt : Nat)
  | login (account : AccountId) (hash : PasswordHash)
  | recoverCode (account : AccountId) (code : RecoveryCode) (newPassword : String)
  -- the row of the challenge stays locked
  | recoverWallet (nonce : Nonce) (newPassword : String)
  | changePassword (account : AccountId) (token : Token) (current newPassword : String)
  | rotateCode (account : AccountId) (current : String)
  | createKey (account : AccountId) (authority : Authority) (scopes : List String)
      (seenAt : Nat)
  | revokeKey (account : AccountId) (key : KeyId)

structure AccessDesk where
  accounts : AccountId → Option AccountRow
  sessions : Token → Option SessionRow
  keys : KeyId → Option ApiKeyRow
  challenges : Nonce → Option ChallengeRow
  holders : Nonce → Option ProcessId
  stages : ProcessId → Option Stage
  drawn : Nat
  disables : AccountId → Nat
  changes : List ChangeProof

/-- `ApiKeyScope` -/
def apiKeyScopes : List String :=
  ["vm:read", "vm:create", "vm:reboot", "vm:extend", "vm:destroy", "intent:create",
    "intent:read", "domain:read", "domain:quote", "domain:purchase", "domain:renew",
    "domain:dns", "domain:nameservers", "domain:transfer", "domain:register",
    "api_keys:read", "api_keys:write"]

/-- `DEFAULT_BOOTSTRAP_SCOPES` -/
def bootstrapScopes : List String :=
  ["vm:read", "vm:create", "intent:create", "intent:read", "domain:read", "domain:quote"]

/-- `validate_scopes`, with the scopes that it has seen. -/
def validateScopes (seen : List String) : List String → Option (List String)
  | [] => some []
  | scope :: rest =>
    if scope ∉ apiKeyScopes then none
    else if scope ∈ seen then validateScopes seen rest
    else (validateScopes (scope :: seen) rest).map (scope :: ·)

/-- `verify_password` -/
def verifyPassword (hash : Option PasswordHash) (password : String) : Bool :=
  match hash with
  | none => false
  | some hash => hash.password = password

def acceptsCode (row : AccountRow) (code : RecoveryCode) : Bool :=
  row.recoveryCode = some code && !row.recoveryCodeUsed

namespace AccessDesk

def goOn (w : ProcessId) (stage : Option Stage) (desk : AccessDesk) : AccessDesk :=
  { desk with stages := update desk.stages w stage }

def isEnabled (desk : AccessDesk) (account : AccountId) : Bool :=
  (desk.accounts account).any fun row => !row.disabled

/-- `current_account`: a key that is not revoked, or a session. -/
def authenticate (desk : AccessDesk) (authority : Authority) : Option AccountId :=
  match authority with
  | .session token => match desk.sessions token with
      | none => none
      | some row => if desk.isEnabled row.account then some row.account else none
  | .key id => match desk.keys id with
      | none => none
      | some row =>
        if !row.revoked && desk.isEnabled row.account then some row.account else none
  | _ => none

def isLive (desk : AccessDesk) (authority : Authority) : Bool :=
  match authority with
  | .session token => (desk.sessions token).isSome
  | .key id => (desk.keys id).any fun row => !row.revoked
  | _ => false

/-- `create_session` -/
def createSession (account : AccountId) (provenAt : Nat) (desk : AccessDesk) : AccessDesk :=
  { desk with
    sessions := update desk.sessions desk.drawn (some ⟨account, provenAt⟩)
    drawn := desk.drawn + 1 }

/-- `create_api_key`, with scopes that are validated. -/
def createApiKey (account : AccountId) (scopes : List String) (provenAt : Nat)
    (issuerRevoked : Bool) (desk : AccessDesk) : AccessDesk :=
  { desk with
    keys := update desk.keys desk.drawn
      (some ⟨account, scopes, false, provenAt, issuerRevoked⟩)
    drawn := desk.drawn + 1 }

def revokeSessions (account : AccountId) (keep : Option Token) (desk : AccessDesk) :
    AccessDesk :=
  { desk with sessions := fun token =>
      (desk.sessions token).filter fun row => row.account ≠ account || keep = some token }

def revokeKeysOf (account : AccountId) (desk : AccessDesk) : AccessDesk :=
  { desk with keys := fun id => (desk.keys id).map fun row =>
      if row.account = account then { row with revoked := true } else row }

def writeAccount (account : AccountId) (row : AccountRow) (desk : AccessDesk) : AccessDesk :=
  { desk with accounts := update desk.accounts account (some row) }

def setPassword (account : AccountId) (row : AccountRow) (newPassword : String)
    (proof : ChangeProof) (desk : AccessDesk) : AccessDesk :=
  { writeAccount account { row with passwordHash := some ⟨newPassword, desk.drawn⟩ } desk with
    drawn := desk.drawn + 1
    changes := proof :: desk.changes }

def drawCode (account : AccountId) (row : AccountRow) (desk : AccessDesk) : AccessDesk :=
  { writeAccount account
      { row with recoveryCode := some desk.drawn, recoveryCodeUsed := false } desk with
    drawn := desk.drawn + 1 }

def mayHandOn (desk : AccessDesk) (authority : Authority) (scopes : List String) : Bool :=
  match authority with
  | .key id => (desk.keys id).any fun row =>
    "api_keys:write" ∈ row.scopes && scopes.all fun scope => scope ∈ row.scopes
  | _ => true

def mayRevoke (desk : AccessDesk) (authority : Authority) (key : KeyId) : Bool :=
  match authority with
  | .key id => id ≠ key && (desk.keys id).any fun row => "api_keys:write" ∈ row.scopes
  | _ => true

/-- The account row of `register` is committed before anything else. -/
def register (w : ProcessId) (account : AccountId) (password : String) (withKey : Bool)
    (desk : AccessDesk) : AccessDesk :=
  match desk.accounts account with
  | some _ => desk
  | none =>
    goOn w (some (.registered account withKey (desk.disables account)))
      { writeAccount account ⟨some ⟨password, desk.drawn⟩, some (desk.drawn + 1), false, false⟩
          desk with
        drawn := desk.drawn + 2 }

def recoverWallet (w : ProcessId) (nonce : Nonce) (signed : Bool) (newPassword : String)
    (now : Time) (desk : AccessDesk) : AccessDesk :=
  match desk.holders nonce, desk.challenges nonce with
  | none, some row =>
    if row.used || row.expiresAt < now || !signed then desk
    else goOn w (some (.recoverWallet nonce newPassword)) { desk with
      holders := update desk.holders nonce (some w) }
  | _, _ => desk

def prove (desk : AccessDesk) (request : AccessRequest) : Option Stage :=
  match request with
  | .register _ _ _ => none
  | .recoverWallet _ _ _ => none
  | .login account password => match desk.accounts account with
      | none => none
      | some row => match row.passwordHash with
          | none => none
          | some hash =>
            if verifyPassword (some hash) password then some (.login account hash) else none
  | .recoverCode account code newPassword =>
    if (desk.accounts account).any fun row => acceptsCode row code then
      some (.recoverCode account code newPassword)
    else none
  | .changePassword token current newPassword =>
    (desk.authenticate (.session token)).map fun account =>
      .changePassword account token current newPassword
  | .rotateCode token current =>
    (desk.authenticate (.session token)).map fun account => .rotateCode account current
  | .createKey authority scopes =>
    if desk.mayHandOn authority scopes then
      (desk.authenticate authority).map fun account =>
        .createKey account authority scopes (desk.disables account)
    else none
  | .revokeKey authority key =>
    if desk.mayRevoke authority key then
      (desk.authenticate authority).map fun account => .revokeKey account key
    else none

def start (w : ProcessId) (request : AccessRequest) (now : Time) (desk : AccessDesk) :
    AccessDesk :=
  match request with
  | .register account password withKey => register w account password withKey desk
  | .recoverWallet nonce signed newPassword => recoverWallet w nonce signed newPassword now desk
  | _ => match desk.prove request with
      | none => desk
      | some stage => goOn w (some stage) desk

/-- The locked part of `login`: the same hash, and an account that is not disabled. -/
def finishLogin (account : AccountId) (hash : PasswordHash) (desk : AccessDesk) : AccessDesk :=
  match desk.accounts account with
  | none => desk
  | some row =>
    if row.passwordHash ≠ some hash || row.disabled then desk
    else createSession account (desk.disables account) desk

def finishCode (account : AccountId) (code : RecoveryCode) (newPassword : String)
    (desk : AccessDesk) : AccessDesk :=
  match desk.accounts account with
  | none => desk
  | some row =>
    if row.disabled || !acceptsCode row code then desk
    else
      let changed := setPassword account
        { row with recoveryCode := some (desk.drawn + 1), recoveryCodeUsed := false }
        newPassword (.code account code) desk
      revokeSessions account none { changed with drawn := desk.drawn + 2 }

def finishWallet (nonce : Nonce) (newPassword : String) (desk : AccessDesk) : AccessDesk :=
  match desk.challenges nonce with
  | none => desk
  | some challenge => match desk.accounts challenge.account with
      | none => desk
      | some row =>
        if row.disabled then desk
        else
          let changed := setPassword challenge.account row newPassword (.challenge nonce) desk
          revokeSessions challenge.account none { changed with
            challenges := update desk.challenges nonce
              (some { challenge with used := true }) }

def finishPassword (account : AccountId) (token : Token) (current newPassword : String)
    (desk : AccessDesk) : AccessDesk :=
  match desk.accounts account with
  | none => desk
  | some row =>
    if row.disabled || (row.passwordHash.isSome && !verifyPassword row.passwordHash current)
    then desk
    else revokeSessions account (some token)
      (setPassword account row newPassword (.password account) desk)

def finishRotation (account : AccountId) (current : String) (desk : AccessDesk) : AccessDesk :=
  match desk.accounts account with
  | none => desk
  | some row =>
    if row.disabled || !verifyPassword row.passwordHash current then desk
    else drawCode account row desk

/-- The locked part of `create_api_key_endpoint` looks at the account, and not again at the
key or the session that the request came with. -/
def finishKey (account : AccountId) (authority : Authority) (scopes : List String)
    (seenAt : Nat) (desk : AccessDesk) : AccessDesk :=
  if !desk.isEnabled account then desk
  else match validateScopes [] scopes with
    | none => desk
    | some scopes =>
      let live := desk.isLive authority
      createApiKey account scopes (if live then desk.disables account else seenAt)
        (match authority with
          | .key _ => !live
          | _ => false) desk

def finishRevocation (account : AccountId) (key : KeyId) (desk : AccessDesk) : AccessDesk :=
  match desk.keys key with
  | none => desk
  | some row =>
    if row.account ≠ account then desk
    else { desk with keys := update desk.keys key (some { row with revoked := true }) }

/-- The next part of the request of `w`. -/
def next (w : ProcessId) (desk : AccessDesk) : AccessDesk :=
  match desk.stages w with
  | none => desk
  | some (.registered account withKey seenAt) =>
    goOn w (if withKey then some (.registeredKey account seenAt) else none)
      (createSession account seenAt desk)
  | some (.registeredKey account seenAt) =>
    goOn w none (createApiKey account bootstrapScopes seenAt false desk)
  | some (.login account hash) => goOn w none (finishLogin account hash desk)
  | some (.recoverCode account code newPassword) =>
    goOn w none (finishCode account code newPassword desk)
  | some (.recoverWallet nonce newPassword) =>
    goOn w none { finishWallet nonce newPassword desk with
      holders := update desk.holders nonce none }
  | some (.changePassword account token current newPassword) =>
    goOn w none (finishPassword account token current newPassword desk)
  | some (.rotateCode account current) => goOn w none (finishRotation account current desk)
  | some (.createKey account authority scopes seenAt) =>
    goOn w none (finishKey account authority scopes seenAt desk)
  | some (.revokeKey account key) => goOn w none (finishRevocation account key desk)

/-- The request of `w` ends where it stands, and its locks with it. -/
def abandon (w : ProcessId) (desk : AccessDesk) : AccessDesk :=
  match desk.stages w with
  | some (.recoverWallet nonce _) =>
    goOn w none { desk with holders := update desk.holders nonce none }
  | _ => goOn w none desk

/-- `disable_account`: sessions and keys end with the access. -/
def disable (account : AccountId) (desk : AccessDesk) : AccessDesk :=
  match desk.accounts account with
  | none => desk
  | some row =>
    revokeKeysOf account (revokeSessions account none
      { writeAccount account { row with disabled := true } desk with
        disables := update desk.disables account (desk.disables account + 1) })

def enable (account : AccountId) (desk : AccessDesk) : AccessDesk :=
  match desk.accounts account with
  | none => desk
  | some row => writeAccount account { row with disabled := false } desk

/-- `recover_wallet_challenge` answers for accounts that do not exist too. -/
def issueChallenge (account : AccountId) (expiresAt : Time) (desk : AccessDesk) : AccessDesk :=
  { desk with
    challenges := update desk.challenges desk.drawn (some ⟨account, expiresAt, false⟩)
    drawn := desk.drawn + 1 }

end AccessDesk

inductive AccessEvent where
  | start (w : ProcessId) (request : AccessRequest) (now : Time)
  | next (w : ProcessId)
  | abandon (w : ProcessId)
  | challenge (account : AccountId) (expiresAt : Time)
  | logout (token : Token)
  -- of an administrator
  | disable (account : AccountId)
  | enable (account : AccountId)
  | revokeSessions (account : AccountId)
  | revokeKeys (account : AccountId)

open AccessDesk in
def accessStep (event : AccessEvent) (desk : AccessDesk) : AccessDesk :=
  match event with
  | .start w request now => if (desk.stages w).isSome then desk else desk.start w request now
  | .next w => desk.next w
  | .abandon w => desk.abandon w
  | .challenge account expiresAt => desk.issueChallenge account expiresAt
  | .logout token => { desk with sessions := update desk.sessions token none }
  | .disable account => desk.disable account
  | .enable account => desk.enable account
  | .revokeSessions account => desk.revokeSessions account none
  | .revokeKeys account => desk.revokeKeysOf account

/-- A session or a key is issued while the authority behind it lasts: no disabling since the
proof, and a key that issues a key is not revoked. -/
def mayIssue (desk : AccessDesk) (stage : Stage) : Bool :=
  match stage with
  | .registered account _ seenAt => seenAt = desk.disables account
  | .registeredKey account seenAt => seenAt = desk.disables account
  | .createKey account authority _ seenAt => match authority with
      | .key _ => desk.isLive authority
      | _ => seenAt = desk.disables account
  | _ => true

def mayAccess (event : AccessEvent) (desk : AccessDesk) : Prop :=
  match event with
  | .next w => ∀ stage, desk.stages w = some stage → mayIssue desk stage = true
  | _ => True

def access : Protocol AccessDesk AccessEvent := ⟨accessStep, mayAccess⟩

def isSpent : ChangeProof → Bool
  | .password _ => false
  | .code _ _ => true
  | .challenge _ => true

/-- No row that can be used, now or when its account is enabled again, comes from an authority
that was valid only before a disabling. No key comes from a revoked key. A recovery code and
a challenge change one password at most. -/
structure AccessKept (desk : AccessDesk) : Prop where
  sessions : ∀ token row, desk.sessions token = some row →
    row.provenAt = desk.disables row.account
  keys : ∀ id row, desk.keys id = some row → row.revoked = false →
    row.provenAt = desk.disables row.account
  issuers : ∀ id row, desk.keys id = some row → row.issuerRevoked = false
  spent : (desk.changes.filter isSpent).Nodup

/-- Where a run begins: nothing is pending, no password has been changed, and every row is
of an enabled time. -/
structure AccessStart (desk : AccessDesk) : Prop where
  stages : ∀ w, desk.stages w = none
  changes : desk.changes = []
  codes : ∀ account row code, desk.accounts account = some row →
    row.recoveryCode = some code → code < desk.drawn
  challenges : ∀ nonce row, desk.challenges nonce = some row → nonce < desk.drawn
  sessions : ∀ token row, desk.sessions token = some row →
    row.provenAt = desk.disables row.account
  keys : ∀ id row, desk.keys id = some row → row.revoked = false →
    row.provenAt = desk.disables row.account
  issuers : ∀ id row, desk.keys id = some row → row.issuerRevoked = false

end HyruleCloud.AccountAccess
