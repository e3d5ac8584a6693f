import HyruleCloud.Protocol
import HyruleCloud.Store

/-!
Who can reset an account's password with a wallet: `recover_wallet_verify` in api/auth.py
looks at the `owner_wallet` of the VMs that the account owns. The column is written by
purchases and by an administrator's transfers; claims and detachments leave it. An address
stands for its letters in lower case.
-/

namespace HyruleCloud.WalletRecovery

open Interaction

abbrev Address := Nat
abbrev VmKey := Nat
abbrev Token := Nat
abbrev Nonce := Nat

/-- The texts of `owner_wallet`: none yet, an address, or something that signs nothing. -/
inductive OwnerWallet where
  | blank
  | evm (address : Address)
  | intent (id : Nat)
  | order (id : Nat)
  | account (id : AccountId)
  | bypass
  deriving DecidableEq

structure VmRow where
  ownerAccountId : Option AccountId
  ownerWallet : OwnerWallet
  tokenHash : Option Token
  sshPubkey : Nat
  status : VMStatus
  deletionStarted : Bool
  retained : Bool
  extensionResume : Bool

structure AccountRow where
  disabled : Bool
  isAdmin : Bool
  passwordHash : Option Nat

structure ChallengeRow where
  accountId : AccountId
  expiresAt : Time
  used : Bool

/-- What the holder of an account has done with a wallet while acting for the account. -/
inductive Use where
  | paid | linked | signedClaim
  deriving DecidableEq

/-- `wallets` is `account_wallets`: one address an account, one account an address. `uses` and
`recoveries` are the history. -/
structure RecoveryDesk where
  now : Time
  accounts : AccountId → Option AccountRow
  wallets : AccountId → Option Address
  vms : VmKey → Option VmRow
  challenges : Nonce → Option ChallengeRow
  uses : List (AccountId × Address × Use)
  recoveries : List (AccountId × Address)

namespace RecoveryDesk

variable (desk : RecoveryDesk)

def setVm (vm : VmKey) (row : Option VmRow) : RecoveryDesk :=
  { desk with vms := Function.update desk.vms vm row }

def setAccount (account : AccountId) (row : Option AccountRow) : RecoveryDesk :=
  { desk with accounts := Function.update desk.accounts account row }

def isEnabled (account : AccountId) : Bool :=
  (desk.accounts account).any fun row => !row.disabled

def Used (account : AccountId) (address : Address) : Prop :=
  ∃ use, (account, address, use) ∈ desk.uses

def notePaid (account : Option AccountId) (wallet : OwnerWallet) : RecoveryDesk :=
  match account, wallet with
  | some account, .evm address =>
    { desk with uses := (account, address, .paid) :: desk.uses }
  | _, _ => desk

def link (account : AccountId) (address : Address) : RecoveryDesk :=
  { desk with
    wallets := Function.update desk.wallets account (some address)
    uses := (account, address, .linked) :: desk.uses }

/-- A wallet action of the account that `wallet_auth` accepts; the address is free. -/
def linkWallet (accounts : List AccountId) (account : AccountId) (address : Address) :
    RecoveryDesk :=
  if desk.isEnabled account && accounts.all fun other => desk.wallets other ≠ some address then
    desk.link account address
  else desk

/-- `resolve_x402_owner` under `_bind_payer_account`: the account whose wallet has paid, else
the buyer's with its first wallet, else a new account; any conflict falls back to the
buyer's. `holders` are the accounts to be searched, `fresh` is drawn. -/
def bindPayer (holders : List AccountId) (buyer : Option AccountId) (wallet : OwnerWallet)
    (allowLink : Bool) (fresh : AccountId) : Option AccountId × RecoveryDesk :=
  match wallet with
  | .evm address =>
    match holders.find? fun account => desk.wallets account = some address with
    | some holder => match buyer with
        | some account => (some account, desk)
        | none => (some holder, desk)
    | none => match buyer with
        | some account =>
          if desk.isEnabled account && allowLink && (desk.wallets account).isNone then
            (some account, desk.link account address)
          else (some account, desk)
        | none =>
          if (desk.accounts fresh).isNone then
            (some fresh, (desk.setAccount fresh (some ⟨false, false, none⟩)).link
              fresh address)
          else (none, desk)
  | _ => (buyer, desk)

/-- `reserve_vm_with_capacity`: the row has no payer yet. -/
def reserve (vm : VmKey) (owner : Option AccountId) (token : Token) (sshPubkey : Nat) :
    RecoveryDesk :=
  if (desk.vms vm).isNone then
    desk.setVm vm (some {
      ownerAccountId := owner
      ownerWallet := .blank
      tokenHash := some token
      sshPubkey := sshPubkey
      status := .provisioning
      deletionStarted := false
      retained := false
      extensionResume := false })
  else desk

/-- `activate_vm_reservation`; an owner that is there stays. `purchaser` has made the order. -/
def activate (vm : VmKey) (wallet : OwnerWallet) (owner purchaser : Option AccountId) :
    RecoveryDesk :=
  match desk.vms vm with
  | none => desk
  | some row =>
    if (row.ownerAccountId.all desk.isEnabled) && owner.all desk.isEnabled then
      (desk.notePaid purchaser wallet).setVm vm (some { row with
        ownerWallet := wallet
        ownerAccountId := row.ownerAccountId.or owner })
    else desk

/-- `create_vm` after the payment, without a reservation. -/
def createPaid (vm : VmKey) (owner : Option AccountId) (wallet : OwnerWallet) (token : Token)
    (sshPubkey : Nat) : RecoveryDesk :=
  if (desk.vms vm).isNone then
    (desk.reserve vm owner token sshPubkey).activate vm wallet owner owner
  else desk

def settle (vm : VmKey) (holders : List AccountId) (buyer : Option AccountId)
    (wallet : OwnerWallet) (allowLink : Bool) (fresh : AccountId) : RecoveryDesk :=
  let (owner, bound) := desk.bindPayer holders buyer wallet allowLink fresh
  bound.activate vm wallet owner owner

/-- The VM of a bundle or of a native intent, whose reservation has the order's owner. -/
def settleOrder (vm : VmKey) (owner : AccountId) (wallet : OwnerWallet) : RecoveryDesk :=
  desk.activate vm wallet none (some owner)

inductive Proof where
  | token (token : Token)
  | wallet (signer : Address) (mentionsVm : Bool)
  | ssh (key : Nat) (mentionsVm : Bool)

def proves (row : VmRow) : Proof → Bool
  | .token token => row.tokenHash = some token
  | .wallet signer mentionsVm => mentionsVm && row.ownerWallet = .evm signer
  | .ssh key mentionsVm => mentionsVm && row.sshPubkey = key

def noteSigned (account : AccountId) : Proof → RecoveryDesk
  | .wallet signer _ => { desk with uses := (account, signer, .signedClaim) :: desk.uses }
  | _ => desk

/-- `claim_vm`: an ownerless VM, its proof, and no deletion or retention. -/
def claim (vm : VmKey) (account : AccountId) (proof : Proof) : RecoveryDesk :=
  match desk.vms vm with
  | none => desk
  | some row =>
    if desk.isEnabled account && row.ownerAccountId.isNone && proves row proof &&
        !(row.deletionStarted || row.status = .destroyed || row.retained) then
      (desk.noteSigned account proof).setVm vm (some { row with
        ownerAccountId := some account
        tokenHash := none })
    else desk

/-- `_transfer_wallet_identity` -/
def transferWalletIdentity (account : AccountId) : OwnerWallet :=
  match desk.wallets account with
  | some address => .evm address
  | none => .account account

/-- `transfer_vm`, and `transfer_domain` with an attached VM; `pending` is work under way on
the attached domain. -/
def transfer (vm : VmKey) (target : AccountId) (pending : Bool) : RecoveryDesk :=
  match desk.vms vm with
  | none => desk
  | some row =>
    if desk.isEnabled target && !row.deletionStarted && row.status ≠ .destroyed &&
        !row.extensionResume && row.status ≠ .provisioning && !pending then
      desk.setVm vm (some { row with
        ownerAccountId := some target
        ownerWallet := desk.transferWalletIdentity target
        tokenHash := none })
    else desk

/-- The account is deleted, and its VMs are detached with fresh tokens; without VMs there is
nothing to detach. -/
def deleteAccount (account : AccountId) (fresh : VmKey → Token) : RecoveryDesk :=
  if (desk.accounts account).any fun row => !row.isAdmin then
    { desk with
      accounts := Function.update desk.accounts account none
      wallets := Function.update desk.wallets account none
      vms := fun vm => (desk.vms vm).map fun row =>
        if row.ownerAccountId = some account then
          { row with ownerAccountId := none, tokenHash := some (fresh vm) }
        else row }
  else desk

def writeLifecycle (vm : VmKey) (status : VMStatus) (deletionStarted retained resume : Bool) :
    RecoveryDesk :=
  match desk.vms vm with
  | none => desk
  | some row => desk.setVm vm (some { row with
      status := status
      deletionStarted := deletionStarted
      retained := retained
      extensionResume := resume })

/-- The count of the VMs of the account that the wallet has in `owner_wallet`, of those
listed. -/
def matchCount (listed : List VmKey) (account : AccountId) (address : Address) : Nat :=
  listed.countP fun vm => (desk.vms vm).any fun row =>
    row.ownerAccountId = some account && row.ownerWallet = .evm address

/-- The challenge is there, unused and young enough, the signer owns a VM under its account,
and the account is there and enabled. -/
def recoverable (listed : List VmKey) (nonce : Nonce) (signer : Address) : Option AccountId :=
  match desk.challenges nonce with
  | none => none
  | some challenge =>
    if !challenge.used && desk.now ≤ challenge.expiresAt &&
        desk.matchCount listed challenge.accountId signer ≠ 0 &&
        desk.isEnabled challenge.accountId then some challenge.accountId
    else none

/-- `recover_wallet_verify`, signed by the wallet. -/
def recoverWallet (listed : List VmKey) (nonce : Nonce) (signer : Address)
    (newPassword : Nat) : RecoveryDesk :=
  match desk.recoverable listed nonce signer, desk.challenges nonce with
  | some account, some challenge =>
    { desk with
      accounts := Function.update desk.accounts account
        ((desk.accounts account).map fun row => { row with passwordHash := some newPassword })
      challenges := Function.update desk.challenges nonce
        (some { challenge with used := true })
      recoveries := (account, signer) :: desk.recoveries }
  | _, _ => desk

end RecoveryDesk

open RecoveryDesk

inductive RecoveryStep where
  | tick
  | register (account : AccountId) (row : AccountRow)
  | toggle (account : AccountId) (disabled : Bool)
  | link (holders : List AccountId) (account : AccountId) (address : Address)
  | reserve (vm : VmKey) (owner : Option AccountId) (token : Token) (sshPubkey : Nat)
  | settle (vm : VmKey) (holders : List AccountId) (buyer : Option AccountId)
      (wallet : OwnerWallet) (allowLink : Bool) (fresh : AccountId)
  | settleOrder (vm : VmKey) (owner : AccountId) (wallet : OwnerWallet)
  | createPaid (vm : VmKey) (owner : Option AccountId) (wallet : OwnerWallet) (token : Token)
      (sshPubkey : Nat)
  | release (vm : VmKey)
  | claim (vm : VmKey) (account : AccountId) (proof : Proof)
  | transfer (vm : VmKey) (target : AccountId) (pending : Bool)
  | deleteAccount (account : AccountId) (fresh : VmKey → Token)
  | lifecycle (vm : VmKey) (status : VMStatus) (deletionStarted retained resume : Bool)
  | challenge (nonce : Nonce) (account : AccountId) (expiresAt : Time)
  | recover (listed : List VmKey) (nonce : Nonce) (signer : Address) (newPassword : Nat)

def recoveryStep (step : RecoveryStep) (desk : RecoveryDesk) : RecoveryDesk :=
  match step with
  | .tick => { desk with now := desk.now + 1 }
  | .register account row =>
    if (desk.accounts account).isNone then desk.setAccount account (some row) else desk
  | .toggle account disabled =>
    desk.setAccount account
      ((desk.accounts account).map fun row => { row with disabled := disabled })
  | .link holders account address => desk.linkWallet holders account address
  | .reserve vm owner token sshPubkey => desk.reserve vm owner token sshPubkey
  | .settle vm holders buyer wallet allowLink fresh =>
    desk.settle vm holders buyer wallet allowLink fresh
  | .settleOrder vm owner wallet => desk.settleOrder vm owner wallet
  | .createPaid vm owner wallet token sshPubkey =>
    desk.createPaid vm owner wallet token sshPubkey
  | .release vm => match desk.vms vm with
      | some row => if row.ownerWallet = .blank ∧ row.status = .provisioning then
          desk.setVm vm none else desk
      | none => desk
  | .claim vm account proof => desk.claim vm account proof
  | .transfer vm target pending => desk.transfer vm target pending
  | .deleteAccount account fresh => desk.deleteAccount account fresh
  | .lifecycle vm status deletionStarted retained resume =>
    desk.writeLifecycle vm status deletionStarted retained resume
  | .challenge nonce account expiresAt =>
    if (desk.challenges nonce).isNone then
      { desk with challenges :=
          Function.update desk.challenges nonce (some ⟨account, expiresAt, false⟩) }
    else desk
  | .recover listed nonce signer newPassword =>
    desk.recoverWallet listed nonce signer newPassword

def walletRecovery : Protocol RecoveryDesk RecoveryStep where
  step := recoveryStep
  may _ _ := True

structure RecoveryStart (desk : RecoveryDesk) : Prop where
  wallets : ∀ account, desk.wallets account = none
  vms : ∀ vm, desk.vms vm = none
  recoveries : desk.recoveries = []

/-- Every recovery was signed by a wallet that was used for the account, and no other wallet
can recover an account. -/
structure RecoveryKept (desk : RecoveryDesk) : Prop where
  done : ∀ account address, (account, address) ∈ desk.recoveries → desk.Used account address
  enabled : ∀ listed nonce address account,
    desk.recoverable listed nonce address = some account → desk.Used account address

end HyruleCloud.WalletRecovery
