import HyruleCloud.WalletRecovery

/-!
When a wallet that can recover an account is one that was used for it. A VM that is claimed by
its token or its SSH key brings its payer's wallet with it, and so does a reservation that is
claimed before it is paid.
-/

namespace HyruleCloud.WalletRecovery

open Interaction RecoveryDesk

/-- A VM claimed without its wallet's signature was paid by no wallet, or by one that was used
for the account; a payment finds the reservation with the buyer or with nobody. -/
def OwnPurchases (step : RecoveryStep) (desk : RecoveryDesk) : Prop :=
  match step with
  | .claim vm account (.token _) | .claim vm account (.ssh _ _) =>
    ∀ row address, desk.vms vm = some row → row.ownerWallet = .evm address →
      desk.Used account address
  | .settle vm _ buyer _ _ _ => ∀ row, desk.vms vm = some row →
      row.ownerAccountId = none ∨ row.ownerAccountId = buyer
  | .settleOrder vm owner _ => ∀ row, desk.vms vm = some row →
      row.ownerAccountId = none ∨ row.ownerAccountId = some owner
  | _ => True

def ownPurchases : Protocol RecoveryDesk RecoveryStep where
  step := recoveryStep
  may := OwnPurchases

def RowSafe (desk : RecoveryDesk) (row : VmRow) : Prop :=
  ∀ account address, row.ownerAccountId = some account → row.ownerWallet = .evm address →
    desk.Used account address

structure RecoverySafe (desk : RecoveryDesk) : Prop where
  vms : ∀ vm row, desk.vms vm = some row → RowSafe desk row
  wallets : ∀ account address, desk.wallets account = some address → desk.Used account address
  recoveries : ∀ account address, (account, address) ∈ desk.recoveries →
    desk.Used account address

variable {desk after : RecoveryDesk}

theorem used_grows (grown : ∀ entry ∈ desk.uses, entry ∈ after.uses) {account : AccountId}
    {address : Address} (used : desk.Used account address) : after.Used account address := by
  obtain ⟨use, listed⟩ := used
  exact ⟨use, grown _ listed⟩

theorem note_paid_used (account : AccountId) (address : Address) :
    (desk.notePaid (some account) (.evm address)).Used account address :=
  ⟨.paid, List.mem_cons_self⟩

namespace RecoverySafe

section
variable (safe : RecoverySafe desk)
include safe

theorem same (vms : after.vms = desk.vms)
    (wallets : after.wallets = desk.wallets) (recoveries : after.recoveries = desk.recoveries)
    (grown : ∀ entry ∈ desk.uses, entry ∈ after.uses) : RecoverySafe after where
  vms vm row known account address owner wallet := by
    rw [vms] at known
    exact used_grows grown (safe.vms vm row known account address owner wallet)
  wallets account address known := by
    rw [wallets] at known
    exact used_grows grown (safe.wallets account address known)
  recoveries account address listed := by
    rw [recoveries] at listed
    exact used_grows grown (safe.recoveries account address listed)

theorem setVm (vm : VmKey) (row : Option VmRow)
    (kept : ∀ new, row = some new → RowSafe desk new) : RecoverySafe (desk.setVm vm row) where
  vms other known_row known := by
    by_cases mine : other = vm
    · subst mine
      simp only [RecoveryDesk.setVm, Function.update_self] at known
      exact kept known_row known
    · simp only [RecoveryDesk.setVm, Function.update_of_ne mine] at known
      exact safe.vms other known_row known
  wallets := safe.wallets
  recoveries := safe.recoveries

theorem notePaid (account : Option AccountId)
    (wallet : OwnerWallet) : RecoverySafe (desk.notePaid account wallet) := by
  unfold RecoveryDesk.notePaid
  split
  · exact safe.same rfl rfl rfl fun _ listed => List.mem_cons_of_mem _ listed
  · exact safe

theorem link (account : AccountId) (address : Address) :
    RecoverySafe (desk.link account address) where
  vms vm row known holder wallet owner paid :=
    used_grows (fun _ listed => List.mem_cons_of_mem _ listed)
      (safe.vms vm row known holder wallet owner paid)
  wallets holder wallet known := by
    rcases update_cases known with ⟨rfl, ⟨⟩⟩ | ⟨_, known⟩
    · exact ⟨.linked, List.mem_cons_self⟩
    · exact used_grows (fun _ listed => List.mem_cons_of_mem _ listed)
        (safe.wallets holder wallet known)
  recoveries holder wallet listed :=
    used_grows (fun _ listed => List.mem_cons_of_mem _ listed)
      (safe.recoveries holder wallet listed)

theorem setAccount (account : AccountId) (row : Option AccountRow) :
    RecoverySafe (desk.setAccount account row) :=
  safe.same rfl rfl rfl fun _ listed => listed

theorem activate (vm : VmKey) (wallet : OwnerWallet)
    (owner purchaser : Option AccountId)
    (belongs : ∀ row account, desk.vms vm = some row →
      row.ownerAccountId.or owner = some account → purchaser = some account) :
    RecoverySafe (desk.activate vm wallet owner purchaser) := by
  unfold RecoveryDesk.activate
  split
  · exact safe
  rename_i row known
  split
  · apply (safe.notePaid purchaser wallet).setVm vm
    rintro new ⟨⟩ account address owned paid
    cases belongs row account known owned
    change wallet = .evm address at paid
    rw [paid]
    exact note_paid_used account address
  · exact safe

theorem noteSigned (account : AccountId) (proof : Proof) :
    RecoverySafe (desk.noteSigned account proof) := by
  unfold RecoveryDesk.noteSigned
  split
  · exact safe.same rfl rfl rfl fun _ listed => List.mem_cons_of_mem _ listed
  · exact safe

theorem claim (vm : VmKey) (account : AccountId) (proof : Proof)
    (own : OwnPurchases (.claim vm account proof) desk) :
    RecoverySafe (desk.claim vm account proof) := by
  unfold RecoveryDesk.claim
  split
  · exact safe
  rename_i row known
  split
  · rename_i passes
    apply (safe.noteSigned account proof).setVm vm
    rintro new ⟨⟩ holder address ⟨⟩ paid
    cases proof with
    | token | ssh => exact own row address known paid
    | wallet signer mentionsVm =>
      have signed : row.ownerWallet = .evm signer := by
        simp [proves] at passes
        exact passes.1.2.2
      rw [paid] at signed
      cases signed
      exact ⟨.signedClaim, List.mem_cons_self⟩
  · exact safe

theorem transfer (vm : VmKey) (target : AccountId) (pending : Bool) :
    RecoverySafe (desk.transfer vm target pending) := by
  unfold RecoveryDesk.transfer
  split
  · exact safe
  split
  · apply safe.setVm vm
    rintro new ⟨⟩ holder address ⟨⟩ paid
    unfold RecoveryDesk.transferWalletIdentity at paid
    split at paid
    · rename_i linked
      cases paid
      exact safe.wallets target address linked
    · cases paid
  · exact safe

theorem deleteAccount (account : AccountId)
    (fresh : VmKey → Token) : RecoverySafe (desk.deleteAccount account fresh) := by
  unfold RecoveryDesk.deleteAccount
  split
  · constructor
    · intro vm new stored holder address owned paid
      obtain ⟨row, known, is⟩ := Option.map_eq_some_iff.mp stored
      by_cases mine : row.ownerAccountId = some account
      · rw [if_pos mine] at is
        subst is
        cases owned
      · rw [if_neg mine] at is
        subst is
        exact safe.vms vm row known holder address owned paid
    · intro holder address linked
      rcases update_cases linked with ⟨rfl, ⟨⟩⟩ | ⟨_, linked⟩
      exact safe.wallets holder address linked
    · exact safe.recoveries
  · exact safe

theorem writeLifecycle (vm : VmKey) (status : VMStatus)
    (deletionStarted retained resume : Bool) :
    RecoverySafe (desk.writeLifecycle vm status deletionStarted retained resume) := by
  unfold RecoveryDesk.writeLifecycle
  split
  · exact safe
  rename_i row known
  apply safe.setVm vm
  rintro new ⟨⟩
  exact safe.vms vm row known

theorem reserve (vm : VmKey) (owner : Option AccountId)
    (token : Token) (sshPubkey : Nat) : RecoverySafe (desk.reserve vm owner token sshPubkey) := by
  unfold RecoveryDesk.reserve
  split
  · apply safe.setVm vm
    rintro new ⟨⟩ holder address _ paid
    cases paid
  · exact safe

theorem createPaid (vm : VmKey) (owner : Option AccountId)
    (wallet : OwnerWallet) (token : Token) (sshPubkey : Nat) :
    RecoverySafe (desk.createPaid vm owner wallet token sshPubkey) := by
  unfold RecoveryDesk.createPaid
  split
  · rename_i absent
    apply (safe.reserve vm owner token sshPubkey).activate
    intro row account known owned
    unfold RecoveryDesk.reserve at known
    simp only [if_pos absent, RecoveryDesk.setVm, Function.update_self] at known
    cases known
    simpa using owned
  · exact safe

theorem bind_payer (holders : List AccountId)
    (buyer : Option AccountId) (wallet : OwnerWallet) (allowLink : Bool) (fresh : AccountId) :
    RecoverySafe (desk.bindPayer holders buyer wallet allowLink fresh).2 ∧
      (desk.bindPayer holders buyer wallet allowLink fresh).2.vms = desk.vms ∧
      (∀ account, buyer = some account →
        (desk.bindPayer holders buyer wallet allowLink fresh).1 = some account) := by
  unfold RecoveryDesk.bindPayer
  split
  · split
    · split
      · exact ⟨safe, rfl, fun _ is => is⟩
      · exact ⟨safe, rfl, fun _ is => by cases is⟩
    · split
      · split
        · exact ⟨safe.link _ _, rfl, fun _ is => is⟩
        · exact ⟨safe, rfl, fun _ is => is⟩
      · split
        · exact ⟨(safe.setAccount _ _).link _ _, rfl, fun _ is => by cases is⟩
        · exact ⟨safe, rfl, fun _ is => by cases is⟩
  · exact ⟨safe, rfl, fun _ is => is⟩

theorem settle (vm : VmKey) (holders : List AccountId)
    (buyer : Option AccountId) (wallet : OwnerWallet) (allowLink : Bool) (fresh : AccountId)
    (own : ∀ row, desk.vms vm = some row →
      row.ownerAccountId = none ∨ row.ownerAccountId = buyer) :
    RecoverySafe (desk.settle vm holders buyer wallet allowLink fresh) := by
  obtain ⟨bound, vms, same_buyer⟩ := safe.bind_payer holders buyer wallet allowLink fresh
  apply bound.activate
  intro row account known owned
  rw [vms] at known
  rcases own row known with nobody | mine
  · rw [nobody, Option.none_or] at owned
    exact owned
  · cases row_owner : row.ownerAccountId with
    | none =>
      rw [row_owner, Option.none_or] at owned
      exact owned
    | some holder =>
      rw [row_owner, Option.some_or] at owned
      cases owned
      exact same_buyer account (mine.symm.trans row_owner)

theorem recoverable (listed : List VmKey) (nonce : Nonce)
    (signer : Address) (account : AccountId)
    (passes : desk.recoverable listed nonce signer = some account) :
    desk.Used account signer := by
  unfold RecoveryDesk.recoverable at passes
  split at passes
  · cases passes
  rename_i challenge known
  split at passes
  · rename_i all
    cases passes
    have counted : desk.matchCount listed challenge.accountId signer ≠ 0 := by
      simp only [Bool.and_eq_true, decide_eq_true_eq] at all
      exact all.1.2
    obtain ⟨vm, _, owns⟩ := List.countP_pos_iff.mp (Nat.pos_of_ne_zero counted)
    obtain ⟨row, stored, both⟩ := (Option.any_eq_true _ _).mp owns
    rw [Bool.and_eq_true, decide_eq_true_eq, decide_eq_true_eq] at both
    exact safe.vms vm row stored challenge.accountId signer both.1 both.2
  · cases passes

theorem recoverWallet (listed : List VmKey) (nonce : Nonce)
    (signer : Address) (newPassword : Nat) :
    RecoverySafe (desk.recoverWallet listed nonce signer newPassword) := by
  unfold RecoveryDesk.recoverWallet
  split
  · rename_i account challenge passes known
    constructor
    · exact safe.vms
    · exact safe.wallets
    · intro holder address noted
      rcases List.mem_cons.mp noted with now | before
      · cases now
        exact safe.recoverable listed nonce signer account passes
      · exact safe.recoveries holder address before
  · exact safe

end

end RecoverySafe

theorem recovery_step_safe (step : RecoveryStep) (desk : RecoveryDesk)
    (safe : RecoverySafe desk) (own : OwnPurchases step desk) :
    RecoverySafe (recoveryStep step desk) := by
  cases step with
  | tick => exact safe.same rfl rfl rfl fun _ listed => listed
  | register account row =>
    dsimp only [recoveryStep]
    split
    · exact safe.setAccount _ _
    · exact safe
  | toggle account disabled => exact safe.setAccount _ _
  | link holders account address =>
    dsimp only [recoveryStep, RecoveryDesk.linkWallet]
    split
    · exact safe.link account address
    · exact safe
  | reserve vm owner token sshPubkey => exact safe.reserve vm owner token sshPubkey
  | settle vm holders buyer wallet allowLink fresh =>
    exact safe.settle vm holders buyer wallet allowLink fresh own
  | settleOrder vm owner wallet =>
    apply safe.activate
    intro row account known owned
    rw [Option.or_none] at owned
    rcases own row known with nobody | mine
    · rw [nobody] at owned
      cases owned
    · exact mine.symm.trans owned
  | createPaid vm owner wallet token sshPubkey =>
    exact safe.createPaid vm owner wallet token sshPubkey
  | release vm =>
    dsimp only [recoveryStep]
    split
    · split
      · exact safe.setVm vm none (by rintro _ ⟨⟩)
      · exact safe
    · exact safe
  | claim vm account proof => exact safe.claim vm account proof own
  | transfer vm target pending => exact safe.transfer vm target pending
  | deleteAccount account fresh => exact safe.deleteAccount account fresh
  | lifecycle vm status deletionStarted retained resume =>
    exact safe.writeLifecycle vm status deletionStarted retained resume
  | challenge nonce account expiresAt =>
    dsimp only [recoveryStep]
    split
    · exact safe.same rfl rfl rfl fun _ listed => listed
    · exact safe
  | recover listed nonce signer newPassword =>
    exact safe.recoverWallet listed nonce signer newPassword

/-- Only wallets that were used for an account recover it, in every run in which claims
without a wallet's signature take VMs that no other wallet has paid, and payments find their
reservations unclaimed. -/
theorem recovery_by_used_wallets (desk : RecoveryDesk) (steps : List RecoveryStep)
    (start : RecoveryStart desk) (own : ownPurchases.admits desk steps) :
    RecoveryKept (ownPurchases.run desk steps) := by
  have started : RecoverySafe desk := by
    constructor
    · intro vm row known
      rw [start.vms vm] at known
      cases known
    · intro account address known
      rw [start.wallets account] at known
      cases known
    · intro account address listed
      rw [start.recoveries] at listed
      cases listed
  have safe := ownPurchases.run_keeps recovery_step_safe steps desk started own
  exact ⟨safe.recoveries, fun listed nonce address account =>
    safe.recoverable listed nonce address account⟩

section Runs

def emptyDesk : RecoveryDesk where
  now := 0
  accounts := fun _ => none
  wallets := fun _ => none
  vms := fun _ => none
  challenges := fun _ => none
  uses := []
  recoveries := []

theorem empty_desk : RecoveryStart emptyDesk := ⟨fun _ => rfl, fun _ => rfl, rfl⟩

/-- Account 1 buys a VM with its wallet, is transferred another one, and recovers. -/
def ownRecovery : List RecoveryStep :=
  [.register 1 ⟨false, false, none⟩, .reserve 10 (some 1) 7 3,
    .settle 10 [1] (some 1) (.evm 500) true 2, .challenge 4 1 100, .recover [10] 4 500 9]

theorem own_wallet_recovers : RecoveryKept (ownPurchases.run emptyDesk ownRecovery) := by
  apply recovery_by_used_wallets emptyDesk ownRecovery empty_desk
  refine ⟨trivial, trivial, ?_, trivial, trivial, trivial⟩
  intro row known
  cases known
  exact .inr rfl

def claimedVm : List RecoveryStep :=
  [.register 1 ⟨false, false, none⟩, .reserve 10 none 7 3,
    .settle 10 [1] none (.evm 500) false 2, .deleteAccount 2 (fun _ => 8),
    .claim 10 1 (.token 8), .challenge 4 1 100, .recover [10] 4 500 9]

theorem payer_recovers_claimer :
    ¬ ∀ desk steps, RecoveryStart desk → RecoveryKept (walletRecovery.run desk steps) := by
  intro always
  have kept := always emptyDesk claimedVm empty_desk
  have recovered : (1, 500) ∈ (walletRecovery.run emptyDesk claimedVm).recoveries := by
    decide +kernel
  obtain ⟨use, used⟩ := kept.done 1 500 recovered
  cases use
  all_goals exact absurd used (by decide +kernel)

end Runs

end HyruleCloud.WalletRecovery
