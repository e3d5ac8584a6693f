import HyruleCloud.KeyScopes

/-!
Chains of keys: as long as no request lacks its scope and no key mints one that outlives it,
a key at the end of a chain is good for nothing that the first was not good for.
-/

namespace HyruleCloud.KeyScopes

open Interaction AccountAccess

theorem validateScopes_subset {seen scopes valid : List String}
    (validated : validateScopes seen scopes = some valid) : ∀ scope ∈ valid, scope ∈ scopes := by
  induction scopes generalizing seen valid with
  | nil =>
    cases validated
    intro scope listed
    cases listed
  | cons scope rest ih =>
    unfold validateScopes at validated
    split at validated
    · cases validated
    split at validated
    · intro other listed
      exact List.mem_cons_of_mem _ (ih validated other listed)
    · obtain ⟨later, known, is⟩ := Option.map_eq_some_iff.mp validated
      subst is
      intro other listed
      rcases List.mem_cons.mp listed with same | listed
      · rw [same]
        exact List.mem_cons_self
      · exact List.mem_cons_of_mem _ (ih known other listed)

theorem expiresBy_refl (expiry : Option Time) : ExpiresBy expiry expiry :=
  fun last is => ⟨last, is, Nat.le_refl last⟩

theorem ExpiresBy.trans {a b c : Option Time} (first : ExpiresBy a b) (second : ExpiresBy b c) :
    ExpiresBy a c := by
  intro last is
  obtain ⟨middle, named, early⟩ := second last is
  obtain ⟨time, given, earlier⟩ := first middle named
  exact ⟨time, given, Nat.le_trans earlier early⟩

theorem ExpiresBy.live {expiry limit : Option Time} {now : Time} (by_ : ExpiresBy expiry limit)
    (live : (expiry.all fun time => decide (now ≤ time)) = true) :
    (limit.all fun time => decide (now ≤ time)) = true := by
  cases limit with
  | none => rfl
  | some last =>
    obtain ⟨time, is, early⟩ := by_ last rfl
    subst is
    have soon : now ≤ time := by simpa using live
    simpa using Nat.le_trans soon early

structure Within (row parent : ScopedKey) : Prop where
  account : row.account = parent.account
  scopes : ∀ scope ∈ row.scopes, scope ∈ parent.scopes
  expires : ExpiresBy row.expiresAt parent.expiresAt

theorem within_refl (row : ScopedKey) : Within row row where
  account := rfl
  scopes _ listed := listed
  expires := expiresBy_refl row.expiresAt

theorem Within.trans {a b c : ScopedKey} (first : Within a b) (second : Within b c) :
    Within a c where
  account := first.account.trans second.account
  scopes scope listed := second.scopes scope (first.scopes scope listed)
  expires := first.expires.trans second.expires

structure KeysSound (desk : KeyDesk) : Prop where
  fresh : ∀ key, desk.drawn ≤ key → desk.keys key = none
  within : ∀ key row issuer, desk.keys key = some row → row.issuer = some issuer →
    ∃ parent, desk.keys issuer = some parent ∧ Within row parent

variable {row : ScopedKey} {operation : Operation}

section Steps
variable {desk : KeyDesk} {account : AccountId} {key : KeyId} {request : KeyRequest}
  {issuer : Option KeyId}

theorem unminted_sound (unminted : Unminted desk) : KeysSound desk where
  fresh key _ := unminted key
  within key row issuer found := by
    rw [unminted key] at found
    cases found

theorem KeysSound.same {after : KeyDesk} (sound : KeysSound desk) (keys : after.keys = desk.keys)
    (drawn : after.drawn = desk.drawn) : KeysSound after where
  fresh := by
    rw [keys, drawn]
    exact sound.fresh
  within := by
    rw [keys]
    exact sound.within

theorem createApiKey_sound (sound : KeysSound desk)
    (inside : ∀ id, issuer = some id → ∃ parent, desk.keys id = some parent ∧
      parent.account = account ∧ (∀ scope ∈ request.scopes, scope ∈ parent.scopes) ∧
      ExpiresBy (request.expiresAt desk.now) parent.expiresAt) :
    KeysSound (desk.createApiKey account request issuer) := by
  unfold KeyDesk.createApiKey
  split
  · exact sound
  split
  · exact sound
  split
  · exact sound
  rename_i scopes validated
  have kept (id : KeyId) (row : ScopedKey) (found : desk.keys id = some row) :
      id ≠ desk.drawn := by
    intro same
    rw [sound.fresh id (Nat.le_of_eq same.symm)] at found
    cases found
  constructor
  · intro id late
    dsimp only at late ⊢
    have later : desk.drawn < id := late
    rw [put_other _ _ (Nat.ne_of_gt later)]
    exact sound.fresh id (Nat.le_of_lt later)
  · intro id row parent found minted
    dsimp only at found ⊢
    rcases update_cases found with ⟨rfl, ⟨⟩⟩ | ⟨_, found⟩
    · obtain ⟨row, listed, owner, subset, expires⟩ := inside parent minted
      refine ⟨row, ?_, owner.symm, ?_, expires⟩
      · rw [put_other _ _ (kept parent row listed)]
        exact listed
      · intro scope held
        exact subset scope (validateScopes_subset validated scope held)
    · obtain ⟨row, listed, within⟩ := sound.within id row parent found minted
      refine ⟨row, ?_, within⟩
      rw [put_other _ _ (kept parent row listed)]
      exact listed

theorem currentAccount_key {account : ScopedAccount}
    (known : desk.currentAccount key = some (account, row)) :
    desk.keys key = some row ∧ row.revoked = false ∧
      (row.expiresAt.all fun expiry => decide (desk.now ≤ expiry)) = true ∧
      desk.accounts row.account = some account ∧ account.disabled = false := by
  unfold KeyDesk.currentAccount at known
  split at known
  · cases known
  rename_i found listed
  split at known
  · cases known
  rename_i owner there
  split at known
  · cases known
  rename_i enabled
  cases known
  unfold KeyDesk.lookupApiKey at listed
  rw [Option.filter_eq_some_iff, Bool.and_eq_true, Bool.not_eq_true'] at listed
  exact ⟨listed.1, listed.2.1, listed.2.2, there, by simpa using enabled⟩

theorem currentAccount_isSome {account : ScopedAccount}
    (found : desk.keys key = some row) (unrevoked : row.revoked = false)
    (live : (row.expiresAt.all fun expiry => decide (desk.now ≤ expiry)) = true)
    (owner : desk.accounts row.account = some account) (enabled : account.disabled = false) :
    (desk.currentAccount key).isSome = true := by
  have listed : desk.lookupApiKey key = some row := by
    unfold KeyDesk.lookupApiKey
    rw [Option.filter_eq_some_iff, Bool.and_eq_true, Bool.not_eq_true']
    exact ⟨found, unrevoked, live⟩
  simp [KeyDesk.currentAccount, listed, owner, enabled]

section
variable (sound : KeysSound desk)
include sound

theorem createApiKeyEndpoint_sound (expires : ∀ row, desk.keys key = some row →
      ExpiresBy (request.expiresAt desk.now) row.expiresAt) :
    KeysSound (desk.createApiKeyEndpoint key request) := by
  unfold KeyDesk.createApiKeyEndpoint
  split
  · exact sound
  rename_i account row known
  split
  · rename_i held
    have found := (currentAccount_key known).1
    apply createApiKey_sound sound
    intro id is
    cases is
    exact ⟨row, found, rfl, held.2, expires row found⟩
  · exact sound

theorem revokeApiKey_sound : KeysSound (desk.revokeApiKey account key) := by
  unfold KeyDesk.revokeApiKey
  split
  · exact sound
  rename_i row found
  split
  · -- a key that is revoked keeps its scopes, its expiry and its issuer
    have kept (id : KeyId) (parent : ScopedKey) (listed : desk.keys id = some parent) :
        ∃ later, (desk.keys.put key { row with revoked := true }) id = some later ∧
          Within parent later ∧ Within later parent ∧ later.issuer = parent.issuer :=
      put_relates
        (R := fun old new => Within old new ∧ Within new old ∧ new.issuer = old.issuer) found
        (fun _ => ⟨within_refl _, within_refl _, rfl⟩)
        ⟨⟨rfl, fun _ held => held, expiresBy_refl _⟩,
          ⟨rfl, fun _ held => held, expiresBy_refl _⟩, rfl⟩ listed
    constructor
    · intro id late
      have absent := sound.fresh id late
      have other : id ≠ key := by
        intro same
        rw [same, found] at absent
        cases absent
      dsimp only
      rw [put_other _ _ other]
      exact absent
    · intro id later issuer listed minted
      dsimp only at listed ⊢
      cases before : desk.keys id with
      | none =>
        have other : id ≠ key := by
          intro same
          rw [same, found] at before
          cases before
        rw [put_other _ _ other, before] at listed
        cases listed
      | some old =>
        obtain ⟨written, there, _, back, same⟩ := kept id old before
        rw [listed] at there
        cases there
        obtain ⟨parent, has, within⟩ := sound.within id old issuer before (same.symm.trans minted)
        obtain ⟨parentLater, still, forth, _, _⟩ := kept issuer parent has
        exact ⟨parentLater, still, (back.trans within).trans forth⟩
  · exact sound

theorem step_sound (step : KeyStep) (may : mayRequest step desk) :
    KeysSound (keyStep step desk) := by
  have ownless (request : KeyRequest) (account : AccountId) :
      KeysSound (desk.createApiKey account request none) := by
    apply createApiKey_sound sound
    intro id is
    cases is
  cases step with
  | elapse | writeAccount | writeVm => exact sound.same rfl rfl
  | register account => exact ownless ⟨bootstrapScopes, none⟩ account
  | mintBySession account request =>
    simp only [keyStep]
    split
    · exact ownless request account
    · exact sound
  | mintByKey key request =>
    simp only [keyStep]
    split
    · exact createApiKeyEndpoint_sound sound may
    · exact sound
  | revokeBySession account key => exact revokeApiKey_sound sound
  | revokeByKey key target =>
    simp only [keyStep, KeyDesk.revokeApiKeyEndpoint]
    split
    · exact sound
    · split
      · exact revokeApiKey_sound sound
      · exact sound
  | request key route accepted =>
    simp only [keyStep]
    split
    · exact sound
    · exact sound.same rfl rfl

theorem run_sound {steps : List KeyStep}
    (admitted : keyRequests.admits desk steps) : KeysSound (keyRequests.run desk steps) := by
  apply keyRequests.run_keeps _ steps desk sound admitted
  intro step desk sound may
  exact step_sound sound step may

theorem descends_within {last first : KeyId}
    (descends : Descends desk.keys last first)
    (found : desk.keys last = some row) :
    ∃ head, desk.keys first = some head ∧ Within row head := by
  induction descends generalizing row with
  | self key => exact ⟨row, found, within_refl row⟩
  | minted listed issued _ ih =>
    rw [found] at listed
    cases listed
    obtain ⟨parent, has, within⟩ := sound.within _ _ _ found issued
    obtain ⟨head, there, rest⟩ := ih has
    exact ⟨head, there, within.trans rest⟩

end

theorem carriesOut_request {step : KeyStep}
    (carried : carriesOut step desk = some (key, operation)) :
    ∃ route, step = .request key route true ∧ route.operation = operation ∧
      desk.admits key route = true := by
  cases step with
  | request other route accepted =>
    simp only [carriesOut] at carried
    split at carried
    · rename_i lets
      rw [Bool.and_eq_true] at lets
      cases carried
      exact ⟨route, by rw [lets.1], rfl, lets.2⟩
    · cases carried
  | _ => cases carried

theorem admits_known {route : Route} (admits : desk.admits key route = true) :
    ∃ account row, desk.currentAccount key = some (account, row) := by
  unfold KeyDesk.admits at admits
  split at admits
  · cases admits
  · rename_i account row known
    exact ⟨account, row, known⟩

theorem carried_chained (sound : KeysSound desk) {step : KeyStep} (may : mayRequest step desk)
    {last first : KeyId}
    (carried : carriesOut step desk = some (last, operation))
    (descends : Descends desk.keys last first) :
    ∃ row, desk.keys first = some row ∧ operation.scope ∈ row.scopes ∧
      (row.revoked = true ∨ (desk.currentAccount first).isSome) := by
  obtain ⟨route, is, named, admits⟩ := carriesOut_request carried
  subst is
  subst named
  obtain ⟨account, row, known⟩ := admits_known admits
  obtain ⟨found, _, live, owner, enabled⟩ := currentAccount_key known
  obtain ⟨head, there, within⟩ := descends_within sound descends found
  have holds : route.operation.scope ∈ row.scopes := by
    by_contra lacks
    rcases may row found lacks with refused | refused
    · cases refused
    · rw [admits] at refused
      cases refused
  refine ⟨head, there, within.scopes _ holds, ?_⟩
  cases revoked : head.revoked with
  | true => exact Or.inl rfl
  | false =>
    right
    apply currentAccount_isSome there revoked (within.expires.live live)
    · rw [← within.account]
      exact owner
    · exact enabled

end Steps

/-! A reader that mints another key and a key that destroys a VM. -/

def exampleDesk : KeyDesk where
  accounts := Table.put (fun _ => none) 5 ⟨false, false⟩
  keys := fun _ => none
  vms := Function.update (fun _ => none) ⟨.request 0, 0⟩ (some (some 5))
  now := 0
  drawn := 0
  performed := []

def reader : KeyStep := .mintBySession 5 ⟨["vm:read", "api_keys:write"], some 1⟩

end HyruleCloud.KeyScopes
