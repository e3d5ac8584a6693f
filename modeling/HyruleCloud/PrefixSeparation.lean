import HyruleCloud.PrefixReleases

/-!
Which customer /64s are in use at the same time, and when one is let go. The gateway is
kept out of the pool by the reserved index alone, so it has to lie in the first /64.
-/

namespace HyruleCloud.CustomerPrefixes

open AddressBlocks Interaction

section Releases

variable {supernet : Network} {digest : VmId → Nat} {site : Site} {vm : VmId} {row new : PrefixRow}

def Holds (site next : Site) : Prop :=
  ∀ vm row, site.rows vm = some row →
    ∃ later, next.rows vm = some later ∧ later.prefixIndex = row.prefixIndex

def Released (site next : Site) : Prop :=
  ∀ vm row, site.rows vm = some row → row.prefixIndex ≠ none →
    (next.rows vm).bind (·.prefixIndex) = none → site.guestMayExist vm = false

theorem holds_released {next : Site} (holds : Holds site next) : Released site next := by
  intro vm row present assigned lost
  obtain ⟨later, there, same⟩ := holds vm row present
  rw [there, Option.bind_some, same] at lost
  exact absurd lost assigned

theorem holds_same {next : Site} (rows : next.rows = site.rows) : Holds site next := by
  intro vm row present
  exact ⟨row, rows ▸ present, rfl⟩

theorem holds_setRow (present : site.rows vm = some row)
    (same : new.prefixIndex = row.prefixIndex) : Holds site (site.setRow vm (some new)) := by
  intro other old found
  by_cases here : other = vm
  · subst here
    rw [present] at found
    cases found
    exact ⟨new, by simp [Site.setRow], same⟩
  · exact ⟨old, by simp [Site.setRow, here, found], rfl⟩

theorem setRow_released {next : Option PrefixRow} (gone : site.guestMayExist vm = false) :
    Released site (site.setRow vm next) := by
  intro other old found assigned lost
  by_cases here : other = vm
  · subst here
    exact gone
  · simp only [Site.setRow, Function.update_of_ne here] at lost
    rw [found] at lost
    exact absurd lost assigned

theorem dispatch_holds (present : site.rows vm = some row)
    (same : new.prefixIndex = row.prefixIndex) : Holds site (dispatch vm new site) := by
  unfold dispatch PrefixRow.stage
  by_cases unstaged : new.receipt = none ∧ new.xcpngUuid = none
  · rw [if_pos unstaged]
    exact @holds_setRow site vm row { new with receipt := some site.generations } present same
  · rw [if_neg unstaged]
    exact holds_setRow present same

theorem insertVmRow_holds (allocation : Allocation) : Holds site (insertVmRow allocation site) := by
  unfold insertVmRow
  split
  · exact holds_same rfl
  split
  · exact holds_same rfl
  rename_i free
  simp only [Bool.or_eq_true, decide_eq_true_eq, not_or, Bool.not_eq_true,
    Option.isSome_eq_false_iff, Option.isNone_iff_eq_none] at free
  -- the row that is there is of another VM
  have others : ∀ {other row}, site.rows other = some row → other ≠ allocation.vm := by
    intro other row found same
    rw [same, free.1] at found
    cases found
  split
  · intro other row found
    refine ⟨row, ?_, rfl⟩
    unfold dispatch PrefixRow.stage
    simp [Site.setRow, others found, found]
  · intro other row found
    exact ⟨row, by simp [Site.setRow, others found, found], rfl⟩

theorem unpaid_gone (kept : Kept supernet site) (present : site.rows vm = some row)
    (unpaid : row.unpaidReservation = true) : site.guestMayExist vm = false := by
  simp only [PrefixRow.unpaidReservation, Bool.and_eq_true, Bool.not_eq_true',
    decide_eq_true_eq] at unpaid
  obtain ⟨guestless, _, _, unrequested⟩ := (kept.rows vm row present).unpaid unpaid.1
  refine (mayExist_false present).mpr ⟨?_, fun _ => unrequested⟩
  intro uuid is
  rw [guestless] at is
  cases is

theorem clearPrefix_released {readFailed : Bool} (gone : site.guestMayExist vm = false) :
    Released site (clearPrefix vm readFailed site) := by
  unfold clearPrefix
  split
  · exact holds_released (holds_same rfl)
  · exact setRow_released gone

theorem writeUnlocked_released (kept : Kept supernet site) {read : UnlockedRead}
    (careful : read ∈ site.reads → read.Careful site) :
    Released site (writeUnlocked read site) := by
  unfold writeUnlocked
  split
  · rename_i listed
    have ready := careful listed
    intro vm row present assigned lost
    cases read with
    | markFailed other =>
      have released : Released { site with reads := site.reads.erase (.markFailed other) }
          (clearPrefix other false _) := clearPrefix_released ready
      exact released vm row present assigned lost
    | bundleFailed other status =>
      have released : Released { site with reads := site.reads.erase (.bundleFailed other status) }
          (clearPrefix other (status = .failed) _) := clearPrefix_released ready
      exact released vm row present assigned lost
    | release other =>
      by_cases same : vm = other
      · subst same
        unfold UnlockedRead.Careful at ready
        dsimp only at ready
        rw [present, Option.all_some] at ready
        exact unpaid_gone kept present ready
      · simp only [UnlockedRead.write, Site.setRow, Function.update_of_ne same] at lost
        rw [present] at lost
        exact absurd lost assigned
  · exact holds_released (holds_same rfl)

theorem recordUuid_holds {guest : Uuid} (present : site.rows vm = some row) :
    Holds site (recordUuid vm guest row site) := by
  unfold recordUuid
  split
  · exact holds_same rfl
  · exact holds_setRow present rfl

theorem step_released (kept : Kept supernet site) (action : Action)
    (careful : ∀ read, action = .write read → read ∈ site.reads → read.Careful site) :
    Released site (step supernet digest action site) := by
  cases action with
  | allocate vm paid =>
    refine holds_released (holds_same ?_)
    change (allocate supernet digest vm paid site).rows = site.rows
    unfold allocate
    split
    · rfl
    · rfl
  | insert allocation => exact holds_released (insertVmRow_holds allocation)
  | activate vm =>
    refine holds_released ?_
    change Holds site (activateVmReservation vm site)
    unfold activateVmReservation
    split
    · exact holds_same rfl
    rename_i row present
    dsimp only
    split
    · exact dispatch_holds present rfl
    · exact holds_setRow present rfl
  | purge vm =>
    change Released site (purgeReservation vm site)
    unfold purgeReservation
    split
    · exact holds_released (holds_same rfl)
    rename_i row present
    split
    · rename_i unpaid
      rw [Bool.and_eq_true] at unpaid
      exact setRow_released (unpaid_gone kept present unpaid.1)
    · exact holds_released (holds_same rfl)
  | readForRelease vm =>
    refine holds_released (holds_same ?_)
    change (readForRelease vm site).rows = site.rows
    unfold readForRelease
    split
    · rfl
    · rfl
  | readForMark vm =>
    refine holds_released (holds_same ?_)
    change (readForMark vm site).rows = site.rows
    unfold readForMark
    split
    · rfl
    · rfl
  | readForBundle vm =>
    refine holds_released (holds_same ?_)
    change (readForBundle vm site).rows = site.rows
    unfold readForBundle
    split
    · rfl
    · split
      · rfl
      · rfl
  | write read => exact writeUnlocked_released kept (careful read rfl)
  | attempt vm =>
    refine holds_released (holds_same ?_)
    change (beginAttempt vm site).rows = site.rows
    unfold beginAttempt
    repeat' split
    all_goals rfl
  | recover vm =>
    refine holds_released (holds_same ?_)
    simp only [step, recoverPreUuidGuest]
    repeat' split
    all_goals rfl
  | adopt vm =>
    refine holds_released ?_
    simp only [step]
    split
    · unfold adoptGuest
      split
      · exact holds_same rfl
      rename_i row present
      split
      · exact recordUuid_holds present
      · exact holds_same rfl
    · exact holds_same rfl
  | prepare vm =>
    refine holds_released ?_
    simp only [step]
    split
    · split
      · unfold prepareGuestResult
        split
        · exact holds_same rfl
        rename_i row present
        split
        · exact @holds_setRow site vm row { row with receipt := some site.generations }
            present rfl
        · exact holds_same rfl
      · exact holds_same rfl
    · exact holds_same rfl
  | clone request =>
    refine holds_released (holds_same ?_)
    change (makeClone request site).rows = site.rows
    unfold makeClone
    split
    · rfl
    · rfl
  | store vm guest =>
    refine holds_released ?_
    simp only [step]
    split
    · unfold storeUuid
      split
      · split
        · exact holds_same rfl
        · rename_i row present
          exact recordUuid_holds present
      · exact holds_same rfl
    · exact holds_same rfl
  | discard vm guest =>
    refine holds_released (holds_same ?_)
    simp only [step]
    repeat' split
    all_goals rfl
  | leave | abandon => exact holds_released (holds_same rfl)
  | failProvisioning vm =>
    refine holds_released ?_
    change Holds site (failProvisioning vm site)
    unfold failProvisioning
    split
    · exact holds_same rfl
    rename_i row present
    split
    · exact holds_setRow present rfl
    · exact holds_same rfl
  | power vm status =>
    refine holds_released ?_
    change Holds site (changePower vm status site)
    unfold changePower
    split
    · exact holds_same rfl
    rename_i row present
    split
    · exact holds_setRow present rfl
    · exact holds_same rfl
  | restart vm =>
    refine holds_released ?_
    change Holds site (restartProvisioning vm site)
    unfold restartProvisioning
    split
    · exact holds_same rfl
    rename_i row present
    split
    · exact dispatch_holds present rfl
    · exact holds_same rfl
  | restored vm =>
    refine holds_released ?_
    change Holds site (completeRestore vm site)
    unfold completeRestore
    split
    · exact holds_same rfl
    rename_i row present
    split
    · exact holds_setRow present rfl
    · exact holds_same rfl
  | claim vm =>
    refine holds_released ?_
    change Holds site (claimDeletion vm site)
    unfold claimDeletion
    split
    · exact holds_same rfl
    rename_i row present
    split
    · exact holds_same rfl
    · exact @holds_setRow site vm row { row with deletionStarted := true } present rfl
  | delete call reply =>
    refine holds_released (holds_same ?_)
    change (deleteGuest call reply site).rows = site.rows
    unfold deleteGuest
    split
    · rfl
    split
    · rfl
    · cases reply with
      | deleted => rfl
      | raised took => rfl
  | finish call dnsClean =>
    change Released site (finishDestroy call dnsClean site)
    unfold finishDestroy
    split
    · exact holds_released (holds_same rfl)
    rename_i ready
    rw [not_or, not_not] at ready
    split
    · exact holds_released (holds_same rfl)
    rename_i row present
    by_cases clears : (call.cleanupOk dnsClean && decide (row.xcpngUuid = call.uuid)) = true
    · exact @setRow_released site call.vm (some (row.destroyed call dnsClean))
        (cleanup_gone kept ready.1 ready.2 present clears)
    · refine holds_released ?_
      refine @holds_setRow site call.vm row (row.destroyed call dnsClean) present ?_
      unfold PrefixRow.destroyed
      rw [if_neg clears]
  | release vm =>
    change Released site (releaseDestroyedPrefix vm site)
    unfold releaseDestroyedPrefix
    split
    · exact holds_released (holds_same rfl)
    rename_i row present
    split
    · exact holds_released (holds_same rfl)
    split
    · exact holds_released (holds_same rfl)
    rename_i verified
    split
    · exact holds_released (holds_same rfl)
    · rename_i unreported
      exact setRow_released (release_gone kept present verified unreported)

theorem step_kept (kept : Kept supernet site) (longer : supernet.prefixLength ≤ 64)
    (many : 1 < 2 ^ (64 - supernet.prefixLength)) (action : Action)
    (careful : ∀ read, action = .write read → read ∈ site.reads → read.Careful site) :
    Kept supernet (step supernet digest action site) := by
  cases action with
  | allocate vm paid => exact allocate_kept kept longer many paid
  | insert allocation => exact insertVmRow_kept kept allocation
  | activate vm => exact activateVmReservation_kept kept
  | purge vm => exact purgeReservation_kept kept
  | readForRelease vm => exact readForRelease_kept kept
  | readForMark vm => exact readForMark_kept kept
  | readForBundle vm => exact readForBundle_kept kept
  | write read => exact writeUnlocked_kept kept (careful read rfl)
  | attempt vm => exact beginAttempt_kept kept
  | recover vm =>
    simp only [step]
    split
    · rename_i attempt begun
      split
      · exact recoverPreUuidGuest_kept kept begun
      · exact kept
    · exact kept
  | adopt vm =>
    simp only [step]
    split
    · rename_i index guest generation begun
      exact adoptGuest_kept kept (kept.stages vm _ begun)
    · exact kept
  | prepare vm =>
    simp only [step]
    split
    · rename_i attempt begun
      split
      · exact prepareGuestResult_kept kept begun
      · exact kept
    · exact kept
  | clone request => exact makeClone_kept kept request
  | store vm guest =>
    simp only [step]
    split
    · exact storeUuid_kept kept
    · exact kept
  | discard vm guest =>
    simp only [step]
    split
    · split
      · exact addDeleted_kept kept guest
      · exact kept
    · exact kept
  | leave vm => exact leave_kept kept
  | failProvisioning vm => exact failProvisioning_kept kept
  | power vm status => exact changePower_kept kept
  | restart vm => exact restartProvisioning_kept kept
  | restored vm => exact completeRestore_kept kept
  | claim vm => exact claimDeletion_kept kept
  | delete call reply => exact deleteGuest_kept kept call reply
  | abandon call =>
    exact carry_kept kept rfl rfl rfl rfl rfl rfl kept.allocated
      (fun other remains => kept.calls other (List.mem_of_mem_erase remains)) kept.reads
  | finish call dnsClean => exact finishDestroy_kept kept call dnsClean
  | release vm => exact releaseDestroyedPrefix_kept kept

end Releases

def prefixDesk (network : CustomerNetwork) (digest : VmId → Nat) : Protocol Site Action where
  step := step network.supernet digest
  may action site := ∀ read, action = .write read → read ∈ site.reads → read.Careful site

def Site.block (network : CustomerNetwork) (site : Site) (vm : VmId) : Option Network :=
  ((site.rows vm).bind (·.prefixIndex)).bind (prefixForIndex network.supernet)

structure Separate (network : CustomerNetwork) (site : Site) : Prop where
  held : ∀ vm, site.guestMayExist vm = true → ∃ block, site.block network vm = some block
  inside : ∀ vm block, site.block network vm = some block →
    block.Within network.supernet ∧ block.contains network.gateway = false ∧
      block.contains (vmAddressForPrefix block) = true
  given : ∀ vm block, site.block network vm = some block →
    ∀ guest ∈ site.guests, guest.request.vm = vm →
      prefixForIndex network.supernet guest.request.index = some block
  apart : ∀ vm other block next, vm ≠ other → site.block network vm = some block →
    site.block network other = some next → block.Apart next

def Allocates (network : CustomerNetwork) (digest : VmId → Nat) (site : Site) : Prop :=
  ∀ vm, match allocateCustomerPrefix network.supernet digest site.used vm with
    | some (index, block) => Usable network.supernet index ∧ index ∉ site.used ∧
        prefixForIndex network.supernet index = some block
    | none => ∀ index, Usable network.supernet index → index ∈ site.used

section Runs

variable {network : CustomerNetwork} {digest : VmId → Nat} {site : Site}

theorem accepted_pool (network : CustomerNetwork) :
    network.supernet.prefixLength ≤ 64 ∧ 1 < 2 ^ (64 - network.supernet.prefixLength) := by
  have accepted := network.accepted
  unfold validateCustomerNetworkSettings customerPrefixCount at accepted
  simp only [Bool.and_eq_true] at accepted
  have pool := accepted.1.1.1.2
  split at pool
  · cases pool
  · rename_i short
    exact ⟨Nat.le_of_not_lt short, of_decide_eq_true pool⟩

theorem block_some {vm : VmId} {block : Network} (found : site.block network vm = some block) :
    ∃ row index, site.rows vm = some row ∧ row.prefixIndex = some index ∧
      prefixForIndex network.supernet index = some block := by
  obtain ⟨index, held, is⟩ := Option.bind_eq_some_iff.mp found
  obtain ⟨row, present, holds⟩ := Option.bind_eq_some_iff.mp held
  exact ⟨row, index, present, holds, is⟩

theorem kept_allocates (network : CustomerNetwork) (digest : VmId → Nat) (site : Site) :
    Allocates network digest site := by
  have ⟨longer, many⟩ := accepted_pool network
  intro vm
  have ⟨finds, sound⟩ := @allocateCustomerPrefix_spec network.supernet digest site.used vm longer many
  split
  · rename_i index block chosen
    exact sound index block chosen
  · rename_i nothing
    intro index usable
    by_contra free
    obtain ⟨found, block, chosen⟩ := finds ⟨index, usable, free⟩
    rw [nothing] at chosen
    cases chosen

theorem kept_separate (kept : Kept network.supernet site)
    (reserved : ∀ block, prefixForIndex network.supernet 0 = some block →
      block.contains network.gateway = true) : Separate network site := by
  have ⟨longer, _⟩ := accepted_pool network
  constructor
  · intro vm may
    cases present : site.rows vm with
    | none =>
      unfold Site.guestMayExist at may
      rw [present] at may
      cases may
    | some row =>
      have own := kept.rows vm row present
      cases holds : row.prefixIndex with
      | none =>
        have ⟨gone, waiting⟩ := own.guestless holds
        have never := (mayExist_false present).mpr
          ⟨gone, fun guestless => (waiting guestless).2⟩
        rw [never] at may
        cases may
      | some index =>
        obtain ⟨block, is⟩ := usable_block longer (own.ranged index holds)
        refine ⟨block, ?_⟩
        unfold Site.block
        rw [present, Option.bind_some, holds, Option.bind_some, is]
  · intro vm block found
    obtain ⟨row, index, present, holds, is⟩ := block_some found
    have usable := (kept.rows vm row present).ranged index holds
    refine ⟨Block.part_within is, ?_, ?_⟩
    · -- the gateway lies in the /64 of the reserved index
      have positive : 0 < 2 ^ (64 - network.supernet.prefixLength) := Nat.two_pow_pos _
      obtain ⟨first, at_⟩ := @Block.part_isSome 128 network.supernet 64 0 longer (by decide) positive
      exact Block.parts_apart at_ is (by have := usable.1; omega) _ (reserved first at_)
    · rw [Block.contains_iff]
      unfold vmAddressForPrefix customerVmAddressHostId Block.size
      rw [(Block.part_some is).2.2.2]
      exact ⟨Nat.le_add_right _ _, Nat.add_lt_add_left (by decide) _⟩
  · intro vm block found guest listed of_
    obtain ⟨row, index, present, holds, is⟩ := block_some found
    have requested := (kept.made guest listed).1
    rw [((kept.rows vm row present).indexed index holds).1 _ requested of_]
    exact is
  · intro vm other block next differ found also
    obtain ⟨row, index, present, holds, is⟩ := block_some found
    obtain ⟨second, place, there, too, at_⟩ := block_some also
    refine Block.parts_apart is at_ ?_
    intro same
    rw [← same] at too
    exact differ (kept.unique vm other row second index present there holds too)

/-- In every state of a run whose unlocked writes find no guest to lose, the /64s in use are
apart, in the supernet and without the gateway, and no step lets go of the /64 of a guest. -/
theorem prefixes_kept (network : CustomerNetwork) (digest : VmId → Nat)
    (reserved : ∀ block, prefixForIndex network.supernet 0 = some block →
      block.contains network.gateway = true)
    (actions : List Action) (action : Action)
    (admitted : (prefixDesk network digest).admits Site.empty (actions ++ [action])) :
    let before := (prefixDesk network digest).run Site.empty actions
    let after := (prefixDesk network digest).step action before
    Separate network before ∧ Separate network after ∧ Released before after ∧
      Allocates network digest before := by
  have ⟨longer, many⟩ := accepted_pool network
  have ⟨earlier, last, _⟩ := ((prefixDesk network digest).admits_append _ _ _).mp admitted
  have steps : ∀ action site, Kept network.supernet site →
      (prefixDesk network digest).may action site →
        Kept network.supernet ((prefixDesk network digest).step action site) :=
    fun action site kept careful => step_kept kept longer many action careful
  have kept := (prefixDesk network digest).run_keeps steps actions Site.empty
    (kept_empty network.supernet) earlier
  dsimp only
  refine ⟨kept_separate kept reserved, kept_separate (steps action _ kept last) reserved, ?_, ?_⟩
  · exact step_released kept action last
  · exact kept_allocates network digest _

end Runs

/-! Runs over a supernet with one /64 to give away. -/

instance (read : UnlockedRead) (site : Site) : Decidable (read.Careful site) :=
  match read with
  | .markFailed vm => inferInstanceAs (Decidable (site.guestMayExist vm = false))
  | .bundleFailed vm _ => inferInstanceAs (Decidable (site.guestMayExist vm = false))
  | .release vm =>
    inferInstanceAs (Decidable ((site.rows vm).all (·.unpaidReservation) = true))

def careful (action : Action) (site : Site) : Bool :=
  match action with
  | .write read => read ∉ site.reads || read.Careful site
  | _ => true

theorem careful_may {network : CustomerNetwork} {digest : VmId → Nat} (action : Action)
    (site : Site) (passed : careful action site = true) :
    (prefixDesk network digest).may action site := by
  intro read is listed
  rw [is] at passed
  simpa [careful, listed] using passed

def smallNetwork : CustomerNetwork where
  supernet := ⟨0, 63, by decide, by decide, by decide⟩
  gateway := 1
  dns := [some 1]
  accepted := by decide

def crossedNetwork : CustomerNetwork where
  supernet := ⟨0, 63, by decide, by decide, by decide⟩
  gateway := 2 ^ 64 + 1
  dns := [some 1]
  accepted := by decide

def bundleVm : VmId := ⟨.order 0, 0⟩

def otherVm : VmId := ⟨.request 0, 0⟩

/-- A reservation fails before its payment, and the next VM is delivered and destroyed. -/
def reuseRun : List Action :=
  [.allocate bundleVm false, .insert ⟨bundleVm, 1, false⟩, .readForMark bundleVm,
    .write (.markFailed bundleVm), .allocate otherVm true, .insert ⟨otherVm, 1, true⟩,
    .attempt otherVm, .recover otherVm, .prepare otherVm, .clone ⟨otherVm, 1, 1⟩,
    .store otherVm 0, .power otherVm .ready, .claim otherVm,
    .delete ⟨otherVm, some 0, .ready, false, false⟩ .deleted]

theorem reused_prefix_kept :
    let desk := prefixDesk smallNetwork fun _ => 0
    let before := desk.run Site.empty reuseRun
    let after := desk.step (.finish ⟨otherVm, some 0, .ready, false, true⟩ true) before
    Separate smallNetwork before ∧ Separate smallNetwork after ∧ Released before after ∧
      Allocates smallNetwork (fun _ => 0) before := by
  apply prefixes_kept
  · intro block first
    obtain ⟨_, _, starts, is⟩ := Block.part_some first
    rw [Block.contains_iff]
    unfold Block.size
    rw [starts, is]
    decide
  · exact (prefixDesk smallNetwork fun _ => 0).passes_admits careful careful_may _ _
      (by decide +kernel)

/-- The guest of the bundle is kept for its diagnosis when its setup fails, and the failure of the
order lets its /64 go to the next VM. -/
def sharedRun : List Action :=
  [.allocate bundleVm false, .insert ⟨bundleVm, 1, false⟩, .activate bundleVm,
    .attempt bundleVm, .recover bundleVm, .prepare bundleVm, .clone ⟨bundleVm, 1, 1⟩,
    .store bundleVm 0, .failProvisioning bundleVm, .readForBundle bundleVm,
    .write (.bundleFailed bundleVm .failed), .allocate otherVm true, .insert ⟨otherVm, 1, true⟩,
    .attempt otherVm, .recover otherVm, .prepare otherVm, .clone ⟨otherVm, 3, 1⟩,
    .store otherVm 1]

def sharedSite : Site := (prefixDesk smallNetwork fun _ => 0).run Site.empty sharedRun

/-- The VM whose clone is being made has the /64 of the gateway. -/
def crossedSite : Site := (prefixDesk crossedNetwork fun _ => 0).run Site.empty
  [.allocate otherVm true, .insert ⟨otherVm, 1, true⟩, .attempt otherVm, .recover otherVm,
    .prepare otherVm]

/-- Two guests have one /64, which only one of their rows holds; and a gateway that the settings
allow lies in a customer's /64. -/
theorem prefix_shared_by_guests :
    (sharedSite.guests = [⟨1, otherVm, 3, 1⟩, ⟨0, bundleVm, 1, 1⟩] ∧ sharedSite.deleted = [] ∧
        sharedSite.guestMayExist bundleVm = true ∧ ¬ Separate smallNetwork sharedSite) ∧
      ¬ Separate crossedNetwork crossedSite := by
  constructor
  · refine ⟨by decide +kernel, by decide +kernel, by decide +kernel, fun separate => ?_⟩
    obtain ⟨block, holds⟩ := separate.held bundleVm (by decide +kernel)
    have lost : sharedSite.block smallNetwork bundleVm = none := by decide +kernel
    rw [lost] at holds
    cases holds
  · intro separate
    obtain ⟨block, holds⟩ := separate.held otherVm (by decide +kernel)
    have gateway := (separate.inside otherVm block holds).2.1
    have there : (crossedSite.block crossedNetwork otherVm).all
        (fun block => block.contains crossedNetwork.gateway) = true := by decide +kernel
    rw [holds, Option.all_some, gateway] at there
    cases there

end HyruleCloud.CustomerPrefixes
