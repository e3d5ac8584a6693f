import HyruleCloud.JobRules

/-!
The programs of one job, from the bottom up. The quiet ones keep whatever their
execution relies on. The others carry what `w` knows about its order through its
stages, up to the point where the order is concluded or may be failed.
-/

namespace HyruleCloud

open Interaction

section Durable
variable {w : ProcessId} {id : OrderId} {fqdn : Fqdn}

theorem durable_stands (stage : OrderStatus → Prop) : Durable w (Stands w id stage) :=
  fun _ _ spares => stands_spared spares

theorem durable_holds : Durable w (HoldsRow w id fqdn) := fun _ _ spares => holds_spared spares

theorem durable_unfailed : Durable w (Unfailed w id fqdn) :=
  fun _ _ spares => unfailed_spared spares

theorem durable_sees {row : DomainRow} : Durable w (Sees w fqdn row) :=
  fun _ _ spares => sees_spared spares

theorem durable_refundable : Durable w (Refundable w id) :=
  fun _ _ spares => refundable_spared spares

theorem durable_exists (order : DomainOrderRow) : Durable w (Exists id order) :=
  fun _ _ spares => exists_spared spares

theorem durable_present : Durable w (Present id) := fun _ _ spares present => by
  obtain ⟨order, found⟩ := present
  obtain ⟨later, there, _⟩ := spares.orders id order found
  exact ⟨later, there⟩

theorem durable_registered : Durable w (Registered id fqdn) :=
  fun _ _ spares => registered_spared spares

theorem durable_provided : Durable w (Provided fqdn) := fun _ _ spares => provided_spared spares

theorem durable_concluded : Durable w fun d => Concludes id d ∧ Present id d :=
  fun _ _ spares holds => by
    obtain ⟨concludes, order, found⟩ := holds
    exact ⟨concludes_spared spares ⟨order, found, rfl⟩ concludes,
      durable_present _ _ spares ⟨order, found⟩⟩

theorem durable_marked (mark : Option Mark) : Durable w fun d => d.marked w = mark :=
  fun _ _ spares same => spares.marked.trans same

theorem durable_owing (owing : Option OrderId) : Durable w fun d => d.owing w = owing :=
  fun _ _ spares same => spares.owing.trans same

end Durable

variable {β : Type}

theorem bundled_quiet (request : BundleReq β) :
    Within JobReq.isQuiet (bundled request) := (within_perform _).mpr trivial

theorem readRows_quiet (query : Registry → β) :
    Within JobReq.isQuiet (readRows query) := (within_perform _).mpr trivial

theorem remote_quiet {request : RemoteReq β} (query : request.submits = false) :
    Within JobReq.isQuiet (remote request) := (within_perform _).mpr query

theorem session_quiet {request : SessionReq β} (quiet : request.isQuiet = true) :
    Within JobReq.isQuiet (session request) := (within_perform _).mpr quiet

theorem reserveBundleVm_quiet (id : OrderId) (bundle : Bundle) (fallbackAutoDomain : Bool) :
    Within JobReq.isQuiet (reserveBundleVm id bundle fallbackAutoDomain) := by
  refine within_bind (bundled_quiet _) fun _ => within_bind (bundled_quiet _) fun status => ?_
  cases status with
  | none => exact within_raise _
  | some status => exact within_ret status

theorem provisionBundle_quiet (id : OrderId) (fallbackAutoDomain : Bool) :
    Within JobReq.isQuiet (provisionBundle id fallbackAutoDomain) := by
  refine within_bind (bundled_quiet _) fun plan => ?_
  cases plan with
  | none => exact within_ret ()
  | some bundle =>
    have reserve (handler : Err → Job VMStatus)
        (handled : ∀ error, Within JobReq.isQuiet (handler error)) :=
      within_rescue (reserveBundleVm_quiet id bundle fallbackAutoDomain) handled
    have start (status : VMStatus) : Within JobReq.isQuiet (do
        bundled (.linkQuoteVm bundle.quoteId bundle.vm)
        bundled (.storeOrderVm id bundle.vm)
        if status = .failed then .raise (.runtime "the planned bundle VM is failed")
        else if status = .provisioning then bundled (.startProvisioning bundle.vm)
        else pure () : Job Unit) := by
      refine within_bind (bundled_quiet _) fun _ => within_bind (bundled_quiet _) fun _ => ?_
      split
      · exact within_raise _
      · split
        · exact bundled_quiet _
        · exact within_ret ()
    cases fallbackAutoDomain with
    | true =>
      exact within_bind (reserve _ fun error =>
        within_bind (bundled_quiet _) fun _ => within_raise error) start
    | false =>
      refine within_bind (bundled_quiet _) fun _ => within_bind (reserve _ fun error =>
        within_bind (bundled_quiet _) fun _ => within_bind (bundled_quiet _) fun _ =>
          within_raise error) start

theorem ensureManagedZone_quiet (fqdn : Fqdn) (provider : ProviderId) :
    Within JobReq.isQuiet (ensureManagedZone fqdn provider) := by
  refine within_bind (readRows_quiet _) fun row => ?_
  cases row with
  | none => exact within_raise _
  | some domain =>
    refine within_bind (remote_quiet rfl) fun _ => ?_
    cases domain.managedDnssec with
    | true =>
      exact within_bind (remote_quiet rfl) fun _ => within_bind (remote_quiet rfl) fun _ =>
        within_bind (remote_quiet rfl) fun _ => session_quiet rfl
    | false => exact within_bind (remote_quiet rfl) fun _ => session_quiet rfl

theorem initializeZone_quiet (fqdn : Fqdn) (provider : ProviderId) :
    Within JobReq.isQuiet (initializeZone fqdn provider) :=
  within_rescue (ensureManagedZone_quiet fqdn provider) fun error =>
    within_bind (session_quiet rfl) fun _ => within_raise error

theorem identify_quiet (fqdn : Fqdn) (result : ProviderResult) :
    Within JobReq.isQuiet (identify fqdn result) := by
  unfold identify
  split
  · exact within_ret _
  refine within_bind (remote_quiet rfl) fun found => ?_
  cases found with
  | none => exact within_raise _
  | some existing =>
    dsimp only
    split
    · exact within_ret _
    · exact within_raise _

theorem askAgain_quiet (fqdn : Fqdn) (domain : DomainRow) :
    Within JobReq.isQuiet (askAgain fqdn domain) := by
  unfold askAgain
  split
  · exact within_bind (remote_quiet rfl) fun _ => within_ret _
  split
  · exact within_ret _
  refine within_bind (remote_quiet rfl) fun found => ?_
  cases found with
  | none => exact within_ret _
  | some result =>
    dsimp only
    split
    · exact within_raise _
    · exact within_ret _

variable {P : Registry → Prop} {error : Err} {d : Registry}

variable {id : OrderId}

variable {F : Registry → Prop} {α : Type}

section Rules
variable {config : DomainConfig} {prompt : Prop} {w : ProcessId}

def Bundled (id : OrderId) (d : Registry) : Prop :=
  ∃ order, d.orders id = some order ∧ order.vmQuoteId ≠ none

theorem durable_bundled : Durable w (Bundled id) := fun _ _ spares bundled => by
  obtain ⟨order, found, vm⟩ := bundled
  obtain ⟨later, there, proceeds⟩ := spares.orders id order found
  exact ⟨later, there, by rw [terms_quote proceeds.terms]; exact vm⟩

theorem planBundle_rule (durable : Durable w P) :
    JobTriple config prompt w P (bundled (.planBundle id))
      (outcome (fun plan d => P d ∧ (plan.isSome = true → Bundled id d))
        fun error _ => error.failsOrder = false) := by
  refine triple_perform (.bundle (.planBundle id)) (durable_stable durable) job_dies
    fun d choice next reply orderly holds _ ran => ?_
  have executed : transact (planBundle id choice.drawn) choice.fate d = (next, reply) :=
    Option.some.inj ran
  obtain ⟨kept, spared⟩ := unobtrusive_step (w := w)
    (bundle_unobtrusive (.planBundle id) choice) orderly executed
  refine ⟨kept.orderly, kept.spares, ?_⟩
  have bundle (value : Option Bundle) (next : Registry)
      (done : planBundle id choice.drawn d = .ok (next, value)) (some : value.isSome = true) :
      Bundled id d := by
    unfold planBundle at done
    split at done
    · cases done
      cases some
    · rename_i order found
      split at done
      · cases done
        cases some
      · rename_i quoted
        exact ⟨order, found, by rw [quoted]; nofun⟩
  rcases transact_cases _ _ _ _ _ executed with ⟨same, error, replied, cause⟩ |
    ⟨value, done, _, replied⟩ | ⟨value, done, _, replied⟩
  · subst replied
    rcases cause with failed | refused
    · rw [failed] at executed
      cases executed
      rfl
    · unfold planBundle at refused
      split at refused
      · cases refused
      split at refused
      · cases refused
      · split at refused <;> cases refused
        rfl
  · subst replied
    exact ⟨durable _ _ spared holds, fun some =>
      durable_bundled _ _ spared (bundle value next done some)⟩
  · subst replied
    rfl

theorem provisionBundle_failing :
    JobTriple config prompt w (Stands w id (· = .active)) (provisionBundle id false)
      (outcome (fun _ _ => True) (Failing w id)) := by
  refine triple_bind (planBundle_rule (durable_stands _)) (fun plan => ?_)
    fun error d _ quiet => quiet_failing quiet
  cases plan with
  | none => exact triple_ret () fun _ _ _ => trivial
  | some bundle =>
    have rest := fun p within => @quiet_rule config prompt w Unit p
      (fun d => Stands w id (· = .active) d ∧ Bundled id d) within
      (durable_and (durable_stands _) durable_bundled)
    refine triple_weaken (rest _ ?_) (fun d _ holds => ⟨holds.1, holds.2 rfl⟩) ?_
    · exact (provisionBundle_quiet id false).2 (.ok (some bundle))
    · rintro (error | value) d _ ⟨active, order, found, vm⟩
      · intro _ known
        obtain ⟨unpaid, _⟩ := active known
        exact ⟨unpaid, order, found, fun single => absurd single vm⟩
      · trivial

theorem keepVm_rule (id : OrderId) (order : DomainOrderRow) (durable : Durable w P) :
    JobTriple config prompt w P (keepVm id order) (outcome (fun _ => P) fun _ _ => False) := by
  unfold keepVm
  split
  · have built : Within JobReq.isQuiet ((provisionBundle id true).bind fun _ => pure true) :=
      within_bind (provisionBundle_quiet id true) fun _ => within_ret true
    exact triple_rescue (quiet_rule built durable) (fun _ _ _ holds => holds) fun _ =>
      triple_ret false fun _ _ holds => holds
  · exact triple_ret false fun _ _ holds => holds

theorem refund_recordable {order : DomainOrderRow} {code : String} {amount : Usd}
    (payable : Payable order) (positive : 0 < amount) :
    buildRefundEvent id order code (some amount) ≠ .error error := by
  have charged : ¬ amount ≤ 0 := not_le.mpr positive
  cases native : order.paymentMethod.isNative with
  | true => simp [buildRefundEvent, buildOwedEvent, native, charged]
  | false =>
    obtain ⟨payer, paid⟩ := Option.isSome_iff_exists.mp
      (payable.payer.resolve_left (by simp [native]))
    simp [buildRefundEvent, buildOwedEvent, native, paid, charged]

theorem commitFailure_commits {code : String} {amount : Usd} {held : Bool}
    (orderly : Orderly d) (positive : 0 < amount) :
    commitFailure w id code amount held d ≠ .error error := by
  intro refused
  unfold commitFailure at refused
  split at refused
  · cases refused
  rename_i order found
  have payable := orderly.ledgers.payable id order found
  dsimp only at refused
  split at refused
  · cases refused
  split at refused
  · rename_i unbuilt
    refine refund_recordable ?_ positive unbuilt
    exact @terms_payable order _ rfl payable
  · cases refused

/-- `_fail_paid_order` ends an order that can still be refunded. When the refund of
a failed job is outstanding, it does not stop before the refund is recorded. -/
theorem failPaidOrder_rule (outstanding : Prop) (id : OrderId) (code : String) :
    JobTriple config prompt w
      (fun d => (Refundable w id d ∧ (outstanding → prompt ∧ d.owing w = some id)) ∧ Present id d)
      (failPaidOrder id code)
      (outcome (fun _ d => Concludes id d ∧ (outstanding → d.owing w = none))
        fun error _ => error.failsOrder = false ∧ ¬ outstanding) := by
  have durable : Durable w fun d =>
      (Refundable w id d ∧ (outstanding → prompt ∧ d.owing w = some id)) ∧ Present id d :=
    durable_and (durable_and durable_refundable fun a b spares owing out =>
      ⟨(owing out).1, durable_owing _ a b spares (owing out).2⟩) durable_present
  have never {error : Err} {d : Registry}
      (stops : error.failsOrder = false ∧ ((Refundable w id d ∧
        (outstanding → prompt ∧ d.owing w = some id)) ∧ Present id d) ∧
        (prompt → d.owing w = none)) : error.failsOrder = false ∧ ¬ outstanding := by
    refine ⟨stops.1, fun out => ?_⟩
    obtain ⟨prompted, owing⟩ := stops.2.1.1.2 out
    rw [stops.2.2 prompted] at owing
    cases owing
  refine triple_bind (read_rule _ (fun value d => ∃ order, value = some order ∧
    Exists id order d ∧ Payable order) durable fun d orderly holds => ?_) (fun value => ?_)
    fun error d _ stops => never stops
  · obtain ⟨order, found⟩ := holds.2
    exact ⟨order, found, ⟨order, found, rfl⟩, orderly.ledgers.payable id order found⟩
  · cases value with
    | none =>
      intro d _ holds
      obtain ⟨_, _, same, _⟩ := holds
      cases same
    | some order =>
      have known : Durable w fun d => ((Refundable w id d ∧
          (outstanding → prompt ∧ d.owing w = some id)) ∧ Present id d) ∧ Exists id order d :=
        durable_and durable (durable_exists order)
      intro d orderly holds
      obtain ⟨holds, here, same, present, payable⟩ := holds
      cases same
      refine triple_bind (keepVm_rule id order known) (fun kept => ?_) nofun d orderly
        ⟨holds, present⟩
      refine triple_bind (viewing_rule (fun d => (d, lookHeld id order.fqdn d))
        (fun _ _ => rfl) (Q := fun held d => (((Refundable w id d ∧
          (outstanding → prompt ∧ d.owing w = some id)) ∧ Present id d) ∧ Exists id order d) ∧
          (held = true → HoldsUnconfirmed w id order.fqdn d)) known
        fun d next value orderly holds looked => ?_) (fun held => ?_)
        fun error d _ stops => never ⟨stops.1, stops.2.1.1, stops.2.2⟩
      · cases looked
        exact ⟨.refl orderly, holds, lookHeld_holds⟩
      · refine commit_rule (fun _ => commitFailure w id code
            (if kept then order.domainAmountUsd else order.amountUsd) held) (fun _ _ => rfl)
          (durable_and known fun _ _ spares holds held => unconfirmed_spared spares (holds held))
          (fun _ d next value orderly holds current done => ?_)
          (fun _ d error orderly _ refused => ?_)
          fun d holds settled => ?_
        · obtain ⟨⟨⟨⟨refundable, owes⟩, _⟩, later, found, terms⟩, unconfirmed⟩ := holds
          have only : ∀ other, d.orders id = some other → other = later := fun other there =>
            Option.some.inj (there.symm.trans found)
          obtain ⟨wrote, concludes, clears⟩ := commitFailure_keeps orderly refundable
            (current.knows _ (by simp [SessionReq.rewrites]))
            (fun given_up other there => by
              rw [only other there, terms_fqdn terms]
              exact unconfirmed given_up)
            (fun given_up other there => by
              rw [only other there]
              exact current.knows _ (by simp [SessionReq.rewrites, given_up, found])) done
          refine ⟨wrote, ⟨concludes, fun out => clears (Or.inr (owes out).2)⟩, fun settled =>
            ⟨rfl, fun out => ?_⟩⟩
          obtain ⟨prompted, owing⟩ := owes out
          rw [(settled prompted).1] at owing
          cases owing
        · refine absurd refused (commitFailure_commits orderly ?_)
          split
          · exact payable.domain
          · exact payable.amount
        · exact never ⟨rfl, holds.1.1, settled⟩

theorem failPaidOrder_ends (order : DomainOrderRow) (code : String) :
    JobTriple config prompt w (fun d => Refundable w id d ∧ Exists id order d)
      (failPaidOrder id code)
      (outcome (fun _ d => Concludes id d ∧ Exists id order d)
        fun error d => error.failsOrder = false ∧ Exists id order d) := by
  refine triple_weaken (job_persists (fun _ => durable_exists order)
    (failPaidOrder_rule False id code))
    (fun d _ holds => ⟨⟨⟨holds.1, nofun⟩, exists_present holds.2⟩, holds.2⟩) ?_
  rintro (error | value) d _ ⟨reached, present⟩
  · exact ⟨reached.1, present⟩
  · exact ⟨reached.1, present⟩

/-! `_fulfill_registration` -/

section Registration
variable {id : OrderId} {order : DomainOrderRow}

theorem lookDomain_rule {fqdn : Fqdn} (durable : Durable w P)
    (persists : ∀ v, Durable v F) (looks : ∀ d, P d → P (look w (.row fqdn) d)) :
    JobTriple config prompt w (fun d => P d ∧ F d) (session (.lookDomain fqdn))
      (outcome (fun value d => (P d ∧ ∀ row, value = some row → Sees w fqdn row d) ∧ F d)
        fun error d => error.failsOrder = false ∧ F d) := by
  have spec : JobTriple config prompt w P (session (.lookDomain fqdn))
      (outcome (fun value d => P d ∧ ∀ row, value = some row → Sees w fqdn row d)
        fun error d => error.failsOrder = false ∧ P d ∧ (prompt → d.owing w = none)) :=
    viewing_rule (fun d => (look w (.row fqdn) d, d.domains fqdn)) (fun _ _ => rfl) durable
      fun d next value orderly holds looked => by
        cases looked
        exact ⟨look_keeping orderly _, looks d holds, fun row same => look_sees same⟩
  refine triple_weaken (job_persists persists spec) (fun _ _ holds => holds) ?_
  rintro (error | value) d _ ⟨reached, facts⟩
  · exact ⟨reached.1, facts⟩
  · exact ⟨reached, facts⟩

def Reservation (w : ProcessId) (id : OrderId) (fqdn : Fqdn) (row : DomainRow) (d : Registry) :
    Prop :=
  Unfailed w id fqdn d ∧ Sees w fqdn row d

theorem reserveDomain_rule (registers : order.action = .register) :
    JobTriple config prompt w (fun d => Stands w id Checking d ∧ Exists id order d)
      (session (.reserveDomain id order))
      (outcome (fun reply d => (Stands w id Checking d ∧ Unfailed w id order.fqdn d ∧
          ∀ row, reply = .found row → Sees w order.fqdn row d) ∧ Exists id order d)
        fun error d => error.failsOrder = false ∧ Exists id order d) := by
  refine session_rule (fun _ => reserveDomain w id order) (fun _ _ => rfl) (durable_stands _)
    (fun _ => durable_exists order) (fun _ d next reply orderly stands present _ done =>
      reserveDomain_keeps orderly present registers stands done) fun _ d error refused => ?_
  unfold reserveDomain at refused
  split at refused
  · cases refused
  · split at refused <;> cases refused

theorem insertDomain_rule (registers : order.action = .register) :
    JobTriple config prompt w (fun d =>
        (Stands w id Checking d ∧ Unfailed w id order.fqdn d) ∧ Exists id order d)
      (session (.insertDomain id order))
      (outcome (fun _ d => (Stands w id Checking d ∧ Unfailed w id order.fqdn d) ∧
          Exists id order d)
        fun error d => error.failsOrder = false ∧ Exists id order d) := by
  refine session_rule (fun _ => insertDomain w id order) (fun _ _ => rfl)
    (durable_and (durable_stands _) durable_unfailed) (fun _ => durable_exists order)
    (fun _ d next reply orderly holds present _ done =>
      insertDomain_keeps orderly present registers holds.1 holds.2 done)
    fun _ d error refused => ?_
  unfold insertDomain at refused
  split at refused <;> cases refused

/-- The row that a registration continues with is the order's own. -/
def Reserves (w : ProcessId) (id : OrderId) (order : DomainOrderRow) (reply : Option DomainRow)
    (d : Registry) : Prop :=
  (Stands w id Checking d ∧ ∀ row, reply = some row →
    Reservation w id order.fqdn row d ∧ row.clientOrderId = some id) ∧ Exists id order d

def Rereads (w : ProcessId) (id : OrderId) (order : DomainOrderRow) (reply : Option DomainRow)
    (d : Registry) : Prop :=
  ((Stands w id Checking d ∧ Unfailed w id order.fqdn d) ∧
    ∀ row, reply = some row → Sees w order.fqdn row d) ∧ Exists id order d

theorem chooseRow_rule (row : Option DomainRow) :
    JobTriple config prompt w (Rereads w id order row)
      (match row with
        | none => pure none
        | some row =>
          if row.clientOrderId ≠ some id ∨ row.ownerAccountId ≠ order.ownerAccountId then pure none
          else pure (some row))
      (outcome (Reserves w id order)
        fun error d => error.failsOrder = false ∧ Exists id order d) := by
  cases row with
  | none => exact triple_ret none fun d _ holds =>
    ⟨⟨holds.1.1.1, fun _ same => by cases same⟩, holds.2⟩
  | some row =>
    dsimp only
    split
    · exact triple_ret none fun d _ holds =>
    ⟨⟨holds.1.1.1, fun _ same => by cases same⟩, holds.2⟩
    · rename_i own
      simp only [not_or, not_not] at own
      refine triple_ret (some row) fun d _ holds => ⟨⟨holds.1.1.1, fun here same => ?_⟩, holds.2⟩
      cases same
      exact ⟨⟨holds.1.1.2, holds.1.2 row rfl⟩, own.1⟩

theorem reserveRegistrationDomain_rule (registers : order.action = .register) :
    JobTriple config prompt w (fun d => Stands w id Checking d ∧ Exists id order d)
      (reserveRegistrationDomain id order)
      (outcome (Reserves w id order)
        fun error d => error.failsOrder = false ∧ Exists id order d) := by
  have reread : JobTriple config prompt w (fun d =>
        (Stands w id Checking d ∧ Unfailed w id order.fqdn d) ∧ Exists id order d)
      (session (.lookDomain order.fqdn))
      (outcome (Rereads w id order)
        fun error d => error.failsOrder = false ∧ Exists id order d) :=
    lookDomain_rule (durable_and (durable_stands Checking) durable_unfailed)
      (fun _ => durable_exists order) fun d holds => ⟨look_stands holds.1, look_unfailed holds.2⟩
  refine triple_then (reserveDomain_rule registers) fun reply => ?_
  cases reply with
  | found row =>
    refine triple_enter (chooseRow_rule (some row)) fun d holds => ?_
    exact ⟨⟨⟨holds.1.1, holds.1.2.1⟩, fun here same => holds.1.2.2 here (by cases same; rfl)⟩,
      holds.2⟩
  | rebound =>
    exact triple_then (triple_enter reread fun d holds =>
      ⟨⟨holds.1.1, holds.1.2.1⟩, holds.2⟩) chooseRow_rule
  | absent =>
    exact triple_then (triple_enter (insertDomain_rule registers) fun d holds =>
      ⟨⟨holds.1.1, holds.1.2.1⟩, holds.2⟩) fun _ => triple_then reread chooseRow_rule

theorem quietly {pre : Registry → Prop} {Q : α → Registry → Prop} {p : Job α}
    (spec : JobTriple config prompt w pre p
      (outcome Q fun error d => error.failsOrder = false ∧ F d)) :
    JobTriple config prompt w pre p (outcome Q (Failing w id)) := by
  refine triple_weaken spec (fun _ _ holds => holds) ?_
  rintro (error | value) d _ reached
  · exact quiet_failing reached.1
  · exact reached

theorem quiet_stage {p : Job α} (quiet : Within JobReq.isQuiet p) (durable : Durable w P)
    (refundable : ∀ d, P d → Refundable w id d) :
    JobTriple config prompt w P p (outcome (fun _ => P) (Failing w id)) := by
  refine triple_weaken (quiet_rule quiet durable) (fun _ _ holds => holds) ?_
  rintro (error | value) d _ holds
  · exact fun _ => refundable d holds
  · exact holds

theorem giveUp_rule (code : String) :
    JobTriple config prompt w (fun d => Refundable w id d ∧ Exists id order d)
      (giveUp id code : Job (Option α))
      (outcome (fun reply d => reply = none ∧ Concludes id d) (Failing w id)) :=
  triple_then (quietly (failPaidOrder_ends order code)) fun _ =>
    triple_ret none fun _ _ holds => ⟨rfl, holds.1⟩

def Ready (w : ProcessId) (id : OrderId) (order : DomainOrderRow) (d : Registry) : Prop :=
  (Stands w id Checking d ∧ HoldsRow w id order.fqdn d ∧ Unfailed w id order.fqdn d) ∧
    Exists id order d

theorem durable_ready : Durable w (Ready w id order) :=
  durable_and (durable_and (durable_stands _) (durable_and durable_holds durable_unfailed))
    (durable_exists order)

theorem ready_refundable (ready : Ready w id order d) : Refundable w id d :=
  stands_refundable (fun _ checking => by rw [show _ = OrderStatus.checking from checking]; nofun)
    ready.1.1

def Submitting (w : ProcessId) (id : OrderId) (order : DomainOrderRow) (d : Registry) : Prop :=
  (Stands w id Underway d ∧ HoldsRow w id order.fqdn d) ∧ Exists id order d

theorem durable_submitting : Durable w (Submitting w id order) :=
  durable_and (durable_and (durable_stands _) durable_holds) (durable_exists order)

theorem underway_refundable (stands : Stands w id Underway d) : Refundable w id d :=
  stands_refundable (fun _ underway => by rcases underway with now | now <;> rw [now] <;> nofun)
    stands

theorem ready_submitting (ready : Ready w id order d) : Submitting w id order d := by
  refine ⟨⟨fun known => ?_, ready.1.2.1⟩, ready.2⟩
  obtain ⟨unpaid, here, found, checking⟩ := ready.1.1 known
  exact ⟨unpaid, here, found, Or.inl checking⟩

theorem markSubmitted_rule :
    JobTriple config prompt w (Ready w id order) (session (.markSubmitted id order.fqdn))
      (outcome (fun _ d => Submitting w id order d ∧ d.marked w = some ⟨id, some id⟩)
        (Failing w id)) := by
  have spec := @session_rule config prompt w Unit (.markSubmitted id order.fqdn)
    (fun _ => markSubmitted w id order.fqdn) (fun _ _ => rfl)
    (fun d => Stands w id Checking d ∧ HoldsRow w id order.fqdn d ∧ Unfailed w id order.fqdn d)
    (Exists id order)
    (fun _ d => (Stands w id Underway d ∧ HoldsRow w id order.fqdn d) ∧
      d.marked w = some ⟨id, some id⟩)
    (durable_and (durable_stands _) (durable_and durable_holds durable_unfailed))
    (fun _ => durable_exists order)
    (fun _ d next _ orderly holds present current done => by
      obtain ⟨kept, stands, row, marked⟩ := markSubmitted_keeps orderly present holds.1 holds.2.1
        holds.2.2 (current.knows _ (by simp [SessionReq.rewrites]))
        (current.knows _ (by simp [SessionReq.rewrites])) done
      exact ⟨kept, ⟨stands, row⟩, marked⟩)
    fun _ d error refused => by cases refused
  refine triple_weaken spec (fun _ _ holds => holds) ?_
  rintro (error | value) d _ reached
  · exact quiet_failing reached.1
  · exact ⟨⟨reached.1.1, reached.2⟩, reached.1.2⟩

/-- What `_fulfill_registration` has obtained: nothing once the order is failed. -/
def Obtained (w : ProcessId) (id : OrderId) (order : DomainOrderRow)
    (reply : Option ProviderResult) (d : Registry) : Prop :=
  (reply = none ∧ Concludes id d) ∨ (reply ≠ none ∧ Submitting w id order d)

theorem giveUp_obtained (code : String) :
    JobTriple config prompt w (Ready w id order) (giveUp id code)
      (outcome (Obtained w id order) (Failing w id)) := by
  refine triple_weaken (giveUp_rule code) (fun d _ ready => ⟨ready_refundable ready, ready.2⟩) ?_
  rintro (error | value) d _ reached
  · exact reached
  · exact Or.inl reached

theorem submitRegistration_rule (check : DomainCheck) :
    JobTriple config prompt w (Ready w id order) (submitRegistration config id order check)
      (outcome (Obtained w id order) (Failing w id)) := by
  unfold submitRegistration
  split
  · exact giveUp_obtained _
  split
  · refine triple_then (quiet_stage (remote_quiet rfl) durable_ready fun _ => ready_refundable)
      fun rate => ?_
    split
    · exact giveUp_obtained _
    refine triple_then markSubmitted_rule fun _ => triple_then (triple_weaken
      (register_rule order.fqdn (durable_and durable_submitting (durable_marked _))
        (fun _ _ holds => holds) fun _ holds => holds.2) (fun _ _ holds => holds) ?_)
      fun result => triple_ret (some result) fun d _ holds => Or.inr ⟨nofun, holds⟩
    rintro (error | value) d _ holds
    · exact fun _ => underway_refundable holds.1.1.1
    · exact holds.1
  · exact triple_raise _ fun d _ ready => fun _ => ready_refundable ready

theorem obtainRegistration_rule (domain : DomainRow) :
    JobTriple config prompt w (Ready w id order) (obtainRegistration config id order domain)
      (outcome (Obtained w id order) (Failing w id)) := by
  have query {β : Type} {request : RemoteReq β} (quiet : request.submits = false) :
      JobTriple config prompt w (Ready w id order) (remote request)
        (outcome (fun _ => Ready w id order) (Failing w id)) :=
    quiet_stage (remote_quiet quiet) durable_ready fun _ => ready_refundable
  have obtain_ok (result : ProviderResult) : JobTriple config prompt w (Ready w id order)
      (pure (some result) : Job (Option ProviderResult))
      (outcome (Obtained w id order) (Failing w id)) :=
    triple_ret (some result) fun _ _ ready => Or.inr ⟨nofun, ready_submitting ready⟩
  unfold obtainRegistration
  split
  · exact triple_then (query rfl) obtain_ok
  refine triple_then (query rfl) fun check => ?_
  split
  · exact giveUp_obtained _
  refine triple_then (query rfl) fun found => ?_
  cases found with
  | none =>
    dsimp only
    split
    · exact triple_raise _ fun _ _ _ => quiet_failing rfl
    · exact submitRegistration_rule check
  | some existing =>
    dsimp only
    split
    · exact giveUp_obtained _
    · exact obtain_ok existing

theorem except_map_error {f : α → β} {result : Except Err α}
    (mapped : result.map f = .error error) : result = .error error := by
  cases result with
  | error error =>
    cases mapped
    rfl
  | ok value => cases mapped

theorem addPending_refuses {fqdn : Fqdn} {active : Bool} {now : Time}
    (refused : addPending config id fqdn active now d = .error error) :
    error.failsOrder = false := by
  unfold addPending addReconcile at refused
  split at refused
  · cases refused
  · split at refused <;> cases refused
    rfl

theorem recordRegistration_rule (provider : ProviderId) (result : ProviderResult) :
    JobTriple config prompt w (Submitting w id order)
      (session (.recordRegistration id order.fqdn provider result))
      (outcome (fun _ d => (Registered id order.fqdn d ∧
          (result.status.isActive = true → Stands w id (· = .submitting) d) ∧
          (result.status.isActive = false → Concludes id d)) ∧ Exists id order d)
        (Failing w id)) := by
  refine quietly (session_rule
    (fun choice => recordRegistration config w id order.fqdn provider result choice.now)
    (fun _ _ => rfl) (durable_and (durable_stands _) durable_holds) (fun _ => durable_exists order)
    (fun choice d next _ orderly holds present current done =>
      recordRegistration_keeps orderly present holds.1 holds.2
        (current.knows _ (by simp [SessionReq.rewrites]))
        (current.knows _ (by simp [SessionReq.rewrites])) done) fun choice d error refused => ?_)
  unfold recordRegistration at refused
  split at refused
  · cases refused
    rfl
  · exact addPending_refuses (except_map_error refused)

theorem finishActiveOrder_rule (durable : Durable w P) (stands : ∀ d, P d → Stands w id Awaiting d)
    (provided : ∀ d, P d → order.action = .register → Provided order.fqdn d) :
    JobTriple config prompt w (fun d => P d ∧ Exists id order d)
      (session (.finishActiveOrder id order.fqdn))
      (outcome (fun _ d => (Concludes id d ∧ Stands w id (· = .active) d) ∧ Exists id order d)
        (Failing w id)) :=
  quietly (session_rule (fun _ => finishActiveOrder w id order.fqdn) (fun _ _ => rfl) durable
    (fun _ => durable_exists order)
    (fun _ d next _ orderly holds present current done =>
      finishActiveOrder_keeps orderly present (stands d holds) (provided d holds)
        (current.knows _ (by simp [SessionReq.rewrites])) done)
    fun _ d error refused => by cases refused)

theorem provisionBundle_concluded :
    JobTriple config prompt w
      (fun d => (Concludes id d ∧ Stands w id (· = .active) d) ∧ Exists id order d)
      (provisionBundle id false) (outcome (fun _ => Concludes id) (Failing w id)) := by
  refine triple_weaken (job_persists (fun _ => durable_concluded) provisionBundle_failing)
    (fun d _ holds => ⟨holds.1.2, holds.1.1, exists_present holds.2⟩) ?_
  rintro (error | value) d _ reached
  · exact reached.1
  · exact reached.2.1

theorem completeRegistration_rule (result : ProviderResult) :
    JobTriple config prompt w (Submitting w id order) (completeRegistration id order.fqdn result)
      (outcome (fun _ => Concludes id) (Failing w id)) := by
  refine triple_then (quiet_stage (identify_quiet order.fqdn result) durable_submitting
    fun _ holds => underway_refundable holds.1.1) fun answer => ?_
  obtain ⟨provider, result⟩ := answer
  refine triple_then (recordRegistration_rule provider result) fun _ => ?_
  cases active : result.status.isActive with
  | false =>
    simp only [Bool.false_eq_true, if_false]
    exact triple_ret () fun _ _ holds => holds.1.2.2 trivial
  | true =>
    simp only [if_true]
    have stage : Durable w fun d =>
        (Stands w id (· = .submitting) d ∧ Registered id order.fqdn d) ∧ Exists id order d :=
      durable_and (durable_and (durable_stands _) durable_registered) (durable_exists order)
    have zone : JobTriple config prompt w _ _ (outcome (fun _ => _) (Failing w id)) :=
      quiet_stage (initializeZone_quiet order.fqdn provider) stage
        fun d holds => stands_refundable (fun _ now => by rw [now]; nofun) holds.1.1
    refine triple_then (triple_enter zone fun d holds => ⟨⟨holds.1.2.1 trivial, holds.1.1⟩, holds.2⟩)
      fun _ => triple_then (finishActiveOrder_rule
        (durable_and (durable_stands _) durable_registered) (fun d holds known => ?_)
        fun d holds _ => registered_provided holds.2) fun _ => provisionBundle_concluded
    obtain ⟨unpaid, here, found, now⟩ := holds.1 known
    exact ⟨unpaid, here, found, Or.inl now⟩

theorem reread_rule {β : Type} {read : Registry → Option β} (column : β → DomainOrderRow)
    (order : DomainOrderRow) (durable : Durable w P) (reads : ∀ d later, d.orders id = some later →
      ∃ found, read d = some found ∧ column found = later) :
    JobTriple config prompt w (fun d => P d ∧ Exists id order d) (readRows read)
      (outcome (fun value d => ∃ found, value = some found ∧
        (column found).terms = order.terms ∧ P d ∧ Exists id (column found) d) (Failing w id)) := by
  refine triple_weaken (read_rule read (fun value d => ∃ found, value = some found ∧
    (column found).terms = order.terms ∧ Exists id (column found) d)
    (durable_and durable (durable_exists order)) fun d _ holds => ?_) (fun _ _ holds => holds) ?_
  · obtain ⟨_, there, same⟩ := holds.2
    obtain ⟨found, told, rfl⟩ := reads d _ there
    exact ⟨found, told, same, _, there, rfl⟩
  · rintro (error | value) d _ reached
    · exact quiet_failing reached.1
    · obtain ⟨⟨holds, _⟩, found, told, same, present⟩ := reached
      exact ⟨found, told, same, holds, present⟩

theorem checking_refundable (stands : Stands w id Checking d) : Refundable w id d :=
  stands_refundable (fun _ checking => by rw [show _ = OrderStatus.checking from checking]; nofun)
    stands

theorem failChecking_rule (order : DomainOrderRow) (code : String) :
    JobTriple config prompt w (fun d => Stands w id Checking d ∧ Exists id order d)
      (failPaidOrder id code) (outcome (fun _ => Concludes id) (Failing w id)) := by
  refine triple_weaken (failPaidOrder_ends order code)
    (fun d _ holds => ⟨checking_refundable holds.1, holds.2⟩) ?_
  rintro (error | value) d _ reached
  · exact quiet_failing reached.1
  · exact reached.1

theorem reservedRow_rule (registers : order.action = .register) :
    JobTriple config prompt w (fun d => Stands w id Checking d ∧ Exists id order d)
      (do
        match ← reserveRegistrationDomain id order with
        | none => failPaidOrder id "domain_order_conflict"
        | some domain => do
          match ← obtainRegistration config id order domain with
          | none => pure ()
          | some result => completeRegistration id order.fqdn result)
      (outcome (fun _ => Concludes id) (Failing w id)) := by
  refine triple_then (quietly (reserveRegistrationDomain_rule registers)) fun reply => ?_
  cases reply with
  | none =>
    exact triple_enter (failChecking_rule order _) fun d holds => ⟨holds.1.1, holds.2⟩
  | some domain =>
    refine triple_then (triple_enter (obtainRegistration_rule domain) fun d holds => ?_)
      fun obtained => ?_
    · obtain ⟨⟨stands, row⟩, present⟩ := holds
      obtain ⟨⟨unfailed, sees⟩, bound⟩ := row domain rfl
      exact ⟨⟨stands, sees_holds sees bound, unfailed⟩, present⟩
    · cases obtained with
      | none =>
        exact triple_ret () fun d _ reached => reached.elim And.right fun some => absurd rfl some.1
      | some result =>
        refine triple_enter (completeRegistration_rule result) fun d reached => ?_
        exact reached.elim (fun none => by cases none.1) And.right

theorem fulfillRegistration_rule (registers : order.action = .register) :
    JobTriple config prompt w (fun d => Stands w id Checking d ∧ Exists id order d)
      (fulfillRegistration config id) (outcome (fun _ => Concludes id) (Failing w id)) := by
  refine triple_then (reread_rule (fun order => order) order (durable_stands Checking)
    fun _ later found => ⟨later, found, rfl⟩) fun value => ?_
  rintro d orderly ⟨later, read, same, holds⟩
  cases read
  have stage : Durable w fun d => Stands w id Checking d ∧ Exists id later d :=
    durable_and (durable_stands _) (durable_exists later)
  refine triple_then (quiet_stage (readRows_quiet _) stage fun _ holds =>
    checking_refundable holds.1) (fun quote => ?_) d orderly holds
  cases quote with
  | none => exact failChecking_rule later _
  | some quote => exact reservedRow_rule ((terms_action same).trans registers)

end Registration

/-! `_fulfill_renewal` -/

section Renewal
variable {id : OrderId} {order : DomainOrderRow}

theorem checking_underway (stands : Stands w id Checking d) : Stands w id Underway d := by
  intro known
  obtain ⟨unpaid, here, found, checking⟩ := stands known
  exact ⟨unpaid, here, found, Or.inl checking⟩

theorem markRenewal_rule (renews : order.action = .renew) (baseline : Time) :
    JobTriple config prompt w (fun d => Stands w id Checking d ∧ Exists id order d)
      (session (.markRenewal id order.fqdn baseline))
      (outcome (fun _ d => Stands w id Underway d ∧ Exists id order d) (Failing w id)) :=
  quietly (session_rule (fun _ => markRenewal w id order.fqdn baseline) (fun _ _ => rfl)
    (durable_stands _) (fun _ => durable_exists order)
    (fun _ d next _ orderly stands present current done =>
      markRenewal_keeps orderly present renews stands
        (current.knows _ (by simp [SessionReq.rewrites])) done)
    fun _ d error refused => by cases refused)

theorem obtainRenewal_rule (renews : order.action = .renew) (domain : DomainRow)
    (provider : ProviderId) (live : ProviderResult) :
    JobTriple config prompt w (fun d => Stands w id Checking d ∧ Exists id order d)
      (obtainRenewal id order domain provider live)
      (outcome (fun _ d => Stands w id Underway d ∧ Exists id order d) (Failing w id)) := by
  unfold obtainRenewal
  split
  · split
    · exact triple_raise _ fun _ _ _ => quiet_failing rfl
    · exact triple_ret _ fun _ _ holds => ⟨checking_underway holds.1, holds.2⟩
  · split
    · exact triple_raise _ fun _ _ _ => quiet_failing rfl
    refine triple_then (markRenewal_rule renews _) fun _ => triple_then (quiet_stage
      (remote_quiet rfl) (durable_and (durable_stands _) (durable_exists order))
      fun _ holds => underway_refundable holds.1) fun result => ?_
    exact triple_ret _ fun _ _ holds => holds

theorem recordRenewal_rule (renews : order.action = .renew) (result : ProviderResult)
    (baseline : Time) :
    JobTriple config prompt w (fun d => Stands w id Underway d ∧ Exists id order d)
      (session (.recordRenewal id order.fqdn result baseline))
      (outcome (fun _ => Concludes id) (Failing w id)) := by
  have spec := @session_rule config prompt w Unit (.recordRenewal id order.fqdn result baseline)
    (fun choice => recordRenewal config w id order.fqdn result baseline choice.now)
    (fun _ _ => rfl) (Stands w id Underway) (Exists id order) (fun _ => Concludes id)
    (durable_stands _) (fun _ => durable_exists order)
    (fun choice d next _ orderly stands present current done =>
      recordRenewal_keeps orderly present renews stands
        (current.knows _ (by simp [SessionReq.rewrites])) done)
    fun choice d error refused => addPending_refuses (except_map_error refused)
  refine triple_weaken spec (fun _ _ holds => holds) ?_
  rintro (error | value) d _ reached
  · exact quiet_failing reached.1
  · exact reached.1

theorem fulfillRenewal_rule (renews : order.action = .renew) :
    JobTriple config prompt w (fun d => Stands w id Checking d ∧ Exists id order d)
      (fulfillRenewal config id) (outcome (fun _ => Concludes id) (Failing w id)) := by
  refine triple_then (reread_rule Prod.fst order (durable_stands Checking)
    fun _ _ found => ⟨_, by simp [renewalRows, found]; rfl, rfl⟩) fun value => ?_
  rintro d orderly ⟨⟨later, renewable⟩, read, same, holds⟩
  cases read
  have still : later.action = .renew := (terms_action same).trans renews
  have query {β : Type} {request : RemoteReq β} (quiet : request.submits = false) :
      JobTriple config prompt w (fun d => Stands w id Checking d ∧ Exists id later d)
        (remote request) (outcome (fun _ d => Stands w id Checking d ∧ Exists id later d)
          (Failing w id)) :=
    quiet_stage (remote_quiet quiet) (durable_and (durable_stands _) (durable_exists later))
      fun _ holds => checking_refundable holds.1
  suffices spec : JobTriple config prompt w
      (fun d => Stands w id Checking d ∧ Exists id later d) _
      (outcome (fun _ => Concludes id) (Failing w id)) from spec d orderly holds
  dsimp only
  split
  · exact failChecking_rule later _
  rename_i domain provider _
  refine triple_then (query rfl) fun price => ?_
  split
  · refine triple_then (query rfl) fun rate => ?_
    split
    · exact failChecking_rule later _
    · refine triple_then (query rfl) fun live => triple_then
        (obtainRenewal_rule still domain provider live) fun answer => ?_
      exact recordRenewal_rule still answer.2 answer.1
  · exact triple_raise _ fun _ _ _ => quiet_failing rfl

end Renewal

end Rules

end HyruleCloud
