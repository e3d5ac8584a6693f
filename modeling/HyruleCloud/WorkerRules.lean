import HyruleCloud.FulfilmentRules

/-!
The rest of a job: the reconciliation of a domain, the dispatch, and what becomes
of the job. A fulfilment that returns has concluded its order, and an execution
that is over owes no refund.
-/

namespace HyruleCloud

open Interaction

variable {fqdn : Fqdn} {row : DomainRow} {d next : Registry} {held : Bool} {value : Unit}
  {choice : JobChoice} {now : Time} {result : ProviderResult} {claim : JobClaim}

variable {α β : Type} {id : OrderId}

variable {code : String} {reading : Reading} {provider : ProviderId}

section Rules
variable {config : DomainConfig} {prompt : Prop} {w : ProcessId}

theorem freely {pre : Registry → Prop} {Q : α → Registry → Prop}
    {E : Err → Registry → Prop} {p : Job α} (spec : JobTriple config prompt w pre p (outcome Q E)) :
    JobTriple config prompt w pre p (outcome Q fun _ _ => True) := by
  refine triple_weaken spec (fun _ _ holds => holds) ?_
  rintro (error | value) d _ reached
  · trivial
  · exact reached

theorem quiet_freely {p : Job α} {P : Registry → Prop} (quiet : Within JobReq.isQuiet p)
    (durable : Durable w P) : JobTriple config prompt w P p (outcome (fun _ => P) fun _ _ => True) := by
  refine triple_weaken (quiet_rule quiet durable) (fun _ _ holds => holds) ?_
  rintro (error | value) d _ holds
  · trivial
  · exact holds

theorem anyhow {p : Job α} (quiet : Within JobReq.isQuiet p) :
    JobTriple config prompt w (fun _ => True) p (outcome (fun _ _ => True) fun _ _ => True) :=
  quiet_freely quiet fun _ _ _ _ => trivial

/-! What a look or a failure of an order leaves of a row. -/

theorem sees_same {a b : Registry} (sees : Sees w fqdn row a)
    (domains : b.domains fqdn = a.domains fqdn)
    (known : b.known w (.row fqdn) = a.known w (.row fqdn)) : Sees w fqdn row b := by
  intro now
  rw [known] at now
  rw [domains]
  exact sees now

theorem lookWaiting_rows {fqdn name : Fqdn} {d : Registry} :
    (lookWaiting w fqdn d).1.domains = d.domains ∧
      (lookWaiting w fqdn d).1.known w (.row name) = d.known w (.row name) := by
  unfold lookWaiting
  split
  · exact ⟨rfl, rfl⟩
  · simp [look]

theorem changeRow_sees {fqdn name : Fqdn} {row : DomainRow} {change : DomainRow → DomainRow}
    {d : Registry} (sees : Sees w name row d) (known : d.known w (.row fqdn) = true)
    (seat : ∀ row, SameSeat row (change row)) : Sees w name row (changeRow w fqdn change d) := by
  by_cases same : name = fqdn
  · subst same
    obtain ⟨later, found, seen⟩ := sees known
    intro _
    exact ⟨change later, by simp [found], seen.trans (seat later)⟩
  · refine sees_same sees ?_ ?_
    · unfold changeRow
      split
      · rfl
      · simp [touch, same]
    · unfold changeRow
      split
      · rfl
      · simp [touch, same]

theorem settleOwing_sees (sees : Sees w fqdn row d) :
    Sees w fqdn row (settleOwing w id d) := by
  obtain ⟨store, known, _⟩ := settleOwing_fields w id d
  exact sees_same sees (by rw [store]) (by rw [known])

theorem giveRow_sees {name : Fqdn} {close : DomainOrderRow → DomainOrderRow}
    {operation : DomainOperationRow → DomainOperationRow} (sees : Sees w name row d)
    (known : held = true → d.known w (.row fqdn) = true) :
    Sees w name row (if held then
      changeRow w fqdn (fun row => { row with status := .failed })
        (changeOperation id operation (changeOrder w id close d))
      else changeOperation id operation (changeOrder w id close d)) := by
  have first : Sees w name row (changeOperation id operation (changeOrder w id close d)) :=
    sees_same sees (by simp) (by simp)
  split
  · rename_i given_up
    exact @changeRow_sees w fqdn name row (fun row => { row with status := .failed }) _ first
      (by simpa using known given_up) fun _ => ⟨rfl, rfl, rfl, rfl⟩
  · exact first

theorem commitFailure_sees {amount : Usd} (sees : Sees w fqdn row d)
    (current : UpToDate w (.commitFailure id code amount held) d)
    (done : commitFailure w id code amount held d = .ok (next, value)) : Sees w fqdn row next := by
  unfold commitFailure at done
  split at done
  · cases done
    exact sees
  · rename_i order found
    have known (given_up : held = true) : d.known w (.row order.fqdn) = true :=
      current.knows _ (by simp [SessionReq.rewrites, given_up, found])
    dsimp only at done
    split at done
    · cases done
      exact settleOwing_sees (giveRow_sees sees known)
    · split at done
      · cases done
      · cases done
        exact settleOwing_sees (giveRow_sees sees known)

def SessionReq.failsGently {β : Type} : SessionReq β → Bool
  | .lookWaiting _ | .lookHeld _ _ | .commitFailure _ _ _ _ => true
  | _ => false

def JobReq.failsGently {β : Type} : JobReq β → Prop
  | .session request => request.isQuiet = true ∨ request.failsGently = true
  | request => request.isQuiet

theorem quiet_gently {request : JobReq β} (quiet : request.isQuiet) :
    request.failsGently := by
  cases request with
  | session request => exact Or.inl quiet
  | _ => exact quiet

theorem gently_sees {request : JobReq β} {reply : Except Err β}
    (gently : request.failsGently) (orderly : Orderly d) (sees : Sees w fqdn row d)
    (diligent : Diligent prompt w request choice d)
    (ran : jobExec config w request choice d = (next, reply)) : Sees w fqdn row next := by
  by_cases quiet : request.isQuiet
  · exact durable_sees _ _ (quiet_step quiet orderly ran).2 sees
  cases request with
  | session request =>
    have gentle := gently.resolve_left quiet
    cases request with
    | lookWaiting name =>
      simp only [jobExec, sessionExec, viewing] at ran
      split at ran
      · cases ran
        obtain ⟨domains, known⟩ := @lookWaiting_rows w name fqdn d
        exact sees_same sees (by rw [domains]) known
      · cases ran
        exact sees
    | lookHeld id name =>
      simp only [jobExec, sessionExec, viewing] at ran
      split at ran <;> cases ran <;> exact sees
    | commitFailure id code amount held =>
      rcases transact_cases _ _ _ _ _ ran with ⟨same, _⟩ | ⟨value, done, fate, _⟩ |
        ⟨value, done, fate, _⟩
      · subst same
        exact sees
      · have kept : choice.fate ≠ .failed := by
          rw [fate]
          intro failed
          cases failed
        exact commitFailure_sees sees (diligent.2.resolve_left kept) done
      · have kept : choice.fate ≠ .failed := by
          rw [fate]
          intro failed
          cases failed
        exact commitFailure_sees sees (diligent.2.resolve_left kept) done
    | _ => cases gentle
  | _ => exact absurd gently quiet

theorem keepVm_quiet (id : OrderId) (order : DomainOrderRow) :
    Within JobReq.isQuiet (keepVm id order) := by
  unfold keepVm
  split
  · exact within_rescue (within_bind (provisionBundle_quiet id true) fun _ => within_ret true)
      fun _ => within_ret false
  · exact within_ret false

theorem session_gently {request : SessionReq β} (gentle : request.failsGently = true) :
    Within JobReq.failsGently (session request) := (within_perform _).mpr (Or.inr gentle)

theorem failPaidOrder_gently (id : OrderId) (code : String) :
    Within JobReq.failsGently (failPaidOrder id code) := by
  refine within_bind (within_mono (readRows_quiet _) fun _ => quiet_gently) fun order => ?_
  cases order with
  | none => exact within_ret ()
  | some order =>
    exact within_bind (within_mono (keepVm_quiet id order) fun _ => quiet_gently) fun _ =>
      within_bind (session_gently rfl) fun _ => session_gently rfl

theorem failTerminal_gently (fqdn : Fqdn) (reading : Reading) :
    Within JobReq.failsGently (failTerminal fqdn reading) := by
  unfold failTerminal
  split
  · refine within_bind (session_gently rfl) fun waiting => ?_
    cases waiting with
    | none => exact within_ret none
    | some id => exact within_bind (failPaidOrder_gently id _) fun _ => within_ret (some id)
  · exact within_ret none

/-! `_reconcile_domain` -/

/-- A terminal status fails the order that waits for the domain; the row is still
what `w` has seen of it. -/
theorem failTerminal_rule (fqdn : Fqdn) (reading : Reading) (row : DomainRow) :
    JobTriple config prompt w (Sees w fqdn row) (failTerminal fqdn reading)
      (outcome (fun reply d => (reading.expired = false → reply = none) ∧ Sees w fqdn row d)
        fun _ _ => True) := by
  have spec : JobTriple config prompt w (fun _ => True) (failTerminal fqdn reading)
      (outcome (fun reply _ => reading.expired = false → reply = none) fun _ _ => True) := by
    unfold failTerminal
    split
    · rename_i expired
      have waits : JobTriple config prompt w (fun _ => True) (session (.lookWaiting fqdn))
          (outcome (fun reply d => ∀ id, reply = some id → Stands w id Awaiting d ∧ Present id d)
            fun _ _ => True) := by
        refine freely (viewing_rule (lookWaiting w fqdn) (fun _ _ => rfl)
          (fun _ _ _ _ => trivial) fun d next value orderly _ looked => ?_)
        obtain ⟨kept, orders, _, stands⟩ := lookWaiting_keeps orderly looked
        refine ⟨kept, fun id same => ?_⟩
        obtain ⟨awaiting, order, found, _⟩ := stands id same
        exact ⟨awaiting, order, by rw [orders]; exact found⟩
      refine triple_then waits fun waiting => ?_
      cases waiting with
      | none => exact triple_ret none fun _ _ _ _ => rfl
      | some id =>
        refine triple_then (freely (triple_enter (failPaidOrder_rule False id _)
          fun d holds => ?_)) fun _ => triple_ret (some id) fun _ _ _ current => ?_
        · obtain ⟨awaiting, present⟩ := holds id rfl
          exact ⟨⟨stands_refundable (fun _ now => by
            rcases now with now | now <;> rw [now] <;> nofun) awaiting, nofun⟩, present⟩
        · rw [expired] at current
          cases current
    · exact triple_ret none fun _ _ _ _ => rfl
  refine triple_weaken (triple_framed (failTerminal_gently fqdn reading)
    (durable_stable durable_sees) (fun request choice d next reply gently orderly sees diligent ran
      _ _ => gently_sees gently orderly sees diligent (Option.some.inj ran)) spec)
    (fun _ _ sees => ⟨trivial, sees⟩) ?_
  rintro (error | value) d _ reached
  · trivial
  · exact reached

/-- The order that a reconciliation goes on with, and that it has not failed. -/
def Pursued (w : ProcessId) (fqdn : Fqdn) (reading : Reading)
    (order : Option (OrderId × DomainOrderRow)) (d : Registry) : Prop :=
  reading.expired = false → ∀ id row, order = some (id, row) →
    (Stands w id Awaiting d ∧ Exists id row d) ∧ row.fqdn = fqdn

theorem durable_pursued {order : Option (OrderId × DomainOrderRow)} :
    Durable w (Pursued w fqdn reading order) :=
  fun a b spares holds current id row same => by
    obtain ⟨⟨stands, present⟩, name⟩ := holds current id row same
    exact ⟨⟨stands_spared spares stands, exists_spared spares present⟩, name⟩

theorem lookReconcile_rows {fqdn : Fqdn} {terminal : Option OrderId} {d : Registry} :
    (lookReconcile w fqdn terminal d).1.domains = d.domains ∧
      (lookReconcile w fqdn terminal d).1.known w (.row fqdn) = d.known w (.row fqdn) := by
  unfold lookReconcile
  split
  · exact ⟨rfl, rfl⟩
  · exact lookWaiting_rows

theorem lookReconcile_rule (fqdn : Fqdn) (terminal : Option OrderId) (reading : Reading)
    (row : DomainRow) :
    JobTriple config prompt w
      (fun d => (reading.expired = false → terminal = none) ∧ Sees w fqdn row d)
      (session (.lookReconcile fqdn terminal))
      (outcome (fun reply d => Sees w fqdn row d ∧ ∀ current order, reply = some (current, order) →
        Pursued w fqdn reading order d) fun _ _ => True) := by
  refine freely (viewing_rule (lookReconcile w fqdn terminal) (fun _ _ => rfl)
    (fun _ _ spares holds => ⟨holds.1, sees_spared spares holds.2⟩)
    fun d next value orderly holds looked => ?_)
  obtain ⟨kept, stands⟩ := lookReconcile_keeps orderly looked
  refine ⟨kept, ?_, fun current order same open' id row chosen => ?_⟩
  · obtain ⟨domains, known⟩ := @lookReconcile_rows w fqdn terminal d
    rw [looked] at domains known
    exact sees_same holds.2 (by rw [domains]) known
  · subst chosen
    obtain ⟨present, awaiting⟩ := stands current id row same
    obtain ⟨stage, name⟩ := awaiting (holds.1 open')
    exact ⟨⟨stage, present⟩, name⟩

theorem recordReconcile_rule (asked : DomainRow) (order : Option (OrderId × DomainOrderRow))
    (reading : Reading) (current : DomainStatus) (provider : ProviderId) (result : ProviderResult) :
    JobTriple config prompt w
      (fun d => Sees w fqdn asked d ∧ Pursued w fqdn reading order d)
      (session (.recordReconcile fqdn asked.clientOrderId (order.map (·.1)) reading current provider
        result))
      (outcome (fun _ d => Provided fqdn d ∧ Pursued w fqdn reading order d) fun _ _ => True) := by
  refine freely (commit_rule (E := fun _ _ => True)
    (fun _ => recordReconcile w fqdn asked.clientOrderId (order.map (·.1)) reading current provider
      result) (fun _ _ => rfl) (durable_and durable_sees durable_pursued)
    (fun _ d next value orderly holds upToDate done => ?_) (fun _ _ _ _ _ _ => trivial)
    fun _ _ _ => trivial)
  obtain ⟨sees, pursued⟩ := holds
  obtain ⟨kept, provided, stands⟩ := recordReconcile_keeps orderly sees
    (upToDate.knows _ (by simp only [SessionReq.rewrites]; split <;> simp))
    (fun id same inactive open' => by
      obtain ⟨⟨here, row⟩, chosen, named⟩ := Option.map_eq_some_iff.mp same
      cases named
      refine ⟨(pursued open' here row chosen).1.1, upToDate.knows _ ?_⟩
      simp [SessionReq.rewrites, inactive, open', chosen]) done
  refine ⟨kept, ⟨provided, fun open' id row chosen => ?_⟩, fun _ => trivial⟩
  obtain ⟨⟨stage, present⟩, name⟩ := pursued open' id row chosen
  refine ⟨⟨stands id (by simp [chosen]) stage, ?_⟩, name⟩
  exact durable_exists (w := w + 1) row _ _ (kept.spares (w + 1) (Nat.succ_ne_self w)) present

theorem settleReconciled_rule (retryPending : Bool) (domain : DomainRow)
    (order : Option (OrderId × DomainOrderRow)) (reading : Reading)
    (open' : reading.expired = false) (provider : ProviderId) (result : ProviderResult) :
    JobTriple config prompt w (fun d => Provided fqdn d ∧ Pursued w fqdn reading order d)
      (settleReconciled fqdn retryPending domain order provider result)
      (outcome (fun _ _ => True) fun _ _ => True) := by
  have durable : Durable w fun d => Provided fqdn d ∧ Pursued w fqdn reading order d :=
    durable_and durable_provided durable_pursued
  have finish (rest : Job Unit)
      (without : order = none → rest = session (.activateDomain fqdn))
      (chosen : ∀ id order', order = some (id, order') → rest = do
        session (.finishActiveOrder id fqdn)
        if order'.action = .register then provisionBundle id false else pure ()) :
      JobTriple config prompt w (fun d => Provided fqdn d ∧ Pursued w fqdn reading order d) rest
        (outcome (fun _ _ => True) fun _ _ => True) := by
    cases found : order with
    | none =>
      rw [without found]
      exact triple_enter (anyhow (session_quiet rfl)) fun _ _ => trivial
    | some pair =>
      obtain ⟨id, row⟩ := pair
      rw [chosen id row found]
      intro d orderly holds
      obtain ⟨⟨stage, present⟩, name⟩ := holds.2 open' id row rfl
      subst name
      have finished : JobTriple config prompt w
          (fun d => (Stands w id Awaiting d ∧ Provided row.fqdn d) ∧ Exists id row d)
          (session (.finishActiveOrder id row.fqdn)) (outcome (fun _ _ => True) (Failing w id)) :=
        triple_weaken (finishActiveOrder_rule (durable_and (durable_stands _) durable_provided)
          (fun _ holds => holds.1) fun _ holds _ => holds.2) (fun _ _ holds => holds)
          fun result d _ reached => by
            cases result with
            | error error => exact reached
            | ok value => trivial
      refine triple_then (freely finished) (fun _ => ?_) d orderly ⟨⟨stage, holds.1⟩, present⟩
      split
      · exact anyhow (provisionBundle_quiet id false)
      · exact triple_ret () fun _ _ _ => trivial
  unfold settleReconciled
  split
  · split
    · exact triple_raise _ fun _ _ _ => trivial
    · exact triple_ret () fun _ _ _ => trivial
  · cases domain.managedNameservers with
    | true =>
      exact triple_then (quiet_freely (ensureManagedZone_quiet fqdn provider) durable) fun _ =>
        finish _ (by rintro rfl; rfl) (by rintro id row rfl; rfl)
    | false => exact finish _ (by rintro rfl; rfl) (by rintro id row rfl; rfl)

theorem reconcileDomain_rule (fqdn : Fqdn) (retryPending : Bool) :
    JobTriple config prompt w (fun _ => True) (reconcileDomain fqdn retryPending)
      (outcome (fun _ _ => True) fun _ _ => True) := by
  have first : JobTriple config prompt w (fun _ => True) (session (.lookDomain fqdn))
      (outcome (fun value d => ∀ row, value = some row → Sees w fqdn row d) fun _ _ => True) := by
    refine freely (viewing_rule (fun d => (look w (.row fqdn) d, d.domains fqdn)) (fun _ _ => rfl)
      (fun _ _ _ _ => trivial) fun d next value orderly _ looked => ?_)
    cases looked
    exact ⟨look_keeping orderly _, fun row same => look_sees same⟩
  refine triple_then first fun value => ?_
  cases value with
  | none => exact triple_ret () fun _ _ _ => trivial
  | some domain =>
    refine triple_then (triple_enter (quiet_freely (askAgain_quiet fqdn domain) durable_sees)
      fun d holds => holds domain rfl) fun answer => ?_
    cases answer with
    | none => exact triple_ret () fun _ _ _ => trivial
    | some answer =>
      obtain ⟨provider, result⟩ := answer
      refine triple_then (failTerminal_rule fqdn (readingOf domain result.status) domain)
        fun terminal => triple_then (lookReconcile_rule fqdn terminal
          (readingOf domain result.status) domain) fun rows => ?_
      cases rows with
      | none => exact triple_ret () fun _ _ _ => trivial
      | some rows =>
        obtain ⟨current, order⟩ := rows
        refine triple_then (triple_enter (recordReconcile_rule domain order _ _ provider result)
          fun d holds => ⟨holds.1, holds.2 current order rfl⟩) fun _ => ?_
        split
        · exact triple_ret () fun _ _ _ => trivial
        rename_i ongoing
        simp only [Bool.or_eq_true, not_or, Bool.not_eq_true] at ongoing
        split
        · split
          · exact triple_raise _ fun _ _ _ => trivial
          · exact triple_ret () fun _ _ _ => trivial
        · split
          · exact triple_ret () fun _ _ _ => trivial
          · exact settleReconciled_rule retryPending domain order _ ongoing.2 provider result

/-! `_fulfill_order` -/

section Fulfil
variable {id : OrderId}

theorem lookOrder_rule : JobTriple config prompt w (Present id) (session (.lookOrder id))
      (outcome (fun reply d => ∃ order, reply = some order ∧ Exists id order d ∧
        (¬ Due order.status → order.status ≠ .active → Stands w id (· = order.status) d) ∧
        (Concluded order → Concludes id d)) fun _ _ => True) := by
  refine freely (viewing_rule (fun d => (look w (.order id) d, d.orders id)) (fun _ _ => rfl)
    durable_present fun d next value orderly present looked => ?_)
  cases looked
  obtain ⟨order, found⟩ := present
  obtain ⟨kept, facts⟩ := lookOrder_keeps w id orderly
  obtain ⟨stands, concludes⟩ := facts order found
  exact ⟨kept, order, found, ⟨order, found, rfl⟩, stands, concludes⟩

theorem startChecking_rule (order : DomainOrderRow) :
    JobTriple config prompt w
      (fun d => Stands w id (fun status => status ≠ .active ∧ status ≠ .providerPending) d ∧
        Exists id order d)
      (session (.startChecking id))
      (outcome (fun _ d => Stands w id Checking d ∧ Exists id order d) fun _ _ => True) :=
  freely (session_rule (fun _ => startChecking w id) (fun _ _ => rfl) (durable_stands _)
    (fun _ => durable_exists order)
    (fun _ d next _ orderly stands _ current done => startChecking_keeps orderly stands
      (current.knows _ (by simp [SessionReq.rewrites])) done)
    fun _ d error refused => by cases refused)

theorem failsOrder_rule (order : DomainOrderRow) (error : Err) :
    JobTriple config prompt w (fun d => Failing w id error d ∧ Exists id order d)
      (failsOrder id error) (outcome (fun _ => Concludes id) fun _ _ => True) := by
  have fails (code : String) (on : error.failsOrder = true) : JobTriple config prompt w
      (fun d => Failing w id error d ∧ Exists id order d) (failPaidOrder id code)
      (outcome (fun _ => Concludes id) fun _ _ => True) := by
    refine triple_weaken (failPaidOrder_ends order code)
      (fun d _ holds => ⟨holds.1 on, holds.2⟩) ?_
    rintro (error | value) d _ reached
    · trivial
    · exact reached.1
  unfold failsOrder
  split
  · exact fails _ rfl
  · exact fails _ rfl
  · exact triple_raise _ fun _ _ _ => trivial

theorem fulfillOrder_rule : JobTriple config prompt w (Present id) (fulfillOrder config id)
      (outcome (fun _ => Concludes id) fun _ _ => True) := by
  refine triple_then lookOrder_rule fun reply => ?_
  rintro d orderly ⟨order, read, present, stands, concludes⟩
  cases read
  have done (concluded : Concluded order) : Concludes id d ∧ Present id d :=
    ⟨concludes concluded, exists_present present⟩
  dsimp only
  split
  · rename_i due
    exact concludes (Or.inr (Or.inr (Or.inr (Or.inl due))))
  · rename_i refunded
    exact concludes (Or.inr (Or.inr (Or.inr (Or.inr refunded))))
  · rename_i active
    have concluded := done (Or.inr (Or.inl active))
    split
    · refine triple_weaken (quiet_freely (provisionBundle_quiet id false) durable_concluded)
        (fun _ _ holds => holds) ?_ d orderly concluded
      rintro (error | value) d _ reached
      · trivial
      · exact reached.1
    · exact concluded.1
  · rename_i pending
    refine triple_weaken (job_persists (fun _ => durable_concluded)
      (reconcileDomain_rule order.fqdn false)) (fun _ _ holds => ⟨trivial, holds⟩) ?_ d orderly
      (done (Or.inr (Or.inr (Or.inl pending))))
    rintro (error | value) d _ reached
    · trivial
    · exact reached.2.1
  · rename_i due refunded active pending
    have idle : Stands w id (fun status => status ≠ .active ∧ status ≠ .providerPending) d := by
      intro known
      obtain ⟨unpaid, here, found, same⟩ := stands (fun now => now.elim due refunded) active known
      rw [← same] at active pending
      exact ⟨unpaid, here, found, active, pending⟩
    have body (steps : Job Unit) (renew : order.action = .renew → steps = fulfillRenewal config id)
        (register : order.action = .register → steps = fulfillRegistration config id) :
        JobTriple config prompt w (fun d => Stands w id Checking d ∧ Exists id order d) steps
          (fun result d => outcome (fun _ => Concludes id) (Failing w id) result d ∧
            Exists id order d) := by
      have spec : JobTriple config prompt w (fun d => Stands w id Checking d ∧ Exists id order d)
          steps (outcome (fun _ => Concludes id) (Failing w id)) := by
        cases action : order.action with
        | renew =>
          rw [renew action]
          exact fulfillRenewal_rule action
        | register =>
          rw [register action]
          exact fulfillRegistration_rule action
      exact triple_enter (job_persists (fun _ => durable_exists order) spec) fun d holds =>
        ⟨holds, holds.2⟩
    exact triple_then (startChecking_rule order) (fun _ => triple_rescue
      (body _ (fun renews => by rw [renews]) fun registers => by rw [registers])
      (fun _ _ _ reached => reached.1) fun error => failsOrder_rule order error) d orderly
      ⟨idle, present⟩

end Fulfil

theorem dispatchJob_rule (claim : JobClaim) :
    JobTriple config prompt w (fun d => claim.kind = .fulfillOrder → Present claim.resource d)
      (dispatchJob config claim)
      (outcome (fun _ d => claim.kind = .fulfillOrder → Concludes claim.resource d)
        fun _ _ => True) := by
  unfold dispatchJob
  split
  · rename_i fulfils
    refine triple_weaken fulfillOrder_rule (fun d _ holds => holds fulfils) ?_
    rintro (error | value) d _ reached
    · trivial
    · exact fun _ => reached
  · rename_i reconciles
    refine triple_weaken (reconcileDomain_rule claim.resource true) (fun _ _ _ => trivial) ?_
    rintro (error | value) d _ reached
    · trivial
    · intro fulfils
      rw [reconciles] at fulfils
      cases fulfils

/-- Only the commit that fails a job leaves a refund outstanding. -/
def JobReq.settles {β : Type} : JobReq β → Prop
  | .session request => request.failsJob = false
  | _ => True

theorem transact_owing (tx : Transaction Registry β) {fate : Fate} {reply : Except Err β}
    (idle : d.owing w = none) (keeps : ∀ next value, tx d = .ok (next, value) → next.owing w = none)
    (ran : transact tx fate d = (next, reply)) : next.owing w = none := by
  rcases transact_cases _ _ _ _ _ ran with ⟨same, _⟩ | ⟨value, done, _⟩ | ⟨value, done, _⟩
  · rw [same]
    exact idle
  · exact keeps next value done
  · exact keeps next value done

theorem viewing_owing (view : Registry → Registry × β) {fate : Fate}
    {reply : Except Err β} (idle : d.owing w = none) (keeps : (view d).1.owing w = none)
    (ran : viewing view fate d = (next, reply)) : next.owing w = none := by
  unfold viewing at ran
  split at ran <;> cases ran
  · exact keeps
  · exact idle

@[simp] theorem noteRow_owing (fqdn : Fqdn) (change : DomainRow → DomainRow) (d : Registry) :
    (noteRow fqdn change d).owing = d.owing := by
  unfold noteRow
  split <;> rfl

@[simp] theorem noteOrder_owing (id : OrderId) (change : DomainOrderRow → DomainOrderRow)
    (d : Registry) : (noteOrder id change d).owing = d.owing := by
  unfold noteOrder
  split <;> rfl

theorem addPending_owing {active : Bool}
    (done : addPending config id fqdn active now d = .ok next) : next.owing = d.owing := by
  unfold addPending addReconcile at done
  split at done
  · cases done
    rfl
  · split at done <;> cases done
    rfl

theorem recordRegistration_owing
    (done : recordRegistration config w id fqdn provider result now d = .ok (next, value)) :
    next.owing = d.owing := by
  unfold recordRegistration at done
  split at done
  · cases done
  obtain ⟨last, added, finished⟩ := except_map done
  cases finished
  rw [addPending_owing added]
  simp [addEntry]

theorem recordRenewal_owing {baseline : Time}
    (done : recordRenewal config w id fqdn result baseline now d = .ok (next, value)) :
    next.owing = d.owing := by
  obtain ⟨last, added, finished⟩ := except_map done
  cases finished
  rw [addPending_owing added]
  simp

theorem recordReconcile_owing {asked order : Option OrderId}
    {current : DomainStatus}
    (done : recordReconcile w fqdn asked order reading current provider result d =
      .ok (next, value)) : next.owing = d.owing := by
  unfold recordReconcile at done
  split at done
  · cases done
    rfl
  · cases done
    unfold recordOrder
    split
    · simp [addEntry]
    · split <;> simp [addEntry]

theorem commitFailure_owing {amount : Usd} (idle : d.owing w = none)
    (done : commitFailure w id code amount held d = .ok (next, value)) : next.owing w = none := by
  have settled (a : Registry) (same : a.owing = d.owing) : (settleOwing w id a).owing w = none := by
    obtain ⟨_, _, _, _, _, owing⟩ := settleOwing_fields w id a
    rw [owing, same]
    simp [idle]
  unfold commitFailure at done
  split at done
  · cases done
    exact idle
  · dsimp only at done
    have kept (close : DomainOrderRow → DomainOrderRow) (fqdn : Fqdn) : (if held then
        changeRow w fqdn (fun row => { row with status := .failed })
          (changeOperation id (.ends .failed (some code)) (changeOrder w id close d))
        else changeOperation id (.ends .failed (some code)) (changeOrder w id close d)).owing =
          d.owing := by
      split <;> simp
    split at done
    · cases done
      exact settled _ (kept _ _)
    · split at done
      · cases done
      · cases done
        exact settled _ (kept _ _)

theorem lookWaiting_owing (idle : d.owing w = none) : (lookWaiting w fqdn d).1.owing w = none := by
  unfold lookWaiting
  split <;> exact idle

theorem session_owing {request : SessionReq β} {reply : Except Err β}
    (settles : request.failsJob = false) (idle : d.owing w = none)
    (ran : sessionExec config w request choice d = (next, reply)) : next.owing w = none := by
  cases request with
  | failJob claim view error => cases settles
  | lookOrder id =>
    refine viewing_owing (fun d => (look w (.order id) d, d.orders id)) idle idle ran
  | lookDomain fqdn =>
    refine viewing_owing (fun d => (look w (.row fqdn) d, d.domains fqdn)) idle idle ran
  | lookHeld id fqdn =>
    refine viewing_owing (fun d => (d, lookHeld id fqdn d)) idle idle ran
  | lookFinal id =>
    refine viewing_owing (lookFinal w id) idle ?_ ran
    unfold lookFinal
    split <;> exact idle
  | lookWaiting fqdn =>
    exact viewing_owing (lookWaiting w fqdn) idle (lookWaiting_owing idle) ran
  | lookReconcile fqdn terminal =>
    refine viewing_owing (lookReconcile w fqdn terminal) idle ?_ ran
    unfold lookReconcile
    split
    · exact idle
    · exact lookWaiting_owing idle
  | reserveDomain id order =>
    refine transact_owing (reserveDomain w id order) idle (fun next value done => ?_) ran
    unfold reserveDomain at done
    split at done
    · cases done
      exact idle
    · split at done <;> cases done <;> exact idle
  | insertDomain id order =>
    refine transact_owing (insertDomain w id order) idle (fun next value done => ?_) ran
    unfold insertDomain at done
    split at done <;> cases done <;> exact idle
  | claimJob =>
    refine transact_owing (claimJob config w choice.found choice.now) idle
      (fun next value done => ?_) ran
    unfold claimJob at done
    split at done
    · cases done
      exact idle
    · split at done
      · cases done
        exact idle
      · split at done <;> cases done
        · simpa [beginJob] using idle
        · exact idle
  | recordRegistration id fqdn provider result =>
    refine transact_owing (recordRegistration config w id fqdn provider result choice.now) idle
      (fun next value done => ?_) ran
    rw [recordRegistration_owing done]
    exact idle
  | recordRenewal id fqdn result baseline =>
    refine transact_owing (recordRenewal config w id fqdn result baseline choice.now) idle
      (fun next value done => ?_) ran
    rw [recordRenewal_owing done]
    exact idle
  | recordReconcile fqdn asked order reading current provider result =>
    refine transact_owing (recordReconcile w fqdn asked order reading current provider result) idle
      (fun next value done => ?_) ran
    rw [recordReconcile_owing done]
    exact idle
  | commitFailure id code amount held =>
    exact transact_owing (commitFailure w id code amount held) idle
      (fun next value done => commitFailure_owing idle done) ran
  | completeJob key =>
    refine transact_owing (completeJob key) idle (fun next value done => ?_) ran
    cases done
    simpa using idle
  | requeueJob key attempts =>
    refine transact_owing (requeueJob key attempts choice.now) idle (fun next value done => ?_) ran
    cases done
    simpa using idle
  | startChecking id =>
    refine transact_owing (startChecking w id) idle (fun next value done => ?_) ran
    cases done
    simpa using idle
  | markSubmitted id fqdn =>
    refine transact_owing (markSubmitted w id fqdn) idle (fun next value done => ?_) ran
    cases done
    simpa using idle
  | finishActiveOrder id fqdn =>
    refine transact_owing (finishActiveOrder w id fqdn) idle (fun next value done => ?_) ran
    cases done
    simpa using idle
  | markRenewal id fqdn baseline =>
    refine transact_owing (markRenewal w id fqdn baseline) idle (fun next value done => ?_) ran
    cases done
    simpa using idle
  | recordZone fqdn =>
    refine transact_owing (recordZone fqdn) idle (fun next value done => ?_) ran
    cases done
    simpa using idle
  | recordZoneError fqdn =>
    refine transact_owing (recordZoneError fqdn) idle (fun next value done => ?_) ran
    cases done
    simpa using idle
  | activateDomain fqdn =>
    refine transact_owing (activateDomain fqdn) idle (fun next value done => ?_) ran
    cases done
    simpa using idle
theorem settles_owing {request : JobReq β} {reply : Except Err β}
    (settles : request.settles) (idle : d.owing w = none)
    (ran : jobExec config w request choice d = (next, reply)) : next.owing w = none := by
  cases request with
  | remote request =>
    cases ran
    unfold submitted
    split <;> exact idle
  | read query => exact viewing_owing (fun d => (d, query d)) idle idle ran
  | bundle request =>
    refine transact_owing (bundleTransaction request choice) idle (fun next value done => ?_) ran
    rw [(bundle_unobtrusive request choice d next value done).1.owing]
    exact idle
  | session request => exact session_owing settles idle ran

theorem quiet_settles (request : JobReq β) (quiet : request.isQuiet) :
    request.settles := by
  cases request with
  | session request => cases request <;> first | rfl | cases quiet
  | _ => trivial

theorem gently_settles {request : JobReq β} (gently : request.failsGently) :
    request.settles := by
  cases request with
  | session request =>
    rcases gently with quiet | gentle
    · exact quiet_settles (.session request) quiet
    · cases request <;> first | rfl | cases gentle
  | _ => trivial

section Settles
variable {id : OrderId} {order : DomainOrderRow}

theorem quiet_settled {p : Job α} (quiet : Within JobReq.isQuiet p) :
    Within JobReq.settles p := within_mono quiet fun request => quiet_settles request

theorem session_settled {request : SessionReq β} (settles : request.failsJob = false) :
    Within JobReq.settles (session request) := (within_perform _).mpr settles

theorem failPaidOrder_settled (code : String) : Within JobReq.settles (failPaidOrder id code) :=
  within_mono (failPaidOrder_gently id code) fun _ => gently_settles

theorem giveUp_settled (code : String) :
    Within JobReq.settles (giveUp id code : Job (Option α)) :=
  within_bind (failPaidOrder_settled code) fun _ => within_ret none

theorem reserveRegistrationDomain_settled :
    Within JobReq.settles (reserveRegistrationDomain id order) := by
  have choose (row : Option DomainRow) (rest : Job (Option DomainRow))
      (without : row = none → rest = pure none)
      (chosen : ∀ held, row = some held → rest =
        if held.clientOrderId ≠ some id ∨ held.ownerAccountId ≠ order.ownerAccountId then pure none
        else pure (some held)) : Within JobReq.settles rest := by
    cases found : row with
    | none =>
      rw [without found]
      exact within_ret none
    | some held =>
      rw [chosen held found]
      split <;> exact within_ret _
  refine within_bind (session_settled rfl) fun reply => ?_
  cases reply with
  | found row => exact choose (some row) _ (by rintro ⟨⟩) (by rintro held ⟨⟩; rfl)
  | rebound =>
    exact within_bind (session_settled rfl) fun row =>
      choose row _ (by rintro rfl; rfl) (by rintro held rfl; rfl)
  | absent =>
    exact within_bind (session_settled rfl) fun _ => within_bind (session_settled rfl) fun row =>
      choose row _ (by rintro rfl; rfl) (by rintro held rfl; rfl)

theorem obtainRegistration_settled (domain : DomainRow) :
    Within JobReq.settles (obtainRegistration config id order domain) := by
  unfold obtainRegistration
  split
  · exact within_bind (quiet_settled (remote_quiet rfl)) fun _ => within_ret _
  refine within_bind (quiet_settled (remote_quiet rfl)) fun check => ?_
  split
  · exact giveUp_settled _
  refine within_bind (quiet_settled (remote_quiet rfl)) fun found => ?_
  cases found with
  | some existing =>
    dsimp only
    split
    · exact giveUp_settled _
    · exact within_ret _
  | none =>
    dsimp only
    split
    · exact within_raise _
    unfold submitRegistration
    split
    · exact giveUp_settled _
    split
    · refine within_bind (quiet_settled (remote_quiet rfl)) fun rate => ?_
      split
      · exact giveUp_settled _
      · exact within_bind (session_settled rfl) fun _ =>
          within_bind ((within_perform _).mpr trivial) fun _ => within_ret _
    · exact within_raise _

theorem completeRegistration_settled (fqdn : Fqdn) (result : ProviderResult) :
    Within JobReq.settles (completeRegistration id fqdn result) := by
  refine within_bind (quiet_settled (identify_quiet fqdn result)) fun answer =>
    within_bind (session_settled rfl) fun _ => ?_
  split
  · exact within_bind (quiet_settled (initializeZone_quiet fqdn _)) fun _ =>
      within_bind (session_settled rfl) fun _ => quiet_settled (provisionBundle_quiet id false)
  · exact within_ret ()

theorem fulfillRegistration_settled : Within JobReq.settles (fulfillRegistration config id) := by
  refine within_bind (quiet_settled (readRows_quiet _)) fun value => ?_
  cases value with
  | none => exact within_ret ()
  | some order =>
    refine within_bind (quiet_settled (readRows_quiet _)) fun quote => ?_
    cases quote with
    | none => exact failPaidOrder_settled _
    | some quote =>
      refine within_bind reserveRegistrationDomain_settled fun reply => ?_
      cases reply with
      | none => exact failPaidOrder_settled _
      | some domain =>
        refine within_bind (obtainRegistration_settled domain) fun obtained => ?_
        cases obtained with
        | none => exact within_ret ()
        | some result => exact completeRegistration_settled _ result

theorem obtainRenewal_settled (domain : DomainRow) (provider : ProviderId)
    (live : ProviderResult) :
    Within JobReq.settles (obtainRenewal id order domain provider live) := by
  unfold obtainRenewal
  split
  · split
    · exact within_raise _
    · exact within_ret _
  · split
    · exact within_raise _
    · exact within_bind (session_settled rfl) fun _ =>
        within_bind (quiet_settled (remote_quiet rfl)) fun _ => within_ret _

theorem fulfillRenewal_settled : Within JobReq.settles (fulfillRenewal config id) := by
  refine within_bind (quiet_settled (readRows_quiet _)) fun value => ?_
  cases value with
  | none => exact within_ret ()
  | some rows =>
    dsimp only
    split
    · exact failPaidOrder_settled _
    refine within_bind (quiet_settled (remote_quiet rfl)) fun price => ?_
    split
    · refine within_bind (quiet_settled (remote_quiet rfl)) fun rate => ?_
      split
      · exact failPaidOrder_settled _
      · exact within_bind (quiet_settled (remote_quiet rfl)) fun live =>
          within_bind (obtainRenewal_settled _ _ live) fun _ => session_settled rfl
    · exact within_raise _

theorem settleReconciled_settled (fqdn : Fqdn) (retryPending : Bool) (domain : DomainRow)
    (order : Option (OrderId × DomainOrderRow)) (provider : ProviderId) (result : ProviderResult) :
    Within JobReq.settles (settleReconciled fqdn retryPending domain order provider result) := by
  have finish (rest : Job Unit)
      (without : order = none → rest = session (.activateDomain fqdn))
      (chosen : ∀ id order', order = some (id, order') → rest = do
        session (.finishActiveOrder id fqdn)
        if order'.action = .register then provisionBundle id false else pure ()) :
      Within JobReq.settles rest := by
    cases found : order with
    | none =>
      rw [without found]
      exact session_settled rfl
    | some pair =>
      rw [chosen pair.1 pair.2 found]
      refine within_bind (session_settled rfl) fun _ => ?_
      split
      · exact quiet_settled (provisionBundle_quiet _ false)
      · exact within_ret ()
  unfold settleReconciled
  split
  · split
    · exact within_raise _
    · exact within_ret ()
  · cases domain.managedNameservers with
    | true =>
      exact within_bind (quiet_settled (ensureManagedZone_quiet fqdn provider)) fun _ =>
        finish _ (by rintro rfl; rfl) (by rintro id row rfl; rfl)
    | false => exact finish _ (by rintro rfl; rfl) (by rintro id row rfl; rfl)

theorem reconcileDomain_settled (fqdn : Fqdn) (retryPending : Bool) :
    Within JobReq.settles (reconcileDomain fqdn retryPending) := by
  refine within_bind (session_settled rfl) fun value => ?_
  cases value with
  | none => exact within_ret ()
  | some domain =>
    refine within_bind (quiet_settled (askAgain_quiet fqdn domain)) fun answer => ?_
    cases answer with
    | none => exact within_ret ()
    | some answer =>
      obtain ⟨provider, result⟩ := answer
      refine within_bind (within_mono (failTerminal_gently fqdn _) fun _ => gently_settles)
        fun terminal => within_bind (session_settled rfl) fun rows => ?_
      cases rows with
      | none => exact within_ret ()
      | some rows =>
        refine within_bind (session_settled rfl) fun _ => ?_
        split
        · exact within_ret ()
        split
        · split
          · exact within_raise _
          · exact within_ret ()
        · split
          · exact within_ret ()
          · exact settleReconciled_settled fqdn retryPending domain _ provider result

theorem fulfillOrder_settled : Within JobReq.settles (fulfillOrder config id) := by
  refine within_bind (session_settled rfl) fun value => ?_
  cases value with
  | none => exact within_ret ()
  | some order =>
    dsimp only
    split
    · exact within_ret ()
    · exact within_ret ()
    · split
      · exact quiet_settled (provisionBundle_quiet id false)
      · exact within_ret ()
    · exact reconcileDomain_settled order.fqdn false
    · refine within_bind (session_settled rfl) fun _ => within_rescue ?_ fun error => ?_
      · split
        · exact fulfillRenewal_settled
        · exact fulfillRegistration_settled
      · unfold failsOrder
        split
        · exact failPaidOrder_settled _
        · exact failPaidOrder_settled _
        · exact within_raise _

theorem dispatchJob_settled (claim : JobClaim) :
    Within JobReq.settles (dispatchJob config claim) := by
  unfold dispatchJob
  split
  · exact fulfillOrder_settled
  · exact reconcileDomain_settled claim.resource true

end Settles

def Claimed (w : ProcessId) (claim : JobClaim) (d : Registry) : Prop :=
  d.owing w = none ∧ (claim.kind = .fulfillOrder → Present claim.resource d)

theorem durable_claimed (claim : JobClaim) : Durable w (Claimed w claim) :=
  durable_and (durable_owing none) fun a b spares present fulfils =>
    durable_present a b spares (present fulfils)

/-- An execution that is over owes no refund, if the refund of a failed job follows. -/
def Released (prompt : Prop) (w : ProcessId) (d : Registry) : Prop := prompt → d.owing w = none

theorem claimJob_rule : JobTriple config prompt w (fun d => d.owing w = none) (session .claimJob)
      (outcome (fun reply d => d.owing w = none ∧ ∀ claim, reply = some claim →
        Fits claim.key claim.kind claim.resource ∧ Claimed w claim d)
        fun _ => Released prompt w) := by
  refine commit_rule (fun choice => claimJob config w choice.found choice.now) (fun _ _ => rfl)
    (durable_owing none) (fun choice d next value orderly idle _ done => ?_)
    (fun _ d error _ idle _ _ => idle) fun d idle _ _ => idle
  obtain ⟨kept, owing, claimed⟩ := claimJob_keeps orderly done
  have still : next.owing w = none := by
    rw [owing]
    exact idle
  refine ⟨kept, ⟨still, fun claim same => ?_⟩, fun _ _ => still⟩
  obtain ⟨fits, present⟩ := claimed claim same
  exact ⟨fits, still, present⟩

theorem dispatched_rule (claim : JobClaim) :
    JobTriple config prompt w (Claimed w claim) (dispatchJob config claim)
      (fun result d => (∀ value, result = .ok value → claim.kind = .fulfillOrder →
        Concludes claim.resource d) ∧ Claimed w claim d) := by
  have framed := triple_framed (dispatchJob_settled claim) (durable_stable (durable_owing none))
    (fun request choice d next reply settles _ idle _ ran _ _ =>
      settles_owing settles idle (Option.some.inj ran))
    (@dispatchJob_rule config prompt w claim)
  have present : ∀ v, Durable v fun d => claim.kind = .fulfillOrder → Present claim.resource d :=
    fun v a b spares present fulfils => durable_present a b spares (present fulfils)
  refine triple_weaken (job_persists present framed)
    (fun d _ claimed => ⟨⟨claimed.2, claimed.1⟩, claimed.2⟩) ?_
  rintro result d _ ⟨⟨reached, idle⟩, there⟩
  refine ⟨fun value same => ?_, idle, there⟩
  subst same
  exact reached

theorem completeJob_rule (fits : Fits claim.key claim.kind claim.resource) :
    JobTriple config prompt w
      (fun d => (claim.kind = .fulfillOrder → Concludes claim.resource d) ∧ Claimed w claim d)
      (session (.completeJob claim.key)) (fun _ => Released prompt w) := by
  have durable : Durable w fun d =>
      (claim.kind = .fulfillOrder → Concludes claim.resource d) ∧ Claimed w claim d :=
    fun a b spares holds => ⟨fun fulfils => (durable_concluded a b spares
      ⟨holds.1 fulfils, holds.2.2 fulfils⟩).1, durable_claimed claim a b spares holds.2⟩
  have spec : JobTriple config prompt w
      (fun d => (claim.kind = .fulfillOrder → Concludes claim.resource d) ∧ Claimed w claim d)
      (session (.completeJob claim.key))
      (outcome (fun _ => Released prompt w) fun _ => Released prompt w) := by
    refine commit_rule (fun _ => completeJob claim.key) (fun _ _ => rfl) durable
      (fun _ d next value orderly holds _ done => ?_) (fun _ d error _ holds _ _ => holds.2.1)
      fun d holds _ _ => holds.2.1
    have kept := completeJob_keeps (w := w) orderly fits holds.1 done
    have still : next.owing w = none := by
      cases done
      simpa using holds.2.1
    exact ⟨kept.1, fun _ => still, fun _ _ => still⟩
  refine triple_weaken spec (fun _ _ holds => holds) ?_
  rintro (error | value) d _ reached <;> exact reached

/-! `_retry_or_fail_job` -/

theorem requeueJob_rule (key : JobKey) (attempts : Nat) :
    JobTriple config prompt w (fun d => d.owing w = none) (session (.requeueJob key attempts))
      (outcome (fun _ => Released prompt w) fun _ => Released prompt w) := by
  refine commit_rule (fun choice => requeueJob key attempts choice.now) (fun _ _ => rfl)
    (durable_owing none) (fun choice d next value orderly idle _ done => ?_)
    (fun _ d error _ idle _ _ => idle) fun d idle _ _ => idle
  have kept := requeueJob_keeps (w := w) orderly done
  have still : next.owing w = none := by
    cases done
    simpa using idle
  exact ⟨kept.1, fun _ => still, fun _ _ => still⟩

def Reviewed (w : ProcessId) (claim : JobClaim) (view : FinalView) (d : Registry) : Prop :=
  d.owing w = none ∧ (claim.kind = .fulfillOrder →
    Present claim.resource d ∧ Viewed w claim.resource view d)

theorem durable_reviewed (claim : JobClaim) (view : FinalView) :
    Durable w (Reviewed w claim view) :=
  durable_and (durable_owing none) fun a b spares holds fulfils =>
    ⟨durable_present a b spares (holds fulfils).1, viewed_spared spares (holds fulfils).2⟩

theorem lookFailure_rule (claim : JobClaim) :
    JobTriple config prompt w (Claimed w claim) (lookFailure claim)
      (outcome (Reviewed w claim) fun _ => Released prompt w) := by
  unfold lookFailure
  split
  · rename_i fulfils
    have spec : JobTriple config prompt w (Claimed w claim) (session (.lookFinal claim.resource))
        (outcome (Reviewed w claim) fun error d =>
          error.failsOrder = false ∧ Claimed w claim d ∧ (prompt → d.owing w = none)) := by
      refine viewing_rule (lookFinal w claim.resource) (fun _ _ => rfl) (durable_claimed claim)
        fun d next view orderly claimed looked => ?_
      obtain ⟨kept, viewed⟩ := lookFinal_keeps orderly looked
      have idle : next.owing w = none := by
        unfold lookFinal at looked
        split at looked <;> cases looked <;> exact claimed.1
      refine ⟨kept, idle, fun _ => ⟨?_, viewed⟩⟩
      exact durable_present (w := w + 1) _ _ (kept.spares (w + 1) (Nat.succ_ne_self w))
        (claimed.2 fulfils)
    refine triple_weaken spec (fun _ _ holds => holds) ?_
    rintro (error | view) d _ reached
    · exact reached.2.2
    · exact reached
  · rename_i reconciles
    refine triple_ret _ fun d _ claimed => ⟨claimed.1, fun fulfils => ?_⟩
    rw [reconciles] at fulfils
    cases fulfils

variable (fits : Fits claim.key claim.kind claim.resource)
include fits

theorem failJob_rule (view : FinalView)
    (error : Err) :
    JobTriple config prompt w (Reviewed w claim view) (session (.failJob claim view error))
      (outcome (fun reply d => (reply = true → (Refundable w claim.resource d ∧
          d.owing w = some claim.resource) ∧ Present claim.resource d) ∧
        (reply = false → d.owing w = none)) fun _ => Released prompt w) := by
  refine commit_rule (fun _ => failJob w claim view error) (fun _ _ => rfl)
    (durable_reviewed claim view) (fun _ d next reply orderly reviewed current done => ?_)
    (fun _ d error _ reviewed _ _ => reviewed.1) fun d reviewed _ _ => reviewed.1
  obtain ⟨kept, refund, settled⟩ := failJob_keeps orderly fits reviewed.1 reviewed.2
    (fun fulfils order found => ⟨current.knows _ (by
      simp [SessionReq.rewrites, fulfils, found]), current.ends fulfils order found⟩) done
  refine ⟨kept, ⟨fun replied => ?_, settled⟩, fun cut prompted => ?_⟩
  · obtain ⟨fulfils, owing, refundable⟩ := refund replied
    exact ⟨⟨refundable, owing⟩, durable_present (w := w + 1) _ _
      (kept.spares (w + 1) (Nat.succ_ne_self w)) (reviewed.2 fulfils).1⟩
  · have never : (SessionReq.failJob claim view error).failsJob = false := (cut prompted).2
    cases never

theorem retryOrFailJob_rule (error : Err) :
    JobTriple config prompt w (Claimed w claim) (retryOrFailJob claim error)
      (outcome (fun _ => Released prompt w) fun _ => Released prompt w) := by
  have read : JobTriple config prompt w (Claimed w claim) (readRows fun d => d.jobs claim.key)
      (outcome (fun _ => Claimed w claim) fun _ => Released prompt w) := by
    refine triple_weaken (quiet_rule (readRows_quiet _) (durable_claimed claim))
      (fun _ _ holds => holds) ?_
    rintro (error | value) d _ claimed
    · exact fun _ => claimed.1
    · exact claimed
  refine triple_then read fun value => ?_
  cases value with
  | none => exact triple_ret () fun _ _ claimed _ => claimed.1
  | some job =>
    dsimp only
    split
    · exact triple_enter (requeueJob_rule claim.key job.attempts) fun _ claimed => claimed.1
    refine triple_then (lookFailure_rule claim) fun view =>
      triple_then (failJob_rule fits view error) fun reply => ?_
    cases reply with
    | false => exact triple_ret () fun _ _ holds _ => holds.2 rfl
    | true =>
      refine triple_weaken (failPaidOrder_rule prompt claim.resource _)
        (fun d _ holds => ?_) ?_
      · obtain ⟨⟨refundable, owing⟩, present⟩ := holds.1 rfl
        exact ⟨⟨refundable, fun prompted => ⟨prompted, owing⟩⟩, present⟩
      · rintro (error | value) d _ reached
        · exact fun prompted => absurd prompted reached.2
        · exact reached.2

omit fits

theorem processJob_rule : JobTriple config prompt w (fun d => d.owing w = none) (processJob config)
      (fun _ => Released prompt w) := by
  have spec : JobTriple config prompt w (fun d => d.owing w = none) (processJob config)
      (outcome (fun _ => Released prompt w) fun _ => Released prompt w) := by
    refine triple_then claimJob_rule fun reply => ?_
    cases reply with
    | none => exact triple_ret () fun _ _ holds _ => holds.1
    | some claim =>
      intro d orderly holds
      obtain ⟨fits, claimed⟩ := holds.2 claim rfl
      refine triple_bind (triple_attempt (dispatched_rule claim)) (fun result => ?_)
        (fun error d _ reached => ?_) d orderly claimed
      · cases result with
        | ok value =>
          refine triple_weaken (completeJob_rule fits) (fun d _ reached => ?_) ?_
          · obtain ⟨inner, same, concludes, still⟩ := reached
            cases same
            exact ⟨concludes value rfl, still⟩
          · rintro (error | value) d _ released <;> exact released
        | error error =>
          refine triple_enter (retryOrFailJob_rule fits error) fun d reached => ?_
          obtain ⟨inner, same, _, still⟩ := reached
          exact still
      · obtain ⟨inner, same, _⟩ := reached
        cases same
  refine triple_weaken spec (fun _ _ holds => holds) ?_
  rintro (error | value) d _ released <;> exact released

end Rules

end HyruleCloud
