import HyruleCloud.JobEndings

/-!
One execution of the worker among others that lose no update. `Diligent` is the
condition under which its requests are considered: a session that overwrites an
order or a row knows it, and the refund of a failed job is not cut off. There is
one rule for each kind of request.
-/

namespace HyruleCloud

open Interaction

def SessionReq.rewrites {β : Type} (request : SessionReq β) (d : Registry) : List Item :=
  let named (id : OrderId) : List Item := match d.orders id with
    | none => []
    | some order => [.row order.fqdn]
  match request with
  | .startChecking id | .finishActiveOrder id _ | .markRenewal id _ _ | .recordRenewal id _ _ _ =>
    [.order id]
  | .markSubmitted id fqdn | .recordRegistration id fqdn _ _ => [.order id, .row fqdn]
  | .recordReconcile fqdn _ order reading _ _ _ =>
    if reading.active || reading.expired then [.row fqdn]
    else .row fqdn :: order.toList.map .order
  | .commitFailure id _ _ held => .order id :: if held then named id else []
  | .failJob claim _ _ => match claim.kind with
      | .fulfillOrder => .order claim.resource :: named claim.resource
      | .reconcileDomain => []
  | _ => []

def SessionReq.ends {β : Type} (request : SessionReq β) (d : Registry) : Prop :=
  match request with
  | .failJob claim view _ => claim.kind = .fulfillOrder →
      ∀ order, d.orders claim.resource = some order → MayEnd claim.resource view order d
  | _ => True

/-- The commit that fails a job is the one after which a refund may be outstanding. -/
def SessionReq.failsJob {β : Type} : SessionReq β → Bool
  | .failJob _ _ _ => true
  | _ => false

structure UpToDate {β : Type} (w : ProcessId) (request : SessionReq β) (d : Registry) : Prop where
  knows : ∀ item ∈ request.rewrites d, d.known w item = true
  ends : request.ends d

/-- A request that loses no update; with `prompt`, the refund of a failed job follows. -/
def Diligent {β : Type} (prompt : Prop) (w : ProcessId) (request : JobReq β) (choice : JobChoice)
    (d : Registry) : Prop :=
  match request with
  | .remote _ | .bundle _ => True
  | .read _ => prompt → d.owing w ≠ none → choice.fate = .done
  | .session request =>
    (prompt → (d.owing w ≠ none → choice.fate = .done) ∧
      (request.failsJob = true → choice.fate ≠ .lost)) ∧
    (choice.fate = .failed ∨ UpToDate w request d)

variable {P : Registry → Prop} {d : Registry}

variable {β : Type}

section Rules
variable {config : DomainConfig} {prompt : Prop} {w : ProcessId}

def diligentJobs (config : DomainConfig) (prompt : Prop) (w : ProcessId) :
    Setting JobReq Err Registry JobChoice where
  exec request choice d := some (jobExec config w request choice d)
  permits request choice d := Diligent prompt w request choice d
  mayCrash _ d := prompt → d.owing w = none

/-- Each execution keeps the tables orderly and spares the others. -/
def jobDuty (prompt : Prop) (w : ProcessId) : Duty Registry where
  inv := Orderly
  rely := Spares w
  guar a b := ∀ other, other ≠ w → Spares other a b
  crash d := prompt → d.owing w = none
  rely_refl := Spares.refl w
  rely_trans := Spares.trans

abbrev JobTriple {α : Type} (config : DomainConfig) (prompt : Prop) (w : ProcessId)
    (pre : Registry → Prop) (p : Job α) (post : Except Err α → Registry → Prop) : Prop :=
  Triple (diligentJobs config prompt w) (jobDuty prompt w) pre p post

/-- An assertion of `w` that survives the steps of the others. -/
def Durable (w : ProcessId) (P : Registry → Prop) : Prop := ∀ a b, Spares w a b → P a → P b

theorem durable_stable (durable : Durable w P) :
    Stable (jobDuty prompt w) P := fun a b holds moved _ => durable a b moved holds

theorem durable_and {Q : Registry → Prop} (first : Durable w P) (second : Durable w Q) :
    Durable w fun d => P d ∧ Q d :=
  fun a b moved holds => ⟨first a b moved holds.1, second a b moved holds.2⟩

theorem job_persists {α : Type} {pre fact : Registry → Prop} {post : Except Err α → Registry → Prop}
    {p : Job α} (durable : ∀ v, Durable v fact) (spec : JobTriple config prompt w pre p post) :
    JobTriple config prompt w (fun d => pre d ∧ fact d) p
      (fun result d => post result d ∧ fact d) :=
  triple_persists (durable_stable (durable w))
    (fun a b before stepped _ => durable (w + 1) a b (stepped (w + 1) (Nat.succ_ne_self w)) before)
    spec

/-- The errors on which `_fulfill_order` fails the order. -/
def Err.failsOrder : Err → Bool
  | .openprovider _ false | .domainProblem _ _ => true
  | _ => false

def Failing (w : ProcessId) (id : OrderId) (error : Err) (d : Registry) : Prop :=
  error.failsOrder = true → Refundable w id d

theorem quiet_failing {id : OrderId} {error : Err} (quiet : error.failsOrder = false) :
    Failing w id error d := fun fails => by
  rw [quiet] at fails
  cases fails

theorem job_dies {request : JobReq β} (d : Registry) (_ : Orderly d) (_ : P d)
    (crashes : (diligentJobs config prompt w).mayCrash request d) :
    (jobDuty prompt w).crash d := crashes

section
variable {β : Type} {request : SessionReq β} (tx : JobChoice → Transaction Registry β)
  (runs : ∀ choice d, sessionExec config w request choice d = transact (tx choice) choice.fate d)
include runs

/-- A session that commits, with the transaction that it runs. It fails before the
commit, or its transaction refuses, or its acknowledgement is lost. -/
theorem commit_rule {Q : β → Registry → Prop} {E : Err → Registry → Prop} (durable : Durable w P)
    (keeps : ∀ choice d next value, Orderly d → P d → UpToDate w request d →
      tx choice d = .ok (next, value) → Keeping w d next ∧ Q value next ∧
        ((prompt → d.owing w = none ∧ request.failsJob = false) → E .database next))
    (refuses : ∀ choice d error, Orderly d → P d → tx choice d = .error error → E error d)
    (fails : ∀ d, P d → (prompt → d.owing w = none) → E .database d) :
    JobTriple config prompt w P (session request) (outcome Q E) := by
  refine triple_perform (.session request) (durable_stable durable) job_dies
    fun d choice next reply orderly holds diligent ran => ?_
  have executed : transact (tx choice) choice.fate d = (next, reply) := by
    rw [← runs]
    exact Option.some.inj ran
  obtain ⟨follows, current⟩ : (prompt → (d.owing w ≠ none → choice.fate = .done) ∧
      (request.failsJob = true → choice.fate ≠ .lost)) ∧
      (choice.fate = .failed ∨ UpToDate w request d) := diligent
  have settled (cut : choice.fate ≠ .done) (prompted : prompt) : d.owing w = none := by
    by_contra owing
    exact cut ((follows prompted).1 owing)
  rcases transact_cases _ _ _ _ _ executed with ⟨same, error, replied, cause⟩ |
    ⟨value, done, fate, replied⟩ | ⟨value, done, fate, replied⟩
  · subst same replied
    refine ⟨orderly, fun other _ => .refl other _, ?_⟩
    rcases cause with failed | refused
    · rw [failed] at executed
      cases executed
      exact fails _ holds (settled (by rw [failed]; nofun))
    · exact refuses choice _ error orderly holds refused
  · have upToDate := current.resolve_left (by rw [fate]; nofun)
    obtain ⟨kept, after, _⟩ := keeps choice d next value orderly holds upToDate done
    subst replied
    exact ⟨kept.orderly, kept.spares, after⟩
  · have upToDate := current.resolve_left (by rw [fate]; nofun)
    obtain ⟨kept, _, cut⟩ := keeps choice d next value orderly holds upToDate done
    subst replied
    refine ⟨kept.orderly, kept.spares, cut fun prompted => ⟨settled (by rw [fate]; nofun) prompted, ?_⟩⟩
    cases failing : request.failsJob with
    | false => rfl
    | true => exact absurd fate ((follows prompted).2 failing)

/-- A session of a fulfilment: its own failures never fail the order. `F` are facts
that survive every step. -/
theorem session_rule {P F : Registry → Prop} {Q : β → Registry → Prop} (durable : Durable w P)
    (persists : ∀ v, Durable v F)
    (keeps : ∀ choice d next value, Orderly d → P d → F d → UpToDate w request d →
      tx choice d = .ok (next, value) → Keeping w d next ∧ Q value next)
    (refuses : ∀ choice d error, tx choice d = .error error → error.failsOrder = false) :
    JobTriple config prompt w (fun d => P d ∧ F d) (session request)
      (outcome (fun value d => Q value d ∧ F d) fun error d => error.failsOrder = false ∧ F d) := by
  have spec : JobTriple config prompt w (fun d => P d ∧ F d) (session request)
      (outcome Q fun error _ => error.failsOrder = false) :=
    commit_rule tx runs (durable_and durable (persists w))
      (fun choice d next value orderly holds current done => by
        obtain ⟨kept, after⟩ := keeps choice d next value orderly holds.1 holds.2 current done
        exact ⟨kept, after, fun _ => rfl⟩)
      (fun choice d error _ _ refused => refuses choice d error refused) fun _ _ _ => rfl
  refine triple_weaken (job_persists persists spec) (fun _ _ holds => ⟨holds, holds.2⟩) ?_
  rintro (error | value) d _ holds <;> exact holds

end

theorem viewing_rule {request : SessionReq β} (view : Registry → Registry × β)
    (runs : ∀ choice d, sessionExec config w request choice d = viewing view choice.fate d)
    {Q : β → Registry → Prop} (durable : Durable w P)
    (keeps : ∀ d next value, Orderly d → P d → view d = (next, value) →
      Keeping w d next ∧ Q value next) :
    JobTriple config prompt w P (session request)
      (outcome Q fun error d => error.failsOrder = false ∧ P d ∧ (prompt → d.owing w = none)) := by
  refine triple_perform (.session request) (durable_stable durable) job_dies
    fun d choice next reply orderly holds diligent ran => ?_
  have executed : viewing view choice.fate d = (next, reply) := by
    rw [← runs]
    exact Option.some.inj ran
  have follows : prompt → (d.owing w ≠ none → choice.fate = .done) ∧
    (request.failsJob = true → choice.fate ≠ .lost) := diligent.1
  unfold viewing at executed
  split at executed
  · cases executed
    obtain ⟨kept, after⟩ := keeps d _ _ orderly holds rfl
    exact ⟨kept.orderly, kept.spares, after⟩
  · rename_i cut
    cases executed
    refine ⟨orderly, fun other _ => .refl other _, rfl, holds, fun prompted => ?_⟩
    by_contra owing
    exact cut ((follows prompted).1 owing)

theorem read_rule (query : Registry → β) (facts : β → Registry → Prop)
    (durable : Durable w P) (reads : ∀ d, Orderly d → P d → facts (query d) d) :
    JobTriple config prompt w P (readRows query)
      (outcome (fun value d => P d ∧ facts value d) fun error d =>
        error.failsOrder = false ∧ P d ∧ (prompt → d.owing w = none)) := by
  refine triple_perform (.read query) (durable_stable durable) job_dies
    fun d choice next reply orderly holds diligent ran => ?_
  have executed : viewing (fun d => (d, query d)) choice.fate d = (next, reply) :=
    Option.some.inj ran
  have follows : prompt → d.owing w ≠ none → choice.fate = .done := diligent
  unfold viewing at executed
  split at executed
  · cases executed
    exact ⟨orderly, fun other _ => .refl other _, holds, reads _ orderly holds⟩
  · rename_i cut
    cases executed
    refine ⟨orderly, fun other _ => .refl other _, rfl, holds, fun prompted => ?_⟩
    by_contra owing
    exact cut (follows prompted owing)

theorem register_rule (fqdn : Fqdn) {id : OrderId} (durable : Durable w P)
    (kept : ∀ d submissions, P d → P { d with submissions := submissions })
    (marked : ∀ d, P d → d.marked w = some ⟨id, some id⟩) :
    JobTriple config prompt w P (remote (.registerDomain fqdn)) (fun _ => P) := by
  refine triple_perform (.remote (.registerDomain fqdn)) (durable_stable durable) job_dies
    fun d choice next reply orderly holds _ ran => ?_
  have executed : ({ d with submissions := d.marked w :: d.submissions },
      (RemoteReq.registerDomain fqdn).replies choice.answer) = (next, reply) :=
    Option.some.inj ran
  cases executed
  refine ⟨⟨⟨⟨orderly.bindings.1, orderly.bindings.2, orderly.bindings.3⟩,
    { orderly.ends with },
    ⟨fun mark member => ?_, orderly.traces.2⟩⟩, ⟨fun other order found => ?_,
    orderly.ledgers.payable, orderly.ledgers.unknown⟩⟩,
    fun other _ => { Spares.refl other d with }, kept d _ holds⟩
  · rcases List.mem_cons.mp member with same | before
    · exact ⟨id, same.trans (marked d holds)⟩
    · exact orderly.traces.submissions mark before
  · obtain ⟨once, due, kept⟩ := orderly.ledgers.balanced other order found
    exact ⟨once, due, kept⟩

/-! Requests that touch nothing on which anybody relies. -/

def RemoteReq.submits {β : Type} : RemoteReq β → Bool
  | .registerDomain _ => true
  | _ => false

def SessionReq.isQuiet {β : Type} : SessionReq β → Bool
  | .recordZone _ | .recordZoneError _ | .activateDomain _ => true
  | _ => false

/-- Everything but a submission and the sessions that look at or write an order or
the seat of a row. -/
def JobReq.isQuiet {β : Type} : JobReq β → Prop
  | .remote request => request.submits = false
  | .bundle _ | .read _ => True
  | .session request => request.isQuiet = true

theorem unobtrusive_step {tx : Transaction Registry β} {fate : Fate} {next : Registry}
    {reply : Except Err β} (unobtrusive : Unobtrusive tx) (orderly : Orderly d)
    (ran : transact tx fate d = (next, reply)) : Keeping w d next ∧ Spares w d next := by
  rcases transact_cases _ _ _ _ _ ran with ⟨same, _⟩ | ⟨value, done, _⟩ | ⟨value, done, _⟩
  · subst same
    exact ⟨.refl orderly, .refl w _⟩
  · exact unobtrusive_keeps unobtrusive orderly done
  · exact unobtrusive_keeps unobtrusive orderly done

theorem quiet_step {request : JobReq β} {choice : JobChoice} {next : Registry}
    {reply : Except Err β} (quiet : request.isQuiet) (orderly : Orderly d)
    (ran : jobExec config w request choice d = (next, reply)) :
    Keeping w d next ∧ Spares w d next := by
  cases request with
  | remote request =>
    have same : submitted w request d = d := by
      cases request with
      | registerDomain fqdn => exact absurd quiet (by simp [JobReq.isQuiet, RemoteReq.submits])
      | _ => rfl
    simp only [jobExec, same] at ran
    cases ran
    exact ⟨.refl orderly, .refl w d⟩
  | read query =>
    simp only [jobExec, viewing] at ran
    split at ran <;> cases ran <;> exact ⟨.refl orderly, .refl w _⟩
  | bundle request => exact unobtrusive_step (bundle_unobtrusive request choice) orderly ran
  | session request =>
    cases request with
    | recordZone fqdn => exact unobtrusive_step (recordZone_unobtrusive fqdn) orderly ran
    | recordZoneError fqdn => exact unobtrusive_step (recordZoneError_unobtrusive fqdn) orderly ran
    | activateDomain fqdn => exact unobtrusive_step (activateDomain_unobtrusive fqdn) orderly ran
    | _ => exact absurd quiet (by simp [JobReq.isQuiet, SessionReq.isQuiet])

theorem quiet_rule {α : Type} {p : Job α} {P : Registry → Prop}
    (quiet : Within JobReq.isQuiet p) (durable : Durable w P) :
    JobTriple config prompt w P p (fun _ => P) := by
  refine triple_within p quiet (durable_stable durable) (fun _ d _ => job_dies d)
    fun request choice d next reply allowed orderly holds _ ran => ?_
  obtain ⟨kept, spared⟩ := quiet_step allowed orderly (Option.some.inj ran)
  exact ⟨kept.orderly, kept.spares, durable _ _ spared holds⟩

end Rules

end HyruleCloud
