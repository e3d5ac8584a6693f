import HyruleCloud.IntentRefunds

/-!
`scan_pending_intents`: which intents a pass picks up. A settled intent is not
among them, so its payment depends on the worker that settled it: the next thing
this worker asks is the handoff update.
-/

namespace HyruleCloud

open Interaction

inductive ScanPass where
  | poll | resumeDomain | recoverVm

/-- The three selections of `scan_pending_intents` at one time. -/
def selectedFor (now : Time) (row : CryptoIntentRow) : Option ScanPass :=
  match row.status with
  | .created | .waitingPayment => some .poll
  | .provisioning => match row.resourceType with
      | .domainOrder => some .resumeDomain
      | .vm => if row.provisioningTriggeredAt.any (· + vmProvisioningRecoveryDelay ≤ now) then
          some .recoverVm else none
  | _ => none

def IntentStatus.unfinished : IntentStatus → Bool
  | .settled | .provisioning => true
  | _ => false

def Reexamined (row : CryptoIntentRow) : Prop :=
  ∀ now, (∀ stamp, row.provisioningTriggeredAt = some stamp →
    stamp + vmProvisioningRecoveryDelay ≤ now) → (selectedFor now row).isSome

def Triggers (intent : IntentId) {α : Type} (program : Checkout α) : Prop :=
  ∃ worker next, program = .call (.triggerHandoff worker intent) next

def Holds (intent : IntentId) (thread : Thread CheckoutReq Err) : Prop :=
  ∃ program, thread = .live program ∧ Triggers intent program

/-- The stamp of the handoff update is there exactly from that update on. -/
structure Stamped (row : CryptoIntentRow) : Prop where
  flying : row.status = .provisioning → row.provisioningTriggeredAt.isSome
  once : row.provisioningTriggeredAt.isSome → row.status.isTerminal = true

theorem stamped_reexamined (row : CryptoIntentRow) (stamped : Stamped row)
    (flying : row.status = .provisioning) : Reexamined row := by
  intro now elapsed
  simp only [selectedFor, flying]
  cases row.resourceType with
  | domainOrder => rfl
  | vm =>
    obtain ⟨stamp, stamped'⟩ := Option.isSome_iff_exists.mp (stamped.flying flying)
    have due := elapsed stamp stamped'
    simp [stamped', due]

/-! A worker that settles an intent goes on to trigger it. -/

/-- Everything but a scan, with statuses that end the engine's part. -/
def Scanless {β : Type} : CheckoutReq β → Prop
  | .setIntentStatus _ status | .finishResumedHandoff _ status =>
    status.isTerminal = true ∧ status ≠ .provisioning
  | .applyIntentScan _ _ => False
  | _ => True

def Follows {α β : Type} (request : CheckoutReq β) (next : Except Err β → Checkout α) : Prop :=
  match β, request, next with
  | _, .applyIntentScan intent _, next => ∀ row : CryptoIntentRow, row.status = .settled →
      Triggers intent (next (.ok (some row)))
  | _, request, _ => Scanless request

def Prompt {α : Type} : Checkout α → Prop
  | .ret _ => True
  | .raise _ => True
  | .call request next => Follows request next ∧ ∀ reply, Prompt (next reply)

theorem follows_of_scanless {α β : Type} (request : CheckoutReq β)
    (next : Except Err β → Checkout α) (calm : Scanless request) : Follows request next := by
  cases request <;> first | exact calm | exact calm.elim

theorem prompt_of_scanless {α : Type} (p : Checkout α) (calm : Within Scanless p) : Prompt p := by
  induction p with
  | ret | raise => trivial
  | call request next ih =>
    exact ⟨follows_of_scanless request next calm.1, fun reply => ih reply (calm.2 reply)⟩

theorem prompt_bind {α β : Type} (p : Checkout α) (rest : α → Checkout β)
    (calm : Within Scanless p) (later : ∀ value, Prompt (rest value)) : Prompt (p >>= rest) := by
  induction p with
  | ret value => exact later value
  | raise error => trivial
  | call request next ih =>
    exact ⟨follows_of_scanless request _ calm.1, fun reply => ih reply (calm.2 reply)⟩

theorem scanless_of_asks {α : Type} (p : Checkout α) (asks : Within HandoffAsk p) :
    Within Scanless p := by
  refine within_mono asks fun request allowed => ?_
  cases request with
  | setIntentStatus intent status =>
    have failed : status = .failed := allowed
    rw [failed]
    exact ⟨rfl, by decide⟩
  | finishResumedHandoff intent status => exact allowed.elim
  | applyIntentScan intent scan => exact allowed
  | _ => trivial

theorem scanless_ask {β : Type} (request : CheckoutReq β) (calm : Scanless request) :
    Within Scanless (ask request) := (within_perform request).mpr calm

theorem handedStatus_final (order : DomainOrderRow) :
    (handedStatus order).isTerminal = true ∧ handedStatus order ≠ .provisioning := by
  simp only [handedStatus]
  split <;> exact ⟨rfl, by decide⟩

theorem scanless_domainHandoff (intent : IntentId) (row : CryptoIntentRow) :
    Within Scanless (domainHandoff intent row) := by
  have refund : ∀ reason, Within Scanless (refundIntent intent reason) := fun reason =>
    scanless_of_asks _ (asks_refundIntent intent reason none)
  simp only [domainHandoff]
  cases row.resourceId with
  | none => exact refund _
  | some id =>
    refine within_rescue (within_bind (scanless_ask (.nativeOrderSettled id _) trivial) fun order =>
      scanless_ask _ (handedStatus_final order)) fun _ => ?_
    refine within_bind (scanless_ask (.getOrder id) trivial) fun order => ?_
    split
    · exact scanless_ask _ (handedStatus_final _)
    · exact refund _

theorem scanless_triggerProvisioning (job : Handoff.Worker) :
    Within Scanless (triggerProvisioning job) := by
  refine within_bind (scanless_ask (.triggerHandoff job.worker job.intent) trivial) fun won => ?_
  cases won with
  | none => trivial
  | some row =>
    dsimp only
    cases row.provisioningTriggeredAt with
    | none => trivial
    | some token =>
      dsimp only
      split
      · exact scanless_domainHandoff job.intent row
      · exact scanless_of_asks _ (asks_vmHandoff job row token)

theorem prompt_pollOneIntent (job : Handoff.Worker) : Prompt (pollOneIntent job) := by
  refine prompt_bind _ _ (scanless_ask (.getIntent job.intent) trivial) fun found => ?_
  cases found with
  | none => trivial
  | some row =>
    dsimp only
    split
    · trivial
    refine prompt_bind _ _ (within_attempt (scanless_ask (.scanAddress job.intent) trivial))
      fun scanned => ?_
    cases scanned with
    | error error => trivial
    | ok scan =>
      refine ⟨?_, fun reply => ?_⟩
      · intro row settled
        show Triggers job.intent
          (if row.status = .settled then triggerProvisioning job else pure ())
        rw [if_pos settled]
        exact ⟨job.worker, _, rfl⟩
      · cases reply with
        | error error => trivial
        | ok applied => cases applied with
            | none => trivial
            | some row =>
              show Prompt (if row.status = .settled then triggerProvisioning job else pure ())
              split
              · exact prompt_of_scanless _ (scanless_triggerProvisioning job)
              · trivial

theorem scanless_resumeDomainHandoff (intent : IntentId) :
    Within Scanless (resumeDomainHandoff intent) := by
  refine within_bind (scanless_ask (.getIntent intent) trivial) fun found => ?_
  cases found with
  | none => trivial
  | some row =>
    dsimp only
    cases row.resourceId with
    | none => trivial
    | some id =>
      dsimp only
      split
      · trivial
      refine within_bind (within_attempt (scanless_ask (.nativeOrderSettled id _) trivial))
        fun settled => ?_
      cases settled with
      | error error => trivial
      | ok order => exact scanless_ask _ (handedStatus_final order)

theorem prompt_program (thread : Nat) (job : Engine) : Prompt (job.program thread) := by
  cases job with
  | poll process intent => exact prompt_pollOneIntent _
  | resume intent => exact prompt_of_scanless _ (scanless_resumeDomainHandoff intent)
  | recover intent => exact prompt_of_scanless _ (scanless_of_asks _ (asks_recoverInterruptedVm intent))
  | refund intent reason vm =>
    exact prompt_of_scanless _ (scanless_of_asks _ (asks_refundIntent intent reason vm))

def RequestScans (intent : IntentId) {β : Type} : CheckoutReq β → Prop
  | .applyIntentScan other _ => other = intent
  | _ => False

def IsSettled (intent : IntentId) (w : World) : Prop :=
  ∃ row, w.intents intent = some row ∧ row.status = .settled

/-- Between the commit that settles an intent and its handoff update, no
acknowledgement is lost, the update does not fail, and the process lives. -/
def handoffSetting : Setting CheckoutReq Err World CheckoutChoice where
  exec := CheckoutReq.exec
  permits request choice w := match request, choice with
    | .applyIntentScan intent scan, .requoted now rate .lost =>
      ∀ row, w.intents intent = some row → (appliedScan row scan now rate).status ≠ .settled
    | .triggerHandoff _ intent, .clocked _ .failed => ¬ IsSettled intent w
    | _, _ => True
  mayCrash request w := match request with
    | .triggerHandoff _ intent => ¬ IsSettled intent w
    | _ => True

theorem appliedScan_open (row : CryptoIntentRow) (scan : ScanResult) (now : Time)
    (rate : Option Rat) :
    (appliedScan row scan now rate).status ≠ .provisioning ∧
      (appliedScan row scan now rate).provisioningTriggeredAt = row.provisioningTriggeredAt := by
  refine ⟨?_, ?_⟩
  · rcases appliedScan_status row scan now rate with expired | decided
    · rw [expired]
      decide
    · rw [decided]
      simp only [decideStatus]
      repeat' split
      all_goals decide
  · simp only [appliedScan]
    split <;> split <;> rfl

theorem follows_calm {α β : Type} (request : CheckoutReq β) (next : Except Err β → Checkout α)
    (follows : Follows request next) : Scanless request ∨ ∃ intent, RequestScans intent request := by
  cases request with
  | applyIntentScan intent scan => exact Or.inr ⟨intent, rfl⟩
  | _ => exact Or.inl follows

section
variable {β : Type} (intent : IntentId) (row next : CryptoIntentRow) (request : CheckoutReq β)
  (write : IntentWrite intent row request next)
include β intent write

theorem write_stamped
    (calm : Scanless request ∨ ∃ intent, RequestScans intent request) (stamped : Stamped row) :
    Stamped next := by
  cases write with
  | triggered worker now first => exact ⟨fun _ => rfl, fun _ => rfl⟩
  | planned vm unplanned => exact ⟨stamped.flying, stamped.once⟩
  | provisioned | refunded => exact ⟨(fun absurd => by cases absurd), fun _ => rfl⟩
  | status status =>
    rcases calm with final | ⟨_, scans⟩
    · exact ⟨fun flying => absurd flying final.2, fun _ => final.1⟩
    · exact scans.elim
  | finished status flying =>
    rcases calm with final | ⟨_, scans⟩
    · exact ⟨fun flying => absurd flying final.2, fun _ => final.1⟩
    · exact scans.elim
  | scanned scan now rate live =>
    obtain ⟨grounded, stamp⟩ := appliedScan_open row scan now rate
    refine ⟨fun flying => absurd flying grounded, fun some => ?_⟩
    rw [stamp] at some
    have terminal := stamped.once some
    rw [live] at terminal
    cases terminal
  | leased now flying vm stale =>
    exact ⟨fun _ => rfl, fun _ => by rw [flying]; rfl⟩

theorem write_unsettled
    (calm : Scanless request) (settled : next.status = .settled) : row.status = .settled := by
  cases write with
  | planned | leased => exact settled
  | status status | finished status =>
    have final := calm.1
    rw [show status = .settled from settled] at final
    cases final
  | scanned scan now rate live => exact calm.elim
  | _ => cases settled

end

theorem written_settled {intent other : IntentId} {w w' : World} {next : CryptoIntentRow}
    (written : w'.intents = w.intents.put other next) (settled : IsSettled intent w') :
    (intent = other ∧ next.status = .settled) ∨ IsSettled intent w := by
  obtain ⟨row, found, status⟩ := settled
  rw [written] at found
  rcases update_cases found with ⟨here, ⟨⟩⟩ | ⟨_, found⟩
  · exact Or.inl ⟨here, status⟩
  · exact Or.inr ⟨row, found, status⟩

theorem scanless_settled {β : Type} (intent : IntentId) (request : CheckoutReq β)
    (choice : CheckoutChoice) (w w' : World) (reply : Except Err β) (calm : Scanless request)
    (ran : request.exec choice w = some (w', reply)) (settled : IsSettled intent w') :
    IsSettled intent w := by
  rcases intent_effect request choice w w' reply ran with
    same | ⟨other, row, next, present, write, written⟩
  · obtain ⟨row, found, status⟩ := settled
    exact ⟨row, by rw [← same]; exact found, status⟩
  · rcases written_settled written settled with ⟨rfl, status⟩ | before
    · exact ⟨row, present, write_unsettled intent row next request write calm status⟩
    · exact before

theorem applyIntentScan_outcome (intent : IntentId) (scan : ScanResult) (now : Time)
    (rate : Option Rat) (s s' : Store) (value : Option CryptoIntentRow)
    (done : applyIntentScan intent scan now rate s = .ok (s', value)) :
    s' = s ∨ ∃ row, s.intents intent = some row ∧ value = some (appliedScan row scan now rate) ∧
      s'.intents = s.intents.put intent (appliedScan row scan now rate) := by
  simp only [applyIntentScan] at done
  repeat' split at done
  all_goals cases done
  · exact Or.inl rfl
  · exact Or.inl rfl
  · rename_i row present _
    exact Or.inr ⟨row, present, rfl, rfl⟩

theorem scan_settled (intent other : IntentId) (scan : ScanResult) (choice : CheckoutChoice)
    (w w' : World) (reply : Except Err (Option CryptoIntentRow))
    (permitted : handoffSetting.permits (.applyIntentScan other scan) choice w)
    (ran : (CheckoutReq.applyIntentScan other scan).exec choice w = some (w', reply))
    (settled : IsSettled intent w') :
    IsSettled intent w ∨
      other = intent ∧ ∃ row, reply = .ok (some row) ∧ row.status = .settled := by
  simp only [CheckoutReq.exec] at ran
  split at ran
  · rename_i now rate fate
    simp only [Option.some.injEq] at ran
    rcases transact_cases _ fate w w' reply ran with
      ⟨same, _⟩ | ⟨value, done, _, answered⟩ | ⟨value, done, lost, _⟩
    · exact Or.inl (same ▸ settled)
    · rcases applyIntentScan_outcome _ _ _ _ _ _ _ (onStore_ok _ _ _ _ done).1 with
        same | ⟨row, present, returned, written⟩
      · obtain ⟨last, found, status⟩ := settled
        exact Or.inl ⟨last, by rw [← same]; exact found, status⟩
      · rcases written_settled written settled with ⟨rfl, status⟩ | before
        · exact Or.inr ⟨rfl, _, answered.trans (congrArg _ returned), status⟩
        · exact Or.inl before
    · subst lost
      rcases applyIntentScan_outcome _ _ _ _ _ _ _ (onStore_ok _ _ _ _ done).1 with
        same | ⟨row, present, _, written⟩
      · obtain ⟨last, found, status⟩ := settled
        exact Or.inl ⟨last, by rw [← same]; exact found, status⟩
      · rcases written_settled written settled with ⟨rfl, status⟩ | before
        · exact absurd status (permitted row present)
        · exact Or.inl before
  · cases ran

theorem settled_after {β : Type} (intent : IntentId) (request : CheckoutReq β)
    (choice : CheckoutChoice) (w w' : World) (reply : Except Err β)
    (calm : Scanless request ∨ ∃ intent, RequestScans intent request)
    (permitted : handoffSetting.permits request choice w)
    (ran : request.exec choice w = some (w', reply)) (settled : IsSettled intent w') :
    IsSettled intent w ∨ ∀ {α : Type} (next : Except Err β → Checkout α), Follows request next →
      Triggers intent (next reply) := by
  cases request with
  | applyIntentScan other scan =>
    rcases scan_settled intent other scan choice w w' reply permitted ran settled with
      before | ⟨same, row, answered, status⟩
    · exact Or.inl before
    · subst same answered
      exact Or.inr fun next follows => follows row status
  | _ =>
    rcases calm with calm | ⟨_, scans⟩
    · exact Or.inl (scanless_settled intent _ choice w w' reply calm ran settled)
    · exact scans.elim

theorem triggers_settled (worker : Nat) (intent : IntentId) (now : Time) (w : World)
    (row : CryptoIntentRow) (present : w.intents intent = some row) (stamped : Stamped row)
    (settled : row.status = .settled) :
    ∃ w' value, triggerHandoffIn worker intent now w = .ok (w', value) ∧
      ¬ IsSettled intent w' := by
  have first : row.provisioningTriggeredAt = none := by
    cases stamp : row.provisioningTriggeredAt with
    | none => rfl
    | some time =>
      have terminal := stamped.once (by rw [stamp]; rfl)
      rw [settled] at terminal
      cases terminal
  refine ⟨_, _, by
    simp only [triggerHandoffIn, onStore, triggerHandoff, present, first, Option.isSome_none,
      Bool.false_eq_true, ↓reduceIte, Option.any_some, Option.isNone_none]
    exact rfl, ?_⟩
  rintro ⟨last, found, status⟩
  simp only [put_same, Option.some.injEq] at found
  subst found
  cases status

theorem triggered_unsettled (worker : Nat) (intent : IntentId) (choice : CheckoutChoice)
    (w w' : World) (reply : Except Err (Option CryptoIntentRow))
    (stamped : ∀ row, w.intents intent = some row → Stamped row)
    (permitted : handoffSetting.permits (.triggerHandoff worker intent) choice w)
    (ran : (CheckoutReq.triggerHandoff worker intent).exec choice w = some (w', reply)) :
    ¬ IsSettled intent w' := by
  intro settled
  have before : IsSettled intent w :=
    scanless_settled intent (.triggerHandoff worker intent) choice w w' reply trivial ran settled
  obtain ⟨row, present, status⟩ := before
  cases choice with
  | clocked now fate =>
    obtain ⟨after, value, carried, unsettled⟩ :=
      triggers_settled worker intent now w row present (stamped row present) status
    simp only [CheckoutReq.exec, clocked, Option.some.injEq] at ran
    rcases transact_cases _ fate w w' reply ran with
      ⟨same, error, _, cause⟩ | ⟨value', done, _⟩ | ⟨value', done, _⟩
    · rcases cause with failed | aborted
      · subst failed
        exact permitted ⟨row, present, status⟩
      · rw [carried] at aborted
        cases aborted
    · rw [carried] at done
      cases done
      exact unsettled settled
    · rw [carried] at done
      cases done
      exact unsettled settled
  | _ => cases ran

def settlementEngine (setting : Setting CheckoutReq Err World CheckoutChoice)
    (jobs : Nat → Engine) : Workload CheckoutReq Err World CheckoutChoice Elsewhere Nat :=
  { intentEngine setting jobs with
    mayTick := fun event w => MayHappen event w ∧
      ∀ id row, event = .intent id row → row.provisioningTriggeredAt = none }

/-- Every settled intent has a worker that is about to trigger it. -/
structure Watched (pool : Pool CheckoutReq Err World Nat) : Prop where
  stamped : ∀ intent row, pool.shared.intents intent = some row → Stamped row
  prompt : ∀ t program, pool.thread t = .live program → Prompt program
  held : ∀ intent, IsSettled intent pool.shared → ∃ t, Holds intent (pool.thread t)

theorem step_stamped {β : Type} (request : CheckoutReq β) (choice : CheckoutChoice)
    (w w' : World) (reply : Except Err β)
    (calm : Scanless request ∨ ∃ intent, RequestScans intent request)
    (ran : request.exec choice w = some (w', reply))
    (stamped : ∀ intent row, w.intents intent = some row → Stamped row)
    (intent : IntentId) (row : CryptoIntentRow) (found : w'.intents intent = some row) :
    Stamped row := by
  rcases intent_effect request choice w w' reply ran with
    same | ⟨other, before, next, present, write, written⟩
  · exact stamped intent row (by rw [← same]; exact found)
  · rw [written] at found
    rcases update_cases found with ⟨rfl, ⟨⟩⟩ | ⟨_, found⟩
    · exact write_stamped intent before row request write calm (stamped intent before present)
    · exact stamped intent row found

section
variable (pool : Pool CheckoutReq Err World Nat)

theorem put_thread (t other : Nat)
    (thread : Thread CheckoutReq Err) (different : other ≠ t) :
    (pool.put t thread).thread other = pool.thread other := by
  simp [Pool.put, Function.update_of_ne different]

theorem put_prompt (t : Nat)
    (thread : Thread CheckoutReq Err)
    (prompt : ∀ t program, pool.thread t = .live program → Prompt program)
    (new : ∀ program, thread = .live program → Prompt program) (other : Nat)
    (program : Checkout Unit) (live : (pool.put t thread).thread other = .live program) :
    Prompt program := by
  by_cases same : other = t
  · subst same
    exact new program (by simpa [Pool.put] using live)
  · rw [put_thread pool t other thread same] at live
    exact prompt other program live

theorem put_holds (t : Nat) (intent : IntentId)
    (thread : Thread CheckoutReq Err) (free : ¬ Holds intent (pool.thread t))
    (held : ∃ t, Holds intent (pool.thread t)) :
    ∃ other, Holds intent ((pool.put t thread).thread other) := by
  obtain ⟨holder, holds⟩ := held
  have different : holder ≠ t := by
    intro same
    subst same
    exact free holds
  exact ⟨holder, by rw [put_thread pool t holder thread different]; exact holds⟩

end

section
variable (jobs : Nat → Engine) (pool : Pool CheckoutReq Err World Nat)

theorem tick_watched (event : Elsewhere) (watched : Watched pool)
    (may : (settlementEngine handoffSetting jobs).mayTick event pool.shared) :
    Watched { pool with shared := elsewhere event pool.shared } := by
  have kept : ∀ intent row, (elsewhere event pool.shared).intents intent = some row →
      pool.shared.intents intent = some row ∨
        row.status = .created ∧ row.provisioningTriggeredAt = none := by
    intro intent row found
    cases event with
    | intent id new =>
      by_cases same : intent = id
      · subst same
        simp only [elsewhere, put_same, Option.some.injEq] at found
        subst found
        exact Or.inr ⟨may.1.2.1, may.2 intent new rfl⟩
      · simp only [elsewhere, put_other _ _ same] at found
        exact Or.inl found
    | failOrder id code =>
      refine Or.inl ?_
      simp only [elsewhere] at found
      split at found
      · exact found
      split at found
      · rename_i s next refunded
        rw [(refundOrder_columns id _ next code refunded).2.1] at found
        exact found
      · exact found
    | _ => exact Or.inl found
  refine ⟨fun intent row found => ?_, watched.prompt, fun intent settled => ?_⟩
  · rcases kept intent row found with before | ⟨created, first⟩
    · exact watched.stamped intent row before
    refine ⟨fun flying => ?_, fun stamped => ?_⟩
    · rw [created] at flying
      cases flying
    · rw [first] at stamped
      cases stamped
  · obtain ⟨row, found, status⟩ := settled
    rcases kept intent row found with before | ⟨created, _⟩
    · exact watched.held intent ⟨row, before, status⟩
    · rw [created] at status
      cases status

theorem act_watched (action : Action Nat CheckoutChoice Elsewhere) (watched : Watched pool)
    (admitted : admits (settlementEngine handoffSetting jobs) pool action) :
    Watched (act (settlementEngine handoffSetting jobs) pool action) := by
  have step := act_case (settlementEngine handoffSetting jobs) pool action
  generalize act (settlementEngine handoffSetting jobs) pool action = after at step
  cases step with
  | still action => exact watched
  | ticked event => exact tick_watched jobs pool event watched admitted
  | started t idle =>
    have free : ∀ intent, ¬ Holds intent (pool.thread t) := by
      rintro intent ⟨program, live, _⟩
      rw [idle] at live
      cases live
    refine ⟨watched.stamped, put_prompt pool t _ watched.prompt ?_, fun intent settled =>
      put_holds pool t intent _ (free intent) (watched.held intent settled)⟩
    intro program live
    cases live
    exact prompt_program t (jobs t)
  | crashed t request next live =>
    refine ⟨watched.stamped, put_prompt pool t _ watched.prompt (by intro _ absurd; cases absurd),
      fun intent settled => put_holds pool t intent _ ?_ (watched.held intent settled)⟩
    intro holds
    simp only [admits, live] at admitted
    rw [live] at holds
    obtain ⟨program, same, worker, more, form⟩ := holds
    cases same
    cases form
    exact admitted settled
  | stepped t choice request next s reply live ran =>
    simp only [admits, live] at admitted
    obtain ⟨follows, later⟩ := watched.prompt t _ live
    have calm := follows_calm request next follows
    refine ⟨step_stamped request choice pool.shared s reply calm ran watched.stamped,
      put_prompt _ t _ watched.prompt ?_, fun intent settled => ?_⟩
    · intro program same
      cases same
      exact later reply
    · rcases settled_after intent request choice pool.shared s reply calm admitted ran settled with
        before | triggers
      · refine put_holds { pool with shared := s } t intent _ ?_ (watched.held intent before)
        intro holds
        rw [live] at holds
        obtain ⟨program, same, worker, more, form⟩ := holds
        cases same
        cases form
        exact triggered_unsettled worker intent choice pool.shared s reply
          (watched.stamped intent) admitted ran settled
      · exact ⟨t, _, by simp [Pool.put], triggers next follows⟩

end

/-- In every run in which a worker that settles an intent reaches the commit of
its handoff update, a paid intent is picked up by every pass after the recovery
delay, or its worker is about to trigger it. -/
theorem paid_intents_reexamined (jobs : Nat → Engine) (w : World)
    (schedule : List (Action Nat CheckoutChoice Elsewhere))
    (start : ∀ intent row, w.intents intent = some row → Stamped row ∧ row.status ≠ .settled)
    (admitted : runAdmitted (settlementEngine handoffSetting jobs) ⟨w, fun _ => .idle⟩ schedule)
    (intent : IntentId) (row : CryptoIntentRow) :
    let final := run (settlementEngine handoffSetting jobs) ⟨w, fun _ => .idle⟩ schedule
    final.shared.intents intent = some row → row.status.unfinished = true →
      Reexamined row ∨ ∃ t, Holds intent (final.thread t) := by
  intro final found unfinished
  have watched := run_keeps _ Watched (act_watched jobs) schedule ⟨w, fun _ => .idle⟩
    ⟨fun intent row found => (start intent row found).1, (fun _ _ absurd => by cases absurd),
      fun intent ⟨row, found, settled⟩ => absurd settled (start intent row found).2⟩ admitted
  have stamped := watched.stamped intent row found
  cases status : row.status with
  | settled => exact Or.inr (watched.held intent ⟨row, found, status⟩)
  | provisioning => exact Or.inl (stamped_reexamined row stamped status)
  | _ =>
    rw [status] at unfinished
    cases unfinished

theorem awaitingWorld_fresh (intent : IntentId) (row : CryptoIntentRow)
    (present : awaitingWorld.intents intent = some row) :
    Stamped row ∧ row.status ≠ .settled := by
  obtain ⟨_, same⟩ := awaitingWorld_intents intent row present
  subst same
  exact ⟨⟨(fun absurd => by cases absurd), fun absurd => by cases absurd⟩, by decide⟩

def settlingPoll : List (Action Nat CheckoutChoice Elsewhere) :=
  [.start 0, .step 0 (.commit .done), .step 0 (.scanned ⟨1 / 100, 1, some 7⟩),
    .step 0 (.requoted 0 none .done)]

/-- Every fault, also between the settlement and the handoff update. -/
def freeSetting : Setting CheckoutReq Err World CheckoutChoice where
  exec := CheckoutReq.exec
  permits _ _ _ := True
  mayCrash _ _ := True

abbrev freeEngine : Workload CheckoutReq Err World CheckoutChoice Elsewhere Nat :=
  settlementEngine freeSetting fun _ => .poll 0 0

abbrev settledPool : Pool CheckoutReq Err World Nat :=
  run freeEngine ⟨awaitingWorld, fun _ => .idle⟩ settlingPoll

theorem settledPool_triggers : Holds 0 (settledPool.thread 0) := by
  have status : (appliedScan awaitingIntent ⟨1 / 100, 1, some 7⟩ 0 none).status = .settled := by
    decide +kernel
  have next : settledPool.thread 0 = .live
      (if (appliedScan awaitingIntent ⟨1 / 100, 1, some 7⟩ 0 none).status = .settled then
        triggerProvisioning ⟨0, 0, 0⟩ else pure ()) := rfl
  rw [if_pos status] at next
  exact ⟨_, next, 0, _, rfl⟩

theorem crashed_settlement_stranded :
    ¬ ∀ (jobs : Nat → Engine) (w : World) (schedule : List (Action Nat CheckoutChoice Elsewhere)),
      (∀ intent row, w.intents intent = some row → Stamped row ∧ row.status ≠ .settled) →
      runAdmitted (settlementEngine freeSetting jobs) ⟨w, fun _ => .idle⟩ schedule →
      ∀ intent row,
      let final := run (settlementEngine freeSetting jobs) ⟨w, fun _ => .idle⟩ schedule
      final.shared.intents intent = some row → row.status.unfinished = true →
        Reexamined row ∨ ∃ t, Holds intent (final.thread t) := by
  intro claim
  have crashed : run freeEngine ⟨awaitingWorld, fun _ => .idle⟩ (settlingPoll ++ [.crash 0]) =
      settledPool.put 0 .crashed := by
    obtain ⟨program, live, worker, next, form⟩ := settledPool_triggers
    subst form
    rw [run, List.foldl_append]
    show act freeEngine settledPool (.crash 0) = _
    simp only [act, live]
  have settled : (settledPool.shared.intents 0).map (·.status) = some .settled := by
    decide +kernel
  cases present : settledPool.shared.intents 0 with
  | none => simp [present] at settled
  | some row =>
    simp only [present, Option.map_some, Option.some.injEq] at settled
    have law := claim (fun _ => .poll 0 0) awaitingWorld (settlingPoll ++ [.crash 0])
      awaitingWorld_fresh (runAdmitted_free _ (fun _ _ _ => trivial) (fun _ _ => trivial) _
        (by simp [settlingPoll]) _) 0 row
    rw [crashed] at law
    rcases law present (by rw [settled]; rfl) with examined | ⟨t, program, live, _⟩
    · have picked := examined (row.provisioningTriggeredAt.getD 0 + vmProvisioningRecoveryDelay)
        (fun stamp known => by rw [known]; exact Nat.le_refl _)
      rw [selectedFor, settled] at picked
      cases picked
    · cases t with
      | zero | succ => cases live

/-- The worker stalls once its handoff update is committed. -/
theorem stalled_handoff_reexamined :
    let final := run (settlementEngine handoffSetting fun _ => .poll 0 0)
      ⟨awaitingWorld, fun _ => .idle⟩ (settlingPoll ++ [.step 0 (.clocked 60 .done)])
    ∃ row, final.shared.intents 0 = some row ∧
      (Reexamined row ∨ ∃ t, Holds 0 (final.thread t)) := by
  intro final
  have acknowledged : ∀ {β : Type} (request : CheckoutReq β) w,
      handoffSetting.permits request (.clocked 60 .done) w := by
    intro β request w
    cases request <;> trivial
  have admitted : runAdmitted (settlementEngine handoffSetting fun _ => .poll 0 0)
      ⟨awaitingWorld, fun _ => .idle⟩ (settlingPoll ++ [.step 0 (.clocked 60 .done)]) := by
    refine ⟨trivial, trivial, trivial, trivial, ?_, trivial⟩
    simp only [admits]
    split
    · exact acknowledged _ _
    · trivial
  have flying : (final.shared.intents 0).map (·.status) = some .provisioning := by decide +kernel
  cases present : final.shared.intents 0 with
  | none => simp [present] at flying
  | some row =>
    simp only [present, Option.map_some, Option.some.injEq] at flying
    exact ⟨row, rfl, paid_intents_reexamined (fun _ => .poll 0 0) awaitingWorld
      (settlingPoll ++ [.step 0 (.clocked 60 .done)]) awaitingWorld_fresh admitted 0 row present
      (by rw [flying]; rfl)⟩

end HyruleCloud
