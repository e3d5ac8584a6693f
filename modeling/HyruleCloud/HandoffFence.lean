import HyruleCloud.IntentRefunds

/-!
The settlement worker of one VM intent against its recovery. The worker takes
the handoff update and then reads the row it works from, with the stamp that is
its token; the two are separate requests here. Recovery moves the stamp forward
before it undoes the handoff and records the refund. `leased`, `recovered` and
`started` only record what has happened so far.
-/

namespace HyruleCloud

open Interaction

structure FencedWorld extends World where
  /-- Recovery has moved the stamp of the intent. -/
  leased : Bool := false
  /-- Recovery has recorded its refund. -/
  recovered : Bool := false
  /-- A worker has asked for the start of the VM. -/
  started : Bool := false

/-- `_trigger_provisioning`, with the read after its update. -/
def settleIntent (job : Handoff.Worker) : Checkout Unit := do
  match ← ask (.triggerHandoff job.worker job.intent) with
  | none => pure ()
  | some _ => match ← ask (.getIntent job.intent) with
    | none => pure ()
    | some row => match row.provisioningTriggeredAt with
      | none => pure ()
      | some token =>
        if row.resourceType = .domainOrder then domainHandoff job.intent row
        else vmHandoff job row token

variable {f f' : FencedWorld}

variable {β : Type}

section
variable (intent : IntentId)

def stampOf (w : World) : Option Time :=
  (w.intents intent).bind CryptoIntentRow.provisioningTriggeredAt

def takesLease {β : Type} (request : CheckoutReq β) (w w' : World) : Bool :=
  match request with
  | .takeRecoveryLease _ => stampOf intent w ≠ stampOf intent w'
  | _ => false

def recordsRecovery {β : Type} (request : CheckoutReq β) (choice : CheckoutChoice) : Bool :=
  match request, choice with
  | .recordNativeIntentRefund id reason _, .clocked _ fate =>
    id = intent ∧ reason = "provisioning_interrupted" ∧ fate ≠ .failed
  | _, _ => false

def startsVm {β : Type} : CheckoutReq β → Bool
  | .startProvisioning _ => true
  | _ => false

def fencedExec {β : Type} (request : CheckoutReq β) (choice : CheckoutChoice) (f : FencedWorld) :
    Option (FencedWorld × Except Err β) :=
  (request.exec choice f.toWorld).map fun (w, reply) =>
    ({ toWorld := w
       leased := f.leased || takesLease intent request f.toWorld w
       recovered := f.recovered || recordsRecovery intent request choice
       started := f.started || startsVm request }, reply)

/-- A worker reads its token before recovery has taken a lease, and no worker
falls back to FAILED after recovery has recorded its refund. -/
def Unhurried {β : Type} (request : CheckoutReq β) (choice : CheckoutChoice)
    (f : FencedWorld) : Prop :=
  match request with
  | .getIntent _ => f.leased = false
  | .setIntentStatus _ _ => choice = .commit .failed ∨ f.recovered = false
  | _ => True

def fenceSetting : Setting CheckoutReq Err FencedWorld CheckoutChoice where
  exec := fencedExec intent
  permits := Unhurried
  mayCrash _ _ := True

def Untriggered (w : World) : Prop :=
  ∃ row, w.intents intent = some row ∧ row.resourceType = .vm ∧ row.provisioningTriggeredAt = none

def LeavesAlone (w w' : World) : Prop :=
  w'.intents intent = w.intents intent ∨ Untriggered intent w ∧ Untriggered intent w'

inductive Fencer where
  | settle (process : ProcessId)
  | recover

def Fencer.program (thread : Nat) : Fencer → Checkout Unit
  | .settle process => settleIntent ⟨thread, process, intent⟩
  | .recover => recoverInterruptedVm intent

/-- Any number of settlement workers and recovery workers of one intent. -/
def fenceEngine (setting : Setting CheckoutReq Err FencedWorld CheckoutChoice)
    (jobs : Nat → Fencer) :
    Workload CheckoutReq Err FencedWorld CheckoutChoice World Nat where
  setting := setting
  prog thread := (jobs thread).program intent thread
  env := fun w f => { f with toWorld := w }
  mayTick := fun w f => LeavesAlone intent f.toWorld w

/-- `token` is the stamp of the handoff, or recovery has moved the stamp beyond it. -/
def Token (token : Time) (f : FencedWorld) : Prop :=
  ∃ row stamp, f.intents intent = some row ∧ row.provisioningTriggeredAt = some stamp ∧
    (f.leased = false ∧ stamp = token ∨ f.leased = true ∧ token < stamp)

def Parked (f : FencedWorld) : Prop :=
  ∃ row, f.intents intent = some row ∧ row.provisioningTriggeredAt.isSome ∧
    row.status ≠ .provisioning ∧ f.leased = false

structure Fenced (f : FencedWorld) : Prop where
  vm : ∃ row, f.intents intent = some row ∧ row.resourceType = .vm
  stamped : f.leased = true → (stampOf intent f.toWorld).isSome
  started : f.started = true → Parked intent f
  leased : f.recovered = true → f.leased = true
  refunded : f.recovered = true → ∃ row, f.intents intent = some row ∧ row.status = .refundManual

structure Forward (f f' : FencedWorld) : Prop where
  token : ∀ token, Token intent token f → Token intent token f'
  parked : Parked intent f → Parked intent f'
  leased : f.leased = true → f'.leased = true

variable {intent}

theorem Forward.refl (f : FencedWorld) : Forward intent f f :=
  ⟨fun _ known => known, fun parked => parked, fun leased => leased⟩

theorem Forward.trans {a b c : FencedWorld} (first : Forward intent a b)
    (second : Forward intent b c) : Forward intent a c where
  token token known := second.token token (first.token token known)
  parked known := second.parked (first.parked known)
  leased known := second.leased (first.leased known)

theorem fenced_row (row next : CryptoIntentRow) (fenced : Fenced intent f)
    (present : f.intents intent = some row) (present' : f'.intents intent = some next)
    (kind : next.resourceType = row.resourceType)
    (stamp : next.provisioningTriggeredAt = row.provisioningTriggeredAt)
    (leased : f'.leased = f.leased)
    (parks : row.status ≠ .provisioning → next.status ≠ .provisioning)
    (started : f'.started = true → f.started = true ∨ Parked intent f)
    (recovered : f'.recovered = true → f.leased = true ∧ next.status = .refundManual) :
    Fenced intent f' ∧ Forward intent f f' := by
  have parked : Parked intent f → Parked intent f' := by
    rintro ⟨before, found, stamped, past, unleased⟩
    rw [present] at found
    cases found
    exact ⟨next, present', by rw [stamp]; exact stamped, parks past, leased.trans unleased⟩
  have ordered : next.resourceType = .vm := by
    obtain ⟨before, found, vm⟩ := fenced.vm
    rw [present] at found
    cases found
    exact kind.trans vm
  constructor
  · refine ⟨⟨next, present', ordered⟩, fun lease => ?_, fun start => ?_, fun record => ?_,
      fun record => ⟨next, present', (recovered record).2⟩⟩
    · have before := fenced.stamped (leased.symm.trans lease)
      simp only [stampOf, present, Option.bind_some] at before
      simp only [stampOf, present', Option.bind_some, stamp]
      exact before
    · rcases started start with before | before
      · exact parked (fenced.started before)
      · exact parked before
    · exact leased.trans (recovered record).1
  · refine ⟨fun token known => ?_, parked, fun lease => leased.trans lease⟩
    obtain ⟨before, seen, found, stamped, order⟩ := known
    rw [present] at found
    cases found
    exact ⟨next, seen, present', stamp.trans stamped, by rw [leased]; exact order⟩

variable (intent) in
theorem row_effect (request : CheckoutReq β) (choice : CheckoutChoice)
    (w w' : World) (reply : Except Err β) (ran : request.exec choice w = some (w', reply)) :
    w'.intents intent = w.intents intent ∨ ∃ row next, w.intents intent = some row ∧
      IntentWrite intent row request next ∧ w'.intents intent = some next := by
  rcases intent_effect request choice w w' reply ran with
    same | ⟨other, row, next, present, write, written⟩
  · exact Or.inl (by rw [same])
  · by_cases here : intent = other
    · subst here
      exact Or.inr ⟨row, next, present, write, by rw [written, put_same]⟩
    · exact Or.inl (by rw [written, put_other _ _ here])

theorem refunded_manual (reason : String) (vm : Option VmId) (now : Time) (s s' : Store)
    (row : CryptoIntentRow) (value : Bool) (present : s.intents intent = some row)
    (done : recordNativeIntentRefund intent reason vm now s = .ok (s', value)) :
    ∃ next, s'.intents intent = some next ∧ next.status = .refundManual := by
  have handed := (failHandedOrder_columns intent row reason now s).2.2
  simp only [recordNativeIntentRefund, present] at done
  repeat' split at done
  all_goals cases done
  · rename_i already
    exact ⟨row, by rw [handed]; exact present, already.1⟩
  all_goals exact ⟨{ row with status := .refundManual }, by simp [addEvent], rfl⟩

theorem recovery_manual (request : CheckoutReq β) (choice : CheckoutChoice)
    (w w' : World) (reply : Except Err β) (row : CryptoIntentRow)
    (present : w.intents intent = some row)
    (records : recordsRecovery intent request choice = true)
    (ran : request.exec choice w = some (w', reply)) :
    ∃ next, w'.intents intent = some next ∧ next.status = .refundManual := by
  cases request with
  | recordNativeIntentRefund id reason vm =>
    cases choice with
    | clocked now fate =>
      obtain ⟨rfl, _, applied⟩ : id = intent ∧ reason = "provisioning_interrupted" ∧
          fate ≠ .failed := by simpa [recordsRecovery] using records
      simp only [CheckoutReq.exec, clocked, Option.some.injEq] at ran
      rcases transact_cases _ fate w w' reply ran with
        ⟨_, error, _, failed | aborted⟩ | ⟨value, done, _⟩ | ⟨value, done, _⟩
      · exact absurd failed applied
      · have refused := onStore_error _ _ _ aborted
        simp only [recordNativeIntentRefund, present] at refused
        repeat' split at refused
        all_goals cases refused
      · exact refunded_manual reason vm now _ _ row value present (onStore_ok _ _ _ _ done).1
      · exact refunded_manual reason vm now _ _ row value present (onStore_ok _ _ _ _ done).1
    | _ => cases records
  | _ => cases records

def MayAsk (intent : IntentId) {β : Type} (request : CheckoutReq β) (f : FencedWorld) : Prop :=
  match request with
  | .startProvisioning _ => Parked intent f
  | .recordNativeIntentRefund _ reason _ => reason = "provisioning_interrupted" → f.leased = true
  | .setIntentStatus _ status => status = .failed
  | .finishResumedHandoff _ _ | .applyIntentScan _ _ => False
  | _ => True

variable (request : CheckoutReq β)
include request

theorem mayAsk_started (f : FencedWorld)
    (may : MayAsk intent request f) (starts : startsVm request = true) : Parked intent f := by
  cases request with
  | startProvisioning vm => exact may
  | _ => cases starts

theorem mayAsk_leased (choice : CheckoutChoice)
    (f : FencedWorld) (may : MayAsk intent request f)
    (records : recordsRecovery intent request choice = true) : f.leased = true := by
  cases request with
  | recordNativeIntentRefund id reason vm =>
    cases choice with
    | clocked now fate =>
      have known : id = intent ∧ reason = "provisioning_interrupted" ∧ fate ≠ .failed := by
        simpa [recordsRecovery] using records
      exact may known.2.1
    | _ => cases records
  | _ => cases records

omit request

theorem fenced_lease (row : CryptoIntentRow) (now : Time) (fenced : Fenced intent f)
    (present : f.intents intent = some row) (flying : row.status = .provisioning)
    (stale : row.provisioningTriggeredAt.any (· + vmProvisioningRecoveryDelay ≤ now) = true)
    (present' : f'.intents intent = some { row with provisioningTriggeredAt := some now })
    (leased : f'.leased = true) (started : f'.started = f.started)
    (recovered : f'.recovered = f.recovered) : Fenced intent f' ∧ Forward intent f f' := by
  have unparked : ¬ Parked intent f := by
    rintro ⟨before, found, _, past, _⟩
    rw [present] at found
    cases found
    exact past flying
  have unrecovered : f.recovered ≠ true := by
    intro record
    obtain ⟨before, found, manual⟩ := fenced.refunded record
    rw [present] at found
    cases found
    rw [flying] at manual
    cases manual
  constructor
  · refine ⟨⟨_, present', ?_⟩, fun _ => ?_, fun start => ?_, fun _ => leased, fun record => ?_⟩
    · obtain ⟨before, found, vm⟩ := fenced.vm
      rw [present] at found
      cases found
      exact vm
    · simp [stampOf, present']
    · exact absurd (fenced.started (started.symm.trans start)) unparked
    · exact absurd (recovered.symm.trans record) unrecovered
  · refine ⟨fun token known => ?_, fun parked => absurd parked unparked, fun _ => leased⟩
    obtain ⟨before, stamp, found, stamped, order⟩ := known
    rw [present] at found
    cases found
    have due : stamp + vmProvisioningRecoveryDelay ≤ now := by simpa [stamped] using stale
    have moved : stamp < now :=
      Nat.lt_of_lt_of_le (Nat.lt_add_of_pos_right (by decide)) due
    have later : token < now := by
      rcases order with ⟨_, rfl⟩ | ⟨_, beyond⟩
      · exact moved
      · exact Nat.lt_trans beyond moved
    exact ⟨_, now, present', rfl, Or.inr ⟨leased, later⟩⟩

theorem fenced_untriggered (fenced : Fenced intent f) (before : Untriggered intent f.toWorld)
    (vm : ∃ row, f'.intents intent = some row ∧ row.resourceType = .vm)
    (leased : f'.leased = f.leased) (started : f'.started = f.started)
    (recovered : f'.recovered = f.recovered) : Fenced intent f' ∧ Forward intent f f' := by
  obtain ⟨row, present, _, first⟩ := before
  have unleased : f.leased ≠ true := by
    intro lease
    have stamped := fenced.stamped lease
    simp [stampOf, present, first] at stamped
  have unparked : ¬ Parked intent f := by
    rintro ⟨before, found, stamped, _⟩
    rw [present] at found
    cases found
    rw [first] at stamped
    cases stamped
  constructor
  · exact ⟨vm, fun lease => absurd (leased.symm.trans lease) unleased,
      fun start => absurd (fenced.started (started.symm.trans start)) unparked,
      fun record => absurd (fenced.leased (recovered.symm.trans record)) unleased,
      fun record => absurd (fenced.leased (recovered.symm.trans record)) unleased⟩
  · refine ⟨fun token known => ?_, fun parked => absurd parked unparked,
      fun lease => absurd lease unleased⟩
    obtain ⟨before, stamp, found, stamped, _⟩ := known
    rw [present] at found
    cases found
    rw [first] at stamped
    cases stamped

include request

theorem takesLease_same (w w' : World)
    (same : stampOf intent w' = stampOf intent w) : takesLease intent request w w' = false := by
  cases request <;> simp [takesLease, same]

theorem fence_step (choice : CheckoutChoice)
    (f f' : FencedWorld) (reply : Except Err β) (fenced : Fenced intent f)
    (may : MayAsk intent request f) (unhurried : Unhurried request choice f)
    (ran : fencedExec intent request choice f = some (f', reply)) :
    Fenced intent f' ∧ Forward intent f f' := by
  simp only [fencedExec, Option.map_eq_some_iff, Prod.mk.injEq, Prod.exists] at ran
  obtain ⟨w, answer, ran, rfl, rfl⟩ := ran
  obtain ⟨row, present, vm⟩ := fenced.vm
  have started : (f.started || startsVm request) = true → f.started = true ∨ Parked intent f := by
    intro start
    rcases Bool.or_eq_true _ _ ▸ start with before | starts
    · exact Or.inl before
    · exact Or.inr (mayAsk_started request f may starts)
  have recovered (next : CryptoIntentRow) (present' : w.intents intent = some next)
      (stays : f.recovered = true → row.status = .refundManual → next.status = .refundManual) :
      (f.recovered || recordsRecovery intent request choice) = true →
        f.leased = true ∧ next.status = .refundManual := by
    intro record
    rcases Bool.or_eq_true _ _ ▸ record with before | records
    · obtain ⟨found, same, manual⟩ := fenced.refunded before
      rw [present] at same
      cases same
      exact ⟨fenced.leased before, stays before manual⟩
    · obtain ⟨found, same, manual⟩ :=
        recovery_manual request choice f.toWorld w answer row present records ran
      rw [present'] at same
      cases same
      exact ⟨mayAsk_leased request choice f may records, manual⟩
  have kept (next : CryptoIntentRow) (present' : w.intents intent = some next)
      (kind : next.resourceType = row.resourceType)
      (stamp : next.provisioningTriggeredAt = row.provisioningTriggeredAt)
      (parks : row.status ≠ .provisioning → next.status ≠ .provisioning)
      (stays : f.recovered = true → row.status = .refundManual → next.status = .refundManual) :
      let f' : FencedWorld := ⟨w, f.leased || takesLease intent request f.toWorld w,
        f.recovered || recordsRecovery intent request choice, f.started || startsVm request⟩
      Fenced intent f' ∧ Forward intent f f' := by
    refine fenced_row row next fenced present present' kind stamp ?_ parks started
      (recovered next present' stays)
    have same : stampOf intent w = stampOf intent f.toWorld := by
      simp [stampOf, present, present', stamp]
    simp [takesLease_same request f.toWorld w same]
  rcases row_effect intent request choice f.toWorld w answer ran with
    same | ⟨before, next, found, write, written⟩
  · exact kept row (same.trans present) rfl rfl (fun past => past) (fun _ manual => manual)
  · rw [present] at found
    cases found
    cases write with
    | triggered worker now first =>
      exact fenced_untriggered fenced ⟨row, present, vm, first⟩ ⟨_, written, vm⟩
        (by simp [takesLease]) (by simp [startsVm]) (by simp [recordsRecovery])
    | planned planned unplanned =>
      exact kept _ written rfl rfl (fun past => past) (fun _ manual => manual)
    | provisioned token delivered held =>
      have flying : row.status = .provisioning := by
        simp only [holdsHandoff, Bool.and_eq_true, beq_iff_eq] at held
        exact held.1
      refine kept _ written rfl rfl (fun past => absurd flying past) fun _ manual => ?_
      rw [flying] at manual
      cases manual
    | status status =>
      have failed : status = .failed := may
      subst failed
      rcases unhurried with refused | unrecovered
      · -- a commit that fails writes nothing
        subst refused
        have same : w = f.toWorld := by
          simp only [CheckoutReq.exec, committed, Option.some.injEq] at ran
          rcases transact_cases _ _ _ _ _ ran with
            ⟨same, _⟩ | ⟨_, _, absurd, _⟩ | ⟨_, _, absurd, _⟩
          · exact same
          · cases absurd
          · cases absurd
        exact kept row (by rw [same]; exact present) rfl rfl (fun past => past)
          (fun _ manual => manual)
      · refine kept _ written rfl rfl (fun _ => by simp) fun record => ?_
        rw [unrecovered] at record
        cases record
    | finished | scanned => exact may.elim
    | refunded reason delivered =>
      exact kept _ written rfl rfl (fun _ => by simp) (fun _ _ => rfl)
    | leased now flying kind stale =>
      refine fenced_lease row now fenced present flying stale written ?_ (by simp [startsVm])
        (by simp [recordsRecovery])
      have moved : stampOf intent f.toWorld ≠ stampOf intent w := by
        simp only [stampOf, present, written, Option.bind_some]
        intro same
        simp [same, vmProvisioningRecoveryDelay] at stale
      simp [takesLease, moved]

omit request

variable (intent) in
def fenceDuty : Duty FencedWorld where
  inv := Fenced intent
  rely := Forward intent
  guar := Forward intent
  crash _ := True
  rely_refl := Forward.refl
  rely_trans := Forward.trans

variable (intent) in
theorem token_forward (token : Time) (a b : FencedWorld) (known : Token intent token a)
    (forward : Forward intent a b) : Token intent token b := forward.token token known

variable (intent) in
theorem leased_forward (a b : FencedWorld) (leased : a.leased = true)
    (forward : Forward intent a b) : b.leased = true := forward.leased leased

theorem mayAsk_step (request : CheckoutReq β) (f : FencedWorld)
    (step : StepAsk request) : MayAsk intent request f := by
  cases request with
  | recordNativeIntentRefund id reason vm => exact fun same => absurd same step
  | startProvisioning | takeRecoveryLease | triggerHandoff => exact step.elim
  | _ => exact step

abbrev FenceTriple {α : Type} (intent : IntentId) (pre : FencedWorld → Prop) (p : Checkout α)
    (post : Except Err α → FencedWorld → Prop) : Prop :=
  Triple (fenceSetting intent) (fenceDuty intent) pre p post

theorem fenced_steps {α : Type} {assertion : FencedWorld → Prop} (p : Checkout α)
    (steps : Within StepAsk p)
    (stable : ∀ a b, assertion a → Forward intent a b → assertion b) :
    FenceTriple intent assertion p (fun _ => assertion) := by
  refine triple_within p steps (fun a b holds forward _ => stable a b holds forward)
    (fun _ _ _ _ _ _ => trivial) ?_
  intro β request choice f f' reply step fenced holds unhurried ran
  obtain ⟨after, forward⟩ :=
    fence_step request choice f f' reply fenced (mayAsk_step request f step) unhurried ran
  exact ⟨after, forward, stable f f' holds forward⟩

theorem fenced_asks {pre : FencedWorld → Prop} {post : Except Err β → FencedWorld → Prop}
    (request : CheckoutReq β)
    (stable : ∀ a b, pre a → Forward intent a b → pre b)
    (may : ∀ f, Fenced intent f → pre f → MayAsk intent request f)
    (shows : ∀ f choice f' reply, Fenced intent f → pre f → Unhurried request choice f →
      fencedExec intent request choice f = some (f', reply) → post reply f') :
    FenceTriple intent pre (ask request) post := by
  refine triple_perform request (fun a b holds forward _ => stable a b holds forward)
    (fun _ _ _ _ => trivial) ?_
  intro f choice f' reply fenced holds unhurried ran
  obtain ⟨after, forward⟩ :=
    fence_step request choice f f' reply fenced (may f fenced holds) unhurried ran
  exact ⟨after, forward, shows f choice f' reply fenced holds unhurried ran⟩

theorem fenced_silent {α : Type} (p : Checkout α) (steps : Within StepAsk p) :
    FenceTriple intent (fun _ => True) p (fun _ _ => True) :=
  fenced_steps p steps fun _ _ holds _ => holds

theorem fenced_exec {request : CheckoutReq β} {choice : CheckoutChoice}
    {reply : Except Err β} (ran : fencedExec intent request choice f = some (f', reply)) :
    request.exec choice f.toWorld = some (f'.toWorld, reply) ∧
      f'.leased = (f.leased || takesLease intent request f.toWorld f'.toWorld) := by
  simp only [fencedExec, Option.map_eq_some_iff, Prod.mk.injEq, Prod.exists] at ran
  obtain ⟨w, answer, ran, rfl, rfl⟩ := ran
  exact ⟨ran, rfl⟩

theorem provisioned_parked (token : Time) (vm : VmId) (f f' : FencedWorld)
    (choice : CheckoutChoice) (known : Token intent token f)
    (ran : fencedExec intent (.markProvisioned intent token vm) choice f = some (f', .ok ())) :
    Parked intent f' := by
  obtain ⟨ran, leased⟩ := fenced_exec ran
  obtain ⟨row, stamp, present, stamped, order⟩ := known
  rcases committed_ends _ _ _ _ _ ran with ⟨_, _, absurd, _⟩ | ⟨value, done, _⟩
  · cases absurd
  have inner := (onStore_ok _ _ _ _ done).1
  simp only [markProvisioned, present] at inner
  split at inner
  · rename_i held
    simp only [holdsHandoff, Bool.and_eq_true, beq_iff_eq] at held
    simp only [Except.ok.injEq, Prod.mk.injEq] at inner
    have written : f'.intents =
        f.intents.put intent { row with vmId := some vm, status := .provisioned } := by
      rw [← inner.1]
    have unleased : f.leased = false := by
      rcases order with ⟨unleased, _⟩ | ⟨_, beyond⟩
      · exact unleased
      · rw [stamped] at held
        rw [Option.some.inj held.2] at beyond
        exact absurd beyond (Nat.lt_irrefl token)
    refine ⟨_, by rw [written, put_same], ?_, (fun absurd => by cases absurd), ?_⟩
    · simp [stamped]
    · simp [leased, unleased, takesLease]
  · cases inner

section
variable (job : Handoff.Worker) (mine : job.intent = intent) (row : CryptoIntentRow)
  (order : VMCreateRequest) (token : Time) (planned : VmId)
include mine

theorem fenced_deliverIntentVm : FenceTriple intent (Token intent token)
      (deliverIntentVm job row order token planned) (fun _ _ => True) := by
  subst mine
  have price := fenced_steps (writePrice row planned) (steps_writePrice row planned)
    (token_forward job.intent token)
  have link := fenced_steps (writeLink order planned) (steps_writeLink order planned)
    (token_forward job.intent token)
  refine triple_bind price (fun _ => triple_bind link (fun _ => ?_) fun _ _ _ _ => trivial)
    fun _ _ _ _ => trivial
  have marked : Triple (fenceSetting job.intent) (fenceDuty job.intent) (Token job.intent token)
      (ask (.markProvisioned job.intent token planned))
      (outcome (fun _ => Parked job.intent) (fun _ _ => True)) := by
    refine fenced_asks _ (token_forward job.intent token) (fun _ _ _ => trivial) ?_
    intro f choice f' reply _ known _ ran
    cases reply with
    | ok value => exact provisioned_parked token planned f f' choice known ran
    | error error => trivial
  refine triple_bind marked (fun _ => ?_) fun _ _ _ _ => trivial
  exact fenced_asks _ (fun _ _ parked forward => forward.parked parked)
    (fun _ _ parked => parked) fun _ _ _ _ _ _ _ _ => trivial

theorem fenced_finishIntentVm : FenceTriple intent (Token intent token)
      (finishIntentVm job row order token planned) (fun _ _ => True) := by
  have claim := fenced_steps _ (steps_fenceClaim job token (order.domainMode == .custom))
    (token_forward intent token)
  have activate := fenced_steps _ (steps_activateIntentVm job row planned
    (order.domainMode == .custom)) (token_forward intent token)
  have fence := fenced_steps (ask (.requireCurrentVmHandoff job.intent token)) (steps_ask _ trivial)
    (token_forward intent token)
  refine triple_bind claim (fun _ => triple_bind activate (fun verdict => ?_)
    fun _ _ _ _ => trivial) fun _ _ _ _ => trivial
  cases verdict with
  | refunded => exact triple_ret _ fun _ _ _ => trivial
  | proceed =>
    exact triple_bind fence (fun _ => fenced_deliverIntentVm job mine row order token planned)
      fun _ _ _ _ => trivial

end

theorem fenced_guardedStep {α : Type} (job : Handoff.Worker) (progress : Progress)
    (step : Checkout α) (pre : FencedWorld → Prop)
    (spec : FenceTriple intent pre step (fun _ _ => True)) :
    FenceTriple intent pre (guardedStep job progress step) (fun _ _ => True) := by
  refine triple_bind (triple_attempt spec) (fun result => ?_) fun _ _ _ _ => trivial
  cases result with
  | ok value => exact triple_ret _ fun _ _ _ => trivial
  | error error =>
    have handled : FenceTriple intent (fun _ => True)
        (handoffFailed job progress error) (fun _ _ => True) :=
      fenced_silent _ (steps_handoffFailed job progress error)
    have whole : FenceTriple intent (fun _ => True)
        (handoffFailed job progress error >>= fun _ => Proc.ret (none : Option α))
        (fun _ _ => True) :=
      triple_bind handled (fun _ => triple_ret _ fun _ _ _ => trivial) fun _ _ _ _ => trivial
    exact triple_weaken whole (fun _ _ _ => trivial) fun _ _ _ _ => trivial

theorem fenced_vmHandoff (job : Handoff.Worker) (mine : job.intent = intent)
    (row : CryptoIntentRow) (token : Time) :
    FenceTriple intent (Token intent token) (vmHandoff job row token) (fun _ _ => True) := by
  have kept {α : Type} (p : Checkout α) (steps : Within StepAsk p) :=
    fenced_steps p steps (token_forward intent token)
  have done {β : Type} (value : β) : FenceTriple intent
      (Token intent token) (Proc.ret value) (fun _ _ => True) :=
    triple_ret _ fun _ _ _ => trivial
  refine triple_bind (kept _ (steps_guardedStep job _ _ (steps_planIntentVm job row)))
    (fun planning => ?_) fun _ _ _ _ => trivial
  cases planning with
  | none => exact done _
  | some plan =>
    obtain ⟨order, planned⟩ := plan
    refine triple_bind (kept _ (steps_guardedStep job _ _
      (steps_admitIntentVm job row order planned token))) (fun admitted => ?_)
      fun _ _ _ _ => trivial
    rcases admitted with _ | _ | _
    · exact done _
    · refine triple_bind (kept _ (steps_guardedStep job _ _
        (steps_attachIntentDomain job row order planned token))) (fun attached => ?_)
        fun _ _ _ _ => trivial
      rcases attached with _ | _ | _
      · exact done _
      · exact triple_bind (fenced_guardedStep job _ _ _
          (fenced_finishIntentVm job mine row order token planned))
          (fun _ => triple_ret _ fun _ _ _ => trivial) fun _ _ _ _ => trivial
      · exact done _
    · exact done _

theorem fenced_reread : FenceTriple intent (fun _ => True) (ask (.getIntent intent))
      (outcome (fun found f => ∀ row, found = some row → row.resourceType = .vm ∧
        ∀ token, row.provisioningTriggeredAt = some token → Token intent token f)
        (fun _ _ => True)) := by
  refine fenced_asks _ (fun _ _ _ _ => trivial) (fun _ _ _ => trivial) ?_
  intro f choice f' reply fenced _ unleased ran
  obtain ⟨ran, leased⟩ := fenced_exec ran
  rcases committed_ends _ _ _ _ _ ran with ⟨_, error, rfl, _⟩ | ⟨value, done, answered | answered⟩
  · trivial
  · subst answered
    simp only [readOnly, Except.ok.injEq, Prod.mk.injEq] at done
    intro row found
    have present : f.intents intent = some row := done.2.trans found
    obtain ⟨before, same, vm⟩ := fenced.vm
    rw [present] at same
    cases same
    refine ⟨vm, fun token stamped => ⟨row, token, ?_, stamped, Or.inl ⟨?_, rfl⟩⟩⟩
    · rw [← done.1]
      exact present
    · have before : f.leased = false := unleased
      simp [leased, before, takesLease]
  · subst answered
    trivial

theorem fenced_settleIntent (job : Handoff.Worker) (mine : job.intent = intent) :
    FenceTriple intent (fun _ => True) (settleIntent job) (fun _ _ => True) := by
  subst mine
  have trigger : Triple (fenceSetting job.intent) (fenceDuty job.intent) (fun _ => True)
      (ask (.triggerHandoff job.worker job.intent)) (fun _ _ => True) :=
    fenced_asks _ (fun _ _ _ _ => trivial) (fun _ _ _ => trivial) fun _ _ _ _ _ _ _ _ => trivial
  refine triple_bind trigger (fun won => ?_) fun _ _ _ _ => trivial
  cases won with
  | none => exact triple_ret _ fun _ _ _ => trivial
  | some _ =>
    refine triple_bind fenced_reread (fun found => ?_) fun _ _ _ _ => trivial
    cases found with
    | none => exact triple_ret _ fun _ _ _ => trivial
    | some row =>
      dsimp only
      cases stamped : row.provisioningTriggeredAt with
      | none => exact triple_ret _ fun _ _ _ => trivial
      | some token =>
        dsimp only
        split
        · rename_i domain
          intro f _ known
          have vm := (known row rfl).1
          rw [domain] at vm
          cases vm
        · exact triple_weaken (fenced_vmHandoff job rfl row token)
            (fun f _ known => (known row rfl).2 token stamped) fun _ _ _ _ => trivial

theorem fenced_takeRecoveryLease :
    FenceTriple intent (fun _ => True) (ask (.takeRecoveryLease intent))
      (outcome (fun found f => found.isSome → f.leased = true) (fun _ _ => True)) := by
  refine fenced_asks _ (fun _ _ _ _ => trivial) (fun _ _ _ => trivial) ?_
  intro f choice f' reply _ _ _ ran
  obtain ⟨ran, leased⟩ := fenced_exec ran
  obtain ⟨now, ⟨_, error, rfl, _⟩ | ⟨value, done, answered | answered⟩⟩ :=
    clocked_ends _ _ _ _ _ ran
  · trivial
  · subst answered
    intro taken
    have inner := (onStore_ok _ _ _ _ done).1
    simp only [takeRecoveryLease] at inner
    repeat' split at inner
    all_goals simp only [Except.ok.injEq, Prod.mk.injEq] at inner
    · rw [← inner.2] at taken
      cases taken
    · rename_i row present stale
      have moved : stampOf intent f.toWorld ≠ stampOf intent f'.toWorld := by
        intro same
        simp only [stampOf, ← inner.1, put_same, present, Option.bind_some] at same
        simp [same, vmProvisioningRecoveryDelay] at stale
      simp [leased, takesLease, moved]
    · rw [← inner.2] at taken
      cases taken
  · subst answered
    trivial

theorem fenced_recoverInterruptedVm :
    FenceTriple intent (fun _ => True) (recoverInterruptedVm intent) (fun _ _ => True) := by
  refine triple_bind fenced_takeRecoveryLease (fun found => ?_) fun _ _ _ _ => trivial
  cases found with
  | none => exact triple_ret _ fun _ _ _ => trivial
  | some row =>
    have undo := fenced_steps (undoPlannedVm row) (steps_undoPlannedVm row)
      (leased_forward intent)
    have refund : FenceTriple intent (fun f => f.leased = true)
        (refundIntent intent "provisioning_interrupted" row.vmId) (fun _ _ => True) := by
      have record : FenceTriple intent (fun f => f.leased = true)
          (ask (.recordNativeIntentRefund intent "provisioning_interrupted" row.vmId))
          (fun _ _ => True) :=
        fenced_asks _ (leased_forward intent) (fun _ _ leased _ => leased)
          fun _ _ _ _ _ _ _ _ => trivial
      exact triple_bind record (fun _ => triple_ret _ fun _ _ _ => trivial) fun _ _ _ _ => trivial
    have body : FenceTriple intent (fun f => f.leased = true)
        (undoPlannedVm row >>= fun _ => refundIntent intent "provisioning_interrupted" row.vmId)
        (fun _ _ => True) := triple_bind undo (fun _ => refund) fun _ _ _ _ => trivial
    have whole : FenceTriple intent (fun f => f.leased = true)
        (bestEffort (undoPlannedVm row >>= fun _ =>
          refundIntent intent "provisioning_interrupted" row.vmId)) (fun _ _ => True) :=
      triple_rescue body (fun _ _ _ _ => trivial) fun _ => triple_ret _ fun _ _ _ => trivial
    exact triple_weaken whole (fun f _ leased => leased rfl) fun _ _ _ _ => trivial

theorem fence_composable (jobs : Nat → Fencer) :
    Composable (fenceEngine intent (fenceSetting intent) jobs) (Fenced intent)
      (fun _ => fenceDuty intent) (fun _ _ => True) (fun _ _ _ => True) where
  shared _ _ := Iff.rfl
  starts t := by
    show FenceTriple intent _ ((jobs t).program intent t) _
    cases jobs t with
    | settle process => exact fenced_settleIntent ⟨t, process, intent⟩ rfl
    | recover => exact fenced_recoverInterruptedVm
  idle _ _ _ holds _ _ := holds
  done _ _ _ _ holds _ _ := holds
  dead _ _ _ holds _ _ := holds
  compatible _ _ _ _ _ _ _ forward := forward
  ticks w f fenced apart := by
    rcases apart with same | ⟨before, after⟩
    · obtain ⟨row, present, vm⟩ := fenced.vm
      have moved : Fenced intent { f with toWorld := w } ∧ Forward intent f { f with toWorld := w } :=
        fenced_row row row fenced present (same.trans present) rfl rfl rfl (fun past => past)
          Or.inl fun record => by
            obtain ⟨found, here, manual⟩ := fenced.refunded record
            rw [present] at here
            cases here
            exact ⟨fenced.leased record, manual⟩
      exact ⟨moved.1, fun _ => moved.2⟩
    · obtain ⟨row, present, vm, _⟩ := after
      have moved : Fenced intent { f with toWorld := w } ∧ Forward intent f { f with toWorld := w } :=
        fenced_untriggered fenced before ⟨row, present, vm⟩ rfl rfl rfl
      exact ⟨moved.1, fun _ => moved.2⟩

variable (intent) in
/-- Refunded by recovery or handed to the provisioner, and a worker that recovery
has superseded neither starts the VM nor takes the refund's status back. -/
structure RefundOrStart (f : FencedWorld) : Prop where
  single : ¬ (f.recovered = true ∧ f.started = true)
  superseded : ¬ (f.leased = true ∧ f.started = true)
  kept : f.recovered = true → ∃ row, f.intents intent = some row ∧ row.status = .refundManual

variable (intent) in
structure AwaitsHandoff (f : FencedWorld) : Prop where
  row : Untriggered intent f.toWorld
  fresh : f.leased = false ∧ f.recovered = false ∧ f.started = false

theorem fenced_refundOrStart (f : FencedWorld) (fenced : Fenced intent f) : RefundOrStart intent f := by
  have superseded : ¬ (f.leased = true ∧ f.started = true) := by
    rintro ⟨leased, started⟩
    obtain ⟨_, _, _, _, unleased⟩ := fenced.started started
    rw [unleased] at leased
    cases leased
  exact ⟨fun both => superseded ⟨fenced.leased both.1, both.2⟩, superseded, fenced.refunded⟩

theorem awaits_fenced (f : FencedWorld) (awaits : AwaitsHandoff intent f) : Fenced intent f := by
  obtain ⟨row, present, vm, _⟩ := awaits.row
  obtain ⟨unleased, unrecovered, unstarted⟩ := awaits.fresh
  exact ⟨⟨row, present, vm⟩, by simp [unleased], by simp [unstarted], by simp [unrecovered],
    by simp [unrecovered]⟩

end

/-- In every run in which a worker reads its token before recovery has taken a
lease, and falls back to FAILED only before recovery has recorded its refund. -/
theorem fenced_handoffs (intent : IntentId) (jobs : Nat → Fencer) (f : FencedWorld)
    (schedule : List (Action Nat CheckoutChoice World)) (awaits : AwaitsHandoff intent f)
    (admitted : runAdmitted (fenceEngine intent (fenceSetting intent) jobs) ⟨f, fun _ => .idle⟩
      schedule) :
    RefundOrStart intent
      (run (fenceEngine intent (fenceSetting intent) jobs) ⟨f, fun _ => .idle⟩ schedule).shared :=
  fenced_refundOrStart _ (run_safe (fence_composable jobs) schedule ⟨f, fun _ => .idle⟩
    ⟨awaits_fenced f awaits, fun _ => trivial⟩ admitted).1

def oneSettler : Nat → Fencer
  | 0 => .settle 0
  | _ => .recover

def paidIntent : FencedWorld :=
  { awaitingWorld with
    intents := Table.put (fun _ => none) 0 { awaitingIntent with status := .settled } }

theorem paidIntent_awaits : AwaitsHandoff 0 paidIntent :=
  ⟨⟨_, rfl, rfl, rfl⟩, rfl, rfl, rfl⟩

def deliverySteps : List (Action Nat CheckoutChoice World) :=
  List.replicate 10 (.step 0 (.commit .done))

def promptHandoff : List (Action Nat CheckoutChoice World) :=
  [.start 0, .step 0 (.clocked 0 .done), .step 0 (.commit .done)] ++ deliverySteps ++
    [.start 1, .step 1 (.clocked 300 .done)]

theorem prompt_handoff_started :
    let final := (run (fenceEngine 0 (fenceSetting 0) oneSettler) ⟨paidIntent, fun _ => .idle⟩
      promptHandoff).shared
    final.started = true ∧ RefundOrStart 0 final := by
  have admitted : runAdmitted (fenceEngine 0 (fenceSetting 0) oneSettler)
      ⟨paidIntent, fun _ => .idle⟩ promptHandoff :=
    ⟨trivial, trivial, rfl, trivial, trivial, trivial, trivial, trivial, trivial, trivial, trivial,
      trivial, trivial, trivial, trivial, trivial⟩
  exact ⟨by decide +kernel, fenced_handoffs 0 oneSettler paidIntent promptHandoff
    paidIntent_awaits admitted⟩

def openFence (intent : IntentId) : Setting CheckoutReq Err FencedWorld CheckoutChoice :=
  { fenceSetting intent with permits := fun _ _ _ => True }

/-- The worker stalls between its update and its read. Recovery takes the lease,
the worker reads the stamp of the lease, and recovery refunds the started VM. -/
def stalledHandoff : List (Action Nat CheckoutChoice World) :=
  [.start 0, .step 0 (.clocked 0 .done), .start 1, .step 1 (.clocked 300 .done),
    .step 0 (.commit .done)] ++ deliverySteps ++ [.step 1 (.clocked 300 .done)]

theorem stalled_handoff_refunded : ¬ ∀ (intent : IntentId) (jobs : Nat → Fencer) (f : FencedWorld)
      (schedule : List (Action Nat CheckoutChoice World)), AwaitsHandoff intent f →
      runAdmitted (fenceEngine intent (openFence intent) jobs) ⟨f, fun _ => .idle⟩ schedule →
      RefundOrStart intent
        (run (fenceEngine intent (openFence intent) jobs) ⟨f, fun _ => .idle⟩ schedule).shared := by
  intro claim
  let final := (run (fenceEngine 0 (openFence 0) oneSettler) ⟨paidIntent, fun _ => .idle⟩
    stalledHandoff).shared
  have both : final.recovered = true ∧ final.started = true := by decide +kernel
  have admitted : runAdmitted (fenceEngine 0 (openFence 0) oneSettler)
      ⟨paidIntent, fun _ => .idle⟩ stalledHandoff :=
    runAdmitted_free _ (fun _ _ _ => trivial) (fun _ _ => trivial) _
      (by simp [stalledHandoff, deliverySteps]) _
  exact (claim 0 oneSettler paidIntent stalledHandoff paidIntent_awaits admitted).single both

end HyruleCloud
