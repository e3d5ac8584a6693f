import HyruleCloud.HandoffAccounting

/-!
Any number of creates and native settlements, racing for any quotes. Whatever
the order of their steps, a handler that has returned has accounted for its
charge, as long as every step is careful.
-/

namespace HyruleCloud

open Interaction

section Trigger
variable {worker : Nat} {intent : IntentId}

theorem handed_sound (now : Time) (w : World) (row : CryptoIntentRow) (sound : Sound w)
    (present : w.intents intent = some row) (fresh : row.provisioningTriggeredAt = none) :
    let next := { row with provisioningTriggeredAt := some now, status := .provisioning }
    let w' := { w with
      intents := w.intents.put intent next
      handedBy := Function.update w.handedBy intent (some worker) }
    Sound w' ∧ Guar worker w w' ∧ Running worker intent now .untouched w' := by
  intro next w'
  have open' : w.handedBy intent = none := by
    cases held : w.handedBy intent with
    | none => rfl
    | some other =>
      obtain ⟨found, here, stamped⟩ := sound.handed intent other held
      rw [present] at here
      cases here
      simp [fresh] at stamped
  have others : ∀ party, party ≠ .intent intent → SameView party w w' := by
    intro party different
    refine ⟨fun _ => Or.inl rfl, fun _ _ => rfl, fun _ _ => rfl, ?_⟩
    rintro other rfl
    have distinct : other ≠ intent := fun same => different (by rw [same])
    simp [w', distinct]
  have idle : Position.untouched.holds (.native intent) w' := sound.idle intent open'
  refine ⟨⟨sound.payers, ?_, ?_, ?_, sound.settled⟩, ⟨?_, ?_, ?_⟩, ⟨⟨?_, ?_, idle⟩, ?_⟩⟩
  · intro other found here
    by_cases same : other = intent
    · subst same
      simp only [w', put_same, Option.some.injEq] at here
      subst here
      have old := sound.intents other row present
      exact { old with }
    · exact sound.intents other found (by simpa [w', put_other _ _ same] using here)
  · intro other waiting
    by_cases same : other = intent
    · subst same
      exact idle
    · exact sound.idle other (by simpa [w', same] using waiting)
  · intro other holder held
    by_cases same : other = intent
    · subst same
      exact ⟨next, by simp [w'], rfl⟩
    · have held : w.handedBy other = some holder := by simpa [w', same] using held
      obtain ⟨found, here, stamped⟩ := sound.handed other holder held
      exact ⟨found, by simpa [w', put_other _ _ same] using here, stamped⟩
  · intro party foreign
    apply others
    rintro rfl
    exact foreign (by simp [Owns, w'])
  · intro other holder held
    have distinct : other ≠ intent := by
      rintro rfl
      rw [open'] at held
      cases held
    simpa [w', distinct] using held
  · intro other holder held
    by_cases same : other = intent
    · subst same
      simp [w'] at held
      exact Or.inr held.symm
    · exact Or.inl (by simpa [w', same] using held)
  · simp [Owns, Payment.party, w']
  · intro handler absurd
    cases absurd
  · exact ⟨next, by simp [w'], by simp [holdsHandoff, next]⟩

/-- Before it has won the handoff, a worker has nothing to account for. -/
def NotHanded (worker : Nat) (intent : IntentId) (w : World) : Prop :=
  w.handedBy intent ≠ some worker

theorem notHanded_stable : Stable (checkoutDuty worker) (NotHanded worker intent) :=
  fun _ _ free moved _ held => free (moved.owners intent held)

theorem triple_triggerHandoff :
    CheckoutTriple worker (NotHanded worker intent) (ask (.triggerHandoff worker intent)) (outcome
        (fun found w => match found with
          | none => NotHanded worker intent w
          | some row => (∀ vm, row.vmId = some vm → vm.drawer = .intent intent) ∧
              w.intents intent = some row ∧ ∃ token, row.provisioningTriggeredAt = some token ∧
                Running worker intent token .untouched w)
        (fun _ => NotHanded worker intent)) := by
  refine triple_perform _ notHanded_stable (fun _ _ _ _ => trivial) ?_
  intro w choice w' reply sound free careful ran
  have unchanged : Sound w ∧ Guar worker w w :=
    ⟨sound, unseen_guar worker w w (unseen_refl w sound)⟩
  obtain ⟨now, ends⟩ := clocked_ends _ _ _ _ _ ran
  rcases ends with ⟨rfl, error, rfl, _⟩ | ⟨value, done, cause⟩
  · exact ⟨unchanged.1, unchanged.2, free⟩
  rcases triggered worker intent now w w' value done with
    ⟨rfl, rfl⟩ | ⟨row, next, present, fresh, rfl, rfl, rfl⟩
  · refine ⟨unchanged.1, unchanged.2, ?_⟩
    rcases cause with rfl | rfl <;> exact free
  · have ordered := (sound.intents intent row present).ordered
    obtain ⟨sound', guar, running⟩ := @handed_sound worker intent now w row sound present fresh
    refine ⟨sound', guar, ?_⟩
    rcases cause with rfl | rfl
    · simp only [ordered, ↓reduceIte, outcome_ok]
      exact ⟨(sound.intents intent row present).planned, by simp, now, rfl, running⟩
    · have same := clocked_failed _ _ _ _ _ ran careful
      exact absurd (same ▸ running.held.owns) free

def HandoffClosed (worker : Nat) (intent : IntentId) (w : World) : Prop :=
  w.handedBy intent = some worker →
    (w.intents intent).map (·.resourceType) = some .vm → Closed worker (.native intent) w

theorem handoffClosed_stable : Stable (checkoutDuty worker) (HandoffClosed worker intent) := by
  intro a b closed moved kept held kind
  have before := moved.owners intent held
  have same := moved.views (.intent intent) before
  refine closed_stable a b (closed before ?_) moved kept
  rwa [(same.intents intent rfl).1] at kind

def ForDomain (worker : Nat) (intent : IntentId) (w : World) : Prop :=
  Owns worker (.intent intent) w ∧
    (w.intents intent).map (·.resourceType) = some .domainOrder

theorem forDomain_view : OwnView worker (.native intent) (ForDomain worker intent) where
  owns _ holds := holds.1
  kept _ _ holds same :=
    ⟨owns_kept holds.1 same, by rw [(same.intents intent rfl).1]; exact holds.2⟩

theorem triple_domainHandoff (row : CryptoIntentRow) :
    CheckoutTriple worker (ForDomain worker intent)
      (domainHandoff intent row) (fun _ => ForDomain worker intent) := by
  have refund : ∀ reason vm, Within (Acts (.intent intent)) (refundIntent intent reason vm) :=
    fun _ _ => within_bind ((within_perform _).mpr rfl) fun _ => trivial
  have within : Within (Acts (.intent intent)) (domainHandoff intent row) := by
    simp only [domainHandoff]
    cases row.resourceId with
    | none => exact refund _ _
    | some id =>
      refine within_rescue (within_bind ((within_perform _).mpr ?_) fun order =>
        (within_perform _).mpr rfl) fun error => within_bind ((within_perform _).mpr trivial)
          fun order => ?_
      · exact native_attributable intent row.txHash
      · split
        · exact (within_perform _).mpr rfl
        · exact refund _ _
  refine triple_within _ within (ownView_stable forDomain_view) (fun _ _ _ _ _ _ => trivial) ?_
  intro β request choice w w' reply allowed sound holds _ ran
  have touches := acts_touches worker (.intent intent) request choice w w' reply allowed sound
    holds.1 ran
  exact ⟨touches.sound, touches_guar worker (.intent intent) w w' holds.1 touches,
    (congrFun touches.handedBy intent).trans holds.1, (touches.kinds intent).trans holds.2⟩

theorem triple_triggerProvisioning (job : Handoff.Worker) :
    CheckoutTriple job.worker (NotHanded job.worker job.intent)
      (triggerProvisioning job) (fun _ => HandoffClosed job.worker job.intent) := by
  refine triple_bind triple_triggerHandoff (fun found => ?_)
    (fun _ _ _ free held => absurd held free)
  cases found with
  | none => exact triple_ret _ fun _ _ free held => absurd held free
  | some row =>
    rintro w sound ⟨drawn, present, token, stamped, running⟩
    simp only [stamped]
    split
    · rename_i kind
      refine triple_weaken (triple_domainHandoff row) (fun _ _ holds => holds)
        (fun _ w _ holds held vm => ?_) w sound ⟨running.held.owns, by rw [present, ← kind]; rfl⟩
      rw [holds.2] at vm
      cases vm
    · exact triple_weaken (triple_vmHandoff job row rfl drawn) (fun _ _ holds => holds)
        (fun _ _ _ closed _ _ => closed) w sound running

end Trigger

inductive Handler where
  | create (request : CreateRequest)
  | settle (process : ProcessId) (intent : IntentId)

def Handler.program (thread : Nat) : Handler → Checkout Unit
  | .create request => do let _ ← createVm thread request
  | .settle process intent => triggerProvisioning ⟨thread, process, intent⟩

/-- What else happens meanwhile: the sweep of stale reservations, the expiry of a
quote, and an account that is disabled or enabled. -/
inductive Background where
  | sweep (vm : VmId)
  | expire (quote : QuoteId)
  | disable (account : AccountId) (disabled : Bool)

def background (event : Background) (w : World) : World :=
  match event with
  | .sweep vm => match w.vms vm with
      | some row => if isReservation row then { w with
          vms := w.vms.erase vm
          domains := fun fqdn => (w.domains fqdn).map (detachPlanned vm) } else w
      | none => w
  | .expire quote => match w.vmQuotes quote with
      | some row => if row.status = .created then { w with
          vmQuotes := w.vmQuotes.put quote { row with status := .expired } } else w
      | none => w
  | .disable account disabled => { w with disabled := Function.update w.disabled account disabled }

def checkouts (handlers : Nat → Handler) :
    Workload CheckoutReq Err World CheckoutChoice Background Nat where
  setting := checkoutSetting
  prog thread := (handlers thread).program thread
  env := background
  mayTick _ _ := True

def Handler.Ready (thread : Nat) (w : World) : Handler → Prop
  | .create _ => Fresh thread w
  | .settle _ intent => NotHanded thread intent w

def Handler.Closed (thread : Nat) (w : World) : Handler → Prop
  | .create _ => w.charged thread = true → HyruleCloud.Closed thread (.x402 thread) w
  | .settle _ intent => HandoffClosed thread intent w

theorem background_unseen (event : Background) (w : World) (sound : Sound w) :
    Unseen w (background event w) := by
  cases event with
  | sweep vm =>
    simp only [background]
    split
    · rename_i row present
      split
      · rename_i reserved
        refine unseen_swept sound (fun other => ?_) rfl rfl rfl rfl
        by_cases same : other = vm
        · subst same
          exact Or.inr ⟨erase_same _ _, row, present, reserved⟩
        · exact Or.inl (erase_other _ same)
      · exact unseen_refl w sound
    · exact unseen_refl w sound
  | expire quote =>
    simp only [background]
    split
    · split
      · refine unseen_columns sound ?_ ?_ ?_ ?_ ?_ <;> rfl
      · exact unseen_refl w sound
    · exact unseen_refl w sound
  | disable account disabled => refine unseen_columns sound ?_ ?_ ?_ ?_ ?_ <;> rfl

theorem checkouts_composable (handlers : Nat → Handler) :
    Composable (checkouts handlers) Sound checkoutDuty (fun t w => (handlers t).Ready t w)
      (fun t _ w => (handlers t).Closed t w) where
  shared _ _ := Iff.rfl
  starts t := by
    show CheckoutTriple t _ ((handlers t).program t) _
    cases handlers t with
    | create request =>
      exact triple_bind (triple_createVm t request) (fun _ => triple_ret _ fun _ _ closed => closed)
        (fun _ _ _ closed => closed)
    | settle process intent => exact triple_triggerProvisioning ⟨t, process, intent⟩
  idle t := by
    cases handlers t with
    | create request => exact fresh_stable
    | settle process intent => exact notHanded_stable
  done t _ := by
    cases handlers t with
    | create request =>
      intro a b closed moved kept paid
      have same := (moved.views (.request t) rfl).charged t rfl
      exact closed_stable a b (closed (same.symm.trans paid)) moved kept
    | settle process intent => exact handoffClosed_stable
  dead _ _ _ _ _ _ := trivial
  compatible t other a b different _ _ guar := guar_rely t other a b different guar
  ticks event w sound _ := by
    have unseen := background_unseen event w sound
    refine ⟨unseen.sound, fun t => ⟨fun party _ => unseen.views party, fun intent held => ?_⟩⟩
    exact ((unseen.views (.intent intent)).intents intent rfl).2 ▸ held

/-- A handler that has come to its end, with a result or an error. -/
def Returned (thread : Thread CheckoutReq Err) : Prop :=
  match thread with
  | .live (.ret _) => True
  | .live (.raise _) => True
  | _ => False

theorem closed_accounted (worker : Nat) (payment : Payment) (w : World) (sound : Sound w)
    (closed : Closed worker payment w) : Accounted payment w := by
  rcases closed with refunded | ⟨vm, bound⟩
  · exact refunded_accounted payment w sound refunded.holds
  · exact bound_accounted payment w vm sound bound.holds

/-- In every careful run each handler that has returned has accounted for the
payment that it settled: the x402 charge of a create, the intent of a handoff. -/
theorem settled_payments_accounted (handlers : Nat → Handler) (w : World)
    (schedule : List (Action Nat CheckoutChoice Background)) (sound : Sound w)
    (ready : ∀ t, (handlers t).Ready t w)
    (careful : runAdmitted (checkouts handlers) ⟨w, fun _ => .idle⟩ schedule) (t : Nat)
    (returned : Returned ((run (checkouts handlers) ⟨w, fun _ => .idle⟩ schedule).thread t)) :
    let final := (run (checkouts handlers) ⟨w, fun _ => .idle⟩ schedule).shared
    (∀ request, handlers t = .create request → final.charged t = true →
      Accounted (.x402 t) final) ∧
    (∀ process intent, handlers t = .settle process intent → final.handedBy intent = some t →
      (final.intents intent).map (·.resourceType) = some .vm →
      Accounted (.native intent) final) := by
  intro final
  have safe := run_safe (checkouts_composable handlers) schedule ⟨w, fun _ => .idle⟩
    ⟨sound, ready⟩ careful
  obtain ⟨kept, threads⟩ := safe
  have closed : (handlers t).Closed t final := by
    have here := threads t
    revert returned here
    cases (run (checkouts handlers) ⟨w, fun _ => .idle⟩ schedule).thread t with
    | idle | crashed => exact fun absurd => absurd.elim
    | live program =>
      cases program with
      | ret | raise => exact fun _ safe => safe
      | call request next => exact fun absurd => absurd.elim
  constructor
  · intro request job paid
    rw [job] at closed
    exact closed_accounted t _ final kept (closed paid)
  · intro process intent job held kind
    rw [job] at closed
    exact closed_accounted t _ final kept (closed held kind)

/-- A create up to its settled charge, every step of which succeeds. -/
def payAndClaim (t : Nat) : List (Action Nat CheckoutChoice Background) :=
  [.step t (.commit .done), .step t (.time 0), .step t (.commit .done), .step t (.commit .done),
    .step t (.commit .done), .step t (.settle (some t) true), .step t (.commit .done),
    .step t (.account none)]

def raceSchedule : List (Action Nat CheckoutChoice Background) :=
  [.start 0, .start 1] ++ payAndClaim 0 ++ payAndClaim 1 ++
    [.step 0 (.commit .done), .step 0 (.commit .done), .step 0 (.commit .done),
      .step 0 (.commit .done), .step 1 (.commit .done), .step 1 (.commit .done),
      .step 1 (.commit .done), .step 1 (.commit .done)]

def raceWorld : World where
  vmQuotes := Table.put (fun _ => none) 0
    { status := .created, orderPayload := {}, amountUsd := 5, expiresAt := 900 }
  vms _ := none
  intents _ := none
  domainQuotes _ := none
  orders _ := none
  domains _ := none
  operations _ := none
  jobs _ := none
  events := []
  disabled _ := false
  claimed _ _ := false
  charged _ := false
  handedBy _ := none

def raceHandlers (t : Nat) : Handler :=
  .create { quoteId := 0, body := {}, account := none, credential := .x402, process := t }

def raceFinal := run (checkouts raceHandlers) ⟨raceWorld, fun _ => .idle⟩ raceSchedule

theorem race_rows (vm : VmId) (row : VMRow) (present : raceFinal.shared.vms vm = some row) :
    row.paymentTx = some (.chain 0) := by
  have winner : (raceFinal.shared.vms ⟨.request 0, 0⟩).map (·.paymentTx) = some (some (.chain 0)) := by
    decide +kernel
  by_cases first : vm = ⟨.request 0, 0⟩
  · subst first
    simpa [present] using winner
  · by_cases second : vm = ⟨.request 1, 0⟩
    · subst second
      have released : raceFinal.shared.vms ⟨.request 1, 0⟩ = none := by decide +kernel
      simp [released] at present
    · have absent : raceFinal.shared.vms vm = none := by
        show Table.erase (Table.put (Table.put (Table.put (Table.put (fun _ => none)
          ⟨.request 0, 0⟩ _) ⟨.request 1, 0⟩ _) ⟨.request 0, 0⟩ _) ⟨.request 0, 0⟩ _)
          ⟨.request 1, 0⟩ vm = none
        rw [erase_other _ second, put_other _ _ first, put_other _ _ first, put_other _ _ second,
          put_other _ _ first]
      simp [absent] at present

theorem raceWorld_sound : Sound raceWorld where
  payers _ _ _ absurd := by cases absurd
  intents _ _ absurd := by cases absurd
  idle intent _ := ⟨rfl, fun _ _ absurd => by cases absurd⟩
  handed _ _ absurd := by cases absurd
  settled _ absurd := by cases absurd

theorem raceHandlers_ready (t : Nat) : (raceHandlers t).Ready t raceWorld :=
  ⟨rfl, rfl, fun _ _ absurd => by cases absurd⟩

theorem charge_of_lost_quote_unaccounted :
    ¬ ∀ (handlers : Nat → Handler) (w : World)
      (schedule : List (Action Nat CheckoutChoice Background)),
      Sound w → (∀ t, (handlers t).Ready t w) →
      let final := run (checkouts handlers) ⟨w, fun _ => .idle⟩ schedule
      (∀ t, final.thread t = .idle ∨ Returned (final.thread t)) →
      ∀ t request, handlers t = .create request → final.shared.charged t = true →
        Accounted (.x402 t) final.shared := by
  intro claim
  have settled : raceFinal.shared.charged 1 = true := by decide +kernel
  have nothingOwed : owed raceFinal.shared.toStore (.x402 1) = 0 := by decide +kernel
  have ended : ∀ t, raceFinal.thread t = .idle ∨ Returned (raceFinal.thread t) := by
    intro t
    match t with
    | 0 => exact Or.inr trivial
    | 1 => exact Or.inr trivial
    | _ + 2 => exact Or.inl rfl
  rcases claim raceHandlers raceWorld raceSchedule raceWorld_sound raceHandlers_ready ended 1 _ rfl
      settled with ⟨vm, ⟨row, present, paid, _⟩, _⟩ | ⟨_, owedOnce⟩
  · simp [VMRow.paidBy, race_rows vm row present] at paid
  · exact absurd (nothingOwed.symm.trans owedOnce) (by decide)

def soloSchedule : List (Action Nat CheckoutChoice Background) :=
  .start 0 :: payAndClaim 0 ++
    [.step 0 (.commit .done), .step 0 (.commit .done), .step 0 (.commit .done),
      .step 0 (.commit .done)]

theorem solo_payment_accounted :
    Accounted (.x402 0)
      (run (checkouts raceHandlers) ⟨raceWorld, fun _ => .idle⟩ soloSchedule).shared := by
  have careful : runAdmitted (checkouts raceHandlers) ⟨raceWorld, fun _ => .idle⟩
      soloSchedule := by
    refine ⟨trivial, trivial, trivial, trivial, trivial, trivial, trivial, ?_, trivial, ?_,
      trivial, trivial, trivial, trivial⟩
    · intro absurd
      cases absurd
    · exact fun _ => ⟨rfl, ⟨_, rfl, rfl⟩, rfl⟩
  have accounted := settled_payments_accounted raceHandlers raceWorld soloSchedule
    raceWorld_sound raceHandlers_ready careful 0 trivial
  exact accounted.1 _ rfl (by decide +kernel)

end HyruleCloud
