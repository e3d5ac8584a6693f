import HyruleCloud.CreateAccounting

/-!
A charge through a native intent. The worker that wins the handoff owns the
intent; as long as nobody takes its lease, its delivery fence holds. Each stage
of the handoff either goes on with the payment untouched, or has refunded it.
-/

namespace HyruleCloud

open Interaction

variable {α β : Type} {assertion : World → Prop}

section Intent
variable {worker : Nat} {intent : IntentId} {token : Time} {position : Position}

def Handling (intent : IntentId) (token : Time) (w : World) : Prop :=
  ∃ row, w.intents intent = some row ∧ holdsHandoff row token = true

/-- The payment stands at `position`, and the worker's fence still holds. -/
structure Running (worker : Nat) (intent : IntentId) (token : Time) (position : Position)
    (w : World) : Prop where
  held : Held worker (.native intent) position w
  handling : Handling intent token w

theorem handling_kept {a b : World} (handling : Handling intent token a)
    (same : b.intents intent = a.intents intent) : Handling intent token b := by
  obtain ⟨row, present, holds⟩ := handling
  exact ⟨row, same.trans present, holds⟩

abbrev RunningTriple {α : Type} (worker : Nat) (intent : IntentId) (token : Time)
    (position : Position) (p : Checkout α) (post : Except Err α → World → Prop) : Prop :=
  CheckoutTriple worker (Running worker intent token position) p post

theorem running_view : OwnView worker (.native intent) (Running worker intent token position) where
  owns _ running := running.held.owns
  kept _ _ running same :=
    ⟨held_kept running.held same, handling_kept running.handling (same.intents intent rfl).1⟩

theorem requireCurrent_holds (w w' : World) (choice : CheckoutChoice) (reply : Except Err Unit)
    (handling : Handling intent token w)
    (ran : (CheckoutReq.requireCurrentVmHandoff intent token).exec choice w = some (w', reply)) :
    reply = .ok () ∨ reply = .error .database := by
  obtain ⟨row, present, holds⟩ := handling
  rcases committed_ends _ _ _ _ _ ran with ⟨_, error, rfl, cause⟩ | ⟨_, _, cause⟩
  · rcases cause with rfl | aborted
    · exact Or.inr rfl
    · have aborted := onStore_error _ _ _ aborted
      simp [requireCurrentVmHandoff, present, holds] at aborted
  · exact cause

theorem triple_requireCurrent :
    RunningTriple worker intent token position (ask (.requireCurrentVmHandoff intent token))
      (outcome (fun _ => Running worker intent token position)
        (fun error w => error = .database ∧ Running worker intent token position w)) := by
  refine triple_own running_view _ (quiet_acts _ _ trivial) ?_
  intro w choice w' reply sound running _ ran _
  have unseen := quiet_unseen _ choice w w' reply (by exact trivial) sound ran
  have kept := running_view.kept w w' running (unseen.views _)
  rcases requireCurrent_holds w w' choice reply running.handling ran with rfl | rfl
  · exact kept
  · exact ⟨rfl, kept⟩

theorem position_count (w : World) (holds : position.holds (.native intent) w) :
    owed w.toStore (.native intent) = 0 ∨ owed w.toStore (.native intent) = 1 := by
  cases position with
  | untouched => exact Or.inl holds.1
  | bound vm => exact Or.inl holds.2
  | boundOwed vm => exact Or.inr holds.2
  | refunded => exact Or.inr holds.1

theorem triple_refundIntent (reason : String) (vm : Option VmId) :
    CheckoutTriple worker (Held worker (.native intent) position) (refundIntent intent reason vm)
      (outcome (fun _ => Held worker (.native intent) position.owe)
        (fun error w => error = .database ∧ reason ≠ "provisioning_failed" ∧
          (Held worker (.native intent) position w ∨
            Held worker (.native intent) position.owe w))) := by
  have record : CheckoutTriple worker (Held worker (.native intent) position)
      (ask (.recordNativeIntentRefund intent reason vm))
      (outcome (fun _ => Held worker (.native intent) position.owe)
        (fun error w => error = .database ∧ reason ≠ "provisioning_failed" ∧
          (Held worker (.native intent) position w ∨
            Held worker (.native intent) position.owe w))) := by
    refine triple_act (.recordNativeIntentRefund intent reason vm) rfl ?_
    intro w choice w' reply sound held careful ran touches
    obtain ⟨row, present, _⟩ := sound.handed intent worker held.owns
    obtain ⟨event, built, refunds⟩ := priced_owed intent row reason vm
      (sound.intents intent row present).priced
    have never : ∀ now error, onStore (HyruleCloud.recordNativeIntentRefund intent reason vm now) w ≠
        .error error := by
      intro now error failed
      have failed := onStore_error _ _ _ failed
      simp only [HyruleCloud.recordNativeIntentRefund, present] at failed
      split at failed
      · cases failed
      · split at failed
        · cases failed
        · split at failed <;> cases failed
    have acked : ∀ error, reply = .error error → reason ≠ "provisioning_failed" := by
      intro error failed last
      obtain ⟨now, rfl⟩ := careful last
      simp only [CheckoutReq.exec] at ran
      rcases clocked_acked _ _ _ _ _ ran with ⟨value, _, fine⟩ | ⟨error, aborted⟩
      · rw [fine] at failed
        cases failed
      · exact never now error aborted
    obtain ⟨now, ends⟩ := clocked_ends _ _ _ _ _ ran
    rcases ends with ⟨rfl, error, rfl, cause⟩ | ⟨value, done, cause⟩
    · refine ⟨?_, acked error rfl, Or.inl held⟩
      rcases cause with rfl | aborted
      · rfl
      · exact absurd aborted (never now error)
    · have recorded : Held worker (.native intent) position.owe w' := by
        obtain ⟨inner, _⟩ := onStore_ok _ _ _ _ done
        obtain ⟨rows, ⟨_, absent⟩ | ⟨found, there, _, events⟩⟩ :=
          refundedIntent intent reason vm now value inner
        · rw [present] at absent
          cases absent
        · rw [present] at there
          cases there
          refine held_touched held touches (owe_holds position rows ?_ held.holds)
          rcases events with ⟨already, same⟩ | ⟨free, added⟩
          · have some := (intentOwed_iff w.toStore intent).mp already
            simp only [owed, same]
            rcases position_count w held.holds with none | one
            · rw [owed] at none some; omega
            · exact one
          · have none : owed w.toStore (.native intent) = 0 := by
              rcases position_count w held.holds with none | one
              · exact none
              have owes : intentOwed w.toStore intent = true :=
                (intentOwed_iff w.toStore intent).mpr (by omega)
              rw [free] at owes
              cases owes
            simp only [owed] at none ⊢
            simp [added, built, none, refunds]
      rcases cause with rfl | rfl
      · exact recorded
      · exact ⟨rfl, acked _ rfl, Or.inr recorded⟩
  exact triple_then record fun _ => triple_ret _ fun _ _ held => held

/-- A stage of the handoff has refunded, or leaves the payment as it was. -/
def Decided (worker : Nat) (intent : IntentId) (token : Time) (verdict : Verdict) (w : World) :
    Prop :=
  match verdict with
  | .proceed => Running worker intent token .untouched w
  | .refunded => Held worker (.native intent) .refunded w

def Stopped (worker : Nat) (intent : IntentId) (error : Err) (w : World) : Prop :=
  error ≠ .handoffFenced ∧ (Held worker (.native intent) .untouched w ∨
    Held worker (.native intent) .refunded w)

theorem database_stopped (w : World) (held : Held worker (.native intent) .untouched w) :
    Stopped worker intent .database w := ⟨by simp, Or.inl held⟩

theorem triple_refundAndStop (reason : String) (vm : Option VmId) :
    CheckoutTriple worker (Held worker (.native intent) .untouched) (refundAndStop intent reason vm)
      (outcome (fun verdict w => verdict = .refunded ∧ Held worker (.native intent) .refunded w)
        (Stopped worker intent)) := by
  refine triple_bind (triple_refundIntent reason vm)
    (fun _ => triple_ret _ fun _ _ held => ⟨rfl, held⟩) ?_
  rintro error w _ ⟨rfl, _, held⟩
  exact ⟨by simp, held⟩

theorem triple_refundRunning (reason : String) (vm : Option VmId) :
    RunningTriple worker intent token .untouched (refundAndStop intent reason vm)
      (outcome (Decided worker intent token) (Stopped worker intent)) := by
  refine triple_weaken (triple_refundAndStop reason vm) (fun _ _ running => running.held) ?_
  intro result w _ holds
  cases result with
  | ok verdict =>
    obtain ⟨rfl, held⟩ := holds
    exact held
  | error error => exact holds

theorem triple_fence {post : Except Err α → World → Prop} (rest : Checkout α)
    (next : RunningTriple worker intent token .untouched rest post)
    (failed : ∀ w, Stopped worker intent .database w → post (.error .database) w) :
    RunningTriple worker intent token .untouched
      (ask (.requireCurrentVmHandoff intent token) >>= fun _ => rest) post := by
  refine triple_bind triple_requireCurrent (fun _ => next) ?_
  rintro error w _ ⟨rfl, running⟩
  exact failed w (database_stopped w running.held)

theorem triple_aside {post : Except Err α → World → Prop}
    (request : CheckoutReq β) (quiet : Quiet request) (rest : β → Checkout α)
    (fails : ∀ choice w w' error, request.exec choice w = some (w', .error error) →
      error ≠ .handoffFenced)
    (next : ∀ value, RunningTriple worker intent token .untouched (rest value) post)
    (failed : ∀ error w, Stopped worker intent error w → post (.error error) w) :
    RunningTriple worker intent token .untouched (ask request >>= rest) post := by
  have asked : RunningTriple worker intent token .untouched (ask request)
      (outcome (fun _ => Running worker intent token .untouched)
        (fun error => Stopped worker intent error)) := by
    refine triple_own running_view request (quiet_acts _ request quiet) ?_
    intro w choice w' reply sound running _ ran _
    have unseen := quiet_unseen request choice w w' reply quiet sound ran
    have kept := running_view.kept w w' running (unseen.views _)
    cases reply with
    | ok value => exact kept
    | error error => exact ⟨fails choice w w' error ran, Or.inl kept.held⟩
  exact triple_bind asked next fun error w _ stopped => failed error w stopped

theorem committed_error (tx : Transaction World β) (choice : CheckoutChoice)
    (w w' : World) (error : Err) (never : ∀ error, tx w ≠ .error error)
    (ran : committed tx choice w = some (w', .error error)) : error = .database := by
  rcases committed_ends _ _ _ _ _ ran with ⟨_, other, same, cause⟩ | ⟨_, _, cause⟩
  · cases same
    rcases cause with rfl | aborted
    · rfl
    · exact absurd aborted (never _)
  · rcases cause with absurd | same
    · cases absurd
    · exact Except.error.inj same

theorem claimQuote_total (quote : QuoteId) (w : World) (error : Err) :
    onStore (claimQuote quote) w ≠ .error error := by
  intro failed
  have failed := onStore_error _ _ _ failed
  simp only [claimQuote] at failed
  split at failed
  · split at failed <;> cases failed
  · cases failed

theorem claimQuoteIn_fails (process : ProcessId) (quote : QuoteId) (choice : CheckoutChoice)
    (w w' : World) (error : Err)
    (ran : claimQuoteIn process quote choice w = some (w', .error error)) :
    error ≠ .handoffFenced := by
  simp only [claimQuoteIn] at ran
  split at ran
  · cases ran
  split at ran
  · cases ran
  · rename_i claimed
    rw [committed_error _ _ _ _ _ (claimQuote_total quote w) ran]
    simp

theorem triple_claimIntentQuote (job : Handoff.Worker) (row : CryptoIntentRow)
    (order : VMCreateRequest) (own : job.intent = intent) :
    RunningTriple worker intent token .untouched (claimIntentQuote job row order)
      (outcome (Decided worker intent token) (Stopped worker intent)) := by
  obtain rfl := own
  have readable : ∀ {β : Type} (read : World → β) (choice : CheckoutChoice) (w w' : World)
      (error : Err), committed (readOnly read) choice w = some (w', .error error) →
      error ≠ .handoffFenced := by
    intro β read choice w w' error ran
    rw [committed_error _ choice w w' error (fun _ absurd => by cases absurd) ran]
    simp
  cases quoted : order.quoteId with
  | none =>
    simp only [claimIntentQuote, quoted]
    exact triple_ret _ fun _ _ running => running
  | some quoteId =>
    simp only [claimIntentQuote, quoted]
    refine triple_aside (.getQuote quoteId) trivial _
      (fun choice w w' error ran => readable _ choice w w' error ran) (fun found => ?_)
      (fun _ _ stopped => stopped)
    cases found with
    | none => exact triple_refundRunning _ _
    | some quote =>
      dsimp only
      split
      · exact triple_refundRunning _ _
      refine triple_aside .clock trivial _ (fun choice w w' error ran => ?_) (fun now => ?_)
        (fun _ _ stopped => stopped)
      · simp only [CheckoutReq.exec] at ran
        split at ran <;> cases ran
      · split
        · exact triple_refundRunning _ _
        split
        · exact triple_refundRunning _ _
        refine triple_aside (.claimQuote job.process quoteId (.intent job.intent)) trivial _
          (fun choice w w' error ran =>
            claimQuoteIn_fails job.process quoteId choice w w' error ran)
          (fun won => ?_) (fun _ _ stopped => stopped)
        cases won with
        | true => exact triple_ret _ fun _ _ running => running
        | false => exact triple_refundRunning _ _

theorem handling_stable : Stable (checkoutDuty worker)
    (fun w => Owns worker (Payment.native intent).party w ∧ Handling intent token w) := by
  rintro a b ⟨owns, handling⟩ moved _
  have same := moved.views _ owns
  exact ⟨owns_kept owns same, handling_kept handling (same.intents intent rfl).1⟩

theorem triple_handling {post : Except Err β → World → Prop} (request : CheckoutReq β)
    (acts : Acts (Payment.native intent).party request)
    (spec : CheckoutTriple worker (Held worker (.native intent) position) (ask request) post)
    (keeps : ∀ choice w w' reply, request.exec choice w = some (w', reply) →
      w'.intents = w.intents) :
    RunningTriple worker intent token position
      (ask request) (fun reply w => post reply w ∧ Handling intent token w) := by
  refine triple_weaken (triple_frame request spec handling_stable ?_)
    (fun _ _ running => ⟨running.held, running.held.owns, running.handling⟩)
    (fun _ _ _ result => ⟨result.1, result.2.2⟩)
  rintro w choice w' reply sound ⟨owns, handling⟩ ran
  have touches := acts_touches worker _ request choice w w' reply acts sound owns ran
  exact ⟨(congrFun touches.handedBy intent).trans owns,
    handling_kept handling (by rw [keeps choice w w' reply ran])⟩

theorem session_intents (tx : Transaction Store β) (w w' : World)
    (reply : Except Err β)
    (keeps : ∀ s s' value, tx s = .ok (s', value) → s'.intents = s.intents)
    (ends : SessionEnds w w' reply (onStore tx)) : w'.intents = w.intents := by
  rcases ends with ⟨rfl, _⟩ | ⟨value, done, _⟩
  · rfl
  · exact keeps _ _ _ (onStore_ok w w' tx value done).1

theorem reserve_intents (vm : VmId) (args : InsertArgs) (choice : CheckoutChoice) (w w' : World)
    (reply : Except Err Unit)
    (ran : (CheckoutReq.reserveVm vm args).exec choice w = some (w', reply)) :
    w'.intents = w.intents := by
  rcases refusable_ends _ _ _ _ _ ran with ⟨rfl, _⟩ | ends
  · rfl
  refine session_intents _ w w' reply (fun s s' _ done => ?_) ends
  rcases reserved vm args done with rfl | insert
  · rfl
  · rw [(inserted vm args insert).2]

theorem activate_intents (vm : VmId) (args : ActivateArgs) (guarded : Bool)
    (choice : CheckoutChoice) (w w' : World) (reply : Except Err Bool)
    (ran : (CheckoutReq.activateVmReservation vm args guarded).exec choice w = some (w', reply)) :
    w'.intents = w.intents := by
  rcases waivable_ends _ _ _ _ _ _ ran with ⟨_, rfl, _⟩ | ⟨rfl, _⟩ | ends
  · rfl
  · rfl
  · refine session_intents _ w w' reply (fun s s' value done => ?_) ends
    rcases activated vm args value done with ⟨_, rfl, _⟩ | ⟨_, row, _, rfl⟩ <;> rfl

theorem insert_unfenced (vm : VmId) (args : InsertArgs) (s : Store) (error : Err)
    (aborted : reservePlannedVm vm args s = .error error) : error ≠ .handoffFenced := by
  simp only [reservePlannedVm] at aborted
  split at aborted
  · split at aborted <;> cases aborted
    simp
  · exact (insert_refused vm args s error aborted).1

theorem triple_reserveIntentVm (job : Handoff.Worker) (row : CryptoIntentRow)
    (order : VMCreateRequest) (planned : VmId) (own : job.intent = intent)
    (drawn : planned.drawer = .intent intent) :
    RunningTriple worker intent token .untouched (reserveIntentVm job row order planned)
      (outcome (Decided worker intent token) (Stopped worker intent)) := by
  obtain rfl := own
  have acts : Acts (Payment.native job.intent).party
      (.reserveVm planned (intentReservationArgs row order)) := ⟨drawn, attributable_none _⟩
  have reserving : CheckoutTriple worker (Running worker job.intent token .untouched)
      (ask (.reserveVm planned (intentReservationArgs row order)))
      (fun reply w => (reply ≠ .error .handoffFenced ∧
        Held worker (.native job.intent) .untouched w) ∧ Handling job.intent token w) := by
    refine triple_handling _ acts (triple_act _ acts ?_)
      (fun choice w w' reply ran => reserve_intents planned _ choice w w' reply ran)
    intro w choice w' reply sound held _ ran touches
    refine ⟨?_, held_touched held touches (reserved_untouched (.native job.intent) planned _ drawn
      ⟨rfl, rfl⟩ choice w w' reply ran held.holds)⟩
    rcases refusable_ends _ _ _ _ _ ran with ⟨_, refusal, rfl⟩ | ⟨_, error, rfl, cause⟩ |
      ⟨value, _, cause⟩
    · exact fun fenced => (refusal_refused refusal).1 (Except.error.inj fenced)
    · intro fenced
      cases fenced
      rcases cause with absurd | aborted
      · cases absurd
      · exact insert_unfenced planned _ _ _ (onStore_error _ _ _ aborted) rfl
    · rcases cause with rfl | rfl <;> simp
  refine triple_bind (triple_attempt reserving) (fun outcome => ?_)
    (fun _ _ _ absurd => by obtain ⟨_, same, _⟩ := absurd; cases same)
  intro w sound reached
  obtain ⟨inner, same, ⟨unfenced, held⟩, handling⟩ := reached
  obtain rfl := Except.ok.inj same
  have running : Running worker job.intent token .untouched w := ⟨held, handling⟩
  cases outcome with
  | ok value => exact running
  | error error =>
    cases error with
    | accountDisabled | runtime => exact triple_refundRunning _ _ w sound running
    | handoffFenced => exact absurd rfl unfenced
    | _ => exact ⟨by simp, Or.inl held⟩

theorem triple_bestEffort
    (view : OwnView worker (.native intent) assertion) (request : CheckoutReq Unit)
    (quiet : Quiet request) :
    CheckoutTriple worker assertion (bestEffort (ask request))
      (outcome (fun _ => assertion) (fun _ _ => False)) :=
  triple_rescue (triple_calm view request quiet) (fun _ _ _ holds => holds)
    fun _ => triple_ret _ fun _ _ holds => holds

theorem triple_claimIntentDomain (job : Handoff.Worker) (row : CryptoIntentRow)
    (order : VMCreateRequest) (planned : VmId) (own : job.intent = intent) :
    RunningTriple worker intent token .untouched (claimIntentDomain job row order planned)
      (outcome (Decided worker intent token) (Stopped worker intent)) := by
  obtain rfl := own
  simp only [claimIntentDomain]
  split
  · rename_i owner fqdn _ _ _
    refine triple_bind (triple_attempt (triple_calm running_view
        (.claimVmAttachment owner fqdn planned) trivial)) (fun result => ?_)
      (fun _ _ _ absurd => by obtain ⟨_, same, _⟩ := absurd; cases same)
    intro w sound reached
    obtain ⟨_, _, running⟩ := reached
    cases result with
    | ok value => exact running
    | error error =>
      exact triple_bind (triple_bestEffort running_view (.releaseVmReservation planned) trivial)
        (fun _ => triple_refundRunning _ _) (fun _ _ _ absurd => absurd.elim) w sound running
  · exact triple_ret _ fun _ _ running => running

theorem intent_attributable (row : CryptoIntentRow) (job : Handoff.Worker) :
    Attributable (.intent job.intent) (some (intentActivateArgs job row).ownerWallet)
      (intentActivateArgs job row).paymentTx := native_attributable job.intent row.txHash

theorem intent_pays (row : CryptoIntentRow) (job : Handoff.Worker) :
    PaysAs (.native job.intent) (intentActivateArgs job row).ownerWallet
      (intentActivateArgs job row).paymentTx := by
  intro vm owner _
  simp [VMRow.paidBy, owner, intentActivateArgs]

theorem released_fails (vm : VmId) (choice : CheckoutChoice) (w w' : World) (error : Err)
    (ran : (CheckoutReq.releaseVmReservation vm).exec choice w = some (w', .error error)) :
    error ≠ .handoffFenced := by
  rw [committed_error _ choice w w' error (fun error failed => ?_) ran]
  · simp
  · have failed := onStore_error _ _ _ failed
    simp only [HyruleCloud.releaseVmReservation] at failed
    split at failed
    · cases failed
    · split at failed <;> cases failed

theorem triple_giveBack {post : Except Err Verdict → World → Prop} (claimedDomain : Bool)
    (planned : VmId) (rest : Checkout Verdict)
    (next : RunningTriple worker intent token .untouched rest post)
    (failed : ∀ error w, Stopped worker intent error w → post (.error error) w) :
    RunningTriple worker intent token .untouched
      (do releaseClaimedDomain claimedDomain planned
          ask (.releaseVmReservation planned)
          rest) post := by
  have release : RunningTriple worker intent token .untouched
      (ask (.releaseVmReservation planned) >>= fun _ => rest) post :=
    triple_aside (.releaseVmReservation planned) trivial _
      (fun choice w w' error ran => released_fails planned choice w w' error ran) (fun _ => next)
      failed
  cases claimedDomain with
  | false => exact release
  | true =>
    refine triple_aside (.releaseVmAttachmentClaim planned) trivial _
      (fun choice w w' error ran => ?_) (fun _ => release) failed
    rw [committed_error _ choice w w' error (fun error failed => ?_) ran]
    · simp
    · have failed := onStore_error _ _ _ failed
      cases failed

/-- The payment stands at the planned row, or a stage has refunded it. -/
def Delivering (worker : Nat) (intent : IntentId) (token : Time) (planned : VmId)
    (verdict : Verdict) (w : World) : Prop :=
  match verdict with
  | .proceed => Running worker intent token (.bound planned) w
  | .refunded => Held worker (.native intent) .refunded w

/-- A failure of the delivery, before or after the row was paid for. -/
def Interrupted (worker : Nat) (intent : IntentId) (planned : VmId) (error : Err) (w : World) :
    Prop :=
  Stopped worker intent error w ∨
    error ≠ .handoffFenced ∧ Held worker (.native intent) (.bound planned) w

theorem triple_activateIntentVm (job : Handoff.Worker) (row : CryptoIntentRow) (planned : VmId)
    (claimedDomain : Bool) (own : job.intent = intent) (drawn : planned.drawer = .intent intent) :
    RunningTriple worker intent token .untouched (activateIntentVm job row planned claimedDomain)
      (outcome (Delivering worker intent token planned) (Interrupted worker intent planned)) := by
  obtain rfl := own
  have activating : CheckoutTriple worker (Running worker job.intent token .untouched)
      (ask (.activateVmReservation planned (intentActivateArgs job row) false)) _ :=
    triple_handling _ ⟨drawn, intent_attributable row job⟩
      (triple_activate planned (intentActivateArgs job row) drawn (intent_attributable row job)
        (intent_pays row job))
      (fun choice w w' reply ran => activate_intents planned _ _ choice w w' reply ran)
  refine triple_bind (triple_attempt activating) (fun result => ?_)
    (fun _ _ _ absurd => by obtain ⟨_, same, _⟩ := absurd; cases same)
  intro w sound reached
  obtain ⟨inner, same, reached, handling⟩ := reached
  obtain rfl := Except.ok.inj same
  cases result with
  | ok taken =>
    cases taken with
    | true => exact ⟨reached, handling⟩
    | false => exact Or.inl ⟨by simp, Or.inl reached⟩
  | error error =>
    obtain ⟨refused, position⟩ := reached
    have other : Interrupted worker job.intent planned error w := by
      rcases position with untouched | ⟨_, bound⟩
      · exact Or.inl ⟨refused.1, Or.inl untouched⟩
      · exact Or.inr ⟨refused.1, bound⟩
    cases error with
    | accountDisabled =>
      rcases position with untouched | ⟨absurd, _⟩
      · have running : Running worker job.intent token .untouched w := ⟨untouched, handling⟩
        refine triple_giveBack claimedDomain planned _ ?_ (fun _ _ stopped => Or.inl stopped)
          w sound running
        refine triple_weaken (triple_refundAndStop _ _) (fun _ _ running => running.held) ?_
        intro result w _ holds
        cases result with
        | ok verdict =>
          obtain ⟨rfl, held⟩ := holds
          exact held
        | error error => exact Or.inl holds
      · cases absurd
    | _ => exact other

theorem triple_writePrice (row : CryptoIntentRow) (planned : VmId)
    (drawn : planned.drawer = .intent intent) :
    RunningTriple worker intent token (.bound planned) (writePrice row planned)
      (outcome (fun _ => Running worker intent token (.bound planned)) (fun _ _ => False)) := by
  simp only [writePrice]
  cases row.amountUsd with
  | none => exact triple_ret _ fun _ _ running => running
  | some amount =>
    refine triple_retry_keeps 3 (triple_weaken (triple_handling
      (.persistChargedAmount planned amount) drawn
      (triple_persistChargedAmount planned amount drawn) ?_) (fun _ _ running => running)
      (fun _ _ _ result => ⟨result.1, result.2⟩))
    intro choice w w' reply ran
    refine session_intents _ w w' reply (fun s s' _ done => ?_) (committed_ends _ _ _ _ _ ran)
    rcases repriced planned amount done with rfl | ⟨row, _, rfl⟩ <;> rfl

theorem triple_writeLink (order : VMCreateRequest) (planned : VmId) :
    RunningTriple worker intent token (.bound planned) (writeLink order planned)
      (outcome (fun _ => Running worker intent token (.bound planned)) (fun _ _ => False)) := by
  simp only [writeLink]
  cases order.quoteId with
  | none => exact triple_ret _ fun _ _ running => running
  | some quoteId => exact triple_retry_keeps 3 (triple_calm running_view _ trivial)

theorem triple_markProvisioned (planned : VmId) (drawn : planned.drawer = .intent intent) :
    RunningTriple worker intent token (.bound planned) (ask (.markProvisioned intent token planned))
      (outcome (fun _ => Held worker (.native intent) (.bound planned))
        (fun error w => error = .database ∧ Held worker (.native intent) (.bound planned) w)) := by
  refine triple_own running_view _ ⟨rfl, drawn⟩ ?_
  intro w choice w' reply sound running _ ran touches
  obtain ⟨row, present, holds⟩ := running.handling
  rcases committed_ends _ _ _ _ _ ran with ⟨rfl, error, rfl, cause⟩ | ⟨value, done, cause⟩
  · rcases cause with rfl | aborted
    · exact ⟨rfl, running.held⟩
    · have aborted := onStore_error _ _ _ aborted
      simp [HyruleCloud.markProvisioned, present, holds] at aborted
  · obtain ⟨inner, _⟩ := onStore_ok _ _ _ _ done
    simp only [HyruleCloud.markProvisioned, present, holds, ↓reduceIte, Except.ok.injEq,
      Prod.mk.injEq] at inner
    have moved : Held worker (.native intent) (.bound planned) w' :=
      held_touched running.held touches
        (position_columns _ (by rw [← inner.1]) (by rw [← inner.1]) running.held.holds)
    rcases cause with rfl | rfl
    · exact moved
    · exact ⟨rfl, moved⟩

section
variable (job : Handoff.Worker) (row : CryptoIntentRow) (order : VMCreateRequest) (planned : VmId)
  (own : job.intent = intent) (drawn : planned.drawer = .intent intent)
include own drawn

theorem triple_deliverIntentVm :
    RunningTriple worker intent token (.bound planned) (deliverIntentVm job row order token planned)
      (outcome (fun _ => Held worker (.native intent) (.bound planned))
        (Interrupted worker intent planned)) := by
  obtain rfl := own
  refine triple_bind (triple_writePrice row planned drawn) (fun _ => ?_)
    (fun _ _ _ absurd => absurd.elim)
  refine triple_bind (triple_writeLink order planned) (fun _ => ?_)
    (fun _ _ _ absurd => absurd.elim)
  have starting : CheckoutTriple worker
      (Held worker (.native job.intent) (.bound planned)) (ask (.startProvisioning planned)) _ :=
    triple_startProvisioning planned drawn
  refine triple_bind (triple_markProvisioned planned drawn) (fun _ => ?_) ?_
  · refine triple_weaken starting (fun _ _ held => held) ?_
    intro result w _ holds
    cases result with
    | ok value => exact holds
    | error error =>
      obtain ⟨rfl, held⟩ := holds
      exact Or.inr ⟨by simp, held⟩
  · rintro error w _ ⟨rfl, held⟩
    exact Or.inr ⟨by simp, held⟩

theorem triple_finishIntentVm :
    RunningTriple worker intent token .untouched (finishIntentVm job row order token planned)
      (outcome (fun _ => Closed worker (.native intent)) (Interrupted worker intent planned)) := by
  obtain rfl := own
  have rest (claimedDomain : Bool) (next : Verdict → Checkout Unit)
      (refunded : next .refunded = pure ())
      (proceeds : next .proceed = do
        ask (.requireCurrentVmHandoff job.intent token)
        deliverIntentVm job row order token planned) :
      CheckoutTriple worker (Running worker job.intent token .untouched)
        (do next (← activateIntentVm job row planned claimedDomain))
        (outcome (fun _ => Closed worker (.native job.intent))
          (Interrupted worker job.intent planned)) := by
    refine triple_then (triple_activateIntentVm job row planned _ rfl drawn) fun verdict => ?_
    cases verdict with
    | refunded =>
      rw [refunded]
      exact triple_ret _ fun _ _ held => Or.inl held
    | proceed =>
      rw [proceeds]
      refine triple_bind triple_requireCurrent (fun _ => ?_) ?_
      · refine triple_weaken (triple_deliverIntentVm job row order planned rfl drawn)
          (fun _ _ running => running) ?_
        intro result w _ holds
        cases result with
        | ok value => exact Or.inr ⟨planned, holds⟩
        | error error => exact holds
      · rintro error w _ ⟨rfl, running⟩
        exact Or.inr ⟨by simp, running.held⟩
  simp only [finishIntentVm, fenceClaim]
  cases order.domainMode == .custom with
  | false => exact rest false _ rfl rfl
  | true => exact triple_fence _ (rest true _ rfl rfl) fun _ stopped => Or.inl stopped

end

theorem triple_cleanupCandidate (vm : Option VmId) (claimedDomain : Bool)
    (drawn : ∀ planned, vm = some planned → planned.drawer = .intent intent)
    (covered : position = .refunded ∨ ∃ planned, vm = some planned ∧ position = .boundOwed planned) :
    CheckoutTriple worker (Held worker (.native intent) position)
      (cleanupCandidate vm claimedDomain)
      (fun _ => Held worker (.native intent) .refunded) := by
  cases vm with
  | none =>
    rcases covered with rfl | ⟨planned, absurd, _⟩
    · exact triple_ret _ fun _ _ held => held
    · cases absurd
  | some planned =>
    have own := drawn planned rfl
    have covered : position = .refunded ∨ position = .boundOwed planned := by
      rcases covered with rfl | ⟨other, same, rfl⟩
      · exact Or.inl rfl
      · cases same
        exact Or.inr rfl
    have failing : CheckoutTriple worker
        (Held worker (.native intent) position) (bestEffort (ask (.markVmFailed planned)))
        (outcome (fun _ => Held worker (.native intent) .refunded) (fun _ _ => False)) :=
      triple_rescue (triple_markVmFailed planned own covered) (fun _ _ _ held => held)
        fun _ => triple_ret _ fun _ _ held => held
    have releasing : CheckoutTriple worker (Held worker (.native intent) .refunded)
        (bestEffort (releaseClaimedDomain claimedDomain planned))
        (outcome (fun _ => Held worker (.native intent) .refunded) (fun _ _ => False)) := by
      cases claimedDomain with
      | false => exact triple_ret _ fun _ _ held => held
      | true => exact triple_bestEffort held_view (.releaseVmAttachmentClaim planned) trivial
    refine triple_bind (triple_bestEffort held_view (.releaseVmReservation planned) trivial)
      (fun _ => ?_) (fun _ _ _ absurd => absurd.elim)
    refine triple_bind failing (fun _ => ?_) (fun _ _ _ absurd => absurd.elim)
    refine triple_weaken releasing (fun _ _ held => held) (fun result _ _ holds => ?_)
    cases result with
    | ok value => exact holds
    | error error => exact holds.elim

section
variable (job : Handoff.Worker) (progress : Progress) (error : Err)

theorem triple_handoffFailed (own : job.intent = intent) (unfenced : error ≠ .handoffFenced)
    (drawn : ∀ planned, progress.planned = some planned → planned.drawer = .intent intent)
    (covered : position = .untouched ∨ position = .refunded ∨ ∃ planned,
      progress.planned = some planned ∧ progress.reserved = true ∧ position = .bound planned) :
    CheckoutTriple worker (Held worker (.native intent) position)
      (handoffFailed job progress error) (fun _ => Closed worker (.native intent)) := by
  obtain rfl := own
  have general : CheckoutTriple worker (Held worker (.native job.intent) position)
      ((refundIntent job.intent "provisioning_failed" progress.planned).rescue (fun _ =>
          ask (.setIntentStatus job.intent .failed)) >>= fun _ =>
        cleanupCandidate (if progress.reserved then progress.planned else none)
          progress.claimedDomain)
      (fun _ => Closed worker (.native job.intent)) := by
    have refunding : CheckoutTriple worker (Held worker (.native job.intent) position)
        ((refundIntent job.intent "provisioning_failed" progress.planned).rescue (fun _ =>
          ask (.setIntentStatus job.intent .failed)))
        (outcome (fun _ => Held worker (.native job.intent) position.owe) (fun _ _ => False)) := by
      refine triple_rescue (triple_refundIntent _ _) (fun _ _ _ held => held) (fun error => ?_)
      rintro w _ ⟨_, absurd, _⟩
      exact (absurd rfl).elim
    refine triple_bind refunding (fun _ => ?_) (fun _ _ _ absurd => absurd.elim)
    refine triple_weaken (triple_cleanupCandidate _ progress.claimedDomain ?_ ?_)
      (fun _ _ held => held) (fun _ _ _ held => Or.inl held)
    · intro planned found
      split at found
      · exact drawn planned found
      · cases found
    · rcases covered with rfl | rfl | ⟨planned, found, taken, rfl⟩
      · exact Or.inl rfl
      · exact Or.inl rfl
      · exact Or.inr ⟨planned, by simp [taken, found], rfl⟩
  cases error with
  | handoffFenced => exact absurd rfl unfenced
  | _ => exact general

theorem triple_stopped (own : job.intent = intent)
    (drawn : ∀ planned, progress.planned = some planned → planned.drawer = .intent intent) :
    CheckoutTriple worker (Stopped worker intent error)
      (handoffFailed job progress error) (fun _ => Closed worker (.native intent)) := by
  rintro w sound ⟨unfenced, untouched | refunded⟩
  · exact triple_handoffFailed job progress error own unfenced drawn (Or.inl rfl) w sound untouched
  · exact triple_handoffFailed job progress error own unfenced drawn (Or.inr (Or.inl rfl)) w sound
      refunded

theorem triple_interrupted
    (planned : VmId) (own : job.intent = intent) (drawn : planned.drawer = .intent intent)
    (known : progress.planned = some planned) (taken : progress.reserved = true) :
    CheckoutTriple worker (Interrupted worker intent planned error)
      (handoffFailed job progress error) (fun _ => Closed worker (.native intent)) := by
  have drawn : ∀ other, progress.planned = some other → other.drawer = .intent intent := by
    intro other found
    rw [known] at found
    cases found
    exact drawn
  rintro w sound (stopped | ⟨unfenced, bound⟩)
  · exact triple_stopped job progress error own drawn w sound stopped
  · exact triple_handoffFailed job progress error own unfenced drawn
      (Or.inr (Or.inr ⟨planned, known, taken, rfl⟩)) w sound bound

end

theorem triple_guardedStep {post : α → World → Prop}
    {failing : Err → World → Prop} (job : Handoff.Worker) (progress : Progress)
    (step : Checkout α)
    (spec : CheckoutTriple worker assertion step (outcome post failing))
    (handled : ∀ error, CheckoutTriple worker (failing error)
      (handoffFailed job progress error) (fun _ => Closed worker (.native intent))) :
    CheckoutTriple worker assertion (guardedStep job progress step)
      (outcome (fun result w => match result with
        | some value => post value w
        | none => Closed worker (.native intent) w) (fun _ => Closed worker (.native intent))) := by
  refine triple_bind (triple_attempt spec) (fun result => ?_)
    (fun _ _ _ absurd => by obtain ⟨_, same, _⟩ := absurd; cases same)
  intro w sound reached
  obtain ⟨inner, same, reached⟩ := reached
  obtain rfl := Except.ok.inj same
  cases result with
  | ok value => exact reached
  | error error =>
    exact triple_bind (handled error) (fun _ => triple_ret _ fun _ _ closed => closed)
      (fun _ _ _ closed => closed) w sound reached

section
variable (job : Handoff.Worker) (row : CryptoIntentRow)

theorem triple_planIntentVm (own : job.intent = intent)
    (drawn : ∀ vm, row.vmId = some vm → vm.drawer = .intent intent) :
    RunningTriple worker intent token .untouched (planIntentVm job row)
      (outcome (fun plan w => plan.2.drawer = .intent intent ∧
        Running worker intent token .untouched w) (Stopped worker intent)) := by
  obtain rfl := own
  simp only [planIntentVm]
  split
  · rename_i order planned _ found
    exact triple_ret _ fun _ _ running => ⟨drawn planned found, running⟩
  · rename_i order _ _
    have persisting : CheckoutTriple worker (Running worker job.intent token .untouched)
        (ask (.persistPlannedVmId job.intent (plannedId job.intent)))
        (outcome (fun planned w => planned.drawer = .intent job.intent ∧
          Running worker job.intent token .untouched w) (Stopped worker job.intent)) := by
      refine triple_own running_view _ ⟨rfl, rfl⟩ ?_
      intro w choice w' reply sound running _ ran touches
      obtain ⟨found, present, holds⟩ := running.handling
      rcases committed_ends _ _ _ _ _ ran with ⟨rfl, error, rfl, cause⟩ | ⟨value, done, cause⟩
      · refine ⟨?_, Or.inl running.held⟩
        rcases cause with rfl | aborted
        · simp
        · have aborted := onStore_error _ _ _ aborted
          simp only [HyruleCloud.persistPlannedVmId, present] at aborted
          split at aborted <;> cases aborted
      · obtain ⟨inner, _⟩ := onStore_ok _ _ _ _ done
        have result : value.drawer = .intent job.intent ∧
            Running worker job.intent token .untouched w' := by
          simp only [HyruleCloud.persistPlannedVmId, present] at inner
          split at inner
          · rename_i planned kept
            obtain ⟨same, rfl⟩ := Prod.mk.inj (Except.ok.inj inner)
            exact ⟨(sound.intents _ found present).planned planned kept,
              held_touched running.held touches (position_columns _ (by rw [same]) (by rw [same])
                running.held.holds),
              found, by rw [← same]; exact present, holds⟩
          · obtain ⟨same, rfl⟩ := Prod.mk.inj (Except.ok.inj inner)
            exact ⟨rfl, held_touched running.held touches (position_columns _ (by rw [← same])
                (by rw [← same]) running.held.holds),
              { found with vmId := some (plannedId job.intent) }, by rw [← same]; simp, holds⟩
        rcases cause with rfl | rfl
        · exact result
        · exact database_stopped w' result.2.held
    exact triple_then persisting fun planned => triple_ret _ fun _ _ holds => holds
  · exact triple_raise _ fun _ _ running => ⟨by simp, Or.inl running.held⟩

theorem triple_admitIntentVm (order : VMCreateRequest) (planned : VmId) (own : job.intent = intent)
    (drawn : planned.drawer = .intent intent) :
    RunningTriple worker intent token .untouched (admitIntentVm job row order token planned)
      (outcome (Decided worker intent token) (Stopped worker intent)) := by
  obtain rfl := own
  refine triple_fence _ (triple_then (triple_claimIntentQuote job row order rfl)
    fun verdict => ?_) (fun _ stopped => stopped)
  cases verdict with
  | refunded => exact triple_ret _ fun _ _ held => held
  | proceed =>
    dsimp only
    split
    · exact triple_refundRunning _ _
    · exact triple_fence _ (triple_reserveIntentVm job row order planned rfl drawn)
        (fun _ stopped => stopped)

theorem triple_attachIntentDomain
    (order : VMCreateRequest) (planned : VmId) (own : job.intent = intent) :
    RunningTriple worker intent token .untouched (attachIntentDomain job row order token planned)
      (outcome (Decided worker intent token) (Stopped worker intent)) := by
  obtain rfl := own
  exact triple_fence _ (triple_claimIntentDomain job row order planned rfl)
    (fun _ stopped => stopped)

theorem triple_vmHandoff (own : job.intent = intent)
    (drawn : ∀ vm, row.vmId = some vm → vm.drawer = .intent intent) :
    RunningTriple worker intent token .untouched
      (vmHandoff job row token) (fun _ => Closed worker (.native intent)) := by
  have closed : ∀ {α : Type} (value : α), CheckoutTriple worker
      (Closed worker (.native intent)) (.ret value : Checkout α)
      (fun _ => Closed worker (.native intent)) :=
    fun value => triple_ret value fun _ _ holds => holds
  refine triple_bind (triple_guardedStep job {} _ (triple_planIntentVm job row own drawn)
    fun error => triple_stopped job {} error own (by simp)) (fun plan => ?_)
    (fun _ _ _ holds => holds)
  cases plan with
  | none => exact closed ()
  | some plan =>
    obtain ⟨order, planned⟩ := plan
    refine triple_fact fun drawn => ?_
    have only : ∀ other, some planned = some other → other.drawer = .intent intent := by
      intro other same
      cases same
      exact drawn
    refine triple_bind (triple_guardedStep job _ _
      (triple_admitIntentVm job row order planned own drawn)
      fun error => triple_stopped job _ error own only) (fun verdict => ?_)
      (fun _ _ _ holds => holds)
    match verdict with
    | none => exact closed ()
    | some .refunded => exact triple_ret () fun _ _ held => Or.inl held
    | some .proceed =>
      refine triple_bind (triple_guardedStep job _ _
        (triple_attachIntentDomain job row order planned own)
        fun error => triple_stopped job _ error own only) (fun verdict => ?_)
        (fun _ _ _ holds => holds)
      match verdict with
      | none => exact closed ()
      | some .refunded => exact triple_ret () fun _ _ held => Or.inl held
      | some .proceed =>
        refine triple_bind (triple_guardedStep job _ _
          (triple_finishIntentVm job row order planned own drawn)
          fun error => triple_interrupted job _ error planned own drawn rfl rfl)
          (fun result => ?_) (fun _ _ _ holds => holds)
        cases result with
        | none | some => exact closed ()

end

end Intent

end HyruleCloud
