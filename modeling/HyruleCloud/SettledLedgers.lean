import HyruleCloud.GateAgreement

/-!
When the ledger of a request says that its payment is settled. The work before the settlement
never writes that. `check_payment` writes it exactly where the facilitator settles and the
receipt is encoded, and then accepts the payment; `settle_verified` only where it returns
`True`.
-/

namespace HyruleCloud.PaymentGates

open AdminWaivers

def Unsettled (state : GateState) : Prop := ∀ event ∈ state.ledger, event.eventType ≠ .settled

theorem unsettled_fresh : Unsettled {} := fun _ among => nomatch among

def SettlesOnly {α : Type} (accepts : α → Prop) (work : GateM α) : Prop :=
  ∀ state, Unsettled state → Unsettled (Gate.perform work state).2 ∨
    ∃ value, (Gate.perform work state).1 = .ok value ∧ accepts value

def SettlesNothing {α : Type} (work : GateM α) : Prop := SettlesOnly (fun _ => False) work

namespace SettlesOnly

variable {α β : Type} {accepts : β → Prop}

theorem of_nothing {work : GateM β} (nothing : SettlesNothing work) : SettlesOnly accepts work := by
  intro state unsettled
  rcases nothing state unsettled with kept | ⟨_, _, never⟩
  · exact .inl kept
  · exact never.elim

variable {work : GateM α} {next : α → GateM β}

theorem nothing_kept (nothing : SettlesNothing work) {state : GateState}
    (unsettled : Unsettled state) : Unsettled (Gate.perform work state).2 := by
  rcases nothing state unsettled with kept | ⟨_, _, never⟩
  · exact kept
  · exact never.elim

theorem of_pure (value : α) : SettlesNothing (pure value : GateM α) :=
  fun _ unsettled => .inl unsettled

theorem of_throw (error : Raised) : SettlesNothing (throw error : GateM α) :=
  fun _ unsettled => .inl unsettled

theorem of_stopped (error : Raised) : SettlesOnly accepts ((throw error : GateM α) >>= next) :=
  fun _ unsettled => .inl unsettled

theorem of_bind (first : SettlesNothing work) (later : ∀ value, SettlesOnly accepts (next value)) :
    SettlesOnly accepts (work >>= next) := by
  intro state unsettled
  have kept := nothing_kept first unsettled
  rw [Gate.perform_bind]
  rcases perform : Gate.perform work state with ⟨error | value, after⟩
  · rw [perform] at kept
    exact .inl kept
  · rw [perform] at kept
    exact later value after kept

theorem of_accepted {first : α → Prop} (settles : SettlesOnly first work)
    (later : ∀ value, SettlesNothing (next value)) (ends : ∀ value, first value → ∀ state,
      ∃ ended, (Gate.perform (next value) state).1 = .ok ended ∧ accepts ended) :
    SettlesOnly accepts (work >>= next) := by
  intro state unsettled
  have known := settles state unsettled
  rw [Gate.perform_bind]
  rcases performed : Gate.perform work state with ⟨error | value, after⟩
  · rw [performed] at known
    rcases known with kept | ⟨_, impossible, _⟩
    · exact .inl kept
    · cases impossible
  · rw [performed] at known
    rcases known with kept | ⟨_, same, accepted⟩
    · exact .inl (nothing_kept (later value) kept)
    · cases same
      exact .inr (ends value accepted after)

theorem of_called {outcome : Option α}
    (later : ∀ value, outcome = some value → SettlesOnly accepts (next value)) :
    SettlesOnly accepts (called outcome >>= next) := by
  cases outcome with
  | none => exact of_stopped _
  | some value => exact later value rfl

theorem of_answered (outcome : Except Raised α) : SettlesNothing (answered outcome) := by
  cases outcome with
  | error error => exact of_throw error
  | ok value => exact of_pure value

theorem of_record {event : GateEvent} (other : event.eventType ≠ .settled) :
    SettlesNothing (record event) := by
  intro state unsettled
  left
  intro written among
  rcases List.mem_append.mp among with before | only
  · exact unsettled written before
  · rw [List.mem_singleton.mp only]
    exact other

theorem of_modify {change : GateState → GateState}
    (same : ∀ state, (change state).ledger = state.ledger) :
    SettlesNothing (modify change : GateM PUnit) := by
  intro state unsettled
  left
  intro written among
  exact unsettled written (same state ▸ among)

theorem of_attempt {work : GateM (GateResponse ⊕ α)} (nothing : SettlesNothing work) :
    SettlesNothing (Gate.attempt work) := by
  intro state unsettled
  left
  rw [Gate.perform_attempt]
  have kept := nothing_kept nothing unsettled
  rcases performed : Gate.perform work state with ⟨_ | _, after⟩ <;>
    rw [performed] at kept <;> exact kept

end SettlesOnly

namespace Gate

variable (gate : Gate)

open SettlesOnly

theorem required_nothing (requirements : List PaymentRequirements) (error : Option String) :
    SettlesNothing (gate.paymentRequiredResponse requirements error) :=
  of_called fun _ _ => of_pure _

theorem refuse_nothing (requirements : List PaymentRequirements) {event : GateEvent}
    (error : String) (other : event.eventType ≠ .settled) :
    SettlesNothing (gate.refuseVerification requirements event error) :=
  of_bind (of_record other) fun _ => gate.required_nothing requirements _

theorem challenge_nothing : SettlesNothing gate.build402Response := by
  unfold build402Response
  split
  · exact of_pure _
  split
  · exact of_pure _
  · split
    · exact of_pure _
    · exact gate.required_nothing _ _

theorem bypass_nothing (context : BypassContext) : SettlesNothing (gate.applyAdminBypass context) := by
  refine of_bind (of_answered _) fun live => ?_
  dsimp only
  split
  · exact of_stopped _
  refine of_bind (of_answered _) fun _ => ?_
  split
  · exact of_stopped _
  · refine of_bind (of_record nofun) fun _ => ?_
    exact of_bind (of_modify fun _ => rfl) fun _ => of_pure _

theorem signed_settles {α : Type} {accepts : GateResponse ⊕ α → Prop}
    {next : SignedPayment → GateM (GateResponse ⊕ α)}
    (later : ∀ signed, SettlesOnly accepts (next signed)) :
    SettlesOnly accepts (gate.signedWork next) := by
  refine of_called fun requirements _ => ?_
  have refused {event : GateEvent} {error : String} (other : event.eventType ≠ .settled) :
      SettlesOnly accepts (do return .inl (← gate.refuseVerification requirements event error)) :=
    of_bind (gate.refuse_nothing requirements error other) fun _ => of_nothing (of_pure _)
  split
  · exact refused nofun
  · exact refused nofun
  · refine of_called fun matching _ => ?_
    split
    · exact refused nofun
    refine of_called fun verification _ => ?_
    split
    · exact refused nofun
    · exact later _

theorem unsigned_settles {α : Type} {accepts : GateResponse ⊕ α → Prop}
    {next : String → GateM (GateResponse ⊕ α)} (later : ∀ payer, SettlesNothing (next payer)) :
    SettlesOnly accepts (do
      match ← answered gate.admin.context with
      | some context => next (← gate.applyAdminBypass context)
      | none =>
        let response ← gate.build402Response
        if response.statusCode = 402 then
          record { eventType := .required402, amount := gate.amount }
        return .inl response) := by
  refine of_bind (of_answered _) fun context => ?_
  split
  · exact of_bind (gate.bypass_nothing _) fun payer => of_nothing (later payer)
  refine of_bind gate.challenge_nothing fun response => of_nothing ?_
  split
  · exact of_bind (of_record nofun) fun _ => of_pure _
  · exact of_pure _

theorem screen_nothing : SettlesNothing gate.screen := by
  unfold screen
  split
  · exact of_pure _
  split
  · exact gate.unsigned_settles fun _ => of_pure _
  split
  · exact of_pure _
  have signed : SettlesNothing gate.screenSigned := gate.signed_settles fun _ => of_pure _
  refine of_bind (of_attempt signed) fun screened => ?_
  split
  · exact of_pure _
  · exact of_pure _

theorem verifyOnly_nothing : SettlesNothing gate.verifyOnly := by
  intro state unsettled
  left
  have kept := nothing_kept gate.screen_nothing unsettled
  rw [verifyOnly_screen]
  rcases screened : perform gate.screen state with ⟨_ | _ | passed, after⟩ <;>
    rw [screened] at kept <;> exact kept

/-- The request comes to a settlement, which succeeds and has a receipt. -/
def Settles : Prop :=
  ∃ signed settlement header, gate.ReachesSettlement signed ∧
    gate.sdk.settlePayment signed.payload signed.matching = some settlement ∧
    gate.sdk.encodeResponseHeader settlement = some header ∧ settlement.success = true

theorem check_pays (settles : gate.Settles) :
    ∃ payer after, perform gate.checkPayment {} = (.ok (.inr payer), after) ∧ ¬ Unsettled after := by
  obtain ⟨signed, settlement, header, reaches, settled, encoded, succeeded⟩ := settles
  have observes := check_settled settled encoded succeeded
  rw [← reaches_check reaches] at observes
  have accepted := congrArg Observation.payer observes
  have written := congrArg Observation.ledger observes
  unfold observe observed at accepted written
  rcases checked : perform gate.checkPayment {} with ⟨_ | _ | payer, after⟩
  · rw [checked] at accepted
    cases accepted
  · rw [checked] at accepted
    cases accepted
  · rw [checked] at written
    dsimp only at written
    refine ⟨payer, after, rfl, fun unsettled => ?_⟩
    unfold Unsettled at unsettled
    rw [written] at unsettled
    exact unsettled _ (List.mem_singleton_self _) rfl

theorem check_keeps (unsettled : ¬ gate.Settles) : Unsettled (perform gate.checkPayment {}).2 := by
  have kept := nothing_kept gate.screen_nothing unsettled_fresh
  rw [checkPayment_screen]
  rcases screened : perform gate.screen {} with ⟨_ | _ | passed, after⟩
  · rw [screened] at kept
    exact kept
  · rw [screened] at kept
    exact kept
  · rw [screened] at kept
    have reaches := screen_passed screened
    cases passed with
    | devBypass =>
      have written : SettlesNothing (gate.finishCheck .devBypass) := by
        refine of_bind (of_modify fun _ => rfl) fun _ => ?_
        exact of_bind (of_record nofun) fun _ => of_pure _
      exact nothing_kept written kept
    | adminBypass payer => exact kept
    | payment signed =>
      have written : SettlesNothing (gate.settleChecked signed) := by
        refine of_called fun settlement settled => ?_
        refine of_called fun header encoded => ?_
        split
        · exact of_bind (of_record nofun) fun _ => of_pure _
        · case isFalse succeeded =>
          exact (unsettled ⟨signed, settlement, header, reaches.1, settled, encoded,
            by simpa using succeeded⟩).elim
      exact nothing_kept (of_attempt written) kept

theorem settleVerified_settles (verified : VerifiedPayment) :
    SettlesOnly (· = true) (gate.settleVerified verified) := by
  unfold settleVerified
  split
  · refine of_bind (of_modify fun _ => rfl) fun _ => ?_
    exact of_bind (of_record nofun) fun _ => of_nothing (of_pure _)
  · exact of_nothing (of_pure _)
  · refine of_bind (of_modify fun _ => rfl) fun _ => ?_
    split
    · refine of_bind (of_modify fun _ => rfl) fun _ => ?_
      exact of_bind (of_record nofun) fun _ => of_nothing (of_pure _)
    · refine of_called fun settlementHeader _ => ?_
      refine of_bind (of_modify fun _ => rfl) fun _ => ?_
      split
      · refine of_bind (of_modify fun _ => rfl) fun _ => ?_
        exact of_bind (of_record nofun) fun _ => of_nothing (of_pure _)
      · intro state _
        exact .inr ⟨true, rfl, rfl⟩

end Gate

end HyruleCloud.PaymentGates
