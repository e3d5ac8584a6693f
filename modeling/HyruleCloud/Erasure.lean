import HyruleCloud.Protocol

/-!
Runs that an observer cannot tell apart. `state` and `action` erase what the observer does not
see. If the erasure of a step depends on erased data only, so does that of a run.
-/

namespace Interaction.Protocol

variable {σ α : Type} (P : Protocol σ α) {state : σ → σ} {action : α → α}

def Erases (state : σ → σ) (action : α → α) : Prop :=
  ∀ a s, state (P.step a s) = state (P.step (action a) (state s))

theorem step_erased (erases : P.Erases state action) {a b : α} {s t : σ}
    (actions : action a = action b) (states : state s = state t) :
    state (P.step a s) = state (P.step b t) := by
  rw [erases a s, erases b t, actions, states]

theorem run_erased (erases : P.Erases state action) (first second : List α) (s t : σ)
    (actions : first.map action = second.map action) (states : state s = state t) :
    state (P.run s first) = state (P.run t second) := by
  induction first generalizing second s t with
  | nil => cases second with
      | nil => exact states
      | cons b rest => cases actions
  | cons a first ih => cases second with
      | nil => cases actions
      | cons b second =>
        obtain ⟨same, rest⟩ := List.cons.inj actions
        exact ih second _ _ rest (P.step_erased erases same states)

end Interaction.Protocol
