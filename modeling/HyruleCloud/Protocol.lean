import Mathlib.Data.List.Basic

/-!
Protocols of atomic steps over one shared state. `step` is total: a step that is
not enabled changes nothing. `may` restricts the steps of a run, and a run is the
list of its actions.
-/

namespace Interaction

structure Protocol (σ α : Type) where
  step : α → σ → σ
  may : α → σ → Prop

namespace Protocol

variable {σ α : Type} (P : Protocol σ α)

def run (s : σ) (actions : List α) : σ := actions.foldl (fun s action => P.step action s) s

def admits : σ → List α → Prop
  | _, [] => True
  | s, action :: rest => P.may action s ∧ admits (P.step action s) rest

def passes (test : α → σ → Bool) : σ → List α → Bool
  | _, [] => true
  | s, action :: rest => test action s && passes test (P.step action s) rest

theorem passes_admits (test : α → σ → Bool)
    (enough : ∀ action s, test action s = true → P.may action s) (s : σ) (actions : List α)
    (passed : P.passes test s actions = true) : P.admits s actions := by
  induction actions generalizing s with
  | nil => trivial
  | cons action rest ih =>
    rw [passes, Bool.and_eq_true] at passed
    exact ⟨enough action s passed.1, ih _ passed.2⟩

theorem run_append (s : σ) (first rest : List α) :
    P.run s (first ++ rest) = P.run (P.run s first) rest := List.foldl_append

theorem admits_append (s : σ) (first rest : List α) :
    P.admits s (first ++ rest) ↔ P.admits s first ∧ P.admits (P.run s first) rest := by
  induction first generalizing s with
  | nil => exact ⟨fun later => ⟨trivial, later⟩, fun both => both.2⟩
  | cons action first ih =>
    simp only [List.cons_append, admits, ih (P.step action s), and_assoc]
    rfl

theorem admits_all (free : ∀ action s, P.may action s) (s : σ) (actions : List α) :
    P.admits s actions := by
  induction actions generalizing s with
  | nil => trivial
  | cons action rest ih => exact ⟨free action s, ih _⟩

theorem run_keeps {keeps : σ → Prop}
    (step : ∀ action s, keeps s → P.may action s → keeps (P.step action s))
    (actions : List α) (s : σ) (start : keeps s) (admitted : P.admits s actions) :
    keeps (P.run s actions) := by
  induction actions generalizing s with
  | nil => exact start
  | cons action rest ih => exact ih _ (step action s start admitted.1) admitted.2

theorem run_related {keeps : σ → Prop} {relates : σ → σ → Prop} (refl : ∀ s, relates s s)
    (trans : ∀ a b c, relates a b → relates b c → relates a c)
    (step : ∀ action s, keeps s → P.may action s →
      keeps (P.step action s) ∧ relates s (P.step action s))
    (actions : List α) (s : σ) (start : keeps s) (admitted : P.admits s actions) :
    relates s (P.run s actions) := by
  induction actions generalizing s with
  | nil => exact refl s
  | cons action rest ih =>
    obtain ⟨kept, related⟩ := step action s start admitted.1
    exact trans _ _ _ related (ih _ kept admitted.2)

end Protocol

end Interaction
