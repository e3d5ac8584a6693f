import Mathlib.Data.List.Basic

/-!
What a piece of work checks and what it uses, in order. Work may fail, and what it did before
it failed stays done. A use is covered when what was checked before it permits it.
-/

namespace CheckedUse

variable {Item Use Failure α β : Type}

inductive Event (Item Use : Type) where
  | checked (items : List Item)
  | used (use : Use)
  deriving DecidableEq

structure Work (Item Use Failure α : Type) where
  events : List (Event Item Use)
  result : Except Failure α

namespace Work

def done (value : α) : Work Item Use Failure α := ⟨[], .ok value⟩

def fail (failure : Failure) : Work Item Use Failure α := ⟨[], .error failure⟩

def check (items : List Item) : Work Item Use Failure (List Item) := ⟨[.checked items], .ok items⟩

def use (uses : List Use) : Work Item Use Failure Unit := ⟨uses.map .used, .ok ()⟩

def andThen (work : Work Item Use Failure α) (next : α → Work Item Use Failure β) :
    Work Item Use Failure β :=
  match work.result with
  | .error failure => ⟨work.events, .error failure⟩
  | .ok value => ⟨work.events ++ (next value).events, (next value).result⟩

def caught (work : Work Item Use Failure α) : Work Item Use Failure (Except Failure α) :=
  ⟨work.events, .ok work.result⟩

instance : Monad (Work Item Use Failure) where
  pure := done
  bind := andThen

theorem andThen_done (work : Work Item Use Failure α) : work.andThen done = work := by
  obtain ⟨events, result⟩ := work
  cases result with
  | error failure => rfl
  | ok value => simp [andThen, done]

theorem andThen_assoc {γ : Type} (work : Work Item Use Failure α)
    (next : α → Work Item Use Failure β) (last : β → Work Item Use Failure γ) :
    (work.andThen next).andThen last = work.andThen fun value => (next value).andThen last := by
  obtain ⟨events, result⟩ := work
  cases result with
  | error failure => rfl
  | ok value =>
    cases known : (next value).result with
    | error | ok => simp [andThen, known]

instance : LawfulMonad (Work Item Use Failure) :=
  LawfulMonad.mk' _ (fun work => andThen_done work) (fun _ _ => rfl)
    (fun work next last => andThen_assoc work next last)

end Work

def checkedItems : List (Event Item Use) → List Item
  | [] => []
  | .checked items :: rest => items ++ checkedItems rest
  | .used _ :: rest => checkedItems rest

def Covered (permits : List Item → Use → Prop) (seen : List Item) :
    List (Event Item Use) → Prop
  | [] => True
  | .checked items :: rest => Covered permits (seen ++ items) rest
  | .used use :: rest => permits seen use ∧ Covered permits seen rest

theorem covered_append (permits : List Item → Use → Prop) (seen : List Item)
    (first second : List (Event Item Use)) :
    Covered permits seen (first ++ second) ↔
      Covered permits seen first ∧ Covered permits (seen ++ checkedItems first) second := by
  induction first generalizing seen with
  | nil => simp [Covered, checkedItems]
  | cons event rest ih =>
    cases event with
    | checked items => simp [Covered, checkedItems, ih]
    | used use => simp [Covered, checkedItems, ih, and_assoc]

theorem covered_uses (permits : List Item → Use → Prop) (seen : List Item) (uses : List Use) :
    Covered permits seen (uses.map Event.used) ↔ ∀ use ∈ uses, permits seen use := by
  induction uses with
  | nil => simp [Covered]
  | cons use rest ih => simp [Covered, ih]

theorem covered_split {permits : List Item → Use → Prop} {seen : List Item}
    {events : List (Event Item Use)} (covered : Covered permits seen events)
    (before after : List (Event Item Use)) (use : Use)
    (split : events = before ++ .used use :: after) :
    permits (seen ++ checkedItems before) use := by
  subst split
  exact ((covered_append permits seen before _).mp covered).2.1

theorem covered_bind (permits : List Item → Use → Prop) (seen : List Item)
    (work : Work Item Use Failure α) (next : α → Work Item Use Failure β) :
    Covered permits seen (work >>= next).events ↔
      Covered permits seen work.events ∧ ∀ value, work.result = .ok value →
        Covered permits (seen ++ checkedItems work.events) (next value).events := by
  change Covered permits seen (work.andThen next).events ↔ _
  unfold Work.andThen
  cases known : work.result with
  | error failure => simp
  | ok value => simp [covered_append]

end CheckedUse
