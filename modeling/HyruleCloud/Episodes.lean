import HyruleCloud.Safety

/-!
Sequential runs: one process at a time works through its requests, and may die
before any of them. A run is a list of episodes, each a program with the oracle
values that it consumed; an episode whose oracle list ends early has crashed.
-/

namespace Interaction

variable {Req : Type → Type} {ε α σ κ J : Type}

def Proc.admitted (S : Setting Req ε σ κ) : Proc Req ε α → List κ → σ → Prop
  | .call request _, [], s => S.mayCrash request s
  | .call request next, choice :: choices, s =>
    match S.exec request choice s with
    | some (s', reply) =>
      S.permits request choice s ∧ (next reply).admitted S choices s'
    | none => (Proc.call request next).admitted S choices s
  | _, _, _ => True

/-- Where an episode ended: with a result, or by a crash before a request. -/
def Ended (d : Duty σ) (post : Except ε α → σ → Prop) : Proc Req ε α → σ → Prop
  | .ret value, s => post (.ok value) s
  | .raise error, s => post (.error error) s
  | .call _ _, s => d.crash s

theorem play_ended {S : Setting Req ε σ κ} {d : Duty σ} {post : Except ε α → σ → Prop}
    (choices : List κ) (p : Proc Req ε α) (s : σ) (kept : d.inv s)
    (safe : Safe S d post p s) (admitted : p.admitted S choices s) :
    d.inv (p.play S.exec choices s).2 ∧
      Ended d post (p.play S.exec choices s).1 (p.play S.exec choices s).2 := by
  induction choices generalizing p s with
  | nil =>
    cases p with
    | ret | raise => exact ⟨kept, safe⟩
    | call request next =>
      exact ⟨kept, (safe s (d.rely_refl s) kept).1 admitted⟩
  | cons choice rest ih =>
    cases p with
    | ret | raise => exact ⟨kept, safe⟩
    | call request next =>
      have here := (safe s (d.rely_refl s) kept).2 choice
      cases ran : S.exec request choice s with
      | none =>
        simp only [Proc.play, Proc.admitted, ran] at admitted ⊢
        exact ih _ s kept safe admitted
      | some outcome =>
        obtain ⟨s', reply⟩ := outcome
        simp only [Proc.play, Proc.admitted, ran] at admitted ⊢
        obtain ⟨after, _, later⟩ := here s' reply admitted.1 ran
        exact ih _ s' after later admitted.2

def runEpisodes (S : Setting Req ε σ κ) (prog : J → Proc Req ε Unit) :
    List (J × List κ) → σ → σ
  | [], s => s
  | (job, choices) :: rest, s =>
    runEpisodes S prog rest ((prog job).play S.exec choices s).2

def episodesAdmitted (S : Setting Req ε σ κ) (prog : J → Proc Req ε Unit) :
    List (J × List κ) → σ → Prop
  | [], _ => True
  | (job, choices) :: rest, s =>
    (prog job).admitted S choices s ∧
      episodesAdmitted S prog rest ((prog job).play S.exec choices s).2

theorem admitted_always {S : Setting Req ε σ κ} (choices : List κ) (p : Proc Req ε α) (s : σ)
    (permits : ∀ {β : Type} (request : Req β) choice s, S.permits request choice s)
    (crashes : ∀ {β : Type} (request : Req β) s, S.mayCrash request s) :
    p.admitted S choices s := by
  induction choices generalizing p s with
  | nil =>
    cases p with
    | ret value | raise error => trivial
    | call request next => exact crashes request s
  | cons choice rest ih =>
    cases p with
    | ret value | raise error => trivial
    | call request next =>
      simp only [Proc.admitted]
      split
      · exact ⟨permits request choice s, ih _ _⟩
      · exact ih _ s

theorem episodes_always {S : Setting Req ε σ κ} (prog : J → Proc Req ε Unit)
    (episodes : List (J × List κ)) (s : σ)
    (permits : ∀ {β : Type} (request : Req β) choice s, S.permits request choice s)
    (crashes : ∀ {β : Type} (request : Req β) s, S.mayCrash request s) :
    episodesAdmitted S prog episodes s := by
  induction episodes generalizing s with
  | nil => trivial
  | cons episode rest ih => exact ⟨admitted_always _ _ s permits crashes, ih _⟩

/-- An assertion that every program re-establishes, whether it returns, fails
or dies, holds after every admitted sequence of episodes. -/
theorem episodes_keep (S : Setting Req ε σ κ) (d : Duty σ) (prog : J → Proc Req ε Unit)
    (assertion : σ → Prop)
    (keeps : ∀ job, Triple S d assertion (prog job) (fun _ => assertion))
    (dies : ∀ s, d.inv s → d.crash s → assertion s)
    (episodes : List (J × List κ)) (s : σ) (kept : d.inv s) (holds : assertion s)
    (admitted : episodesAdmitted S prog episodes s) :
    d.inv (runEpisodes S prog episodes s) ∧ assertion (runEpisodes S prog episodes s) := by
  induction episodes generalizing s with
  | nil => exact ⟨kept, holds⟩
  | cons episode rest ih =>
    obtain ⟨job, choices⟩ := episode
    obtain ⟨first, later⟩ := admitted
    have ended := play_ended choices (prog job) s kept (keeps job s kept holds) first
    refine ih _ ended.1 ?_ later
    have final := ended.2
    cases stopped : ((prog job).play S.exec choices s).1 with
    | ret | raise => simpa only [Ended, stopped] using final
    | call request next =>
      rw [stopped] at final
      exact dies _ ended.1 final

end Interaction
