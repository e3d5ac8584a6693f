import HyruleCloud.Safety

/-!
Any number of programs over one shared state, scheduled request by request.
A thread is idle until its program starts, so a pool with infinitely many idle
threads covers handlers that arrive at any time. A schedule is a list of
actions; an action that is not enabled leaves the pool as it is.
-/

namespace Interaction

variable {Req : Type → Type} {ε σ κ η Tid : Type}

inductive Thread (Req : Type → Type) (ε : Type) : Type 1 where
  | idle
  | live (program : Proc Req ε Unit)
  | crashed

structure Pool (Req : Type → Type) (ε σ Tid : Type) : Type 1 where
  shared : σ
  thread : Tid → Thread Req ε

inductive Action (Tid κ η : Type) where
  | start (t : Tid)
  | step (t : Tid) (choice : κ)
  | crash (t : Tid)
  | tick (event : η)

structure Workload (Req : Type → Type) (ε σ κ η Tid : Type) where
  setting : Setting Req ε σ κ
  prog : Tid → Proc Req ε Unit
  env : η → σ → σ
  mayTick : η → σ → Prop

variable [DecidableEq Tid] (W : Workload Req ε σ κ η Tid)

def Pool.put (pool : Pool Req ε σ Tid) (t : Tid) (thread : Thread Req ε) : Pool Req ε σ Tid :=
  { pool with thread := Function.update pool.thread t thread }

def act (pool : Pool Req ε σ Tid) : Action Tid κ η → Pool Req ε σ Tid
  | .start t => match pool.thread t with
      | .idle => pool.put t (.live (W.prog t))
      | _ => pool
  | .step t choice => match pool.thread t with
      | .live (.call request next) => match W.setting.exec request choice pool.shared with
          | some (s, reply) => { pool with shared := s }.put t (.live (next reply))
          | none => pool
      | _ => pool
  | .crash t => match pool.thread t with
      | .live (.call _ _) => pool.put t .crashed
      | _ => pool
  | .tick event => { pool with shared := W.env event pool.shared }

inductive ActCase (pool : Pool Req ε σ Tid) : Action Tid κ η → Pool Req ε σ Tid → Prop where
  | still (action : Action Tid κ η) : ActCase pool action pool
  | started (t : Tid) (idle : pool.thread t = .idle) :
      ActCase pool (.start t) (pool.put t (.live (W.prog t)))
  | stepped {β : Type} (t : Tid) (choice : κ) (request : Req β)
      (next : Except ε β → Proc Req ε Unit) (s : σ) (reply : Except ε β)
      (live : pool.thread t = .live (.call request next))
      (ran : W.setting.exec request choice pool.shared = some (s, reply)) :
      ActCase pool (.step t choice) ({ pool with shared := s }.put t (.live (next reply)))
  | crashed {β : Type} (t : Tid) (request : Req β) (next : Except ε β → Proc Req ε Unit)
      (live : pool.thread t = .live (.call request next)) :
      ActCase pool (.crash t) (pool.put t .crashed)
  | ticked (event : η) : ActCase pool (.tick event) { pool with shared := W.env event pool.shared }

theorem act_case (pool : Pool Req ε σ Tid) (action : Action Tid κ η) :
    ActCase W pool action (act W pool action) := by
  cases action with
  | start t =>
    cases phase : pool.thread t with
    | idle => simpa only [act, phase] using ActCase.started t phase
    | _ => simpa only [act, phase] using ActCase.still _
  | step t choice =>
    cases phase : pool.thread t with
    | live program =>
      cases program with
      | call request next =>
        cases ran : W.setting.exec request choice pool.shared with
        | none => simpa only [act, phase, ran] using ActCase.still _
        | some outcome =>
          obtain ⟨s, reply⟩ := outcome
          simpa only [act, phase, ran] using
            ActCase.stepped t choice request next s reply phase ran
      | _ => simpa only [act, phase] using ActCase.still _
    | _ => simpa only [act, phase] using ActCase.still _
  | crash t =>
    cases phase : pool.thread t with
    | live program =>
      cases program with
      | call request next =>
        simpa only [act, phase] using ActCase.crashed t request next phase
      | _ => simpa only [act, phase] using ActCase.still _
    | _ => simpa only [act, phase] using ActCase.still _
  | tick event => exact ActCase.ticked event

def run (pool : Pool Req ε σ Tid) (schedule : List (Action Tid κ η)) : Pool Req ε σ Tid :=
  schedule.foldl (act W) pool

def admits (pool : Pool Req ε σ Tid) : Action Tid κ η → Prop
  | .step t choice => match pool.thread t with
      | .live (.call request _) => W.setting.permits request choice pool.shared
      | _ => True
  | .crash t => match pool.thread t with
      | .live (.call request _) => W.setting.mayCrash request pool.shared
      | _ => True
  | .tick event => W.mayTick event pool.shared
  | .start _ => True

def runAdmitted : Pool Req ε σ Tid → List (Action Tid κ η) → Prop
  | _, [] => True
  | pool, action :: rest => admits W pool action ∧ runAdmitted (act W pool action) rest

theorem run_keeps (keeps : Pool Req ε σ Tid → Prop)
    (step : ∀ pool action, keeps pool → admits W pool action → keeps (act W pool action))
    (schedule : List (Action Tid κ η)) (pool : Pool Req ε σ Tid) (start : keeps pool)
    (admitted : runAdmitted W pool schedule) : keeps (run W pool schedule) := by
  induction schedule generalizing pool with
  | nil => exact start
  | cons action rest ih => exact ih _ (step pool action start admitted.1) admitted.2

def Action.actor : Action Tid κ η → Option Tid
  | .start t | .step t _ | .crash t => some t
  | .tick _ => none

theorem run_untouched (t : Tid) (schedule : List (Action Tid κ η))
    (elsewhere : ∀ action ∈ schedule, action.actor ≠ some t) (pool : Pool Req ε σ Tid) :
    (run W pool schedule).thread t = pool.thread t := by
  induction schedule generalizing pool with
  | nil => rfl
  | cons action rest ih =>
    have step := act_case W pool action
    have other := elsewhere action List.mem_cons_self
    refine (ih (fun later listed => elsewhere later (List.mem_cons_of_mem _ listed)) _).trans ?_
    generalize act W pool action = after at step
    cases step with
    | still | ticked => rfl
    | started | stepped | crashed =>
      exact Function.update_of_ne (fun same => other (congrArg some same.symm)) _ _

section
variable (pool : Pool Req ε σ Tid) (first rest : List (Action Tid κ η))

theorem run_append :
    run W pool (first ++ rest) = run W (run W pool first) rest := List.foldl_append

theorem runAdmitted_append :
    runAdmitted W pool (first ++ rest) ↔
      runAdmitted W pool first ∧ runAdmitted W (run W pool first) rest := by
  induction first generalizing pool with
  | nil => exact ⟨fun later => ⟨trivial, later⟩, fun both => both.2⟩
  | cons action first ih =>
    simp only [List.cons_append, runAdmitted, ih (act W pool action), and_assoc]
    rfl

end

theorem runAdmitted_free
    (replies : ∀ {β : Type} (request : Req β) choice s, W.setting.permits request choice s)
    (crashes : ∀ {β : Type} (request : Req β) s, W.setting.mayCrash request s)
    (schedule : List (Action Tid κ η))
    (events : ∀ event s, .tick event ∈ schedule → W.mayTick event s)
    (pool : Pool Req ε σ Tid) : runAdmitted W pool schedule := by
  induction schedule generalizing pool with
  | nil => trivial
  | cons action rest ih =>
    refine ⟨?_, ih (fun event s later => events event s (List.mem_cons_of_mem _ later)) _⟩
    cases action with
    | start t => trivial
    | tick event => exact events event _ List.mem_cons_self
    | step t choice =>
      simp only [admits]
      split
      · exact replies _ choice _
      · trivial
    | crash t =>
      simp only [admits]
      split
      · exact crashes _ _
      · trivial

/-- Tests, to be evaluated along a run, that suffice for its admission. -/
structure Check where
  reply : {β : Type} → Req β → κ → σ → Bool
  event : η → σ → Bool
  permits : ∀ {β : Type} (request : Req β) choice s, reply request choice s = true →
    W.setting.permits request choice s
  mayCrash : ∀ {β : Type} (request : Req β) s, W.setting.mayCrash request s
  mayTick : ∀ happening s, event happening s = true → W.mayTick happening s

variable {W} in
def Check.action (check : Check W) (pool : Pool Req ε σ Tid) : Action Tid κ η → Bool
  | .step t choice => match pool.thread t with
      | .live (.call request _) => check.reply request choice pool.shared
      | _ => true
  | .tick event => check.event event pool.shared
  | .start _ | .crash _ => true

variable {W} in
def Check.run (check : Check W) : Pool Req ε σ Tid → List (Action Tid κ η) → Bool
  | _, [] => true
  | pool, action :: rest => check.action pool action && check.run (act W pool action) rest

omit [DecidableEq Tid] in
theorem Check.admits (check : Check W) (pool : Pool Req ε σ Tid) (action : Action Tid κ η)
    (passed : check.action pool action = true) : Interaction.admits W pool action := by
  cases action with
  | start t => trivial
  | tick event => exact check.mayTick event pool.shared passed
  | step t choice =>
    simp only [Interaction.admits]
    simp only [Check.action] at passed
    split
    · rename_i live
      rw [live] at passed
      exact check.permits _ _ _ passed
    · trivial
  | crash t =>
    simp only [Interaction.admits]
    split
    · exact check.mayCrash _ _
    · trivial

theorem Check.runAdmitted (check : Check W) (schedule : List (Action Tid κ η))
    (pool : Pool Req ε σ Tid) (passed : check.run pool schedule = true) :
    Interaction.runAdmitted W pool schedule := by
  induction schedule generalizing pool with
  | nil => trivial
  | cons action rest ih =>
    simp only [Check.run, Bool.and_eq_true] at passed
    exact ⟨check.admits W pool action passed.1, ih _ passed.2⟩

def Workload.mortal {Req : Type → Type} {ε σ κ η Tid : Type} (W : Workload Req ε σ κ η Tid) :
    Workload Req ε σ κ η Tid :=
  { W with setting := { W.setting with mayCrash := fun _ _ => True } }

def Action.isCrash : Action Tid κ η → Bool
  | .crash _ => true
  | _ => false

theorem runAdmitted_uncrashed (schedule : List (Action Tid κ η))
    (alive : ∀ action ∈ schedule, action.isCrash = false) (pool : Pool Req ε σ Tid)
    (admitted : Interaction.runAdmitted W.mortal pool schedule) :
    Interaction.runAdmitted W pool schedule := by
  induction schedule generalizing pool with
  | nil => trivial
  | cons action rest ih =>
    have later : ∀ other ∈ rest, other.isCrash = false :=
      fun other listed => alive other (List.mem_cons_of_mem _ listed)
    constructor
    · cases action with
      | crash t => cases alive _ List.mem_cons_self
      | start t => trivial
      | step | tick => exact admitted.1
    · have same : act W.mortal pool action = act W pool action := by
        cases action <;> rfl
      exact ih later _ admitted.2

/-- What the duty of a thread promises in each phase of its life. -/
def ThreadSafe (duty : Tid → Duty σ) (pre : Tid → σ → Prop)
    (post : Tid → Except ε Unit → σ → Prop) (s : σ) (t : Tid) : Thread Req ε → Prop
  | .idle => pre t s
  | .live program => Safe W.setting (duty t) (post t) program s
  | .crashed => (duty t).crash s

/-- The obligations of a family of programs that share one state. -/
structure Composable (inv : σ → Prop) (duty : Tid → Duty σ) (pre : Tid → σ → Prop)
    (post : Tid → Except ε Unit → σ → Prop) : Prop where
  shared : ∀ t s, (duty t).inv s ↔ inv s
  starts : ∀ t, Triple W.setting (duty t) (pre t) (W.prog t) (post t)
  idle : ∀ t, Stable (duty t) (pre t)
  done : ∀ t result, Stable (duty t) (post t result)
  dead : ∀ t, Stable (duty t) (duty t).crash
  compatible : ∀ t other a b, t ≠ other → inv a → inv b → (duty t).guar a b →
    (duty other).rely a b
  ticks : ∀ event s, inv s → W.mayTick event s →
    inv (W.env event s) ∧ ∀ t, (duty t).rely s (W.env event s)

variable {W} {inv : σ → Prop} {duty : Tid → Duty σ} {pre : Tid → σ → Prop}
  {post : Tid → Except ε Unit → σ → Prop}

omit [DecidableEq Tid] in
theorem threadSafe_moved (C : Composable W inv duty pre post) (s s' : σ) (t : Tid)
    (thread : Thread Req ε) (safe : ThreadSafe W duty pre post s t thread)
    (moved : (duty t).rely s s') (kept : inv s') :
    ThreadSafe W duty pre post s' t thread := by
  have valid := (C.shared t s').mpr kept
  cases thread with
  | idle => exact C.idle t s s' safe moved valid
  | crashed => exact C.dead t s s' safe moved valid
  | live program =>
    exact safe_stable program s s' (fun result a b => C.done t result a b) safe moved valid

def PoolSafe (inv : σ → Prop) (duty : Tid → Duty σ) (pre : Tid → σ → Prop)
    (post : Tid → Except ε Unit → σ → Prop) (pool : Pool Req ε σ Tid) : Prop :=
  inv pool.shared ∧ ∀ t, ThreadSafe W duty pre post pool.shared t (pool.thread t)

theorem put_safe (pool : Pool Req ε σ Tid) (t : Tid) (thread : Thread Req ε)
    (kept : inv pool.shared)
    (others : ∀ other, other ≠ t →
      ThreadSafe W duty pre post pool.shared other (pool.thread other))
    (safe : ThreadSafe W duty pre post pool.shared t thread) :
    PoolSafe (W := W) inv duty pre post (pool.put t thread) := by
  refine ⟨kept, fun other => ?_⟩
  by_cases same : other = t
  · subst same
    simpa [Pool.put] using safe
  · simpa [Pool.put, Function.update_of_ne same] using others other same

section
variable (C : Composable W inv duty pre post)
include C

theorem act_safe (pool : Pool Req ε σ Tid)
    (action : Action Tid κ η) (safe : PoolSafe (W := W) inv duty pre post pool)
    (admitted : admits W pool action) :
    PoolSafe (W := W) inv duty pre post (act W pool action) := by
  obtain ⟨kept, threads⟩ := safe
  cases action with
  | start t =>
    cases phase : pool.thread t with
    | idle =>
      have waiting := threads t
      rw [phase] at waiting
      simp only [act, phase]
      exact put_safe pool t _ kept (fun other _ => threads other)
        (C.starts t pool.shared ((C.shared t _).mpr kept) waiting)
    | live | crashed => simpa only [act, phase] using ⟨kept, threads⟩
  | crash t =>
    cases phase : pool.thread t with
    | idle | crashed => simpa only [act, phase] using ⟨kept, threads⟩
    | live program =>
      cases program with
      | ret | raise => simpa only [act, phase] using ⟨kept, threads⟩
      | call request next =>
        have running := threads t
        rw [phase] at running
        simp only [admits, phase] at admitted
        simp only [act, phase]
        exact put_safe pool t _ kept (fun other _ => threads other)
          ((running pool.shared ((duty t).rely_refl _) ((C.shared t _).mpr kept)).1 admitted)
  | tick event =>
    obtain ⟨after, moved⟩ := C.ticks event pool.shared kept admitted
    exact ⟨after, fun t => threadSafe_moved C _ _ t _ (threads t) (moved t) after⟩
  | step t choice =>
    cases phase : pool.thread t with
    | idle | crashed => simpa only [act, phase] using ⟨kept, threads⟩
    | live program =>
      cases program with
      | ret | raise => simpa only [act, phase] using ⟨kept, threads⟩
      | call request next =>
        simp only [admits, phase] at admitted
        cases ran : W.setting.exec request choice pool.shared with
        | none => simpa only [act, phase, ran] using ⟨kept, threads⟩
        | some outcome =>
          obtain ⟨s', reply⟩ := outcome
          simp only [act, phase, ran]
          have running := threads t
          rw [phase] at running
          obtain ⟨valid, stepped, later⟩ :=
            (running pool.shared ((duty t).rely_refl _) ((C.shared t _).mpr kept)).2
              choice s' reply admitted ran
          have after := (C.shared t _).mp valid
          refine put_safe { pool with shared := s' } t _ after ?_ later
          intro other different
          exact threadSafe_moved C pool.shared s' other _ (threads other)
            (C.compatible t other _ _ (Ne.symm different) kept after stepped) after

theorem run_safe (schedule : List (Action Tid κ η))
    (pool : Pool Req ε σ Tid) (safe : PoolSafe (W := W) inv duty pre post pool)
    (admitted : runAdmitted W pool schedule) :
    PoolSafe (W := W) inv duty pre post (run W pool schedule) := by
  induction schedule generalizing pool with
  | nil => exact safe
  | cons action rest ih =>
    exact ih (act W pool action) (act_safe C pool action safe admitted.1) admitted.2

theorem act_related (R : σ → σ → Prop) (refl : ∀ s, R s s)
    (guarantees : ∀ t a b, (duty t).guar a b → R a b)
    (events : ∀ event s, inv s → W.mayTick event s → R s (W.env event s))
    (pool : Pool Req ε σ Tid) (action : Action Tid κ η)
    (safe : PoolSafe (W := W) inv duty pre post pool) (admitted : admits W pool action) :
    R pool.shared (act W pool action).shared := by
  have step := act_case W pool action
  generalize act W pool action = after at step
  cases step with
  | still | started | crashed => exact refl _
  | ticked event => exact events event pool.shared safe.1 admitted
  | stepped t choice request next s reply live ran =>
    simp only [admits, live] at admitted
    have running := safe.2 t
    rw [live] at running
    exact guarantees t _ _ ((running pool.shared ((duty t).rely_refl _)
      ((C.shared t _).mpr safe.1)).2 choice s reply admitted ran).2.1

theorem run_related (R : σ → σ → Prop) (refl : ∀ s, R s s)
    (trans : ∀ a b c, R a b → R b c → R a c) (guarantees : ∀ t a b, (duty t).guar a b → R a b)
    (events : ∀ event s, inv s → W.mayTick event s → R s (W.env event s))
    (schedule : List (Action Tid κ η)) (pool : Pool Req ε σ Tid)
    (safe : PoolSafe (W := W) inv duty pre post pool) (admitted : runAdmitted W pool schedule) :
    R pool.shared (run W pool schedule).shared := by
  induction schedule generalizing pool with
  | nil => exact refl _
  | cons action rest ih =>
    exact trans _ _ _ (act_related C R refl guarantees events pool action safe admitted.1)
      (ih (act W pool action) (act_safe C pool action safe admitted.1) admitted.2)

end

end Interaction
