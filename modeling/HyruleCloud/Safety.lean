import HyruleCloud.Proc

/-!
Rely, guarantee and crash obligations of one program. `Safe` walks the tree of
a program: before each request other parties may take any steps that the rely
allows, the process may die there, and every permitted reply has to keep the
invariant and the guarantee. A sequential program is the special case in which
the rely is equality.
-/

namespace Interaction

variable {Req : Type → Type} {ε α β σ κ : Type}

/-- A machine with the faults that a result admits. `permits` restricts the
reply of a request in the state before it, `mayCrash` the points of a crash. -/
structure Setting (Req : Type → Type) (ε σ κ : Type) where
  exec : {β : Type} → Req β → κ → σ → Option (σ × Except ε β)
  permits : {β : Type} → Req β → κ → σ → Prop
  mayCrash : {β : Type} → Req β → σ → Prop

structure Duty (σ : Type) where
  inv : σ → Prop
  rely : σ → σ → Prop
  guar : σ → σ → Prop
  crash : σ → Prop
  rely_refl : ∀ s, rely s s
  rely_trans : ∀ {a b c}, rely a b → rely b c → rely a c

variable (S : Setting Req ε σ κ) (d : Duty σ)

def Safe (post : Except ε α → σ → Prop) : Proc Req ε α → σ → Prop
  | .ret value, s => post (.ok value) s
  | .raise error, s => post (.error error) s
  | .call request next, s => ∀ s₁, d.rely s s₁ → d.inv s₁ →
      (S.mayCrash request s₁ → d.crash s₁) ∧
      ∀ choice s₂ reply, S.permits request choice s₁ →
        S.exec request choice s₁ = some (s₂, reply) →
        d.inv s₂ ∧ d.guar s₁ s₂ ∧ Safe post (next reply) s₂

variable {S d}

variable {post mid : Except ε α → σ → Prop} {p : Proc Req ε α} {rest : α → Proc Req ε β}
  {handler : ε → Proc Req ε α} {frame : σ → Prop} {returned : α → Prop}

theorem safe_stable (p : Proc Req ε α) (s s₁ : σ)
    (keeps : ∀ result a b, post result a → d.rely a b → d.inv b → post result b)
    (safe : Safe S d post p s) (moved : d.rely s s₁) (kept : d.inv s₁) : Safe S d post p s₁ := by
  cases p with
  | ret | raise => exact keeps _ _ _ safe moved kept
  | call request next => exact fun s₂ later => safe s₂ (d.rely_trans moved later)

theorem safe_call {γ : Type} {other : Except ε β → σ → Prop} {request : Req γ}
    {next : Except ε γ → Proc Req ε α} {later : Except ε γ → Proc Req ε β} {s : σ}
    (safe : Safe S d post (.call request next) s)
    (goes : ∀ reply a, d.inv a → Safe S d post (next reply) a → Safe S d other (later reply) a) :
    Safe S d other (.call request later) s := by
  intro s₁ moved valid
  obtain ⟨dies, runs⟩ := safe s₁ moved valid
  refine ⟨dies, fun choice s₂ reply permitted ran => ?_⟩
  obtain ⟨after, stepped, rest⟩ := runs choice s₂ reply permitted ran
  exact ⟨after, stepped, goes reply s₂ after rest⟩

theorem safe_weaken {other : Except ε α → σ → Prop} (p : Proc Req ε α) (s : σ) (kept : d.inv s)
    (implies : ∀ result a, d.inv a → post result a → other result a) (safe : Safe S d post p s) :
    Safe S d other p s := by
  induction p generalizing s with
  | ret | raise => exact implies _ _ kept safe
  | call request next ih => exact safe_call safe fun reply a kept => ih reply a kept

theorem safe_bind {post : Except ε β → σ → Prop} (p : Proc Req ε α)
    (rest : α → Proc Req ε β) (s : σ)
    (safe : Safe S d (fun result a => match result with
      | .ok value => Safe S d post (rest value) a
      | .error error => post (.error error) a) p s) :
    Safe S d post (p >>= rest) s := by
  induction p generalizing s with
  | ret | raise => exact safe
  | call request next ih => exact safe_call safe fun reply a _ => ih reply a

theorem safe_rescue (p : Proc Req ε α) (handler : ε → Proc Req ε α) (s : σ)
    (safe : Safe S d (fun result a => match result with
      | .ok value => post (.ok value) a
      | .error error => Safe S d post (handler error) a) p s) :
    Safe S d post (p.rescue handler) s := by
  induction p generalizing s with
  | ret | raise => exact safe
  | call request next ih => exact safe_call safe fun reply a _ => ih reply a

theorem safe_attempt {post : Except ε (Except ε α) → σ → Prop} (p : Proc Req ε α) (s : σ)
    (safe : Safe S d (fun result => post (.ok result)) p s) :
    Safe S d post p.attempt s := by
  induction p generalizing s with
  | ret | raise => exact safe
  | call request next ih => exact safe_call safe fun reply a _ => ih reply a

variable (S d) in
/-- A specification of a program from every state that satisfies `pre`. -/
def Triple (pre : σ → Prop) (p : Proc Req ε α) (post : Except ε α → σ → Prop) : Prop :=
  ∀ s, d.inv s → pre s → Safe S d post p s

variable (d) in
def Stable (assertion : σ → Prop) : Prop :=
  ∀ s s₁, assertion s → d.rely s s₁ → d.inv s₁ → assertion s₁

section
variable {pre : σ → Prop}

theorem triple_ret (value : α) (holds : ∀ s, d.inv s → pre s → post (.ok value) s) :
    Triple S d pre (.ret value) post := holds

theorem triple_raise (error : ε) (holds : ∀ s, d.inv s → pre s → post (.error error) s) :
    Triple S d pre (.raise error) post := holds

theorem triple_perform {post : Except ε β → σ → Prop} (request : Req β)
    (stable : Stable d pre)
    (dies : ∀ s, d.inv s → pre s → S.mayCrash request s → d.crash s)
    (runs : ∀ s choice s' reply, d.inv s → pre s → S.permits request choice s →
      S.exec request choice s = some (s', reply) →
      d.inv s' ∧ d.guar s s' ∧ post reply s') :
    Triple S d pre (Proc.perform request) post := by
  intro s _ holds s₁ moved valid
  have before := stable s s₁ holds moved valid
  refine ⟨dies s₁ valid before, ?_⟩
  intro choice s₂ reply permitted ran
  obtain ⟨after, stepped, result⟩ := runs s₁ choice s₂ reply valid before permitted ran
  refine ⟨after, stepped, ?_⟩
  cases reply <;> exact result

theorem triple_bind {post : Except ε β → σ → Prop} (first : Triple S d pre p mid)
    (next : ∀ value, Triple S d (mid (.ok value)) (rest value) post)
    (failed : ∀ error s, d.inv s → mid (.error error) s → post (.error error) s) :
    Triple S d pre (p >>= rest) post := by
  intro s valid holds
  apply safe_bind
  refine safe_weaken p s valid ?_ (first s valid holds)
  intro result a kept reached
  cases result with
  | ok value => exact next value a kept reached
  | error error => exact failed error a kept reached

theorem triple_rescue (body : Triple S d pre p mid)
    (returned : ∀ value s, d.inv s → mid (.ok value) s → post (.ok value) s)
    (handled : ∀ error, Triple S d (mid (.error error)) (handler error) post) :
    Triple S d pre (p.rescue handler) post := by
  intro s valid holds
  apply safe_rescue
  refine safe_weaken p s valid ?_ (body s valid holds)
  intro result a kept reached
  cases result with
  | ok value => exact returned value a kept reached
  | error error => exact handled error a kept reached

theorem triple_attempt (body : Triple S d pre p mid) :
    Triple S d pre p.attempt (fun result s => ∃ inner, result = .ok inner ∧ mid inner s) := by
  intro s valid holds
  apply safe_attempt
  exact safe_weaken p s valid (fun result a _ reached => ⟨result, rfl, reached⟩)
    (body s valid holds)

end

/-- The result of a program, with an assertion for each way to end. -/
def outcome (returned : α → σ → Prop) (failed : ε → σ → Prop) : Except ε α → σ → Prop
  | .ok value, s => returned value s
  | .error error, s => failed error s

@[simp] theorem outcome_ok (returned : α → σ → Prop) (failed : ε → σ → Prop) (value : α)
    (s : σ) : outcome returned failed (.ok value) s = returned value s := rfl

theorem triple_then {pre : σ → Prop} {mid : α → σ → Prop} {returned : β → σ → Prop}
    {failed : ε → σ → Prop} (first : Triple S d pre p (outcome mid failed))
    (next : ∀ value, Triple S d (mid value) (rest value) (outcome returned failed)) :
    Triple S d pre (p >>= rest) (outcome returned failed) :=
  triple_bind first next fun _ _ _ holds => holds

theorem triple_enter {pre narrow : σ → Prop} (spec : Triple S d pre p post)
    (enters : ∀ s, narrow s → pre s) : Triple S d narrow p post :=
  fun s valid holds => spec s valid (enters s holds)

theorem triple_weaken {pre narrow : σ → Prop} {wide : Except ε α → σ → Prop}
    (spec : Triple S d pre p post) (enters : ∀ s, d.inv s → narrow s → pre s)
    (leaves : ∀ result s, d.inv s → post result s → wide result s) : Triple S d narrow p wide :=
  fun s valid holds => safe_weaken p s valid leaves (spec s valid (enters s valid holds))

theorem triple_frame {pre : σ → Prop} {post : Except ε β → σ → Prop} (request : Req β)
    (spec : Triple S d pre (Proc.perform request) post) (stable : Stable d frame)
    (keeps : ∀ s choice s' reply, d.inv s → frame s →
      S.exec request choice s = some (s', reply) → frame s') :
    Triple S d (fun s => pre s ∧ frame s) (Proc.perform request)
      (fun reply s => post reply s ∧ frame s) := by
  rintro s valid ⟨holds, framed⟩ s₁ moved kept
  obtain ⟨dies, runs⟩ := spec s valid holds s₁ moved kept
  have before := stable s s₁ framed moved kept
  refine ⟨dies, fun choice s₂ reply permitted ran => ?_⟩
  obtain ⟨after, stepped, result⟩ := runs choice s₂ reply permitted ran
  have framed' := keeps s₁ choice s₂ reply kept before ran
  refine ⟨after, stepped, ?_⟩
  cases reply <;> exact ⟨result, framed'⟩

theorem triple_retry_keeps {assertion : σ → Prop} {p : Proc Req ε Unit} (n : Nat)
    (spec : Triple S d assertion p (fun _ => assertion)) :
    Triple S d assertion (p.retry n) (outcome (fun _ => assertion) (fun _ _ => False)) := by
  induction n with
  | zero => exact triple_ret _ fun _ _ holds => holds
  | succ n ih =>
    have once : Triple S d assertion (p >>= fun _ => .ret true) (fun _ => assertion) :=
      triple_bind spec (fun _ => triple_ret _ fun _ _ holds => holds) (fun _ _ _ holds => holds)
    exact triple_rescue once (fun _ _ _ holds => holds) fun _ => ih

def Setting.pull {Wide : Type → Type} (into : {β : Type} → Req β → Wide β)
    (S : Setting Wide ε σ κ) : Setting Req ε σ κ where
  exec request := S.exec (into request)
  permits request := S.permits (into request)
  mayCrash request := S.mayCrash (into request)

theorem triple_embed {Wide : Type → Type} (into : {β : Type} → Req β → Wide β)
    {S : Setting Wide ε σ κ} {pre : σ → Prop} (spec : Triple (S.pull into) d pre p post) :
    Triple S d pre (p.embed into) post := by
  intro s valid holds
  have safe := spec s valid holds
  clear spec valid holds
  induction p generalizing s with
  | ret | raise => exact safe
  | call request next ih =>
    intro s₁ moved kept
    obtain ⟨dies, runs⟩ := safe s₁ moved kept
    refine ⟨dies, fun choice s₂ reply permitted ran => ?_⟩
    obtain ⟨after, stepped, later⟩ := runs choice s₂ reply permitted ran
    exact ⟨after, stepped, ih reply s₂ later⟩

theorem triple_or {pre other : σ → Prop} (left : Triple S d pre p post)
    (right : Triple S d other p post) : Triple S d (fun s => pre s ∨ other s) p post := by
  intro s valid holds
  rcases holds with first | second
  · exact left s valid first
  · exact right s valid second

theorem triple_fact {fact : Prop} {pre : σ → Prop} (spec : fact → Triple S d pre p post) :
    Triple S d (fun s => fact ∧ pre s) p post := by
  rintro s valid ⟨known, holds⟩
  exact spec known s valid holds

def Performs (allowed : {β : Type} → Req β → Prop) (returned : α → Prop) : Proc Req ε α → Prop
  | .ret value => returned value
  | .raise _ => True
  | .call request next => allowed request ∧ ∀ reply, Performs allowed returned (next reply)

def Within (allowed : {β : Type} → Req β → Prop) (p : Proc Req ε α) : Prop :=
  Performs allowed (fun _ => True) p

section Within
variable {allowed : {β : Type} → Req β → Prop}

theorem performs_bind {mid : α → Prop} {returned : β → Prop} (first : Performs allowed mid p)
    (next : ∀ value, mid value → Performs allowed returned (rest value)) :
    Performs allowed returned (p >>= rest) := by
  induction p with
  | ret value => exact next value first
  | raise error => trivial
  | call request more ih => exact ⟨first.1, fun reply => ih reply (first.2 reply)⟩

theorem performs_rescue (body : Performs allowed returned p)
    (handled : ∀ error, Performs allowed returned (handler error)) :
    Performs allowed returned (p.rescue handler) := by
  induction p with
  | ret value => exact body
  | raise error => exact handled error
  | call request more ih => exact ⟨body.1, fun reply => ih reply (body.2 reply)⟩

theorem performs_attempt (body : Performs allowed returned p) :
    Performs allowed (fun result => ∀ value, result = .ok value → returned value) p.attempt := by
  induction p with
  | ret value =>
    intro other same
    cases same
    exact body
  | raise error => exact fun _ absurd => by cases absurd
  | call request more ih => exact ⟨body.1, fun reply => ih reply (body.2 reply)⟩

@[simp] theorem within_ret (value : α) :
    Within allowed (.ret value : Proc Req ε α) := trivial

@[simp] theorem within_raise (error : ε) :
    Within allowed (.raise error : Proc Req ε α) := trivial

@[simp] theorem within_perform (request : Req β) :
    Within allowed (Proc.perform request : Proc Req ε β) ↔ allowed request := by
  refine ⟨fun whole => whole.1, fun here => ⟨here, fun reply => ?_⟩⟩
  cases reply <;> trivial

theorem within_mono {wider : {β : Type} → Req β → Prop} (within : Within allowed p)
    (implies : ∀ {β : Type} (request : Req β), allowed request →
      wider request) : Within wider p := by
  induction p with
  | ret | raise => trivial
  | call request more ih => exact ⟨implies request within.1, fun reply => ih reply (within.2 reply)⟩

theorem within_bind (first : Within allowed p) (next : ∀ value, Within allowed (rest value)) :
    Within allowed (p >>= rest) := performs_bind first fun value _ => next value

theorem within_rescue (body : Within allowed p) (handled : ∀ error, Within allowed (handler error))
    :
    Within allowed (p.rescue handler) := performs_rescue body handled

theorem performs_within (performs : Performs allowed returned p) : Within allowed p := by
  induction p with
  | ret | raise => trivial
  | call request more ih => exact ⟨performs.1, fun reply => ih reply (performs.2 reply)⟩

theorem within_attempt (body : Within allowed p) :
    Within allowed p.attempt := performs_within (performs_attempt body)

theorem within_retry {p : Proc Req ε Unit} (body : Within allowed p) (n : Nat) :
    Within allowed (p.retry n) := by
  induction n with
  | zero => trivial
  | succ n ih => exact within_rescue (within_bind body fun _ => trivial) fun _ => ih

theorem triple_within {assertion : σ → Prop} (p : Proc Req ε α)
    (within : Within allowed p) (stable : Stable d assertion)
    (dies : ∀ {β : Type} (request : Req β) s, allowed request → d.inv s → assertion s →
      S.mayCrash request s → d.crash s)
    (keeps : ∀ {β : Type} (request : Req β) choice s s' reply, allowed request → d.inv s →
      assertion s → S.permits request choice s → S.exec request choice s = some (s', reply) →
      d.inv s' ∧ d.guar s s' ∧ assertion s') :
    Triple S d assertion p (fun _ => assertion) := by
  induction p with
  | ret value => exact triple_ret value fun _ _ holds => holds
  | raise error => exact triple_raise error fun _ _ holds => holds
  | call request next ih =>
    intro s _ holds s₁ moved valid
    have before := stable s s₁ holds moved valid
    refine ⟨dies request s₁ within.1 valid before, ?_⟩
    intro choice s₂ reply permitted ran
    obtain ⟨after, stepped, kept⟩ :=
      keeps request choice s₁ s₂ reply within.1 valid before permitted ran
    exact ⟨after, stepped, ih reply (within.2 reply) s₂ after kept⟩

theorem safe_framed (p : Proc Req ε α) (s : σ) (within : Within allowed p) (stable : Stable d frame)
    (keeps : ∀ {β : Type} (request : Req β) choice s s' reply, allowed request → d.inv s →
      frame s → S.permits request choice s → S.exec request choice s = some (s', reply) →
      d.inv s' → d.guar s s' → frame s') (safe : Safe S d post p s) (framed : frame s) :
    Safe S d (fun result a => post result a ∧ frame a) p s := by
  induction p generalizing s with
  | ret | raise => exact ⟨safe, framed⟩
  | call request next ih =>
    intro s₁ moved valid
    obtain ⟨dies, runs⟩ := safe s₁ moved valid
    have before := stable s s₁ framed moved valid
    refine ⟨dies, fun choice s₂ reply permitted ran => ?_⟩
    obtain ⟨after, stepped, later⟩ := runs choice s₂ reply permitted ran
    have framed' := keeps request choice s₁ s₂ reply within.1 valid before permitted ran after
      stepped
    exact ⟨after, stepped, ih reply s₂ (within.2 reply) later framed'⟩

theorem triple_framed {pre : σ → Prop} (within : Within allowed p) (stable : Stable d frame)
    (keeps : ∀ {β : Type} (request : Req β) choice s s' reply, allowed request → d.inv s →
      frame s → S.permits request choice s → S.exec request choice s = some (s', reply) →
      d.inv s' → d.guar s s' → frame s') (spec : Triple S d pre p post) :
    Triple S d (fun s => pre s ∧ frame s) p (fun result s => post result s ∧ frame s) :=
  fun s valid holds => safe_framed p s within stable keeps (spec s valid holds.1) holds.2

theorem within_any (p : Proc Req ε α) : Within (fun _ => True) p := by
  induction p with
  | ret | raise => trivial
  | call request next ih => exact ⟨trivial, ih⟩

theorem triple_persists {pre fact : σ → Prop} (others : Stable d fact)
    (own : ∀ a b, fact a → d.guar a b → d.inv b → fact b) (spec : Triple S d pre p post) :
    Triple S d (fun s => pre s ∧ fact s) p (fun result s => post result s ∧ fact s) :=
  triple_framed (within_any p) others
    (fun _ _ a b _ _ _ before _ _ after stepped => own a b before stepped after) spec

end Within

end Interaction
