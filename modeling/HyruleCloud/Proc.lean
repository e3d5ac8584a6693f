import Mathlib.Logic.Function.Basic

/-!
Handlers that touch shared state only through requests. A program is a tree:
it returns, it fails with an error, or it issues one request and continues from
the reply. Between two requests nothing else is visible, so a request is the
unit of interleaving and the only place where a process can die.

`Machine` gives a request its meaning on the shared state. The reply is chosen
together with an oracle value, which stands for everything outside the program:
the answer of a remote service, a lost acknowledgement, the time of day. `none`
means that the request cannot proceed now (a lock is taken).
-/

namespace Interaction

inductive Proc (Req : Type → Type) (ε : Type) (α : Type) : Type 1 where
  | ret (value : α) : Proc Req ε α
  | raise (error : ε) : Proc Req ε α
  | call {β : Type} (request : Req β) (next : Except ε β → Proc Req ε α) : Proc Req ε α

variable {Req : Type → Type} {ε α β σ κ : Type}

namespace Proc

def bind : Proc Req ε α → (α → Proc Req ε β) → Proc Req ε β
  | .ret value, rest => rest value
  | .raise error, _ => .raise error
  | .call request next, rest => .call request fun reply => (next reply).bind rest

/-- `try p except error: handler error`. -/
def rescue : Proc Req ε α → (ε → Proc Req ε α) → Proc Req ε α
  | .ret value, _ => .ret value
  | .raise error, handler => handler error
  | .call request next, handler => .call request fun reply => (next reply).rescue handler

def attempt : Proc Req ε α → Proc Req ε (Except ε α)
  | .ret value => .ret (.ok value)
  | .raise error => .ret (.error error)
  | .call request next => .call request fun reply => (next reply).attempt

def ofReply : Except ε α → Proc Req ε α
  | .ok value => .ret value
  | .error error => .raise error

def perform (request : Req β) : Proc Req ε β := .call request ofReply

instance : Monad (Proc Req ε) where
  pure := .ret
  bind := bind

/-- `for attempt in range(n): try: p; break`, with whether it ever succeeded. -/
def retry (p : Proc Req ε Unit) : Nat → Proc Req ε Bool
  | 0 => .ret false
  | n + 1 => (p.bind fun _ => .ret true).rescue fun _ => retry p n

def embed {Wide : Type → Type} (into : {β : Type} → Req β → Wide β) :
    Proc Req ε α → Proc Wide ε α
  | .ret value => .ret value
  | .raise error => .raise error
  | .call request next => .call (into request) fun reply => (next reply).embed into

@[simp] theorem pure_eq (value : α) : (pure value : Proc Req ε α) = .ret value := rfl

@[simp] theorem ret_bind (value : α) (rest : α → Proc Req ε β) :
    (Proc.ret value >>= rest) = rest value := rfl

end Proc

abbrev Machine (Req : Type → Type) (ε σ κ : Type) :=
  {β : Type} → Req β → κ → σ → Option (σ × Except ε β)

/-- One process working through its oracle values. Running out of them is a
crash: the rest of the program never happens. -/
def Proc.play (exec : Machine Req ε σ κ) : Proc Req ε α → List κ → σ → Proc Req ε α × σ
  | .call request next, choice :: choices, s =>
    match exec request choice s with
    | some (s', reply) => (next reply).play exec choices s'
    | none => (Proc.call request next).play exec choices s
  | p, _, s => (p, s)

end Interaction
