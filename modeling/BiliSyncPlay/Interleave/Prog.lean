import Mathlib.Logic.Basic

/-!
# Sequential clients of a shared state

A call is a tree of commands: it returns, throws, or issues one command and continues with
whatever the shared state answers. A `Protocol` reads such a tree as an automaton, and
`Prog.Follows` says that every path through the tree stays inside the automaton.
-/

namespace Interleave

inductive Prog (Cmd : Type) (Ans : Cmd → Type) (ε α : Type) where
  | ret (value : α)
  | fail (error : ε)
  | op (cmd : Cmd) (next : Ans cmd → Prog Cmd Ans ε α)

namespace Prog

variable {Cmd : Type} {Ans : Cmd → Type} {ε α β : Type}

def bind : Prog Cmd Ans ε α → (α → Prog Cmd Ans ε β) → Prog Cmd Ans ε β
  | ret a, f => f a
  | fail e, _ => fail e
  | op c k, f => op c fun a => (k a).bind f

/-- `try … catch`: the handler takes over at the point of the throw, and commands issued
before it stay issued. -/
def rescue : Prog Cmd Ans ε α → (ε → Prog Cmd Ans ε α) → Prog Cmd Ans ε α
  | ret a, _ => ret a
  | fail e, h => h e
  | op c k, h => op c fun a => (k a).rescue h

instance : Monad (Prog Cmd Ans ε) where
  pure := ret
  bind := bind

instance : MonadExcept ε (Prog Cmd Ans ε) where
  throw := fail
  tryCatch := rescue

def perform (c : Cmd) : Prog Cmd Ans ε (Ans c) := op c ret

/-- `try … finally`, for a cleanup that does not throw. -/
def ensuring (p : Prog Cmd Ans ε α) (cleanup : Prog Cmd Ans ε Unit) : Prog Cmd Ans ε α :=
  (p.rescue fun e => cleanup.bind fun _ => fail e).bind fun a => cleanup.bind fun _ => ret a

/-- The command a client is waiting on, if it has not settled. -/
def next? : Prog Cmd Ans ε α → Option Cmd
  | op c _ => some c
  | _ => none

def settled : Prog Cmd Ans ε α → Bool
  | op _ _ => false
  | _ => true

end Prog

/-- An automaton over commands. `permits` is what a client may issue in a phase, `expects`
what it may assume of the answer, and `after` the phase that answer leads to. -/
structure Protocol (Cmd : Type) (Ans : Cmd → Type) where
  Phase : Type
  permits : Phase → Cmd → Prop
  expects : Phase → (c : Cmd) → Ans c → Prop
  after : Phase → (c : Cmd) → Ans c → Phase

namespace Prog

variable {Cmd : Type} {Ans : Cmd → Type} {ε α β : Type}

/-- Every path of the client is one the protocol permits, and ends in `Q`. -/
def Follows (P : Protocol Cmd Ans) :
    P.Phase → Prog Cmd Ans ε α → (P.Phase → Except ε α → Prop) → Prop
  | φ, ret a, Q => Q φ (.ok a)
  | φ, fail e, Q => Q φ (.error e)
  | φ, op c k, Q => P.permits φ c ∧ ∀ a, P.expects φ c a → Follows P (P.after φ c a) (k a) Q

variable {P : Protocol Cmd Ans} {φ : P.Phase} {Q : P.Phase → Except ε β → Prop}

@[simp] theorem follows_pure {b : β} : Follows P φ (pure b : Prog Cmd Ans ε β) Q ↔ Q φ (.ok b) :=
  Iff.rfl

@[simp] theorem follows_throw {e : ε} :
    Follows P φ (throw e : Prog Cmd Ans ε β) Q ↔ Q φ (.error e) := Iff.rfl

@[simp] theorem follows_op {c : Cmd} {k : Ans c → Prog Cmd Ans ε β} :
    Follows P φ (op c k) Q ↔
      P.permits φ c ∧ ∀ a, P.expects φ c a → Follows P (P.after φ c a) (k a) Q := Iff.rfl

@[simp] theorem follows_perform {c : Cmd} {Q : P.Phase → Except ε (Ans c) → Prop} :
    Follows P φ (perform c : Prog Cmd Ans ε (Ans c)) Q ↔
      P.permits φ c ∧ ∀ a, P.expects φ c a → Q (P.after φ c a) (.ok a) := Iff.rfl

/-- What is left of a client once a step of `x >>= f` has settled `x`. -/
def andThen (P : Protocol Cmd Ans) (f : α → Prog Cmd Ans ε β)
    (Q : P.Phase → Except ε β → Prop) : P.Phase → Except ε α → Prop
  | φ, .ok a => Follows P φ (f a) Q
  | φ, .error e => Q φ (.error e)

def orElse (P : Protocol Cmd Ans) (h : ε → Prog Cmd Ans ε β)
    (Q : P.Phase → Except ε β → Prop) : P.Phase → Except ε β → Prop
  | φ, .ok b => Q φ (.ok b)
  | φ, .error e => Follows P φ (h e) Q

@[simp] theorem andThen_ok {f : α → Prog Cmd Ans ε β} {a : α} :
    andThen P f Q φ (.ok a) = Follows P φ (f a) Q := rfl

@[simp] theorem andThen_error {f : α → Prog Cmd Ans ε β} {e : ε} :
    andThen P f Q φ (.error e) = Q φ (.error e) := rfl

@[simp] theorem orElse_ok {h : ε → Prog Cmd Ans ε β} {b : β} :
    orElse P h Q φ (.ok b) = Q φ (.ok b) := rfl

@[simp] theorem orElse_error {h : ε → Prog Cmd Ans ε β} {e : ε} :
    orElse P h Q φ (.error e) = Follows P φ (h e) Q := rfl

@[simp] theorem follows_bind {x : Prog Cmd Ans ε α} {f : α → Prog Cmd Ans ε β} :
    Follows P φ (x >>= f) Q ↔ Follows P φ x (andThen P f Q) := by
  change Follows P φ (x.bind f) Q ↔ _
  induction x generalizing φ with
  | ret | fail => exact Iff.rfl
  | op c k ih => simp only [bind, Follows, ih]

@[simp] theorem follows_tryCatch {x : Prog Cmd Ans ε β} {h : ε → Prog Cmd Ans ε β} :
    Follows P φ (tryCatch x h) Q ↔ Follows P φ x (orElse P h Q) := by
  change Follows P φ (x.rescue h) Q ↔ _
  induction x generalizing φ with
  | ret | fail => exact Iff.rfl
  | op c k ih => simp only [rescue, Follows, ih]

theorem Follows.mono {x : Prog Cmd Ans ε β} {Q' : P.Phase → Except ε β → Prop}
    (h : Follows P φ x Q) (weaken : ∀ ψ r, Q ψ r → Q' ψ r) : Follows P φ x Q' := by
  induction x generalizing φ with
  | ret | fail => exact weaken _ _ h
  | op c k ih => exact ⟨h.1, fun a ha => ih a (h.2 a ha)⟩

theorem follows_ensuring {x : Prog Cmd Ans ε β} {cleanup : Prog Cmd Ans ε Unit} :
    Follows P φ (x.ensuring cleanup) Q ↔ Follows P φ x fun ψ r =>
      Follows P ψ cleanup fun χ c => Q χ (c.bind fun _ => r) := by
  change Follows P φ (tryCatch x _ >>= _) Q ↔ _
  rw [follows_bind, follows_tryCatch]
  constructor <;> intro h <;> refine h.mono fun ψ r hr => ?_
  · cases r with
    | ok b => exact (follows_bind.mp hr).mono fun χ c hc => by cases c <;> exact hc
    | error e =>
      exact (follows_bind.mp hr).mono fun χ c hc => by cases c <;> exact hc
  · cases r with
    | ok b => exact follows_bind.mpr (hr.mono fun χ c hc => by cases c <;> exact hc)
    | error e =>
      exact follows_bind.mpr (hr.mono fun χ c hc => by cases c <;> exact hc)

end Prog

end Interleave
