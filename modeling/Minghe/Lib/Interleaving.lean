import Mathlib.Data.List.Induction
import Minghe.Lib.Table

/-!
# Programs over shared state

A `Program` makes requests, one after the other, and goes on with the reply to each. A request is what
happens under a lock, or a look at something outside; `act` says what it does to the shared state, and `Env`
is what it sees of the outside.

* `alone` runs a program to its end, with nothing between its requests.
* `Interleaving` is a state with any number of programs under way; `step` starts one, or lets one of them
  make its next request.

`run_invariant` is the rule for a property of the shared state: what every request keeps holds in every
state that is reached.
-/

namespace Minghe.Lib

/-- A program that makes requests of `Req` and has a result in `α`. -/
inductive Program {Req : Type} (Reply : Req → Type) (α : Type) where
  | pure (a : α)
  | request (r : Req) (k : Reply r → Program Reply α)

namespace Program

variable {Req : Type} {Reply : Req → Type} {α β S Env : Type}

def bind : Program Reply α → (α → Program Reply β) → Program Reply β
  | .pure a, f => f a
  | .request r k, f => .request r fun reply => (k reply).bind f

instance : Monad (Program Reply) where
  pure := .pure
  bind := .bind

/-- A program that makes one request. -/
def ask (r : Req) : Program Reply (Reply r) := .request r .pure

/-- The result and the state, when nothing comes between the requests. -/
def alone (act : (r : Req) → Env → S → Reply r × S) (env : Env) : Program Reply α → S → α × S
  | .pure a, s => (a, s)
  | .request r k, s => (k (act r env s).1).alone act env (act r env s).2

variable (act : (r : Req) → Env → S → Reply r × S) (env : Env)

@[simp] theorem alone_pure (a : α) (s : S) : (pure a : Program Reply α).alone act env s = (a, s) := rfl

@[simp] theorem alone_ask (r : Req) (s : S) :
    (ask r : Program Reply (Reply r)).alone act env s = act r env s := rfl

@[simp] theorem alone_bind (p : Program Reply α) (f : α → Program Reply β) (s : S) :
    (p >>= f).alone act env s = (f (p.alone act env s).1).alone act env (p.alone act env s).2 := by
  change (p.bind f).alone act env s = _
  induction p generalizing s with
  | pure a => rfl
  | request r k ih => exact ih (act r env s).1 (act r env s).2

end Program

/-- What happens: an execution of `c` begins, or one makes its next request. -/
inductive InterleavingEvent (C Env : Type) where
  | start (id : Nat) (c : C)
  | advance (id : Nat) (env : Env)

/-- The shared state, and the executions that are under way. -/
structure Interleaving (S : Type) {Req : Type} (Reply : Req → Type) where
  shared : S
  running : Table Nat (Program Reply Unit) := ∅

namespace Interleaving

variable {Req : Type} {Reply : Req → Type} {S Env C : Type} (act : (r : Req) → Env → S → Reply r × S)
  (body : C → Program Reply Unit)

/-- One event. -/
def step (s : Interleaving S Reply) : InterleavingEvent C Env → Interleaving S Reply
  | .start id c =>
    match s.running.lookup id with
    | some _ => s
    | none => { s with running := s.running.insert id (body c) }
  | .advance id env =>
    match s.running.lookup id with
    | some (.request r k) =>
      { shared := (act r env s.shared).2
        running := s.running.insert id (k (act r env s.shared).1) }
    | _ => s

/-- A run. -/
def run (init : S) (events : List (InterleavingEvent C Env)) : Interleaving S Reply :=
  events.foldl (step act body) { shared := init }

/-- The next request of an execution. -/
theorem step_advance {s : Interleaving S Reply} {id : Nat} {r : Req} {k : Reply r → Program Reply Unit}
    (h : s.running.lookup id = some (.request r k)) (env : Env) :
    (s.step act body (.advance id env)).shared = (act r env s.shared).2 := by
  unfold step
  simp only [h]

/-- **The rule of interleavings.** -/
theorem run_invariant {P : S → Prop} (hact : ∀ r env s, P s → P (act r env s).2) {init : S} (h : P init)
    (events : List (InterleavingEvent C Env)) : P (run act body init events).shared := by
  induction events using List.reverseRecOn with
  | nil => exact h
  | append_singleton events event ih =>
    rw [run, List.foldl_append, List.foldl_cons, List.foldl_nil]
    change P (step act body (run act body init events) event).shared
    unfold step
    cases event with
    | start id c =>
      dsimp only
      split <;> exact ih
    | advance id env =>
      dsimp only
      split
      · exact hact _ env _ ih
      · exact ih

end Interleaving

end Minghe.Lib
