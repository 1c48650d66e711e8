import ScriptSocket.Notice

/-!
# Dialogues

What an operation does is a dialogue with the system below it: requests, each continued according
to the reply, notices in between, and a value at the end.  Whoever answers, whether the real stack,
a script of prepared answers or any stack at all in a theorem, is a `Responder`; `run` holds the
dialogue with it and keeps the exchanges and notices in order.  `relay` answers the requests of one
interface by dialogues over another.
-/

namespace ScriptSocket

structure Interface where
  Request : Type
  Reply : Request → Type

/-- A computation that asks a system. -/
inductive Dialogue (I : Interface) (α : Type) where
  | done (value : α)
  | ask (request : I.Request) (next : I.Reply request → Dialogue I α)
  | note (notice : Notice) (next : Dialogue I α)

structure Exchange (I : Interface) where
  request : I.Request
  reply : I.Reply request

/-- A system that answers every request and changes its state by it. -/
abbrev Responder (I : Interface) (σ : Type) := (request : I.Request) → σ → I.Reply request × σ

namespace Dialogue

variable {I J : Interface} {α β γ σ : Type}

def bind : Dialogue I α → (α → Dialogue I β) → Dialogue I β
  | .done value, f => f value
  | .ask request next, f => .ask request fun reply => (next reply).bind f
  | .note notice next, f => .note notice (next.bind f)

def map (f : α → β) : Dialogue I α → Dialogue I β
  | .done value => .done (f value)
  | .ask request next => .ask request fun reply => (next reply).map f
  | .note notice next => .note notice (next.map f)

instance : Monad (Dialogue I) where
  pure := .done
  bind := bind
  map := map

@[simp] theorem bind_done (value : α) (f : α → Dialogue I β) : (done value).bind f = f value := rfl

@[simp] theorem bind_ask (request : I.Request) (next : I.Reply request → Dialogue I α)
    (f : α → Dialogue I β) :
    (ask request next).bind f = .ask request fun r => (next r).bind f := rfl

@[simp] theorem bind_note (notice : Notice) (next : Dialogue I α) (f : α → Dialogue I β) :
    (note notice next).bind f = .note notice (next.bind f) := rfl

@[simp] theorem map_done (f : α → β) (value : α) :
    (done value : Dialogue I α).map f = .done (f value) := rfl

@[simp] theorem map_ask (f : α → β) (request : I.Request)
    (next : I.Reply request → Dialogue I α) :
    (ask request next).map f = .ask request fun r => (next r).map f := rfl

@[simp] theorem map_note (f : α → β) (notice : Notice) (next : Dialogue I α) :
    (note notice next).map f = .note notice (next.map f) := rfl

theorem bind_done_right (d : Dialogue I α) : d.bind .done = d := by
  induction d with
  | done _ => rfl
  | ask request next ih => simp [ih]
  | note notice next ih => simp [ih]

theorem bind_assoc (d : Dialogue I α) (f : α → Dialogue I β) (g : β → Dialogue I γ) :
    (d.bind f).bind g = d.bind fun value => (f value).bind g := by
  induction d with
  | done _ => rfl
  | ask request next ih => simp [ih]
  | note notice next ih => simp [ih]

theorem map_eq_bind (f : α → β) (d : Dialogue I α) :
    d.map f = d.bind fun value => .done (f value) := by
  induction d with
  | done _ => rfl
  | ask request next ih => simp [ih]
  | note notice next ih => simp [ih]

instance : LawfulMonad (Dialogue I) := by
  refine LawfulMonad.mk' (Dialogue I) ?_ (fun _ _ => rfl) bind_assoc (fun _ _ => rfl)
    (fun _ _ => rfl) (fun _ _ => rfl) (fun f d => (map_eq_bind f d).symm) (fun _ _ => rfl)
  intro α d
  change d.map id = d
  rw [map_eq_bind]
  exact bind_done_right d

/-- What a dialogue comes to with a given responder. -/
structure Run (I : Interface) (σ α : Type) where
  value : α
  state : σ
  exchanges : List (Exchange I)
  notices : List Notice

def run (respond : Responder I σ) : Dialogue I α → σ → Run I σ α
  | .done value, state => ⟨value, state, [], []⟩
  | .ask request next, state =>
    let replied := respond request state
    let rest := (next replied.1).run respond replied.2
    { rest with exchanges := ⟨request, replied.1⟩ :: rest.exchanges }
  | .note notice next, state =>
    let rest := next.run respond state
    { rest with notices := notice :: rest.notices }

def Run.andThen (first : Run I σ α) (second : Run I σ β) : Run I σ β where
  value := second.value
  state := second.state
  exchanges := first.exchanges ++ second.exchanges
  notices := first.notices ++ second.notices

theorem run_bind (respond : Responder I σ) (d : Dialogue I α) (f : α → Dialogue I β) (state : σ) :
    (d.bind f).run respond state =
      (d.run respond state).andThen
        ((f (d.run respond state).value).run respond (d.run respond state).state) := by
  induction d generalizing state with
  | done value => simp [run, Run.andThen]
  | ask request next ih => simp [run, ih, Run.andThen]
  | note notice next ih => simp [run, ih, Run.andThen]

theorem run_map (respond : Responder I σ) (f : α → β) (d : Dialogue I α) (state : σ) :
    (d.map f).run respond state =
      { d.run respond state with value := f (d.run respond state).value } := by
  induction d generalizing state with
  | done value => rfl
  | ask request next ih => simp [run, ih]
  | note notice next ih => simp [run, ih]

/-- A dialogue over `I` held over `J`: a server with a state of its own answers each request. -/
def relay (serve : (request : I.Request) → σ → Dialogue J (I.Reply request × σ)) :
    Dialogue I α → σ → Dialogue J (α × σ)
  | .done value, state => .done (value, state)
  | .ask request next, state =>
    (serve request state).bind fun served => (next served.1).relay serve served.2
  | .note notice next, state => .note notice (next.relay serve state)

end Dialogue

end ScriptSocket
