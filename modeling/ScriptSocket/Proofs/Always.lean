import ScriptSocket.Dialogue

/-!
# What holds of every run

`Dialogue.Always` says of a dialogue that its exchanges and its value have a property, whatever the
replies are.  It is read off the dialogue, reply by reply, and `Always.run` gives it for the run
with any responder.  `Dialogue.Asks` says of a dialogue which requests it may make, and
`Dialogue.Keeps` of a responder which replies it may give.
-/

namespace ScriptSocket.Dialogue

variable {I : Interface} {α β σ : Type} {P Q : List (Exchange I) → α → Prop}

def Always (P : List (Exchange I) → α → Prop) : Dialogue I α → Prop
  | .done value => P [] value
  | .ask request next => ∀ reply, (next reply).Always fun calls => P (⟨request, reply⟩ :: calls)
  | .note _ next => next.Always P

theorem Always.run {d : Dialogue I α} (hd : d.Always P) (respond : Responder I σ) (state : σ) :
    P (d.run respond state).exchanges (d.run respond state).value := by
  induction d generalizing P state with
  | done value => exact hd
  | ask request next ih => exact ih _ (hd _) _
  | note notice next ih => exact ih hd state

theorem Always.of_forall {d : Dialogue I α} (hP : ∀ calls value, P calls value) :
    d.Always P := by
  induction d generalizing P with
  | done value => exact hP [] value
  | ask request next ih =>
      intro reply
      exact ih reply fun calls => hP (⟨request, reply⟩ :: calls)
  | note notice next ih => exact ih hP

theorem Always.and {d : Dialogue I α} (hP : d.Always P) (hQ : d.Always Q) :
    d.Always fun calls value => P calls value ∧ Q calls value := by
  induction d generalizing P Q with
  | done value => exact ⟨hP, hQ⟩
  | ask request next ih =>
      intro reply
      exact ih reply (hP reply) (hQ reply)
  | note notice next ih => exact ih hP hQ

theorem Always.imp {d : Dialogue I α} (hd : d.Always P)
    (himp : ∀ calls value, P calls value → Q calls value) : d.Always Q := by
  induction d generalizing P Q with
  | done value => exact himp [] value hd
  | ask request next ih =>
      intro reply
      exact ih reply (hd reply) fun calls => himp (⟨request, reply⟩ :: calls)
  | note notice next ih => exact ih hd himp

theorem always_map_iff {P : List (Exchange I) → β → Prop} (f : α → β) (d : Dialogue I α) :
    (d.map f).Always P ↔ d.Always fun calls value => P calls (f value) := by
  induction d generalizing P with
  | done value => exact Iff.rfl
  | ask request next ih => exact forall_congr' fun reply => ih reply
  | note notice next ih => exact ih

/-- What follows is judged by the exchanges of both parts. -/
theorem Always.bind {P : List (Exchange I) → β → Prop} {d : Dialogue I α}
    {next : α → Dialogue I β}
    (hd : d.Always fun calls value => (next value).Always fun later => P (calls ++ later)) :
    (d.bind next).Always P := by
  induction d generalizing P with
  | done value => exact hd
  | ask request following ih =>
      intro reply
      exact ih reply (hd reply)
  | note notice following ih => exact ih hd

/-- Every request that may be made is allowed. -/
def Asks (allowed : I.Request → Prop) : Dialogue I α → Prop
  | .done _ => True
  | .ask request next => allowed request ∧ ∀ reply, (next reply).Asks allowed
  | .note _ next => next.Asks allowed

theorem Asks.bind {allowed : I.Request → Prop} {d : Dialogue I α} {next : α → Dialogue I β}
    (hd : d.Asks allowed) (hnext : ∀ value, (next value).Asks allowed) :
    (d.bind next).Asks allowed := by
  induction d with
  | done value => exact hnext value
  | ask request following ih => exact ⟨hd.1, fun reply => ih reply (hd.2 reply)⟩
  | note notice following ih => exact ih hd

theorem Asks.map {allowed : I.Request → Prop} {d : Dialogue I α} (hd : d.Asks allowed)
    (f : α → β) : (d.map f).Asks allowed := by
  rw [map_eq_bind]
  exact hd.bind fun _ => trivial

theorem Asks.always {allowed : I.Request → Prop} {d : Dialogue I α} (hd : d.Asks allowed) :
    d.Always fun calls _ => ∀ call ∈ calls, allowed call.request := by
  induction d with
  | done value => exact List.forall_mem_nil _
  | ask request next ih =>
      intro reply
      apply (ih reply (hd.2 reply)).imp
      intro later _ hlater
      exact List.forall_mem_cons.mpr ⟨hd.1, hlater⟩
  | note notice next ih => exact ih hd

theorem asks_relay
    {J : Interface} {allowed : J.Request → Prop}
    {serve : (request : I.Request) → σ → Dialogue J (I.Reply request × σ)}
    (hserve : ∀ request state, (serve request state).Asks allowed) (d : Dialogue I α) (state : σ) :
    (d.relay serve state).Asks allowed := by
  induction d generalizing state with
  | done value => trivial
  | ask request next ih => exact (hserve request state).bind fun served => ih served.1 served.2
  | note notice next ih => exact ih state

/-- A system that keeps to a contract in all its replies as long as its state is usable, and whose
state stays so. -/
structure Keeps (contract : Exchange I → Prop) (respond : Responder I σ) (usable : σ → Prop) :
    Prop where
  reply : ∀ request state, usable state → contract ⟨request, (respond request state).1⟩
  usable_after : ∀ request state, usable state → usable (respond request state).2

theorem Keeps.usable_run
    {contract : Exchange I → Prop} {respond : Responder I σ} {usable : σ → Prop}
    (hkeeps : Keeps contract respond usable) (d : Dialogue I α) {state : σ}
    (husable : usable state) : usable (d.run respond state).state := by
  induction d generalizing state with
  | done value => exact husable
  | note notice next ih => exact ih husable
  | ask request next ih => exact ih _ (hkeeps.usable_after request state husable)

theorem Keeps.exchanges
    {contract : Exchange I → Prop} {respond : Responder I σ} {usable : σ → Prop}
    (hkeeps : Keeps contract respond usable) (d : Dialogue I α) {state : σ}
    (husable : usable state) :
    ∀ exchange ∈ (d.run respond state).exchanges, contract exchange := by
  induction d generalizing state with
  | done value => simp [Dialogue.run]
  | note notice next ih => exact ih husable
  | ask request next ih =>
      simp only [Dialogue.run, List.forall_mem_cons]
      exact ⟨hkeeps.reply request state husable,
        ih _ (hkeeps.usable_after request state husable)⟩

/-- What always holds if the replies keep a contract holds of the run with a system that does. -/
theorem Always.run_of_keeps
    {contract : Exchange I → Prop} {d : Dialogue I α}
    (hd : d.Always fun calls value => (∀ call ∈ calls, contract call) → P calls value)
    {respond : Responder I σ} {usable : σ → Prop} (hkeeps : Keeps contract respond usable)
    {state : σ} (husable : usable state) :
    P (d.run respond state).exchanges (d.run respond state).value :=
  hd.run respond state (hkeeps.exchanges d husable)

end ScriptSocket.Dialogue
