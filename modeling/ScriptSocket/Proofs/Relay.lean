import ScriptSocket.Dialogue

/-!
# Relayed dialogues

A server that answers one interface by dialogues over another is, together with whoever answers it,
a responder of its own.  A relayed dialogue comes to what the plain dialogue comes to with that
responder, so what is proved of transfers over any stream holds of transfers over a socket.
-/

namespace ScriptSocket.Dialogue

variable {I J : Interface} {α β σ τ : Type}

/-- A server and whoever answers it, taken as one. -/
def serving (respond : Responder J τ)
    (serve : (request : I.Request) → σ → Dialogue J (I.Reply request × σ)) :
    Responder I (σ × τ) :=
  fun request state =>
    let served := (serve request state.1).run respond state.2
    (served.value.1, served.value.2, served.state)

theorem run_relay
    (respond : Responder J τ)
    (serve : (request : I.Request) → σ → Dialogue J (I.Reply request × σ))
    (d : Dialogue I α) (state : σ) (below : τ) :
    ((d.relay serve state).run respond below).value =
        ((d.run (serving respond serve) (state, below)).value,
          (d.run (serving respond serve) (state, below)).state.1) ∧
      ((d.relay serve state).run respond below).state =
        (d.run (serving respond serve) (state, below)).state.2 := by
  induction d generalizing state below with
  | done value => exact ⟨rfl, rfl⟩
  | note notice next ih => exact ih state below
  | ask request next ih =>
      simp only [relay, run_bind, run, Run.andThen]
      exact ih _ _ _

theorem relay_bind
    (serve : (request : I.Request) → σ → Dialogue J (I.Reply request × σ))
    (d : Dialogue I α) (next : α → Dialogue I β) (state : σ) :
    (d.bind next).relay serve state =
      (d.relay serve state).bind fun (value, state) => (next value).relay serve state := by
  induction d generalizing state with
  | done value => rfl
  | note notice following ih => simp only [bind_note, relay, ih]
  | ask request following ih => simp only [bind_ask, relay, ih, bind_assoc]

end ScriptSocket.Dialogue
