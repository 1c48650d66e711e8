import ScriptSocket.Dialogue

/-!
# Dialogues in lockstep

Two dialogues are in lockstep if they make the same requests and the same notices, whatever the
replies are, and come to values that are related.  Nobody who answers them can then tell the one
from the other, and their runs differ in their values only.
-/

namespace ScriptSocket.Dialogue

variable {I : Interface} {α β γ δ σ : Type} {R : α → β → Prop} {S : γ → δ → Prop}

inductive Lockstep (R : α → β → Prop) : Dialogue I α → Dialogue I β → Prop where
  | done {value : α} {other : β} (hvalue : R value other) : Lockstep R (.done value) (.done other)
  | ask (request : I.Request) {next : I.Reply request → Dialogue I α}
      {following : I.Reply request → Dialogue I β}
      (hnext : ∀ reply, Lockstep R (next reply) (following reply)) :
      Lockstep R (.ask request next) (.ask request following)
  | note (notice : Notice) {next : Dialogue I α} {following : Dialogue I β}
      (hnext : Lockstep R next following) : Lockstep R (.note notice next) (.note notice following)

namespace Lockstep

theorem run
    {d : Dialogue I α} {e : Dialogue I β} (hlockstep : Lockstep R d e)
    (respond : Responder I σ) (state : σ) :
    (d.run respond state).exchanges = (e.run respond state).exchanges ∧
      (d.run respond state).notices = (e.run respond state).notices ∧
      (d.run respond state).state = (e.run respond state).state ∧
      R (d.run respond state).value (e.run respond state).value := by
  induction hlockstep generalizing state with
  | done hvalue => exact ⟨rfl, rfl, rfl, hvalue⟩
  | ask request hnext ih =>
      obtain ⟨hcalls, hnotices, hstate, hvalue⟩ :=
        ih (respond request state).1 (respond request state).2
      simp only [Dialogue.run]
      exact ⟨congrArg _ hcalls, hnotices, hstate, hvalue⟩
  | note notice hnext ih =>
      obtain ⟨hcalls, hnotices, hstate, hvalue⟩ := ih state
      simp only [Dialogue.run]
      exact ⟨hcalls, congrArg _ hnotices, hstate, hvalue⟩

theorem refl (d : Dialogue I α) : Lockstep Eq d d := by
  induction d with
  | done value => exact .done rfl
  | ask request next ih => exact .ask request ih
  | note notice next ih => exact .note notice ih

theorem bind
    {d : Dialogue I α} {e : Dialogue I β} {f : α → Dialogue I γ} {g : β → Dialogue I δ}
    (hlockstep : Lockstep R d e)
    (hnext : ∀ value other, R value other → Lockstep S (f value) (g other)) :
    Lockstep S (d.bind f) (e.bind g) := by
  induction hlockstep with
  | done hvalue => exact hnext _ _ hvalue
  | ask request _ ih => exact .ask request ih
  | note notice _ ih => exact .note notice ih

theorem map
    {d : Dialogue I α} {e : Dialogue I β} {f : α → γ} {g : β → δ}
    (hlockstep : Lockstep R d e) (hvalue : ∀ value other, R value other → S (f value) (g other)) :
    Lockstep S (d.map f) (e.map g) := by
  rw [map_eq_bind, map_eq_bind]
  exact hlockstep.bind fun value other hrel => .done (hvalue value other hrel)

end Lockstep

end ScriptSocket.Dialogue
