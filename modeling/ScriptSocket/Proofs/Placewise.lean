import Mathlib.Data.List.Forall2

/-!
# Lists related place by place

What `List.Forall₂` says of a single place of two lists, and what a change of one place keeps of it.
-/

namespace ScriptSocket

variable {α β : Type} {R : α → β → Prop} {l : List α} {m : List β} {a : α} {b : β} {place : Nat}

theorem forall₂_getElem?
    (hrel : List.Forall₂ R l m) (ha : l[place]? = some a) :
    ∃ b, m[place]? = some b ∧ R a b := by
  induction hrel generalizing place with
  | nil => simp at ha
  | cons hhead _ ih =>
      cases place with
      | zero =>
          cases ha
          exact ⟨_, rfl, hhead⟩
      | succ place => exact ih ha

theorem forall₂_set
    (hrel : List.Forall₂ R l m) (hab : R a b) (place : Nat) :
    List.Forall₂ R (l.set place a) (m.set place b) := by
  induction hrel generalizing place with
  | nil => exact .nil
  | cons hhead htail ih =>
      cases place with
      | zero => exact .cons hab htail
      | succ place => exact .cons hhead (ih place)

theorem forall₂_set_left
    (hrel : List.Forall₂ R l m) (hb : m[place]? = some b) (hab : R a b) :
    List.Forall₂ R (l.set place a) m := by
  obtain ⟨hlt, hget⟩ := List.getElem?_eq_some_iff.mp hb
  have hself : m.set place b = m := by
    rw [← hget]
    exact List.set_getElem_self hlt
  rw [← hself]
  exact forall₂_set hrel hab place

end ScriptSocket
