import ScriptSocket.Stream.Transfer

/-!
# What a transfer answers

A transfer of a bounded amount answers by the way it ended: with what it has to give, with the value
`none` if the stream would have blocked before anything moved, or with the failure.  `resultOf` is
that answer, and reading, reading in place and writing give it for their bytes or their count.
-/

namespace ScriptSocket.Stream

variable {given : Value} {count : Nat} {ending : Except Errno Ending}

theorem endingOf_eq_error_iff {e errno : Errno} :
    endingOf e = .error errno ↔ errno ≠ .again ∧ errno = e := by
  unfold endingOf
  by_cases hblock : e.wouldBlock = true
  · rw [if_pos hblock, Errno.wouldBlock_iff.mp hblock]
    simp
  · have hagain : e ≠ .again := mt Errno.wouldBlock_iff.mpr hblock
    rw [if_neg hblock, Except.error.injEq, eq_comm]
    exact ⟨fun hsame => ⟨hsame ▸ hagain, hsame⟩, And.right⟩

theorem endingOf_eq_wouldBlock_iff {e : Errno} : endingOf e = .ok .wouldBlock ↔ e = .again := by
  rw [← Errno.wouldBlock_iff]
  unfold endingOf
  split <;> simp_all

theorem endingOf_ne_complete (e : Errno) : endingOf e ≠ .ok .complete := by
  unfold endingOf
  split <;> simp

theorem countValue_ne_none (count : Nat) : countValue count ≠ .none := by
  simp [countValue]

/-- The answer of a transfer that moved `count` bytes and has `given` to give for them. -/
def resultOf (given : Value) (count : Nat) : Except Errno Ending → Except Fault Value
  | .error e => .error (.system e)
  | .ok .wouldBlock => if count = 0 then .ok .none else .ok given
  | .ok .complete => .ok given

theorem resultOf_cases (given : Value) (count : Nat) (ending : Except Errno Ending) :
    resultOf given count ending = .ok .none ∨ resultOf given count ending = .ok given ∨
      ∃ e, resultOf given count ending = .error (.system e) := by
  unfold resultOf
  split
  · exact Or.inr (Or.inr ⟨_, rfl⟩)
  · split
    · exact Or.inl rfl
    · exact Or.inr (Or.inl rfl)
  · exact Or.inr (Or.inl rfl)

theorem resultOf_eq_none_iff (hgiven : given ≠ .none) :
    resultOf given count ending = .ok .none ↔ ending = .ok .wouldBlock ∧ count = 0 := by
  unfold resultOf
  split
  · simp
  · split <;> simp_all
  · simp [hgiven]

theorem resultOf_eq_ok_iff {value : Value} (hvalue : value ≠ .none) :
    resultOf given count ending = .ok value ↔
      (ending = .ok .complete ∨ ending = .ok .wouldBlock ∧ count ≠ 0) ∧ given = value := by
  unfold resultOf
  split
  · simp
  · split <;> simp_all [eq_comm]
  · simp

theorem resultOf_eq_error_iff {fault : Fault} :
    resultOf given count ending = .error fault ↔ ∃ e, fault = .system e ∧ ending = .error e := by
  unfold resultOf
  split
  · simp [eq_comm]
  · split <;> simp
  · simp

theorem read_eq_map_fill (size : Nat) :
    read size = (fill (zeros size)).map fun filling =>
      resultOf (.bytes (filling.buffer.take filling.count)) filling.count filling.ending :=
  rfl

theorem readInto_eq_map_fill (buffer : List UInt8) :
    readInto buffer = (fill buffer).map fun filling =>
      (resultOf (countValue filling.count) filling.count filling.ending, filling.buffer) :=
  rfl

theorem write_eq_map_push (data : List UInt8) :
    write data = (push data).map fun pushed =>
      resultOf (countValue pushed.1) pushed.1 pushed.2 :=
  rfl

end ScriptSocket.Stream
