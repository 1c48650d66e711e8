import Mathlib.Algebra.Group.Int.Defs
import ScriptSocket.Proofs.Checks
import ScriptSocket.Proofs.Stream.InPlace

/-!
# Receiving

A receive looks at the handle and at the size before it calls the stack.  The call offers a buffer
of just that size, and the stack reports a count for it; the buffer as the stack left it is then cut
to the count, so whatever the stack reports, the script gets no more than it asked for.
-/

namespace ScriptSocket.Handle

open ScriptSocket.Stream

/-- What is looked at before the stack is called; a buffer of `2 ^ 62` bytes cannot be had. -/
def receiveChecks (h : Handle) (size : Int64) : List Check :=
  [⟨h.descriptor.isSome, .closed⟩, ⟨0 ≤ size.toInt, .value .negativeSize⟩,
    ⟨size.toInt < 2 ^ 62, .system .noMemory⟩]

/-- What the stack's reply to a receive of some size comes to. -/
def taken (h : Handle) (size : Nat) (reply : ReadReply) : Except Fault (List UInt8) × Handle :=
  match reply.outcome with
  | .error errno => (.error (.system errno), h)
  | .ok count =>
    (.ok ((overlay (zeros size) reply.stored).take count),
      if count = 0 ∧ 0 < size then { h with phase := .peerClosed } else h)

theorem negative_iff {size : Int64} : size < 0 ↔ ¬ 0 ≤ size.toInt := by
  rw [Int64.lt_iff_toInt_lt, Int.not_le]
  rfl

theorem unallocatable_iff {size : Int64} (hsize : 0 ≤ size.toInt) :
    unallocatable ≤ size.toNatClampNeg ↔ ¬ size.toInt < 2 ^ 62 := by
  have hnat : size.toNatClampNeg = size.toInt.toNat := rfl
  rw [hnat, unallocatable]
  omega

/-- A receive is refused or makes one call. -/
theorem receive_cases (h : Handle) (size : Int64) :
    (∃ fault, firstFault? (h.receiveChecks size) = some fault ∧
      h.receive size = h.refuse fault) ∨
    (firstFault? (h.receiveChecks size) = none ∧
      ∃ (descriptor : Int32) (room : Nat), h.descriptor = some descriptor ∧ room = size.toInt ∧
        h.receive size = .ask (.receive descriptor room) fun reply =>
          .done (h.taken room reply)) := by
  cases hdescriptor : h.descriptor with
  | none =>
      refine Or.inl ⟨.closed, ?_, whenOpen_closed hdescriptor _⟩
      simp [receiveChecks, hdescriptor]
  | some descriptor =>
      rw [receive, whenOpen_open hdescriptor]
      by_cases hsize : 0 ≤ size.toInt
      · rw [if_neg (not_not_intro hsize ∘ negative_iff.mp)]
        by_cases hroom : size.toInt < 2 ^ 62
        · have hallocated := not_not_intro hroom ∘ (unallocatable_iff hsize).mp
          refine Or.inr ⟨?_, descriptor, size.toNatClampNeg, rfl, Int.toNat_of_nonneg hsize, ?_⟩
          · simp only [receiveChecks, firstFault?_cons, hdescriptor, hsize, hroom]
            rfl
          · simp only [if_neg hallocated]
            congr 1
            funext reply
            rw [taken]
            cases reply.outcome with
            | error errno => rfl
            | ok count => cases count <;> simp
        · have hlarge := (unallocatable_iff hsize).mpr hroom
          refine Or.inl ⟨.system .noMemory, ?_, if_pos hlarge⟩
          simp only [receiveChecks, firstFault?_cons, hdescriptor, hsize, hroom]
          rfl
      · refine Or.inl ⟨.value .negativeSize, ?_, if_pos (negative_iff.mpr hsize)⟩
        simp [receiveChecks, hdescriptor, hsize]

section

variable {reply : ReadReply} {room count : Nat}

theorem taken_of_count (h : Handle) (hcount : reply.outcome = .ok count) :
    h.taken room reply = (.ok ((overlay (zeros room) reply.stored).take (min count room)),
      { h with phase := if count = 0 ∧ 0 < room then .peerClosed else h.phase }) := by
  have hcut := List.take_eq_take_min (i := count) (l := overlay (zeros room) reply.stored)
  rw [length_overlay, length_zeros] at hcut
  simp only [taken, hcount, hcut]
  split
  · rfl
  · rfl

theorem take_of_honest (honest : Honest room reply) (hcount : reply.outcome = .ok count) :
    (overlay (zeros room) reply.stored).take (min count room) = reply.stored := by
  have hstored := honest.count count hcount
  have hfits := honest.fits
  rw [overlay_of_length_le (by rwa [length_zeros]), ← hstored, Nat.min_eq_left hfits,
    List.take_left]

end

/-- A receive fails by the first check that is not met, without calling the stack, and leaves
everything as it was.  Otherwise it makes one call, for a buffer of the size asked for.  A failure
is passed on as it is and leaves the handle as it was; a count gives as many first bytes of the
buffer as the stack left it, and no more than were asked for.  From a stack that reports what it
stores these are the bytes it stored.  The phase is changed by a count of 0 for a buffer of some
size, and by nothing else. -/
theorem receive_gives_what_was_received
    {σ : Type} (h : Handle) (size : Int64) (respond : Responder NetworkStack σ) (state : σ) :
    let call := (h.receive size).run respond state
    (∀ fault, firstFault? (h.receiveChecks size) = some fault →
      call.value = (.error fault, h) ∧ call.exchanges = [] ∧ call.state = state) ∧
    (firstFault? (h.receiveChecks size) = none →
      ∃ (descriptor : Int32) (room : Nat), h.descriptor = some descriptor ∧ room = size.toInt ∧
        let replied := respond (.receive descriptor room) state
        call.exchanges = [⟨.receive descriptor room, replied.1⟩] ∧ call.state = replied.2 ∧
        (∀ errno, replied.1.outcome = .error errno →
          call.value = (.error (.system errno), h)) ∧
        ∀ count, replied.1.outcome = .ok count →
          ∃ bytes phase, call.value = (.ok bytes, { h with phase := phase }) ∧
            bytes = (overlay (zeros room) replied.1.stored).take (min count room) ∧
            bytes.length = min count room ∧
            (Honest room replied.1 → bytes = replied.1.stored) ∧
            phase = if count = 0 ∧ 0 < room then .peerClosed else h.phase) := by
  intro call
  rcases h.receive_cases size with ⟨fault, hfault, hreceive⟩ |
    ⟨hchecked, descriptor, room, hdescriptor, hroom, hreceive⟩
  · constructor
    · intro other hother
      obtain rfl : fault = other := Option.some.inj (hfault.symm.trans hother)
      simp only [call, hreceive]
      exact ⟨rfl, rfl, rfl⟩
    · intro hnone
      rw [hfault] at hnone
      cases hnone
  · constructor
    · intro fault hfault
      rw [hchecked] at hfault
      cases hfault
    · intro _
      refine ⟨descriptor, room, hdescriptor, hroom, ?_⟩
      intro replied
      have hcall : call = ⟨h.taken room replied.1, replied.2,
          [⟨.receive descriptor room, replied.1⟩], []⟩ := by
        simp only [call, hreceive]
        rfl
      rw [hcall]
      refine ⟨rfl, rfl, ?_, ?_⟩
      · intro errno hfailed
        simp only [taken, hfailed]
      · intro count hcount
        rw [h.taken_of_count hcount]
        exact ⟨_, _, rfl, rfl, by simp, fun honest => take_of_honest honest hcount, rfl⟩

/-- A stack that reports more than there is room for, and the end of the stream where there is none;
and a closed handle, to which a negative size does not matter. -/
theorem receive_gives_what_was_received_overstated :
    let h : Handle := ⟨some 3, .ipv4, .connected, {}⟩
    let closed := { h with descriptor := none }
    ((h.receive 3).run Scripted.StackScript.respond { receives := [.claims 5] }).value =
        (.ok [0, 0, 0], h) ∧
      ((h.receive 0).run Scripted.StackScript.respond {}).value = (.ok [], h) ∧
      ((closed.receive (-1)).run Scripted.StackScript.respond {}).value =
        (.error .closed, closed) := by
  intro h closed
  refine ⟨?_, ?_, ?_⟩
  · obtain ⟨descriptor, room, hdescriptor, hroom, -, -, -, hcount⟩ :=
      (receive_gives_what_was_received h 3 Scripted.StackScript.respond
        { receives := [.claims 5] }).2 rfl
    obtain rfl : room = 3 := Int.natCast_inj.mp hroom
    obtain ⟨bytes, phase, hvalue, rfl, -, -, rfl⟩ := hcount 5 rfl
    exact hvalue
  · obtain ⟨descriptor, room, hdescriptor, hroom, -, -, -, hcount⟩ :=
      (receive_gives_what_was_received h 0 Scripted.StackScript.respond {}).2 rfl
    obtain rfl : room = 0 := Int.natCast_inj.mp hroom
    obtain ⟨bytes, phase, hvalue, rfl, -, -, rfl⟩ := hcount 0 rfl
    exact hvalue
  · exact ((receive_gives_what_was_received closed (-1) Scripted.StackScript.respond {}).1
      .closed rfl).1

end ScriptSocket.Handle
