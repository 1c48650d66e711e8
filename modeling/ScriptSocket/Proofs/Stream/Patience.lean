import ScriptSocket.Proofs.Stream.Conservation

/-!
# Patience that suffices

The two transfers without a bound are given up when their patience is spent, and reading to the end
also when the stream reports more bytes than a piece holds.  Neither happens over a prepared queue
whose claims fit into a piece, if there is as much patience as `readsLeft` says: a read that moves
something leaves less of the queue to be read.
-/

namespace ScriptSocket.Scripted

open Dialogue

/-- No entry claims more than a piece holds. -/
def Modest (queue : List ReadEntry) : Prop :=
  ∀ count, ReadEntry.claims count ∈ queue → count ≤ Stream.pieceSize

theorem readsLeft_pos (queue : List ReadEntry) : 0 < readsLeft queue := by
  cases queue with
  | nil => exact Nat.one_pos
  | cons entry rest => cases entry <;> simp only [readsLeft] <;> omega

section

variable {size moved : Nat} {queue : List ReadEntry}

theorem Modest.tail {entry : ReadEntry} (hmodest : Modest (entry :: queue)) : Modest queue :=
  fun count hmem => hmodest count (List.mem_cons_of_mem entry hmem)

theorem Modest.readReply (hmodest : Modest queue) (size : Nat) :
    Modest (readReply size queue).2 := by
  cases queue with
  | nil => exact hmodest
  | cons entry rest =>
      cases entry with
      | data bytes =>
          simp only [Scripted.readReply]
          split
          · exact hmodest.tail
          · intro count hmem
            simp only [List.mem_cons, reduceCtorEq, false_or] at hmem
            exact hmodest.tail count hmem
      | fails errno => exact hmodest.tail
      | claims count => exact hmodest.tail

theorem Modest.moved_lt
    (hmodest : Modest queue) (hsize : size ≤ Stream.pieceSize)
    (hmoved : (Scripted.readReply size queue).1.outcome = .ok (moved + 1)) :
    moved < Stream.pieceSize := by
  cases queue with
  | nil => simp [Scripted.readReply] at hmoved
  | cons entry rest =>
      cases entry with
      | data bytes =>
          simp only [Scripted.readReply, Except.ok.injEq] at hmoved
          omega
      | fails errno => simp [Scripted.readReply] at hmoved
      | claims count =>
          have hcount := hmodest count List.mem_cons_self
          simp only [Scripted.readReply, Except.ok.injEq] at hmoved
          omega

theorem readsLeft_readReply_le (size : Nat) (queue : List ReadEntry) :
    readsLeft (readReply size queue).2 ≤ readsLeft queue := by
  cases queue with
  | nil => exact Nat.le_refl _
  | cons entry rest =>
      cases entry with
      | data bytes =>
          simp only [readReply]
          split <;> simp only [readsLeft, List.length_drop] <;> omega
      | fails errno => simp only [readReply, readsLeft]; omega
      | claims count => simp only [readReply, readsLeft]; omega

theorem readsLeft_readReply_lt (hmoved : (readReply size queue).1.outcome = .ok (moved + 1)) :
    readsLeft (readReply size queue).2 < readsLeft queue := by
  cases queue with
  | nil => simp [readReply] at hmoved
  | cons entry rest =>
      cases entry with
      | data bytes =>
          simp only [readReply, Except.ok.injEq] at hmoved
          simp only [readReply]
          split <;> simp only [readsLeft, List.length_drop] <;> omega
      | fails errno => simp [readReply] at hmoved
      | claims count => simp only [readReply, readsLeft]; omega

end

/-- What is left of a queue for a patience that suffices. -/
structure Remains (patience : Nat) (queue : List ReadEntry) : Prop where
  modest : Modest queue
  readsLeft_le : readsLeft queue ≤ patience

theorem Remains.not_zero {queue : List ReadEntry} (hremains : Remains 0 queue) : False := by
  have hpos := readsLeft_pos queue
  have hleft := hremains.readsLeft_le
  omega

theorem Remains.readReply
    {patience : Nat} {queue : List ReadEntry} (hremains : Remains patience queue) (size : Nat) :
    Remains patience (readReply size queue).2 :=
  ⟨hremains.modest.readReply size,
    Nat.le_trans (readsLeft_readReply_le size queue) hremains.readsLeft_le⟩

theorem Remains.readReply_of_moved
    {patience size moved : Nat} {queue : List ReadEntry}
    (hremains : Remains (patience + 1) queue)
    (hmoved : (Scripted.readReply size queue).1.outcome = .ok (moved + 1)) :
    Remains patience (Scripted.readReply size queue).2 :=
  ⟨hremains.modest.readReply size,
    Nat.le_of_lt_succ (Nat.lt_of_lt_of_le (readsLeft_readReply_lt hmoved) hremains.readsLeft_le)⟩

section

variable {α : Type} {patience : Nat} {script : StreamScript}

theorem Remains.run
    (hremains : Remains patience script.reads) (d : Dialogue ByteStream α) :
    Remains patience (d.run StreamScript.respond script).state.reads := by
  induction d generalizing script with
  | done value => exact hremains
  | note notice next ih => exact ih hremains
  | ask request next ih =>
      cases request with
      | read size => exact ih _ (hremains.readReply size)
      | write data => exact ih _ hremains
      | control request argument => exact ih _ hremains

theorem Remains.readPieces_ne_none
    (hremains : Remains patience script.reads) {piece : List UInt8}
    (hpiece : piece.length = Stream.pieceSize) (taken : List UInt8) :
    ((Stream.readPieces piece taken patience).run StreamScript.respond script).value ≠ none := by
  induction patience generalizing script piece taken with
  | zero => exact hremains.not_zero.elim
  | succ patience ih =>
      simp only [Stream.readPieces, Dialogue.run]
      have hoverlay : (Stream.overlay piece
          (StreamScript.respond (.read piece.length) script).1.stored).length =
            Stream.pieceSize := by
        rw [Stream.length_overlay, hpiece]
      split
      · simp [Dialogue.run]
      · rename_i moved hmoved
        have hroom := hremains.modest.moved_lt (Nat.le_of_eq hpiece) hmoved
        rw [if_pos (hoverlay ▸ hroom)]
        exact ih (hremains.readReply_of_moved hmoved) hoverlay _
      · split <;> simp [Dialogue.run]

/-- Reading bytes comes to an answer if there is one at the limit, or the limit is not reached. -/
theorem readBytes_ne_none
    {atLimit : List UInt8 → Option (Except Fault Value)} {limit : Nat}
    (hlimit : Remains limit script.reads ∨ ∀ line, atLimit line ≠ none)
    (cell line : List UInt8) :
    ((Stream.readBytes atLimit cell line limit).run StreamScript.respond script).value ≠ none := by
  induction limit generalizing script cell line with
  | zero =>
      rcases hlimit with hremains | hanswer
      · exact hremains.not_zero.elim
      · exact hanswer line
  | succ limit ih =>
      simp only [Stream.readBytes, Dialogue.run]
      split
      · simp [Dialogue.run]
      · rename_i moved hmoved
        split
        · simp [Dialogue.run]
        · apply ih
          exact hlimit.imp_left fun hremains => hremains.readReply_of_moved hmoved
      · split <;> simp [Dialogue.run]

theorem ofPatient_ne_unanswered {result : Option (Except Fault Value)} (hresult : result ≠ none) :
    Stream.Answer.ofPatient result ≠ .unanswered := by
  cases result with
  | none => exact absurd rfl hresult
  | some result => exact nofun

theorem Remains.answered
    (hremains : Remains patience script.reads) (method : Stream.Method) :
    ((method.perform patience).run StreamScript.respond script).value ≠ .unanswered := by
  cases method with
  | read size =>
      cases size with
      | none =>
          simp only [Stream.Method.perform, run_map]
          exact ofPatient_ne_unanswered
            (hremains.readPieces_ne_none (Stream.length_zeros _) [])
      | some size => simp [Stream.Method.perform, run_map]
  | readLine most =>
      cases most with
      | none =>
          simp only [Stream.Method.perform, run_map]
          exact ofPatient_ne_unanswered (readBytes_ne_none (Or.inl hremains) _ [])
      | some most =>
          simp only [Stream.Method.perform, run_map]
          apply ofPatient_ne_unanswered
          exact readBytes_ne_none (Or.inr fun line => Option.some_ne_none _) _ []
  | readInto buffer => simp [Stream.Method.perform, run_map]
  | write data => simp [Stream.Method.perform, run_map]
  | close => simp [Stream.Method.perform, run_map]
  | bareControl request argument => simp [Stream.Method.perform, Dialogue.run]
  | bareRead buffer => simp [Stream.Method.perform, Dialogue.run]
  | bareWrite data => simp [Stream.Method.perform, Dialogue.run]

theorem Remains.performEach_answered
    (hremains : Remains patience script.reads) (methods : List Stream.Method) :
    .unanswered ∉
      ((Stream.performEach patience methods).run StreamScript.respond script).value := by
  induction methods generalizing script with
  | nil => simp [Stream.performEach, Dialogue.run]
  | cons method methods ih =>
      have hrest := ih (hremains.run (method.perform patience))
      simp only [Stream.performEach, run_bind, run_map, Run.andThen, List.mem_cons, not_or]
      exact ⟨(hremains.answered method).symm, hrest⟩

end

end ScriptSocket.Scripted
