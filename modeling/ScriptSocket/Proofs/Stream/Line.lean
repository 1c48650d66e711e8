import ScriptSocket.Proofs.Stream.Outcome
import ScriptSocket.Proofs.Stream.Tokens

/-!
# Reading a line takes no more than the line

A line is read one byte at a time, so that nothing behind it is taken.  `lineLength?` is where it
ends by the bytes alone: behind the first newline, or where the caller has no room for more.  If the
source has so many bytes, as many reads are made and what follows stays where it is; if not, one
more read meets what stopped the bytes.
-/

namespace ScriptSocket

namespace Scripted

variable {size : Nat} {before left : List Token} {reply : Stream.ReadReply}

theorem Meets.of_byte
    {value : UInt8} {rest : List Token} (hmeets : Meets 1 (.byte value :: rest) reply left) :
    reply = ⟨[value], .ok 1⟩ ∧ left = rest := by
  generalize hbefore : Token.byte value :: rest = before at hmeets
  cases hmeets with
  | spent => simp at hbefore
  | ended => simp at hbefore
  | failed => simp at hbefore
  | @bytes moved _ hne hfits =>
      obtain ⟨only, rfl⟩ : ∃ only, moved = [only] := by
        have hpos := List.length_pos_iff.mpr hne
        exact List.length_eq_one_iff.mp (by omega)
      simp only [List.map_singleton, List.singleton_append, List.cons.injEq,
        Token.byte.injEq] at hbefore
      obtain ⟨rfl, rfl⟩ := hbefore
      exact ⟨rfl, rfl⟩

/-- What a read reports that meets no byte: a failure, or the end of the stream. -/
def stopOutcome : List Token → Except Errno Nat
  | .failed errno :: _ => .error errno
  | _ => .ok 0

theorem Meets.of_stop
    (hstop : ∀ value, before.head? ≠ some (.byte value)) (hmeets : Meets size before reply left) :
    reply = ⟨[], stopOutcome before⟩ ∧ left = before.tail := by
  cases hmeets with
  | spent => exact ⟨rfl, rfl⟩
  | ended => exact ⟨rfl, rfl⟩
  | failed => exact ⟨rfl, rfl⟩
  | @bytes moved _ hne hfits =>
      cases moved with
      | nil => exact absurd rfl hne
      | cons value moved => exact absurd rfl (hstop value)

end Scripted

namespace Stream

open Scripted

/-! ## Where a line ends -/

/-- The position behind the first newline. -/
def lineEnd? (bytes : List UInt8) : Option Nat := (bytes.idxOf? newline).map (· + 1)

/-- Where a line ends by its newline or by the most that may be read, whichever comes first. -/
def lineLength? (most : Option Nat) (bytes : List UInt8) : Option Nat :=
  Option.merge min most (lineEnd? bytes)

theorem lineEnd?_of_not_mem {bytes : List UInt8} (hbytes : newline ∉ bytes) :
    lineEnd? bytes = none := by
  rw [lineEnd?, List.idxOf?_eq_none_iff.mpr hbytes]
  rfl

theorem lineEnd?_append {first : List UInt8} (hfirst : newline ∉ first) (others : List UInt8) :
    lineEnd? (first ++ newline :: others) = some (first.length + 1) := by
  induction first with
  | nil => rfl
  | cons value first ih =>
      rw [List.mem_cons, not_or] at hfirst
      have hother : (value == newline) = false := beq_eq_false_iff_ne.mpr (Ne.symm hfirst.1)
      have hrest := ih hfirst.2
      unfold lineEnd? at hrest ⊢
      rw [List.cons_append, List.idxOf?_cons, hother, if_neg Bool.false_ne_true, hrest]
      rfl

theorem lineLength?_cases
    {most : Option Nat} {bytes : List UInt8} {length : Nat}
    (hlength : lineLength? most bytes = some length) :
    (∃ first others, bytes = first ++ newline :: others ∧ newline ∉ first ∧
        length = first.length + 1 ∧ ∀ limit, most = some limit → first.length < limit) ∨
      (most = some length ∧ newline ∉ bytes.take length) := by
  by_cases hnewline : newline ∈ bytes
  · obtain ⟨first, others, rfl, hfirst⟩ := List.eq_append_cons_of_mem hnewline
    rw [lineLength?, lineEnd?_append hfirst] at hlength
    cases most with
    | none => exact Or.inl ⟨first, others, rfl, hfirst, (Option.some.inj hlength).symm, by simp⟩
    | some limit =>
        have hmin : min limit (first.length + 1) = length := Option.some.inj hlength
        by_cases hroom : first.length < limit
        · -- the newline is still within the limit, if only as its last byte
          refine Or.inl ⟨first, others, rfl, hfirst, by omega, ?_⟩
          rintro _ ⟨⟩
          exact hroom
        · obtain rfl : limit = length := by omega
          refine Or.inr ⟨rfl, fun hmem => hfirst ?_⟩
          rw [List.take_append_of_le_length (by omega)] at hmem
          exact List.mem_of_mem_take hmem
  · rw [lineLength?, lineEnd?_of_not_mem hnewline] at hlength
    cases most with
    | none => simp [Option.merge] at hlength
    | some limit =>
        obtain rfl : limit = length := Option.some.inj hlength
        exact Or.inr ⟨rfl, fun hmem => hnewline (List.mem_of_mem_take hmem)⟩

theorem lineLength?_beyond
    {most : Option Nat} {bytes : List UInt8}
    (hbeyond : ∀ length, lineLength? most bytes = some length → bytes.length < length) :
    newline ∉ bytes ∧ ∀ limit, most = some limit → bytes.length < limit := by
  have hnewline : newline ∉ bytes := by
    intro hmem
    obtain ⟨first, others, rfl, hfirst⟩ := List.eq_append_cons_of_mem hmem
    obtain ⟨length, hlength, hshort⟩ :
        ∃ length, lineLength? most (first ++ newline :: others) = some length ∧
          length ≤ first.length + 1 := by
      rw [lineLength?, lineEnd?_append hfirst]
      cases most with
      | none => exact ⟨_, rfl, Nat.le_refl _⟩
      | some limit => exact ⟨_, rfl, Nat.min_le_right _ _⟩
    have hlong := hbeyond length hlength
    simp only [List.length_append, List.length_cons] at hlong
    omega
  refine ⟨hnewline, ?_⟩
  rintro limit rfl
  apply hbeyond
  rw [lineLength?, lineEnd?_of_not_mem hnewline]
  rfl

/-! ## Reads of one byte -/

/-- A dialogue goes on, by that many reads of one byte, as another. -/
inductive Bytewise {σ α : Type} (respond : Responder ByteStream σ) :
    Nat → Dialogue ByteStream α → σ → Dialogue ByteStream α → σ → Prop where
  | here (d : Dialogue ByteStream α) (state : σ) : Bytewise respond 0 d state d state
  | read {count : Nat} {next : ReadReply → Dialogue ByteStream α} {state : σ}
      {later : Dialogue ByteStream α} {after : σ}
      (hrest : Bytewise respond count (next (respond (.read 1) state).1)
        (respond (.read 1) state).2 later after) :
      Bytewise respond (count + 1) (.ask (.read 1) next) state later after

section

variable {σ α : Type} {respond : Responder ByteStream σ} {usable : σ → Prop}
  {queue : σ → List ReadEntry}

theorem Bytewise.trans
    {count more : Nat} {d e f : Dialogue ByteStream α} {state between after : σ}
    (hfirst : Bytewise respond count d state e between)
    (hsecond : Bytewise respond more e between f after) :
    Bytewise respond (count + more) d state f after := by
  induction hfirst with
  | here d state =>
      rw [Nat.zero_add]
      exact hsecond
  | read _ ih =>
      rw [Nat.add_right_comm]
      exact .read (ih hsecond)

theorem Bytewise.run_done
    {count : Nat} {d : Dialogue ByteStream α} {value : α} {state after : σ}
    (hbytewise : Bytewise respond count d state (.done value) after) :
    (d.run respond state).value = value ∧ (d.run respond state).state = after ∧
      (d.run respond state).exchanges.map (·.request) = List.replicate count (.read 1) := by
  generalize hlast : Dialogue.done value = last at hbytewise
  induction hbytewise with
  | here d state =>
      subst hlast
      exact ⟨rfl, rfl, rfl⟩
  | read _ ih =>
      obtain ⟨hvalue, hstate, hrequests⟩ := ih hlast
      simp only [Dialogue.run, List.map_cons, hrequests]
      exact ⟨hvalue, hstate, rfl⟩

theorem Feeds.readBytes_byte
    (hfeeds : Feeds respond usable queue) {value : UInt8} {rest : List Token} {state : σ}
    (hstate : Leaves usable queue (.byte value :: rest) state)
    (atLimit : List UInt8 → Option (Except Fault Value)) (cell : UInt8) (line : List UInt8)
    (limit : Nat) :
    ∃ after, Leaves usable queue rest after ∧
      Bytewise respond 1 (readBytes atLimit [cell] line (limit + 1)) state
        (if value = newline then .done (some (.ok (.bytes (line ++ [value]))))
          else readBytes atLimit [value] (line ++ [value]) limit) after := by
  obtain ⟨left, hmeets, hafter⟩ := hfeeds.meets hstate Nat.one_pos
  obtain ⟨hreply, rfl⟩ := hmeets.of_byte
  have hcell : overlay [cell] [value] = [value] := rfl
  refine ⟨_, hafter, .read ?_⟩
  simp only [hreply, hcell, List.cons.injEq, and_true]
  exact .here _ _

/-- The bytes before the end of a line are read one by one. -/
theorem Feeds.readBytes_bytes
    (hfeeds : Feeds respond usable queue) {bytes : List UInt8} (hbytes : newline ∉ bytes)
    {rest : List Token} {state : σ}
    (hstate : Leaves usable queue (bytes.map .byte ++ rest) state)
    (atLimit : List UInt8 → Option (Except Fault Value)) (cell : UInt8) (line : List UInt8)
    (limit : Nat) :
    ∃ after last, Leaves usable queue rest after ∧
      Bytewise respond bytes.length (readBytes atLimit [cell] line (bytes.length + limit)) state
        (readBytes atLimit [last] (line ++ bytes) limit) after := by
  induction bytes generalizing state cell line with
  | nil =>
      rw [List.append_nil, List.length_nil, Nat.zero_add]
      exact ⟨state, cell, hstate, .here _ _⟩
  | cons value bytes ih =>
      rw [List.mem_cons, not_or] at hbytes
      obtain ⟨between, hbetween, hfirst⟩ :=
        hfeeds.readBytes_byte hstate atLimit cell line (bytes.length + limit)
      rw [if_neg (Ne.symm hbytes.1)] at hfirst
      obtain ⟨after, last, hafter, hrest⟩ := ih hbytes.2 hbetween value (line ++ [value])
      refine ⟨after, last, hafter, ?_⟩
      have hboth := hfirst.trans hrest
      rw [List.append_assoc, List.singleton_append] at hboth
      rw [List.length_cons, Nat.add_right_comm, Nat.add_comm bytes.length 1]
      exact hboth

theorem Feeds.readBytes_stop
    (hfeeds : Feeds respond usable queue) {before : List Token}
    (hstop : ∀ value, before.head? ≠ some (.byte value)) {state : σ}
    (hstate : Leaves usable queue before state)
    (atLimit : List UInt8 → Option (Except Fault Value)) (cell : UInt8) (line : List UInt8)
    (limit : Nat) :
    ∃ after, Leaves usable queue before.tail after ∧
      Bytewise respond 1 (readBytes atLimit [cell] line (limit + 1)) state
        (.done (some ((haul none 1 before).prepend line).result)) after := by
  obtain ⟨left, hmeets, hafter⟩ := hfeeds.meets hstate Nat.one_pos
  obtain ⟨hreply, rfl⟩ := hmeets.of_stop hstop
  refine ⟨_, hafter, .read ?_⟩
  rw [hreply]
  cases before with
  | nil =>
      simp only [haul, Haul.prepend, List.append_nil]
      exact .here _ _
  | cons token rest =>
      cases token with
      | byte value => exact absurd rfl (hstop value)
      | ended =>
          simp only [haul, Haul.prepend, List.append_nil]
          exact .here _ _
      | failed errno =>
          simp only [haul, Haul.prepend, List.append_nil, stopOutcome,
            done_result_of_failure line errno rest]
          exact .here _ _

/-! ## The three ways in which a line ends -/

/-- By its newline. -/
theorem Feeds.readBytes_line
    (hfeeds : Feeds respond usable queue) {first others : List UInt8} (hfirst : newline ∉ first)
    {rest : List Token} {state : σ}
    (hstate : Leaves usable queue ((first ++ newline :: others).map .byte ++ rest) state)
    (atLimit : List UInt8 → Option (Except Fault Value)) (cell : UInt8) {limit : Nat}
    (hlimit : first.length < limit) :
    ∃ after, Leaves usable queue (others.map .byte ++ rest) after ∧
      Bytewise respond (first.length + 1) (readBytes atLimit [cell] [] limit) state
        (.done (some (.ok (.bytes (first ++ [newline]))))) after := by
  obtain ⟨less, rfl⟩ := Nat.exists_eq_add_of_lt hlimit
  rw [List.map_append, List.append_assoc] at hstate
  obtain ⟨between, last, hbetween, hbytes⟩ :=
    hfeeds.readBytes_bytes hfirst hstate atLimit cell [] (less + 1)
  obtain ⟨after, hafter, hnewline⟩ := hfeeds.readBytes_byte hbetween atLimit last first less
  rw [if_pos rfl] at hnewline
  exact ⟨after, hafter, hbytes.trans hnewline⟩

/-- By the most that may be read. -/
theorem Feeds.readBytes_full
    (hfeeds : Feeds respond usable queue) {bytes : List UInt8} {limit : Nat}
    (hbytes : newline ∉ bytes.take limit) (hlimit : limit ≤ bytes.length) {rest : List Token}
    {state : σ} (hstate : Leaves usable queue (bytes.map .byte ++ rest) state)
    (atLimit : List UInt8 → Option (Except Fault Value)) (cell : UInt8) :
    ∃ after, Leaves usable queue ((bytes.drop limit).map .byte ++ rest) after ∧
      Bytewise respond limit (readBytes atLimit [cell] [] limit) state
        (.done (atLimit (bytes.take limit))) after := by
  rw [← List.take_append_drop limit bytes, List.map_append, List.append_assoc] at hstate
  obtain ⟨after, last, hafter, hread⟩ :=
    hfeeds.readBytes_bytes hbytes hstate atLimit cell [] 0
  rw [List.length_take, Nat.min_eq_left hlimit] at hread
  exact ⟨after, hafter, hread⟩

/-- By what stops the bytes before. -/
theorem Feeds.readBytes_short
    (hfeeds : Feeds respond usable queue) {bytes : List UInt8} (hbytes : newline ∉ bytes)
    {rest : List Token} (hstop : ∀ value, rest.head? ≠ some (.byte value)) {state : σ}
    (hstate : Leaves usable queue (bytes.map .byte ++ rest) state)
    (atLimit : List UInt8 → Option (Except Fault Value)) (cell : UInt8) {limit : Nat}
    (hlimit : bytes.length < limit) :
    ∃ after, Leaves usable queue rest.tail after ∧
      Bytewise respond (bytes.length + 1) (readBytes atLimit [cell] [] limit) state
        (.done (some ((haul none 1 rest).prepend bytes).result)) after := by
  obtain ⟨less, rfl⟩ := Nat.exists_eq_add_of_lt hlimit
  obtain ⟨between, last, hbetween, hread⟩ :=
    hfeeds.readBytes_bytes hbytes hstate atLimit cell [] (less + 1)
  obtain ⟨after, hafter, hlast⟩ := hfeeds.readBytes_stop hstop hbetween atLimit last bytes less
  exact ⟨after, hafter, hread.trans hlast⟩

/-- What reading a line answers when the most that may be read is read. -/
def fullLine (most : Option Nat) (line : List UInt8) : Option (Except Fault Value) :=
  most.map fun _ => .ok (.bytes line)

theorem perform_readLine (patience : Nat) (most : Option Nat) :
    (Method.readLine most).perform patience =
      (readBytes (fullLine most) [0] [] (most.getD patience)).map .ofPatient := by
  cases most <;> rfl

theorem Bytewise.run_perform
    (patience : Nat) {most : Option Nat} {state after : σ} {count : Nat}
    {answer : Option (Except Fault Value)}
    (hread : Bytewise respond count (readBytes (fullLine most) [0] [] (most.getD patience)) state
      (.done answer) after) :
    let run := ((Method.readLine most).perform patience).run respond state
    run.value = .ofPatient answer ∧ run.state = after ∧
      run.exchanges.map (·.request) = List.replicate count (.read 1) := by
  obtain ⟨hvalue, hstate, hrequests⟩ := hread.run_done
  simp only [perform_readLine, Dialogue.run_map, hvalue]
  exact ⟨trivial, hstate, hrequests⟩

end

/-! ## What stops a line that is too short -/

theorem result_of_ended
    {after : List Token} (hended : after.head? = none ∨ after.head? = some .ended)
    (line : List UInt8) : ((haul none 1 after).prepend line).result = .ok (.bytes line) := by
  rcases hended with hnone | hended
  · rw [List.head?_eq_none_iff.mp hnone]
    simp [haul, Haul.prepend, Haul.result]
  · obtain ⟨rest, rfl⟩ := List.head?_eq_some_iff.mp hended
    simp [haul, Haul.prepend, Haul.result]

theorem result_of_blocked
    {after : List Token} (hblocked : after.head? = some (.failed .again)) (line : List UInt8) :
    ((haul none 1 after).prepend line).result =
      .ok (if line = [] then .none else .bytes line) := by
  obtain ⟨rest, rfl⟩ := List.head?_eq_some_iff.mp hblocked
  have hending : endingOf .again = .ok .wouldBlock := endingOf_eq_wouldBlock_iff.mpr rfl
  simp only [haul, Haul.prepend, Haul.result, hending, List.append_nil, List.length_eq_zero_iff]
  split <;> rfl

theorem result_of_failed
    {after : List Token} {errno : Errno} (herrno : errno ≠ .again)
    (hfailed : after.head? = some (.failed errno)) (line : List UInt8) :
    ((haul none 1 after).prepend line).result = .error (.system errno) := by
  obtain ⟨rest, rfl⟩ := List.head?_eq_some_iff.mp hfailed
  have hending : endingOf errno = .error errno := endingOf_eq_error_iff.mpr ⟨herrno, rfl⟩
  simp [haul, Haul.prepend, Haul.result, hending]

/-- There is room for more than so many bytes, within the limit or, without one, within the
patience. -/
theorem lt_getD_of_room
    {most : Option Nat} {length patience : Nat}
    (hlimit : ∀ limit, most = some limit → length < limit)
    (hpatience : most = none → length < patience) : length < most.getD patience := by
  cases most with
  | none => exact hpatience rfl
  | some limit => exact hlimit limit rfl

/-- A line is read with one read for each of its bytes, up to its newline or to the most that may be
read, and what follows is left; in particular, what stops the bytes is not met if the line is full
before.  A line for which there are not bytes enough takes all of them and what stops them, with one
read more, and answers by what it is.  A line of any length needs the patience to get there. -/
theorem readLine_takes_line
    {σ : Type} {respond : Responder ByteStream σ} {usable : σ → Prop} {queue : σ → List ReadEntry}
    (hfeeds : Feeds respond usable queue) {state : σ} (husable : usable state)
    (hconforming : Conforming (queue state)) {bytes : List UInt8} {after : List Token}
    (htokens : tokens (queue state) = bytes.map .byte ++ after)
    (hstop : ∀ value, after.head? ≠ some (.byte value)) (most : Option Nat) {patience : Nat}
    (hpatience : most = none → bytes.length < patience) :
    let run := ((Method.readLine most).perform patience).run respond state
    let requests := run.exchanges.map (·.request)
    (∀ length, lineLength? most bytes = some length → length ≤ bytes.length →
      run.value = .value (.ok (.bytes (bytes.take length))) ∧
      requests = List.replicate length (.read 1) ∧
      tokens (queue run.state) = (bytes.drop length).map .byte ++ after) ∧
    ((∀ length, lineLength? most bytes = some length → bytes.length < length) →
      requests = List.replicate (bytes.length + 1) (.read 1) ∧
      tokens (queue run.state) = after.tail ∧
      (after.head? = none ∨ after.head? = some .ended → run.value = .value (.ok (.bytes bytes))) ∧
      (after.head? = some (.failed .again) →
        run.value = .value (.ok (if bytes = [] then .none else .bytes bytes))) ∧
      ∀ errno, errno ≠ .again → after.head? = some (.failed errno) →
        run.value = .value (.error (.system errno))) := by
  intro run requests
  have hstate : Leaves usable queue (bytes.map .byte ++ after) state :=
    ⟨husable, hconforming, htokens⟩
  constructor
  · -- the line is full before the bytes stop
    intro length hlength hwithin
    rcases lineLength?_cases hlength with
      ⟨first, others, rfl, hfirst, rfl, hlimit⟩ | ⟨rfl, hbytes⟩
    · have hroom : first.length < most.getD patience := by
        refine lt_getD_of_room hlimit fun hnone => ?_
        have hspare := hpatience hnone
        rw [List.length_append] at hspare
        omega
      obtain ⟨last, hlast, hread⟩ := hfeeds.readBytes_line hfirst hstate (fullLine most) 0 hroom
      obtain ⟨hvalue, rfl, hrequests⟩ := hread.run_perform patience
      have hsplit : first ++ newline :: others = (first ++ [newline]) ++ others := by
        rw [List.append_assoc, List.singleton_append]
      have hend : first.length + 1 = (first ++ [newline]).length := by
        rw [List.length_append, List.length_singleton]
      rw [hsplit, hend, List.take_left, List.drop_left, ← hend]
      exact ⟨hvalue, hrequests, hlast.tokens_eq⟩
    · obtain ⟨last, hlast, hread⟩ :=
        hfeeds.readBytes_full hbytes hwithin hstate (fullLine (some length)) 0
      obtain ⟨hvalue, rfl, hrequests⟩ := hread.run_perform patience
      exact ⟨hvalue, hrequests, hlast.tokens_eq⟩
  · -- the bytes stop first
    intro hbeyond
    obtain ⟨hbytes, hlimit⟩ := lineLength?_beyond hbeyond
    obtain ⟨last, hlast, hread⟩ := hfeeds.readBytes_short hbytes hstop hstate (fullLine most) 0
      (lt_getD_of_room hlimit hpatience)
    obtain ⟨hvalue, rfl, hrequests⟩ := hread.run_perform patience
    change run.value = .value ((haul none 1 after).prepend bytes).result at hvalue
    rw [hvalue]
    refine ⟨hrequests, hlast.tokens_eq, ?_, ?_, ?_⟩
    · intro hended
      rw [result_of_ended hended]
    · intro hblocked
      rw [result_of_blocked hblocked]
    · intro errno herrno hfailed
      rw [result_of_failed herrno hfailed]

/-- A line whose newline is the last byte for which there is room, and the beginning of another,
behind which the stream would block. -/
def twoLines : StreamScript := ⟨[.data [72, 105], .data [10, 33], .fails .again], [], []⟩

theorem readLine_takes_line_twoLines :
    let first := ((Method.readLine (some 3)).perform 0).run StreamScript.respond twoLines
    let second := ((Method.readLine none).perform 2).run StreamScript.respond first.state
    first.value = .value (.ok (.bytes [72, 105, 10])) ∧
      first.exchanges.map (·.request) = [.read 1, .read 1, .read 1] ∧
      tokens first.state.reads = [.byte 33, .failed .again] ∧
      second.value = .value (.ok (.bytes [33])) ∧
      second.exchanges.map (·.request) = [.read 1, .read 1] ∧ tokens second.state.reads = [] := by
  intro first second
  have hconforming : Conforming twoLines.reads := by simp [Conforming, twoLines]
  have htokens : tokens twoLines.reads =
      [72, 105, 10, 33].map .byte ++ [.failed .again] := by decide
  have hstop (value : UInt8) : [Token.failed .again].head? ≠ some (.byte value) := by simp
  have hbound : some 3 = none → [72, 105, 10, 33].length < 0 := by simp
  obtain ⟨hfull, -⟩ :=
    readLine_takes_line StreamScript.feeds trivial hconforming htokens hstop (some 3) hbound
  obtain ⟨hfirst, hreads, hleft⟩ := hfull 3 (by decide) (by decide)
  have hconforming' : Conforming first.state.reads := by
    have hqueue : first.state.reads = [.data [33], .fails .again] := by decide +kernel
    simp [Conforming, hqueue]
  have hpatience : (none : Option Nat) = none → [33].length < 2 := by simp
  obtain ⟨-, hshort⟩ :=
    readLine_takes_line StreamScript.feeds trivial hconforming' hleft hstop none hpatience
  have hunended : lineLength? none [33] = none := by decide
  obtain ⟨hmore, hspent, -, hblocked, -⟩ :=
    hshort fun length hlength => absurd (hunended.symm.trans hlength) (by simp)
  exact ⟨hfirst, hreads, hleft, hblocked rfl, hmore, hspent⟩

end Stream

end ScriptSocket
