import ScriptSocket.Proofs.Stream.Conservation

/-!
# What reading makes of a queue

A reader meets a queue token by token: bytes, ends of stream and failures, and behind the last of
them the end of the stream for good.  How the bytes are grouped into pieces is not to be seen.
`Reading.told` says what each transfer answers and leaves, from the tokens alone, and
`Feeds.run_reading` that so it does.  So two sources with the same tokens cannot be told apart.
-/

namespace ScriptSocket

namespace Scripted

inductive Token where
  | byte (value : UInt8)
  | ended
  | failed (errno : Errno)
  deriving DecidableEq

/-- A piece without bytes reads as an end of stream. -/
def ReadEntry.tokens : ReadEntry → List Token
  | .data bytes => if bytes = [] then [.ended] else bytes.map .byte
  | .fails errno => [.failed errno]
  | .claims _ => [.ended]

def tokens (queue : List ReadEntry) : List Token := queue.flatMap ReadEntry.tokens

theorem tokens_cons (entry : ReadEntry) (queue : List ReadEntry) :
    tokens (entry :: queue) = entry.tokens ++ tokens queue := rfl

/-- What one read into a buffer that is not empty meets: some bytes, or the token that stops it. -/
inductive Meets (size : Nat) : List Token → Stream.ReadReply → List Token → Prop where
  | bytes {moved : List UInt8} {rest : List Token} (hne : moved ≠ [])
      (hfits : moved.length ≤ size) :
      Meets size (moved.map .byte ++ rest) ⟨moved, .ok moved.length⟩ rest
  | spent : Meets size [] ⟨[], .ok 0⟩ []
  | ended {rest : List Token} : Meets size (.ended :: rest) ⟨[], .ok 0⟩ rest
  | failed {errno : Errno} {rest : List Token} :
      Meets size (.failed errno :: rest) ⟨[], .error errno⟩ rest

theorem meets_readReply
    {queue : List ReadEntry} (hconforming : Conforming queue) {size : Nat} (hsize : 0 < size) :
    Meets size (tokens queue) (readReply size queue).1 (tokens (readReply size queue).2) := by
  cases queue with
  | nil => exact .spent
  | cons entry rest =>
      cases entry with
      | fails errno => exact .failed
      | claims count =>
          have hzero : count = 0 := hconforming count List.mem_cons_self
          subst hzero
          exact .ended
      | data bytes =>
          by_cases hempty : bytes = []
          · subst hempty
            simp only [readReply, List.take_nil, List.length_nil, Nat.zero_le, if_true,
              Nat.zero_min]
            exact .ended
          · by_cases hfits : bytes.length ≤ size
            · have hmin : min bytes.length size = bytes.length := by omega
              simp only [readReply, List.take_of_length_le hfits, hfits, if_true, hmin,
                tokens, List.flatMap_cons, ReadEntry.tokens, hempty, if_false]
              exact .bytes hempty hfits
            · -- the piece is cut, and what is left of it is not empty
              have hleft : bytes.drop size ≠ [] := by
                rw [Ne, List.drop_eq_nil_iff]
                exact hfits
              have htaken : (bytes.take size).length = size := by
                rw [List.length_take]
                omega
              have hmin : min bytes.length size = (bytes.take size).length := by omega
              have hmeets : Meets size
                  ((bytes.take size).map .byte ++ ((bytes.drop size).map .byte ++ tokens rest))
                  ⟨bytes.take size, .ok (bytes.take size).length⟩
                  ((bytes.drop size).map .byte ++ tokens rest) := by
                apply Meets.bytes
                · rw [← List.length_pos_iff]
                  omega
                · omega
              rw [← List.append_assoc, ← List.map_append, List.take_append_drop] at hmeets
              simp only [readReply, hfits, if_false, hmin, tokens, List.flatMap_cons,
                ReadEntry.tokens, hempty, hleft]
              exact hmeets

end Scripted

namespace Stream

open Scripted

/-- What a transfer takes from the tokens: the bytes, why it ended, and the tokens it leaves. -/
structure Haul where
  bytes : List UInt8
  ending : Except Errno Ending
  rest : List Token

def Haul.prepend (taken : List UInt8) (haul : Haul) : Haul :=
  { haul with bytes := taken ++ haul.bytes }

/-- Takes bytes up to a limit, or through the first that is `last`, or to the token that stops
it. -/
def haul (last : Option UInt8) : Nat → List Token → Haul
  | 0, tokens => ⟨[], .ok .complete, tokens⟩
  | _ + 1, [] => ⟨[], .ok .complete, []⟩
  | _ + 1, .ended :: rest => ⟨[], .ok .complete, rest⟩
  | _ + 1, .failed errno :: rest => ⟨[], endingOf errno, rest⟩
  | limit + 1, .byte value :: rest =>
    if last = some value then ⟨[value], .ok .complete, rest⟩
    else (haul last limit rest).prepend [value]

theorem Haul.prepend_prepend (first second : List UInt8) (h : Haul) :
    (h.prepend second).prepend first = h.prepend (first ++ second) := by
  simp [Haul.prepend]

theorem haul_append
    {moved : List UInt8} {limit : Nat} (hfits : moved.length ≤ limit) (rest : List Token) :
    haul none limit (moved.map .byte ++ rest) =
      (haul none (limit - moved.length) rest).prepend moved := by
  induction moved generalizing limit with
  | nil => rfl
  | cons value moved ih =>
      simp only [List.length_cons] at hfits
      obtain ⟨less, rfl⟩ : ∃ less, limit = less + 1 := ⟨limit - 1, by omega⟩
      have hrest := ih (by omega : moved.length ≤ less)
      simp only [List.map_cons, List.cons_append, haul, reduceCtorEq, if_false, hrest,
        Haul.prepend_prepend, List.length_cons, Nat.add_sub_add_right, List.nil_append]

/-- A limit that lies beyond the tokens is as good as none. -/
theorem haul_of_length_lt
    {last : Option UInt8} {tokens : List Token} {limit other : Nat}
    (hlimit : tokens.length < limit) (hother : tokens.length < other) :
    haul last limit tokens = haul last other tokens := by
  induction tokens generalizing limit other with
  | nil =>
      obtain ⟨limit, rfl⟩ := Nat.exists_eq_add_of_lt hlimit
      obtain ⟨other, rfl⟩ := Nat.exists_eq_add_of_lt hother
      rfl
  | cons token rest ih =>
      simp only [List.length_cons] at hlimit hother
      obtain ⟨limit, rfl⟩ : ∃ less, limit = less + 1 := ⟨limit - 1, by omega⟩
      obtain ⟨other, rfl⟩ : ∃ less, other = less + 1 := ⟨other - 1, by omega⟩
      cases token with
      | ended => rfl
      | failed errno => rfl
      | byte value =>
          simp only [haul]
          rw [ih (by omega : rest.length < limit) (by omega : rest.length < other)]

/-- What a transfer that gives its bytes answers. -/
def Haul.result (h : Haul) : Except Fault Value :=
  match h.ending with
  | .error e => .error (.system e)
  | .ok .wouldBlock => if h.bytes.length = 0 then .ok .none else .ok (.bytes h.bytes)
  | .ok .complete => .ok (.bytes h.bytes)

def Haul.counted (h : Haul) : Except Fault Value :=
  match h.ending with
  | .error e => .error (.system e)
  | .ok .wouldBlock => if h.bytes.length = 0 then .ok .none else .ok (countValue h.bytes.length)
  | .ok .complete => .ok (countValue h.bytes.length)

inductive Reading where
  | sized (size : Nat)
  | toEnd
  | into (buffer : List UInt8)
  | line (most : Option Nat)

def Reading.method : Reading → Method
  | .sized size => .read (some size)
  | .toEnd => .read none
  | .into buffer => .readInto buffer
  | .line most => .readLine most

/-- What a transfer takes.  One that has no limit cannot pass by the last token. -/
def Reading.haul (tokens : List Token) : Reading → Haul
  | .sized size => Stream.haul none size tokens
  | .toEnd => Stream.haul none (tokens.length + 1) tokens
  | .into buffer => Stream.haul none buffer.length tokens
  | .line most => Stream.haul (some newline) (most.getD (tokens.length + 1)) tokens

def Reading.told (tokens : List Token) (reading : Reading) : Answer :=
  match reading with
  | .into buffer =>
    let h := reading.haul tokens
    .filled h.counted (h.bytes ++ buffer.drop h.bytes.length)
  | .sized _ | .toEnd | .line _ => .value (reading.haul tokens).result

/-- The state of a source from which the tokens were taken up to `rest`. -/
structure Leaves {σ : Type} (usable : σ → Prop) (queue : σ → List ReadEntry)
    (rest : List Token) (after : σ) : Prop where
  usable : usable after
  conforming : Conforming (queue after)
  tokens_eq : tokens (queue after) = rest

section

variable {σ : Type} {respond : Responder ByteStream σ} {usable : σ → Prop}
  {queue : σ → List ReadEntry}

theorem Feeds.meets
    (hfeeds : Feeds respond usable queue) {state : σ} {before : List Token}
    (hstate : Leaves usable queue before state) {size : Nat} (hsize : 0 < size) :
    ∃ rest, Meets size before (respond (.read size) state).1 rest ∧
      Leaves usable queue rest (respond (.read size) state).2 := by
  refine ⟨_, ?_, hfeeds.usable_after size state hstate.usable, ?_, rfl⟩
  · rw [hfeeds.reply size state hstate.usable, hfeeds.queue_after size state hstate.usable,
      ← hstate.tokens_eq]
    exact meets_readReply hstate.conforming hsize
  · rw [hfeeds.queue_after size state hstate.usable]
    exact conforming_readReply hstate.conforming size

theorem Feeds.run_fill_eq_haul
    (hfeeds : Feeds respond usable queue) (buffer : List UInt8) {state : σ}
    {before : List Token} (hstate : Leaves usable queue before state) :
    let h := haul none buffer.length before
    ((fill buffer).run respond state).value =
        ⟨h.bytes ++ buffer.drop h.bytes.length, h.bytes.length, h.ending⟩ ∧
      Leaves usable queue h.rest ((fill buffer).run respond state).state := by
  induction buffer using fill.induct generalizing state before with
  | case1 =>
      rw [fill]
      exact ⟨rfl, hstate⟩
  | case2 buffer hne ih =>
      have hpos : 0 < buffer.length := List.length_pos_iff.mpr hne
      obtain ⟨rest, hmeets, hafter⟩ := hfeeds.meets hstate hpos
      obtain ⟨less, hless⟩ := Nat.exists_eq_add_one_of_ne_zero (Nat.ne_of_gt hpos)
      rw [fill, dif_neg hne]
      simp only [Dialogue.run]
      generalize respond (.read buffer.length) state = replied at hmeets hafter ⊢
      obtain ⟨reply, after⟩ := replied
      simp only at hmeets hafter ⊢
      cases hmeets with
      | spent =>
          rw [hless]
          simp [Dialogue.run, haul, hafter]
      | ended =>
          rw [hless]
          simp [Dialogue.run, haul, hafter]
      | failed =>
          rw [hless]
          simp [Dialogue.run, haul, hafter]
      | @bytes moved _ hmoved hfits =>
          obtain ⟨count, hcount⟩ :=
            Nat.exists_eq_add_one_of_ne_zero (mt List.eq_nil_of_length_eq_zero hmoved)
          have htaken : overlay buffer moved = moved ++ buffer.drop moved.length :=
            overlay_of_length_le hfits
          have hrest := ih ⟨moved, .ok moved.length⟩ count hafter
          simp only [htaken, ← hcount, List.drop_left] at hrest
          obtain ⟨hvalue, hleaves⟩ := hrest
          have hhaul := haul_append hfits rest
          simp only [hcount, Dialogue.run_map, htaken]
          simp only [← hcount, List.take_left, List.drop_left, hvalue, hhaul, Haul.prepend,
            List.length_drop] at hleaves ⊢
          refine ⟨?_, hleaves⟩
          simp [List.drop_drop]

theorem done_result_of_failure (taken : List UInt8) (e : Errno) (rest : List Token) :
    (if e.wouldBlock then
        .done (some (.ok (if taken = [] then .none else .bytes taken)))
      else .done (some (.error (.system e))) :
        Dialogue ByteStream (Option (Except Fault Value))) =
      .done (some (Haul.mk taken (endingOf e) rest).result) := by
  unfold endingOf Haul.result
  by_cases hblock : e.wouldBlock = true
  · by_cases hempty : taken = [] <;> simp [hblock, hempty]
  · simp only [hblock]
    rfl

theorem Feeds.run_readPieces_eq_haul
    (hfeeds : Feeds respond usable queue) (patience : Nat) {piece : List UInt8}
    (hpiece : piece ≠ []) (taken : List UInt8) {state : σ} {before : List Token}
    (hstate : Leaves usable queue before state) (hpatience : before.length < patience) :
    let h := haul none (before.length + 1) before
    ((readPieces piece taken patience).run respond state).value =
        some (h.prepend taken).result ∧
      Leaves usable queue h.rest ((readPieces piece taken patience).run respond state).state := by
  induction patience generalizing piece taken state before with
  | zero => omega
  | succ patience ih =>
      obtain ⟨rest, hmeets, hafter⟩ := hfeeds.meets hstate (List.length_pos_iff.mpr hpiece)
      simp only [readPieces, Dialogue.run]
      generalize respond (.read piece.length) state = replied at hmeets hafter ⊢
      obtain ⟨reply, after⟩ := replied
      simp only at hmeets hafter ⊢
      cases hmeets with
      | spent => simp [Dialogue.run, haul, Haul.prepend, Haul.result, hafter]
      | ended => simp [Dialogue.run, haul, Haul.prepend, Haul.result, hafter]
      | failed =>
          simp only [done_result_of_failure taken _ rest, Dialogue.run, haul, Haul.prepend,
            List.append_nil]
          exact ⟨trivial, hafter⟩
      | @bytes moved _ hmoved hfits =>
          obtain ⟨count, hcount⟩ :=
            Nat.exists_eq_add_one_of_ne_zero (mt List.eq_nil_of_length_eq_zero hmoved)
          have hoverlay : overlay piece moved = moved ++ piece.drop moved.length :=
            overlay_of_length_le hfits
          have hroom : count < (overlay piece moved).length := by
            rw [length_overlay]
            omega
          have hnext : overlay piece moved ≠ [] := by
            rw [← List.length_pos_iff]
            omega
          simp only [List.length_append, List.length_map] at hpatience
          have hrest := ih hnext (taken ++ moved) hafter (by omega)
          have hhaul : haul none ((moved.map Token.byte ++ rest).length + 1)
              (moved.map Token.byte ++ rest) =
                (haul none (rest.length + 1) rest).prepend moved := by
            rw [haul_append (by simp; omega)]
            congr 2
            simp
            omega
          simp only [hcount, hroom, if_true, hhaul, Haul.prepend_prepend]
          simp only [← hcount, hoverlay, List.take_left] at hrest ⊢
          exact hrest

theorem Feeds.run_readBytes_eq_haul
    (hfeeds : Feeds respond usable queue)
    {atLimit : List UInt8 → Option (Except Fault Value)} (limit : Nat)
    {cell : List UInt8} (hcell : cell.length = 1) (line : List UInt8)
    {state : σ} {before : List Token} (hstate : Leaves usable queue before state)
    (hlimit : before.length < limit ∨ ∀ line, atLimit line = some (.ok (.bytes line))) :
    let h := haul (some newline) limit before
    ((readBytes atLimit cell line limit).run respond state).value =
        some (h.prepend line).result ∧
      Leaves usable queue h.rest
        ((readBytes atLimit cell line limit).run respond state).state := by
  induction limit generalizing cell line state before with
  | zero =>
      rcases hlimit with hlimit | hlimit
      · omega
      · simp [readBytes, Dialogue.run, haul, Haul.prepend, Haul.result, hlimit, hstate]
  | succ limit ih =>
      obtain ⟨rest, hmeets, hafter⟩ := hfeeds.meets hstate (by omega : 0 < cell.length)
      simp only [readBytes, Dialogue.run]
      generalize respond (.read cell.length) state = replied at hmeets hafter ⊢
      obtain ⟨reply, after⟩ := replied
      simp only at hmeets hafter ⊢
      cases hmeets with
      | spent => simp [Dialogue.run, haul, Haul.prepend, Haul.result, hafter]
      | ended => simp [Dialogue.run, haul, Haul.prepend, Haul.result, hafter]
      | failed =>
          simp only [done_result_of_failure line _ rest, Dialogue.run, haul, Haul.prepend,
            List.append_nil]
          exact ⟨trivial, hafter⟩
      | @bytes moved _ hmoved hfits =>
          -- the cell holds the one byte that was read
          obtain ⟨value, rfl⟩ : ∃ value, moved = [value] := by
            have hpos := List.length_pos_iff.mpr hmoved
            exact List.length_eq_one_iff.mp (by omega)
          have hone : overlay cell [value] = [value] := by
            rw [overlay_of_length_le hfits, List.drop_eq_nil_of_le (by simp [hcell]),
              List.append_nil]
          simp only [hone, List.length_singleton, List.map_singleton, List.singleton_append,
            List.cons.injEq, and_true, haul, Option.some.injEq] at hlimit ⊢
          by_cases hnewline : value = newline
          · simp [hnewline, Dialogue.run, Haul.prepend, Haul.result, hafter]
          · have hrestLimit : rest.length < limit ∨
                ∀ line, atLimit line = some (.ok (.bytes line)) := by
              rcases hlimit with hlimit | hlimit
              · rw [List.length_cons] at hlimit
                exact Or.inl (by omega)
              · exact Or.inr hlimit
            have hcell : [value].length = 1 := rfl
            have hrest := ih hcell (line ++ [value]) hafter hrestLimit
            simp only [hnewline, Ne.symm hnewline, if_false, Haul.prepend_prepend]
            exact hrest

/-- A transfer over any source answers what the tokens of its queue tell, and leaves the tokens that
they tell, if it is given the patience to meet them all. -/
theorem Feeds.run_reading
    (hfeeds : Feeds respond usable queue) {patience : Nat} (reading : Reading)
    {state : σ} {before : List Token} (hstate : Leaves usable queue before state)
    (hpatience : before.length < patience) :
    ((reading.method.perform patience).run respond state).value = reading.told before ∧
      Leaves usable queue (reading.haul before).rest
        ((reading.method.perform patience).run respond state).state := by
  have hbeyond : before.length < before.length + 1 := by omega
  cases reading with
  | sized size =>
      obtain ⟨hvalue, hleaves⟩ := hfeeds.run_fill_eq_haul (zeros size) hstate
      rw [length_zeros] at hvalue hleaves
      simp only [Reading.method, Method.perform, Stream.read, Dialogue.run_map]
      refine ⟨?_, hleaves⟩
      simp only [hvalue, Reading.told, Reading.haul, Haul.result, List.take_left]
      rfl
  | toEnd =>
      have hpiece : zeros pieceSize ≠ [] := by
        rw [← List.length_pos_iff, length_zeros]
        decide
      obtain ⟨hvalue, hleaves⟩ :=
        hfeeds.run_readPieces_eq_haul patience hpiece [] hstate hpatience
      simp only [Reading.method, Method.perform, readToEnd, Dialogue.run_map]
      refine ⟨?_, hleaves⟩
      rw [hvalue]
      rfl
  | into buffer =>
      obtain ⟨hvalue, hleaves⟩ := hfeeds.run_fill_eq_haul buffer hstate
      simp only [Reading.method, Method.perform, Stream.readInto, Dialogue.run_map]
      refine ⟨?_, hleaves⟩
      simp only [hvalue, Reading.told, Reading.haul, Haul.counted]
      rfl
  | line most =>
      cases most with
      | some most =>
          obtain ⟨hvalue, hleaves⟩ := hfeeds.run_readBytes_eq_haul most (length_zeros 1) []
            hstate (Or.inr fun _ => rfl)
          simp only [Reading.method, Method.perform, readLine, Dialogue.run_map]
          refine ⟨?_, hleaves⟩
          rw [hvalue]
          rfl
      | none =>
          have hhaul : haul (some newline) patience before =
              haul (some newline) (before.length + 1) before :=
            haul_of_length_lt hpatience hbeyond
          obtain ⟨hvalue, hleaves⟩ := hfeeds.run_readBytes_eq_haul patience (length_zeros 1) []
            hstate (Or.inl hpatience)
          rw [hhaul] at hvalue hleaves
          simp only [Reading.method, Method.perform, readWholeLine, Dialogue.run_map]
          refine ⟨?_, hleaves⟩
          rw [hvalue]
          rfl

theorem length_rest_haul_le (last : Option UInt8) (limit : Nat) (tokens : List Token) :
    (haul last limit tokens).rest.length ≤ tokens.length := by
  induction tokens generalizing limit with
  | nil => cases limit <;> simp [haul]
  | cons token rest ih =>
      cases limit with
      | zero => simp [haul]
      | succ limit =>
          cases token with
          | ended => simp [haul]
          | failed errno => simp [haul]
          | byte value =>
              have hrest := ih limit
              simp only [haul]
              split
              · simp
              · simp only [Haul.prepend, List.length_cons]
                omega

theorem Reading.length_rest_le (tokens : List Token) (reading : Reading) :
    (reading.haul tokens).rest.length ≤ tokens.length := by
  cases reading <;> exact length_rest_haul_le _ _ _

def toldEach (tokens : List Token) : List Reading → List Answer
  | [] => []
  | reading :: readings => reading.told tokens :: toldEach (reading.haul tokens).rest readings

def leftBy (tokens : List Token) (readings : List Reading) : List Token :=
  readings.foldl (fun tokens reading => (reading.haul tokens).rest) tokens

theorem Feeds.run_readings
    (hfeeds : Feeds respond usable queue) {patience : Nat} (readings : List Reading)
    {state : σ} {before : List Token} (hstate : Leaves usable queue before state)
    (hpatience : before.length < patience) :
    ((performEach patience (readings.map Reading.method)).run respond state).value =
        toldEach before readings ∧
      Leaves usable queue (leftBy before readings)
        ((performEach patience (readings.map Reading.method)).run respond state).state := by
  induction readings generalizing state before with
  | nil => exact ⟨rfl, hstate⟩
  | cons reading readings ih =>
      obtain ⟨hanswer, hafter⟩ := hfeeds.run_reading reading hstate hpatience
      have hleft := reading.length_rest_le before
      obtain ⟨hanswers, hleaves⟩ := ih hafter (by omega)
      simp only [List.map_cons, performEach, Dialogue.run_bind, Dialogue.run_map,
        Dialogue.Run.andThen, hanswer, hanswers, toldEach]
      exact ⟨trivial, hleaves⟩

theorem toldEach_answered (tokens : List Token) (readings : List Reading) :
    Answer.unanswered ∉ toldEach tokens readings := by
  induction readings generalizing tokens with
  | nil => simp [toldEach]
  | cons reading readings ih =>
      have hfirst : reading.told tokens ≠ .unanswered := by
        cases reading <;> simp [Reading.told]
      simp only [toldEach, List.mem_cons, not_or]
      exact ⟨hfirst.symm, ih _⟩

end

/-- Grouping does not show.  Two sources in whose queues the same bytes, ends of stream and failures
follow one another, in pieces of whatever sizes, give the same answers to the same transfers, one by
one, and are left with the same tokens, if each is given the patience to meet them all; and then no
transfer is left unanswered. -/
theorem reading_ignores_segmentation
    {σ τ : Type} {respond : Responder ByteStream σ} {respond' : Responder ByteStream τ}
    {usable : σ → Prop} {usable' : τ → Prop}
    {queue : σ → List ReadEntry} {queue' : τ → List ReadEntry}
    (hfeeds : Feeds respond usable queue) (hfeeds' : Feeds respond' usable' queue')
    {state : σ} {state' : τ} (husable : usable state) (husable' : usable' state')
    (hconforming : Conforming (queue state)) (hconforming' : Conforming (queue' state'))
    (hsame : tokens (queue state) = tokens (queue' state'))
    {patience patience' : Nat} (hpatience : (tokens (queue state)).length < patience)
    (hpatience' : (tokens (queue' state')).length < patience') (readings : List Reading) :
    let methods := readings.map Reading.method
    let first := (performEach patience methods).run respond state
    let second := (performEach patience' methods).run respond' state'
    first.value = second.value ∧
      tokens (queue first.state) = tokens (queue' second.state) ∧
      Answer.unanswered ∉ first.value := by
  obtain ⟨hvalue, hleaves⟩ := hfeeds.run_readings readings ⟨husable, hconforming, rfl⟩ hpatience
  obtain ⟨hvalue', hleaves'⟩ :=
    hfeeds'.run_readings readings ⟨husable', hconforming', rfl⟩ hpatience'
  refine ⟨?_, ?_, ?_⟩
  · rw [hvalue, hvalue', hsame]
  · rw [hleaves.tokens_eq, hleaves'.tokens_eq, hsame]
  · rw [hvalue]
    exact toldEach_answered _ _

end Stream

section

open Scripted ScriptSocket.Stream

theorem Scripted.length_tokens_lt_readsLeft (queue : List ReadEntry) :
    (tokens queue).length < readsLeft queue := by
  induction queue with
  | nil => simp [tokens, readsLeft]
  | cons entry rest ih =>
      rw [tokens_cons, List.length_append]
      cases entry with
      | data bytes =>
          have hpiece : (ReadEntry.data bytes).tokens.length ≤ bytes.length + 1 := by
            simp only [ReadEntry.tokens]
            split
            · simp
            · rw [List.length_map]
              omega
          simp only [readsLeft]
          omega
      | fails errno =>
          simp only [ReadEntry.tokens, readsLeft, List.length_singleton]
          omega
      | claims count =>
          simp only [ReadEntry.tokens, readsLeft, List.length_singleton]
          omega

/-- The pieces of `mixedQueue` cut anew. -/
def recutQueue : List ReadEntry :=
  [.data [72], .data [105, 10, 33], .fails .again, .data [1, 2], .data [3], .data []]

/-- Every kind of transfer, with a buffer that a failure leaves half full. -/
theorem reading_ignores_segmentation_recut :
    let readings := [.sized 1, .line none, .into [7, 7, 7], .line (some 2), .toEnd]
    let methods := List.map Reading.method readings
    tokens mixedQueue = tokens recutQueue ∧
      ((performEach (readsLeft mixedQueue) methods).run StreamScript.respond
          ⟨mixedQueue, [], []⟩).value =
        [.value (.ok (.bytes [72])), .value (.ok (.bytes [105, 10])),
          .filled (.ok (.int 1)) [33, 7, 7], .value (.ok (.bytes [1, 2])),
          .value (.ok (.bytes [3]))] ∧
      ((performEach (readsLeft recutQueue) methods).run StreamScript.respond
          ⟨recutQueue, [], []⟩).value =
        [.value (.ok (.bytes [72])), .value (.ok (.bytes [105, 10])),
          .filled (.ok (.int 1)) [33, 7, 7], .value (.ok (.bytes [1, 2])),
          .value (.ok (.bytes [3]))] := by
  intro readings methods
  have hconforming : Conforming mixedQueue := by
    intro count hmem
    simpa [mixedQueue] using hmem
  have hconforming' : Conforming recutQueue := by
    intro count hmem
    simp [recutQueue] at hmem
  have hsame : tokens mixedQueue = tokens recutQueue := by decide
  have hfeeds := StreamScript.feeds
  have hstart : Leaves (fun _ => True) (fun script : StreamScript => script.reads)
      (tokens mixedQueue) ⟨mixedQueue, [], []⟩ := ⟨trivial, hconforming, rfl⟩
  have hpatience := length_tokens_lt_readsLeft mixedQueue
  obtain ⟨htold, -⟩ := hfeeds.run_readings readings hstart hpatience
  have hrecut : Leaves (fun _ => True) (fun script : StreamScript => script.reads)
      (tokens recutQueue) ⟨recutQueue, [], []⟩ := ⟨trivial, hconforming', rfl⟩
  have halike := (reading_ignores_segmentation hfeeds hfeeds hstart.usable hrecut.usable
    hstart.conforming hrecut.conforming hsame hpatience
    (length_tokens_lt_readsLeft recutQueue) readings).1
  exact ⟨hsame, htold, halike ▸ htold⟩

end

end ScriptSocket
