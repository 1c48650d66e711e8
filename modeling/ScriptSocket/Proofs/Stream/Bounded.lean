import Mathlib.Algebra.Group.Nat.Defs
import Mathlib.Algebra.GroupWithZero.Nat
import ScriptSocket.Proofs.Always
import ScriptSocket.Proofs.Stream.Outcome
import ScriptSocket.Scripted.Transfer

/-!
# Bounded transfers stay bounded

A transfer of a bounded amount does not depend on the stream to end it.  Three of them go by the
counts that the stream claims: `Portions` says that each call offers what the counts before it have
left of the amount, so the buffers get shorter, whatever the counts are, and too large a count only
ends the transfer sooner.  A line is read byte by byte, one for each call (`Sips`).
-/

namespace ScriptSocket.Stream

open Dialogue

/-- The length of the buffer that a request offers to the stream. -/
def Request.offered : Request → Nat
  | .read size => size
  | .write data => data.length
  | .control _ _ => 0

/-- The count that the stream claims to have moved; a failure claims none. -/
def claimed : Exchange ByteStream → Nat
  | ⟨.read _, reply⟩ => reply.outcome.toOption.getD 0
  | ⟨.write _, reply⟩ => reply.toOption.getD 0
  | ⟨.control _ _, _⟩ => 0

def claimedBy (calls : List (Exchange ByteStream)) : Nat := (calls.map claimed).sum

@[simp]
theorem claimedBy_nil : claimedBy [] = 0 := rfl

@[simp]
theorem claimedBy_cons (call : Exchange ByteStream) (calls : List (Exchange ByteStream)) :
    claimedBy (call :: calls) = claimed call + claimedBy calls := rfl

/-! ## Transfers that go by counts -/

/-- How the calls of a transfer of `size` bytes go on when `done` are claimed: each makes the
request for what is left, and another follows exactly if it claims something and that is not yet
enough. -/
inductive Portions (request : Nat → Request) (size : Nat) :
    Nat → List (Exchange ByteStream) → Prop where
  | complete {done : Nat} (hdone : size ≤ done) : Portions request size done []
  | last {done : Nat} {call : Exchange ByteStream} (hroom : done < size)
      (hrequest : call.request = request done) (hnothing : claimed call = 0) :
      Portions request size done [call]
  | more {done : Nat} {call : Exchange ByteStream} {later : List (Exchange ByteStream)}
      (hroom : done < size) (hrequest : call.request = request done) (hmoved : 0 < claimed call)
      (hlater : Portions request size (done + claimed call) later) :
      Portions request size done (call :: later)

namespace Portions

variable {request : Nat → Request} {size done : Nat} {calls : List (Exchange ByteStream)}

theorem length_le (hportions : Portions request size done calls) :
    calls.length ≤ size - done := by
  induction hportions with
  | complete hdone => exact Nat.zero_le _
  | last hroom hrequest hnothing =>
      rw [List.length_singleton]
      omega
  | more hroom hrequest hmoved hlater ih =>
      rw [List.length_cons]
      omega

theorem request_eq
    (hportions : Portions request size done calls) {before after : List (Exchange ByteStream)}
    {call : Exchange ByteStream} (hsplit : calls = before ++ call :: after) :
    done + claimedBy before < size ∧ call.request = request (done + claimedBy before) := by
  induction hportions generalizing before with
  | complete hdone => simp at hsplit
  | @last done only hroom hrequest hnothing =>
      cases before with
      | nil =>
          obtain ⟨rfl, -⟩ := List.cons.inj hsplit
          exact ⟨hroom, hrequest⟩
      | cons first before => simp at hsplit
  | @more done first later hroom hrequest hmoved hlater ih =>
      cases before with
      | nil =>
          obtain ⟨rfl, -⟩ := List.cons.inj hsplit
          exact ⟨hroom, hrequest⟩
      | cons second before =>
          obtain ⟨rfl, hrest⟩ := List.cons.inj hsplit
          rw [claimedBy_cons, ← Nat.add_assoc]
          exact ih hrest

theorem stops
    (hportions : Portions request size done calls) {before after : List (Exchange ByteStream)}
    (hsplit : calls = before ++ after) (henough : size ≤ done + claimedBy before) :
    after = [] := by
  cases after with
  | nil => rfl
  | cons call after =>
      obtain ⟨hroom, -⟩ := hportions.request_eq hsplit
      omega

/-- No transfer ends before it has its amount, unless the stream stops it. -/
theorem ends (hportions : Portions request size done calls) :
    size ≤ done + claimedBy calls ∨ ∃ last, calls.getLast? = some last ∧ claimed last = 0 := by
  induction hportions with
  | complete hdone => exact Or.inl hdone
  | last hroom hrequest hnothing => exact Or.inr ⟨_, rfl, hnothing⟩
  | more hroom hrequest hmoved hlater ih =>
      rcases ih with henough | ⟨last, hlast, hnothing⟩
      · rw [claimedBy_cons, ← Nat.add_assoc]
        exact Or.inl henough
      · rw [List.getLast?_cons, hlast]
        exact Or.inr ⟨last, rfl, hnothing⟩

/-- Every later buffer is shorter. -/
theorem pairwise_offered
    (hportions : Portions request size done calls)
    (hrequest : ∀ done, (request done).offered = size - done) :
    (calls.map fun call => call.request.offered).Pairwise (· > ·) := by
  induction hportions with
  | complete hdone => exact List.Pairwise.nil
  | last hroom hcall hnothing => exact List.pairwise_singleton _ _
  | @more done first later hroom hcall hmoved hlater ih =>
      refine List.pairwise_cons.mpr ⟨?_, ih⟩
      intro length hlength
      obtain ⟨call, hmem, rfl⟩ := List.mem_map.mp hlength
      obtain ⟨before, after, hsplit⟩ := List.append_of_mem hmem
      obtain ⟨hleft, hlater⟩ := hlater.request_eq hsplit
      simp only [hcall, hlater, hrequest]
      omega

end Portions

/-- A filling goes by the counts, and leaves a buffer as long as it was. -/
theorem portions_fill (size : Nat) {buffer : List UInt8} {done : Nat}
    (hbuffer : buffer.length = size - done) :
    (fill buffer).Always fun calls filling =>
      Portions (fun done => .read (size - done)) size done calls ∧
        filling.buffer.length = buffer.length := by
  induction buffer using fill.induct generalizing done with
  | case1 =>
      rw [fill]
      rw [List.length_nil] at hbuffer
      exact ⟨.complete (by omega), rfl⟩
  | case2 buffer hne ih =>
      have hpos := List.length_pos_iff.mpr hne
      have hroom : done < size := by omega
      rw [fill, dif_neg hne]
      rintro ⟨stored, outcome⟩
      have hrequest (outcome : Except Errno Nat) :
          (⟨.read buffer.length, ⟨stored, outcome⟩⟩ : Exchange ByteStream).request =
            .read (size - done) := by
        rw [hbuffer]
      cases outcome with
      | error e => exact ⟨.last hroom (hrequest _) rfl, length_overlay buffer stored⟩
      | ok moved =>
          cases moved with
          | zero => exact ⟨.last hroom (hrequest _) rfl, length_overlay buffer stored⟩
          | succ moved =>
              -- the count may exceed the buffer, and then nothing of it is left
              have hrest : ((overlay buffer stored).drop (moved + 1)).length =
                  size - (done + (moved + 1)) := by
                rw [List.length_drop, length_overlay]
                omega
              refine (always_map_iff _ _).mpr ((ih ⟨stored, .ok (moved + 1)⟩ moved hrest).imp ?_)
              rintro calls filling ⟨hlater, hlength⟩
              refine ⟨.more hroom (hrequest _) (Nat.succ_pos moved) hlater, ?_⟩
              rw [List.length_append, hlength, ← List.length_append, List.take_append_drop,
                length_overlay]

theorem portions_push (whole : List UInt8) {data : List UInt8} {done : Nat}
    (hdata : data = whole.drop done) :
    (push data).Always fun calls _ =>
      Portions (fun done => .write (whole.drop done)) whole.length done calls := by
  induction data using push.induct generalizing done with
  | case1 =>
      rw [push]
      exact .complete (List.drop_eq_nil_iff.mp hdata.symm)
  | case2 data hne ih =>
      have hroom : done < whole.length := by
        rw [hdata] at hne
        exact Nat.lt_of_not_le (mt List.drop_eq_nil_iff.mpr hne)
      rw [push, dif_neg hne]
      intro reply
      have hrequest (reply : Except Errno Nat) :
          (⟨.write data, reply⟩ : Exchange ByteStream).request = .write (whole.drop done) := by
        rw [hdata]
      cases reply with
      | error e => exact .last hroom (hrequest _) rfl
      | ok taken =>
          cases taken with
          | zero => exact .last hroom (hrequest _) rfl
          | succ taken =>
              have hrest : data.drop (taken + 1) = whole.drop (done + (taken + 1)) := by
                rw [hdata, List.drop_drop]
              refine (always_map_iff _ _).mpr ((ih taken hrest).imp ?_)
              intro calls pushed hlater
              exact .more hroom (hrequest _) (Nat.succ_pos taken) hlater

/-! ## A line -/

/-- Reading of at most `limit` bytes behind those of a line, one for each call. -/
structure Sips (limit : Nat) (line : List UInt8) (calls : List (Exchange ByteStream))
    (given : Option (Except Fault Value)) : Prop where
  length_le : calls.length ≤ limit
  request_eq : ∀ call ∈ calls, call.request = .read 1
  answered : given ≠ none
  bytes_le : ∀ bytes, given = some (.ok (.bytes bytes)) → bytes.length ≤ line.length + limit

namespace Sips

variable {limit : Nat} {line : List UInt8} {calls : List (Exchange ByteStream)}
  {given : Option (Except Fault Value)}

/-- An answer without a call gives the line, if it gives bytes. -/
theorem answer {result : Except Fault Value}
    (hresult : ∀ bytes, result = .ok (.bytes bytes) → bytes = line) :
    Sips limit line [] (some result) := by
  refine ⟨Nat.zero_le _, List.forall_mem_nil _, Option.some_ne_none _, ?_⟩
  intro bytes hbytes
  rw [hresult bytes (Option.some.inj hbytes)]
  exact Nat.le_add_right _ _

/-- A call that adds at most one byte to the line, and then the others. -/
theorem cons
    {longer : List UInt8} (hsips : Sips limit longer calls given)
    (hlonger : longer.length ≤ line.length + 1) (reply : ReadReply) :
    Sips (limit + 1) line (⟨.read 1, reply⟩ :: calls) given := by
  constructor
  · rw [List.length_cons]
    exact Nat.succ_le_succ hsips.length_le
  · exact List.forall_mem_cons.mpr ⟨rfl, hsips.request_eq⟩
  · exact hsips.answered
  · intro bytes hbytes
    have hlength := hsips.bytes_le bytes hbytes
    omega

end Sips

theorem sips_readBytes (limit : Nat) {cell : List UInt8} (hcell : cell.length = 1)
    (line : List UInt8) :
    (readBytes (fun line => some (.ok (.bytes line))) cell line limit).Always
      (Sips limit line) := by
  have hgiven (line bytes : List UInt8)
      (hbytes : (.ok (.bytes line) : Except Fault Value) = .ok (.bytes bytes)) : bytes = line := by
    cases hbytes
    rfl
  induction limit generalizing cell line with
  | zero => exact Sips.answer (hgiven line)
  | succ limit ih =>
      have hsame : line.length ≤ line.length + 1 := Nat.le_succ _
      unfold readBytes
      rw [hcell]
      rintro ⟨stored, outcome⟩
      have hone : (overlay cell stored).length = 1 := by
        rw [length_overlay, hcell]
      have hlonger : (line ++ overlay cell stored).length ≤ line.length + 1 := by
        rw [List.length_append]
        omega
      cases outcome with
      | error e =>
          simp only
          split
          · refine Sips.cons (Sips.answer ?_) hsame _
            intro bytes hbytes
            split at hbytes
            · cases hbytes
            · exact hgiven line bytes hbytes
          · exact Sips.cons (Sips.answer (by simp)) hsame _
      | ok moved =>
          cases moved with
          | zero => exact (Sips.answer (hgiven line)).cons hsame _
          | succ moved =>
              simp only
              split
              · exact (Sips.answer (hgiven _)).cons hlonger _
              · exact (ih hone _).imp fun calls given hsips => hsips.cons hlonger _

/-! ## The four transfers -/

/-- The transfers of a bounded amount. -/
inductive Bounded where
  | read (size : Nat)
  | readInto (buffer : List UInt8)
  | write (data : List UInt8)
  | readLine (most : Nat)

namespace Bounded

def method : Bounded → Method
  | .read size => .read (some size)
  | .readInto buffer => .readInto buffer
  | .write data => .write data
  | .readLine most => .readLine (some most)

/-- The most bytes that a transfer may move. -/
def size : Bounded → Nat
  | .read size => size
  | .readInto buffer => buffer.length
  | .write data => data.length
  | .readLine most => most

/-- The request that a transfer makes when that many bytes are claimed. -/
def request : Bounded → Nat → Request
  | .read size, claimed => .read (size - claimed)
  | .readInto buffer, claimed => .read (buffer.length - claimed)
  | .write data, claimed => .write (data.drop claimed)
  | .readLine _, _ => .read 1

/-- A line takes one byte for each call, whatever count the stream claims; the others go by the
count. -/
def GoesByCount : Bounded → Prop
  | .read _ | .readInto _ | .write _ => True
  | .readLine _ => False

variable {transfer : Bounded}

theorem offered_request (hcount : transfer.GoesByCount) (done : Nat) :
    (transfer.request done).offered = transfer.size - done := by
  cases transfer with
  | read size => rfl
  | readInto buffer => rfl
  | write data => exact List.length_drop
  | readLine most => exact hcount.elim

theorem portions (hcount : transfer.GoesByCount) (patience : Nat) :
    (transfer.method.perform patience).Always fun calls answer =>
      Portions transfer.request transfer.size 0 calls ∧ answer ≠ .unanswered ∧
        ∀ bytes, answer = .value (.ok (.bytes bytes)) → bytes.length ≤ transfer.size := by
  cases transfer with
  | read size =>
      refine (always_map_iff _ _).mpr ?_
      rw [read_eq_map_fill]
      have hbuffer : (zeros size).length = size - 0 := length_zeros size
      refine (always_map_iff _ _).mpr ((portions_fill size hbuffer).imp ?_)
      rintro calls filling ⟨hportions, hlength⟩
      refine ⟨hportions, by simp, ?_⟩
      intro bytes hbytes
      obtain ⟨-, hgiven⟩ := (resultOf_eq_ok_iff (by simp)).mp (Answer.value.inj hbytes)
      rw [← Value.bytes.inj hgiven, List.length_take, hlength, length_zeros]
      exact Nat.min_le_right _ _
  | readInto buffer =>
      refine (always_map_iff _ _).mpr ((always_map_iff _ _).mpr ?_)
      have hbuffer : buffer.length = buffer.length - 0 := rfl
      refine (portions_fill buffer.length hbuffer).imp ?_
      rintro calls filling ⟨hportions, -⟩
      exact ⟨hportions, by simp, by simp⟩
  | write data =>
      refine (always_map_iff _ _).mpr ?_
      rw [write_eq_map_push]
      have hdata : data = data.drop 0 := rfl
      refine (always_map_iff _ _).mpr ((portions_push data hdata).imp ?_)
      intro calls pushed hportions
      refine ⟨hportions, by simp, ?_⟩
      intro bytes hbytes
      obtain ⟨-, hgiven⟩ := (resultOf_eq_ok_iff (by simp)).mp (Answer.value.inj hbytes)
      cases hgiven
  | readLine most => exact hcount.elim

theorem sips (most patience : Nat) :
    ((readLine most).method.perform patience).Always fun calls answer =>
      ∃ result, answer = .value result ∧ Sips most [] calls (some result) := by
  refine (always_map_iff _ _).mpr ((sips_readBytes most (length_zeros 1) []).imp ?_)
  intro calls given hsips
  obtain ⟨result, rfl⟩ := Option.ne_none_iff_exists'.mp hsips.answered
  exact ⟨result, rfl, hsips⟩

end Bounded

/-- A transfer of a bounded amount ends by itself, whatever the stream replies: it makes at most as
many calls as it may move bytes, offers with each of them a buffer that is not empty, and gives no
more bytes than were asked for.  If it goes by the counts of the stream, each call offers the amount
less what is claimed already, so the buffers get strictly shorter.  It then goes on until the counts
make up the amount or a call claims nothing, and no further; a count that is too large is enough. -/
theorem bounded_transfers_stay_bounded
    {σ : Type} (respond : Responder ByteStream σ) (state : σ) (patience : Nat)
    (transfer : Bounded) :
    let run := (transfer.method.perform patience).run respond state
    let calls := run.exchanges
    run.value ≠ .unanswered ∧ calls.length ≤ transfer.size ∧
    (∀ before call after, calls = before ++ call :: after →
      call.request = transfer.request (claimedBy before) ∧ 0 < call.request.offered) ∧
    (transfer.GoesByCount →
      (∀ before call after, calls = before ++ call :: after →
        call.request.offered = transfer.size - claimedBy before) ∧
      (calls.map fun call => call.request.offered).Pairwise (· > ·) ∧
      (∀ before after, calls = before ++ after → transfer.size ≤ claimedBy before → after = []) ∧
      (transfer.size ≤ claimedBy calls ∨
        ∃ last, calls.getLast? = some last ∧ claimed last = 0)) ∧
    ∀ bytes, run.value = .value (.ok (.bytes bytes)) → bytes.length ≤ transfer.size := by
  intro run calls
  by_cases hcount : transfer.GoesByCount
  · obtain ⟨hportions, hanswered, hbytes⟩ :=
      (Bounded.portions hcount patience).run respond state
    change Portions transfer.request transfer.size 0 calls at hportions
    have hoffered := Bounded.offered_request hcount
    have hrequest {before call after} (hsplit : calls = before ++ call :: after) :=
      hportions.request_eq hsplit
    have hends := hportions.ends
    simp only [Nat.zero_add] at hrequest hends
    refine ⟨hanswered, hportions.length_le, ?_, fun _ => ⟨?_, ?_, ?_, hends⟩, hbytes⟩
    · intro before call after hsplit
      obtain ⟨hroom, hcall⟩ := hrequest hsplit
      rw [hcall, hoffered]
      exact ⟨rfl, by omega⟩
    · intro before call after hsplit
      rw [(hrequest hsplit).2, hoffered]
    · exact hportions.pairwise_offered hoffered
    · intro before after hsplit henough
      exact hportions.stops hsplit (by omega)
  · cases transfer with
    | readLine most =>
        obtain ⟨result, hvalue, hsips⟩ := (Bounded.sips most patience).run respond state
        change run.value = .value result at hvalue
        change Sips most [] calls (some result) at hsips
        refine ⟨by simp [hvalue], hsips.length_le, ?_, fun hgoes => absurd hgoes hcount, ?_⟩
        · intro before call after hsplit
          have hcall := hsips.request_eq call (hsplit ▸ List.mem_append_cons_self)
          rw [hcall]
          exact ⟨rfl, Nat.one_pos⟩
        · intro bytes hbytes
          rw [hvalue] at hbytes
          have hlength := hsips.bytes_le bytes (congrArg some (Answer.value.inj hbytes))
          rw [List.length_nil, Nat.zero_add] at hlength
          exact hlength
    | _ => exact absurd trivial hcount

section

open Scripted

/-- A stream that claims two bytes, and then as many as a word can count. -/
def boastfulReads : StreamScript := ⟨[.claims 2, .claims (2 ^ 63 - 1), .data [7]], [], []⟩

theorem bounded_transfers_stay_bounded_boastful :
    let run := ((Bounded.read 5).method.perform 0).run StreamScript.respond boastfulReads
    run.exchanges.map (·.request) = [.read 5, .read 3] ∧
      (run.exchanges.map fun call => call.request.offered).Pairwise (· > ·) ∧
      5 ≤ claimedBy run.exchanges := by
  intro run
  obtain ⟨-, -, -, hcounts, -⟩ :=
    bounded_transfers_stay_bounded StreamScript.respond boastfulReads 0 (.read 5)
  obtain ⟨-, hshorter, -, henough | ⟨last, hlast, hnothing⟩⟩ := hcounts trivial
  · exact ⟨by decide +kernel, hshorter, henough⟩
  · have hclaim : (run.exchanges.getLast?.map claimed) = some (2 ^ 63 - 1) := by decide +kernel
    change run.exchanges.getLast? = some last at hlast
    rw [hlast, Option.map_some, hnothing] at hclaim
    simp at hclaim

end

end ScriptSocket.Stream
