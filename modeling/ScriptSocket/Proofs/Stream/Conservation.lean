import Mathlib.Algebra.Group.Nat.Defs
import ScriptSocket.Handle.Method
import ScriptSocket.Proofs.Relay
import ScriptSocket.Scripted.Stack

/-!
# Reading loses no bytes

A byte source answers reads from a queue of pieces, ends of stream and failures.  However its bytes
are read, in whatever mixture of methods, what the methods deliver followed by what is still queued
is what was queued at first.  The same holds of a socket whose stack receives from such a queue.
-/

namespace ScriptSocket

namespace Scripted

def queued (queue : List ReadEntry) : List UInt8 :=
  queue.flatMap fun
    | .data bytes => bytes
    | .fails _ | .claims _ => []

/-- A queue whose only reports without bytes are ends of stream. -/
def Conforming (queue : List ReadEntry) : Prop :=
  ∀ count, ReadEntry.claims count ∈ queue → count = 0

theorem Conforming.tail
    {entry : ReadEntry} {queue : List ReadEntry} (hconforming : Conforming (entry :: queue)) :
    Conforming queue := by
  intro count hmem
  exact hconforming count (List.mem_cons_of_mem entry hmem)

theorem conforming_readReply
    {queue : List ReadEntry} (hconforming : Conforming queue) (size : Nat) :
    Conforming (readReply size queue).2 := by
  cases queue with
  | nil => exact hconforming
  | cons entry rest =>
      cases entry with
      | data bytes =>
          simp only [readReply]
          split
          · exact hconforming.tail
          · intro count hmem
            simp only [List.mem_cons, reduceCtorEq, false_or] at hmem
            exact hconforming.tail count hmem
      | fails errno => exact hconforming.tail
      | claims count => exact hconforming.tail

/-- What one read moves: as many bytes as it reports, from the front of the queue, and no more than
the buffer holds; nothing if it fails. -/
structure Moved (size : Nat) (before : List UInt8) (reply : Stream.ReadReply)
    (after : List UInt8) : Prop where
  bytes : reply.stored ++ after = before
  fits : reply.stored.length ≤ size
  count : ∀ moved, reply.outcome = .ok moved → reply.stored.length = moved
  failed : ∀ e, reply.outcome = .error e → reply.stored = []

theorem moved_readReply
    {queue : List ReadEntry} (hconforming : Conforming queue) (size : Nat) :
    Moved size (queued queue) (readReply size queue).1 (queued (readReply size queue).2) := by
  cases queue with
  | nil => constructor <;> simp [readReply, queued]
  | cons entry rest =>
      cases entry with
      | data bytes =>
          by_cases hfits : bytes.length ≤ size
          · constructor <;>
              simp [readReply, queued, hfits, List.take_of_length_le hfits]
          · have hshort : min size bytes.length = size := by omega
            constructor <;>
              simp [readReply, queued, hfits, hshort, ← List.append_assoc,
                Nat.min_comm bytes.length size]
      | fails errno => constructor <;> simp [readReply, queued]
      | claims count =>
          have hzero : count = 0 := hconforming count (List.mem_cons_self)
          constructor <;> simp [readReply, queued, hzero]

end Scripted

namespace Stream

open Scripted

/-- A stream whose reads are answered from a queue, as long as its state is `usable`; reading keeps
it so. -/
structure Feeds {σ : Type} (respond : Responder ByteStream σ) (usable : σ → Prop)
    (queue : σ → List ReadEntry) : Prop where
  reply : ∀ size state, usable state →
    (respond (.read size) state).1 = (readReply size (queue state)).1
  queue_after : ∀ size state, usable state →
    queue (respond (.read size) state).2 = (readReply size (queue state)).2
  usable_after : ∀ size state, usable state → usable (respond (.read size) state).2

/-- Nothing was lost between two states of a source: what was delivered, and what is still queued,
is what was queued. -/
structure Conserves {σ : Type} (usable : σ → Prop) (queue : σ → List ReadEntry)
    (before : List UInt8) (delivered : List UInt8) (after : σ) : Prop where
  usable : usable after
  conforming : Conforming (queue after)
  bytes : delivered ++ queued (queue after) = before

section

variable {σ : Type} {respond : Responder ByteStream σ} {usable : σ → Prop}
  {queue : σ → List ReadEntry}

theorem Feeds.moved
    (hfeeds : Feeds respond usable queue) {state : σ} (husable : usable state)
    (hconforming : Conforming (queue state)) (size : Nat) :
    Moved size (queued (queue state)) (respond (.read size) state).1
      (queued (queue (respond (.read size) state).2)) := by
  rw [hfeeds.reply size state husable, hfeeds.queue_after size state husable]
  exact moved_readReply hconforming size

theorem Feeds.conserves
    (hfeeds : Feeds respond usable queue) {state : σ} (husable : usable state)
    (hconforming : Conforming (queue state)) (size : Nat) :
    Conserves usable queue (queued (queue state)) (respond (.read size) state).1.stored
      (respond (.read size) state).2 := by
  constructor
  · exact hfeeds.usable_after size state husable
  · rw [hfeeds.queue_after size state husable]
    exact conforming_readReply hconforming size
  · exact (hfeeds.moved husable hconforming size).bytes

theorem Conserves.trans
    {before first second : List UInt8} {between after : σ}
    (hfirst : Conserves usable queue before first between)
    (hsecond : Conserves usable queue (queued (queue between)) second after) :
    Conserves usable queue before (first ++ second) after := by
  constructor
  · exact hsecond.usable
  · exact hsecond.conforming
  · rw [List.append_assoc, hsecond.bytes]
    exact hfirst.bytes

theorem Conserves.prepend
    {before delivered : List UInt8} {after : σ} (taken : List UInt8)
    (hconserves : Conserves usable queue before delivered after) :
    Conserves usable queue (taken ++ before) (taken ++ delivered) after := by
  constructor
  · exact hconserves.usable
  · exact hconserves.conforming
  · rw [List.append_assoc, hconserves.bytes]

theorem Conserves.keep
    {before : List UInt8} {after : σ} (taken : List UInt8)
    (hnothing : Conserves usable queue before [] after) :
    Conserves usable queue (taken ++ before) taken after := by
  have hprepend := hnothing.prepend taken
  rw [List.append_nil] at hprepend
  exact hprepend

/-! ## The transfers -/

/-- Bytes moved into a buffer stand at its front. -/
theorem overlay_of_moved
    {before after buffer : List UInt8} {reply : ReadReply} {moved : Nat}
    (hmoved : Moved buffer.length before reply after) (houtcome : reply.outcome = .ok moved) :
    overlay buffer reply.stored = reply.stored ++ buffer.drop moved ∧
      reply.stored.length = moved := by
  have hlength := hmoved.count moved houtcome
  refine ⟨?_, hlength⟩
  rw [overlay_of_length_le hmoved.fits, hlength]

theorem take_overlay_of_moved
    {before after buffer : List UInt8} {reply : ReadReply} {moved : Nat}
    (hmoved : Moved buffer.length before reply after) (houtcome : reply.outcome = .ok moved) :
    (overlay buffer reply.stored).take moved = reply.stored := by
  obtain ⟨hoverlay, hlength⟩ := overlay_of_moved hmoved houtcome
  rw [hoverlay, ← hlength, List.take_left]

theorem Feeds.run_fill
    (hfeeds : Feeds respond usable queue) (buffer : List UInt8) {state : σ}
    (husable : usable state) (hconforming : Conforming (queue state)) :
    ((fill buffer).run respond state).value.count ≤ buffer.length ∧
      Conserves usable queue (queued (queue state))
        (((fill buffer).run respond state).value.buffer.take
          ((fill buffer).run respond state).value.count)
        ((fill buffer).run respond state).state := by
  induction buffer using fill.induct generalizing state with
  | case1 =>
      rw [fill]
      exact ⟨Nat.le_refl _, husable, hconforming, rfl⟩
  | case2 buffer hne ih =>
      have hmoved := hfeeds.moved husable hconforming buffer.length
      have hread := hfeeds.conserves husable hconforming buffer.length
      rw [fill, dif_neg hne]
      simp only [Dialogue.run]
      cases houtcome : (respond (.read buffer.length) state).1.outcome with
      | error e =>
          rw [hmoved.failed e houtcome] at hread
          exact ⟨Nat.zero_le _, hread⟩
      | ok moved =>
          cases moved with
          | zero =>
              have hnone := List.length_eq_zero_iff.mp (hmoved.count 0 houtcome)
              rw [hnone] at hread
              exact ⟨Nat.zero_le _, hread⟩
          | succ moved =>
              obtain ⟨hoverlay, hlength⟩ := overlay_of_moved hmoved houtcome
              have htake := take_overlay_of_moved hmoved houtcome
              have hfits := hmoved.fits
              -- the rest of the buffer is filled from the rest of the queue
              obtain ⟨hcount, hrest⟩ :=
                ih (respond (.read buffer.length) state).1 moved hread.usable hread.conforming
              simp only [Dialogue.run_map, htake]
              constructor
              · simp only [List.length_drop, length_overlay] at hcount
                omega
              · have hboth := hread.trans hrest
                rw [← hlength, List.take_length_add_append]
                rw [← hlength] at hboth
                exact hboth

/-- The bytes that a method gave to its caller. -/
def Answer.delivered : Answer → List UInt8
  | .value (.ok (.bytes data)) => data
  | .filled (.ok (.int number)) buffer => buffer.take number.toNatClampNeg
  | .bareFilled (.ok number) buffer => buffer.take number
  | _ => []

/-- The method ended, and without an error. -/
def Answer.Succeeded : Answer → Prop
  | .value (.ok _) | .filled (.ok _) _ | .closed (.ok _) | .count (.ok _)
  | .bareFilled (.ok _) _ => True
  | _ => False

instance : DecidablePred Answer.Succeeded := fun answer =>
  match answer with
  | .value (.ok _) | .filled (.ok _) _ | .closed (.ok _) | .count (.ok _)
  | .bareFilled (.ok _) _ => isTrue trivial
  | .value (.error _) | .filled (.error _) _ | .closed (.error _) | .count (.error _)
  | .bareFilled (.error _) _ | .unanswered => isFalse id

/-- The method had nothing to give because the stream would have blocked. -/
def Answer.IsNone : Answer → Prop
  | .value (.ok .none) | .filled (.ok .none) _ => True
  | _ => False

theorem Answer.delivered_of_isNone {answer : Answer} (hnone : answer.IsNone) :
    answer.delivered = [] := by
  unfold IsNone at hnone
  split at hnone
  · rfl
  · rfl
  · exact hnone.elim

theorem Answer.succeeded_of_isNone {answer : Answer} (hnone : answer.IsNone) :
    answer.Succeeded := by
  unfold IsNone at hnone
  split at hnone
  · trivial
  · trivial
  · exact hnone.elim

/-- The methods that only read. -/
def Method.Reads : Method → Prop
  | .read _ | .readInto _ | .readLine _ | .bareRead _ => True
  | .write _ | .close | .bareControl _ _ | .bareWrite _ => False

/-- A buffer is an object in memory and has fewer than 2^63 bytes. -/
def Method.Fits : Method → Prop
  | .readInto buffer => buffer.length < 2 ^ 63
  | _ => True

theorem Feeds.run_read
    (hfeeds : Feeds respond usable queue) (size : Nat) {state : σ}
    (husable : usable state) (hconforming : Conforming (queue state))
    (hsucceeded : (Answer.value ((Stream.read size).run respond state).value).Succeeded) :
    Conserves usable queue (queued (queue state))
      (Answer.value ((Stream.read size).run respond state).value).delivered
      ((Stream.read size).run respond state).state := by
  obtain ⟨-, hfill⟩ := hfeeds.run_fill (zeros size) husable hconforming
  unfold Stream.read at hsucceeded ⊢
  simp only [Dialogue.run_map] at hsucceeded ⊢
  cases hending : ((fill (zeros size)).run respond state).value.ending with
  | error e =>
      rw [hending] at hsucceeded
      exact hsucceeded.elim
  | ok ending =>
      cases ending with
      | complete => exact hfill
      | wouldBlock =>
          by_cases hzero : ((fill (zeros size)).run respond state).value.count = 0
          · rw [hzero] at hfill
            simp only [hzero, if_true]
            exact hfill
          · simp only [hzero, if_false]
            exact hfill

theorem Feeds.run_readInto
    (hfeeds : Feeds respond usable queue) {buffer : List UInt8} (hbuffer : buffer.length < 2 ^ 63)
    {state : σ} (husable : usable state) (hconforming : Conforming (queue state))
    (hsucceeded : (Answer.filled ((Stream.readInto buffer).run respond state).value.1
      ((Stream.readInto buffer).run respond state).value.2).Succeeded) :
    Conserves usable queue (queued (queue state))
      (Answer.filled ((Stream.readInto buffer).run respond state).value.1
        ((Stream.readInto buffer).run respond state).value.2).delivered
      ((Stream.readInto buffer).run respond state).state := by
  obtain ⟨hcount, hfill⟩ := hfeeds.run_fill buffer husable hconforming
  have hnumber :
      (Int64.ofNat ((fill buffer).run respond state).value.count).toNatClampNeg =
        ((fill buffer).run respond state).value.count :=
    Int64.toNatClampNeg_ofNat_of_lt (by omega)
  unfold Stream.readInto at hsucceeded ⊢
  simp only [Dialogue.run_map] at hsucceeded ⊢
  cases hending : ((fill buffer).run respond state).value.ending with
  | error e =>
      rw [hending] at hsucceeded
      exact hsucceeded.elim
  | ok ending =>
      cases ending with
      | complete =>
          simp only [countValue, Answer.delivered, hnumber]
          exact hfill
      | wouldBlock =>
          by_cases hzero : ((fill buffer).run respond state).value.count = 0
          · rw [hzero] at hfill
            simp only [hzero, if_true]
            exact hfill
          · simp only [hzero, if_false, countValue, Answer.delivered, hnumber]
            exact hfill

/-- A transfer that fails, having moved nothing more, gives what it had taken if the stream would
block. -/
theorem Conserves.afterFailure
    {before : List UInt8} {after : σ} (hnothing : Conserves usable queue before [] after)
    (taken : List UInt8) (e : Errno) {stop : Dialogue ByteStream (Option (Except Fault Value))}
    (hstop : stop =
      if e.wouldBlock then .done (some (.ok (if taken = [] then .none else .bytes taken)))
      else .done (some (.error (.system e))))
    (hsucceeded : (Answer.ofPatient (stop.run respond after).value).Succeeded) :
    Conserves usable queue (taken ++ before)
      (Answer.ofPatient (stop.run respond after).value).delivered
      (stop.run respond after).state := by
  subst hstop
  have hkeep := hnothing.keep taken
  by_cases hblock : e.wouldBlock = true
  · simp only [hblock, if_true, Dialogue.run, Answer.ofPatient]
    by_cases hempty : taken = []
    · simp only [hempty, if_true, Answer.delivered] at hkeep ⊢
      exact hkeep
    · simp only [hempty, if_false, Answer.delivered]
      exact hkeep
  · simp only [hblock] at hsucceeded
    exact hsucceeded.elim

theorem Feeds.run_readPieces
    (hfeeds : Feeds respond usable queue) (patience : Nat) (piece taken : List UInt8)
    {state : σ} (husable : usable state) (hconforming : Conforming (queue state))
    (hsucceeded :
      (Answer.ofPatient ((readPieces piece taken patience).run respond state).value).Succeeded) :
    Conserves usable queue (taken ++ queued (queue state))
      (Answer.ofPatient ((readPieces piece taken patience).run respond state).value).delivered
      ((readPieces piece taken patience).run respond state).state := by
  induction patience generalizing piece taken state with
  | zero => exact hsucceeded.elim
  | succ patience ih =>
      have hmoved := hfeeds.moved husable hconforming piece.length
      have hread := hfeeds.conserves husable hconforming piece.length
      simp only [readPieces, Dialogue.run] at hsucceeded ⊢
      cases houtcome : (respond (.read piece.length) state).1.outcome with
      | error e =>
          rw [hmoved.failed e houtcome] at hread
          simp only [houtcome] at hsucceeded ⊢
          exact hread.afterFailure taken e rfl hsucceeded
      | ok moved =>
          cases moved with
          | zero =>
              have hnone := List.length_eq_zero_iff.mp (hmoved.count 0 houtcome)
              rw [hnone] at hread
              exact hread.keep taken
          | succ moved =>
              have htake := take_overlay_of_moved hmoved houtcome
              have hlength := hmoved.count _ houtcome
              have hfits := hmoved.fits
              have hroom : moved < (overlay piece
                  (respond (.read piece.length) state).1.stored).length := by
                rw [length_overlay]
                omega
              simp only [houtcome, hroom, if_true, htake] at hsucceeded ⊢
              have hrest := ih _ _ hread.usable hread.conforming hsucceeded
              rw [List.append_assoc, hread.bytes] at hrest
              exact hrest

theorem Feeds.run_readBytes
    (hfeeds : Feeds respond usable queue)
    {atLimit : List UInt8 → Option (Except Fault Value)}
    (hlimit : ∀ line, (Answer.ofPatient (atLimit line)).Succeeded →
      (Answer.ofPatient (atLimit line)).delivered = line)
    (limit : Nat) {cell : List UInt8} (hcell : cell.length = 1) (line : List UInt8)
    {state : σ} (husable : usable state) (hconforming : Conforming (queue state))
    (hsucceeded :
      (Answer.ofPatient ((readBytes atLimit cell line limit).run respond state).value).Succeeded) :
    Conserves usable queue (line ++ queued (queue state))
      (Answer.ofPatient ((readBytes atLimit cell line limit).run respond state).value).delivered
      ((readBytes atLimit cell line limit).run respond state).state := by
  induction limit generalizing cell line state with
  | zero =>
      simp only [readBytes, Dialogue.run] at hsucceeded ⊢
      rw [hlimit line hsucceeded]
      exact ⟨husable, hconforming, rfl⟩
  | succ limit ih =>
      have hmoved := hfeeds.moved husable hconforming cell.length
      have hread := hfeeds.conserves husable hconforming cell.length
      simp only [readBytes, Dialogue.run] at hsucceeded ⊢
      cases houtcome : (respond (.read cell.length) state).1.outcome with
      | error e =>
          rw [hmoved.failed e houtcome] at hread
          simp only [houtcome] at hsucceeded ⊢
          exact hread.afterFailure line e rfl hsucceeded
      | ok moved =>
          cases moved with
          | zero =>
              have hnone := List.length_eq_zero_iff.mp (hmoved.count 0 houtcome)
              rw [hnone] at hread
              exact hread.keep line
          | succ moved =>
              -- the cell holds the one byte that was read
              have hlength := hmoved.count _ houtcome
              have hfits := hmoved.fits
              have hone : overlay cell (respond (.read cell.length) state).1.stored =
                  (respond (.read cell.length) state).1.stored := by
                rw [overlay_of_length_le hfits, List.drop_eq_nil_of_le (by omega),
                  List.append_nil]
              simp only [houtcome, hone] at hsucceeded ⊢
              by_cases hnewline : (respond (.read cell.length) state).1.stored = [newline]
              · simp only [hnewline, if_true, Dialogue.run] at hread ⊢
                exact hread.prepend line
              · simp only [hnewline, if_false] at hsucceeded ⊢
                have hrest := ih (by omega) _ hread.usable hread.conforming hsucceeded
                rw [List.append_assoc, hread.bytes] at hrest
                exact hrest

theorem Feeds.run_perform
    (hfeeds : Feeds respond usable queue) (patience : Nat) {method : Method}
    (hreads : method.Reads) (hfits : method.Fits)
    {state : σ} (husable : usable state) (hconforming : Conforming (queue state))
    (hsucceeded : ((method.perform patience).run respond state).value.Succeeded) :
    Conserves usable queue (queued (queue state))
      ((method.perform patience).run respond state).value.delivered
      ((method.perform patience).run respond state).state := by
  have hzeros : (zeros 1).length = 1 := length_zeros 1
  cases method with
  | read size =>
      cases size with
      | some size =>
          simp only [Method.perform, Dialogue.run_map] at hsucceeded ⊢
          exact hfeeds.run_read size husable hconforming hsucceeded
      | none =>
          simp only [Method.perform, readToEnd, Dialogue.run_map] at hsucceeded ⊢
          exact hfeeds.run_readPieces patience _ [] husable hconforming hsucceeded
  | readInto buffer =>
      simp only [Method.perform, Dialogue.run_map] at hsucceeded ⊢
      exact hfeeds.run_readInto hfits husable hconforming hsucceeded
  | readLine most =>
      cases most with
      | some most =>
          simp only [Method.perform, readLine, Dialogue.run_map] at hsucceeded ⊢
          exact hfeeds.run_readBytes (fun line _ => rfl) most hzeros [] husable hconforming
            hsucceeded
      | none =>
          simp only [Method.perform, readWholeLine, Dialogue.run_map] at hsucceeded ⊢
          refine hfeeds.run_readBytes ?_ patience hzeros [] husable hconforming hsucceeded
          intro line hspent
          exact False.elim hspent
  | bareRead buffer =>
      have hmoved := hfeeds.moved husable hconforming buffer.length
      have hread := hfeeds.conserves husable hconforming buffer.length
      simp only [Method.perform, Dialogue.run] at hsucceeded ⊢
      cases houtcome : (respond (.read buffer.length) state).1.outcome with
      | error e =>
          rw [houtcome] at hsucceeded
          exact hsucceeded.elim
      | ok moved =>
          simp only [Answer.delivered]
          rw [take_overlay_of_moved hmoved houtcome]
          exact hread
  | write data => exact hreads.elim
  | close => exact hreads.elim
  | bareControl request argument => exact hreads.elim
  | bareWrite data => exact hreads.elim

def performEach (patience : Nat) : List Method → Dialogue ByteStream (List Answer)
  | [] => .done []
  | method :: methods =>
    (method.perform patience).bind fun answer =>
      (performEach patience methods).map (answer :: ·)

theorem Feeds.run_performEach
    (hfeeds : Feeds respond usable queue) (patience : Nat) (methods : List Method)
    (hmethods : ∀ method ∈ methods, method.Reads ∧ method.Fits)
    {state : σ} (husable : usable state) (hconforming : Conforming (queue state))
    (hsucceeded : ∀ answer ∈ ((performEach patience methods).run respond state).value,
      answer.Succeeded) :
    Conserves usable queue (queued (queue state))
      (((performEach patience methods).run respond state).value.flatMap Answer.delivered)
      ((performEach patience methods).run respond state).state := by
  induction methods generalizing state with
  | nil => exact ⟨husable, hconforming, rfl⟩
  | cons method methods ih =>
      simp only [performEach, Dialogue.run_bind, Dialogue.run_map,
        Dialogue.Run.andThen] at hsucceeded ⊢
      obtain ⟨hreads, hfits⟩ := hmethods method List.mem_cons_self
      have hfirst := hfeeds.run_perform patience hreads hfits husable hconforming
        (hsucceeded _ List.mem_cons_self)
      have hrest := ih (fun other hother => hmethods other (List.mem_cons_of_mem _ hother))
        hfirst.usable hfirst.conforming
        (fun answer hanswer => hsucceeded answer (List.mem_cons_of_mem _ hanswer))
      rw [List.flatMap_cons]
      exact hfirst.trans hrest

end

end Stream

/-! ## Sockets -/

namespace Handle

open Scripted ScriptSocket.Stream

/-- A stack that receives on a descriptor from a queue. -/
structure FeedsSocket {τ : Type} (respond : Responder NetworkStack τ) (descriptor : Int32)
    (queue : τ → List ReadEntry) : Prop where
  reply : ∀ size below,
    (respond (.receive descriptor size) below).1 = (readReply size (queue below)).1
  queue_after : ∀ size below,
    queue (respond (.receive descriptor size) below).2 = (readReply size (queue below)).2

section

variable {τ : Type} {respond : Responder NetworkStack τ} {descriptor : Int32}
  {queue : τ → List ReadEntry}

/-- An open handle over such a stack is a stream whose reads are answered from the queue. -/
theorem FeedsSocket.feeds (hsocket : FeedsSocket respond descriptor queue) :
    Feeds (Dialogue.serving respond serve)
      (fun state : Handle × τ => state.1.descriptor = some descriptor)
      (fun state => queue state.2) := by
  constructor
  · intro size state hopen
    simp only [Dialogue.serving, serve, hopen, Dialogue.run]
    exact hsocket.reply size state.2
  · intro size state hopen
    simp only [Dialogue.serving, serve, hopen, Dialogue.run]
    exact hsocket.queue_after size state.2
  · intro size state hopen
    simp only [Dialogue.serving, serve, hopen, Dialogue.run]

def Answer.delivered : Answer → List UInt8
  | .bytes (.ok data) => data
  | .stream answer => answer.delivered
  | _ => []

def Answer.Succeeded : Answer → Prop
  | .bytes (.ok _) => True
  | .stream answer => answer.Succeeded
  | _ => False

instance : DecidablePred Answer.Succeeded := fun answer =>
  match answer with
  | .bytes (.ok _) => isTrue trivial
  | .stream answer => inferInstanceAs (Decidable answer.Succeeded)
  | .bytes (.error _) | .done _ | .value _ | .count _ | .accepted _ | .file _ => isFalse id

def Answer.IsNone : Answer → Prop
  | .stream answer => answer.IsNone
  | _ => False

theorem Answer.delivered_of_isNone {answer : Answer} (hnone : answer.IsNone) :
    answer.delivered = [] := by
  cases answer with
  | stream answer => exact Stream.Answer.delivered_of_isNone hnone
  | _ => exact hnone.elim

theorem Answer.succeeded_of_isNone {answer : Answer} (hnone : answer.IsNone) :
    answer.Succeeded := by
  cases answer with
  | stream answer => exact Stream.Answer.succeeded_of_isNone hnone
  | _ => exact hnone.elim

def Method.Reads : Method → Prop
  | .receive _ => True
  | .stream method => method.Reads ∧ method.Fits
  | _ => False

theorem FeedsSocket.run_receive
    (hsocket : FeedsSocket respond descriptor queue) {h : Handle}
    (hopen : h.descriptor = some descriptor) (size : Int64) {below : τ}
    (hconforming : Conforming (queue below))
    (hsucceeded : (Answer.bytes ((h.receive size).run respond below).value.1).Succeeded) :
    Conserves (fun state : Handle × τ => state.1.descriptor = some descriptor)
      (fun state => queue state.2) (queued (queue below))
      (Answer.bytes ((h.receive size).run respond below).value.1).delivered
      (((h.receive size).run respond below).value.2, ((h.receive size).run respond below).state)
    := by
  unfold receive at hsucceeded ⊢
  rw [whenOpen_open hopen] at hsucceeded ⊢
  by_cases hnegative : size < 0
  · rw [if_pos hnegative] at hsucceeded
    exact hsucceeded.elim
  rw [if_neg hnegative] at hsucceeded ⊢
  by_cases hlarge : unallocatable ≤ size.toNatClampNeg
  · simp only [hlarge, if_true] at hsucceeded
    exact hsucceeded.elim
  simp only [hlarge, if_false, Dialogue.run] at hsucceeded ⊢
  have hmoved := moved_readReply hconforming size.toNatClampNeg
  have hafter := conforming_readReply hconforming size.toNatClampNeg
  rw [← hsocket.reply, ← hsocket.queue_after] at hmoved
  rw [← hsocket.queue_after] at hafter
  have hbytes := hmoved.bytes
  cases houtcome : (respond (.receive descriptor size.toNatClampNeg) below).1.outcome with
  | error errno =>
      rw [houtcome] at hsucceeded
      exact hsucceeded.elim
  | ok count =>
      cases count with
      | zero =>
          rw [List.length_eq_zero_iff.mp (hmoved.count 0 houtcome)] at hbytes
          by_cases hpositive : 0 < size.toNatClampNeg
          · simp only [hpositive, if_true]
            exact ⟨hopen, hafter, hbytes⟩
          · simp only [hpositive, if_false]
            exact ⟨hopen, hafter, hbytes⟩
      | succ count =>
          have hzeros : Moved (zeros size.toNatClampNeg).length (queued (queue below))
              (respond (.receive descriptor size.toNatClampNeg) below).1
              (queued (queue (respond (.receive descriptor size.toNatClampNeg) below).2)) := by
            rw [length_zeros]
            exact hmoved
          simp only [Dialogue.run, take_overlay_of_moved hzeros houtcome]
          exact ⟨hopen, hafter, hbytes⟩

theorem FeedsSocket.run_perform
    (hsocket : FeedsSocket respond descriptor queue) (patience : Nat) {h : Handle}
    (hopen : h.descriptor = some descriptor) {method : Method} (hreads : method.Reads)
    {below : τ} (hconforming : Conforming (queue below))
    (hsucceeded : ((method.perform patience h).run respond below).value.1.Succeeded) :
    Conserves (fun state : Handle × τ => state.1.descriptor = some descriptor)
      (fun state => queue state.2) (queued (queue below))
      ((method.perform patience h).run respond below).value.1.delivered
      (((method.perform patience h).run respond below).value.2,
        ((method.perform patience h).run respond below).state) := by
  cases method with
  | receive size =>
      simp only [Method.perform, Dialogue.run_map, Prod.map] at hsucceeded ⊢
      exact hsocket.run_receive hopen size hconforming hsucceeded
  | stream method =>
      obtain ⟨hvalue, hstate⟩ :=
        Dialogue.run_relay respond serve (method.perform patience) h below
      simp only [Method.perform, transfer, Dialogue.run_map, Prod.map, hvalue,
        hstate] at hsucceeded ⊢
      exact hsocket.feeds.run_perform patience hreads.1 hreads.2 hopen hconforming hsucceeded
  | _ => exact hreads.elim

def performEach (patience : Nat) (h : Handle) :
    List Method → Dialogue NetworkStack (List Answer × Handle)
  | [] => .done ([], h)
  | method :: methods =>
    (method.perform patience h).bind fun (answer, h) =>
      (performEach patience h methods).map fun (answers, h) => (answer :: answers, h)

theorem FeedsSocket.run_performEach
    (hsocket : FeedsSocket respond descriptor queue) (patience : Nat)
    (methods : List Method) (hmethods : ∀ method ∈ methods, method.Reads)
    {h : Handle} (hopen : h.descriptor = some descriptor)
    {below : τ} (hconforming : Conforming (queue below))
    (hsucceeded : ∀ answer ∈ ((performEach patience h methods).run respond below).value.1,
      answer.Succeeded) :
    Conserves (fun state : Handle × τ => state.1.descriptor = some descriptor)
      (fun state => queue state.2) (queued (queue below))
      (((performEach patience h methods).run respond below).value.1.flatMap Answer.delivered)
      (((performEach patience h methods).run respond below).value.2,
        ((performEach patience h methods).run respond below).state) := by
  induction methods generalizing h below with
  | nil => exact ⟨hopen, hconforming, rfl⟩
  | cons method methods ih =>
      simp only [performEach, Dialogue.run_bind, Dialogue.run_map,
        Dialogue.Run.andThen] at hsucceeded ⊢
      have hfirst := hsocket.run_perform patience hopen (hmethods method List.mem_cons_self)
        hconforming (hsucceeded _ List.mem_cons_self)
      have hrest := ih (fun other hother => hmethods other (List.mem_cons_of_mem _ hother))
        hfirst.usable hfirst.conforming
        (fun answer hanswer => hsucceeded answer (List.mem_cons_of_mem _ hanswer))
      rw [List.flatMap_cons]
      exact hfirst.trans hrest

end

end Handle

section

open Scripted ScriptSocket.Stream

theorem Scripted.StreamScript.feeds :
    Feeds StreamScript.respond (fun _ => True) (fun script => script.reads) :=
  ⟨fun _ _ _ => rfl, fun _ _ _ => rfl, fun _ _ _ => trivial⟩

theorem Scripted.StackScript.feedsSocket (descriptor : Int32) :
    Handle.FeedsSocket StackScript.respond descriptor (fun script => script.receives) :=
  ⟨fun _ _ => rfl, fun _ _ => rfl⟩

/-- Whatever is read, in whatever mixture of methods that succeed, the bytes delivered followed by
those still queued are the bytes that were queued; and a method that has nothing to give has taken
nothing.  So it is of every stream that is fed from a queue, and of every open socket whose stack
receives from one. -/
theorem reading_conserves_bytes :
    (∀ (σ : Type) (respond : Responder ByteStream σ) (usable : σ → Prop)
        (queue : σ → List ReadEntry), Feeds respond usable queue →
      ∀ patience state, usable state → Conforming (queue state) →
        (∀ methods : List Stream.Method,
          (∀ method ∈ methods, method.Reads ∧ method.Fits) →
          (∀ answer ∈ ((Stream.performEach patience methods).run respond state).value,
            answer.Succeeded) →
          ((Stream.performEach patience methods).run respond state).value.flatMap
              (·.delivered) ++
            queued (queue ((Stream.performEach patience methods).run respond state).state) =
          queued (queue state)) ∧
        (∀ method : Stream.Method, method.Reads → method.Fits →
          ((method.perform patience).run respond state).value.IsNone →
          queued (queue ((method.perform patience).run respond state).state) =
            queued (queue state))) ∧
    (∀ (τ : Type) (respond : Responder NetworkStack τ) (descriptor : Int32)
        (queue : τ → List ReadEntry), Handle.FeedsSocket respond descriptor queue →
      ∀ patience (h : Handle) below, h.descriptor = some descriptor →
        Conforming (queue below) →
        (∀ methods : List Handle.Method,
          (∀ method ∈ methods, method.Reads) →
          (∀ answer ∈ ((Handle.performEach patience h methods).run respond below).value.1,
            answer.Succeeded) →
          ((Handle.performEach patience h methods).run respond below).value.1.flatMap
              (·.delivered) ++
            queued (queue ((Handle.performEach patience h methods).run respond below).state) =
          queued (queue below)) ∧
        (∀ method : Handle.Method, method.Reads →
          ((method.perform patience h).run respond below).value.1.IsNone →
          queued (queue ((method.perform patience h).run respond below).state) =
            queued (queue below))) := by
  constructor
  · intro σ respond usable queue hfeeds patience state husable hconforming
    constructor
    · intro methods hmethods hsucceeded
      exact (hfeeds.run_performEach patience methods hmethods husable hconforming
        hsucceeded).bytes
    · intro method hreads hfits hnone
      have hconserves := hfeeds.run_perform patience hreads hfits husable hconforming
        (Stream.Answer.succeeded_of_isNone hnone)
      have hbytes := hconserves.bytes
      rw [Stream.Answer.delivered_of_isNone hnone] at hbytes
      exact hbytes
  · intro τ respond descriptor queue hsocket patience h below hopen hconforming
    constructor
    · intro methods hmethods hsucceeded
      exact (hsocket.run_performEach patience methods hmethods hopen hconforming
        hsucceeded).bytes
    · intro method hreads hnone
      have hconserves := hsocket.run_perform patience hopen hreads hconforming
        (Handle.Answer.succeeded_of_isNone hnone)
      have hbytes := hconserves.bytes
      rw [Handle.Answer.delivered_of_isNone hnone] at hbytes
      exact hbytes

/-- A queue whose pieces no buffer below fits. -/
def mixedQueue : List ReadEntry :=
  [.data [72, 105, 10, 33], .fails .again, .data [1, 2, 3], .claims 0]

def mixedReads : List Stream.Method :=
  [.read (some 1), .readLine none, .readInto [7, 7], .bareRead [0, 0], .read none]

/-- Five ways of reading take the queue apart, from a bare stream and, after a plain receive, from
a socket. -/
theorem reading_conserves_bytes_mixed :
    (((Stream.performEach 10 mixedReads).run StreamScript.respond
        ⟨mixedQueue, [], []⟩).value.flatMap (·.delivered) ++
      queued ((Stream.performEach 10 mixedReads).run StreamScript.respond
        ⟨mixedQueue, [], []⟩).state.reads = [72, 105, 10, 33, 1, 2, 3]) ∧
    (((Handle.performEach 10 ⟨some 3, .ipv4, .new, {}⟩
          (.receive 1 :: mixedReads.map .stream)).run StackScript.respond
        { receives := mixedQueue }).value.1.flatMap (·.delivered) ++
      queued ((Handle.performEach 10 ⟨some 3, .ipv4, .new, {}⟩
          (.receive 1 :: mixedReads.map .stream)).run StackScript.respond
        { receives := mixedQueue }).state.receives = [72, 105, 10, 33, 1, 2, 3]) := by
  have hconforming : Conforming mixedQueue := by
    intro count hmem
    simpa [mixedQueue] using hmem
  have hreads : ∀ method ∈ mixedReads, method.Reads ∧ method.Fits := by
    simp [mixedReads, Stream.Method.Reads, Stream.Method.Fits]
  constructor
  · have hstream := (reading_conserves_bytes.1 _ _ _ _ StreamScript.feeds 10
      ⟨mixedQueue, [], []⟩ trivial hconforming).1 mixedReads hreads
    exact hstream (by decide +kernel)
  · have hsocket := (reading_conserves_bytes.2 _ _ 3 _ (StackScript.feedsSocket 3) 10
      ⟨some 3, .ipv4, .new, {}⟩ { receives := mixedQueue } rfl hconforming).1
      (.receive 1 :: mixedReads.map .stream) (by
        intro method hmem
        rcases List.mem_cons.mp hmem with rfl | hmem
        · trivial
        · obtain ⟨read, hread, rfl⟩ := List.mem_map.mp hmem
          exact hreads read hread)
    exact hsocket (by decide +kernel)

end

end ScriptSocket
