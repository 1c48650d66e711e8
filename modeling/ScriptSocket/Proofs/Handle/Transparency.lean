import Mathlib.Data.List.Forall2
import ScriptSocket.Proofs.Always
import ScriptSocket.Proofs.Stream.Patience

/-!
# An open handle is a stream and nothing else

As long as nothing but reads and writes is asked of it, an open handle adds nothing to the stack
below it: each read is one receive call and each write one send call on its descriptor, with the
same reply.  So transfers over a socket come to what they come to over a bare stream that is
answered alike, and the handle is left as it was.
-/

namespace ScriptSocket

open Dialogue Scripted

namespace Stream

/-! ## What transfers ask for -/

def Request.Moves : Request → Prop
  | .read _ | .write _ => True
  | .control _ _ => False

/-- The methods that read or write. -/
def Method.Moves : Method → Prop
  | .read _ | .readInto _ | .readLine _ | .write _ | .bareRead _ | .bareWrite _ => True
  | .close | .bareControl _ _ => False

theorem asks_fill (buffer : List UInt8) : (fill buffer).Asks Request.Moves := by
  induction buffer using fill.induct with
  | case1 =>
      rw [fill]
      trivial
  | case2 buffer hne ih =>
      rw [fill, dif_neg hne]
      refine ⟨trivial, fun reply => ?_⟩
      cases houtcome : reply.outcome with
      | error e => simp only [houtcome, Asks]
      | ok moved =>
          cases moved with
          | zero => simp only [houtcome, Asks]
          | succ moved =>
              simp only [houtcome]
              exact (ih reply moved).map _

theorem asks_readPieces (patience : Nat) (piece taken : List UInt8) :
    (readPieces piece taken patience).Asks Request.Moves := by
  induction patience generalizing piece taken with
  | zero => trivial
  | succ patience ih =>
      refine ⟨trivial, fun reply => ?_⟩
      simp only
      split
      · trivial
      · split
        · exact ih _ _
        · trivial
      · split <;> trivial

theorem asks_readBytes
    (atLimit : List UInt8 → Option (Except Fault Value)) (limit : Nat) (cell line : List UInt8) :
    (readBytes atLimit cell line limit).Asks Request.Moves := by
  induction limit generalizing cell line with
  | zero => trivial
  | succ limit ih =>
      refine ⟨trivial, fun reply => ?_⟩
      simp only
      split
      · trivial
      · split
        · trivial
        · exact ih _ _
      · split <;> trivial

theorem asks_push (data : List UInt8) : (push data).Asks Request.Moves := by
  induction data using push.induct with
  | case1 =>
      rw [push]
      trivial
  | case2 data hne ih =>
      rw [push, dif_neg hne]
      refine ⟨trivial, fun reply => ?_⟩
      cases reply with
      | error e => trivial
      | ok taken =>
          cases taken with
          | zero => trivial
          | succ taken => exact (ih taken).map _

theorem Method.asks_moves {method : Method} (hmoves : method.Moves) (patience : Nat) :
    (method.perform patience).Asks Request.Moves := by
  cases method with
  | read size =>
      cases size with
      | none => exact (asks_readPieces patience _ _).map _
      | some size => exact ((asks_fill _).map _).map _
  | readInto buffer => exact ((asks_fill _).map _).map _
  | readLine most =>
      cases most with
      | none => exact (asks_readBytes _ patience _ _).map _
      | some most => exact (asks_readBytes _ most _ _).map _
  | write data => exact ((asks_push _).map _).map _
  | bareRead buffer => exact ⟨trivial, fun _ => trivial⟩
  | bareWrite data => exact ⟨trivial, fun _ => trivial⟩
  | close => exact hmoves.elim
  | bareControl request argument => exact hmoves.elim

theorem asks_performEach
    {methods : List Method} (hmoves : ∀ method ∈ methods, method.Moves) (patience : Nat) :
    (performEach patience methods).Asks Request.Moves := by
  induction methods with
  | nil => trivial
  | cons method methods ih =>
      have hrest := ih fun other hother => hmoves other (List.mem_cons_of_mem _ hother)
      exact (Method.asks_moves (hmoves method List.mem_cons_self) patience).bind fun _ =>
        hrest.map _

end Stream

namespace Handle

/-! ## Transfers over an open handle -/

/-- The call to the stack for a request of the stream, with the same reply. -/
inductive Carries (d : Int32) : Exchange ByteStream → Exchange NetworkStack → Prop where
  | read (size : Nat) (reply : Stream.ReadReply) :
      Carries d ⟨.read size, reply⟩ ⟨.receive d size, reply⟩
  | write (data : List UInt8) (reply : Except Errno Nat) :
      Carries d ⟨.write data, reply⟩ ⟨.send d data, reply⟩

/-- A stream and a stack that answer alike, what is received and sent on a descriptor like what is
read and written, as long as their states match; and then they match again. -/
structure Mirrors {σ τ : Type} (respond : Responder ByteStream σ)
    (below : Responder NetworkStack τ) (d : Int32) (Matches : σ → τ → Prop) : Prop where
  read : ∀ size state under, Matches state under →
    (respond (.read size) state).1 = (below (.receive d size) under).1 ∧
      Matches (respond (.read size) state).2 (below (.receive d size) under).2
  write : ∀ data state under, Matches state under →
    (respond (.write data) state).1 = (below (.send d data) under).1 ∧
      Matches (respond (.write data) state).2 (below (.send d data) under).2

/-- A run over the handle that shows nothing but the run over the stream. -/
structure Reflects {σ τ α : Type} (d : Int32) (h : Handle) (Matches : σ → τ → Prop)
    (stream : Run ByteStream σ α) (socket : Run NetworkStack τ (α × Handle)) : Prop where
  value_eq : socket.value = (stream.value, h)
  state : Matches stream.state socket.state
  calls : List.Forall₂ (Carries d) stream.exchanges socket.exchanges
  notices_eq : socket.notices = stream.notices

section

variable {σ τ α : Type} {respond : Responder ByteStream σ} {below : Responder NetworkStack τ}
  {d : Int32} {Matches : σ → τ → Prop} {h : Handle}

theorem Mirrors.run_transfer
    (hmirrors : Mirrors respond below d Matches) (hopen : h.descriptor = some d)
    {transfer : Dialogue ByteStream α} (hmoves : transfer.Asks Stream.Request.Moves)
    {state : σ} {under : τ} (hmatches : Matches state under) :
    Reflects d h Matches (transfer.run respond state)
      ((h.transfer transfer).run below under) := by
  unfold Handle.transfer
  induction transfer generalizing state under with
  | done value => exact ⟨rfl, hmatches, .nil, rfl⟩
  | note notice next ih =>
      have hnext := ih hmoves hmatches
      exact ⟨hnext.value_eq, hnext.state, hnext.calls, congrArg _ hnext.notices_eq⟩
  | ask request next ih =>
      cases request with
      | read size =>
          obtain ⟨hreply, hafter⟩ := hmirrors.read size state under hmatches
          have hnext := ih (respond (.read size) state).1 (hmoves.2 _) hafter
          simp only [relay, serve, hopen, bind_ask, bind_done, Dialogue.run, ← hreply]
          exact ⟨hnext.value_eq, hnext.state, .cons (.read size _) hnext.calls,
            hnext.notices_eq⟩
      | write data =>
          obtain ⟨hreply, hafter⟩ := hmirrors.write data state under hmatches
          have hnext := ih (respond (.write data) state).1 (hmoves.2 _) hafter
          simp only [relay, serve, hopen, bind_ask, bind_done, Dialogue.run, ← hreply]
          exact ⟨hnext.value_eq, hnext.state, .cons (.write data _) hnext.calls,
            hnext.notices_eq⟩
      | control request argument => exact hmoves.1.elim

/-- Stream methods of a handle one after the other are one transfer over it. -/
theorem performEach_stream (patience : Nat) (h : Handle) (methods : List Stream.Method) :
    performEach patience h (methods.map .stream) =
      (h.transfer (Stream.performEach patience methods)).map
        (Prod.map (List.map .stream) id) := by
  induction methods generalizing h with
  | nil => rfl
  | cons method methods ih =>
      simp only [List.map_cons, performEach, Method.perform, Stream.performEach, transfer,
        relay_bind, map_eq_bind, bind_assoc, bind_done, ih]
      rfl

end

end Handle

/-! ## Prepared answers -/

namespace Scripted

/-- The stack whose queues for receiving and sending are those of a stream, and which is otherwise
as it was prepared. -/
def StackScript.following (script : StackScript) (stream : StreamScript) : StackScript :=
  { script with receives := stream.reads, sends := stream.writes }

theorem StackScript.mirrors (script : StackScript) (d : Int32) :
    Handle.Mirrors StreamScript.respond StackScript.respond d
      fun stream below => below = script.following stream := by
  constructor
  · rintro size stream _ rfl
    exact ⟨rfl, rfl⟩
  · rintro data stream _ rfl
    exact ⟨rfl, rfl⟩

end Scripted

namespace Handle

/-- Whatever is read and written through an open handle, in whatever mixture of methods, comes to
what it comes to on a bare stream with the same queues.  The answers are the same, one by one.  Each
read of the stream is one receive of the same length and each write one send of the same bytes, in
the same order and with the same reply, and nothing else is called or logged.  The handle is left as
it was, and of the stack only the two queues have changed, to what the stream has left of them.  No
method goes unanswered for lack of patience, if there is as much of it as the queue may need, and no
entry of the queue claims more than a piece holds. -/
theorem transfers_transparent
    {h : Handle} {d : Int32} (hopen : h.descriptor = some d) {methods : List Stream.Method}
    (hmoves : ∀ method ∈ methods, method.Moves) (patience : Nat) (script : StackScript)
    (controls : List ControlEntry) :
    let stream := (Stream.performEach patience methods).run StreamScript.respond
      ⟨script.receives, script.sends, controls⟩
    let socket := (performEach patience h (methods.map .stream)).run StackScript.respond script
    socket.value.1 = stream.value.map .stream ∧ socket.value.2 = h ∧
    List.Forall₂ (Carries d) stream.exchanges socket.exchanges ∧
    socket.notices = stream.notices ∧
    socket.state = { script with receives := stream.state.reads, sends := stream.state.writes } ∧
    (readsLeft script.receives ≤ patience → Modest script.receives →
      .unanswered ∉ stream.value) := by
  intro stream socket
  have hstart : script = script.following ⟨script.receives, script.sends, controls⟩ := rfl
  have hreflects := (script.mirrors d).run_transfer hopen
    (Stream.asks_performEach hmoves patience) hstart
  have hsocket : socket =
      { (h.transfer (Stream.performEach patience methods)).run StackScript.respond script with
        value := (stream.value.map .stream, h) } := by
    simp only [socket, performEach_stream, run_map, hreflects.value_eq]
    rfl
  rw [hsocket]
  refine ⟨rfl, rfl, hreflects.calls, hreflects.notices_eq, hreflects.state, ?_⟩
  intro hpatience hmodest
  have hremains : Remains patience script.receives := ⟨hmodest, hpatience⟩
  exact hremains.performEach_answered methods

/-- A stack that takes two bytes before it would block, and receives from `mixedQueue`. -/
def mixedScript : StackScript :=
  { receives := mixedQueue, sends := [.takes 2, .fails .again] }

theorem transfers_transparent_mixed :
    let h : Handle := ⟨some 3, .ipv4, .connected, {}⟩
    let methods := .write [1, 2, 3] :: mixedReads
    let stream := (Stream.performEach 14 methods).run StreamScript.respond
      ⟨mixedScript.receives, mixedScript.sends, []⟩
    let socket := (performEach 14 h (methods.map .stream)).run StackScript.respond mixedScript
    socket.value = (stream.value.map .stream, h) ∧
    List.Forall₂ (Carries 3) stream.exchanges socket.exchanges ∧
    stream.exchanges.length = 10 ∧ .unanswered ∉ stream.value := by
  intro h methods stream socket
  have hopen : h.descriptor = some 3 := rfl
  have hmoves : ∀ method ∈ methods, method.Moves := by
    simp [methods, mixedReads, Stream.Method.Moves]
  have hmodest : Modest mixedScript.receives := by
    intro count hmem
    simp [mixedScript, mixedQueue] at hmem
    omega
  obtain ⟨hanswers, hkept, hcalls, -, -, hanswered⟩ :=
    transfers_transparent hopen hmoves 14 mixedScript []
  exact ⟨Prod.ext hanswers hkept, hcalls, by decide +kernel, hanswered (by decide) hmodest⟩

end Handle

end ScriptSocket
