import ScriptSocket.Handle.Basic
import ScriptSocket.Stream.Transfer

/-!
# Handles as streams

A handle answers the requests of a byte stream: reads and writes go to the stack as receive and
send calls on its descriptor, and the close request gives the descriptor back.  So every transfer
over a stream is also one over a socket.
-/

namespace ScriptSocket.Handle

/-- Gives the descriptor back to the stack.  A closed handle stays as it is; a handle whose close
fails stays open. -/
def giveBack (h : Handle) : Dialogue NetworkStack (Except Errno Nat × Handle) :=
  match h.descriptor with
  | none => .done (.ok 0, h)
  | some descriptor => .ask (.close descriptor) fun reply =>
    match reply with
    | .ok () => .note (.socketClosed descriptor) (.done (.ok 0, { h with descriptor := none }))
    | .error errno => .done (.error errno, h)

def serve :
    (request : Stream.Request) → Handle → Dialogue NetworkStack (Stream.Reply request × Handle)
  | .read size, h =>
    match h.descriptor with
    | none => .done (⟨[], .error .badDescriptor⟩, h)
    | some descriptor => .ask (.receive descriptor size) fun reply => .done (reply, h)
  | .write data, h =>
    match h.descriptor with
    | none => .done (.error .badDescriptor, h)
    | some descriptor => .ask (.send descriptor data) fun reply => .done (reply, h)
  | .control .close _, h => h.giveBack
  | .control .flush _, h => .done (.error .invalidArgument, h)
  | .control (.other _) _, h => .done (.error .invalidArgument, h)

def transfer {α : Type} (h : Handle) (transfer : Dialogue ByteStream α) :
    Dialogue NetworkStack (α × Handle) :=
  transfer.relay serve h

/-- Closes the handle.  Closing a closed handle does nothing. -/
def close (h : Handle) : Operation Unit := h.transfer Stream.close

/-- Gives the descriptor back when the handle is dropped, whatever the stack answers; a failure is
only reported to the log. -/
def abandon (h : Handle) : Dialogue NetworkStack Handle :=
  match h.descriptor with
  | none => .done h
  | some descriptor => .ask (.close descriptor) fun reply =>
    match reply with
    | .ok () => .done { h with descriptor := none }
    | .error errno =>
      .note (.abandonedCloseFailed descriptor errno) (.done { h with descriptor := none })

end ScriptSocket.Handle
