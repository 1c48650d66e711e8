import ScriptSocket.Dialogue

/-!
# Byte streams

The interface of a stream: read into a buffer, write a buffer, and control requests.  A reader
offers a buffer of some size; the stream stores bytes at its front and reports how many it moved.
The report is the stream's word and is not checked here, so it may exceed the buffer.
-/

namespace ScriptSocket

inductive Control where
  | close
  | flush
  | other (code : UInt32)
  deriving DecidableEq

namespace Stream

inductive Request where
  | read (size : Nat)
  | write (data : List UInt8)
  | control (request : Control) (argument : Nat)
  deriving DecidableEq

/-- The reply to a read: the bytes stored at the front of the buffer, and the reported count. -/
structure ReadReply where
  stored : List UInt8
  outcome : Except Errno Nat

@[reducible] def Reply : Request → Type
  | .read _ => ReadReply
  | .write _ => Except Errno Nat
  | .control _ _ => Except Errno Nat

end Stream

abbrev ByteStream : Interface := ⟨Stream.Request, Stream.Reply⟩

namespace Stream

/-- A buffer after `stored` was written to its front; what does not fit is lost. -/
def overlay (buffer stored : List UInt8) : List UInt8 :=
  (stored ++ buffer.drop stored.length).take buffer.length

@[simp] theorem length_overlay (buffer stored : List UInt8) :
    (overlay buffer stored).length = buffer.length := by
  simp only [overlay, List.length_take, List.length_append, List.length_drop]; omega

@[simp] theorem overlay_nil (buffer : List UInt8) : overlay buffer [] = buffer := by
  simp [overlay]

/-- Bytes that fit replace as many bytes of the buffer. -/
theorem overlay_of_length_le {buffer stored : List UInt8} (h : stored.length ≤ buffer.length) :
    overlay buffer stored = stored ++ buffer.drop stored.length := by
  apply List.take_of_length_le
  simp only [List.length_append, List.length_drop]; omega

def zeros (size : Nat) : List UInt8 := List.replicate size 0

@[simp] theorem length_zeros (size : Nat) : (zeros size).length = size := by simp [zeros]

/-- A number of bytes as the script sees it. -/
def countValue (count : Nat) : Value := .int (Int64.ofNat count)

end Stream

end ScriptSocket
