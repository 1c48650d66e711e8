import ScriptSocket.Stream.Transfer

/-!
# Stream methods

The methods that a script object has because it is a stream, as data, with what each answers: the
transfers, and the bare requests of the stream itself.
-/

namespace ScriptSocket.Stream

inductive Method where
  /-- Reads the given size, or to the end of the stream. -/
  | read (size : Option Nat)
  | readInto (buffer : List UInt8)
  /-- Reads a line of at most the given length, or of any. -/
  | readLine (most : Option Nat)
  | write (data : List UInt8)
  | close
  | bareControl (request : Control) (argument : Nat)
  | bareRead (buffer : List UInt8)
  | bareWrite (data : List UInt8)
  deriving DecidableEq

inductive Answer where
  | value (result : Except Fault Value)
  | filled (result : Except Fault Value) (buffer : List UInt8)
  | closed (result : Except Fault Unit)
  | count (result : Except Errno Nat)
  | bareFilled (result : Except Errno Nat) (buffer : List UInt8)
  /-- The method would go on beyond the patience it was given. -/
  | unanswered

/-- The answer of a transfer that may not end. -/
def Answer.ofPatient : Option (Except Fault Value) → Answer
  | some result => .value result
  | none => .unanswered

/-- What a method does.  The two transfers without a bound go on for at most `patience` rounds. -/
def Method.perform (patience : Nat) : Method → Dialogue ByteStream Answer
  | .read (some size) => (Stream.read size).map .value
  | .read none => (readToEnd patience).map .ofPatient
  | .readInto buffer => (Stream.readInto buffer).map fun (result, buffer) => .filled result buffer
  | .readLine (some most) => (Stream.readLine most).map .ofPatient
  | .readLine none => (readWholeLine patience).map .ofPatient
  | .write data => (Stream.write data).map .value
  | .close => Stream.close.map .closed
  | .bareControl request argument =>
    .ask (.control request argument) fun reply => .done (.count reply)
  | .bareRead buffer => .ask (.read buffer.length) fun reply =>
    .done (.bareFilled reply.outcome (overlay buffer reply.stored))
  | .bareWrite data => .ask (.write data) fun reply => .done (.count reply)

end ScriptSocket.Stream
