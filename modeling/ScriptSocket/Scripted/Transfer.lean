import ScriptSocket.Stream.Method

/-!
# Prepared answers of a stream

A stream whose reads, writes and control requests are answered from queues prepared beforehand.
Data that does not fit into a reader's buffer stays at the front of its queue, so a queue of data is
a byte source that can be read in pieces of any size.
-/

namespace ScriptSocket.Scripted

inductive ReadEntry where
  | data (bytes : List UInt8)
  | fails (errno : Errno)
  /-- Reports a count and stores nothing. -/
  | claims (count : Nat)
  deriving DecidableEq

inductive WriteEntry where
  /-- Takes up to the given count. -/
  | takes (most : Nat)
  | takesAll
  | fails (errno : Errno)
  /-- Reports a count whatever was offered. -/
  | claims (count : Nat)
  deriving DecidableEq

abbrev ControlEntry := Except Errno Nat

/-- The answer to a read of the given size, and the queue it leaves.  An empty queue is at its
end. -/
def readReply (size : Nat) : List ReadEntry → Stream.ReadReply × List ReadEntry
  | [] => (⟨[], .ok 0⟩, [])
  | .data bytes :: rest =>
    (⟨bytes.take size, .ok (min bytes.length size)⟩,
      if bytes.length ≤ size then rest else .data (bytes.drop size) :: rest)
  | .fails errno :: rest => (⟨[], .error errno⟩, rest)
  | .claims count :: rest => (⟨[], .ok count⟩, rest)

/-- The answer to a write of the given length, and the queue it leaves.  An empty queue takes
everything. -/
def writeReply (length : Nat) : List WriteEntry → Except Errno Nat × List WriteEntry
  | [] => (.ok length, [])
  | .takes most :: rest => (.ok (min most length), rest)
  | .takesAll :: rest => (.ok length, rest)
  | .fails errno :: rest => (.error errno, rest)
  | .claims count :: rest => (.ok count, rest)

def controlReply : List ControlEntry → Except Errno Nat × List ControlEntry
  | [] => (.ok 0, [])
  | entry :: rest => (entry, rest)

/-- How many reads of at least one byte a queue can answer before it is at its end for good. -/
def readsLeft : List ReadEntry → Nat
  | [] => 1
  | .data bytes :: rest => bytes.length + 1 + readsLeft rest
  | .fails _ :: rest => 1 + readsLeft rest
  | .claims _ :: rest => 1 + readsLeft rest

structure StreamScript where
  reads : List ReadEntry
  writes : List WriteEntry
  controls : List ControlEntry

def StreamScript.respond : Responder ByteStream StreamScript
  | .read size, script =>
    let answered := readReply size script.reads
    (answered.1, { script with reads := answered.2 })
  | .write data, script =>
    let answered := writeReply data.length script.writes
    (answered.1, { script with writes := answered.2 })
  | .control _ _, script =>
    let answered := controlReply script.controls
    (answered.1, { script with controls := answered.2 })

/-- A method of a prepared stream, with the patience that its queue needs. -/
def StreamScript.perform (script : StreamScript) (method : Stream.Method) :
    Dialogue.Run ByteStream StreamScript Stream.Answer :=
  (method.perform (readsLeft script.reads)).run StreamScript.respond script

end ScriptSocket.Scripted
