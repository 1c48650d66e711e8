import ScriptSocket.Stream.Basic

/-!
# Transfers over a stream

The stream methods of a script object: `read`, `readInto`, `readLine`, `write` and `close`.  A
transfer goes on until the amount asked for has moved, the stream ends, or it fails.  A stream that
would block before anything moved gives the value `none`; after part of a transfer it gives that
part.

Each transfer of a bounded amount ends by itself, because every round takes at least one byte off
what is left.  Reading to the end of the stream or to the end of a line of any length may go on for
ever, so these two take the number of rounds they wait (`patience`) and answer nothing when it is
spent.
-/

namespace ScriptSocket.Stream

/-- Why a transfer stopped before an error: it was complete or the stream ended, or the stream would
have blocked. -/
inductive Ending where
  | complete
  | wouldBlock
  deriving DecidableEq

/-- A buffer as a filling left it, with the count of bytes reported. -/
structure Filling where
  buffer : List UInt8
  count : Nat
  ending : Except Errno Ending

/-- How a failed read or write ends a transfer. -/
def endingOf (e : Errno) : Except Errno Ending :=
  if e.wouldBlock then .ok .wouldBlock else .error e

def fill (buffer : List UInt8) : Dialogue ByteStream Filling :=
  if _h : buffer = [] then .done ⟨[], 0, .ok .complete⟩
  else .ask (.read buffer.length) fun reply =>
    let buffer' := overlay buffer reply.stored
    match reply.outcome with
    | .error e => .done ⟨buffer', 0, endingOf e⟩
    | .ok 0 => .done ⟨buffer', 0, .ok .complete⟩
    | .ok (moved + 1) =>
      (fill (buffer'.drop (moved + 1))).map fun rest =>
        ⟨buffer'.take (moved + 1) ++ rest.buffer, moved + 1 + rest.count, rest.ending⟩
termination_by buffer.length
decreasing_by
  have : 0 < buffer.length := List.length_pos_iff.2 _h
  simp only [List.length_drop, length_overlay]
  omega

def read (size : Nat) : Dialogue ByteStream (Except Fault Value) :=
  (fill (zeros size)).map fun filling =>
    match filling.ending with
    | .error e => .error (.system e)
    | .ok .wouldBlock =>
      if filling.count = 0 then .ok .none else .ok (.bytes (filling.buffer.take filling.count))
    | .ok .complete => .ok (.bytes (filling.buffer.take filling.count))

/-- Reads into a buffer, which comes back whole whatever the result. -/
def readInto (buffer : List UInt8) :
    Dialogue ByteStream (Except Fault Value × List UInt8) :=
  (fill buffer).map fun filling =>
    (match filling.ending with
      | .error e => .error (.system e)
      | .ok .wouldBlock =>
        if filling.count = 0 then .ok .none else .ok (countValue filling.count)
      | .ok .complete => .ok (countValue filling.count),
      filling.buffer)

/-- The size of the pieces in which a stream is read to its end. -/
def pieceSize : Nat := 256

/-- Reads pieces until the stream ends.  The buffer of a piece is used again for the next.  There is
no answer when patience is spent, nor when the stream reports more bytes than a piece holds. -/
def readPieces (piece taken : List UInt8) :
    Nat → Dialogue ByteStream (Option (Except Fault Value))
  | 0 => .done none
  | patience + 1 => .ask (.read piece.length) fun reply =>
    let piece := overlay piece reply.stored
    match reply.outcome with
    | .ok 0 => .done (some (.ok (.bytes taken)))
    | .ok (moved + 1) =>
      if moved < piece.length then
        readPieces piece (taken ++ piece.take (moved + 1)) patience
      else .done none
    | .error e =>
      if e.wouldBlock then
        .done (some (.ok (if taken = [] then .none else .bytes taken)))
      else .done (some (.error (.system e)))

def readToEnd (patience : Nat) : Dialogue ByteStream (Option (Except Fault Value)) :=
  readPieces (zeros pieceSize) [] patience

def newline : UInt8 := 10

/-- Reads one byte at a time until a line ends or `limit` bytes were read, and then answers by
`atLimit`.  `cell` is the one-byte buffer, used again for every byte. -/
def readBytes (atLimit : List UInt8 → Option (Except Fault Value)) (cell line : List UInt8) :
    Nat → Dialogue ByteStream (Option (Except Fault Value))
  | 0 => .done (atLimit line)
  | limit + 1 => .ask (.read cell.length) fun reply =>
    let cell := overlay cell reply.stored
    match reply.outcome with
    | .ok 0 => .done (some (.ok (.bytes line)))
    | .ok (_ + 1) =>
      if cell = [newline] then .done (some (.ok (.bytes (line ++ cell))))
      else readBytes atLimit cell (line ++ cell) limit
    | .error e =>
      if e.wouldBlock then
        .done (some (.ok (if line = [] then .none else .bytes line)))
      else .done (some (.error (.system e)))

def readLine (most : Nat) : Dialogue ByteStream (Option (Except Fault Value)) :=
  readBytes (fun line => some (.ok (.bytes line))) (zeros 1) [] most

def readWholeLine (patience : Nat) : Dialogue ByteStream (Option (Except Fault Value)) :=
  readBytes (fun _ => none) (zeros 1) [] patience

/-- Writes until all data is taken; the count of bytes reported as taken. -/
def push (data : List UInt8) : Dialogue ByteStream (Nat × Except Errno Ending) :=
  if _h : data = [] then .done (0, .ok .complete)
  else .ask (.write data) fun reply =>
    match reply with
    | .error e => .done (0, endingOf e)
    | .ok 0 => .done (0, .ok .complete)
    | .ok (taken + 1) =>
      (push (data.drop (taken + 1))).map fun (rest, ending) => (taken + 1 + rest, ending)
termination_by data.length
decreasing_by
  have : 0 < data.length := List.length_pos_iff.2 _h
  simp only [List.length_drop]
  omega

def write (data : List UInt8) : Dialogue ByteStream (Except Fault Value) :=
  (push data).map fun (count, ending) =>
    match ending with
    | .error e => .error (.system e)
    | .ok .wouldBlock => if count = 0 then .ok .none else .ok (countValue count)
    | .ok .complete => .ok (countValue count)

def close : Dialogue ByteStream (Except Fault Unit) :=
  .ask (.control .close 0) fun reply =>
    .done (match reply with
      | .ok _ => .ok ()
      | .error e => .error (.system e))

end ScriptSocket.Stream
