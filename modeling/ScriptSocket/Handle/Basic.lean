import ScriptSocket.Network

/-!
# Socket handles

A socket handle owns at most one descriptor of the network stack; a handle that owns none is closed.
Its phase tells how far its connection has come.  The phase is for information only: no operation
looks at it.
-/

namespace ScriptSocket

inductive Phase where
  | new
  | connecting
  | connected
  | peerClosed
  deriving DecidableEq

def Phase.name : Phase → String
  | .new => "New"
  | .connecting => "Connecting"
  | .connected => "Connected"
  | .peerClosed => "PeerClosed"

structure SocketConfig where
  /-- The backlog of `listen` when the script names none. -/
  backlog : Int32 := 2
  deriving DecidableEq

structure Handle where
  descriptor : Option Int32
  family : Family
  phase : Phase
  config : SocketConfig
  deriving DecidableEq

/-- The operations of a handle: what they do to the stack, what they answer and the handle they
leave. -/
abbrev Handle.Operation (α : Type) := Dialogue NetworkStack (Except Fault α × Handle)

namespace Handle

def noDescriptor : Int32 := -1

/-- What the stack handed out, unless it is the number that stands for no descriptor. -/
def owned (descriptor : Int32) : Option Int32 :=
  if descriptor = noDescriptor then none else some descriptor

def isClosed (h : Handle) : Bool := h.descriptor.isNone

def descriptorNumber (h : Handle) : Int32 := h.descriptor.getD noDescriptor

def text (h : Handle) : String :=
  match h.descriptor with
  | none => "<socket NULL>"
  | some descriptor => s!"<socket {descriptor.toInt} family={h.family.code.toInt}>"

def inspect (h : Handle) : String :=
  "SocketHandle \x7b descriptor: " ++ toString h.descriptorNumber.toInt ++ ", family: " ++
    h.family.name ++ ", state: " ++ h.phase.name ++ " \x7d"

def refuse {α : Type} (h : Handle) (fault : Fault) : Operation α := .done (.error fault, h)

/-- An operation of an open handle; a closed one refuses it before anything else is looked at. -/
def whenOpen {α : Type} (h : Handle) (operation : Int32 → Operation α) : Operation α :=
  match h.descriptor with
  | none => h.refuse .closed
  | some descriptor => operation descriptor

theorem whenOpen_closed {α : Type} {h : Handle} (hc : h.descriptor = none)
    (operation : Int32 → Operation α) : h.whenOpen operation = .done (.error .closed, h) := by
  simp [whenOpen, hc, refuse]

theorem whenOpen_open {α : Type} {h : Handle} {d : Int32} (ho : h.descriptor = some d)
    (operation : Int32 → Operation α) : h.whenOpen operation = operation d := by
  simp [whenOpen, ho]

def answer {α : Type} (h : Handle) : Except Errno α → Operation α
  | .ok value => .done (.ok value, h)
  | .error errno => .done (.error (.system errno), h)

end Handle

end ScriptSocket
