import ScriptSocket.Handle.Transport

/-!
# Socket operations

The methods of a socket object.  Each of them first looks whether the handle is open, then at its
arguments, and only then calls the stack; a refusal by the stack is passed on as it is.  Sending
looks at its argument first.
-/

namespace ScriptSocket.Handle

/-- A new socket; the protocol defaults to the usual one of its type. -/
def create (family : Family) (kind : SocketKind) (protocol : Option Protocol)
    (config : SocketConfig) : Dialogue NetworkStack (Except Fault Handle) :=
  let protocol := protocol.getD (Protocol.auto kind)
  .ask (.socket family kind protocol) fun reply =>
    match reply with
    | .error errno => .done (.error (.system errno))
    | .ok descriptor =>
      .note (.socketMade descriptor family kind protocol)
        (.done (.ok ⟨owned descriptor, family, .new, config⟩))

def bind (h : Handle) (address : Value) : Operation Unit :=
  h.whenOpen fun descriptor =>
    match Endpoint.ofValue h.family address with
    | .error fault => h.refuse fault
    | .ok endpoint => .ask (.bind descriptor endpoint) h.answer

/-- Connects to a peer.  While the stack works on it the handle is connecting; a failed attempt
leaves it open and new. -/
def connect (h : Handle) (address : Value) : Operation Unit :=
  h.whenOpen fun descriptor =>
    match Endpoint.ofValue h.family address with
    | .error fault => h.refuse fault
    | .ok endpoint =>
      let trying := { h with phase := .connecting }
      .ask (.connect descriptor endpoint) fun reply =>
        match reply with
        | .ok () => .done (.ok (), { trying with phase := .connected })
        | .error errno => .done (.error (.system errno), { trying with phase := .new })

def clampBacklog (backlog : Int64) : Int32 :=
  if backlog < 0 then 0 else if 0x7fffffff < backlog then 0x7fffffff else backlog.toInt32

/-- Waits for connections; without a backlog the configured one is used. -/
def listen (h : Handle) (backlog : Option Int64) : Operation Unit :=
  h.whenOpen fun descriptor =>
    .ask (.listen descriptor ((backlog.map clampBacklog).getD h.config.backlog)) h.answer

/-- Accepts a connection: a connected handle of the same family and configuration.  The peer's
address is not passed on; in its place stands `none`. -/
def accept (h : Handle) : Operation (Handle × Value) :=
  h.whenOpen fun descriptor =>
    .ask (.accept descriptor) fun reply =>
      match reply with
      | .error errno => .done (.error (.system errno), h)
      | .ok (client, _) =>
        .note (.socketAccepted descriptor client)
          (.done (.ok ({ h with descriptor := owned client, phase := .connected }, .none), h))

def send (h : Handle) (data : Value) : Operation Nat :=
  match data.buffer with
  | .error fault => h.refuse fault
  | .ok bytes => h.whenOpen fun descriptor => .ask (.send descriptor bytes) h.answer

/-- A buffer of this size or more cannot be had. -/
def unallocatable : Nat := 0x4000000000000000

/-- Receives at most `size` bytes.  No bytes for a positive size mean that the peer closed the
connection. -/
def receive (h : Handle) (size : Int64) : Operation (List UInt8) :=
  h.whenOpen fun descriptor =>
    if size < 0 then h.refuse (.value .negativeSize)
    else
      let size := size.toNatClampNeg
      if unallocatable ≤ size then h.refuse (.system .noMemory)
      else .ask (.receive descriptor size) fun reply =>
        match reply.outcome with
        | .error errno => .done (.error (.system errno), h)
        | .ok 0 => .done (.ok [], if 0 < size then { h with phase := .peerClosed } else h)
        | .ok (count + 1) =>
          .done (.ok ((Stream.overlay (Stream.zeros size) reply.stored).take (count + 1)), h)

def nonBlocking : Int32 := 0x800

def withBlocking (blocking : Bool) (flags : Int32) : Int32 :=
  if blocking then flags &&& ~~~nonBlocking else flags ||| nonBlocking

def setBlocking (h : Handle) (flag : Value) : Operation Unit :=
  h.whenOpen fun descriptor =>
    .ask (.flags descriptor) fun reply =>
      match reply with
      | .error errno => .done (.error (.system errno), h)
      | .ok flags => .ask (.setFlags descriptor (withBlocking flag.isTrue flags)) h.answer

/-- Generic options are accepted, reported to the log and not applied. -/
def setOption (h : Handle) (level option : Value) : Operation Unit :=
  .note (.optionIgnored level option) (.done (.ok (), h))

/-- The file object of a socket is the socket. -/
def makeFile (h : Handle) : Handle := h

def localAddress (h : Handle) : Operation Value :=
  h.whenOpen fun descriptor =>
    .ask (.localEndpoint descriptor) fun reply =>
      match reply with
      | .error errno => .done (.error (.system errno), h)
      | .ok endpoint => .done (.ok (endpoint.toValue (Value.ofWord16 endpoint.port)), h)

end ScriptSocket.Handle
