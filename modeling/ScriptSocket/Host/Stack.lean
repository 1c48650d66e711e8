import ScriptSocket.Network

/-!
# The host's network stack

The stack over the sockets of the host keeps a table of the descriptors it has handed out.  Calls
that name another descriptor, requests for TLS sockets and the options of a modem are refused before
the operating system is asked for anything.
-/

namespace ScriptSocket.Host

structure Stack where
  descriptors : List Int32
  deriving DecidableEq

namespace Stack

def empty : Stack := ⟨[]⟩

def openCount (stack : Stack) : Nat := stack.descriptors.length

/-- The error number with which a call is refused; the operating system gets every other call. -/
def refusal? (stack : Stack) : Network.Request → Option Errno
  | .socket _ _ .tls12 => some .protocolUnsupported
  | .socket _ _ _ => none
  | .setOption descriptor _ =>
    some (if descriptor ∈ stack.descriptors then .noSuchOption else .badDescriptor)
  | .bind d _ | .connect d _ | .listen d _ | .accept d | .send d _ | .receive d _ | .close d
  | .flags d | .setFlags d _ | .localEndpoint d =>
    if d ∈ stack.descriptors then none else some .badDescriptor

end Stack

end ScriptSocket.Host
