import ScriptSocket.Ip.Literal
import ScriptSocket.Numbering
import ScriptSocket.Value.Access

/-!
# Socket addresses

An endpoint is the native address of a socket.  Scripts write it as a tuple of the address text and
the port, for IPv6 also flow information and scope.  `ofValue` reads such a tuple and `toValue`
writes one.  Numbers are cut to the width of their field; flow information has to be an integer and
is then dropped.
-/

namespace ScriptSocket

inductive Endpoint where
  | v4 (address : Ip.V4) (port : UInt16)
  | v6 (address : Ip.V6) (port : UInt16) (flow scope : UInt32)
  deriving DecidableEq

namespace Endpoint

def family : Endpoint → Family
  | .v4 .. => .ipv4
  | .v6 .. => .ipv6

def address : Endpoint → Ip.Address
  | .v4 address _ => .v4 address
  | .v6 address _ _ _ => .v6 address

def port : Endpoint → UInt16
  | .v4 _ port => port
  | .v6 _ port _ _ => port

/-- The endpoint reached when a script names this address with another port: the port is replaced
and flow information is not carried. -/
def withPort : Endpoint → UInt16 → Endpoint
  | .v4 address _, port => .v4 address port
  | .v6 address _ _ scope, port => .v6 address port 0 scope

/-- The endpoint named by the items of an address object of a family.  The first defect decides the
fault: the text, the port, the literal, and for IPv6 flow and scope. -/
def ofItems : Family → List Value → Except Fault Endpoint
  | .ipv4, [host, port] => do
    let text ← host.text
    let port ← port.integer
    match Ip.V4.parse? text.toList with
    | some address => .ok (.v4 address (Value.low16 port))
    | none => .error (.system .invalidArgument)
  | .ipv6, [host, port, flow, scope] => do
    let text ← host.text
    let port ← port.integer
    match Ip.V6.parse? text.toList with
    | some address => do
      let _ ← flow.integer
      let scope ← scope.integer
      .ok (.v6 address (Value.low16 port) 0 (Value.low32 scope))
    | none => .error (.system .invalidArgument)
  | .packet, [host, port] => do
    let _ ← host.text
    let _ ← port.integer
    .error (.system .invalidArgument)
  | family, items => .error (.value (.wrongLength family.arity items.length))

/-- The endpoint that an address object of a family names: a tuple or list with as many items as
the family has. -/
def ofValue (family : Family) (object : Value) : Except Fault Endpoint :=
  (object.items family.arity).bind (ofItems family)

/-- The address tuple of an endpoint, with the port object the script gave. -/
def toValue (endpoint : Endpoint) (port : Value) : Value :=
  match endpoint with
  | .v4 address _ => .tuple [.str (String.ofList address.text), port]
  | .v6 address _ _ scope =>
    .tuple [.str (String.ofList address.text), port, .int 0, Value.ofWord32 scope]

@[simp] theorem family_withPort (e : Endpoint) (port : UInt16) :
    (e.withPort port).family = e.family := by
  cases e <;> rfl

end Endpoint

end ScriptSocket
