import ScriptSocket.Endpoint

/-!
# Queries and their entries

Which queries a request for a family makes, and the entry made of each address found.
-/

namespace ScriptSocket.Resolution

inductive QueryKind where
  | a
  | aaaa
  deriving DecidableEq

namespace QueryKind

def family : QueryKind → Family
  | .a => .ipv4
  | .aaaa => .ipv6

def name : QueryKind → String
  | .a => "A"
  | .aaaa => "Aaaa"

/-- The queries made for a requested family, in order.  Without a request IPv6 is asked for first;
any request but IPv6 asks for IPv4 records. -/
def passes : Option Family → List QueryKind
  | none => [.aaaa, .a]
  | some .ipv6 => [.aaaa]
  | some .ipv4 | some .packet => [.a]

end QueryKind

structure Entry where
  family : Family
  kind : SocketKind
  protocol : Protocol
  canonicalName : String
  address : Value
  deriving DecidableEq

namespace Entry

/-- The entry of an address that came without socket type and protocol: a TCP stream. -/
def ofEndpoint (endpoint : Endpoint) (port : Value) : Entry where
  family := endpoint.family
  kind := .stream
  protocol := .tcp
  canonicalName := ""
  address := endpoint.toValue port

def toValue (e : Entry) : Value :=
  .tuple [Value.ofCode e.family.code, Value.ofCode e.kind.code, Value.ofCode e.protocol.code,
    .str e.canonicalName, e.address]

end Entry

end ScriptSocket.Resolution
