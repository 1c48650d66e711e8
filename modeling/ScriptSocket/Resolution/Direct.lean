import ScriptSocket.Dialogue

/-!
# Resolution in one answer

In a build that leaves name resolution to a modem, the resolver answers the whole request at once:
with records that carry their own socket type and protocol, or with a status.
-/

namespace ScriptSocket.Resolution

structure DirectRecord where
  endpoint : Endpoint
  kind : SocketKind
  protocol : Protocol
  deriving DecidableEq

structure DirectQuery where
  host : String
  family : Option Family
  deriving DecidableEq

abbrev DirectResolver : Interface := ⟨DirectQuery, fun _ => Except Status (List DirectRecord)⟩

def DirectRecord.entry (record : DirectRecord) (port : Value) : Entry where
  family := record.endpoint.family
  kind := record.kind
  protocol := record.protocol
  canonicalName := ""
  address := record.endpoint.toValue port

/-- Resolves a host name.  The port has to be an integer; it is looked at before the resolver is
asked. -/
def resolveDirectly (host : String) (port : Value) (family : Option Family) :
    Dialogue DirectResolver (Except Fault (List Entry)) :=
  match port.integer with
  | .error fault => .done (.error fault)
  | .ok _ => .ask ⟨host, family⟩ fun reply =>
    match reply with
    | .error status => .done (.error status.fault)
    | .ok records =>
      .note (.lookupAnswered host records.length)
        (.done (.ok (records.map (·.entry port))))

end ScriptSocket.Resolution
