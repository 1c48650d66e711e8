import ScriptSocket.Resolution.Query
import ScriptSocket.Resolution.Status
import ScriptSocket.Value.Inspect

/-!
# Notices

The lines that operations write to the log.  A notice is a fact about what happened; `level` says
how serious it is and `text` words it.
-/

namespace ScriptSocket

inductive Level where
  | warning
  | debug
  deriving DecidableEq

inductive Notice where
  | socketMade (descriptor : Int32) (family : Family) (kind : SocketKind) (protocol : Protocol)
  | socketAccepted (listener client : Int32)
  | socketClosed (descriptor : Int32)
  | abandonedCloseFailed (descriptor : Int32) (errno : Errno)
  | optionIgnored (level option : Value)
  | securityApplied (descriptor : Int32) (tag : UInt32) (verification : Verification)
  | lookupRequested (host : String) (port : Value) (family : Option Family)
  | queryIssued (kind : Resolution.QueryKind) (host : String)
  | addressFound (address : Ip.Address)
  | queryEnded (status : Resolution.Status)
  | callAfterEnd (status : Resolution.Status)
  | callbackAbandoned
  | lookupAnswered (host : String) (count : Nat)
  deriving DecidableEq

namespace Notice

def level : Notice → Level
  | .abandonedCloseFailed .. | .optionIgnored .. | .callAfterEnd .. | .callbackAbandoned => .warning
  | .socketMade .. | .socketAccepted .. | .socketClosed .. | .securityApplied ..
  | .lookupRequested .. | .queryIssued .. | .addressFound .. | .queryEnded ..
  | .lookupAnswered .. => .debug

def text : Notice → String
  | .socketMade descriptor family kind protocol =>
    s!"socket {descriptor.toInt} created: family={family.name} " ++
      s!"type={kind.name} protocol={protocol.name}"
  | .socketAccepted listener client =>
    s!"socket {listener.toInt} accepted connection {client.toInt}"
  | .socketClosed descriptor => s!"socket {descriptor.toInt} closed"
  | .abandonedCloseFailed descriptor errno =>
    s!"socket {descriptor.toInt} close on finalize failed: {errno.text}"
  | .optionIgnored level option =>
    s!"setsockopt() not implemented (level={level.inspect}, option={option.inspect})"
  | .securityApplied descriptor tag verification =>
    s!"socket {descriptor.toInt} wrapped: sec_tag={tag.toNat} verify={verification.name}"
  | .lookupRequested host port family =>
    s!"getaddrinfo({host}, {port.inspect}, {Family.inspectHint family})"
  | .queryIssued kind host => s!"dns query {kind.name} for {host}"
  | .addressFound address => "dns result: " ++ String.ofList address.text
  | .queryEnded status => s!"dns status: {status.text}"
  | .callAfterEnd status => s!"dns callback after completion ignored (status {status.text})"
  | .callbackAbandoned => "dns callback released without completion"
  | .lookupAnswered host count => s!"offloaded getaddrinfo({host}) = {count} entries"

end Notice

end ScriptSocket
