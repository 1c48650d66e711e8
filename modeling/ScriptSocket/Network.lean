import ScriptSocket.Stream.Basic

/-!
# The network stack

The calls that sockets make to the network stack below them.  Every call but the one that makes a
socket names the descriptor it is about, and every call may fail with an error number.
-/

namespace ScriptSocket

inductive SocketOption where
  | securityTag (tag : UInt32)
  | peerVerification (mode : Verification)
  | hostName (name : String)
  | dataNetwork (id : Int32)
  deriving DecidableEq

namespace Network

inductive Request where
  | socket (family : Family) (kind : SocketKind) (protocol : Protocol)
  | bind (descriptor : Int32) (endpoint : Endpoint)
  | connect (descriptor : Int32) (endpoint : Endpoint)
  | listen (descriptor : Int32) (backlog : Int32)
  | accept (descriptor : Int32)
  | send (descriptor : Int32) (data : List UInt8)
  | receive (descriptor : Int32) (size : Nat)
  | close (descriptor : Int32)
  | flags (descriptor : Int32)
  | setFlags (descriptor : Int32) (flags : Int32)
  | setOption (descriptor : Int32) (option : SocketOption)
  | localEndpoint (descriptor : Int32)
  deriving DecidableEq

/-- The reply to each call: a new descriptor, with the peer's address for an accepted connection;
counts and bytes as for a stream; a word of flags; an address; or nothing but success. -/
@[reducible] def Reply : Request → Type
  | .socket _ _ _ => Except Errno Int32
  | .accept _ => Except Errno (Int32 × Option Endpoint)
  | .send _ _ => Except Errno Nat
  | .receive _ _ => Stream.ReadReply
  | .flags _ => Except Errno Int32
  | .localEndpoint _ => Except Errno Endpoint
  | .bind _ _ | .connect _ _ | .listen _ _ | .close _ | .setFlags _ _ | .setOption _ _ =>
    Except Errno Unit

def Request.descriptor? : Request → Option Int32
  | .socket _ _ _ => none
  | .bind d _ | .connect d _ | .listen d _ | .accept d | .send d _ | .receive d _ | .close d
  | .flags d | .setFlags d _ | .setOption d _ | .localEndpoint d => some d

end Network

abbrev NetworkStack : Interface := ⟨Network.Request, Network.Reply⟩

end ScriptSocket
