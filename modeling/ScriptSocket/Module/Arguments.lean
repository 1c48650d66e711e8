import ScriptSocket.Handle.Operations

/-!
# Arguments of the module's functions

A script calls two functions with positional arguments: `socket`, which makes a socket, and
`getaddrinfo`, which resolves a host name.  All arguments are read, in order, before the network
stack or a resolver is asked for anything; the first one that cannot be used decides the fault.
-/

namespace ScriptSocket.Module

/-- The fault of a call with a number of positional arguments that the function does not take. -/
def argumentCount (function : String) (least most : Nat) (arguments : List Value) : Fault :=
  .type (.argumentCount function least most arguments.length)

/-- An argument that names one of a set of numbered things. -/
def coded {α : Type} (ofCode? : Int64 → Option α) (errno : Errno) (default : α) :
    Option Value → Except Fault α
  | none => .ok default
  | some argument => do
    match ofCode? (← argument.integer) with
    | some value => .ok value
    | none => .error (.system errno)

/-- The protocol argument; -1 stands for the usual protocol of the socket type. -/
def protocolArgument : Option Value → Except Fault (Option Protocol)
  | none => .ok none
  | some argument => do
    let code ← argument.integer
    .ok (if code = -1 then none else some (Protocol.ofCode code))

structure SocketRequest where
  family : Family
  kind : SocketKind
  protocol : Option Protocol
  deriving DecidableEq

/-- The arguments of `socket`: family, type, protocol, and a fourth that is not looked at. -/
def SocketRequest.ofArguments (arguments : List Value) : Except Fault SocketRequest :=
  if 4 < arguments.length then .error (argumentCount "socket" 0 4 arguments)
  else do
    let family ← coded Family.ofCode? .familyUnsupported .ipv4 arguments[0]?
    let kind ← coded SocketKind.ofCode? .wrongSocketType .stream arguments[1]?
    let protocol ← protocolArgument arguments[2]?
    .ok ⟨family, kind, protocol⟩

def socket (config : SocketConfig) (arguments : List Value) :
    Dialogue NetworkStack (Except Fault Handle) :=
  match SocketRequest.ofArguments arguments with
  | .error fault => .done (.error fault)
  | .ok request => Handle.create request.family request.kind request.protocol config

structure ResolverConfig where
  /-- The family asked for when the script names none; none asks for every family. -/
  family : Option Family := some .ipv4
  /-- How long one query may take, in milliseconds. -/
  timeout : Nat := 3000
  deriving DecidableEq

structure LookupRequest where
  host : String
  port : Value
  family : Option Family
  deriving DecidableEq

def familyArgument (config : ResolverConfig) : Option Value → Except Fault (Option Family)
  | none => .ok config.family
  | some argument => do .ok (Family.hint (← argument.integer))

/-- Reads the arguments of `getaddrinfo`: the host, then the family.  The port is passed on as it
is. -/
def LookupRequest.read (config : ResolverConfig) (host port : Value) (family : Option Value) :
    Except Fault LookupRequest := do
  let host ← host.text
  let family ← familyArgument config family
  .ok ⟨host, port, family⟩

/-- The arguments of `getaddrinfo`: host, port, and possibly a family. -/
def LookupRequest.ofArguments (config : ResolverConfig) : List Value → Except Fault LookupRequest
  | [host, port] => LookupRequest.read config host port none
  | [host, port, family] => LookupRequest.read config host port (some family)
  | arguments => .error (argumentCount "getaddrinfo" 2 3 arguments)

end ScriptSocket.Module
