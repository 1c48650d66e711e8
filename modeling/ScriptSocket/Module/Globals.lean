import ScriptSocket.Numbering

/-!
# Names of the module

The table of names that a script finds in the module, in the order in which they are entered.
-/

namespace ScriptSocket.Module

/-- The two ways of building the module: over a stack with a resolver that reports to callbacks, or
with TLS and name resolution left to a modem. -/
inductive Build where
  | callback
  | modem
  deriving DecidableEq

inductive Global where
  | value (value : Value)
  | callable
  deriving DecidableEq

def number (code : Int32) : Global := .value (Value.ofCode code)

def socketLevel : Int32 := 1

def reuseAddress : Int32 := 2

/-- The names that only the build for a modem has. -/
def modemGlobals : Build → List (String × Global)
  | .callback => []
  | .modem =>
    [("IPPROTO_TLS_1_2", number Protocol.tls12.code),
      ("TLS_PEER_VERIFY_NONE", number Verification.off.code),
      ("TLS_PEER_VERIFY_OPTIONAL", number Verification.optional.code),
      ("TLS_PEER_VERIFY_REQUIRED", number Verification.required.code)]

def globals (build : Build) : List (String × Global) :=
  [("__name__", .value (.str "socket")),
    ("socket", .callable),
    ("AF_INET", number Family.ipv4.code),
    ("AF_INET6", number Family.ipv6.code),
    ("AF_PACKET", number Family.packet.code),
    ("SOCK_STREAM", number SocketKind.stream.code),
    ("SOCK_DGRAM", number SocketKind.datagram.code),
    ("SOCK_RAW", number SocketKind.raw.code)]
  ++ modemGlobals build ++
  [("SOL_SOCKET", number socketLevel),
    ("SO_REUSEADDR", number reuseAddress),
    ("getaddrinfo", .callable)]

def global? (build : Build) (name : String) : Option Global := (globals build).lookup name

end ScriptSocket.Module
