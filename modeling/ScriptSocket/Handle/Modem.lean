import ScriptSocket.Handle.Operations

/-!
# Options of a modem

Operations of a build whose modem ends TLS connections itself and owns the packet data networks.
Each option is one call to the stack, and the first that the stack refuses ends the operation.
-/

namespace ScriptSocket.Handle

/-- The verification mode a script asks for; without one the peer has to be verified. -/
def verificationOf : Option Value → Except Fault Verification
  | none => .ok .required
  | some mode => do
    let code ← mode.integer
    match Verification.ofCode? code with
    | some mode => .ok mode
    | none => .error (.value (.unknownVerification code))

def applyOption (h : Handle) (descriptor : Int32) (option : SocketOption)
    (next : Operation Unit) : Operation Unit :=
  .ask (.setOption descriptor option) fun reply =>
    match reply with
    | .ok () => next
    | .error errno => .done (.error (.system errno), h)

/-- The last of the three options: the peer's name, if one is given. -/
def applyHostName (h : Handle) (descriptor : Int32) (hostName : Option Value)
    (next : Operation Unit) : Operation Unit :=
  match hostName with
  | none | some .none => next
  | some name =>
    match name.text with
    | .error fault => h.refuse fault
    | .ok name => h.applyOption descriptor (.hostName name) next

/-- Turns TLS on: the tag of the credentials, how the peer is verified, and the peer's name.  The
name is looked at only after the first two options are applied. -/
def secure (h : Handle) (tag : Value) (verification hostName : Option Value) : Operation Unit :=
  h.whenOpen fun descriptor =>
    match tag.integer, verificationOf verification with
    | .error fault, _ => h.refuse fault
    | .ok _, .error fault => h.refuse fault
    | .ok tag, .ok mode =>
      let tag := Value.low32 tag
      h.applyOption descriptor (.securityTag tag) <|
      h.applyOption descriptor (.peerVerification mode) <|
      h.applyHostName descriptor hostName <|
      .note (.securityApplied descriptor tag mode) (.done (.ok (), h))

/-- Ties the socket to a packet data network.  Its number has to be an integer proper. -/
def joinNetwork (h : Handle) (network : Value) : Operation Unit :=
  h.whenOpen fun descriptor =>
    match network with
    | .int number => .ask (.setOption descriptor (.dataNetwork number.toInt32)) h.answer
    | other => h.refuse (.type (.networkNotInteger other.kind))

end ScriptSocket.Handle
