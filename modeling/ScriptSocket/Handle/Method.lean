import ScriptSocket.Handle.Modem
import ScriptSocket.Stream.Method

/-!
# Methods of a socket object

Everything a script can do with a socket object, as data, with what each method answers.
-/

namespace ScriptSocket.Handle

inductive Method where
  | bind (address : Value)
  | connect (address : Value)
  | listen (backlog : Option Int64)
  | accept
  | send (data : Value)
  | receive (size : Int64)
  | setBlocking (flag : Value)
  | setOption (level option value : Value)
  | makeFile
  | localAddress
  | close
  | secure (tag : Value) (verification hostName : Option Value)
  | joinNetwork (network : Value)
  | stream (method : Stream.Method)

inductive Answer where
  | done (result : Except Fault Unit)
  | value (result : Except Fault Value)
  | count (result : Except Fault Nat)
  | bytes (result : Except Fault (List UInt8))
  | accepted (result : Except Fault (Handle × Value))
  | file (handle : Handle)
  | stream (answer : Stream.Answer)

/-- What a method does to a handle.  Transfers without a bound go on for at most `patience`
rounds. -/
def Method.perform (patience : Nat) (h : Handle) :
    Method → Dialogue NetworkStack (Answer × Handle)
  | .bind address => (h.bind address).map (Prod.map .done id)
  | .connect address => (h.connect address).map (Prod.map .done id)
  | .listen backlog => (h.listen backlog).map (Prod.map .done id)
  | .accept => h.accept.map (Prod.map .accepted id)
  | .send data => (h.send data).map (Prod.map .count id)
  | .receive size => (h.receive size).map (Prod.map .bytes id)
  | .setBlocking flag => (h.setBlocking flag).map (Prod.map .done id)
  | .setOption level option _ => (h.setOption level option).map (Prod.map .done id)
  | .makeFile => .done (.file h.makeFile, h)
  | .localAddress => h.localAddress.map (Prod.map .value id)
  | .close => h.close.map (Prod.map .done id)
  | .secure tag verification hostName =>
    (h.secure tag verification hostName).map (Prod.map .done id)
  | .joinNetwork network => (h.joinNetwork network).map (Prod.map .done id)
  | .stream method => (h.transfer (method.perform patience)).map (Prod.map .stream id)

def Answer.made? : Answer → Option Handle
  | .accepted (.ok (client, _)) => some client
  | _ => none

end ScriptSocket.Handle
