import ScriptSocket.Module.Session
import ScriptSocket.Scripted.Transfer

/-!
# A network stack with prepared answers

A stack that answers every call from a queue prepared for its kind, and by default where the queue
is empty: descriptors are handed out in order from 3, calls succeed, sends take everything and
receives are at the end.  Flags that were set are remembered for each descriptor.
-/

namespace ScriptSocket.Scripted

abbrev PlainEntry := Except Errno Unit

/-- The queues of prepared answers, the next descriptor to hand out, and the flags set so far. -/
structure StackScript where
  sockets : List (Except Errno Int32) := []
  binds : List PlainEntry := []
  connects : List PlainEntry := []
  listens : List PlainEntry := []
  accepts : List (Except Errno (Int32 × Option Endpoint)) := []
  sends : List WriteEntry := []
  receives : List ReadEntry := []
  closes : List PlainEntry := []
  flags : List (Except Errno Int32) := []
  setFlags : List PlainEntry := []
  options : List PlainEntry := []
  localEndpoints : List (Except Errno Endpoint) := []
  nextDescriptor : Int32 := 3
  flagMemory : List (Int32 × Int32) := []

/-- The prepared answer of a call without a result, and the queue it leaves. -/
def plainReply : List PlainEntry → Except Errno Unit × List PlainEntry
  | [] => (.ok (), [])
  | entry :: rest => (entry, rest)

namespace StackScript

def rememberedFlags (script : StackScript) (descriptor : Int32) : Int32 :=
  (script.flagMemory.lookup descriptor).getD 2

def remember (script : StackScript) (descriptor flags : Int32) :
    Except Errno Unit → StackScript
  | .ok () => { script with flagMemory := (descriptor, flags) :: script.flagMemory }
  | .error _ => script

def handOut (script : StackScript) : StackScript :=
  { script with nextDescriptor := script.nextDescriptor + 1 }

def respond : Responder NetworkStack StackScript
  | .socket _ _ _, script =>
    match script.sockets with
    | entry :: rest => (entry, { script with sockets := rest })
    | [] => (.ok script.nextDescriptor, script.handOut)
  | .bind _ _, script =>
    let answered := plainReply script.binds
    (answered.1, { script with binds := answered.2 })
  | .connect _ _, script =>
    let answered := plainReply script.connects
    (answered.1, { script with connects := answered.2 })
  | .listen _ _, script =>
    let answered := plainReply script.listens
    (answered.1, { script with listens := answered.2 })
  | .accept _, script =>
    match script.accepts with
    | entry :: rest => (entry, { script with accepts := rest })
    | [] => (.ok (script.nextDescriptor, none), script.handOut)
  | .send _ data, script =>
    let answered := writeReply data.length script.sends
    (answered.1, { script with sends := answered.2 })
  | .receive _ size, script =>
    let answered := readReply size script.receives
    (answered.1, { script with receives := answered.2 })
  | .close _, script =>
    let answered := plainReply script.closes
    (answered.1, { script with closes := answered.2 })
  | .flags descriptor, script =>
    match script.flags with
    | entry :: rest => (entry, { script with flags := rest })
    | [] => (.ok (script.rememberedFlags descriptor), script)
  | .setFlags descriptor flags, script =>
    let answered := plainReply script.setFlags
    (answered.1, { script with setFlags := answered.2 }.remember descriptor flags answered.1)
  | .setOption _ _, script =>
    let answered := plainReply script.options
    (answered.1, { script with options := answered.2 })
  | .localEndpoint _, script =>
    match script.localEndpoints with
    | entry :: rest => (entry, { script with localEndpoints := rest })
    | [] => (.ok (.v4 .zero 0), script)

/-- An action of a session over a prepared stack, with the patience that its queue needs. -/
def perform (script : StackScript) (session : Module.Session) (action : Module.Action) :
    Dialogue.Run NetworkStack StackScript (Module.Report × Module.Session) :=
  (session.perform (readsLeft script.receives) action).run respond script

def dropAll (script : StackScript) (session : Module.Session) :
    Dialogue.Run NetworkStack StackScript Module.Session :=
  session.dropAll.run respond script

end StackScript

end ScriptSocket.Scripted
