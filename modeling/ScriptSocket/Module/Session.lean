import ScriptSocket.Handle.Method
import ScriptSocket.Module.Lookup

/-!
# Sessions

A session is a module in use: the socket objects that scripts made, in the order in which they were
made, and the resolutions whose callbacks a resolver may still hold.  A dropped object leaves its
place empty.  An action is what a script does with the objects; each is a dialogue with the network
stack.
-/

namespace ScriptSocket.Module

open Resolution

structure Session where
  sockets : SocketConfig
  resolver : ResolverConfig
  handles : List (Option Handle)
  board : Board

/-- What a script does with socket objects, which are named by their place. -/
inductive Action where
  | socket (arguments : List Value)
  | create (family : Family) (kind : SocketKind) (protocol : Option Protocol)
  | drop (place : Nat)
  | use (place : Nat) (method : Handle.Method)

inductive Report where
  | noHandle
  | made (result : Except Fault Handle)
  | dropped
  /-- The answer of a method, and the handle after it. -/
  | used (answer : Handle.Answer) (handle : Handle)

namespace Session

def start (sockets : SocketConfig) (resolver : ResolverConfig) : Session :=
  ⟨sockets, resolver, [], []⟩

/-- The object at a place, if it was not dropped. -/
def handle? (s : Session) (place : Nat) : Option Handle := s.handles[place]?.join

def add (s : Session) : Option Handle → Session
  | none => s
  | some h => { s with handles := s.handles ++ [some h] }

def addMade (s : Session) (result : Except Fault Handle) : Report × Session :=
  (.made result, s.add result.toOption)

/-- The session after a method of the object at a place: the object is changed in its place, and an
object made by the method comes last. -/
def afterUse (s : Session) (place : Nat) (answer : Handle.Answer) (h : Handle) :
    Report × Session :=
  (.used answer h, { s with handles := s.handles.set place (some h) }.add answer.made?)

/-- What an action does.  Transfers without a bound go on for at most `patience` rounds. -/
def perform (s : Session) (patience : Nat) : Action → Dialogue NetworkStack (Report × Session)
  | .socket arguments => (Module.socket s.sockets arguments).map s.addMade
  | .create family kind protocol => (Handle.create family kind protocol s.sockets).map s.addMade
  | .drop place =>
    match s.handle? place with
    | none => .done (.noHandle, s)
    | some h => h.abandon.map fun _ => (.dropped, { s with handles := s.handles.set place none })
  | .use place method =>
    match s.handle? place with
    | none => .done (.noHandle, s)
    | some h => (method.perform patience h).map fun (answer, h) => s.afterUse place answer h

def performAll (s : Session) (patience : Nat) :
    List Action → Dialogue NetworkStack (List Report × Session)
  | [] => .done ([], s)
  | action :: actions =>
    (s.perform patience action).bind fun (report, s) =>
      (s.performAll patience actions).map fun (reports, s) => (report :: reports, s)

/-- The end of a session drops every object that is left, in order. -/
def dropAll (s : Session) : Dialogue NetworkStack Session :=
  (s.performAll 0 ((List.range s.handles.length).map .drop)).map Prod.snd

def lookup (s : Session) (arguments : List Value) :
    Dialogue Resolver (Option (Except Fault Value) × Session) :=
  (Module.lookup s.resolver s.board arguments).map fun (answer, board) =>
    (answer, { s with board := board })

end Session

end ScriptSocket.Module
