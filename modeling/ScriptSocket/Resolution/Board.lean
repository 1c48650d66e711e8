import ScriptSocket.Dialogue
import ScriptSocket.Resolution.Call

/-!
# Resolutions that share a resolver

A resolver may keep callbacks after the resolution they belong to has returned.  The board holds
every resolution made so far, so that a late event finds its own.  `Board.resolve` makes one more,
as a dialogue with the resolver: for every query the resolver answers with the events it makes
before it takes the query up or refuses it and those it makes afterwards, on any callbacks it
holds.
-/

namespace ScriptSocket.Resolution

/-- The name of a callback: the resolution it belongs to and the query it was made for. -/
structure Ticket where
  call : Nat
  pass : Nat
  deriving DecidableEq

/-- A query as the resolver gets it, with the ticket of its callback.  The timeout is in
milliseconds. -/
structure Query where
  ticket : Ticket
  host : String
  kind : QueryKind
  timeout : Nat
  deriving DecidableEq

/-- The query that the resolver has been asked and has not answered, of the resolution with the
given number. -/
def Call.query? (call : Nat) (c : Call) : Option Query :=
  c.asked?.map fun kind => ⟨⟨call, c.callbacks.length - 1⟩, c.host, kind, c.timeout⟩

structure Reaction where
  before : List (Ticket × Event)
  outcome : Except Errno Unit
  after : List (Ticket × Event)

abbrev Resolver : Interface := ⟨Query, fun _ => Reaction⟩

/-- All resolutions made so far. -/
abbrev Board := List Call

namespace Board

def step? (board : Board) (call : Nat) (move : Move) : Option (Board × List Notice) :=
  match board[call]? with
  | some c => (c.step? move).map fun (c, notices) => (board.set call c, notices)
  | none => none

/-- One event on a callback.  An event on a callback that is not held by the resolver does
nothing. -/
def event (board : Board) (ticket : Ticket) (event : Event) : Board × List Notice :=
  (board.step? ticket.call (.callback ticket.pass event)).getD (board, [])

def events (board : Board) : List (Ticket × Event) → Board × List Notice
  | [] => (board, [])
  | (ticket, event) :: rest =>
    let first := board.event ticket event
    let others := events first.1 rest
    (others.1, first.2 ++ others.2)

/-- A reaction of the resolver to the query that a resolution has issued. -/
def react (board : Board) (call : Nat) (reaction : Reaction) : Board × List Notice :=
  let before := board.events reaction.before
  let answered := (before.1.step? call (.respond reaction.outcome)).getD (before.1, [])
  let after := answered.1.events reaction.after
  (after.1, before.2 ++ answered.2 ++ after.2)

end Board

def noteAll {I : Interface} {α : Type} (notices : List Notice) (next : Dialogue I α) :
    Dialogue I α :=
  notices.foldr .note next

namespace Board

/-- Takes a resolution on for at most `moves` moves.  There is no answer if the caller waits and the
resolver has ended its part. -/
def drive (call : Nat) : Nat → Board →
    Dialogue Resolver (Option (Except Fault (List Entry)) × Board)
  | 0, board => .done (board[call]?.bind Call.answer?, board)
  | moves + 1, board =>
    match board[call]? with
    | none => .done (none, board)
    | some c =>
      match c.query? call with
      | some query =>
        .ask query fun reaction =>
          let reacted := board.react call reaction
          noteAll reacted.2 (drive call moves reacted.1)
      | none =>
        match c.advance? with
        | none => .done (c.answer?, board)
        | some (c, notices) => noteAll notices (drive call moves (board.set call c))

/-- Resolves a host name.  The port has to be an integer; it is looked at before any query. -/
def resolve (board : Board) (host : String) (port : Value) (timeout : Nat)
    (family : Option Family) : Dialogue Resolver (Option (Except Fault (List Entry)) × Board) :=
  match port.integer with
  | .error fault => .done (some (.error fault), board)
  | .ok _ =>
    let call := Call.start host port timeout (QueryKind.passes family)
    drive board.length call.distance (board ++ [call])

end Board

end ScriptSocket.Resolution
