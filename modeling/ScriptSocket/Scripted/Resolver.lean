import ScriptSocket.Module.Session

/-!
# Resolvers with prepared answers

A resolver that reports to callbacks from a queue of prepared passes, and one that answers at once
from a queue of replies.  A pass may leave its callback in the resolver's keeping; the first kept
one gets the events that later passes prepare for it.
-/

namespace ScriptSocket.Scripted

open Resolution

/-- What a prepared resolver does about one query. -/
structure Pass where
  /-- Reports to the first callback kept by an earlier pass. -/
  late : List (Status × Option Endpoint)
  reports : List (Status × Option Endpoint)
  /-- The callback is not released at the end of the pass. -/
  keeps : Bool
  outcome : Except Errno Unit

/-- A pass that ends the query with success and no address. -/
def Pass.ordinary : Pass := ⟨[], [(.allDone, none)], false, .ok ()⟩

/-- The passes to come and the callbacks kept, oldest first. -/
structure ResolverScript where
  passes : List Pass
  kept : List Ticket

namespace ResolverScript

def reportsTo (ticket : Ticket) (reports : List (Status × Option Endpoint)) :
    List (Ticket × Event) :=
  reports.map fun (status, endpoint) => (ticket, .report status endpoint)

def reaction (pass : Pass) (kept : List Ticket) (ticket : Ticket) : Reaction where
  before :=
    (match kept with
      | first :: _ => reportsTo first pass.late
      | [] => [])
    ++ reportsTo ticket pass.reports
    ++ (if pass.keeps then [] else [(ticket, .release)])
  outcome := pass.outcome
  after := []

def respond : Responder Resolver ResolverScript := fun query script =>
  let pass := script.passes.head?.getD .ordinary
  (reaction pass script.kept query.ticket,
    ⟨script.passes.tail, if pass.keeps then script.kept ++ [query.ticket] else script.kept⟩)

/-- Releases every callback still kept, oldest first. -/
def releaseAll (script : ResolverScript) (board : Board) : Board × List Notice :=
  board.events (script.kept.map fun ticket => (ticket, .release))

end ResolverScript

/-- The replies to come of a resolver that answers at once. -/
abbrev DirectScript := List (Except Status (List DirectRecord))

/-- How a prepared resolver answers at once; without a reply it finds nothing. -/
def DirectScript.respond : Responder DirectResolver DirectScript := fun _ script =>
  match script with
  | reply :: rest => (reply, rest)
  | [] => (.ok [], [])

end ScriptSocket.Scripted
