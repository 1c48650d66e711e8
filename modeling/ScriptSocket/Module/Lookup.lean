import ScriptSocket.Module.Arguments
import ScriptSocket.Resolution.Board
import ScriptSocket.Resolution.Direct

/-!
# Looking names up

The module's `getaddrinfo` in the two builds: over a resolver that reports to callbacks, and over
one that answers at once.  Both answer with a list of tuples, one for each entry.
-/

namespace ScriptSocket.Module

open Resolution

def entriesValue (entries : List Entry) : Value := .list (entries.map Entry.toValue)

def lookupAnswer (answer : Except Fault (List Entry)) : Except Fault Value :=
  answer.map entriesValue

/-- Looks a name up over a resolver that reports to callbacks.  There is no answer if the resolver
never ends a query. -/
def lookup (config : ResolverConfig) (board : Board) (arguments : List Value) :
    Dialogue Resolver (Option (Except Fault Value) × Board) :=
  match LookupRequest.ofArguments config arguments with
  | .error fault => .done (some (.error fault), board)
  | .ok request =>
    .note (.lookupRequested request.host request.port request.family) <|
      (board.resolve request.host request.port config.timeout request.family).map
        fun (answer, board) => (answer.map lookupAnswer, board)

def lookupDirectly (config : ResolverConfig) (arguments : List Value) :
    Dialogue DirectResolver (Except Fault Value) :=
  match LookupRequest.ofArguments config arguments with
  | .error fault => .done (.error fault)
  | .ok request =>
    .note (.lookupRequested request.host request.port request.family) <|
      (resolveDirectly request.host request.port request.family).map lookupAnswer

end ScriptSocket.Module
