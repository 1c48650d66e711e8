import ScriptSocket.Resolution.Board
import ScriptSocket.Resolution.Direct

/-!
# Resolvers of the host

Resolvers over the name service of the host, in both builds.  The service is a parameter: for a name
it finds endpoints, or it fails.  The resolver that reports to callbacks looks names up on a
worker's thread, so a `Course` says for each query how the look-up ends, which may be too late or
not at all, and how many of the events come before the word that the query is taken up.  Its queue
is open as long as there is a resolver, so that an empty name is all that it refuses.  What it says
to the log is left out.

Over `literals`, the service that knows address literals only, the resolvers need no network.
-/

namespace ScriptSocket.Host

open Resolution

/-- The endpoints that a name service finds for a name, in its order, unless it fails. -/
abbrev NameService := String → Option (List Endpoint)

def ofFamily (family : Option Family) (endpoint : Endpoint) : Bool :=
  match family with
  | none => true
  | some family => endpoint.family = family

/-- The endpoints of a requested family, each once, in the order in which they first occur. -/
def filterFamily (endpoints : List Endpoint) (family : Option Family) : List Endpoint :=
  endpoints.foldl
    (fun kept endpoint =>
      if ofFamily family endpoint ∧ endpoint ∉ kept then kept ++ [endpoint] else kept) []

/-- Whether the host's resolver takes up a query: an empty name is refused. -/
def accepts (host : String) : Except Errno Unit :=
  if host.isEmpty then .error .invalidArgument else .ok ()

/-- How a look-up on a thread of its own ends. -/
inductive Ending where
  | answered
  /-- The service has not answered when the timeout of the query is over. -/
  | late
  /-- The thread does not start, or is gone without an answer. -/
  | lost
  deriving DecidableEq

/-- How the worker gets on with a query.  `early` is the number of events that it makes before the
caller has the word that the query is taken up. -/
structure Course where
  early : Nat
  ending : Ending

abbrev Worker := Query → Course

namespace NameService

/-- What a look-up comes to: the endpoints for a query, and the status that ends it. -/
def outcome (service : NameService) (ending : Ending) (host : String) (kind : QueryKind) :
    List Endpoint × Status :=
  match ending with
  | .lost => ([], .system)
  | .late => ([], .canceled)
  | .answered =>
    match service host with
    | none => ([], .noName)
    | some endpoints =>
      let found := filterFamily endpoints (some kind.family)
      (found, if found.isEmpty then .noData else .allDone)

/-- The reports of a query from its issue to the release of its callback. -/
def delivered (service : NameService) (ending : Ending) (host : String) (kind : QueryKind) :
    List (Status × Option Endpoint) :=
  match accepts host with
  | .error _ => []
  | .ok () =>
    let (found, status) := service.outcome ending host kind
    found.map (fun endpoint => (.ok, some endpoint)) ++ [(status, none)]

/-- All that the host's resolver does to the callback of a query. -/
def made (service : NameService) (worker : Worker) (query : Query) : List Event :=
  (service.delivered (worker query).ending query.host query.kind).map
    (fun report => .report report.1 report.2) ++ [.release]

/-- The host's resolver that reports to callbacks.  The callback of a query that it refuses is
released unused. -/
def respond (service : NameService) (worker : Worker) : Responder Resolver Unit := fun query _ =>
  let events := (service.made worker query).map fun event => (query.ticket, event)
  match accepts query.host with
  | .error errno => (⟨events, .error errno, []⟩, ())
  | .ok () =>
    let early := (worker query).early
    (⟨events.take early, .ok (), events.drop early⟩, ())

/-- The answer of the host's resolver that answers at once: TCP streams, or why there are none. -/
def directRecords (service : NameService) (host : String) (family : Option Family) :
    Except Status (List DirectRecord) :=
  match service host with
  | none => .error .noName
  | some endpoints =>
    match filterFamily endpoints family with
    | [] => .error .noData
    | found => .ok (found.map fun endpoint => ⟨endpoint, .stream, .tcp⟩)

def respondDirectly (service : NameService) : Responder DirectResolver Unit := fun query _ =>
  (service.directRecords query.host query.family, ())

end NameService

/-! ## Without a network -/

/-- The endpoint of an address, with no port. -/
def literalEndpoint : Ip.Address → Endpoint
  | .v4 address => .v4 address 0
  | .v6 address => .v6 address 0 0 0

/-- The name service that knows address literals only: each denotes the one address it writes. -/
def literals : NameService := fun host =>
  (Ip.Address.parse? host.toList).map fun address => [literalEndpoint address]

def delivered (host : String) (kind : QueryKind) : List (Status × Option Endpoint) :=
  literals.delivered .answered host kind

/-- Takes every query up before it makes any of the events. -/
def respond : Responder Resolver Unit := literals.respond fun _ => ⟨0, .answered⟩

def respondDirectly : Responder DirectResolver Unit := literals.respondDirectly

end ScriptSocket.Host
