import ScriptSocket.Host.Resolver
import ScriptSocket.Proofs.Resolution.Agreement

/-!
# What the worker of the host's resolver delivers

The host's resolver ends every query that it takes up, whatever the name service finds and however
the look-up ends: `NameService.delivery` is what the query is delivered.  The worker may be slower
or faster than the caller.  `NameService.Serves` has all runs in which every callback has heard no
more than the worker makes of its query, in order; where such a run gives an answer it is the one
told from the deliveries, and it stops short of an answer only while the worker has still something
to do.
-/

namespace ScriptSocket.Host

open Resolution

variable {service : NameService} {worker : Worker} {query : Query} {queries : List Query}

/-- What a query that is taken up is delivered. -/
def NameService.delivery (service : NameService) (ending : Ending) (host : String)
    (kind : QueryKind) : Delivery :=
  let (found, status) := service.outcome ending host kind
  ⟨found.map fun endpoint => (.ok, endpoint), status⟩

def NameService.deliveries (service : NameService) (worker : Worker) (queries : List Query) :
    List Delivery :=
  queries.map fun query => service.delivery (worker query).ending query.host query.kind

theorem made_of_accepts (haccepts : accepts query.host = .ok ()) :
    service.made worker query =
      (service.delivery (worker query).ending query.host query.kind).events ++ [.release] := by
  simp [NameService.made, NameService.delivered, NameService.delivery, haccepts, Delivery.events]

theorem ended_made (service : NameService) (worker : Worker) (query : Query) :
    Ended (service.made worker query) := by
  simp [NameService.made, ended_iff_mem]

theorem told_respond (service : NameService) (worker : Worker) (query : Query) :
    (service.respond worker query ()).1.told query.ticket = service.made worker query := by
  unfold NameService.respond Reaction.told
  cases accepts query.host with
  | error errno => simp only [List.append_nil, toldOn_own]
  | ok taken => simp only [List.take_append_drop, toldOn_own]

theorem outcome_respond (service : NameService) (worker : Worker) (query : Query) :
    (service.respond worker query ()).1.outcome = accepts query.host := by
  unfold NameService.respond
  cases accepts query.host <;> rfl

/-- However the worker gets on, the queries that are taken up are delivered all that it makes. -/
theorem delivers_respond
    (haccepts : ∀ query ∈ queries, accepts query.host = .ok ()) (service : NameService)
    (worker : Worker) :
    Delivers (service.respond worker) () queries (service.deliveries worker queries) := by
  induction queries with
  | nil => trivial
  | cons query queries ih =>
      have hquery := haccepts query List.mem_cons_self
      refine ⟨(outcome_respond service worker query).trans hquery, ?_,
        ih fun other hother => haccepts other (List.mem_cons_of_mem _ hother)⟩
      rw [told_respond, made_of_accepts hquery]
      exact List.prefix_append _ _

/-! ## In any order of moves -/

/-- The resolver's moves in a run that makes the given queries are those of the worker, as far as it
has come: its word on a query is as `accepts` says, and a callback hears what it makes of the query,
in order. -/
structure NameService.Serves (service : NameService) (worker : Worker) (queries : List Query)
    (moves : List Move) : Prop where
  word : ∀ outcome, Move.respond outcome ∈ moves → ∃ query ∈ queries, outcome = accepts query.host
  events : ∀ pass query, queries[pass]? = some query →
    eventsOn pass moves <+: service.made worker query

/-- The worker has still something to do for a query that has been issued. -/
def NameService.Owes (service : NameService) (worker : Worker) (queries : List Query)
    (moves : List Move) : Prop :=
  ∃ pass query, queries[pass]? = some query ∧ pass < issues moves ∧
    eventsOn pass moves ≠ service.made worker query

variable {moves : List Move}

theorem refusals_of_serves
    (hserves : service.Serves worker queries moves)
    (haccepts : ∀ query ∈ queries, accepts query.host = .ok ()) : refusals moves = [] := by
  refine List.filterMap_eq_nil_iff.mpr ?_
  intro move hmove
  cases move with
  | respond outcome =>
      obtain ⟨query, hquery, houtcome⟩ := hserves.word outcome hmove
      rw [houtcome, haccepts query hquery]
  | _ => rfl

section

variable {host : String} {port : Value} {timeout call : Nat} {kinds : List QueryKind} {c : Call}
  {notices : List Notice}

theorem accepts_of_mem_queriesFor
    (haccepts : accepts host = .ok ()) {query : Query}
    (hquery : query ∈ Call.queriesFor call host timeout kinds) : accepts query.host = .ok () := by
  obtain ⟨pass, hpass, rfl⟩ := List.mem_mapIdx.mp hquery
  exact haccepts

/-- An answer given in the course of the worker's moves is the one told from the deliveries. -/
theorem answer_of_serves
    (hrun : (Call.start host port timeout kinds).replay? moves = some (c, notices))
    (hserves : service.Serves worker (Call.queriesFor call host timeout kinds) moves)
    (haccepts : accepts host = .ok ()) {answer : Except Fault (List Entry)}
    (hreturned : c.point = .returned answer) :
    answer = directAnswer port
      (combined (service.deliveries worker (Call.queriesFor call host timeout kinds))) := by
  have hnone := refusals_of_serves hserves fun query => accepts_of_mem_queriesFor haccepts
  obtain ⟨hissues, hwakes, hanswer⟩ :
      issues moves = kinds.length ∧ wakes moves = issues moves ∧
        answer = answerInTurn port (histories moves) := by
    rcases (Call.accounts_of_replay hrun).returned answer hreturned with
      ⟨errno, hrefused, -⟩ | ⟨-, hall⟩
    · rw [hnone] at hrefused
      cases hrefused
    · exact hall
  have hinv := Call.rendezvous_of_replay hrun
  rw [hanswer]
  refine answerInTurn_of_deliveries port (List.forall₂_iff_get.mpr ⟨?_, ?_⟩)
  · simp [NameService.deliveries, Call.queriesFor, histories, hissues]
  · intro pass hpass _
    have hpass : pass < (Call.queriesFor call host timeout kinds).length := by
      simpa [NameService.deliveries] using hpass
    have hended : Ended (eventsOn pass moves) := by
      refine hinv.taken_ended pass ?_
      rw [hwakes, hissues]
      simpa [Call.queriesFor] using hpass
    have hquery := List.getElem?_eq_getElem hpass
    have hmade := hserves.events pass _ hquery
    rw [made_of_accepts (accepts_of_mem_queriesFor haccepts (List.mem_of_getElem? hquery))]
      at hmade
    simpa [NameService.deliveries, histories] using events_prefix_of_ended hended hmade

/-- A caller that can make no move and has no answer waits for the worker. -/
theorem owes_of_blocked
    (hrun : (Call.start host port timeout kinds).replay? moves = some (c, notices))
    (hstuck : c.advance? = none) (hopen : c.asked? = none)
    (hunreturned : ¬ Call.Point.IsReturned c.point) (service : NameService) (worker : Worker)
    (call : Nat) : service.Owes worker (Call.queriesFor call host timeout kinds) moves := by
  have hinv := Call.rendezvous_of_replay hrun
  have hquery : c.query? call = none := by simp [Call.query?, hopen]
  obtain ⟨rest, hpoint, htake⟩ :=
    (Call.blocked_of_advance?_eq_none hquery hstuck).resolve_left hunreturned
  have howed := hinv.owed_of_waiting hpoint
  have hended : ¬ Ended (eventsOn (issues moves - 1) moves) := by
    intro hended
    obtain ⟨d, hwake⟩ := hinv.wake_of_ended hpoint hended
    simp [Call.step?, hpoint, htake] at hwake
  have hlt : issues moves - 1 < (Call.queriesFor call host timeout kinds).length := by
    obtain ⟨left, hkinds, -⟩ := (Call.accounts_of_replay hrun).kinds
    have hlength := congrArg List.length hkinds
    simp only [List.length_append, List.length_map, hinv.issued] at hlength
    simp only [Call.queriesFor, List.length_mapIdx]
    omega
  refine ⟨issues moves - 1, _, List.getElem?_eq_getElem hlt, by omega, ?_⟩
  intro hall
  exact hended (hall ▸ ended_made service worker _)

end

end ScriptSocket.Host
