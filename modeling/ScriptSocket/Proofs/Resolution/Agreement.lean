import Mathlib.Data.List.Forall2
import ScriptSocket.Proofs.Resolution.Consultation
import ScriptSocket.Scripted.Resolver

/-!
# One answer in both builds

A resolver that reports to callbacks delivers to each query some addresses and a status; one that
answers at once has records, or a status.  Where the records are what the queries were delivered,
all in one list, a resolution comes to the same over either of them.  Without any address the status
of the last query stands for the answer.
-/

namespace ScriptSocket.Resolution

/-- What one query is delivered: addresses, each reported with a status of its own, and the status
that ends it. -/
structure Delivery where
  reports : List (Status × Endpoint)
  status : Status

namespace Delivery

def events (d : Delivery) : List Event :=
  d.reports.map (fun report => .report report.1 (some report.2)) ++ [.report d.status none]

def records (d : Delivery) : List DirectRecord :=
  d.reports.map fun report => ⟨report.2, .stream, .tcp⟩

def entries (port : Value) (d : Delivery) : List Entry := d.records.map (·.entry port)

def failure? (d : Delivery) : Option Status := if d.status.isError then some d.status else none

end Delivery

/-- All deliveries as one answer: an error only if the last query failed and nothing was found. -/
def combined (deliveries : List Delivery) : Except Status (List DirectRecord) :=
  let records := deliveries.flatMap Delivery.records
  match deliveries.getLast? with
  | none => .ok records
  | some last => if records = [] ∧ last.status.isError then .error last.status else .ok records

/-- The resolver takes every query up and makes to its callback the reports of its delivery, before
whatever else it does to that callback. -/
def Delivers {σ : Type} (respond : Responder Resolver σ) : σ → List Query → List Delivery → Prop
  | _, [], [] => True
  | state, query :: queries, delivery :: deliveries =>
    let replied := respond query state
    replied.1.outcome = .ok () ∧ delivery.events <+: Reaction.told replied.1 query.ticket ∧
      Delivers respond replied.2 queries deliveries
  | _, [], _ :: _ => False
  | _, _ :: _, [] => False

/-! ## What a delivery leaves -/

section

variable {port : Value} {events : List Event} {delivery : Delivery}

theorem found_of_delivery (hevents : delivery.events <+: events) :
    found events = delivery.reports.map Prod.snd := by
  obtain ⟨later, rfl⟩ := hevents
  obtain ⟨reports, status⟩ := delivery
  unfold Delivery.events
  induction reports with
  | nil => rfl
  | cons report reports ih => exact congrArg (report.2 :: ·) ih

theorem verdict?_of_delivery (hevents : delivery.events <+: events) :
    verdict? events = some delivery.status := by
  obtain ⟨later, rfl⟩ := hevents
  obtain ⟨reports, status⟩ := delivery
  unfold Delivery.events
  induction reports with
  | nil => rfl
  | cons report reports ih => exact ih

theorem entriesOf_of_delivery (hevents : delivery.events <+: events) :
    entriesOf port events = delivery.entries port := by
  unfold entriesOf Delivery.entries Delivery.records
  rw [found_of_delivery hevents, List.map_map, List.map_map]
  rfl

theorem failureOf_of_delivery (hevents : delivery.events <+: events) :
    failureOf events = delivery.failure? := by
  unfold failureOf Delivery.failure?
  rw [verdict?_of_delivery hevents, Option.filter_some]

theorem ended_of_delivery (hevents : delivery.events <+: events) : Ended events :=
  ended_iff_exists.mpr ⟨delivery.status, verdict?_of_delivery hevents⟩

/-- A callback that has heard some of a delivery and its release has heard the whole delivery once
its query has ended. -/
theorem events_prefix_of_ended
    (hended : Ended events) (hheard : events <+: delivery.events ++ [.release]) :
    delivery.events <+: events := by
  rcases List.prefix_or_prefix_of_prefix hheard (List.prefix_append _ _) with hshort | hwhole
  · rcases List.prefix_concat_iff.mp hshort with rfl | hreports
    · exact List.prefix_refl _
    · -- the reports with an address do not end the query
      rcases ended_iff_mem.mp hended with ⟨status, hmem⟩ | hmem
      · simpa using hreports.mem hmem
      · simpa using hreports.mem hmem
  · exact hwhole

end

/-! ## The answers -/

/-- The answer made of the reply of a resolver that answers at once. -/
def directAnswer (port : Value) : Except Status (List DirectRecord) → Except Fault (List Entry)
  | .error status => .error status.fault
  | .ok records => .ok (records.map (·.entry port))

theorem run_resolveDirectly
    {τ : Type} (direct : Responder DirectResolver τ) (below : τ) {port : Value}
    (hport : port.IsInteger) (host : String) (family : Option Family) :
    ((resolveDirectly host port family).run direct below).value =
      directAnswer port (direct ⟨host, family⟩ below).1 := by
  obtain ⟨number, hnumber⟩ := Value.exists_integer_iff.mpr hport
  simp only [resolveDirectly, hnumber, Dialogue.run]
  cases (direct ⟨host, family⟩ below).1 <;> rfl

theorem answer_eq_directAnswer (port : Value) (deliveries : List Delivery) :
    Call.answer (deliveries.getLast?.bind Delivery.failure?)
        (deliveries.flatMap (Delivery.entries port)) =
      directAnswer port (combined deliveries) := by
  have hentries : deliveries.flatMap (Delivery.entries port) =
      (deliveries.flatMap Delivery.records).map (·.entry port) := by
    rw [List.map_flatMap]
    rfl
  rw [hentries]
  unfold combined
  cases deliveries.getLast? with
  | none => rfl
  | some last =>
      simp only [Option.bind_some, Delivery.failure?]
      cases last.status.isError with
      | true =>
          simp only [if_true, Call.answer, List.map_eq_nil_iff, and_true]
          split <;> rfl
      | false =>
          simp only [Bool.false_eq_true, and_false, if_false, Call.answer]
          rfl

theorem answerInTurn_of_deliveries
    (port : Value) {deliveries : List Delivery} {histories : List (List Event)}
    (hhistories : List.Forall₂ (fun delivery events => delivery.events <+: events) deliveries
      histories) :
    answerInTurn port histories = directAnswer port (combined deliveries) := by
  have hentries : deliveries.map (Delivery.entries port) = histories.map (entriesOf port) := by
    rw [← List.forall₂_eq_eq_eq, List.forall₂_map_left_iff, List.forall₂_map_right_iff]
    exact hhistories.imp fun _ _ hevents => (entriesOf_of_delivery hevents).symm
  have hfailures : deliveries.map Delivery.failure? = histories.map failureOf := by
    rw [← List.forall₂_eq_eq_eq, List.forall₂_map_left_iff, List.forall₂_map_right_iff]
    exact hhistories.imp fun _ _ hevents => (failureOf_of_delivery hevents).symm
  have hlast : deliveries.getLast?.bind Delivery.failure? =
      histories.getLast?.bind failureOf := by
    simpa only [List.getLast?_map, Option.bind_map, Function.id_comp] using
      congrArg (fun failures => failures.getLast?.bind id) hfailures
  rw [← answer_eq_directAnswer, List.flatMap_def, hentries, hlast, ← List.flatMap_def]
  unfold answerInTurn Call.answer
  cases histories.getLast?.bind failureOf <;> rfl

theorem consult_of_delivers
    {σ : Type} {respond : Responder Resolver σ} {call : Nat} {host : String} (port : Value)
    {timeout : Nat} (kinds : List QueryKind) {pass : Nat} (failure : Option Status)
    (entries : List Entry) {state : σ} {deliveries : List Delivery}
    (hdelivers : Delivers respond state
      (kinds.mapIdx fun i kind => ⟨⟨call, pass + i⟩, host, kind, timeout⟩) deliveries) :
    ((consult call host port timeout kinds pass failure entries).run respond state).value =
      some (Call.answer ((deliveries.getLast?.map Delivery.failure?).getD failure)
        (entries ++ deliveries.flatMap (Delivery.entries port))) := by
  induction kinds generalizing pass failure entries state deliveries with
  | nil =>
      cases deliveries with
      | nil => simp [consult, Dialogue.run]
      | cons delivery deliveries => exact hdelivers.elim
  | cons kind kinds ih =>
      rw [List.mapIdx_cons] at hdelivers
      cases deliveries with
      | nil => exact hdelivers.elim
      | cons delivery deliveries =>
          obtain ⟨houtcome, hevents, hrest⟩ := hdelivers
          -- the other queries are those of the passes from the next one on
          have hshift : (fun (i : Nat) (kind : QueryKind) =>
              (⟨⟨call, pass + (i + 1)⟩, host, kind, timeout⟩ : Query)) =
                fun i kind => ⟨⟨call, pass + 1 + i⟩, host, kind, timeout⟩ := by
            funext i kind
            rw [Nat.add_right_comm]
            rfl
          simp only [Nat.add_zero] at houtcome hevents hrest
          rw [hshift] at hrest
          simp only [consult, Dialogue.run, houtcome, if_pos (ended_of_delivery hevents)]
          rw [ih _ _ hrest, failureOf_of_delivery hevents, entriesOf_of_delivery hevents,
            List.flatMap_cons, List.append_assoc, List.getLast?_cons]
          cases deliveries.getLast? <;> rfl

/-- A resolution answers with all that its queries are delivered. -/
theorem Board.answer_of_delivers
    {σ : Type} {respond : Responder Resolver σ} {state : σ} {board : Board} {host : String}
    {port : Value} (hport : port.IsInteger) {timeout : Nat} {family : Option Family}
    {deliveries : List Delivery}
    (hdelivers : Delivers respond state
      (Call.queriesFor board.length host timeout (QueryKind.passes family)) deliveries) :
    ((board.resolve host port timeout family).run respond state).value.1 =
      some (directAnswer port (combined deliveries)) := by
  obtain ⟨number, hnumber⟩ := Value.exists_integer_iff.mpr hport
  have hqueries : Delivers respond state ((QueryKind.passes family).mapIdx fun i kind =>
      ⟨⟨board.length, 0 + i⟩, host, kind, timeout⟩) deliveries := by
    simpa only [Nat.zero_add, Call.queriesFor] using hdelivers
  rw [(Board.run_resolve_eq_consult hnumber respond board host timeout family state).value,
    consult_of_delivers port _ none [] hqueries, ← answer_eq_directAnswer, List.nil_append]
  cases deliveries.getLast? <;> rfl

/-- If a resolver that answers at once replies with all that one with callbacks delivers to the
queries for the same request, then resolving over either gives the same answer; and so does every
other order of the caller's and the resolver's moves in which the queries are delivered the same.  A
port that is no integer is refused over both, and neither is asked. -/
theorem resolve_eq_resolveDirectly
    {σ τ : Type} (respond : Responder Resolver σ) (state : σ) (direct : Responder DirectResolver τ)
    (below : τ) (board : Board) (host : String) (port : Value) (timeout : Nat)
    (family : Option Family) :
    let called := (board.resolve host port timeout family).run respond state
    let asked := (resolveDirectly host port family).run direct below
    (∀ deliveries,
      Delivers respond state
        (Call.queriesFor board.length host timeout (QueryKind.passes family)) deliveries →
      (direct ⟨host, family⟩ below).1 = combined deliveries →
      called.value.1 = some asked.value) ∧
    (∀ deliveries moves c notices answer, port.IsInteger →
      (Call.start host port timeout (QueryKind.passes family)).replay? moves = some (c, notices) →
      c.point = .returned answer → refusals moves = [] →
      List.Forall₂ (fun delivery events => delivery.events <+: events) deliveries
        (histories moves) →
      (direct ⟨host, family⟩ below).1 = combined deliveries →
      answer = asked.value) ∧
    (¬ port.IsInteger →
      (called.value.1 = some (.error (.type (.notInteger port.kind))) ∧ called.exchanges = []) ∧
      asked.value = .error (.type (.notInteger port.kind)) ∧ asked.exchanges = []) := by
  intro called asked
  have hrefused : ¬ port.IsInteger →
      (called.value.1 = some (.error (.type (.notInteger port.kind))) ∧ called.exchanges = []) ∧
      asked.value = .error (.type (.notInteger port.kind)) ∧ asked.exchanges = [] := by
    intro hport
    have hinteger : port.integer = .error (.type (.notInteger port.kind)) :=
      Value.integer_eq_error_iff.mpr ⟨hport, rfl⟩
    simp [called, asked, Board.resolve, resolveDirectly, hinteger, Dialogue.run]
  refine ⟨?_, ?_, hrefused⟩
  · intro deliveries hdelivers hdirect
    by_cases hport : port.IsInteger
    · rw [Board.answer_of_delivers hport hdelivers, run_resolveDirectly direct below hport, hdirect]
    · obtain ⟨⟨hcalled, -⟩, hasked, -⟩ := hrefused hport
      rw [hcalled, hasked]
  · intro deliveries moves c notices answer hport hrun hreturned hnone hhistories hdirect
    obtain ⟨-, hunrefused⟩ := Call.answer_of_replay hrun hreturned
    rw [(hunrefused hnone).2, answerInTurn_of_deliveries port hhistories,
      run_resolveDirectly direct below hport, hdirect]

section

open Scripted

/-- The first query finds nothing, and the second finds addresses of both families before it
fails. -/
def mixedDeliveries : List Delivery :=
  [⟨[], .noName⟩,
    ⟨[(.failed, .v4 ⟨192, 0, 2, 1⟩ 0), (.ok, .v6 ⟨[0, 0, 0, 0, 0, 0, 0, 1], rfl⟩ 0 0 0)], .noData⟩]

def mixedScript : ResolverScript :=
  ⟨mixedDeliveries.map fun delivery =>
    ⟨[],
      delivery.reports.map (fun report => (report.1, some report.2)) ++ [(delivery.status, none)],
      false, .ok ()⟩, []⟩

/-- Both calls of the second callback come before the resolver's word that it took the query up. -/
def mixedMoves : List Move :=
  [.issue, .respond (.ok ()), .callback 0 (.report .noName none), .wake, .readStatus, .issue,
    .callback 1 (.report .failed (some (.v4 ⟨192, 0, 2, 1⟩ 0))),
    .callback 1 (.report .ok (some (.v6 ⟨[0, 0, 0, 0, 0, 0, 0, 1], rfl⟩ 0 0 0))),
    .respond (.ok ()), .callback 1 (.report .noData none), .callback 0 .release, .wake, .readStatus,
    .collect]

theorem resolve_eq_resolveDirectly_mixed :
    (Delivers ResolverScript.respond mixedScript
        (Call.queriesFor 0 "host" 3000 (QueryKind.passes none)) mixedDeliveries ∧
      ((Board.resolve [] "host" (.bool true) 3000 none).run ResolverScript.respond
          mixedScript).value.1 =
        some ((resolveDirectly "host" (.bool true) none).run DirectScript.respond
          [combined mixedDeliveries]).value) ∧
    (∃ c notices,
      (Call.start "host" (.bool true) 3000 (QueryKind.passes none)).replay? mixedMoves =
        some (c, notices) ∧
      c.point = .returned ((resolveDirectly "host" (.bool true) none).run DirectScript.respond
          [combined mixedDeliveries]).value) ∧
    ¬ Value.IsInteger .none ∧
      ((resolveDirectly "host" .none none).run DirectScript.respond []).exchanges = [] := by
  have hdelivers : Delivers ResolverScript.respond mixedScript
      (Call.queriesFor 0 "host" 3000 (QueryKind.passes none)) mixedDeliveries :=
    ⟨rfl, ⟨[.release], rfl⟩, rfl, ⟨[.release], rfl⟩, trivial⟩
  have hagrees := resolve_eq_resolveDirectly ResolverScript.respond mixedScript DirectScript.respond
    [combined mixedDeliveries] [] "host" (.bool true) 3000 none
  refine ⟨⟨hdelivers, hagrees.1 _ hdelivers rfl⟩, ?_, by decide, ?_⟩
  · have hhistories : List.Forall₂ (fun (delivery : Delivery) events => delivery.events <+: events)
        mixedDeliveries (histories mixedMoves) :=
      .cons ⟨[.release], rfl⟩ (.cons ⟨[], rfl⟩ .nil)
    have hrun : (Call.start "host" (.bool true) 3000 (QueryKind.passes none)).replay? mixedMoves =
        some (_, _) := rfl
    have hanswer :=
      hagrees.2.1 mixedDeliveries mixedMoves _ _ _ (by decide) hrun rfl rfl hhistories rfl
    exact ⟨_, _, hrun, congrArg Point.returned hanswer⟩
  · have hrefuses := resolve_eq_resolveDirectly ResolverScript.respond mixedScript
      DirectScript.respond [] [] "host" .none 3000 none
    exact (hrefuses.2.2 (by decide)).2.2

end

end ScriptSocket.Resolution
