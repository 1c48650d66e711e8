import ScriptSocket.Proofs.Resolution.Interleaving

/-!
# Queries consulted one after the other

`consult` is the caller's side of a resolution with nothing but the caller in it: it asks a query,
hears what the callback of that query is told, and asks the next.  `Board.run_resolve_eq_consult`
says that resolving on a board comes to the same, whatever the board holds and whatever the resolver
does to other callbacks; so an answer is told from the exchanges with the resolver alone.  With the
runs of moves it makes the main statement, `resolve_refines_inTurn`.
-/

namespace ScriptSocket.Resolution

/-- The queries of one resolution from a pass on, with the failure of the pass before it and the
entries found so far.  There is no answer if a query is never ended. -/
def consult (call : Nat) (host : String) (port : Value) (timeout : Nat) :
    List QueryKind → Nat → Option Status → List Entry →
      Dialogue Resolver (Option (Except Fault (List Entry)))
  | [], _, failure, entries => .done (some (Call.answer failure entries))
  | kind :: kinds, pass, _, entries =>
    .ask ⟨⟨call, pass⟩, host, kind, timeout⟩ fun reaction =>
      match reaction.outcome with
      | .error errno => .done (some (.error (.system errno)))
      | .ok () =>
        let events := reaction.told ⟨call, pass⟩
        if Ended events then
          consult call host port timeout kinds (pass + 1) (failureOf events)
            (entries ++ entriesOf port events)
        else .done none

/-! ## What a callback has heard -/

/-- A callback that was told the given events, and the tally of its resolution, which had the given
entries and no permit before. -/
structure Heard (port : Value) (entries : List Entry) (events : List Event)
    (callback : Callback) (t : Tally) : Prop where
  finished_iff : callback.finished = true ↔ Ended events
  held : callback.held = false → Ended events
  entries_eq : t.entries = entries ++ entriesOf port events
  permits : t.permits.permits.toNat = if Ended events then 1 else 0
  status : ∀ status, verdict? events = some status → t.status = status.normalized

section

variable {port : Value} {entries : List Entry} {events : List Event} {callback : Callback}
  {t : Tally}

theorem not_ended_nil : ¬ Ended [] := by
  simp [Ended, verdict?]

theorem Heard.fresh
    (kind : QueryKind) (hentries : t.entries = entries) (hpermits : t.permits.permits.toNat = 0) :
    Heard port entries [] (.fresh kind) t := by
  constructor
  · simp [Callback.fresh, not_ended_nil]
  · simp [Callback.fresh]
  · simp [hentries, entriesOf, found]
  · simp [hpermits, not_ended_nil]
  · simp [verdict?]

theorem Heard.deaf
    (hheard : Heard port entries events callback t) (hended : Ended events)
    (later : List Event) : Heard port entries (events ++ later) callback t := by
  have hstill : Ended (events ++ later) := ended_append_iff.mpr (Or.inl hended)
  constructor
  · rw [hheard.finished_iff]
    exact iff_of_true hended hstill
  · intro _
    exact hstill
  · rw [entriesOf_append_of_ended port hended]
    exact hheard.entries_eq
  · rw [hheard.permits, if_pos hended, if_pos hstill]
  · rw [verdict?_append_of_ended hended]
    exact hheard.status

theorem Heard.handle
    (hheard : Heard port entries events callback t) (event : Event)
    (hheld : callback.held = true) :
    Heard port entries (events ++ [event]) (callback.handle port t event).callback
      (callback.handle port t event).tally := by
  have hfinished : (callback.handle port t event).callback.finished = true ↔
      Ended (events ++ [event]) := by
    rw [Callback.finished_handle_iff, ended_append_iff, ended_singleton_iff,
      hheard.finished_iff]
  have hreleased : (callback.handle port t event).callback.held = false →
      Ended (events ++ [event]) := by
    rw [← Bool.not_eq_true, Callback.held_handle_iff]
    intro hreleased
    have hrelease : event = .release := by simpa [hheld] using hreleased
    rw [hrelease]
    exact ended_append_iff.mpr (Or.inr (ended_singleton_iff.mpr trivial))
  by_cases hended : Ended events
  · -- the callback had finished before, and this event is not heard any more
    have hdeaf := hheard.deaf hended [event]
    rw [Callback.handle_tally_of_finished (hheard.finished_iff.mpr hended)]
    exact ⟨hfinished, hreleased, hdeaf.entries_eq, hdeaf.permits, hdeaf.status⟩
  · have hopen : callback.finished = false := by
      rw [Bool.eq_false_iff]
      exact mt hheard.finished_iff.mp hended
    refine ⟨hfinished, hreleased, ?_, ?_, ?_⟩
    · rw [Callback.entries_handle_of_not_finished hopen, hheard.entries_eq,
        entriesOf_append_of_not_ended port hended, List.append_assoc]
    · have hnone : t.permits.permits.toNat = 0 := by rw [hheard.permits, if_neg hended]
      by_cases hends : event.Ends
      · rw [Callback.permits_handle_of_ends hopen hends, Semaphore.toNat_give_of_lt_one hnone,
          if_pos (ended_append_iff.mpr (Or.inr (ended_singleton_iff.mpr hends)))]
      · have hstill : ¬ Ended (events ++ [event]) := by
          rw [ended_append_iff, ended_singleton_iff]
          exact not_or.mpr ⟨hended, hends⟩
        rw [Callback.permits_handle_of_not_ends callback hends, hnone, if_neg hstill]
    · intro status hverdict
      rw [verdict?_append_of_not_ended hended] at hverdict
      exact Callback.status_handle_of_not_finished hopen port t hverdict

end

namespace Call

/-- A resolution between two queries: all callbacks have finished and no permit is left. -/
structure Quiet (host : String) (port : Value) (timeout pass : Nat) (entries : List Entry)
    (c : Call) : Prop where
  host_eq : c.host = host
  port_eq : c.port = port
  timeout_eq : c.timeout = timeout
  length_eq : c.callbacks.length = pass
  finished : ∀ callback ∈ c.callbacks, callback.finished = true
  entries_eq : c.tally.entries = entries
  permits : c.tally.permits.permits.toNat = 0

/-- A resolution in the course of a query whose callback was told the given events. -/
structure Told (host : String) (port : Value) (timeout pass : Nat) (entries : List Entry)
    (events : List Event) (c : Call) : Prop where
  host_eq : c.host = host
  port_eq : c.port = port
  timeout_eq : c.timeout = timeout
  callbacks : ∃ earlier callback, c.callbacks = earlier ++ [callback] ∧ earlier.length = pass ∧
    (∀ other ∈ earlier, other.finished = true) ∧ Heard port entries events callback c.tally

variable {host : String} {port : Value} {timeout pass : Nat} {entries : List Entry}
  {events : List Event} {c d : Call}

theorem Quiet.issued
    (hquiet : c.Quiet host port timeout pass entries) (kind : QueryKind) (point : Point) :
    ({ c with point := point, callbacks := c.callbacks ++ [.fresh kind] } : Call).Told
      host port timeout pass entries [] :=
  ⟨hquiet.host_eq, hquiet.port_eq, hquiet.timeout_eq, c.callbacks, .fresh kind, rfl,
    hquiet.length_eq, hquiet.finished, Heard.fresh kind hquiet.entries_eq hquiet.permits⟩

theorem Told.moved
    (htold : c.Told host port timeout pass entries events) (point : Point) :
    ({ c with point := point } : Call).Told host port timeout pass entries events :=
  ⟨htold.host_eq, htold.port_eq, htold.timeout_eq, htold.callbacks⟩

theorem Told.length_eq (htold : c.Told host port timeout pass entries events) :
    c.callbacks.length = pass + 1 := by
  obtain ⟨earlier, callback, hcallbacks, hlength, -, -⟩ := htold.callbacks
  rw [hcallbacks, List.length_append, hlength, List.length_singleton]

theorem Told.afterForeign
    (htold : c.Told host port timeout pass entries events) {other : Nat} {event : Event}
    (hstep : Step c (.callback other event) d) (hother : other ≠ pass) :
    d.Told host port timeout pass entries events := by
  obtain ⟨earlier, current, hcallbacks, hlength, hearlier, hheard⟩ := htold.callbacks
  cases hstep with
  | @callback _ _ callback hcallback hheld =>
      rw [hcallbacks] at hcallback
      have hlt : other < earlier.length := by
        obtain ⟨hlt, -⟩ := List.getElem?_eq_some_iff.mp hcallback
        rw [List.length_append, List.length_singleton] at hlt
        omega
      rw [List.getElem?_append_left hlt] at hcallback
      have hfinished := hearlier callback (List.mem_of_getElem? hcallback)
      refine ⟨htold.host_eq, htold.port_eq, htold.timeout_eq,
        earlier.set other (callback.handle c.port c.tally event).callback, current, ?_, ?_, ?_, ?_⟩
      · simp only [hcallbacks]
        exact List.set_append_left _ _ hlt
      · rw [List.length_set, hlength]
      · intro target htarget
        rcases List.mem_or_eq_of_mem_set htarget with hold | rfl
        · exact hearlier target hold
        · exact Callback.finished_handle hfinished c.port c.tally event
      · rw [Callback.handle_tally_of_finished hfinished]
        exact hheard

theorem Told.afterOwn
    (htold : c.Told host port timeout pass entries events) {event : Event}
    (hstep : Step c (.callback pass event) d) :
    d.Told host port timeout pass entries (events ++ [event]) := by
  obtain ⟨earlier, current, hcallbacks, hlength, hearlier, hheard⟩ := htold.callbacks
  cases hstep with
  | @callback _ _ callback hcallback hheld =>
      rw [hcallbacks, ← hlength, List.getElem?_concat_length] at hcallback
      cases hcallback
      refine ⟨htold.host_eq, htold.port_eq, htold.timeout_eq, earlier,
        (current.handle c.port c.tally event).callback, ?_, hlength, hearlier, ?_⟩
      · simp only [hcallbacks]
        rw [List.set_append_right _ _ (by omega), hlength, Nat.sub_self]
        rfl
      · rw [htold.port_eq]
        exact hheard.handle event hheld

theorem Told.unheard
    (htold : c.Told host port timeout pass entries events) {event : Event}
    (hstep : c.step? (.callback pass event) = none) :
    c.Told host port timeout pass entries (events ++ [event]) := by
  obtain ⟨earlier, current, hcallbacks, hlength, hearlier, hheard⟩ := htold.callbacks
  -- the resolver has let the callback go, so its query has ended and the event is not missed
  have hreleased : current.held = false := by
    simp only [step?, hcallbacks, ← hlength, List.getElem?_concat_length] at hstep
    split at hstep
    · cases hstep
    · rename_i hheld
      simpa using hheld
  exact ⟨htold.host_eq, htold.port_eq, htold.timeout_eq, earlier, current, hcallbacks, hlength,
    hearlier, hheard.deaf (hheard.held hreleased) [event]⟩

/-- A caller whose query has ended takes the permit of that query, and no other is left. -/
theorem Told.wake
    (htold : c.Told host port timeout pass entries events) (hended : Ended events)
    {kinds : List QueryKind} (hpoint : c.point = .waiting kinds) :
    ∃ d, c.advance? = some (d, []) ∧ d.point = .woken kinds ∧
      d.Quiet host port timeout (pass + 1) (entries ++ entriesOf port events) ∧
      ∀ status, verdict? events = some status → d.tally.status = status.normalized := by
  obtain ⟨earlier, current, hcallbacks, hlength, hearlier, hheard⟩ := htold.callbacks
  have hone : c.tally.permits.permits.toNat = 1 := by rw [hheard.permits, if_pos hended]
  have htake : c.tally.permits.take? = some .empty := Semaphore.take?_eq_some_iff.mpr hone
  refine ⟨{ c with point := .woken kinds, tally := { c.tally with permits := .empty } }, ?_, rfl,
    ?_, hheard.status⟩
  · simp [advance?, next?, step?, hpoint, htake]
  · refine ⟨htold.host_eq, htold.port_eq, htold.timeout_eq, htold.length_eq, ?_,
      hheard.entries_eq, rfl⟩
    intro callback hcallback
    rw [hcallbacks, List.mem_append, List.mem_singleton] at hcallback
    rcases hcallback with hold | rfl
    · exact hearlier callback hold
    · exact hheard.finished_iff.mpr hended

theorem Quiet.readStatus
    (hquiet : c.Quiet host port timeout pass entries) {kinds : List QueryKind}
    (hpoint : c.point = .woken kinds) (hended : Ended events)
    (hstatus : ∀ status, verdict? events = some status → c.tally.status = status.normalized) :
    ∃ d, c.advance? = some (d, []) ∧ d.point = .ready (failureOf events) kinds ∧
      d.Quiet host port timeout pass entries := by
  obtain ⟨status, hverdict⟩ := ended_iff_exists.mp hended
  refine ⟨{ c with point := .ready (failureOf events) kinds }, ?_, rfl,
    hquiet.host_eq, hquiet.port_eq, hquiet.timeout_eq, hquiet.length_eq, hquiet.finished,
    hquiet.entries_eq, hquiet.permits⟩
  simp only [advance?, next?, step?, hpoint, Option.bind_some, hstatus status hverdict,
    failureOf_of_verdict? hverdict]

theorem Told.stuck
    (htold : c.Told host port timeout pass entries events) (hended : ¬ Ended events)
    {kinds : List QueryKind} (hpoint : c.point = .waiting kinds) : c.advance? = none := by
  obtain ⟨earlier, current, hcallbacks, hlength, hearlier, hheard⟩ := htold.callbacks
  have hnone : c.tally.permits.permits.toNat = 0 := by rw [hheard.permits, if_neg hended]
  have htake : c.tally.permits.take? = none :=
    Semaphore.take?_eq_none_iff.mpr (UInt32.toNat_inj.mp hnone)
  simp [advance?, next?, step?, hpoint, htake]

end Call

namespace Board

open Call

variable {host : String} {port : Value} {timeout pass : Nat} {entries : List Entry}
  {events : List Event} {board : Board} {call : Nat} {c : Call}

theorem told_event
    (hc : board[call]? = some c) (htold : c.Told host port timeout pass entries events)
    (ticket : Ticket) (event : Event) :
    ∃ d, (board.event ticket event).1[call]? = some d ∧ d.point = c.point ∧
      d.Told host port timeout pass entries
        (events ++ toldOn ⟨call, pass⟩ [(ticket, event)]) := by
  obtain ⟨other, place⟩ := ticket
  unfold Board.event
  by_cases hcall : other = call
  · subst hcall
    cases hstep : c.step? (.callback place event) with
    | none =>
        have hnone : board.step? other (.callback place event) = none := by
          simp [Board.step?, hc, hstep]
        refine ⟨c, by simpa [hnone] using hc, rfl, ?_⟩
        by_cases hplace : place = pass
        · subst hplace
          simpa [toldOn] using htold.unheard hstep
        · simpa [toldOn, hplace] using htold
    | some stepped =>
        obtain ⟨d, notices⟩ := stepped
        have hsome : board.step? other (.callback place event) =
            some (board.set other d, notices) := by
          simp [Board.step?, hc, hstep]
        obtain ⟨hlt, -⟩ := List.getElem?_eq_some_iff.mp hc
        refine ⟨d, by simp [hsome, hlt], point_of_step?_callback hstep, ?_⟩
        by_cases hplace : place = pass
        · subst hplace
          simpa [toldOn] using htold.afterOwn (step_of_step? hstep)
        · simpa [toldOn, hplace] using htold.afterForeign (step_of_step? hstep) hplace
  · refine ⟨c, ?_, rfl, by simpa [toldOn, hcall] using htold⟩
    cases hstep : board.step? other (.callback place event) with
    | none => simpa using hc
    | some stepped => simpa using (step?_other hstep hcall).trans hc

theorem told_events
    (hc : board[call]? = some c) (htold : c.Told host port timeout pass entries events)
    (told : List (Ticket × Event)) :
    ∃ d, (board.events told).1[call]? = some d ∧ d.point = c.point ∧
      d.Told host port timeout pass entries (events ++ toldOn ⟨call, pass⟩ told) := by
  induction told generalizing board c events with
  | nil => exact ⟨c, hc, rfl, by simpa [toldOn] using htold⟩
  | cons first rest ih =>
      obtain ⟨ticket, event⟩ := first
      obtain ⟨d, hd, hpoint, hfirst⟩ := told_event hc htold ticket event
      obtain ⟨e, he, hsame, hrest⟩ := ih hd hfirst
      refine ⟨e, he, hsame.trans hpoint, ?_⟩
      rw [List.append_assoc, ← toldOn_append] at hrest
      exact hrest

theorem length_step?
    {next : Board} {move : Move} {notices : List Notice}
    (hstep : board.step? call move = some (next, notices)) : next.length = board.length := by
  unfold step? at hstep
  split at hstep
  · obtain ⟨stepped, -, heq⟩ := Option.map_eq_some_iff.mp hstep
    cases heq
    exact List.length_set
  · cases hstep

theorem length_event (board : Board) (ticket : Ticket) (event : Event) :
    (board.event ticket event).1.length = board.length := by
  unfold Board.event
  cases hstep : board.step? ticket.call (.callback ticket.pass event) with
  | none => rfl
  | some stepped => exact length_step? hstep

theorem length_events (board : Board) (told : List (Ticket × Event)) :
    (board.events told).1.length = board.length := by
  induction told generalizing board with
  | nil => rfl
  | cons first rest ih => exact (ih _).trans (length_event board first.1 first.2)

theorem length_react (board : Board) (call : Nat) (reaction : Reaction) :
    (board.react call reaction).1.length = board.length := by
  unfold react
  rw [length_events]
  cases hstep : (board.events reaction.before).1.step? call (.respond reaction.outcome) with
  | none => exact length_events board reaction.before
  | some stepped => exact (length_step? hstep).trans (length_events board reaction.before)

/-- Where a reaction to its query leaves the caller. -/
def answered (kinds : List QueryKind) : Except Errno Unit → Point
  | .ok () => .waiting kinds
  | .error errno => .returned (.error (.system errno))

theorem told_react
    (hc : board[call]? = some c) (htold : c.Told host port timeout pass entries events)
    {kind : QueryKind} {kinds : List QueryKind} (hpoint : c.point = .issuing kind kinds)
    (reaction : Reaction) :
    ∃ d, (board.react call reaction).1[call]? = some d ∧
      d.point = answered kinds reaction.outcome ∧
      d.Told host port timeout pass entries (events ++ reaction.told ⟨call, pass⟩) := by
  obtain ⟨b, hb, hasked, hbefore⟩ := told_events hc htold reaction.before
  rw [hpoint] at hasked
  have hstep : b.step? (.respond reaction.outcome) =
      some ({ b with point := answered kinds reaction.outcome }, []) := by
    cases houtcome : reaction.outcome with
    | ok value => simp [Call.step?, hasked, answered]
    | error errno => simp [Call.step?, hasked, answered]
  have hanswered : (board.events reaction.before).1.step? call (.respond reaction.outcome) =
      some ((board.events reaction.before).1.set call
        { b with point := answered kinds reaction.outcome }, []) := by
    simp [Board.step?, hb, hstep]
  obtain ⟨hlt, -⟩ := List.getElem?_eq_some_iff.mp hb
  obtain ⟨d, hd, hsame, hafter⟩ :=
    told_events (List.getElem?_set_self hlt) (hbefore.moved (answered kinds reaction.outcome))
      reaction.after
  refine ⟨d, ?_, hsame, ?_⟩
  · simpa only [react, hanswered, Option.getD_some] using hd
  · rw [List.append_assoc, ← toldOn_append] at hafter
    exact hafter

/-! ## The caller's own moves -/

theorem drive_advance
    {d : Call} {notices : List Notice} (hc : board[call]? = some c)
    (hquery : c.query? call = none) (hadvance : c.advance? = some (d, notices)) (moves : Nat) :
    drive call (moves + 1) board = noteAll notices (drive call moves (board.set call d)) := by
  simp only [drive, hc, hquery, hadvance]

theorem drive_stuck
    (hc : board[call]? = some c) (hquery : c.query? call = none) (hstuck : c.advance? = none)
    (moves : Nat) : drive call (moves + 1) board = .done (c.answer?, board) := by
  simp only [drive, hc, hquery, hstuck]

theorem drive_ask
    {query : Query} (hc : board[call]? = some c) (hquery : c.query? call = some query)
    (moves : Nat) :
    drive call (moves + 1) board =
      .ask query fun reaction =>
        noteAll (board.react call reaction).2
          (drive call moves (board.react call reaction).1) := by
  simp only [drive, hc, hquery]

end Board

section

open Dialogue

variable {σ : Type}

/-- The run of a resolution on a board comes to what a consultation comes to: it has the answer and
the exchanges, and it leaves the resolver in the same state. -/
structure ComesTo (driven : Run Resolver σ (Option (Except Fault (List Entry)) × Board))
    (consulted : Run Resolver σ (Option (Except Fault (List Entry)))) (calls : Nat) : Prop where
  value : driven.value.1 = consulted.value
  state : driven.state = consulted.state
  exchanges : driven.exchanges = consulted.exchanges
  length : driven.value.2.length = calls

variable {respond : Responder Resolver σ} {state : σ}
  {consulted : Run Resolver σ (Option (Except Fault (List Entry)))} {calls : Nat}

theorem ComesTo.noteAll
    {next : Dialogue Resolver (Option (Except Fault (List Entry)) × Board)}
    (hnext : ComesTo (next.run respond state) consulted calls) (notices : List Notice) :
    ComesTo ((noteAll notices next).run respond state) consulted calls := by
  rw [Board.run_noteAll]
  exact ⟨hnext.value, hnext.state, hnext.exchanges, hnext.length⟩

theorem ComesTo.ask
    {query : Query}
    {next : Reaction → Dialogue Resolver (Option (Except Fault (List Entry)) × Board)}
    {following : Reaction → Dialogue Resolver (Option (Except Fault (List Entry)))}
    (hnext : ComesTo ((next (respond query state).1).run respond (respond query state).2)
      ((following (respond query state).1).run respond (respond query state).2) calls) :
    ComesTo ((Dialogue.ask (I := Resolver) query next).run respond state)
      ((Dialogue.ask (I := Resolver) query following).run respond state) calls :=
  ⟨hnext.value, hnext.state, congrArg (_ :: ·) hnext.exchanges, hnext.length⟩

end

namespace Board

open Call Dialogue

variable {σ : Type} {respond : Responder Resolver σ} {host : String} {port : Value}
  {timeout pass : Nat} {entries : List Entry} {events : List Event} {call : Nat} {c : Call}

theorem comesTo_of_advance
    {board : Board} {state : σ} {d : Call} {notices : List Notice} {moves : Nat}
    {consulted : Run Resolver σ (Option (Except Fault (List Entry)))}
    (hc : board[call]? = some c) (hquery : c.query? call = none)
    (hadvance : c.advance? = some (d, notices))
    (hrest : ∀ next : Board, next[call]? = some d → next.length = board.length →
      ComesTo ((drive call moves next).run respond state) consulted board.length) :
    ComesTo ((drive call (moves + 1) board).run respond state) consulted board.length := by
  rw [drive_advance hc hquery hadvance]
  obtain ⟨hlt, -⟩ := List.getElem?_eq_some_iff.mp hc
  exact (hrest _ (List.getElem?_set_self hlt) List.length_set).noteAll notices

theorem comesTo_of_returned
    {board : Board} {state : σ} {answer : Except Fault (List Entry)} {moves : Nat}
    (hc : board[call]? = some c) (hpoint : c.point = .returned answer) :
    ComesTo ((drive call moves board).run respond state)
      ⟨some answer, state, [], []⟩ board.length := by
  have hanswer : c.answer? = some answer := by simp [answer?, hpoint]
  cases moves with
  | zero => exact ⟨by simp [drive, Dialogue.run, hc, hanswer], rfl, rfl, rfl⟩
  | succ moves =>
      rw [drive_stuck hc (by simp [query?, asked?, hpoint]) (by simp [advance?, next?, hpoint]),
        hanswer]
      exact ⟨rfl, rfl, rfl, rfl⟩

/-- From one query to the next a resolution on a board does what a consultation does.  The induction
is on the queries still to be made; between two of them the callbacks have all finished, and what
the resolver does to them, or to those of other resolutions, does not count. -/
theorem comesTo_consult
    (respond : Responder Resolver σ) (kinds : List QueryKind) {board : Board} (state : σ)
    {failure : Option Status} (hc : board[call]? = some c) (hpoint : c.point = .ready failure kinds)
    (hquiet : c.Quiet host port timeout pass entries) :
    ComesTo ((drive call c.distance board).run respond state)
      ((consult call host port timeout kinds pass failure entries).run respond state)
      board.length := by
  induction kinds generalizing board state failure pass entries c with
  | nil =>
      have hadvance : c.advance? = some ({ c with
          point := .returned (answer failure entries)
          tally := { c.tally with entries := [] } }, []) := by
        simp [advance?, next?, Call.step?, hpoint, hquiet.entries_eq]
      rw [distance_of_advance? hadvance]
      refine comesTo_of_advance hc (by simp [query?, asked?, hpoint]) hadvance ?_
      intro next hnext hlength
      rw [← hlength]
      exact comesTo_of_returned hnext rfl
  | cons kind kinds ih =>
      have hadvance : c.advance? = some ({ c with
          point := .issuing kind kinds
          callbacks := c.callbacks ++ [.fresh kind] }, [.queryIssued kind c.host]) := by
        simp [advance?, next?, Call.step?, hpoint]
      rw [distance_of_advance? hadvance]
      refine comesTo_of_advance hc (by simp [query?, asked?, hpoint]) hadvance ?_
      intro issued hissued hlength
      have hquery : ({ c with
          point := .issuing kind kinds
          callbacks := c.callbacks ++ [.fresh kind] } : Call).query? call =
            some ⟨⟨call, pass⟩, host, kind, timeout⟩ := by
        simp [query?, asked?, hquiet.host_eq, hquiet.timeout_eq, hquiet.length_eq]
      change ComesTo ((drive call (4 * kinds.length + 3 + 1) issued).run respond state) _ _
      rw [drive_ask hissued hquery, consult]
      refine ComesTo.ask (ComesTo.noteAll ?_ _)
      -- from here on the resolver has reacted to the query
      generalize respond ⟨⟨call, pass⟩, host, kind, timeout⟩ state = replied
      obtain ⟨reaction, after⟩ := replied
      obtain ⟨d, hd, hplace, htold⟩ :=
        told_react hissued (hquiet.issued kind (.issuing kind kinds)) rfl reaction
      have hsize := length_react issued call reaction
      rw [List.nil_append] at htold
      rw [← hlength, ← hsize]
      cases houtcome : reaction.outcome with
      | error errno =>
          rw [houtcome] at hplace
          simp only [Dialogue.run]
          exact comesTo_of_returned hd hplace
      | ok taken =>
          rw [houtcome] at hplace
          have hnone : d.query? call = none := by simp [query?, asked?, hplace, answered]
          by_cases hended : Ended (reaction.told ⟨call, pass⟩)
          · simp only [if_pos hended]
            obtain ⟨woken, hwake, hwoken, hserved, hstatus⟩ := htold.wake hended hplace
            refine comesTo_of_advance hd hnone hwake ?_
            intro second hsecond hsame
            obtain ⟨ready, hread, hready, hnext⟩ := hserved.readStatus hwoken hended hstatus
            rw [← hsame]
            refine comesTo_of_advance hsecond (by simp [query?, asked?, hwoken]) hread ?_
            intro third hthird hkept
            rw [← hkept]
            have hdistance : ready.distance = 4 * kinds.length + 1 := by
              simp [distance, hready]
            rw [← hdistance]
            exact ih after hthird hready hnext
          · simp only [if_neg hended]
            rw [drive_stuck hd hnone (htold.stuck hended hplace)]
            exact ⟨by simp [Dialogue.run, answer?, hplace, answered], rfl, rfl, rfl⟩

/-- Resolving on a board asks, hears and answers as a consultation does, whatever the board holds;
and the board has one resolution more. -/
theorem run_resolve_eq_consult
    {number : Int64} (hport : port.integer = .ok number) (respond : Responder Resolver σ)
    (board : Board) (host : String) (timeout : Nat) (family : Option Family) (state : σ) :
    ComesTo ((board.resolve host port timeout family).run respond state)
      ((consult board.length host port timeout (QueryKind.passes family) 0 none []).run respond
        state)
      (board.length + 1) := by
  have hstart : (board ++ [start host port timeout (QueryKind.passes family)])[board.length]? =
      some (start host port timeout (QueryKind.passes family)) :=
    List.getElem?_concat_length
  have hquiet : (start host port timeout (QueryKind.passes family)).Quiet host port timeout 0 [] :=
    ⟨rfl, rfl, rfl, rfl, by simp [start], rfl, rfl⟩
  have hruns := comesTo_consult respond (QueryKind.passes family) state hstart rfl
    hquiet
  rw [List.length_append] at hruns
  simp only [resolve, hport]
  exact hruns

end Board

/-! ## What an answer holds -/

/-- The addresses that the resolver reported to the queries of some exchanges, each before the end
of its query. -/
def records (exchanges : List (Exchange Resolver)) : List Endpoint :=
  exchanges.flatMap fun exchange =>
    found (Reaction.told exchange.reply exchange.request.ticket)

theorem entries_of_consult
    {σ : Type} {respond : Responder Resolver σ} {call : Nat} {host : String} {port : Value}
    {timeout : Nat} (kinds : List QueryKind) {pass : Nat} {failure : Option Status}
    {entries answered : List Entry} {state : σ}
    (hanswer : ((consult call host port timeout kinds pass failure entries).run respond
      state).value = some (.ok answered)) :
    answered = entries ++
      (records ((consult call host port timeout kinds pass failure entries).run respond
        state).exchanges).map (.ofEndpoint · port) := by
  induction kinds generalizing pass failure entries state with
  | nil =>
      simp only [consult, Dialogue.run, Option.some.injEq, Call.answer] at hanswer
      have hentries : entries = answered := by
        split at hanswer
        · exact Except.ok.inj hanswer
        · split at hanswer
          · cases hanswer
          · exact Except.ok.inj hanswer
      simp [consult, Dialogue.run, records, hentries]
  | cons kind kinds ih =>
      simp only [consult, Dialogue.run] at hanswer ⊢
      generalize respond ⟨⟨call, pass⟩, host, kind, timeout⟩ state = replied at hanswer ⊢
      obtain ⟨reaction, next⟩ := replied
      cases houtcome : reaction.outcome with
      | error errno => simp [houtcome, Dialogue.run] at hanswer
      | ok taken =>
          simp only [houtcome] at hanswer ⊢
          by_cases hended : Ended (reaction.told ⟨call, pass⟩)
          · simp only [if_pos hended] at hanswer ⊢
            rw [ih hanswer, List.append_assoc]
            congr 1
            simp [records, entriesOf]
          · simp [if_neg hended, Dialogue.run] at hanswer

/-- The entries that a resolution answers with are those of the addresses which the resolver
reported to its own queries. -/
theorem Board.entries_of_resolve
    {σ : Type} {respond : Responder Resolver σ} {board : Board} {host : String} {port : Value}
    {timeout : Nat} {family : Option Family} {state : σ} {answered : List Entry}
    (hanswer : ((board.resolve host port timeout family).run respond state).value.1 =
      some (.ok answered)) :
    port.IsInteger ∧
      answered = (records ((board.resolve host port timeout family).run respond
        state).exchanges).map (.ofEndpoint · port) := by
  cases hport : port.integer with
  | error fault => simp [resolve, hport, Dialogue.run] at hanswer
  | ok number =>
      have hruns := run_resolve_eq_consult hport respond board host timeout family state
      rw [hruns.value] at hanswer
      rw [hruns.exchanges]
      exact ⟨Value.exists_integer_iff.mp ⟨number, hport⟩, entries_of_consult _ hanswer⟩

/-! ## Runs and consultations -/

open Call

/-- In whatever order the caller and the resolver move, with whatever callbacks the resolver uses,
the queries are the first of those the request calls for, each made after all before it have ended;
a refused query is the answer; and without a refusal the answer is that of the queries made one
after the other, from what each callback was told before its query ended.  What is run for a
request is one of these runs, with the resolver's refusals, and on each callback with what the
reactions tell it from its query to its release; it answers, unless the caller waits without a
permit, and it comes to what the queries consulted one after the other come to. -/
theorem resolve_refines_inTurn
    {port : Value} (hport : port.IsInteger)
    (host : String) (timeout : Nat) (family : Option Family) :
    (∀ moves c notices,
      (start host port timeout (QueryKind.passes family)).replay? moves = some (c, notices) →
      (∀ call, (start host port timeout (QueryKind.passes family)).queries call moves <+:
        queriesFor call host timeout (QueryKind.passes family)) ∧
      (∀ before after pass, moves = before ++ .issue :: after → pass < issues before →
        Ended (eventsOn pass before)) ∧
      (∀ answer, c.point = .returned answer →
        (∀ errno ∈ refusals moves, answer = .error (.system errno)) ∧
        (refusals moves = [] →
          issues moves = (QueryKind.passes family).length ∧
            answer = answerInTurn port (histories moves)))) ∧
    (∀ (σ : Type) (respond : Responder Resolver σ) (state : σ) (board : Board),
      let resolved := (board.resolve host port timeout family).run respond state
      (∃ moves c notices,
        (start host port timeout (QueryKind.passes family)).replay? moves = some (c, notices) ∧
        resolved.value.2[board.length]? = some c ∧
        resolved.value.1 = c.answer? ∧
        resolved.exchanges.map (·.request) =
          (start host port timeout (QueryKind.passes family)).queries board.length moves ∧
        refusals moves = refusalsIn resolved.exchanges ∧
        (∀ pass, eventsOn pass moves = heardOn ⟨board.length, pass⟩ resolved.exchanges) ∧
        (Point.IsReturned c.point ∨
          ∃ rest, c.point = .waiting rest ∧ c.tally.permits.take? = none)) ∧
      ComesTo resolved
        ((consult board.length host port timeout (QueryKind.passes family) 0 none []).run respond
          state)
        (board.length + 1)) := by
  constructor
  · intro moves c notices hrun
    refine ⟨queries_first hrun, ?_, ?_⟩
    · intro before after pass hsplit hpass
      rw [hsplit] at hrun
      exact ended_before_issue hrun hpass
    · intro answer hreturned
      exact answer_of_replay hrun hreturned
  · intro σ respond state board resolved
    obtain ⟨number, hnumber⟩ := Value.exists_integer_iff.mpr hport
    exact ⟨Board.run_resolve respond state board host hport timeout family,
      Board.run_resolve_eq_consult hnumber respond board host timeout family state⟩

/-- The second query's address comes while the first one's callback is called once more: the late
address is left out. -/
theorem resolve_refines_inTurn_late_address :
    Value.IsInteger (.bool true) ∧
    ∃ c notices answer,
      (start "host" (.bool true) 3000 (QueryKind.passes none)).replay?
          [.issue, .respond (.ok ()), .callback 0 (.report .ok (some (.v4 ⟨10, 0, 0, 1⟩ 0))),
            .callback 0 (.report .failed none), .wake, .readStatus, .issue,
            .callback 0 (.report .ok (some (.v4 ⟨10, 0, 0, 2⟩ 0))), .respond (.ok ()),
            .callback 1 (.report .ok (some (.v4 ⟨10, 0, 0, 3⟩ 0))), .callback 1 .release,
            .wake, .readStatus, .collect] = some (c, notices) ∧
        c.point = .returned answer ∧
        answer = .ok [.ofEndpoint (.v4 ⟨10, 0, 0, 1⟩ 0) (.bool true),
          .ofEndpoint (.v4 ⟨10, 0, 0, 3⟩ 0) (.bool true)] := by
  refine ⟨by decide, _, _, _, rfl, rfl, ?_⟩
  have hrun : (start "host" (.bool true) 3000 (QueryKind.passes none)).replay?
      [.issue, .respond (.ok ()), .callback 0 (.report .ok (some (.v4 ⟨10, 0, 0, 1⟩ 0))),
        .callback 0 (.report .failed none), .wake, .readStatus, .issue,
        .callback 0 (.report .ok (some (.v4 ⟨10, 0, 0, 2⟩ 0))), .respond (.ok ()),
        .callback 1 (.report .ok (some (.v4 ⟨10, 0, 0, 3⟩ 0))), .callback 1 .release,
        .wake, .readStatus, .collect] = some (_, _) := rfl
  have hrefines := (resolve_refines_inTurn (by decide) "host" 3000 none).1 _ _ _ hrun
  exact ((hrefines.2.2 _ rfl).2 rfl).2

end ScriptSocket.Resolution
