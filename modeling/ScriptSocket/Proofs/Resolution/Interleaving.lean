import ScriptSocket.Proofs.Resolution.Reactions

/-!
# Resolving in any order of moves

Whatever a resolver does, with whatever callbacks it holds, `Board.resolve` is one of the runs of
`Call.replay?`: the caller's moves with the resolver's reactions in between, as far as the callbacks
hear them.  All those runs ask the same queries, in the same order, and give the answer of queries
made one after the other.
-/

namespace ScriptSocket.Resolution

namespace Call

/-! ## The queries of a run -/

/-- The query that the caller puts to the resolver by a move, if it does. -/
def asking (call : Nat) (_before : Call) (move : Move) (after : Call) : List Query :=
  if move.isIssue then (after.query? call).toList else []

/-- The queries that the resolver gets in the course of a run. -/
def queries (call : Nat) (c : Call) (moves : List Move) : List Query :=
  c.observe (asking call) moves

/-- The queries that are made for the given kinds of records, in order. -/
def queriesFor (call : Nat) (host : String) (timeout : Nat) (kinds : List QueryKind) :
    List Query :=
  kinds.mapIdx fun pass kind => ⟨⟨call, pass⟩, host, kind, timeout⟩

theorem asking_of_not_issue
    {move : Move} (hissue : move.isIssue = false) (call : Nat) (c d : Call) :
    asking call c move d = [] := by
  simp [asking, hissue]

theorem queries_of_replay
    {host : String} {port : Value} {timeout : Nat} {passes : List QueryKind}
    {moves : List Move} {c : Call} {notices : List Notice}
    (hrun : (start host port timeout passes).replay? moves = some (c, notices))
    (call : Nat) :
    (start host port timeout passes).queries call moves =
      queriesFor call host timeout (c.callbacks.map (·.kind)) := by
  refine replay?_induction
    (P := fun moves c => (start host port timeout passes).queries call moves =
      queriesFor call host timeout (c.callbacks.map (·.kind))) rfl ?_ hrun
  intro moves c first move d second hfirst hstep hqueries
  have haccounts := accounts_of_replay hfirst
  unfold queries at hqueries ⊢
  rw [observe_append _ hfirst, observe_singleton _ hstep, hqueries]
  have hquiet : move.isIssue = false → d.callbacks.map (·.kind) = c.callbacks.map (·.kind) →
      queriesFor call host timeout (c.callbacks.map (·.kind)) ++ asking call c move d =
        queriesFor call host timeout (d.callbacks.map (·.kind)) := by
    intro hissue hkinds
    rw [asking_of_not_issue hissue, List.append_nil, hkinds]
  cases step_of_step? hstep with
  | @issue failure kind later hpoint =>
      simp [asking, Move.isIssue, query?, asked?, queriesFor, Callback.fresh,
        haccounts.host_eq, haccounts.timeout_eq]
  | accept hpoint => exact hquiet rfl rfl
  | refuse hpoint => exact hquiet rfl rfl
  | wake hpoint htake => exact hquiet rfl rfl
  | readStatus hpoint => exact hquiet rfl rfl
  | collect hpoint => exact hquiet rfl rfl
  | callback hcallback hheld => exact hquiet rfl (map_kind_set_handle hcallback _)

/-- The queries asked are the first of those that the request calls for. -/
theorem queries_first
    {host : String} {port : Value} {timeout : Nat} {passes : List QueryKind}
    {moves : List Move} {c : Call} {notices : List Notice}
    (hrun : (start host port timeout passes).replay? moves = some (c, notices))
    (call : Nat) :
    (start host port timeout passes).queries call moves <+:
      queriesFor call host timeout passes := by
  obtain ⟨rest, hkinds, -⟩ := (accounts_of_replay hrun).kinds
  rw [queries_of_replay hrun, ← hkinds]
  unfold queriesFor
  rw [List.mapIdx_append]
  exact List.prefix_append _ _

/-! ## From one state to another -/

/-- A run leads from one state of a resolution to another.  It asks the given queries, hears the
given refusals, and has the given events on the callback of each query. -/
def Leads (call : Nat) (c d : Call) (asked : List Query) (refused : List Errno)
    (events : Nat → List Event) : Prop :=
  ∃ moves notices, c.replay? moves = some (d, notices) ∧ c.queries call moves = asked ∧
    refusals moves = refused ∧ ∀ pass, eventsOn pass moves = events pass

theorem Leads.refl (call : Nat) (c : Call) : Leads call c c [] [] fun _ => [] :=
  ⟨[], [], rfl, rfl, rfl, fun _ => rfl⟩

theorem Leads.of_step
    {c d : Call} {move : Move} {notices : List Notice}
    (hstep : c.step? move = some (d, notices)) (call : Nat) :
    Leads call c d (asking call c move d) (refusals [move]) fun pass => eventsOn pass [move] := by
  refine ⟨[move], notices, ?_, observe_singleton _ hstep, rfl, fun _ => rfl⟩
  simp [replay?, hstep]

theorem Leads.trans
    {call : Nat} {c d e : Call} {first second : List Query} {refused others : List Errno}
    {events later : Nat → List Event} (hfirst : Leads call c d first refused events)
    (hsecond : Leads call d e second others later) :
    Leads call c e (first ++ second) (refused ++ others) fun pass => events pass ++ later pass := by
  obtain ⟨moves, notices, hmoves, hasked, hrefused, hevents⟩ := hfirst
  obtain ⟨more, said, hmore, hthen, hothers, hlater⟩ := hsecond
  refine ⟨moves ++ more, notices ++ said, ?_, ?_, ?_, ?_⟩
  · rw [replay?_append, hmoves, Option.bind_some, hmore]
    rfl
  · unfold queries at hasked hthen ⊢
    rw [observe_append _ hmoves, hasked, hthen]
  · rw [refusals_append, hrefused, hothers]
  · intro pass
    rw [eventsOn_append, hevents, hlater]

/-- The resolver's events lead to a state in which the caller stands where it stood, and the
callbacks have heard what they were told. -/
structure Drifts (call : Nat) (told : List (Ticket × Event)) (c d : Call) : Prop where
  leads : Leads call c d [] [] fun pass => c.heard pass (toldOn ⟨call, pass⟩ told)
  heeds : Heeds call told c d
  point_eq : d.point = c.point

theorem Drifts.refl (call : Nat) (c : Call) : Drifts call [] c c := by
  refine ⟨?_, Heeds.refl call c, rfl⟩
  simpa using Leads.refl call c

theorem Drifts.trans
    {call : Nat} {told later : List (Ticket × Event)} {c d e : Call}
    (hfirst : Drifts call told c d) (hsecond : Drifts call later d e) :
    Drifts call (told ++ later) c e := by
  refine ⟨?_, hfirst.heeds.trans hsecond.heeds, hsecond.point_eq.trans hfirst.point_eq⟩
  simp only [toldOn_append, hfirst.heeds.heard_append]
  exact hfirst.leads.trans hsecond.leads

/-- An event that no callback of a resolution hears leaves it as it is. -/
theorem Drifts.unheard
    {call : Nat} {ticket : Ticket} {event : Event} {c : Call}
    (hdeaf : ticket.call = call → c.holds ticket.pass = false) :
    Drifts call [(ticket, event)] c c := by
  have hunheld : ∀ pass, c.holds pass = true → toldOn ⟨call, pass⟩ [(ticket, event)] = [] := by
    intro pass hheld
    refine toldOn_singleton_of_ne ?_ event
    rintro rfl
    rw [hdeaf rfl] at hheld
    cases hheld
  refine ⟨?_, ⟨rfl, fun pass => ?_⟩, rfl⟩
  · have hnothing : ∀ pass, c.heard pass (toldOn ⟨call, pass⟩ [(ticket, event)]) = [] := by
      intro pass
      unfold heard
      split
      · rename_i hheld
        rw [hunheld pass hheld]
        rfl
      · rfl
    simp only [hnothing]
    exact Leads.refl call c
  · constructor
    · intro hheld
      rw [hunheld pass hheld]
      exact ⟨hheld, List.not_mem_nil⟩
    · exact fun h => h.1

theorem Drifts.of_step?
    {call : Nat} {ticket : Ticket} {event : Event} {c d : Call} {notices : List Notice}
    (hstep : c.step? (.callback ticket.pass event) = some (d, notices))
    (hcall : ticket.call = call) : Drifts call [(ticket, event)] c d := by
  refine ⟨?_, Heeds.of_step? hstep hcall, point_of_step?_callback hstep⟩
  have hleads : Leads call c d [] [] fun pass => eventsOn pass [.callback ticket.pass event] :=
    Leads.of_step hstep call
  have hevents : ∀ pass, eventsOn pass [.callback ticket.pass event] =
      c.heard pass (toldOn ⟨call, pass⟩ [(ticket, event)]) := by
    intro pass
    by_cases heq : ticket.pass = pass
    · have hticket : ticket = ⟨call, pass⟩ := by rw [← hcall, ← heq]
      have hheld := holds_of_step?_callback hstep
      rw [hticket] at hheld ⊢
      rw [eventsOn_callback_self, toldOn_singleton_self, heard, if_pos hheld]
      cases event <;> rfl
    · have hne : ticket ≠ ⟨call, pass⟩ := fun hticket => heq (congrArg Ticket.pass hticket)
      rw [eventsOn_callback_of_ne heq, toldOn_singleton_of_ne hne, heard_nil]
  simpa only [hevents] using hleads

/-- A caller whose turn it is can always move, unless it waits for a permit. -/
theorem blocked_of_advance?_eq_none
    {c : Call} {call : Nat} (hquery : c.query? call = none) (hstuck : c.advance? = none) :
    Point.IsReturned c.point ∨
      ∃ rest, c.point = .waiting rest ∧ c.tally.permits.take? = none := by
  cases hpoint : c.point with
  | returned answer => exact Or.inl trivial
  | issuing kind passes => simp [query?, asked?, hpoint] at hquery
  | ready failure passes =>
      cases passes <;> simp [advance?, next?, step?, hpoint] at hstuck
  | woken passes => simp [advance?, next?, step?, hpoint] at hstuck
  | waiting passes =>
      simp only [advance?, next?, hpoint, Option.bind_some, step?,
        Option.map_eq_none_iff] at hstuck
      exact Or.inr ⟨passes, rfl, hstuck⟩

theorem next?_ne_callback (c : Call) (pass : Nat) (event : Event) :
    c.next? ≠ some (.callback pass event) := by
  unfold next?
  split <;> nofun

theorem next?_ne_respond (c : Call) (outcome : Except Errno Unit) :
    c.next? ≠ some (.respond outcome) := by
  unfold next?
  split <;> nofun

/-- The caller's own move asks the query that it then waits for the resolver to answer. -/
theorem leads_of_advance?
    {c d : Call} {notices : List Notice} (hadvance : c.advance? = some (d, notices))
    (call : Nat) : Leads call c d (d.query? call).toList [] fun _ => [] := by
  obtain ⟨move, hmove, hstep⟩ := Option.bind_eq_some_iff.mp hadvance
  have hleads := Leads.of_step hstep call
  cases step_of_step? hstep with
  | issue hpoint => exact hleads
  | accept hpoint => exact absurd hmove (next?_ne_respond c _)
  | refuse hpoint => exact absurd hmove (next?_ne_respond c _)
  | wake hpoint htake => exact hleads
  | readStatus hpoint => exact hleads
  | collect hpoint => exact hleads
  | callback hcallback hheld => exact absurd hmove (next?_ne_callback c _ _)

/-- By its own move the caller issues a query, with a callback of its own, or leaves the callbacks
as they are. -/
theorem callbacks_of_advance?
    {c d : Call} {notices : List Notice} (hadvance : c.advance? = some (d, notices)) (call : Nat) :
    (∃ kind query, d.query? call = some query ∧ query.ticket = ⟨call, c.callbacks.length⟩ ∧
      d.callbacks = c.callbacks ++ [.fresh kind]) ∨
      (d.query? call = none ∧ d.callbacks = c.callbacks) := by
  obtain ⟨move, hmove, hstep⟩ := Option.bind_eq_some_iff.mp hadvance
  cases step_of_step? hstep with
  | @issue failure kind passes hpoint =>
      refine Or.inl ⟨kind, ⟨⟨call, c.callbacks.length⟩, c.host, kind, c.timeout⟩, ?_, rfl, rfl⟩
      simp [query?, asked?]
  | accept hpoint => exact absurd hmove (next?_ne_respond c _)
  | refuse hpoint => exact absurd hmove (next?_ne_respond c _)
  | wake hpoint htake => exact Or.inr ⟨rfl, rfl⟩
  | readStatus hpoint => exact Or.inr ⟨rfl, rfl⟩
  | collect hpoint => exact Or.inr ⟨rfl, rfl⟩
  | callback hcallback hheld => exact absurd hmove (next?_ne_callback c _ _)

theorem issued_of_advance?
    {c d : Call} {notices : List Notice} (hadvance : c.advance? = some (d, notices)) {call : Nat} :
    ∀ query ∈ d.query? call, 0 < d.callbacks.length := by
  intro query hquery
  rcases callbacks_of_advance? hadvance call with ⟨kind, -, -, -, hcallbacks⟩ | ⟨hnone, -⟩
  · simp [hcallbacks]
  · cases hnone.symm.trans hquery

/-- The caller's own move leaves the callbacks to hear what they had still to hear. -/
theorem toHear_of_advance?
    {c d : Call} {notices : List Notice} (hadvance : c.advance? = some (d, notices)) {call : Nat}
    {exchanges : List (Exchange Resolver)}
    (hfirst : ∀ query ∈ d.query? call, ∀ exchange ∈ exchanges.head?, exchange.request = query)
    (pass : Nat) : d.toHear call pass exchanges = c.toHear call pass exchanges := by
  rcases callbacks_of_advance? hadvance call with
    ⟨kind, query, hquery, hticket, hcallbacks⟩ | ⟨-, hcallbacks⟩
  · refine toHear_issue hcallbacks ?_ pass
    intro exchange hexchange
    rw [hfirst query hquery exchange hexchange, hticket]
  · exact toHear_congr hcallbacks call pass exchanges

end Call

namespace Board

open Call

/-! ## One resolution among others -/

theorem step?_other
    {board next : Board} {call other : Nat} {move : Move} {notices : List Notice}
    (hstep : board.step? other move = some (next, notices)) (hne : other ≠ call) :
    next[call]? = board[call]? := by
  unfold step? at hstep
  split at hstep
  · rename_i c hc
    obtain ⟨⟨d, said⟩, hd, heq⟩ := Option.map_eq_some_iff.mp hstep
    cases heq
    exact List.getElem?_set_ne hne
  · cases hstep

theorem step?_self
    {board next : Board} {call : Nat} {move : Move} {notices : List Notice} {c : Call}
    (hc : board[call]? = some c) (hstep : board.step? call move = some (next, notices)) :
    ∃ d, next[call]? = some d ∧ c.step? move = some (d, notices) := by
  unfold step? at hstep
  rw [hc] at hstep
  obtain ⟨⟨d, said⟩, hd, heq⟩ := Option.map_eq_some_iff.mp hstep
  cases heq
  obtain ⟨hlt, -⟩ := List.getElem?_eq_some_iff.mp hc
  exact ⟨d, List.getElem?_set_self hlt, hd⟩

theorem drifts_event
    {board : Board} {call : Nat} {c : Call} (hc : board[call]? = some c)
    (ticket : Ticket) (event : Event) :
    ∃ d, (board.event ticket event).1[call]? = some d ∧ Drifts call [(ticket, event)] c d := by
  unfold Board.event
  cases hstep : board.step? ticket.call (.callback ticket.pass event) with
  | none =>
      refine ⟨c, hc, Drifts.unheard ?_⟩
      rintro rfl
      simp only [step?, hc, Option.map_eq_none_iff] at hstep
      exact step?_callback_eq_none hstep
  | some stepped =>
      obtain ⟨next, notices⟩ := stepped
      by_cases heq : ticket.call = call
      · rw [heq] at hstep
        obtain ⟨d, hd, hmove⟩ := step?_self hc hstep
        exact ⟨d, hd, Drifts.of_step? hmove heq⟩
      · exact ⟨c, (step?_other hstep heq).trans hc, Drifts.unheard fun h => absurd h heq⟩

theorem drifts_events
    {board : Board} {call : Nat} {c : Call} (hc : board[call]? = some c)
    (events : List (Ticket × Event)) :
    ∃ d, (board.events events).1[call]? = some d ∧ Drifts call events c d := by
  induction events generalizing board c with
  | nil => exact ⟨c, hc, Drifts.refl call c⟩
  | cons first rest ih =>
      obtain ⟨ticket, event⟩ := first
      obtain ⟨d, hd, hfirst⟩ := drifts_event hc ticket event
      obtain ⟨e, he, hrest⟩ := ih hd
      exact ⟨e, he, hfirst.trans hrest⟩

/-- A reaction to the query that a resolution has asked brings the caller on. -/
theorem leads_react
    {board : Board} {call : Nat} {c : Call} (hc : board[call]? = some c)
    {kind : QueryKind} {passes : List QueryKind} (hpoint : c.point = .issuing kind passes)
    (reaction : Reaction) :
    ∃ d, (board.react call reaction).1[call]? = some d ∧
      Leads call c d [] (refusals [.respond reaction.outcome])
        (fun pass => c.heard pass (reaction.told ⟨call, pass⟩)) ∧
      Heeds call (reaction.before ++ reaction.after) c d ∧
      d.query? call = none ∧ d.distance < c.distance := by
  obtain ⟨b, hb, hbefore⟩ := drifts_events hc reaction.before
  have hasked : b.point = .issuing kind passes := hbefore.point_eq.trans hpoint
  obtain ⟨d, said, hanswer, hcallbacks, hquery, hdistance⟩ :
      ∃ d said, b.step? (.respond reaction.outcome) = some (d, said) ∧
        d.callbacks = b.callbacks ∧ d.query? call = none ∧ d.distance < c.distance := by
    cases houtcome : reaction.outcome with
    | ok value =>
        refine ⟨{ b with point := .waiting passes }, [], ?_, rfl, ?_, ?_⟩
        · simp [Call.step?, hasked]
        · simp [query?, asked?]
        · simp [distance, hpoint]
    | error errno =>
        refine ⟨{ b with point := .returned (.error (.system errno)) }, [], ?_, rfl, ?_, ?_⟩
        · simp [Call.step?, hasked]
        · simp [query?, asked?]
        · simp [distance, hpoint]
  have hanswered : (board.events reaction.before).1.step? call (.respond reaction.outcome) =
      some ((board.events reaction.before).1.set call d, said) := by
    unfold Board.step?
    rw [hb]
    simp [hanswer]
  have hset : ((board.events reaction.before).1.set call d)[call]? = some d := by
    obtain ⟨hlt, -⟩ := List.getElem?_eq_some_iff.mp hb
    exact List.getElem?_set_self hlt
  obtain ⟨e, he, hafter⟩ := drifts_events hset reaction.after
  have hword : Heeds call reaction.before c d := hbefore.heeds.of_callbacks_eq hcallbacks
  refine ⟨e, ?_, ?_, hword.trans hafter.heeds, ?_, ?_⟩
  · simp only [react, hanswered, Option.getD_some]
    exact he
  · have hmove : Leads call b d [] (refusals [.respond reaction.outcome]) fun _ => [] :=
      Leads.of_step hanswer call
    have hleads := (hbefore.leads.trans hmove).trans hafter.leads
    simpa only [List.append_nil, List.nil_append, Reaction.told, toldOn_append,
      hword.heard_append] using hleads
  · have hsame : e.asked? = d.asked? := by
      unfold asked?
      rw [hafter.point_eq]
    unfold query? at hquery ⊢
    rw [hsame]
    simpa using hquery
  · have hsame : e.distance = d.distance := by
      unfold distance
      rw [hafter.point_eq]
    omega

theorem run_noteAll
    {I : Interface} {σ α : Type} (respond : Responder I σ) (notices : List Notice)
    (next : Dialogue I α) (state : σ) :
    (noteAll notices next).run respond state =
      { next.run respond state with
        notices := notices ++ (next.run respond state).notices } := by
  induction notices with
  | nil => rfl
  | cons notice notices ih =>
      change { (noteAll notices next).run respond state with
        notices := notice :: ((noteAll notices next).run respond state).notices } = _
      rw [ih]
      rfl

/-- The exchanges of a dialogue about one resolution, with the words and the events in them, are
those of a run of its moves. -/
def Follows (call : Nat) (c d : Call) (exchanges : List (Exchange Resolver)) : Prop :=
  ∃ asked, Leads call c d asked (refusalsIn exchanges)
      (fun pass => c.toHear call pass exchanges) ∧
    exchanges.map (·.request) = (c.query? call).toList ++ asked

theorem Follows.refl {call : Nat} {c : Call} (hquery : c.query? call = none) :
    Follows call c c [] := by
  refine ⟨[], ?_, by simp [hquery]⟩
  simpa only [toHear_nil, refusalsIn_nil] using Leads.refl call c

/-- The exchange in which a resolution's query is answered. -/
theorem Follows.ask
    {call : Nat} {c d e : Call} {query : Query} {reaction : Reaction}
    {exchanges : List (Exchange Resolver)} (hquery : c.query? call = some query)
    (hissued : 0 < c.callbacks.length)
    (hreact : Leads call c d [] (refusals [.respond reaction.outcome])
      (fun pass => c.heard pass (reaction.told ⟨call, pass⟩)))
    (hheeds : Heeds call (reaction.before ++ reaction.after) c d)
    (hanswered : d.query? call = none) (hrest : Follows call d e exchanges) :
    Follows call c e (⟨query, reaction⟩ :: exchanges) := by
  obtain ⟨asked, hleads, hexchanges⟩ := hrest
  have hticket : query.ticket = ⟨call, c.callbacks.length - 1⟩ := by
    obtain ⟨kind, -, rfl⟩ := Option.map_eq_some_iff.mp hquery
    rfl
  refine ⟨asked, ?_, ?_⟩
  · have hboth := hreact.trans hleads
    simpa only [toHear_cons hticket hissued hheeds, refusalsIn_cons, List.nil_append] using hboth
  · rw [List.map_cons, hexchanges, hquery, hanswered]
    rfl

/-- The caller's own move. -/
theorem Follows.advance
    {call : Nat} {c d e : Call} {notices : List Notice} {exchanges : List (Exchange Resolver)}
    (hquery : c.query? call = none) (hadvance : c.advance? = some (d, notices))
    (hrest : Follows call d e exchanges) : Follows call c e exchanges := by
  obtain ⟨asked, hleads, hexchanges⟩ := hrest
  have hfirst : ∀ query ∈ d.query? call, ∀ exchange ∈ exchanges.head?,
      exchange.request = query := by
    intro query hopen exchange hexchange
    rw [Option.mem_def.mp hopen] at hexchanges
    have hhead := congrArg List.head? hexchanges
    rw [List.head?_map, Option.mem_def.mp hexchange] at hhead
    exact Option.some.inj hhead
  refine ⟨(d.query? call).toList ++ asked, ?_, by rw [hquery, hexchanges]; rfl⟩
  have hboth := (leads_of_advance? hadvance call).trans hleads
  simpa only [List.nil_append, toHear_of_advance? hadvance hfirst] using hboth

/-- However a resolver reacts, the caller's side of a resolution is a run of its moves with the
resolver's reactions in between, to an answer or to where it waits without a permit. -/
theorem run_drive
    {σ : Type} (respond : Responder Resolver σ) (call : Nat)
    (moves : Nat) (board : Board) (state : σ) {c : Call}
    (hc : board[call]? = some c) (hmoves : c.distance ≤ moves)
    (hissued : ∀ query ∈ c.query? call, 0 < c.callbacks.length) :
    ∃ d, ((drive call moves board).run respond state).value.2[call]? = some d ∧
      Follows call c d ((drive call moves board).run respond state).exchanges ∧
      ((drive call moves board).run respond state).value.1 = d.answer? ∧
      (Point.IsReturned d.point ∨
        ∃ rest, d.point = .waiting rest ∧ d.tally.permits.take? = none) := by
  induction moves generalizing board state c with
  | zero =>
      obtain ⟨answer, hpoint⟩ : ∃ answer, c.point = .returned answer := by
        cases hpoint : c.point with
        | returned answer => exact ⟨answer, rfl⟩
        | _ => simp [distance, hpoint] at hmoves
      refine ⟨c, hc, Follows.refl (by simp [query?, asked?, hpoint]), ?_,
        Or.inl (hpoint ▸ trivial)⟩
      simp [drive, Dialogue.run, hc]
  | succ moves ih =>
      cases hquery : c.query? call with
      | some query =>
          -- the resolver's turn: it answers the query that stands open
          obtain ⟨kind, hasked, -⟩ := Option.map_eq_some_iff.mp hquery
          obtain ⟨passes, hpoint⟩ : ∃ passes, c.point = .issuing kind passes := by
            unfold asked? at hasked
            split at hasked
            · rename_i hpoint
              cases hasked
              exact ⟨_, hpoint⟩
            · cases hasked
          obtain ⟨d, hd, hreact, hheeds, hnone, hdistance⟩ :=
            leads_react hc hpoint (respond query state).1
          obtain ⟨e, he, hrest, hanswer, hend⟩ :=
            ih (board.react call (respond query state).1).1 (respond query state).2 hd
              (by omega) (by simp [hnone])
          simp only [drive, hc, hquery, Dialogue.run, run_noteAll]
          exact ⟨e, he, Follows.ask hquery (hissued query hquery) hreact hheeds hnone hrest,
            hanswer, hend⟩
      | none =>
          cases hadvance : c.advance? with
          | none =>
              simp only [drive, hc, hquery, hadvance, Dialogue.run]
              exact ⟨c, rfl, Follows.refl hquery, rfl, blocked_of_advance?_eq_none hquery hadvance⟩
          | some advanced =>
              -- the caller's own move
              obtain ⟨d, notices⟩ := advanced
              have hdistance := distance_of_advance? hadvance
              have hd : (board.set call d)[call]? = some d := by
                obtain ⟨hlt, -⟩ := List.getElem?_eq_some_iff.mp hc
                exact List.getElem?_set_self hlt
              obtain ⟨e, he, hrest, hanswer, hend⟩ :=
                ih (board.set call d) state hd (by omega) (issued_of_advance? hadvance)
              simp only [drive, hc, hquery, hadvance, run_noteAll]
              exact ⟨e, he, Follows.advance hquery hadvance hrest, hanswer, hend⟩

/-- Resolving is a run of a resolution that starts at its first query, whatever the board holds and
whoever answers.  The run has the resolver's refusals, and on each callback the events that the
reactions tell it, from its query on and as long as it is held. -/
theorem run_resolve
    {σ : Type} (respond : Responder Resolver σ) (state : σ) (board : Board)
    (host : String) {port : Value} (hport : port.IsInteger) (timeout : Nat)
    (family : Option Family) :
    ∃ moves c notices,
      (start host port timeout (QueryKind.passes family)).replay? moves = some (c, notices) ∧
      ((board.resolve host port timeout family).run respond state).value.2[board.length]? =
        some c ∧
      ((board.resolve host port timeout family).run respond state).value.1 = c.answer? ∧
      ((board.resolve host port timeout family).run respond state).exchanges.map (·.request) =
        (start host port timeout (QueryKind.passes family)).queries board.length moves ∧
      refusals moves =
        refusalsIn ((board.resolve host port timeout family).run respond state).exchanges ∧
      (∀ pass, eventsOn pass moves =
        heardOn ⟨board.length, pass⟩
          ((board.resolve host port timeout family).run respond state).exchanges) ∧
      (Point.IsReturned c.point ∨
        ∃ rest, c.point = .waiting rest ∧ c.tally.permits.take? = none) := by
  obtain ⟨number, hnumber⟩ := Value.exists_integer_iff.mpr hport
  have hstart : (board ++ [start host port timeout (QueryKind.passes family)])[board.length]? =
      some (start host port timeout (QueryKind.passes family)) :=
    List.getElem?_concat_length
  obtain ⟨d, hd, ⟨asked, ⟨moves, notices, hrun, hasked, hrefused, hevents⟩, hexchanges⟩, hanswer,
      hend⟩ :=
    run_drive respond board.length
      (start host port timeout (QueryKind.passes family)).distance _ state hstart (Nat.le_refl _)
      nofun
  have hresolve : board.resolve host port timeout family =
      drive board.length (start host port timeout (QueryKind.passes family)).distance
        (board ++ [start host port timeout (QueryKind.passes family)]) := by
    simp only [resolve, hnumber]
  rw [hresolve]
  refine ⟨moves, d, notices, hrun, hd, hanswer, ?_, hrefused, ?_, hend⟩
  · rw [hexchanges, hasked]
    rfl
  · intro pass
    exact (hevents pass).trans (toHear_start host port timeout _ _ pass _)

end Board

namespace Call

theorem answer_of_replay
    {host : String} {port : Value} {timeout : Nat} {passes : List QueryKind}
    {moves : List Move} {c : Call} {notices : List Notice}
    (hrun : (start host port timeout passes).replay? moves = some (c, notices))
    {answer : Except Fault (List Entry)} (hreturned : c.point = .returned answer) :
    (∀ errno ∈ refusals moves, answer = .error (.system errno)) ∧
      (refusals moves = [] →
        issues moves = passes.length ∧ answer = answerInTurn port (histories moves)) := by
  rcases (accounts_of_replay hrun).returned answer hreturned with
    ⟨errno, hrefused, hanswer⟩ | ⟨hnone, hissues, -, hanswer⟩
  · constructor
    · intro other hother
      rw [hrefused, List.mem_singleton] at hother
      rw [hother]
      exact hanswer
    · intro hnone
      rw [hrefused] at hnone
      cases hnone
  · constructor
    · intro other hother
      rw [hnone] at hother
      cases hother
    · intro _
      exact ⟨hissues, hanswer⟩

end Call

end ScriptSocket.Resolution
