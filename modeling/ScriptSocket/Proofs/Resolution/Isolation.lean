import ScriptSocket.Proofs.Placewise
import ScriptSocket.Proofs.Resolution.Consultation
import ScriptSocket.Scripted.Resolver

/-!
# What old callbacks cannot do

A resolver may keep the callbacks of resolutions that have returned, whether they were finished or
not, and of queries that have ended, and use them whenever it likes.  Here two runs are compared,
one with such late events and one without some of them: the relation `Call.Alike` between the two
states of every resolution is kept by each step that both runs make and by each late event that one
of them leaves out.  So late events show in no query, in no answer, and in the tally of no
resolution under way.

For the program as it runs, the late events are those on any callback but that of the query that is
being answered; two resolvers that differ in nothing else are told apart by no sequence of
resolutions.
-/

namespace ScriptSocket.Resolution

/-- Two states of a callback that make no difference: the resolver may hold the second longer, and
as long as it counts both have finished or neither has. -/
def Callback.Alike (counts : Prop) (callback other : Callback) : Prop :=
  (callback.held = true → other.held = true) ∧
    (counts → (callback.finished = true ↔ other.finished = true))

theorem Callback.tally_handle_congr
    {callback other : Callback} (hfinished : callback.finished = true ↔ other.finished = true)
    (port : Value) (t : Tally) (event : Event) :
    (callback.handle port t event).tally = (other.handle port t event).tally := by
  have hsame : callback.finished = other.finished := Bool.eq_iff_iff.mpr hfinished
  cases event with
  | release => by_cases hother : other.finished = true <;> simp [handle, hsame, hother]
  | report status endpoint =>
      cases endpoint <;> by_cases hother : other.finished = true <;> simp [handle, hsame, hother]

theorem Callback.Alike.handle
    {counts : Prop} {callback other : Callback} (halike : callback.Alike counts other)
    (port otherPort : Value) (t otherTally : Tally) (event : Event) :
    (callback.handle port t event).callback.Alike counts
      (other.handle otherPort otherTally event).callback := by
  constructor
  · rw [held_handle_iff, held_handle_iff]
    exact And.imp_left halike.1
  · intro hcounts
    rw [finished_handle_iff, finished_handle_iff]
    exact or_congr_left (halike.2 hcounts)

namespace Call

/-! ## Two states of one resolution -/

/-- Two states of a resolution that differ at most by late events.  Once the resolution has
returned only its answer counts. -/
structure Alike (c d : Call) : Prop where
  host_eq : d.host = c.host
  port_eq : d.port = c.port
  timeout_eq : d.timeout = c.timeout
  point_eq : d.point = c.point
  tally_eq : ¬ Point.IsReturned c.point → d.tally = c.tally
  callbacks : List.Forall₂ (Callback.Alike (¬ Point.IsReturned c.point)) c.callbacks d.callbacks

variable {c c' d : Call} {move : Move}

theorem Alike.refl (c : Call) : c.Alike c :=
  ⟨rfl, rfl, rfl, rfl, fun _ => rfl, List.forall₂_same.mpr fun _ _ => ⟨id, fun _ => Iff.rfl⟩⟩

theorem step?_of_step (hstep : Step c move d) : ∃ notices, c.step? move = some (d, notices) := by
  cases hstep with
  | issue hpoint => simp [step?, hpoint]
  | accept hpoint => simp [step?, hpoint]
  | refuse hpoint => simp [step?, hpoint]
  | wake hpoint htake => simp [step?, hpoint, htake]
  | readStatus hpoint => simp [step?, hpoint]
  | collect hpoint => simp [step?, hpoint]
  | callback hcallback hheld => simp [step?, hcallback, hheld]

theorem Alike.moved
    (halike : c.Alike d) (hunreturned : ¬ Point.IsReturned c.point) (point : Point)
    {first second : Tally} (htally : ¬ Point.IsReturned point → second = first) :
    ({ c with point := point, tally := first } : Call).Alike
      { d with point := point, tally := second } := by
  refine ⟨halike.host_eq, halike.port_eq, halike.timeout_eq, rfl, htally, ?_⟩
  refine halike.callbacks.imp ?_
  intro callback other hcallback
  exact ⟨hcallback.1, fun _ => hcallback.2 hunreturned⟩

/-- A step of one state can be made in the other, asks the same query, and leads to states that are
alike again. -/
theorem Alike.step
    (halike : c.Alike d) (hstep : Step c move c') :
    ∃ d', Step d move d' ∧ c'.Alike d' ∧ ∀ call, asking call d move d' = asking call c move c' := by
  have hlength := halike.callbacks.length_eq
  cases hstep with
  | @issue failure kind passes hpoint =>
      have hunreturned : ¬ Point.IsReturned c.point := by simp [hpoint, Point.IsReturned]
      refine ⟨_, .issue (halike.point_eq.trans hpoint), ?_, ?_⟩
      · refine ⟨halike.host_eq, halike.port_eq, halike.timeout_eq, rfl,
          fun _ => halike.tally_eq hunreturned, ?_⟩
        refine List.rel_append ?_ (.cons ⟨id, fun _ => Iff.rfl⟩ .nil)
        have hmoved := halike.moved hunreturned (.issuing kind passes)
          fun _ => halike.tally_eq hunreturned
        exact hmoved.callbacks
      · intro call
        simp [asking, Move.isIssue, query?, asked?, halike.host_eq, halike.timeout_eq, hlength]
  | accept hpoint =>
      have hunreturned : ¬ Point.IsReturned c.point := by simp [hpoint, Point.IsReturned]
      exact ⟨_, .accept (halike.point_eq.trans hpoint),
        halike.moved hunreturned _ fun _ => halike.tally_eq hunreturned, fun _ => rfl⟩
  | refuse hpoint =>
      have hunreturned : ¬ Point.IsReturned c.point := by simp [hpoint, Point.IsReturned]
      exact ⟨_, .refuse (halike.point_eq.trans hpoint),
        halike.moved hunreturned _ fun _ => halike.tally_eq hunreturned, fun _ => rfl⟩
  | wake hpoint htake =>
      have hunreturned : ¬ Point.IsReturned c.point := by simp [hpoint, Point.IsReturned]
      have htally := halike.tally_eq hunreturned
      refine ⟨_, .wake (halike.point_eq.trans hpoint) (htally ▸ htake), ?_, fun _ => rfl⟩
      exact halike.moved hunreturned _ fun _ => by rw [htally]
  | readStatus hpoint =>
      have hunreturned : ¬ Point.IsReturned c.point := by simp [hpoint, Point.IsReturned]
      have htally := halike.tally_eq hunreturned
      refine ⟨_, .readStatus (halike.point_eq.trans hpoint), ?_, fun _ => rfl⟩
      rw [htally]
      exact halike.moved hunreturned _ fun _ => rfl
  | collect hpoint =>
      have hunreturned : ¬ Point.IsReturned c.point := by simp [hpoint, Point.IsReturned]
      have htally := halike.tally_eq hunreturned
      refine ⟨_, .collect (halike.point_eq.trans hpoint), ?_, fun _ => rfl⟩
      rw [htally]
      exact halike.moved hunreturned _ fun _ => rfl
  | @callback pass event callback hcallback hheld =>
      -- whether the callback has finished is the same in both only while that still counts
      obtain ⟨other, hother, hsame⟩ := forall₂_getElem? halike.callbacks hcallback
      refine ⟨_, .callback hother (hsame.1 hheld), ?_, fun _ => rfl⟩
      refine ⟨halike.host_eq, halike.port_eq, halike.timeout_eq, halike.point_eq, ?_, ?_⟩
      · intro hunreturned
        rw [halike.port_eq, halike.tally_eq hunreturned]
        exact (Callback.tally_handle_congr (hsame.2 hunreturned) c.port c.tally event).symm
      · exact forall₂_set halike.callbacks (hsame.handle c.port d.port c.tally d.tally event) pass

/-- An event on a callback is late if the callback has finished or its resolution has returned. -/
def Late (c : Call) (pass : Nat) : Prop :=
  Point.IsReturned c.point ∨
    ∃ callback, c.callbacks[pass]? = some callback ∧ callback.finished = true

theorem Alike.leaveOut
    (halike : c.Alike d) {pass : Nat} {event : Event} (hlate : c.Late pass)
    (hstep : Step c (.callback pass event) c') : c'.Alike d := by
  cases hstep with
  | @callback _ _ callback hcallback hheld =>
      obtain ⟨other, hother, hsame⟩ := forall₂_getElem? halike.callbacks hcallback
      have hfinished : ¬ Point.IsReturned c.point → callback.finished = true := by
        intro hunreturned
        obtain ⟨late, hfound, hfinished⟩ := hlate.resolve_left hunreturned
        rw [hcallback, Option.some.injEq] at hfound
        rw [hfound]
        exact hfinished
      refine ⟨halike.host_eq, halike.port_eq, halike.timeout_eq, halike.point_eq, ?_, ?_⟩
      · intro hunreturned
        rw [halike.tally_eq hunreturned,
          Callback.handle_tally_of_finished (hfinished hunreturned)]
      · refine forall₂_set_left halike.callbacks hother ⟨?_, ?_⟩
        · rw [Callback.held_handle_iff]
          intro hstill
          exact hsame.1 hstill.1
        · intro hunreturned
          have hdone := hfinished hunreturned
          rw [Callback.finished_handle_iff]
          exact iff_of_true (Or.inl hdone) ((hsame.2 hunreturned).mp hdone)

end Call

open Call

/-! ## Two runs of all resolutions -/

/-- What can happen to the resolutions that share a resolver: one more begins, or there is a move in
one of them. -/
inductive Play where
  | start (host : String) (port : Value) (timeout : Nat) (family : Option Family)
  | move (call : Nat) (move : Move)

namespace Board

def play? (board : Board) : Play → Option (Board × List Query)
  | .start host port timeout family =>
    some (board ++ [Call.start host port timeout (QueryKind.passes family)], [])
  | .move call move =>
    (board.step? call move).map fun (next, _) =>
      (next, if move.isIssue then (next[call]?.bind (Call.query? call)).toList else [])

def playAll? (board : Board) : List Play → Option (Board × List Query)
  | [] => some (board, [])
  | play :: plays =>
    (board.play? play).bind fun first =>
      (playAll? first.1 plays).map fun others => (others.1, first.2 ++ others.2)

def Late (board : Board) (call pass : Nat) : Prop := ∃ c, board[call]? = some c ∧ c.Late pass

/-- The plays of a run, and those plays without some of the late events among them. -/
inductive Thinned : Board → List Play → List Play → Prop
  | nil (board : Board) : Thinned board [] []
  | keep {board next : Board} {play : Play} {asked : List Query} {plays kept : List Play}
      (hplay : board.play? play = some (next, asked)) (hrest : Thinned next plays kept) :
      Thinned board (play :: plays) (play :: kept)
  | leaveOut {board next : Board} {call pass : Nat} {event : Event} {asked : List Query}
      {plays kept : List Play} (hlate : board.Late call pass)
      (hplay : board.play? (.move call (.callback pass event)) = some (next, asked))
      (hrest : Thinned next plays kept) :
      Thinned board (.move call (.callback pass event) :: plays) kept

abbrev Alike (board other : Board) : Prop := List.Forall₂ Call.Alike board other

variable {board next other : Board} {call : Nat} {move : Move} {asked : List Query}

theorem play?_move_eq_some_iff :
    board.play? (.move call move) = some (next, asked) ↔
      ∃ c d, board[call]? = some c ∧ Step c move d ∧ next = board.set call d ∧
        asked = asking call c move d := by
  constructor
  · intro hplay
    obtain ⟨⟨stepped, notices⟩, hstep, heq⟩ := Option.map_eq_some_iff.mp hplay
    cases heq
    obtain ⟨c, hc⟩ : ∃ c, board[call]? = some c := by
      cases hc : board[call]? with
      | none => simp [Board.step?, hc] at hstep
      | some c => exact ⟨c, rfl⟩
    obtain ⟨d, hd, hmove⟩ := step?_self hc hstep
    simp only [Board.step?, hc, hmove, Option.map_some, Option.some.injEq, Prod.mk.injEq] at hstep
    exact ⟨c, d, hc, step_of_step? hmove, hstep.1.symm, by simp [hd, asking]⟩
  · rintro ⟨c, d, hc, hstep, rfl, rfl⟩
    obtain ⟨notices, hmove⟩ := step?_of_step hstep
    obtain ⟨hlt, -⟩ := List.getElem?_eq_some_iff.mp hc
    simp only [play?, Board.step?, hc, hmove, Option.map_some, List.getElem?_set_self hlt,
      Option.bind_some, asking]

theorem Alike.play
    (halike : board.Alike other) {play : Play} (hplay : board.play? play = some (next, asked)) :
    ∃ following, other.play? play = some (following, asked) ∧ next.Alike following := by
  cases play with
  | start host port timeout family =>
      cases hplay
      exact ⟨_, rfl, List.rel_append halike (.cons (Call.Alike.refl _) .nil)⟩
  | move call move =>
      obtain ⟨c, c', hc, hstep, rfl, rfl⟩ := play?_move_eq_some_iff.mp hplay
      obtain ⟨d, hd, hsame⟩ := forall₂_getElem? halike hc
      obtain ⟨d', hmatch, hafter, hasked⟩ := hsame.step hstep
      refine ⟨other.set call d', ?_, forall₂_set halike hafter call⟩
      exact play?_move_eq_some_iff.mpr ⟨d, d', hd, hmatch, rfl, (hasked call).symm⟩

theorem Alike.leaveOut
    (halike : board.Alike other) {pass : Nat} {event : Event} (hlate : board.Late call pass)
    (hplay : board.play? (.move call (.callback pass event)) = some (next, asked)) :
    next.Alike other ∧ asked = [] := by
  obtain ⟨c, c', hc, hstep, rfl, rfl⟩ := play?_move_eq_some_iff.mp hplay
  obtain ⟨late, hfound, hwhen⟩ := hlate
  rw [hc, Option.some.injEq] at hfound
  subst hfound
  obtain ⟨d, hd, hsame⟩ := forall₂_getElem? halike hc
  exact ⟨forall₂_set_left halike hd (hsame.leaveOut hwhen hstep), asking_of_not_issue rfl _ _ _⟩

/-- Without some of its late events a run goes through as before. -/
theorem Alike.playAll
    {plays kept : List Play} {final : Board} (hthinned : Thinned board plays kept)
    (halike : board.Alike other) (hrun : board.playAll? plays = some (final, asked)) :
    ∃ last, other.playAll? kept = some (last, asked) ∧ final.Alike last := by
  -- a play that is kept moves both boards on, a late event that is left out only the first
  induction hthinned generalizing other final asked with
  | nil board =>
      cases hrun
      exact ⟨other, rfl, halike⟩
  | keep hplay _ ih =>
      simp only [playAll?, hplay, Option.bind_some] at hrun
      obtain ⟨⟨after, more⟩, hafter, heq⟩ := Option.map_eq_some_iff.mp hrun
      cases heq
      obtain ⟨following, hmatch, hnext⟩ := halike.play hplay
      obtain ⟨last, hlast, hfinal⟩ := ih hnext hafter
      exact ⟨last, by simp [playAll?, hmatch, hlast], hfinal⟩
  | leaveOut hlate hplay _ ih =>
      simp only [playAll?, hplay, Option.bind_some] at hrun
      obtain ⟨⟨after, more⟩, hafter, heq⟩ := Option.map_eq_some_iff.mp hrun
      cases heq
      obtain ⟨hnext, hnothing⟩ := halike.leaveOut hlate hplay
      rw [hnothing, List.nil_append]
      exact ih hnext hafter

end Board

/-! ## Two resolvers -/

section

variable {σ : Type}

/-- Two resolvers that differ at most in what they do to other callbacks than that of the query they
answer. -/
def AgreeOnOwn (respond other : Responder Resolver σ) : Prop :=
  ∀ query state,
    (respond query state).1.outcome = (other query state).1.outcome ∧
      (respond query state).1.told query.ticket = (other query state).1.told query.ticket ∧
      (respond query state).2 = (other query state).2

def heedful (respond : Responder Resolver σ) : Responder Resolver σ := fun query state =>
  let (reaction, next) := respond query state
  let own := List.filter fun told : Ticket × Event => told.1 = query.ticket
  (⟨own reaction.before, reaction.outcome, own reaction.after⟩, next)

theorem agreeOnOwn_heedful (respond : Responder Resolver σ) :
    AgreeOnOwn respond (heedful respond) := by
  intro query state
  refine ⟨rfl, ?_, rfl⟩
  simp only [Reaction.told, heedful, toldOn, ← List.filter_append, List.filterMap_filter]
  apply List.filterMap_congr
  rintro ⟨ticket, event⟩ -
  simp only [decide_eq_true_eq]
  split <;> rfl

/-- The parties outside the board see the same in two runs. -/
structure Unseen {α : Type} (first second : Dialogue.Run Resolver σ (α × Board)) : Prop where
  value : first.value.1 = second.value.1
  state : first.state = second.state
  requests : first.exchanges.map (·.request) = second.exchanges.map (·.request)
  length : first.value.2.length = second.value.2.length

variable {respond other : Responder Resolver σ}

theorem consult_of_agreeOnOwn
    (hagree : AgreeOnOwn respond other) (call : Nat) (host : String) (port : Value)
    (timeout : Nat) (kinds : List QueryKind) (pass : Nat) (failure : Option Status)
    (entries : List Entry) (state : σ) :
    let consulted := consult call host port timeout kinds pass failure entries
    (consulted.run respond state).value = (consulted.run other state).value ∧
      (consulted.run respond state).state = (consulted.run other state).state ∧
      (consulted.run respond state).exchanges.map (·.request) =
        (consulted.run other state).exchanges.map (·.request) := by
  induction kinds generalizing pass failure entries state with
  | nil => exact ⟨rfl, rfl, rfl⟩
  | cons kind kinds ih =>
      obtain ⟨houtcome, htold, hstate⟩ := hagree ⟨⟨call, pass⟩, host, kind, timeout⟩ state
      simp only [consult, Dialogue.run, List.map_cons]
      rw [← houtcome, ← htold, ← hstate]
      generalize respond ⟨⟨call, pass⟩, host, kind, timeout⟩ state = replied
      obtain ⟨reaction, next⟩ := replied
      cases reaction.outcome with
      | error errno => exact ⟨rfl, rfl, rfl⟩
      | ok taken =>
          by_cases hended : Ended (reaction.told ⟨call, pass⟩)
          · simp only [if_pos hended]
            obtain ⟨hvalue, hlast, hrequests⟩ := ih (pass + 1)
              (failureOf (reaction.told ⟨call, pass⟩))
              (entries ++ entriesOf port (reaction.told ⟨call, pass⟩)) next
            exact ⟨hvalue, hlast, congrArg (_ :: ·) hrequests⟩
          · simp only [if_neg hended]
            exact ⟨rfl, rfl, rfl⟩

structure Inquiry where
  host : String
  port : Value
  timeout : Nat
  family : Option Family

def Board.resolveEach (board : Board) :
    List Inquiry → Dialogue Resolver (List (Option (Except Fault (List Entry))) × Board)
  | [] => .done ([], board)
  | inquiry :: inquiries =>
    (board.resolve inquiry.host inquiry.port inquiry.timeout inquiry.family).bind
      fun (answer, board) =>
        (board.resolveEach inquiries).map fun (answers, board) => (answer :: answers, board)

theorem unseen_resolve
    (hagree : AgreeOnOwn respond other) {board twin : Board} (hlength : board.length = twin.length)
    (inquiry : Inquiry) (state : σ) :
    Unseen
      ((board.resolve inquiry.host inquiry.port inquiry.timeout inquiry.family).run respond state)
      ((twin.resolve inquiry.host inquiry.port inquiry.timeout inquiry.family).run other
        state) := by
  cases hport : inquiry.port.integer with
  | error fault =>
      simp only [Board.resolve, hport]
      exact ⟨rfl, rfl, rfl, hlength⟩
  | ok number =>
      have hfirst := Board.run_resolve_eq_consult hport respond board inquiry.host
        inquiry.timeout inquiry.family state
      have hsecond := Board.run_resolve_eq_consult hport other twin inquiry.host
        inquiry.timeout inquiry.family state
      rw [← hlength] at hsecond
      obtain ⟨hvalue, hstate, hrequests⟩ := consult_of_agreeOnOwn hagree board.length inquiry.host
        inquiry.port inquiry.timeout (QueryKind.passes inquiry.family) 0 none [] state
      exact ⟨hfirst.value.trans (hvalue.trans hsecond.value.symm),
        hfirst.state.trans (hstate.trans hsecond.state.symm),
        by rw [hfirst.exchanges, hsecond.exchanges, hrequests],
        hfirst.length.trans hsecond.length.symm⟩

theorem unseen_resolveEach
    (hagree : AgreeOnOwn respond other) (inquiries : List Inquiry) {board twin : Board}
    (hlength : board.length = twin.length) (state : σ) :
    Unseen ((board.resolveEach inquiries).run respond state)
      ((twin.resolveEach inquiries).run other state) := by
  induction inquiries generalizing board twin state with
  | nil => exact ⟨rfl, rfl, rfl, hlength⟩
  | cons inquiry inquiries ih =>
      have hfirst := unseen_resolve hagree hlength inquiry state
      have hrest := ih hfirst.length
        ((board.resolve inquiry.host inquiry.port inquiry.timeout inquiry.family).run respond
          state).state
      simp only [Board.resolveEach, Dialogue.run_bind, Dialogue.run_map, Dialogue.Run.andThen]
      rw [← hfirst.state]
      refine ⟨?_, hrest.state, ?_, hrest.length⟩
      · rw [hfirst.value, hrest.value]
      · rw [List.map_append, List.map_append, hfirst.requests, hrest.requests]

end

/-- Late events show nowhere.  A run of any resolutions, in any order of moves, goes through without
any of its late events: the same queries are asked, every resolution has the same answer or none
yet, and those under way stand at the same point with the same entries, status and permits.  And
resolvers that differ only in what they do to other callbacks than that of the query at hand get the
same queries and lead to the same answers, one resolution after the other. -/
theorem late_events_unseen :
    (∀ (board : Board) (plays kept : List Play) (final : Board) (asked : List Query),
      board.Thinned plays kept → board.playAll? plays = some (final, asked) →
      ∃ last, board.playAll? kept = some (last, asked) ∧ last.length = final.length ∧
        ∀ (call : Nat) (c : Call), final[call]? = some c →
          ∃ d : Call, last[call]? = some d ∧ d.answer? = c.answer? ∧
            (c.answer? = none → d.point = c.point ∧ d.tally = c.tally)) ∧
    (∀ (σ : Type) (respond other : Responder Resolver σ), AgreeOnOwn respond other →
      ∀ (board : Board) (inquiries : List Inquiry) (state : σ),
        Unseen ((board.resolveEach inquiries).run respond state)
          ((board.resolveEach inquiries).run other state)) := by
  constructor
  · intro board plays kept final asked hthinned hrun
    have hrefl : board.Alike board := List.forall₂_same.mpr fun c _ => Call.Alike.refl c
    obtain ⟨last, hlast, halike⟩ := hrefl.playAll hthinned hrun
    refine ⟨last, hlast, halike.length_eq.symm, ?_⟩
    intro call c hc
    obtain ⟨d, hd, hsame⟩ := forall₂_getElem? halike hc
    refine ⟨d, hd, by simp only [answer?, hsame.point_eq], ?_⟩
    intro hunanswered
    refine ⟨hsame.point_eq, hsame.tally_eq ?_⟩
    intro hreturned
    cases hpoint : c.point <;> simp_all [answer?, Point.IsReturned]
  · intro σ respond other hagree board inquiries state
    exact unseen_resolveEach hagree inquiries rfl state

/-- The only query of the first resolution is refused, and its callback, which never finished, is
used and let go while the next resolution is under way; in the second query of that one its own
first callback reports twice more.  The events marked are the late ones. -/
def crowdedPlays : List (Play × Bool) :=
  [(.start "old" (.int 80) 3000 (some .ipv4), false), (.move 0 .issue, false),
    (.move 0 (.respond (.error ⟨-11⟩)), false),
    (.start "new" (.int 81) 3000 none, false), (.move 1 .issue, false),
    (.move 0 (.callback 0 (.report .ok (some (.v4 ⟨10, 0, 0, 1⟩ 0)))), true),
    (.move 1 (.respond (.ok ())), false), (.move 0 (.callback 0 .release), true),
    (.move 1 (.callback 0 (.report .noData none)), false), (.move 1 .wake, false),
    (.move 1 .readStatus, false), (.move 1 .issue, false), (.move 1 (.respond (.ok ())), false),
    (.move 1 (.callback 0 (.report .ok (some (.v4 ⟨10, 0, 0, 2⟩ 0)))), true),
    (.move 1 (.callback 1 (.report .ok (some (.v4 ⟨10, 0, 0, 3⟩ 0)))), false),
    (.move 1 (.callback 0 (.report .failed none)), true),
    (.move 1 (.callback 1 .release), false), (.move 1 .wake, false),
    (.move 1 .readStatus, false), (.move 1 .collect, false)]

def timelyPlays : List (Play × Bool) := crowdedPlays.filter fun play => !play.2

theorem thinned_crowdedPlays :
    Board.Thinned [] (crowdedPlays.map (·.1)) (timelyPlays.map (·.1)) := by
  refine .keep rfl (.keep rfl (.keep rfl (.keep rfl (.keep rfl ?_))))
  refine .leaveOut ⟨_, rfl, Or.inl trivial⟩ rfl (.keep rfl ?_)
  refine .leaveOut ⟨_, rfl, Or.inl trivial⟩ rfl ?_
  refine .keep rfl (.keep rfl (.keep rfl (.keep rfl (.keep rfl ?_))))
  refine .leaveOut ⟨_, rfl, Or.inr ⟨_, rfl, rfl⟩⟩ rfl
    (.keep rfl ?_)
  refine .leaveOut ⟨_, rfl, Or.inr ⟨_, rfl, rfl⟩⟩ rfl ?_
  exact .keep rfl (.keep rfl (.keep rfl (.keep rfl (.nil _))))

/-- A resolver that keeps the callback of the query it refuses first, and reports to it in each of
the next two queries. -/
def meddling : Scripted.ResolverScript :=
  ⟨[⟨[], [], true, .error ⟨-11⟩⟩,
      ⟨[(.ok, some (.v4 ⟨10, 0, 0, 1⟩ 0))], [(.noData, none)], true, .ok ()⟩,
      ⟨[(.failed, none)], [(.ok, some (.v4 ⟨10, 0, 0, 3⟩ 0)), (.ok, none)], false, .ok ()⟩], []⟩

theorem late_events_unseen_refused :
    (Board.Thinned [] (crowdedPlays.map (·.1)) (timelyPlays.map (·.1)) ∧
      ∃ final asked last, Board.playAll? [] (crowdedPlays.map (·.1)) = some (final, asked) ∧
        Board.playAll? [] (timelyPlays.map (·.1)) = some (last, asked) ∧
        last[1]?.bind answer? = some (.ok [.ofEndpoint (.v4 ⟨10, 0, 0, 3⟩ 0) (.int 81)])) ∧
    (AgreeOnOwn Scripted.ResolverScript.respond (heedful Scripted.ResolverScript.respond) ∧
      ((Board.resolveEach [] [⟨"old", .int 80, 3000, some .ipv4⟩,
          ⟨"new", .int 81, 3000, none⟩]).run (heedful Scripted.ResolverScript.respond)
            meddling).value.1 =
        [some (.error (.system ⟨-11⟩)),
          some (.ok [.ofEndpoint (.v4 ⟨10, 0, 0, 3⟩ 0) (.int 81)])]) := by
  constructor
  · obtain ⟨last, hlast, -, hcalls⟩ :=
      late_events_unseen.1 [] _ _ _ _ thinned_crowdedPlays rfl
    obtain ⟨d, hd, hanswer, -⟩ := hcalls 1 _ rfl
    refine ⟨thinned_crowdedPlays, _, _, last, rfl, hlast, ?_⟩
    rw [hd]
    exact hanswer
  · have hagree := agreeOnOwn_heedful Scripted.ResolverScript.respond
    have hunseen := late_events_unseen.2 _ _ _ hagree []
      [⟨"old", .int 80, 3000, some .ipv4⟩, ⟨"new", .int 81, 3000, none⟩] meddling
    exact ⟨hagree, hunseen.value.symm.trans rfl⟩

end ScriptSocket.Resolution
