import ScriptSocket.Proofs.Resolution.Consultation

/-!
# Asking for any family is asking for each

Without a hint a resolution asks for IPv6 records and then for IPv4 records.  If the outcome of a
query depends on its kind only, the answer is made of the answers to the two hints alone (`joined`):
the entries of both, or the failure of the second if there are none.
-/

namespace ScriptSocket.Resolution

/-- What became of a query: the addresses reported before it ended, and how it ended, if it did. -/
structure QueryOutcome where
  addresses : List Endpoint
  verdict? : Option Status
  deriving DecidableEq

def outcomeOf (events : List Event) : QueryOutcome := ⟨found events, verdict? events⟩

namespace QueryOutcome

def entries (port : Value) (o : QueryOutcome) : List Entry :=
  o.addresses.map fun endpoint => .ofEndpoint endpoint port

def failure? (o : QueryOutcome) : Option Status := o.verdict?.filter Status.isError

/-- The answer of queries with the given outcomes, after a failure and with entries of earlier ones.
There is none if a query does not end. -/
def answer? (port : Value) :
    List QueryOutcome → Option Status → List Entry → Option (Except Fault (List Entry))
  | [], failure, entries => some (Call.answer failure entries)
  | o :: outcomes, _, entries =>
    o.verdict?.bind fun _ => answer? port outcomes o.failure? (entries ++ o.entries port)

end QueryOutcome

/-- The answer for any family, made of those for IPv6 and for IPv4. -/
def joined : Except Fault (List Entry) → Except Fault (List Entry) → Except Fault (List Entry)
  | .ok ipv6, .ok ipv4 => .ok (ipv6 ++ ipv4)
  | .error _, .ok ipv4 => .ok ipv4
  | .ok ipv6, .error fault => if ipv6 = [] then .error fault else .ok ipv6
  | .error _, .error fault => .error fault

/-- The failure of the IPv4 query is the only one that can be the answer. -/
theorem eq_error_of_joined
    {ipv6 ipv4 : Except Fault (List Entry)} {fault : Fault}
    (hjoined : joined ipv6 ipv4 = .error fault) : ipv4 = .error fault := by
  unfold joined at hjoined
  split at hjoined
  · cases hjoined
  · cases hjoined
  · split at hjoined
    · exact hjoined
    · cases hjoined
  · exact hjoined

/-- A failure counts only if there are no entries, so it does not matter whether the entries of an
earlier query are added before or after that is decided. -/
theorem joined_answer (first last : Option Status) (ipv6 ipv4 : List Entry) :
    joined (Call.answer first ipv6) (Call.answer last ipv4) = Call.answer last (ipv6 ++ ipv4) := by
  by_cases hipv6 : ipv6 = []
  · subst hipv6
    rw [List.nil_append]
    have hnothing : ∀ answered, joined (Call.answer first []) answered = answered := by
      intro answered
      cases first <;> cases answered <;> rfl
    exact hnothing _
  · have hfound : Call.answer first ipv6 = .ok ipv6 := by
      cases first with
      | none => rfl
      | some status => exact if_neg hipv6
    rw [hfound]
    cases last with
    | none => rfl
    | some status =>
        by_cases hipv4 : ipv4 = [] <;> simp [Call.answer, joined, hipv4, hipv6]

/-- A resolver that takes up every query about a host, and whose outcomes depend on the kind of
query only. -/
structure AnswersByKind {σ : Type} (respond : Responder Resolver σ) (host : String)
    (outcome : QueryKind → QueryOutcome) : Prop where
  accepted : ∀ query state, query.host = host → (respond query state).1.outcome = .ok ()
  outcome_eq : ∀ query state, query.host = host →
    outcomeOf (Reaction.told (respond query state).1 query.ticket) = outcome query.kind

section

variable {σ : Type} {respond : Responder Resolver σ} {host : String}
  {outcome : QueryKind → QueryOutcome}

theorem AnswersByKind.consult
    (hanswers : AnswersByKind respond host outcome) (call : Nat) (port : Value) (timeout : Nat)
    (kinds : List QueryKind) (pass : Nat) (failure : Option Status) (entries : List Entry)
    (state : σ) :
    ((consult call host port timeout kinds pass failure entries).run respond state).value =
      QueryOutcome.answer? port (kinds.map outcome) failure entries := by
  induction kinds generalizing pass failure entries state with
  | nil => rfl
  | cons kind kinds ih =>
      have haccepted := hanswers.accepted ⟨⟨call, pass⟩, host, kind, timeout⟩ state rfl
      have houtcome := hanswers.outcome_eq ⟨⟨call, pass⟩, host, kind, timeout⟩ state rfl
      simp only [Resolution.consult, Dialogue.run, List.map_cons]
      generalize respond ⟨⟨call, pass⟩, host, kind, timeout⟩ state = replied
        at haccepted houtcome ⊢
      obtain ⟨reaction, next⟩ := replied
      simp only at haccepted houtcome
      simp only [haccepted, ← houtcome, QueryOutcome.answer?]
      cases hverdict : (outcomeOf (reaction.told ⟨call, pass⟩)).verdict? with
      | none =>
          have hended : ¬ Ended (reaction.told ⟨call, pass⟩) := by
            change ¬ (outcomeOf (reaction.told ⟨call, pass⟩)).verdict?.isSome
            simp [hverdict]
          rw [if_neg hended]
          rfl
      | some status =>
          have hended : Ended (reaction.told ⟨call, pass⟩) :=
            ended_iff_exists.mpr ⟨status, hverdict⟩
          rw [if_pos hended, ih]
          rfl

/-- What a resolution answers, by the outcomes of the queries that its hint calls for. -/
theorem AnswersByKind.resolve
    (hanswers : AnswersByKind respond host outcome) (board : Board) {port : Value}
    (hport : port.IsInteger) (timeout : Nat) (family : Option Family) (state : σ) :
    ((board.resolve host port timeout family).run respond state).value.1 =
      QueryOutcome.answer? port ((QueryKind.passes family).map outcome) none [] := by
  obtain ⟨number, hnumber⟩ := Value.exists_integer_iff.mpr hport
  rw [(Board.run_resolve_eq_consult hnumber respond board host timeout family state).value,
    hanswers.consult]

end

/-- Queries one after the other are answered for as a whole. -/
theorem QueryOutcome.answer?_pair (port : Value) (ipv6 ipv4 : QueryOutcome) :
    answer? port [ipv6, ipv4] none [] =
      (answer? port [ipv6] none []).bind fun first =>
        (answer? port [ipv4] none []).map (joined first) := by
  simp only [answer?, List.nil_append]
  cases ipv6.verdict? with
  | none => rfl
  | some status =>
      cases ipv4.verdict? with
      | none => rfl
      | some status => exact congrArg some (joined_answer _ _ _ _).symm

/-! ## Any order of moves -/

theorem answerInTurn_singleton (port : Value) (events : List Event) :
    answerInTurn port [events] =
      Call.answer (outcomeOf events).failure? ((outcomeOf events).entries port) := by
  have hentries : [events].flatMap (entriesOf port) = (outcomeOf events).entries port :=
    List.flatMap_singleton _ _
  have hfailure : [events].getLast?.bind failureOf = (outcomeOf events).failure? := rfl
  unfold answerInTurn Call.answer
  rw [hentries, hfailure]
  cases (outcomeOf events).failure? <;> rfl

theorem answerInTurn_pair (port : Value) (first last : List Event) :
    answerInTurn port [first, last] =
      joined (answerInTurn port [first]) (answerInTurn port [last]) := by
  have hentries : [first, last].flatMap (entriesOf port) =
      (outcomeOf first).entries port ++ (outcomeOf last).entries port := by
    rw [List.flatMap_cons, List.flatMap_singleton]
    rfl
  have hfailure : [first, last].getLast?.bind failureOf = (outcomeOf last).failure? := rfl
  rw [answerInTurn_singleton, answerInTurn_singleton, joined_answer]
  unfold answerInTurn Call.answer
  rw [hentries, hfailure]
  cases (outcomeOf last).failure? <;> rfl

/-- A run for a hint in which no query is refused, and which comes to an answer. -/
def Answers (host : String) (port : Value) (timeout : Nat) (family : Option Family)
    (moves : List Move) (answer : Except Fault (List Entry)) : Prop :=
  refusals moves = [] ∧ ∃ c notices,
    (Call.start host port timeout (QueryKind.passes family)).replay? moves = some (c, notices) ∧
      c.point = .returned answer

theorem Answers.eq_inTurn
    {host : String} {port : Value} {timeout : Nat} {family : Option Family} {moves : List Move}
    {answer : Except Fault (List Entry)}
    (hanswers : Answers host port timeout family moves answer) :
    answer = answerInTurn port
      ((List.range (QueryKind.passes family).length).map fun pass => eventsOn pass moves) := by
  obtain ⟨hnone, c, notices, hrun, hreturned⟩ := hanswers
  obtain ⟨hissues, hanswer⟩ := (Call.answer_of_replay hrun hreturned).2 hnone
  unfold histories at hanswer
  rw [hissues] at hanswer
  exact hanswer

theorem answerInTurn_of_outcome
    (port : Value) {events other : List Event} (hsame : outcomeOf events = outcomeOf other) :
    answerInTurn port [events] = answerInTurn port [other] := by
  rw [answerInTurn_singleton, answerInTurn_singleton, hsame]

/-- If the resolver takes up every query about a host, and the outcome depends on the kind of query
only, then a resolution without a hint answers with what the resolutions with the hints for IPv6 and
for IPv4 answer, joined; so its failure is always that of the IPv4 query.  Neither the states in
which the resolver and the boards are for each of the three count, nor the order of the caller's and
the resolver's moves: runs that come to an answer come to these if what became of each query is the
same. -/
theorem any_family_joins_each
    {σ : Type} {respond : Responder Resolver σ} {host : String}
    {outcome : QueryKind → QueryOutcome} (hanswers : AnswersByKind respond host outcome)
    {port : Value} (hport : port.IsInteger) (timeout : Nat) :
    (∀ (board board6 board4 : Board) (state state6 state4 : σ),
      let any := ((board.resolve host port timeout none).run respond state).value.1
      let ipv6 := ((board6.resolve host port timeout (some .ipv6)).run respond state6).value.1
      let ipv4 := ((board4.resolve host port timeout (some .ipv4)).run respond state4).value.1
      any = (ipv6.bind fun first => ipv4.map fun last => joined first last) ∧
      ∀ fault, any = some (.error fault) → ipv4 = some (.error fault)) ∧
    (∀ moves moves6 moves4 any ipv6 ipv4,
      Answers host port timeout none moves any →
      Answers host port timeout (some .ipv6) moves6 ipv6 →
      Answers host port timeout (some .ipv4) moves4 ipv4 →
      outcomeOf (eventsOn 0 moves) = outcomeOf (eventsOn 0 moves6) →
      outcomeOf (eventsOn 1 moves) = outcomeOf (eventsOn 0 moves4) →
      any = joined ipv6 ipv4 ∧ ∀ fault, any = .error fault → ipv4 = .error fault) := by
  constructor
  · intro board board6 board4 state state6 state4 any ipv6 ipv4
    have hany : any = ipv6.bind fun first => ipv4.map fun last => joined first last := by
      simp only [any, ipv6, ipv4, hanswers.resolve _ hport]
      exact QueryOutcome.answer?_pair port (outcome .aaaa) (outcome .a)
    refine ⟨hany, ?_⟩
    intro fault hfault
    rw [hany] at hfault
    obtain ⟨first, -, hlast⟩ := Option.bind_eq_some_iff.mp hfault
    obtain ⟨last, hlast, hjoined⟩ := Option.map_eq_some_iff.mp hlast
    rw [hlast, eq_error_of_joined hjoined]
  · intro moves moves6 moves4 any ipv6 ipv4 hmoves hmoves6 hmoves4 hsame6 hsame4
    have hjoined : any = joined ipv6 ipv4 := by
      have hany : any = answerInTurn port [eventsOn 0 moves, eventsOn 1 moves] := hmoves.eq_inTurn
      have hipv6 : ipv6 = answerInTurn port [eventsOn 0 moves6] := hmoves6.eq_inTurn
      have hipv4 : ipv4 = answerInTurn port [eventsOn 0 moves4] := hmoves4.eq_inTurn
      rw [hany, hipv6, hipv4, answerInTurn_pair, answerInTurn_of_outcome port hsame6,
        answerInTurn_of_outcome port hsame4]
    exact ⟨hjoined, fun fault hfault => eq_error_of_joined (hjoined.symm.trans hfault)⟩

/-- A resolver that tells the callback of every query the events for its kind. -/
def telling (events : QueryKind → List Event) : Responder Resolver Unit := fun query _ =>
  (⟨[], .ok (), (events query.kind).map fun event => (query.ticket, event)⟩, ())

theorem answersByKind_telling (events : QueryKind → List Event) (host : String) :
    AnswersByKind (telling events) host fun kind => outcomeOf (events kind) := by
  constructor
  · intro query state hhost
    rfl
  · intro query state hhost
    exact congrArg outcomeOf (toldOn_own query.ticket (events query.kind))

def maskedEndpoint : Endpoint := .v6 ⟨[0x2001, 0xdb8, 0, 0, 0, 0, 0, 1], rfl⟩ 0 0 0

/-- An IPv6 address from a query that then fails, and an IPv4 query that is let go. -/
def maskedEvents : QueryKind → List Event
  | .aaaa => [.report .ok (some maskedEndpoint), .report .noData none]
  | .a => [.release]

/-- The first callback is used before the resolver takes its query up, and once more in the course
of the second query. -/
def maskedMoves : List Move :=
  [.issue, .callback 0 (.report .ok (some maskedEndpoint)), .respond (.ok ()),
    .callback 0 (.report .noData none), .wake, .readStatus, .issue, .callback 0 .release,
    .respond (.ok ()), .callback 1 .release, .wake, .readStatus, .collect]

/-- The moves for one hint, with the events on the callback of its query. -/
def singleMoves (events : List Event) : List Move :=
  [.issue, .respond (.ok ())] ++ events.map (.callback 0) ++ [.wake, .readStatus, .collect]

theorem any_family_joins_each_masked :
    (((Board.resolve [] "host" (.bool true) 3000 none).run (telling maskedEvents) ()).value.1 =
        some (.ok [.ofEndpoint maskedEndpoint (.bool true)]) ∧
      ((Board.resolve [] "host" (.bool true) 3000 (some .ipv4)).run (telling maskedEvents)
        ()).value.1 = some (.error Status.failed.fault)) ∧
    ∃ any ipv6 ipv4, Answers "host" (.bool true) 3000 none maskedMoves any ∧
      Answers "host" (.bool true) 3000 (some .ipv6) (singleMoves (maskedEvents .aaaa)) ipv6 ∧
      Answers "host" (.bool true) 3000 (some .ipv4) (singleMoves (maskedEvents .a)) ipv4 ∧
      any = joined ipv6 ipv4 ∧ any = .ok [.ofEndpoint maskedEndpoint (.bool true)] := by
  have hjoins := any_family_joins_each (answersByKind_telling maskedEvents "host")
    (by decide : Value.IsInteger (.bool true)) 3000
  obtain ⟨hany, -⟩ := hjoins.1 [] [] [] () () ()
  refine ⟨⟨hany.trans rfl, rfl⟩, ?_⟩
  have hmoves : Answers "host" (.bool true) 3000 none maskedMoves _ := ⟨rfl, _, _, rfl, rfl⟩
  have hmoves6 : Answers "host" (.bool true) 3000 (some .ipv6)
      (singleMoves (maskedEvents .aaaa)) _ := ⟨rfl, _, _, rfl, rfl⟩
  have hmoves4 : Answers "host" (.bool true) 3000 (some .ipv4)
      (singleMoves (maskedEvents .a)) _ := ⟨rfl, _, _, rfl, rfl⟩
  obtain ⟨hjoined, -⟩ := hjoins.2 _ _ _ _ _ _ hmoves hmoves6 hmoves4 rfl rfl
  exact ⟨_, _, _, hmoves, hmoves6, hmoves4, hjoined, hjoined.trans rfl⟩

end ScriptSocket.Resolution
