import Mathlib.Data.List.Basic
import ScriptSocket.Proofs.Resolution.Rendezvous

/-!
# What a resolution answers

The reference makes the queries strictly one after the other: it keeps what each query found, in
order, and the failure of the last one (`answerInTurn`).  `Call.Accounts` is the invariant by which
a resolution under way agrees with it, whatever the order in which caller and resolver move:
entries, status and failure are those of the histories of the callbacks.
-/

namespace ScriptSocket.Resolution

def entriesOf (port : Value) (events : List Event) : List Entry :=
  (found events).map fun endpoint => .ofEndpoint endpoint port

/-- The status of a query that ended in failure. -/
def failureOf (events : List Event) : Option Status :=
  (verdict? events).filter Status.isError

/-- The answer of queries that are made one after the other and end before the next begins, from
the events on the callback of each: all entries found, or without any the failure of the last. -/
def answerInTurn (port : Value) (histories : List (List Event)) :
    Except Fault (List Entry) :=
  let entries := histories.flatMap (entriesOf port)
  match histories.getLast?.bind failureOf with
  | some status => if entries = [] then .error status.fault else .ok entries
  | none => .ok entries

/-- The histories of all callbacks, in the order of the queries. -/
def histories (moves : List Move) : List (List Event) :=
  (List.range (issues moves)).map fun pass => eventsOn pass moves

def refusals (moves : List Move) : List Errno :=
  moves.filterMap fun
    | .respond (.error errno) => some errno
    | _ => none

@[simp]
theorem refusals_append (moves later : List Move) :
    refusals (moves ++ later) = refusals moves ++ refusals later :=
  List.filterMap_append

theorem refusals_singleton_of_ne
    {move : Move} (hne : ∀ errno, move ≠ .respond (.error errno)) :
    refusals [move] = [] := by
  cases move with
  | respond outcome =>
      cases outcome with
      | ok value => rfl
      | error errno => exact absurd rfl (hne errno)
  | _ => rfl

theorem entriesOf_append_of_ended
    (port : Value) {events : List Event} (hended : Ended events) (later : List Event) :
    entriesOf port (events ++ later) = entriesOf port events := by
  unfold entriesOf
  rw [found_append_of_ended hended]

theorem entriesOf_append_of_not_ended
    (port : Value) {events : List Event} (hended : ¬ Ended events) (later : List Event) :
    entriesOf port (events ++ later) = entriesOf port events ++ entriesOf port later := by
  unfold entriesOf
  rw [found_append_of_not_ended hended, List.map_append]

theorem Status.isError_normalized (s : Status) : s.normalized.isError = s.isError := by
  unfold isError
  rw [normalized_normalized]

theorem Status.normalized_of_isError {s : Status} (herror : s.isError = true) :
    s.normalized = s := by
  unfold normalized
  rw [if_neg]
  rintro rfl
  revert herror
  decide

/-- The failure that the caller reads off the status which a query has left. -/
theorem failureOf_of_verdict?
    {events : List Event} {status : Status} (hverdict : verdict? events = some status) :
    (if status.normalized.isError then some status.normalized else none) = failureOf events := by
  unfold failureOf
  rw [hverdict, Status.isError_normalized, Option.filter_some]
  by_cases herror : status.isError = true
  · rw [if_pos herror, if_pos herror, Status.normalized_of_isError herror]
  · rw [if_neg herror, if_neg herror]

/-! ## What one event adds to the tally -/

/-- A tally after the given events on a callback that was fresh before. -/
def Tally.told (t : Tally) (port : Value) (events : List Event) : Tally where
  entries := t.entries ++ entriesOf port events
  status := ((verdict? events).map Status.normalized).getD t.status
  permits := if Ended events then t.permits.give else t.permits

theorem Callback.tally_handle_of_not_finished
    {callback : Callback} (hfinished : callback.finished = false)
    (port : Value) (t : Tally) (event : Event) :
    (callback.handle port t event).tally = t.told port [event] := by
  cases event with
  | release =>
      simp [handle, hfinished, Tally.finish, Tally.told, entriesOf, found, Ended, verdict?]
  | report status endpoint =>
      cases endpoint <;>
        simp [handle, hfinished, Tally.finish, Tally.add, Tally.told, entriesOf, found, Ended,
          verdict?]

theorem Callback.entries_handle_of_not_finished
    {callback : Callback} (hfinished : callback.finished = false)
    (port : Value) (t : Tally) (event : Event) :
    (callback.handle port t event).tally.entries = t.entries ++ entriesOf port [event] := by
  rw [tally_handle_of_not_finished hfinished]
  rfl

theorem Callback.status_handle_of_not_finished
    {callback : Callback} (hfinished : callback.finished = false)
    (port : Value) (t : Tally) {event : Event} {status : Status}
    (hverdict : verdict? [event] = some status) :
    (callback.handle port t event).tally.status = status.normalized := by
  rw [tally_handle_of_not_finished hfinished]
  simp [Tally.told, hverdict]

namespace Call

/-- The queries that a caller at a point has still to issue; a caller that has returned issues
none, whatever is left. -/
def Point.Left (rest : List QueryKind) : Point → Prop
  | .ready _ passes | .issuing _ passes | .waiting passes | .woken passes => passes = rest
  | .returned _ => True

def Point.IsReturned : Point → Prop
  | .returned _ => True
  | _ => False

/-- Entries, status, failure and answer after a run, told from its moves. -/
structure Accounts (host : String) (port : Value) (timeout : Nat) (passes : List QueryKind)
    (moves : List Move) (c : Call) : Prop where
  host_eq : c.host = host
  port_eq : c.port = port
  timeout_eq : c.timeout = timeout
  kinds : ∃ rest, c.callbacks.map (·.kind) ++ rest = passes ∧ Point.Left rest c.point
  unrefused : ¬ Point.IsReturned c.point → refusals moves = []
  entries : ¬ Point.IsReturned c.point →
    c.tally.entries = (histories moves).flatMap (entriesOf port)
  status : ∀ status, verdict? (eventsOn (issues moves - 1) moves) = some status →
    c.tally.status = status.normalized
  failure : ∀ failure rest, c.point = .ready failure rest →
    failure = failureOf (eventsOn (issues moves - 1) moves)
  returned : ∀ answer, c.point = .returned answer →
    (∃ errno, refusals moves = [errno] ∧ answer = .error (.system errno)) ∨
      (refusals moves = [] ∧ issues moves = passes.length ∧ wakes moves = issues moves ∧
        answer = answerInTurn port (histories moves))

theorem start_accounts
    (host : String) (port : Value) (timeout : Nat) (passes : List QueryKind) :
    (start host port timeout passes).Accounts host port timeout passes [] := by
  constructor <;>
    simp [start, Point.Left, Point.IsReturned, Tally.empty, histories, refusals, verdict?,
      failureOf]

theorem getLast?_histories (moves : List Move) :
    (histories moves).getLast? =
      if issues moves = 0 then none else some (eventsOn (issues moves - 1) moves) := by
  unfold histories
  rw [List.getLast?_map, List.getLast?_range]
  split <;> rfl

/-- What the last query ended in decides the answer as the caller reads it. -/
theorem answer_eq_answerInTurn
    {moves : List Move} {c : Call} (hrendezvous : c.Rendezvous moves) (port : Value) :
    answer (failureOf (eventsOn (issues moves - 1) moves))
        ((histories moves).flatMap (entriesOf port)) =
      answerInTurn port (histories moves) := by
  unfold answer answerInTurn
  rw [getLast?_histories]
  by_cases hzero : issues moves = 0
  · have hnone : eventsOn (issues moves - 1) moves = [] :=
      hrendezvous.untouched _ (by omega)
    rw [if_pos hzero, hnone]
    rfl
  · rw [if_neg hzero, Option.bind_some]
    cases failureOf (eventsOn (issues moves - 1) moves) <;> rfl

theorem histories_append_of_no_event
    {moves : List Move} {move : Move} (hissue : move.isIssue = false)
    (hevents : ∀ pass, eventsOn pass [move] = []) :
    histories (moves ++ [move]) = histories moves := by
  unfold histories
  simp [hissue, hevents]

/-- The caller's moves, other than issuing a query, keep the accounts as far as the histories go;
what they say about the place they lead to is left to show. -/
theorem Accounts.afterOther
    {host : String} {port : Value} {timeout : Nat} {passes : List QueryKind}
    {moves : List Move} {c d : Call} {move : Move}
    (hinv : c.Accounts host port timeout passes moves)
    (hevents : ∀ pass, eventsOn pass [move] = []) (hissue : move.isIssue = false)
    (hhost : d.host = c.host) (hport : d.port = c.port) (htimeout : d.timeout = c.timeout)
    (hcallbacks : d.callbacks = c.callbacks)
    (hleft : ∀ rest, Point.Left rest c.point → Point.Left rest d.point)
    (hunreturned : ¬ Point.IsReturned c.point)
    (hrefusals : ¬ Point.IsReturned d.point → refusals [move] = [])
    (hentries : ¬ Point.IsReturned d.point → d.tally.entries = c.tally.entries)
    (hstatus : d.tally.status = c.tally.status)
    (hfailure : ∀ failure rest, d.point = .ready failure rest →
      failure = failureOf (eventsOn (issues moves - 1) moves))
    (hreturned : ∀ answer, d.point = .returned answer →
      (∃ errno, refusals [move] = [errno] ∧ answer = .error (.system errno)) ∨
        (refusals [move] = [] ∧ issues moves = passes.length ∧
          wakes (moves ++ [move]) = issues moves ∧
          answer = answerInTurn port (histories moves))) :
    d.Accounts host port timeout passes (moves ++ [move]) := by
  have hsame : ∀ pass, eventsOn pass (moves ++ [move]) = eventsOn pass moves := by
    intro pass
    rw [eventsOn_append, hevents pass, List.append_nil]
  have hissues : issues (moves ++ [move]) = issues moves := by simp [hissue]
  have hhistories : histories (moves ++ [move]) = histories moves :=
    histories_append_of_no_event hissue hevents
  have hbefore : refusals moves = [] := hinv.unrefused hunreturned
  constructor
  · rw [hhost, hinv.host_eq]
  · rw [hport, hinv.port_eq]
  · rw [htimeout, hinv.timeout_eq]
  · obtain ⟨rest, hkinds, hrest⟩ := hinv.kinds
    rw [hcallbacks]
    exact ⟨rest, hkinds, hleft rest hrest⟩
  · intro hpoint
    rw [refusals_append, hbefore, hrefusals hpoint, List.append_nil]
  · intro hpoint
    rw [hentries hpoint, hhistories]
    exact hinv.entries hunreturned
  · intro status hverdict
    rw [hissues, hsame] at hverdict
    rw [hstatus]
    exact hinv.status status hverdict
  · intro failure rest hpoint
    rw [hissues, hsame]
    exact hfailure failure rest hpoint
  · intro answer hpoint
    rw [refusals_append, hbefore, List.nil_append, hissues, hhistories]
    exact hreturned answer hpoint

theorem Accounts.afterIssue
    {host : String} {port : Value} {timeout : Nat} {passes : List QueryKind}
    {moves : List Move} {c : Call} (hrendezvous : c.Rendezvous moves)
    (hinv : c.Accounts host port timeout passes moves)
    {failure : Option Status} {kind : QueryKind} {later : List QueryKind}
    (hpoint : c.point = .ready failure (kind :: later)) :
    ({ c with point := .issuing kind later, callbacks := c.callbacks ++ [.fresh kind] } :
      Call).Accounts host port timeout passes (moves ++ [.issue]) := by
  have hunreturned : ¬ Point.IsReturned c.point := by simp [hpoint, Point.IsReturned]
  have hissues : issues (moves ++ [.issue]) = issues moves + 1 := by simp [Move.isIssue]
  have hnew : eventsOn (issues moves) moves = [] := hrendezvous.untouched _ (Nat.le_refl _)
  constructor
  · exact hinv.host_eq
  · exact hinv.port_eq
  · exact hinv.timeout_eq
  · obtain ⟨rest, hkinds, hrest⟩ := hinv.kinds
    rw [hpoint] at hrest
    refine ⟨later, ?_, rfl⟩
    simp only [Point.Left] at hrest
    rw [← hkinds, ← hrest]
    simp [Callback.fresh]
  · intro _
    rw [refusals_append, hinv.unrefused hunreturned]
    rfl
  · intro _
    have hentries := hinv.entries hunreturned
    have hsame : histories (moves ++ [.issue]) = histories moves ++ [[]] := by
      unfold histories
      rw [hissues, List.range_succ, List.map_append]
      simp [hnew]
    rw [hsame, List.flatMap_append, ← hentries]
    simp [entriesOf, found]
  · intro status hverdict
    rw [hissues] at hverdict
    simp [hnew, verdict?] at hverdict
  · intro failure rest hready
    simp at hready
  · intro answer hreturned
    simp at hreturned

theorem map_kind_set_handle
    {c : Call} {pass : Nat} {callback : Callback}
    (hcallback : c.callbacks[pass]? = some callback) (event : Event) :
    (c.callbacks.set pass (callback.handle c.port c.tally event).callback).map (·.kind) =
      c.callbacks.map (·.kind) := by
  obtain ⟨hlt, hget⟩ := List.getElem?_eq_some_iff.mp hcallback
  have hkind : pass < (c.callbacks.map (·.kind)).length := by simpa using hlt
  have hself : (c.callbacks.map (·.kind)).set pass (c.callbacks.map (·.kind))[pass] =
      c.callbacks.map (·.kind) := List.set_getElem_self hkind
  rw [List.map_set, Callback.kind_handle, ← hget]
  simpa using hself

theorem flatMap_histories (port : Value) (moves : List Move) :
    (histories moves).flatMap (entriesOf port) =
      (List.range (issues moves)).flatMap fun pass => entriesOf port (eventsOn pass moves) := by
  unfold histories
  rw [List.flatMap_map]

theorem issues_callback (moves : List Move) (pass : Nat) (event : Event) :
    issues (moves ++ [.callback pass event]) = issues moves := by
  simp [Move.isIssue]

/-- An event on a callback whose query has ended changes neither what any query found nor how it
ended. -/
theorem verdict?_of_stale
    {moves : List Move} {pass : Nat} (hended : Ended (eventsOn pass moves)) (event : Event)
    (other : Nat) :
    verdict? (eventsOn other (moves ++ [.callback pass event])) =
      verdict? (eventsOn other moves) := by
  rw [eventsOn_append]
  by_cases heq : pass = other
  · subst heq
    exact verdict?_append_of_ended hended _
  · rw [eventsOn_callback_of_ne heq, List.append_nil]

theorem flatMap_histories_of_stale
    {moves : List Move} {pass : Nat} (hended : Ended (eventsOn pass moves)) (event : Event)
    (port : Value) :
    (histories (moves ++ [.callback pass event])).flatMap (entriesOf port) =
      (histories moves).flatMap (entriesOf port) := by
  rw [flatMap_histories, flatMap_histories, issues_callback]
  congr 1
  funext other
  rw [eventsOn_append]
  by_cases heq : pass = other
  · subst heq
    exact entriesOf_append_of_ended port hended _
  · rw [eventsOn_callback_of_ne heq, List.append_nil]

theorem answerInTurn_of_stale
    {moves : List Move} {pass : Nat} (hended : Ended (eventsOn pass moves)) (event : Event)
    (port : Value) :
    answerInTurn port (histories (moves ++ [.callback pass event])) =
      answerInTurn port (histories moves) := by
  unfold answerInTurn
  rw [flatMap_histories_of_stale hended, getLast?_histories, getLast?_histories,
    issues_callback]
  by_cases hzero : issues moves = 0
  · rw [if_pos hzero, if_pos hzero]
  · rw [if_neg hzero, if_neg hzero, Option.bind_some, Option.bind_some]
    unfold failureOf
    rw [verdict?_of_stale hended]

/-- An event on the callback of the last query, not ended yet, adds its entries at the end. -/
theorem flatMap_histories_of_current
    {moves : List Move} {pass : Nat} (hended : ¬ Ended (eventsOn pass moves))
    (hlast : pass + 1 = issues moves) (event : Event) (port : Value) :
    (histories (moves ++ [.callback pass event])).flatMap (entriesOf port) =
      (histories moves).flatMap (entriesOf port) ++ entriesOf port [event] := by
  have hearlier :
      (List.range pass).flatMap
          (fun other => entriesOf port (eventsOn other (moves ++ [.callback pass event]))) =
        (List.range pass).flatMap fun other => entriesOf port (eventsOn other moves) := by
    apply List.flatMap_congr
    intro other hother
    have hne : pass ≠ other := by
      have hlt := List.mem_range.mp hother
      omega
    rw [eventsOn_append, eventsOn_callback_of_ne hne, List.append_nil]
  rw [flatMap_histories, flatMap_histories, issues_callback, ← hlast, List.range_succ,
    List.flatMap_append, List.flatMap_append, hearlier]
  simp [entriesOf_append_of_not_ended port hended]

theorem Accounts.afterCallback
    {host : String} {port : Value} {timeout : Nat} {passes : List QueryKind}
    {moves : List Move} {c : Call} (hrendezvous : c.Rendezvous moves)
    (hinv : c.Accounts host port timeout passes moves)
    {pass : Nat} {event : Event} {callback : Callback}
    (hcallback : c.callbacks[pass]? = some callback) :
    ({ c with
        tally := (callback.handle c.port c.tally event).tally
        callbacks := c.callbacks.set pass (callback.handle c.port c.tally event).callback } :
      Call).Accounts host port timeout passes (moves ++ [.callback pass event]) := by
  have hpass : pass < c.callbacks.length := by
    obtain ⟨hlt, -⟩ := List.getElem?_eq_some_iff.mp hcallback
    exact hlt
  have hfinished := hrendezvous.finished_iff pass callback hcallback
  have hrefusals : refusals (moves ++ [.callback pass event]) = refusals moves := by
    rw [refusals_append, refusals_singleton_of_ne (by simp), List.append_nil]
  have hwakes : wakes (moves ++ [.callback pass event]) = wakes moves := by
    simp [Move.isWake]
  have hkinds : ∃ rest,
      (c.callbacks.set pass (callback.handle c.port c.tally event).callback).map (·.kind) ++
        rest = passes ∧ Point.Left rest c.point := by
    rw [map_kind_set_handle hcallback]
    exact hinv.kinds
  by_cases hended : Ended (eventsOn pass moves)
  · -- the callback has finished, and the tally and all histories stay as they are
    have htally := Callback.handle_tally_of_finished (hfinished.mpr hended) c.port c.tally event
    constructor
    · exact hinv.host_eq
    · exact hinv.port_eq
    · exact hinv.timeout_eq
    · exact hkinds
    · rw [hrefusals]
      exact hinv.unrefused
    · intro hpoint
      rw [flatMap_histories_of_stale hended, htally]
      exact hinv.entries hpoint
    · intro status hverdict
      rw [issues_callback, verdict?_of_stale hended] at hverdict
      rw [htally]
      exact hinv.status status hverdict
    · intro failure rest hpoint
      rw [issues_callback]
      unfold failureOf
      rw [verdict?_of_stale hended]
      exact hinv.failure failure rest hpoint
    · intro answer hpoint
      rw [hrefusals, issues_callback, hwakes, answerInTurn_of_stale hended]
      exact hinv.returned answer hpoint
  · -- the callback is that of the last query, whose permit the caller has not taken
    obtain ⟨hcurrent, hlast⟩ := hrendezvous.pass_of_not_ended hpass hended
    have hserved := hrendezvous.served
    have hunfinished : callback.finished = false := by
      rw [Bool.eq_false_iff]
      exact mt hfinished.mp hended
    constructor
    · exact hinv.host_eq
    · exact hinv.port_eq
    · exact hinv.timeout_eq
    · exact hkinds
    · rw [hrefusals]
      exact hinv.unrefused
    · intro hpoint
      rw [flatMap_histories_of_current hended hlast, hinv.port_eq,
        Callback.entries_handle_of_not_finished hunfinished, hinv.entries hpoint]
    · intro status hverdict
      rw [issues_callback, ← hlast, Nat.add_sub_cancel, eventsOn_append,
        eventsOn_callback_self, verdict?_append_of_not_ended hended] at hverdict
      exact Callback.status_handle_of_not_finished hunfinished c.port c.tally hverdict
    · intro failure rest hpoint
      simp only at hpoint
      rw [hpoint] at hserved
      simp only [Point.Served] at hserved
      omega
    · intro answer hpoint
      rw [hrefusals]
      rcases hinv.returned answer hpoint with hrefused | ⟨-, -, htaken, -⟩
      · exact Or.inl hrefused
      · omega

theorem Accounts.afterStep
    {host : String} {port : Value} {timeout : Nat} {passes : List QueryKind}
    {moves : List Move} {c d : Call} {move : Move} (hrendezvous : c.Rendezvous moves)
    (hinv : c.Accounts host port timeout passes moves) (hstep : Step c move d) :
    d.Accounts host port timeout passes (moves ++ [move]) := by
  have hserved := hrendezvous.served
  cases hstep with
  | issue hpoint => exact hinv.afterIssue hrendezvous hpoint
  | accept hpoint =>
      have hunreturned : ¬ Point.IsReturned c.point := by simp [hpoint, Point.IsReturned]
      refine hinv.afterOther (by simp) rfl rfl rfl rfl rfl ?_ hunreturned
        (fun _ => rfl) (fun _ => rfl) rfl (by simp) (by simp)
      intro rest hleft
      rw [hpoint] at hleft
      exact hleft
  | @refuse kind later errno hpoint =>
      have hunreturned : ¬ Point.IsReturned c.point := by simp [hpoint, Point.IsReturned]
      refine hinv.afterOther (by simp) rfl rfl rfl rfl rfl (fun _ _ => trivial) hunreturned
        (fun hnot => absurd trivial hnot) (fun hnot => absurd trivial hnot) rfl (by simp) ?_
      intro answer hpoint
      cases hpoint
      exact Or.inl ⟨errno, rfl, rfl⟩
  | wake hpoint htake =>
      have hunreturned : ¬ Point.IsReturned c.point := by simp [hpoint, Point.IsReturned]
      refine hinv.afterOther (by simp) rfl rfl rfl rfl rfl ?_ hunreturned
        (fun _ => rfl) (fun _ => rfl) rfl (by simp) (by simp)
      intro rest hleft
      rw [hpoint] at hleft
      exact hleft
  | readStatus hpoint =>
      have hunreturned : ¬ Point.IsReturned c.point := by simp [hpoint, Point.IsReturned]
      rw [hpoint] at hserved
      simp only [Point.Served] at hserved
      refine hinv.afterOther (by simp) rfl rfl rfl rfl rfl ?_ hunreturned
        (fun _ => rfl) (fun _ => rfl) rfl ?_ (by simp)
      · intro rest hleft
        rw [hpoint] at hleft
        exact hleft
      · intro failure rest hready
        simp only [Point.ready.injEq] at hready
        obtain ⟨rfl, -⟩ := hready
        -- the query has ended, since the caller has taken its permit
        have hended : Ended (eventsOn (issues moves - 1) moves) :=
          hrendezvous.taken_ended _ (by omega)
        obtain ⟨status, hverdict⟩ := ended_iff_exists.mp hended
        rw [hinv.status status hverdict, failureOf_of_verdict? hverdict]
  | collect hpoint =>
      have hunreturned : ¬ Point.IsReturned c.point := by simp [hpoint, Point.IsReturned]
      refine hinv.afterOther (by simp) rfl rfl rfl rfl rfl (fun _ _ => trivial) hunreturned
        (fun hnot => absurd trivial hnot) (fun hnot => absurd trivial hnot) rfl (by simp) ?_
      intro answer hreturned
      cases hreturned
      have hfailure := hinv.failure _ _ hpoint
      obtain ⟨rest, hkinds, hleft⟩ := hinv.kinds
      rw [hpoint] at hleft
      simp only [Point.Left] at hleft
      refine Or.inr ⟨rfl, ?_, ?_, ?_⟩
      · rw [← hrendezvous.issued, ← hkinds, ← hleft]
        simp
      · simpa [Move.isWake] using hrendezvous.taken_of_ready hpoint
      · rw [hfailure, hinv.entries hunreturned]
        exact answer_eq_answerInTurn hrendezvous port
  | callback hcallback hheld => exact hinv.afterCallback hrendezvous hcallback

theorem accounts_of_replay
    {host : String} {port : Value} {timeout : Nat} {passes : List QueryKind}
    {moves : List Move} {c : Call} {notices : List Notice}
    (hrun : (start host port timeout passes).replay? moves = some (c, notices)) :
    c.Accounts host port timeout passes moves := by
  refine replay?_induction
    (P := fun moves c => c.Accounts host port timeout passes moves)
    (start_accounts host port timeout passes) ?_ hrun
  intro moves c first move d second hfirst hstep hinv
  exact hinv.afterStep (rendezvous_of_replay hfirst) (step_of_step? hstep)

/-- A query is issued only when every query before it has ended. -/
theorem ended_before_issue
    {host : String} {port : Value} {timeout : Nat} {passes : List QueryKind}
    {before after : List Move} {c : Call} {notices : List Notice}
    (hrun : (start host port timeout passes).replay? (before ++ .issue :: after) =
      some (c, notices))
    {pass : Nat} (hpass : pass < issues before) : Ended (eventsOn pass before) := by
  rw [List.append_cons] at hrun
  obtain ⟨b, first, second, hissued, -⟩ := replay?_append_eq_some hrun
  obtain ⟨d, third, fourth, hbefore, hissue⟩ := replay?_append_eq_some hissued
  obtain ⟨said, hstep⟩ := replay?_singleton hissue
  have hinv := rendezvous_of_replay hbefore
  cases step_of_step? hstep with
  | issue hpoint =>
      have htaken := hinv.taken_of_ready hpoint
      exact hinv.taken_ended pass (by omega)

end Call

end ScriptSocket.Resolution
