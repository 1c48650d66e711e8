import Mathlib.Data.List.Induction
import ScriptSocket.Resolution.Call

/-!
# Runs of a resolution and their histories

A run of a resolution is a list of moves that `Call.replay?` can make, in whatever order caller and
resolver made them.  From the moves alone this file reads what happened to the callback of each
query (`eventsOn`), what the query found and how it ended, and how far the caller got.

`Call.Step` is one move with its guard and its effect, and `Call.replay?_induction` carries a
property of moves and state over all runs from a given start.
-/

namespace ScriptSocket.Resolution

/-- The events on the callback of one query, in order. -/
def eventsOn (pass : Nat) (moves : List Move) : List Event :=
  moves.filterMap fun
    | .callback other event => if other = pass then some event else none
    | _ => none

def Move.isIssue : Move → Bool
  | .issue => true
  | _ => false

def Move.isWake : Move → Bool
  | .wake => true
  | _ => false

def issues (moves : List Move) : Nat := moves.countP Move.isIssue

def wakes (moves : List Move) : Nat := moves.countP Move.isWake

/-- The addresses that a query reported before it ended. -/
def found : List Event → List Endpoint
  | .report _ (some endpoint) :: events => endpoint :: found events
  | _ => []

/-- How a query ended: by its first report without an address, or released before any. -/
def verdict? : List Event → Option Status
  | [] => none
  | .report _ (some _) :: events => verdict? events
  | .report status none :: _ => some status
  | .release :: _ => some .failed

/-- A query has ended once the resolver made an address-less report or let its callback go. -/
def Ended (events : List Event) : Prop := (verdict? events).isSome

instance (events : List Event) : Decidable (Ended events) := by unfold Ended; infer_instance

theorem ended_iff_exists {events : List Event} :
    Ended events ↔ ∃ status, verdict? events = some status := by
  unfold Ended
  exact Option.isSome_iff_exists

theorem ended_iff_mem {events : List Event} :
    Ended events ↔
      (∃ status, Event.report status none ∈ events) ∨ Event.release ∈ events := by
  unfold Ended
  induction events with
  | nil => simp [verdict?]
  | cons event events ih =>
      cases event with
      | release => simp [verdict?]
      | report status endpoint =>
          cases endpoint with
          | none => simp [verdict?]
          | some endpoint => simp [verdict?, ih]

/-- The events that end a query if nothing has ended it before. -/
def Event.Ends : Event → Prop
  | .report _ none => True
  | .release => True
  | .report _ (some _) => False

theorem ended_singleton_iff {event : Event} : Ended [event] ↔ event.Ends := by
  cases event with
  | release => simp [Ended, verdict?, Event.Ends]
  | report status endpoint => cases endpoint <;> simp [Ended, verdict?, Event.Ends]

theorem verdict?_append_of_ended
    {events : List Event} (hended : Ended events) (later : List Event) :
    verdict? (events ++ later) = verdict? events := by
  induction events with
  | nil => simp [Ended, verdict?] at hended
  | cons event events ih =>
      cases event with
      | release => rfl
      | report status endpoint =>
          cases endpoint with
          | none => rfl
          | some endpoint => exact ih hended

theorem found_append_of_ended
    {events : List Event} (hended : Ended events) (later : List Event) :
    found (events ++ later) = found events := by
  induction events with
  | nil => simp [Ended, verdict?] at hended
  | cons event events ih =>
      cases event with
      | release => rfl
      | report status endpoint =>
          cases endpoint with
          | none => rfl
          | some endpoint => exact congrArg (endpoint :: ·) (ih hended)

theorem verdict?_append_of_not_ended
    {events : List Event} (hended : ¬ Ended events) (later : List Event) :
    verdict? (events ++ later) = verdict? later := by
  induction events with
  | nil => rfl
  | cons event events ih =>
      cases event with
      | release => simp [Ended, verdict?] at hended
      | report status endpoint =>
          cases endpoint with
          | none => simp [Ended, verdict?] at hended
          | some endpoint => exact ih hended

theorem found_append_of_not_ended
    {events : List Event} (hended : ¬ Ended events) (later : List Event) :
    found (events ++ later) = found events ++ found later := by
  induction events with
  | nil => rfl
  | cons event events ih =>
      cases event with
      | release => simp [Ended, verdict?] at hended
      | report status endpoint =>
          cases endpoint with
          | none => simp [Ended, verdict?] at hended
          | some endpoint => exact congrArg (endpoint :: ·) (ih hended)

theorem ended_append_iff {events later : List Event} :
    Ended (events ++ later) ↔ Ended events ∨ Ended later := by
  by_cases hended : Ended events
  · have hverdict := verdict?_append_of_ended hended later
    unfold Ended at hended ⊢
    simp [hverdict, hended]
  · have hverdict := verdict?_append_of_not_ended hended later
    unfold Ended at hended ⊢
    simp [hverdict, hended]

/-! ## What one more move adds to a history -/

@[simp]
theorem eventsOn_append (pass : Nat) (moves later : List Move) :
    eventsOn pass (moves ++ later) = eventsOn pass moves ++ eventsOn pass later :=
  List.filterMap_append

@[simp]
theorem eventsOn_nil (pass : Nat) : eventsOn pass [] = [] := rfl

theorem eventsOn_callback (pass other : Nat) (event : Event) :
    eventsOn pass [.callback other event] = if other = pass then [event] else [] := by
  unfold eventsOn
  by_cases heq : other = pass <;> simp [heq]

@[simp]
theorem eventsOn_callback_self (pass : Nat) (event : Event) :
    eventsOn pass [.callback pass event] = [event] := by
  simp [eventsOn_callback]

theorem eventsOn_callback_of_ne {pass other : Nat} (hne : other ≠ pass) (event : Event) :
    eventsOn pass [.callback other event] = [] := by
  simp [eventsOn_callback, hne]

@[simp]
theorem eventsOn_issue (pass : Nat) : eventsOn pass [.issue] = [] := rfl

@[simp]
theorem eventsOn_respond (pass : Nat) (outcome : Except Errno Unit) :
    eventsOn pass [.respond outcome] = [] := rfl

@[simp]
theorem eventsOn_wake (pass : Nat) : eventsOn pass [.wake] = [] := rfl

@[simp]
theorem eventsOn_readStatus (pass : Nat) : eventsOn pass [.readStatus] = [] := rfl

@[simp]
theorem eventsOn_collect (pass : Nat) : eventsOn pass [.collect] = [] := rfl

@[simp]
theorem issues_append (moves later : List Move) :
    issues (moves ++ later) = issues moves + issues later :=
  List.countP_append

@[simp]
theorem wakes_append (moves later : List Move) :
    wakes (moves ++ later) = wakes moves + wakes later :=
  List.countP_append

@[simp]
theorem issues_nil : issues [] = 0 := rfl

@[simp]
theorem wakes_nil : wakes [] = 0 := rfl

@[simp]
theorem issues_singleton (move : Move) :
    issues [move] = if move.isIssue then 1 else 0 :=
  List.countP_singleton

@[simp]
theorem wakes_singleton (move : Move) :
    wakes [move] = if move.isWake then 1 else 0 :=
  List.countP_singleton

namespace Call

/-! ## One move -/

/-- One move of either side: when it can be made, and what it leaves. -/
inductive Step (c : Call) : Move → Call → Prop where
  | issue {failure : Option Status} {kind : QueryKind} {passes : List QueryKind}
      (hpoint : c.point = .ready failure (kind :: passes)) :
      Step c .issue
        { c with point := .issuing kind passes, callbacks := c.callbacks ++ [.fresh kind] }
  | accept {kind : QueryKind} {passes : List QueryKind}
      (hpoint : c.point = .issuing kind passes) :
      Step c (.respond (.ok ())) { c with point := .waiting passes }
  | refuse {kind : QueryKind} {passes : List QueryKind} {errno : Errno}
      (hpoint : c.point = .issuing kind passes) :
      Step c (.respond (.error errno)) { c with point := .returned (.error (.system errno)) }
  | wake {passes : List QueryKind} {permits : Semaphore}
      (hpoint : c.point = .waiting passes) (htake : c.tally.permits.take? = some permits) :
      Step c .wake
        { c with point := .woken passes, tally := { c.tally with permits := permits } }
  | readStatus {passes : List QueryKind} (hpoint : c.point = .woken passes) :
      Step c .readStatus
        { c with
          point :=
            .ready (if c.tally.status.isError then some c.tally.status else none) passes }
  | collect {failure : Option Status} (hpoint : c.point = .ready failure []) :
      Step c .collect
        { c with
          point := .returned (answer failure c.tally.entries)
          tally := { c.tally with entries := [] } }
  | callback {pass : Nat} {event : Event} {callback : Callback}
      (hcallback : c.callbacks[pass]? = some callback) (hheld : callback.held = true) :
      Step c (.callback pass event)
        { c with
          tally := (callback.handle c.port c.tally event).tally
          callbacks :=
            c.callbacks.set pass (callback.handle c.port c.tally event).callback }

theorem step_of_step? {c d : Call} {move : Move} {notices : List Notice}
    (hstep : c.step? move = some (d, notices)) : Step c move d := by
  cases move with
  | issue =>
      simp only [step?] at hstep
      split at hstep
      · rename_i hpoint
        cases hstep
        exact .issue hpoint
      · cases hstep
  | respond outcome =>
      simp only [step?] at hstep
      split at hstep
      · rename_i hpoint
        cases hstep
        exact .accept hpoint
      · rename_i hpoint
        cases hstep
        exact .refuse hpoint
      · cases hstep
  | wake =>
      simp only [step?] at hstep
      split at hstep
      · rename_i hpoint
        obtain ⟨permits, htake, heq⟩ := Option.map_eq_some_iff.mp hstep
        cases heq
        exact .wake hpoint htake
      · cases hstep
  | readStatus =>
      simp only [step?] at hstep
      split at hstep
      · rename_i hpoint
        cases hstep
        exact .readStatus hpoint
      · cases hstep
  | collect =>
      simp only [step?] at hstep
      split at hstep
      · rename_i hpoint
        cases hstep
        exact .collect hpoint
      · cases hstep
  | callback pass event =>
      simp only [step?] at hstep
      split at hstep
      · rename_i hcallback
        split at hstep
        · rename_i hheld
          cases hstep
          exact .callback hcallback hheld
        · cases hstep
      · cases hstep

/-! ## Runs -/

theorem replay?_append (c : Call) (moves later : List Move) :
    c.replay? (moves ++ later) =
      (c.replay? moves).bind fun first =>
        (first.1.replay? later).map fun others => (others.1, first.2 ++ others.2) := by
  induction moves generalizing c with
  | nil =>
      simp only [List.nil_append, replay?, Option.bind_some]
      cases c.replay? later <;> rfl
  | cons move moves ih =>
      simp only [List.cons_append, replay?]
      cases c.step? move with
      | none => rfl
      | some first =>
          simp only [Option.bind_some, ih]
          cases first.1.replay? moves with
          | none => rfl
          | some second =>
              simp only [Option.map_some, Option.bind_some, Option.map_map]
              congr 1
              funext others
              simp

theorem replay?_append_eq_some
    {c e : Call} {moves later : List Move} {notices : List Notice}
    (hrun : c.replay? (moves ++ later) = some (e, notices)) :
    ∃ d first second, c.replay? moves = some (d, first) ∧
      d.replay? later = some (e, second) := by
  rw [replay?_append] at hrun
  obtain ⟨⟨d, first⟩, hfirst, hrest⟩ := Option.bind_eq_some_iff.mp hrun
  obtain ⟨⟨last, second⟩, hsecond, heq⟩ := Option.map_eq_some_iff.mp hrest
  cases heq
  exact ⟨d, first, second, hfirst, hsecond⟩

theorem replay?_singleton {c d : Call} {move : Move} {notices : List Notice}
    (hrun : c.replay? [move] = some (d, notices)) :
    ∃ said, c.step? move = some (d, said) := by
  simp only [replay?] at hrun
  obtain ⟨⟨next, said⟩, hstep, hlast⟩ := Option.bind_eq_some_iff.mp hrun
  simp only [Option.map_some, Option.some.injEq, Prod.mk.injEq] at hlast
  obtain ⟨rfl, -⟩ := hlast
  exact ⟨said, hstep⟩

/-- What holds at the start and is kept by every move holds after every run. -/
theorem replay?_induction {start : Call} {P : List Move → Call → Prop}
    (hstart : P [] start)
    (hstep : ∀ moves c first move d second, start.replay? moves = some (c, first) →
      c.step? move = some (d, second) → P moves c → P (moves ++ [move]) d)
    {moves : List Move} {c : Call} {notices : List Notice}
    (hrun : start.replay? moves = some (c, notices)) : P moves c := by
  induction moves using List.reverseRecOn generalizing c notices with
  | nil =>
      simp only [replay?, Option.some.injEq, Prod.mk.injEq] at hrun
      obtain ⟨rfl, -⟩ := hrun
      exact hstart
  | append_singleton moves move ih =>
      obtain ⟨between, first, second, hfirst, hlast⟩ := replay?_append_eq_some hrun
      obtain ⟨said, hmove⟩ := replay?_singleton hlast
      exact hstep moves between first move c said hfirst hmove (ih hfirst)

/-- What an onlooker who sees the state before and after every move writes down during a run. -/
def observe {α : Type} (look : Call → Move → Call → List α) (c : Call) : List Move → List α
  | [] => []
  | move :: moves =>
    match c.step? move with
    | none => []
    | some (d, _) => look c move d ++ d.observe look moves

theorem observe_append
    {α : Type} (look : Call → Move → Call → List α)
    {c d : Call} {moves : List Move} {notices : List Notice}
    (hrun : c.replay? moves = some (d, notices)) (later : List Move) :
    c.observe look (moves ++ later) = c.observe look moves ++ d.observe look later := by
  induction moves generalizing c notices with
  | nil =>
      simp only [replay?, Option.some.injEq, Prod.mk.injEq] at hrun
      obtain ⟨rfl, -⟩ := hrun
      rfl
  | cons move moves ih =>
      simp only [replay?] at hrun
      obtain ⟨⟨next, said⟩, hmove, hrest⟩ := Option.bind_eq_some_iff.mp hrun
      obtain ⟨⟨last, others⟩, hlater, heq⟩ := Option.map_eq_some_iff.mp hrest
      cases heq
      simp only [List.cons_append, observe, hmove, List.append_assoc]
      rw [ih hlater]

theorem observe_singleton
    {α : Type} (look : Call → Move → Call → List α)
    {c d : Call} {move : Move} {notices : List Notice}
    (hstep : c.step? move = some (d, notices)) : c.observe look [move] = look c move d := by
  simp [observe, hstep]

end Call

end ScriptSocket.Resolution
