import Mathlib.Data.List.Forall2
import ScriptSocket.Proofs.Resolution.Accounts

/-!
# The life of a callback

A callback is made for one query, used by the resolver as often as it likes, and released.
`Callback.told` is what has become of it after some events, whoever else moved in between
(`Call.callback_of_replay`).  What each event came to, with the tally as others had left it, makes
up its `Life`: it adds entries, closes the query once with a status and a permit, and is ignored
from then on.
-/

namespace ScriptSocket.Resolution

/-- The callback of a query after the given events. -/
def Callback.told (kind : QueryKind) (events : List Event) : Callback :=
  ⟨kind, decide (Ended events), decide (Event.release ∉ events)⟩

/-! ## One event more -/

@[simp]
theorem Callback.told_nil (kind : QueryKind) : told kind [] = fresh kind := by
  simp [told, fresh, Ended, verdict?]

@[simp]
theorem Tally.told_nil (t : Tally) (port : Value) : t.told port [] = t := by
  simp [told, entriesOf, found, Ended, verdict?]

theorem Callback.eq_told_iff {callback : Callback} {kind : QueryKind} {events : List Event} :
    callback = told kind events ↔
      callback.kind = kind ∧ (callback.finished = true ↔ Ended events) ∧
        (callback.held = true ↔ Event.release ∉ events) := by
  obtain ⟨actual, finished, held⟩ := callback
  rw [told, mk.injEq]
  cases finished <;> cases held <;> simp

theorem Callback.handle_told
    (kind : QueryKind) (events : List Event) (port : Value) (t : Tally) (event : Event) :
    ((told kind events).handle port t event).callback = told kind (events ++ [event]) := by
  obtain ⟨hkind, hfinished, hheld⟩ := eq_told_iff.mp (Eq.refl (told kind events))
  refine eq_told_iff.mpr ⟨?_, ?_, ?_⟩
  · rw [kind_handle, hkind]
  · rw [finished_handle_iff, hfinished, ended_append_iff, ended_singleton_iff]
  · rw [held_handle_iff, hheld]
    simp [eq_comm]

theorem verdict?_of_not_ended {events : List Event} (hended : ¬ Ended events) :
    verdict? events = none := by
  simpa [Ended] using hended

theorem Tally.told_append_of_ended
    {events : List Event} (hended : Ended events) (t : Tally) (port : Value)
    (later : List Event) : t.told port (events ++ later) = t.told port events := by
  have hstill : Ended (events ++ later) := ended_append_iff.mpr (Or.inl hended)
  simp only [told, entriesOf_append_of_ended port hended, verdict?_append_of_ended hended,
    if_pos hended, if_pos hstill]

theorem Tally.told_append_of_not_ended
    {events : List Event} (hended : ¬ Ended events) (t : Tally) (port : Value)
    (later : List Event) :
    t.told port (events ++ later) = (t.told port events).told port later := by
  simp only [told, entriesOf_append_of_not_ended port hended,
    verdict?_append_of_not_ended hended, ended_append_iff, hended, false_or,
    verdict?_of_not_ended hended, List.append_assoc, Option.map_none, Option.getD_none, if_false]

theorem Tally.handle_told
    (t : Tally) (kind : QueryKind) (events : List Event) (port : Value) (event : Event) :
    ((Callback.told kind events).handle port (t.told port events) event).tally =
      t.told port (events ++ [event]) := by
  by_cases hended : Ended events
  · rw [Callback.handle_tally_of_finished (by simp [Callback.told, hended]),
      told_append_of_ended hended]
  · rw [Callback.tally_handle_of_not_finished (by simp [Callback.told, hended]),
      told_append_of_not_ended hended]

/-- The release ends a life that no report has ended, as a failure. -/
theorem Tally.told_release (t : Tally) (port : Value) (calls : List Event) :
    t.told port (calls ++ [.release]) =
      ⟨t.entries ++ entriesOf port calls, ((verdict? calls).getD .failed).normalized,
        t.permits.give⟩ := by
  by_cases hended : Ended calls
  · obtain ⟨status, hverdict⟩ := ended_iff_exists.mp hended
    rw [told_append_of_ended hended]
    simp [told, hverdict, hended]
  · rw [told_append_of_not_ended hended]
    simp [told, verdict?_of_not_ended hended, entriesOf, found, verdict?, Ended]

/-! ## The event that ends a query -/

section

variable {early : List Event} {event : Event} {status : Status}

theorem verdict?_of_first
    (hearly : ¬ Ended early) (hverdict : verdict? [event] = some status) (late : List Event) :
    verdict? (early ++ event :: late) = some status := by
  have hends : Ended [event] := ended_iff_exists.mpr ⟨status, hverdict⟩
  rw [verdict?_append_of_not_ended hearly, ← List.singleton_append,
    verdict?_append_of_ended hends, hverdict]

theorem ended_of_first
    (hearly : ¬ Ended early) (hverdict : verdict? [event] = some status) (late : List Event) :
    Ended (early ++ event :: late) :=
  ended_iff_exists.mpr ⟨status, verdict?_of_first hearly hverdict late⟩

theorem entriesOf_of_first
    (hearly : ¬ Ended early) (hverdict : verdict? [event] = some status) (port : Value)
    (late : List Event) : entriesOf port (early ++ event :: late) = entriesOf port early := by
  have hnone : entriesOf port (event :: late) = [] := by
    cases event with
    | release => rfl
    | report reported endpoint =>
        cases endpoint with
        | none => rfl
        | some endpoint => simp [verdict?] at hverdict
  rw [entriesOf_append_of_not_ended port hearly, hnone, List.append_nil]

end

/-! ## What an event comes to -/

/-- An event on a callback: the tally that it found, the one that it left, and what it said. -/
structure Encounter where
  event : Event
  before : Tally
  after : Tally
  notices : List Notice

def Callback.encounter
    (callback : Callback) (port : Value) (t : Tally) (event : Event) : Encounter :=
  let effect := callback.handle port t event
  ⟨event, t, effect.tally, effect.notices⟩

namespace Encounter

def Adds (entry : Entry) (e : Encounter) : Prop :=
  e.after = e.before.add entry ∧ .callbackAbandoned ∉ e.notices

/-- The event ends its query.  Only a release says that the callback was abandoned. -/
def Closes (status : Status) (e : Encounter) : Prop :=
  e.after = e.before.finish status ∧
    e.notices.count .callbackAbandoned = if e.event = .release then 1 else 0

/-- The event comes too late to change anything.  A report is said to be ignored. -/
def Ignored (e : Encounter) : Prop :=
  e.after = e.before ∧
    e.notices = match e.event with
      | .report status _ => [.callAfterEnd status]
      | .release => []

theorem ignored_of_finished
    {callback : Callback} (hfinished : callback.finished = true) (port : Value) (t : Tally)
    (event : Event) : (callback.encounter port t event).Ignored := by
  refine ⟨Callback.handle_tally_of_finished hfinished port t event, ?_⟩
  cases event with
  | release => simp [Callback.encounter, Callback.handle, hfinished]
  | report status endpoint =>
      cases endpoint <;> simp [Callback.encounter, Callback.handle, hfinished]

theorem closes_of_ends
    {callback : Callback} (hfinished : callback.finished = false) (port : Value) (t : Tally)
    {event : Event} {status : Status} (hverdict : verdict? [event] = some status) :
    (callback.encounter port t event).Closes status := by
  cases event with
  | release =>
      obtain rfl : Status.failed = status := Option.some.inj hverdict
      simp [Closes, Callback.encounter, Callback.handle, hfinished]
  | report reported endpoint =>
      cases endpoint with
      | none =>
          obtain rfl : reported = status := Option.some.inj hverdict
          simp [Closes, Callback.encounter, Callback.handle, hfinished]
      | some endpoint => simp [verdict?] at hverdict

theorem adds_of_not_ends
    {callback : Callback} (hfinished : callback.finished = false) (port : Value) (t : Tally)
    {event : Event} (hverdict : verdict? [event] = none) :
    List.Forall₂ Adds (entriesOf port [event]) [callback.encounter port t event] := by
  cases event with
  | release => simp [verdict?] at hverdict
  | report status endpoint =>
      cases endpoint with
      | none => simp [verdict?] at hverdict
      | some endpoint =>
          simp [Adds, Callback.encounter, Callback.handle, hfinished, entriesOf, found]

end Encounter

/-- What the events on a callback come to, one after the other: as long as none has ended the query,
each address adds its entry; the one that ends it closes it; those that are left are ignored. -/
inductive Life (port : Value) : List Event → List Encounter → Prop where
  | lasting {events : List Event} {adding : List Encounter} (hended : ¬ Ended events)
      (hadding : List.Forall₂ Encounter.Adds (entriesOf port events) adding) :
      Life port events adding
  | closed {early late : List Event} {status : Status} {adding ignored : List Encounter}
      {closing : Encounter} (hearly : ¬ Ended early)
      (hadding : List.Forall₂ Encounter.Adds (entriesOf port early) adding)
      (hverdict : verdict? [closing.event] = some status) (hclosing : closing.Closes status)
      (hignored : ∀ e ∈ ignored, e.Ignored) :
      Life port (early ++ closing.event :: late) (adding ++ closing :: ignored)

theorem Life.nil (port : Value) : Life port [] [] :=
  .lasting (by simp [Ended, verdict?]) .nil

theorem Life.concat
    {port : Value} {events : List Event} {encounters : List Encounter}
    (hlife : Life port events encounters) (kind : QueryKind) (t : Tally) (event : Event) :
    Life port (events ++ [event])
      (encounters ++ [(Callback.told kind events).encounter port t event]) := by
  cases hlife with
  | lasting hended hadding =>
      have hopen : (Callback.told kind events).finished = false := by
        simp [Callback.told, hended]
      cases hverdict : verdict? [event] with
      | none =>
          refine .lasting ?_ ?_
          · simp [Ended, verdict?_append_of_not_ended hended, hverdict]
          · rw [entriesOf_append_of_not_ended port hended]
            exact List.rel_append hadding (Encounter.adds_of_not_ends hopen port t hverdict)
      | some status =>
          exact .closed hended hadding hverdict (Encounter.closes_of_ends hopen port t hverdict)
            (by simp)
  | @closed early late status adding ignored closing hearly hadding hverdict hclosing hignored =>
      have hended := ended_of_first hearly hverdict late
      simp only [List.append_assoc, List.cons_append]
      refine .closed hearly hadding hverdict hclosing ?_
      intro e he
      rcases List.mem_append.mp he with hold | hnew
      · exact hignored e hold
      · rw [List.mem_singleton.mp hnew]
        exact Encounter.ignored_of_finished (by simp [Callback.told, hended]) port t event

/-- A callback that was released has closed its query: with the first report that had no address, or
by the release if there was none. -/
theorem Life.of_released
    {port : Value} {calls : List Event} {encounters : List Encounter}
    (hlife : Life port (calls ++ [.release]) encounters) (hcalls : Event.release ∉ calls) :
    ∃ adding closing ignored, encounters = adding ++ closing :: ignored ∧
      List.Forall₂ Encounter.Adds (entriesOf port calls) adding ∧
      closing.Closes ((verdict? calls).getD .failed) ∧ (∀ e ∈ ignored, e.Ignored) ∧
      (closing.event = .release ↔ ¬ Ended calls) := by
  generalize hevents : calls ++ [Event.release] = events at hlife
  cases hlife with
  | lasting hended hadding =>
      rw [← hevents, ended_iff_mem] at hended
      simp at hended
  | @closed early late status adding ignored closing hearly hadding hverdict hclosing hignored =>
      refine ⟨adding, closing, ignored, rfl, ?_⟩
      rcases List.eq_nil_or_concat' late with rfl | ⟨between, last, rfl⟩
      · -- the release is what closed the query
        obtain ⟨rfl, hrelease⟩ := List.append_inj' hevents rfl
        rw [← List.cons.inj hrelease |>.1] at hverdict
        obtain rfl : Status.failed = status := Option.some.inj hverdict
        rw [verdict?_of_not_ended hearly]
        exact ⟨hadding, hclosing, hignored, iff_of_true (List.cons.inj hrelease).1.symm hearly⟩
      · rw [← List.cons_append, ← List.append_assoc] at hevents
        obtain ⟨rfl, -⟩ := List.append_inj' hevents rfl
        have hreport : closing.event ≠ .release := by
          intro hrelease
          simp [hrelease] at hcalls
        rw [verdict?_of_first hearly hverdict, entriesOf_of_first hearly hverdict]
        exact ⟨hadding, hclosing, hignored,
          iff_of_false hreport (not_not.mpr (ended_of_first hearly hverdict between))⟩

theorem not_abandoned_of_adding
    {entries : List Entry} {adding : List Encounter}
    (hadding : List.Forall₂ Encounter.Adds entries adding) :
    Notice.callbackAbandoned ∉ adding.flatMap (·.notices) := by
  induction hadding with
  | nil => simp
  | cons hadds _ ih =>
      rw [List.flatMap_cons, List.mem_append, not_or]
      exact ⟨hadds.2, ih⟩

theorem Encounter.Ignored.not_abandoned {e : Encounter} (hignored : e.Ignored) :
    Notice.callbackAbandoned ∉ e.notices := by
  rw [hignored.2]
  cases e.event <;> simp

theorem count_abandoned
    {entries : List Entry} {status : Status} {adding ignored : List Encounter} {closing : Encounter}
    (hadding : List.Forall₂ Encounter.Adds entries adding) (hclosing : closing.Closes status)
    (hignored : ∀ e ∈ ignored, e.Ignored) :
    ((adding ++ closing :: ignored).flatMap (·.notices)).count .callbackAbandoned =
      if closing.event = .release then 1 else 0 := by
  have hlate : Notice.callbackAbandoned ∉ ignored.flatMap (·.notices) := by
    rw [List.mem_flatMap]
    rintro ⟨e, he, hnotice⟩
    exact (hignored e he).not_abandoned hnotice
  rw [List.flatMap_append, List.flatMap_cons, List.count_append, List.count_append,
    List.count_eq_zero.mpr (not_abandoned_of_adding hadding), List.count_eq_zero.mpr hlate,
    hclosing.2, Nat.zero_add, Nat.add_zero]

namespace Call

variable {c d : Call} {pass : Nat} {kind : QueryKind} {moves : List Move} {notices : List Notice}

/-! ## A callback in a run -/

theorem step?_callback
    {callback : Callback} (hcallback : c.callbacks[pass]? = some callback)
    (hheld : callback.held = true) (event : Event) :
    c.step? (.callback pass event) =
      some ({ c with
        tally := (callback.handle c.port c.tally event).tally
        callbacks := c.callbacks.set pass (callback.handle c.port c.tally event).callback },
        (callback.handle c.port c.tally event).notices) := by
  simp [step?, hcallback, hheld]

/-- What has become of a callback is told from the events on it, whatever else happened. -/
theorem callback_of_replay
    (hfresh : c.callbacks[pass]? = some (.fresh kind))
    (hrun : c.replay? moves = some (d, notices)) :
    d.callbacks[pass]? = some (.told kind (eventsOn pass moves)) := by
  refine replay?_induction
    (P := fun moves d => d.callbacks[pass]? = some (.told kind (eventsOn pass moves))) ?_ ?_ hrun
  · rw [hfresh, eventsOn_nil, Callback.told_nil]
  intro moves before first move after second hbefore hstep hcallback
  cases step_of_step? hstep with
  | issue hpoint =>
      obtain ⟨hlt, -⟩ := List.getElem?_eq_some_iff.mp hcallback
      simp [List.getElem?_append_left hlt, hcallback]
  | accept hpoint => simp [hcallback]
  | refuse hpoint => simp [hcallback]
  | wake hpoint htake => simp [hcallback]
  | readStatus hpoint => simp [hcallback]
  | collect hpoint => simp [hcallback]
  | @callback other event target htarget hheld =>
      by_cases heq : other = pass
      · subst heq
        obtain ⟨hlt, -⟩ := List.getElem?_eq_some_iff.mp hcallback
        obtain rfl : Callback.told kind (eventsOn other moves) = target :=
          Option.some.inj (hcallback.symm.trans htarget)
        rw [List.getElem?_set_self hlt, Callback.handle_told, eventsOn_append,
          eventsOn_callback_self]
      · rw [List.getElem?_set_ne heq, hcallback, eventsOn_append, eventsOn_callback_of_ne heq,
          List.append_nil]

theorem port_of_replay (hrun : c.replay? moves = some (d, notices)) : d.port = c.port := by
  refine replay?_induction (P := fun _ d => d.port = c.port) rfl ?_ hrun
  intro moves before first move after second hbefore hstep hport
  cases step_of_step? hstep <;> exact hport

/-- What an onlooker notes of a move that is an event on one callback. -/
def encounter (pass : Nat) (c : Call) (move : Move) (d : Call) : List Encounter :=
  match move with
  | .callback other event =>
    if other = pass then [⟨event, c.tally, d.tally, ((c.step? move).map (·.2)).getD []⟩] else []
  | _ => []

/-- What the events on one callback came to in the course of a run. -/
def encounters (pass : Nat) (c : Call) (moves : List Move) : List Encounter :=
  c.observe (encounter pass) moves

theorem encounter_of_no_event
    {move : Move} (hevents : eventsOn pass [move] = []) : encounter pass c move d = [] := by
  cases move with
  | callback other event =>
      have hne : other ≠ pass := by
        rintro rfl
        simp at hevents
      exact if_neg hne
  | _ => rfl

/-- Each event on the callback was met once, in its place. -/
theorem map_event_encounters (hrun : c.replay? moves = some (d, notices)) :
    (c.encounters pass moves).map (·.event) = eventsOn pass moves := by
  refine replay?_induction
    (P := fun moves _ => (c.encounters pass moves).map (·.event) = eventsOn pass moves) rfl ?_ hrun
  intro moves before first move after second hbefore hstep hevents
  unfold encounters at hevents ⊢
  rw [observe_append _ hbefore, observe_singleton _ hstep, List.map_append, hevents,
    eventsOn_append]
  congr 1
  cases move with
  | callback other event =>
      by_cases heq : other = pass
      · subst heq
        simp [encounter]
      · simp [encounter, heq, eventsOn_callback_of_ne heq]
  | _ => rfl

theorem life_of_replay
    (hfresh : c.callbacks[pass]? = some (.fresh kind))
    (hrun : c.replay? moves = some (d, notices)) :
    Life c.port (eventsOn pass moves) (c.encounters pass moves) := by
  refine replay?_induction
    (P := fun moves _ => Life c.port (eventsOn pass moves) (c.encounters pass moves)) ?_ ?_ hrun
  · exact Life.nil c.port
  intro moves before first move after second hbefore hstep hlife
  have hcallback := callback_of_replay hfresh hbefore
  have hport := port_of_replay hbefore
  unfold encounters at hlife ⊢
  rw [observe_append _ hbefore, observe_singleton _ hstep, eventsOn_append]
  -- only an event on this callback goes on with its life
  have hquiet : eventsOn pass [move] = [] →
      Life c.port (eventsOn pass moves ++ eventsOn pass [move])
        (c.observe (encounter pass) moves ++ encounter pass before move after) := by
    intro hevents
    rw [encounter_of_no_event hevents, hevents, List.append_nil, List.append_nil]
    exact hlife
  cases move with
  | callback other event =>
      by_cases heq : other = pass
      · subst heq
        cases step_of_step? hstep with
        | @callback _ _ target htarget hheld =>
            obtain rfl : Callback.told kind (eventsOn other moves) = target :=
              Option.some.inj (hcallback.symm.trans htarget)
            have hnext := hlife.concat kind before.tally event
            rw [← hport] at hnext ⊢
            simpa [encounter, step?_callback hcallback hheld, Callback.encounter] using hnext
      · exact hquiet (eventsOn_callback_of_ne heq event)
  | _ => exact hquiet rfl

/-! ## Nothing but the callback -/

theorem replay?_concat
    {first second : List Notice} {e : Call} {move : Move} (hrun : c.replay? moves = some (d, first))
    (hstep : d.step? move = some (e, second)) :
    c.replay? (moves ++ [move]) = some (e, first ++ second) := by
  simp [replay?_append, hrun, replay?, hstep]

theorem step?_told
    {t : Tally} {events : List Event} (hcallback : d.callbacks[pass]? = some (.told kind events))
    (htally : d.tally = t.told d.port events) (hunreleased : Event.release ∉ events)
    (event : Event) :
    ∃ said, d.step? (.callback pass event) =
      some ({ d with
        tally := t.told d.port (events ++ [event])
        callbacks := d.callbacks.set pass (.told kind (events ++ [event])) }, said) := by
  refine ⟨((Callback.told kind events).handle d.port d.tally event).notices, ?_⟩
  rw [step?_callback hcallback (by simp [Callback.told, hunreleased]), Callback.handle_told, htally,
    Tally.handle_told]

/-- Reports one after the other, with nothing in between. -/
theorem replay?_reports
    (hfresh : c.callbacks[pass]? = some (.fresh kind)) {calls : List Event}
    (hcalls : Event.release ∉ calls) :
    ∃ notices, c.replay? (calls.map (.callback pass)) =
      some ({ c with
        tally := c.tally.told c.port calls
        callbacks := c.callbacks.set pass (.told kind calls) }, notices) := by
  obtain ⟨hlt, hget⟩ := List.getElem?_eq_some_iff.mp hfresh
  induction calls using List.reverseRecOn with
  | nil =>
      refine ⟨[], ?_⟩
      simp [replay?, ← hget]
  | append_singleton calls call ih =>
      have hbefore : Event.release ∉ calls := fun hmem => hcalls (List.mem_append_left _ hmem)
      obtain ⟨notices, hrun⟩ := ih hbefore
      obtain ⟨said, hstep⟩ := step?_told
        (d := { c with
          tally := c.tally.told c.port calls
          callbacks := c.callbacks.set pass (.told kind calls) })
        (List.getElem?_set_self hlt) rfl hbefore call
      have hnext := replay?_concat hrun hstep
      rw [List.set_set] at hnext
      rw [List.map_append]
      exact ⟨_, hnext⟩

/-- The life of a callback, from its query to its release.  With nothing in between, it leaves the
entries of the addresses reported before the first call without an address, the status of that call
or else a failure, and one permit more, whatever its resolution had come to before.  And whatever
else happens in between, each of those addresses adds its entry, one event closes the query with
that status and the permit, every later call is ignored and said to be; the log says once that the
callback was abandoned if no call had no address, and never otherwise. -/
theorem callback_gives_one_permit
    (hfresh : c.callbacks[pass]? = some (.fresh kind)) {calls : List Event}
    (hcalls : Event.release ∉ calls) :
    (∃ notices, c.replay? ((calls ++ [Event.release]).map (.callback pass)) =
      some ({ c with
        tally :=
          ⟨c.tally.entries ++ entriesOf c.port calls,
            ((verdict? calls).getD .failed).normalized, c.tally.permits.give⟩
        callbacks := c.callbacks.set pass ⟨kind, true, false⟩ }, notices)) ∧
    ∀ moves d said, c.replay? moves = some (d, said) →
      eventsOn pass moves = calls ++ [Event.release] →
      (c.encounters pass moves).map (·.event) = calls ++ [Event.release] ∧
      (∃ adding closing ignored, c.encounters pass moves = adding ++ closing :: ignored ∧
        List.Forall₂ Encounter.Adds (entriesOf c.port calls) adding ∧
        closing.Closes ((verdict? calls).getD .failed) ∧ ∀ e ∈ ignored, e.Ignored) ∧
      ((c.encounters pass moves).flatMap (·.notices)).count .callbackAbandoned =
        if Ended calls then 0 else 1 := by
  constructor
  · obtain ⟨hlt, -⟩ := List.getElem?_eq_some_iff.mp hfresh
    obtain ⟨notices, hrun⟩ := replay?_reports hfresh hcalls
    obtain ⟨said, hstep⟩ := step?_told
      (d := { c with
        tally := c.tally.told c.port calls
        callbacks := c.callbacks.set pass (.told kind calls) })
      (List.getElem?_set_self hlt) rfl hcalls .release
    have hreleased : Callback.told kind (calls ++ [.release]) = ⟨kind, true, false⟩ := by
      simp [Callback.told, ended_iff_mem]
    have hlife := replay?_concat hrun hstep
    rw [List.set_set, hreleased, Tally.told_release] at hlife
    rw [List.map_append]
    exact ⟨_, hlife⟩
  · intro moves d said hrun hevents
    have hlife := life_of_replay hfresh hrun
    rw [hevents] at hlife
    obtain ⟨adding, closing, ignored, hencounters, hadding, hclosing, hignored, hrelease⟩ :=
      hlife.of_released hcalls
    refine ⟨(map_event_encounters hrun).trans hevents,
      ⟨adding, closing, ignored, hencounters, hadding, hclosing, hignored⟩, ?_⟩
    rw [hencounters, count_abandoned hadding hclosing hignored]
    by_cases hended : Ended calls <;> simp [hrelease, hended]

/-- A callback is called twice after the end of its query, with a failure and with an address, and
then released: one address and one permit are what it leaves, also if the caller has taken the
permit before the late calls, and it was never abandoned. -/
theorem callback_gives_one_permit_late_calls :
    ∃ (c : Call) (calls : List Event) (moves : List Move),
      c.callbacks[0]? = some (.fresh .a) ∧ Event.release ∉ calls ∧
      calls = [.report .ok (some (.v4 ⟨10, 0, 0, 1⟩ 0)), .report .allDone none,
        .report .failed none, .report .ok (some (.v4 ⟨10, 0, 0, 2⟩ 0))] ∧
      (∃ d notices,
        c.replay? ((calls ++ [Event.release]).map (.callback 0)) = some (d, notices) ∧
        d.tally = ⟨[.ofEndpoint (.v4 ⟨10, 0, 0, 1⟩ 0) (.int 80)], .ok, ⟨1⟩⟩) ∧
      (c.replay? moves).isSome = true ∧ Move.wake ∈ moves ∧
      eventsOn 0 moves = calls ++ [Event.release] ∧
      ∃ adding closing ignored, c.encounters 0 moves = adding ++ closing :: ignored ∧
        List.Forall₂ Encounter.Adds [.ofEndpoint (.v4 ⟨10, 0, 0, 1⟩ 0) (.int 80)] adding ∧
        closing.Closes .allDone ∧ (∀ e ∈ ignored, e.Ignored) ∧
        ((c.encounters 0 moves).flatMap (·.notices)).count .callbackAbandoned = 0 := by
  have hfresh : (⟨"host", .int 80, 3000, .waiting [], .empty, [.fresh .a]⟩ : Call).callbacks[0]? =
      some (.fresh .a) := rfl
  have hcalls : Event.release ∉ ([.report .ok (some (.v4 ⟨10, 0, 0, 1⟩ 0)), .report .allDone none,
      .report .failed none, .report .ok (some (.v4 ⟨10, 0, 0, 2⟩ 0))] : List Event) := by decide
  obtain ⟨⟨notices, hrun⟩, hlives⟩ := callback_gives_one_permit hfresh hcalls
  obtain ⟨-, ⟨adding, closing, ignored, hlife⟩, hcount⟩ := hlives
    [.callback 0 (.report .ok (some (.v4 ⟨10, 0, 0, 1⟩ 0))), .callback 0 (.report .allDone none),
      .wake, .callback 0 (.report .failed none),
      .callback 0 (.report .ok (some (.v4 ⟨10, 0, 0, 2⟩ 0))), .callback 0 .release]
    _ _ rfl rfl
  exact ⟨_, _, _, hfresh, hcalls, rfl, ⟨_, notices, hrun, rfl⟩, rfl, by simp, rfl,
    adding, closing, ignored, hlife.1, hlife.2.1, hlife.2.2.1, hlife.2.2.2, hcount⟩

end Call

end ScriptSocket.Resolution
