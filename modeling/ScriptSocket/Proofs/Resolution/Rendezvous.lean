import ScriptSocket.Proofs.Resolution.History

/-!
# The rendezvous of caller and resolver

The caller of a resolution waits on a semaphore to which every callback of the resolution can give.
`Call.Rendezvous` is the invariant that ties the permits, the flags of the callbacks and the place
of the caller to the history of the moves.  From it follows that a query gives exactly one permit,
that the caller takes that permit and no other before it goes on, and that it waits in vain only
while the resolver still owes it the end of the current query.
-/

namespace ScriptSocket.Resolution

/-! ## What one event does -/

theorem Callback.finished_handle_iff
    (callback : Callback) (port : Value) (t : Tally) (event : Event) :
    (callback.handle port t event).callback.finished = true ↔
      callback.finished = true ∨ event.Ends := by
  cases event with
  | release =>
      by_cases hfinished : callback.finished = true <;>
        simp [Callback.handle, Event.Ends, hfinished]
  | report status endpoint =>
      cases endpoint <;> by_cases hfinished : callback.finished = true <;>
        simp [Callback.handle, Event.Ends, hfinished]

theorem Callback.held_handle_iff
    (callback : Callback) (port : Value) (t : Tally) (event : Event) :
    (callback.handle port t event).callback.held = true ↔
      callback.held = true ∧ event ≠ .release := by
  cases event with
  | release =>
      by_cases hfinished : callback.finished = true <;>
        simp [Callback.handle, hfinished]
  | report status endpoint =>
      cases endpoint <;> by_cases hfinished : callback.finished = true <;>
        simp [Callback.handle, hfinished]

theorem Callback.kind_handle
    (callback : Callback) (port : Value) (t : Tally) (event : Event) :
    (callback.handle port t event).callback.kind = callback.kind := by
  cases event with
  | release =>
      by_cases hfinished : callback.finished = true <;>
        simp [Callback.handle, hfinished]
  | report status endpoint =>
      cases endpoint <;> by_cases hfinished : callback.finished = true <;>
        simp [Callback.handle, hfinished]

theorem Callback.permits_handle_of_ends
    {callback : Callback} (hfinished : callback.finished = false)
    {event : Event} (hends : event.Ends) (port : Value) (t : Tally) :
    (callback.handle port t event).tally.permits = t.permits.give := by
  cases event with
  | release => simp [Callback.handle, hfinished, Tally.finish]
  | report status endpoint =>
      cases endpoint with
      | none => simp [Callback.handle, hfinished, Tally.finish]
      | some endpoint => exact hends.elim

theorem Callback.permits_handle_of_not_ends
    (callback : Callback) {event : Event} (hends : ¬ event.Ends) (port : Value) (t : Tally) :
    (callback.handle port t event).tally.permits = t.permits := by
  cases event with
  | release => exact absurd trivial hends
  | report status endpoint =>
      cases endpoint with
      | none => exact absurd trivial hends
      | some endpoint =>
          by_cases hfinished : callback.finished = true <;>
            simp [Callback.handle, hfinished, Tally.add]

theorem Semaphore.toNat_give_of_lt_one {s : Semaphore} (hzero : s.permits.toNat = 0) :
    s.give.permits.toNat = 1 := by
  rw [toNat_permits_give, hzero]
  rfl

namespace Call

/-- How many permits the caller has taken when it stands at a point, out of the queries that it
has issued. -/
def Point.Served (issued taken : Nat) : Point → Prop
  | .ready _ _ => taken = issued
  | .woken _ => 0 < taken ∧ taken = issued
  | .issuing _ _ | .waiting _ => taken + 1 = issued
  | .returned _ => taken ≤ issued ∧ issued ≤ taken + 1

theorem Point.Served.le {issued taken : Nat} {point : Point}
    (hserved : Point.Served issued taken point) : taken ≤ issued ∧ issued ≤ taken + 1 := by
  cases point <;> simp only [Point.Served] at hserved <;> omega

/-- Permits, flags and the caller's place after a run, told from its moves.  The query whose permit
comes next is the one numbered `wakes moves`. -/
structure Rendezvous (moves : List Move) (c : Call) : Prop where
  issued : c.callbacks.length = issues moves
  served : Point.Served (issues moves) (wakes moves) c.point
  finished_iff : ∀ pass callback, c.callbacks[pass]? = some callback →
    (callback.finished = true ↔ Ended (eventsOn pass moves))
  held_iff : ∀ pass callback, c.callbacks[pass]? = some callback →
    (callback.held = true ↔ Event.release ∉ eventsOn pass moves)
  untouched : ∀ pass, issues moves ≤ pass → eventsOn pass moves = []
  taken_ended : ∀ pass, pass < wakes moves → Ended (eventsOn pass moves)
  permits : c.tally.permits.permits.toNat =
    if Ended (eventsOn (wakes moves) moves) then 1 else 0

theorem start_rendezvous
    (host : String) (port : Value) (timeout : Nat) (passes : List QueryKind) :
    (start host port timeout passes).Rendezvous [] := by
  constructor <;> simp [start, Point.Served, Tally.empty, Semaphore.empty, Ended, verdict?]

theorem Rendezvous.taken_of_ready
    {moves : List Move} {c : Call} (hinv : c.Rendezvous moves)
    {failure : Option Status} {passes : List QueryKind}
    (hpoint : c.point = .ready failure passes) : wakes moves = issues moves := by
  have hserved := hinv.served
  rw [hpoint] at hserved
  exact hserved

theorem Rendezvous.owed_of_waiting
    {moves : List Move} {c : Call} (hinv : c.Rendezvous moves)
    {passes : List QueryKind} (hpoint : c.point = .waiting passes) :
    wakes moves + 1 = issues moves := by
  have hserved := hinv.served
  rw [hpoint] at hserved
  exact hserved

/-- A move of the caller that neither issues a query nor takes a permit keeps the rendezvous, as
long as it leaves callbacks and permits alone. -/
theorem Rendezvous.afterOther
    {moves : List Move} {c d : Call} (hinv : c.Rendezvous moves) {move : Move}
    (hevents : ∀ pass, eventsOn pass [move] = [])
    (hissue : move.isIssue = false) (hwake : move.isWake = false)
    (hcallbacks : d.callbacks = c.callbacks)
    (hpermits : d.tally.permits = c.tally.permits)
    (hserved : Point.Served (issues moves) (wakes moves) d.point) :
    d.Rendezvous (moves ++ [move]) := by
  have hsame : ∀ pass, eventsOn pass (moves ++ [move]) = eventsOn pass moves := by
    intro pass
    rw [eventsOn_append, hevents pass, List.append_nil]
  have hissues : issues (moves ++ [move]) = issues moves := by simp [hissue]
  have hwakes : wakes (moves ++ [move]) = wakes moves := by simp [hwake]
  constructor
  · rw [hcallbacks, hissues]
    exact hinv.issued
  · rw [hissues, hwakes]
    exact hserved
  · intro pass callback hcallback
    rw [hcallbacks] at hcallback
    rw [hsame pass]
    exact hinv.finished_iff pass callback hcallback
  · intro pass callback hcallback
    rw [hcallbacks] at hcallback
    rw [hsame pass]
    exact hinv.held_iff pass callback hcallback
  · intro pass hpass
    rw [hissues] at hpass
    rw [hsame pass]
    exact hinv.untouched pass hpass
  · intro pass hpass
    rw [hwakes] at hpass
    rw [hsame pass]
    exact hinv.taken_ended pass hpass
  · rw [hwakes, hsame, hpermits]
    exact hinv.permits

theorem Rendezvous.afterIssue
    {moves : List Move} {c : Call} (hinv : c.Rendezvous moves)
    {failure : Option Status} {kind : QueryKind} {passes : List QueryKind}
    (hpoint : c.point = .ready failure (kind :: passes)) :
    ({ c with point := .issuing kind passes, callbacks := c.callbacks ++ [.fresh kind] } :
      Call).Rendezvous (moves ++ [.issue]) := by
  have htaken := hinv.taken_of_ready hpoint
  have hsame : ∀ pass, eventsOn pass (moves ++ [.issue]) = eventsOn pass moves := by simp
  have hissues : issues (moves ++ [.issue]) = issues moves + 1 := by simp [Move.isIssue]
  have hwakes : wakes (moves ++ [.issue]) = wakes moves := by simp [Move.isWake]
  -- the callback of the new query is fresh, and nothing has happened to it
  have hnew : ∀ pass callback, (c.callbacks ++ [Callback.fresh kind])[pass]? = some callback →
      c.callbacks[pass]? = some callback ∨
        (callback = .fresh kind ∧ eventsOn pass moves = []) := by
    intro pass callback hcallback
    rcases Nat.lt_trichotomy pass c.callbacks.length with hlt | heq | hgt
    · rw [List.getElem?_append_left hlt] at hcallback
      exact Or.inl hcallback
    · subst heq
      simp only [List.getElem?_concat_length, Option.some.injEq] at hcallback
      exact Or.inr ⟨hcallback.symm, hinv.untouched _ (Nat.le_of_eq hinv.issued.symm)⟩
    · rw [List.getElem?_eq_none (by simp; omega)] at hcallback
      cases hcallback
  constructor
  · simp [hinv.issued, hissues]
  · rw [hissues, hwakes]
    simp only [Point.Served]
    omega
  · intro pass callback hcallback
    rw [hsame pass]
    rcases hnew pass callback hcallback with hold | ⟨rfl, hnone⟩
    · exact hinv.finished_iff pass callback hold
    · simp [hnone, Callback.fresh, Ended, verdict?]
  · intro pass callback hcallback
    rw [hsame pass]
    rcases hnew pass callback hcallback with hold | ⟨rfl, hnone⟩
    · exact hinv.held_iff pass callback hold
    · simp [hnone, Callback.fresh]
  · intro pass hpass
    rw [hsame pass]
    exact hinv.untouched pass (by omega)
  · intro pass hpass
    rw [hwakes] at hpass
    rw [hsame pass]
    exact hinv.taken_ended pass hpass
  · rw [hwakes, hsame]
    exact hinv.permits

theorem Rendezvous.afterWake
    {moves : List Move} {c : Call} (hinv : c.Rendezvous moves)
    {passes : List QueryKind} {permits : Semaphore}
    (hpoint : c.point = .waiting passes) (htake : c.tally.permits.take? = some permits) :
    ({ c with point := .woken passes, tally := { c.tally with permits := permits } } :
      Call).Rendezvous (moves ++ [.wake]) := by
  have howed := hinv.owed_of_waiting hpoint
  have hcount := Semaphore.take?_eq_some_iff.mp htake
  have hpermits := hinv.permits
  -- the permit taken was the only one, and it came from the query the caller waits for
  have hended : Ended (eventsOn (wakes moves) moves) := by
    by_contra hnot
    rw [if_neg hnot] at hpermits
    omega
  rw [if_pos hended] at hpermits
  have hsame : ∀ pass, eventsOn pass (moves ++ [.wake]) = eventsOn pass moves := by simp
  have hissues : issues (moves ++ [.wake]) = issues moves := by simp [Move.isIssue]
  have hwakes : wakes (moves ++ [.wake]) = wakes moves + 1 := by simp [Move.isWake]
  constructor
  · rw [hissues]
    exact hinv.issued
  · rw [hissues, hwakes]
    exact ⟨Nat.succ_pos _, howed⟩
  · intro pass callback hcallback
    rw [hsame pass]
    exact hinv.finished_iff pass callback hcallback
  · intro pass callback hcallback
    rw [hsame pass]
    exact hinv.held_iff pass callback hcallback
  · intro pass hpass
    rw [hissues] at hpass
    rw [hsame pass]
    exact hinv.untouched pass hpass
  · intro pass hpass
    rw [hwakes] at hpass
    rw [hsame pass]
    rcases Nat.lt_succ_iff_lt_or_eq.mp hpass with hlt | rfl
    · exact hinv.taken_ended pass hlt
    · exact hended
  · rw [hwakes, hsame, hinv.untouched _ (Nat.le_of_eq howed.symm)]
    simp only [Ended, verdict?, Option.isSome_none, Bool.false_eq_true, if_false]
    omega

/-- A callback that has not finished belongs to the query that the caller has not got past. -/
theorem Rendezvous.pass_of_not_ended
    {moves : List Move} {c : Call} (hinv : c.Rendezvous moves) {pass : Nat}
    (hpass : pass < c.callbacks.length) (hended : ¬ Ended (eventsOn pass moves)) :
    pass = wakes moves ∧ pass + 1 = issues moves := by
  have hle := hinv.served.le
  have hissued := hinv.issued
  have hnot : ¬ pass < wakes moves := by
    intro hlt
    exact hended (hinv.taken_ended pass hlt)
  omega

theorem Rendezvous.afterCallback
    {moves : List Move} {c : Call} (hinv : c.Rendezvous moves)
    {pass : Nat} {event : Event} {callback : Callback}
    (hcallback : c.callbacks[pass]? = some callback) :
    ({ c with
        tally := (callback.handle c.port c.tally event).tally
        callbacks := c.callbacks.set pass (callback.handle c.port c.tally event).callback } :
      Call).Rendezvous (moves ++ [.callback pass event]) := by
  have hpass : pass < c.callbacks.length := by
    obtain ⟨hlt, -⟩ := List.getElem?_eq_some_iff.mp hcallback
    exact hlt
  have hself : eventsOn pass (moves ++ [.callback pass event]) =
      eventsOn pass moves ++ [event] := by simp
  have hother : ∀ other, other ≠ pass →
      eventsOn other (moves ++ [.callback pass event]) = eventsOn other moves := by
    intro other hne
    rw [eventsOn_append, eventsOn_callback_of_ne hne.symm, List.append_nil]
  have hissues : issues (moves ++ [.callback pass event]) = issues moves := by
    simp [Move.isIssue]
  have hwakes : wakes (moves ++ [.callback pass event]) = wakes moves := by
    simp [Move.isWake]
  have hlookup : ∀ other target,
      (c.callbacks.set pass (callback.handle c.port c.tally event).callback)[other]? =
          some target →
        (other = pass ∧ target = (callback.handle c.port c.tally event).callback) ∨
          (other ≠ pass ∧ c.callbacks[other]? = some target) := by
    intro other target htarget
    by_cases heq : other = pass
    · subst heq
      rw [List.getElem?_set_self hpass] at htarget
      exact Or.inl ⟨rfl, (Option.some.inj htarget).symm⟩
    · rw [List.getElem?_set_ne (Ne.symm heq)] at htarget
      exact Or.inr ⟨heq, htarget⟩
  have hmonotone : ∀ other, Ended (eventsOn other moves) →
      Ended (eventsOn other (moves ++ [.callback pass event])) := by
    intro other hended
    rw [eventsOn_append]
    exact ended_append_iff.mpr (Or.inl hended)
  constructor
  · simp [hinv.issued, hissues]
  · rw [hissues, hwakes]
    exact hinv.served
  · intro other target htarget
    rcases hlookup other target htarget with ⟨rfl, rfl⟩ | ⟨hne, hold⟩
    · rw [hself, ended_append_iff, ended_singleton_iff, Callback.finished_handle_iff,
        hinv.finished_iff _ callback hcallback]
    · rw [hother other hne]
      exact hinv.finished_iff other target hold
  · intro other target htarget
    rcases hlookup other target htarget with ⟨rfl, rfl⟩ | ⟨hne, hold⟩
    · rw [hself, Callback.held_handle_iff, hinv.held_iff _ callback hcallback]
      simp [eq_comm]
    · rw [hother other hne]
      exact hinv.held_iff other target hold
  · intro other hle
    rw [hissues] at hle
    have hne : other ≠ pass := by
      have hissued := hinv.issued
      omega
    rw [hother other hne]
    exact hinv.untouched other hle
  · intro other hlt
    rw [hwakes] at hlt
    exact hmonotone other (hinv.taken_ended other hlt)
  · rw [hwakes]
    simp only
    by_cases hfinished : callback.finished = true
    · have hended : Ended (eventsOn pass moves) :=
        (hinv.finished_iff pass callback hcallback).mp hfinished
      have hiff : Ended (eventsOn (wakes moves) (moves ++ [.callback pass event])) ↔
          Ended (eventsOn (wakes moves) moves) := by
        by_cases heq : wakes moves = pass
        · rw [heq]
          exact iff_of_true (hmonotone pass hended) hended
        · rw [hother _ heq]
      rw [Callback.handle_tally_of_finished hfinished, hinv.permits]
      simp only [hiff]
    · have hended : ¬ Ended (eventsOn pass moves) := by
        intro hend
        exact hfinished ((hinv.finished_iff pass callback hcallback).mpr hend)
      obtain ⟨hcurrent, -⟩ := hinv.pass_of_not_ended hpass hended
      have hzero : c.tally.permits.permits.toNat = 0 := by
        rw [hinv.permits, ← hcurrent, if_neg hended]
      rw [← hcurrent, hself]
      by_cases hends : event.Ends
      · rw [Callback.permits_handle_of_ends (by simpa using hfinished) hends,
          Semaphore.toNat_give_of_lt_one hzero,
          if_pos (ended_append_iff.mpr (Or.inr (ended_singleton_iff.mpr hends)))]
      · have hstill : ¬ Ended (eventsOn pass moves ++ [event]) := by
          rw [ended_append_iff, ended_singleton_iff]
          exact not_or.mpr ⟨hended, hends⟩
        rw [Callback.permits_handle_of_not_ends callback hends, hzero, if_neg hstill]

theorem Rendezvous.afterStep
    {moves : List Move} {c d : Call} {move : Move} (hinv : c.Rendezvous moves)
    (hstep : Step c move d) : d.Rendezvous (moves ++ [move]) := by
  have hserved := hinv.served
  cases hstep with
  | issue hpoint => exact hinv.afterIssue hpoint
  | accept hpoint =>
      rw [hpoint] at hserved
      exact hinv.afterOther (by simp) rfl rfl rfl rfl hserved
  | refuse hpoint =>
      exact hinv.afterOther (by simp) rfl rfl rfl rfl hserved.le
  | wake hpoint htake => exact hinv.afterWake hpoint htake
  | readStatus hpoint =>
      rw [hpoint] at hserved
      exact hinv.afterOther (by simp) rfl rfl rfl rfl hserved.2
  | collect hpoint =>
      exact hinv.afterOther (by simp) rfl rfl rfl rfl hserved.le
  | callback hcallback hheld => exact hinv.afterCallback hcallback

theorem rendezvous_of_replay
    {host : String} {port : Value} {timeout : Nat} {passes : List QueryKind}
    {moves : List Move} {c : Call} {notices : List Notice}
    (hrun : (start host port timeout passes).replay? moves = some (c, notices)) :
    c.Rendezvous moves := by
  refine replay?_induction (P := fun moves c => c.Rendezvous moves)
    (start_rendezvous host port timeout passes) ?_ hrun
  intro moves c first move d second hfirst hstep hinv
  exact hinv.afterStep (step_of_step? hstep)

/-! ## Whose permit the caller takes -/

def giver (c : Call) (move : Move) (d : Call) : List Nat :=
  match move with
  | .callback pass _ =>
    if c.tally.permits.permits.toNat < d.tally.permits.permits.toNat then [pass] else []
  | _ => []

def givers (c : Call) (moves : List Move) : List Nat := c.observe giver moves

theorem Rendezvous.giver_afterCallback
    {moves : List Move} {c d : Call} {pass : Nat} {event : Event}
    (hinv : c.Rendezvous moves) (hnext : d.Rendezvous (moves ++ [.callback pass event])) :
    List.range (wakes moves + c.tally.permits.permits.toNat) ++
        giver c (.callback pass event) d =
      List.range (wakes moves + d.tally.permits.permits.toNat) := by
  have hbefore := hinv.permits
  have hafter := hnext.permits
  have hwakes : wakes (moves ++ [.callback pass event]) = wakes moves := by
    simp [Move.isWake]
  rw [hwakes, eventsOn_append] at hafter
  by_cases hended : Ended (eventsOn (wakes moves) moves)
  · -- the permit is there already
    rw [if_pos hended] at hbefore
    rw [if_pos (ended_append_iff.mpr (Or.inl hended))] at hafter
    simp [giver, hbefore, hafter]
  · rw [if_neg hended] at hbefore
    by_cases heq : pass = wakes moves
    · by_cases hends : Ended (eventsOn (wakes moves) [.callback pass event])
      · rw [if_pos (ended_append_iff.mpr (Or.inr hends))] at hafter
        simp [giver, hbefore, hafter, heq, List.range_succ]
      · have hstill := mt ended_append_iff.mp (not_or.mpr ⟨hended, hends⟩)
        rw [if_neg hstill] at hafter
        simp [giver, hbefore, hafter]
    · rw [eventsOn_callback_of_ne heq, List.append_nil, if_neg hended] at hafter
      simp [giver, hbefore, hafter]

/-- Every query gives one permit, in the order of the queries. -/
theorem givers_eq_range
    {host : String} {port : Value} {timeout : Nat} {passes : List QueryKind}
    {moves : List Move} {c : Call} {notices : List Notice}
    (hrun : (start host port timeout passes).replay? moves = some (c, notices)) :
    (start host port timeout passes).givers moves =
      List.range (wakes moves + c.tally.permits.permits.toNat) := by
  refine replay?_induction
    (P := fun moves c => (start host port timeout passes).givers moves =
      List.range (wakes moves + c.tally.permits.permits.toNat)) ?_ ?_ hrun
  · rfl
  intro moves c first move d second hfirst hstep hgivers
  have hinv : c.Rendezvous moves := rendezvous_of_replay hfirst
  have hmove : Step c move d := step_of_step? hstep
  have hnext : d.Rendezvous (moves ++ [move]) := hinv.afterStep hmove
  unfold givers at hgivers ⊢
  rw [observe_append giver hfirst, observe_singleton giver hstep, hgivers]
  cases hmove with
  | issue hpoint => simp [giver, Move.isWake]
  | accept hpoint => simp [giver, Move.isWake]
  | refuse hpoint => simp [giver, Move.isWake]
  | wake hpoint htake =>
      have hcount := Semaphore.take?_eq_some_iff.mp htake
      simp only [giver, List.append_nil, wakes_append, wakes_singleton, Move.isWake, if_true]
      congr 1
      omega
  | readStatus hpoint => simp [giver, Move.isWake]
  | collect hpoint => simp [giver, Move.isWake]
  | callback hcallback hheld =>
      rw [hinv.giver_afterCallback hnext]
      simp [Move.isWake]

theorem Rendezvous.permits_le_one
    {moves : List Move} {c : Call} (hinv : c.Rendezvous moves) :
    c.tally.permits.permits.toNat ≤ 1 := by
  rw [hinv.permits]
  split <;> omega

theorem Rendezvous.permits_eq_one_iff
    {moves : List Move} {c : Call} (hinv : c.Rendezvous moves) :
    c.tally.permits.permits.toNat = 1 ↔
      wakes moves < issues moves ∧ Ended (eventsOn (issues moves - 1) moves) := by
  have hle := hinv.served.le
  have hpermits := hinv.permits
  constructor
  · intro hone
    have hended : Ended (eventsOn (wakes moves) moves) := by
      by_contra hnot
      rw [if_neg hnot] at hpermits
      omega
    have hlt : wakes moves < issues moves := by
      by_contra hge
      rw [hinv.untouched (wakes moves) (by omega)] at hended
      simp [Ended, verdict?] at hended
    rw [show issues moves - 1 = wakes moves by omega]
    exact ⟨hlt, hended⟩
  · rintro ⟨hlt, hended⟩
    rw [show issues moves - 1 = wakes moves by omega] at hended
    rw [hpermits, if_pos hended]

/-- Nothing that is done to a callback whose query has ended, or to the callback of an earlier
query, reaches the tally. -/
theorem Rendezvous.tally_of_stale
    {moves : List Move} {c d : Call} (hinv : c.Rendezvous moves)
    {pass : Nat} {event : Event} (hstep : Step c (.callback pass event) d)
    (hstale : Ended (eventsOn pass moves) ∨ pass + 1 < issues moves) :
    d.tally = c.tally := by
  have hle := hinv.served.le
  have hended : Ended (eventsOn pass moves) := by
    rcases hstale with hended | hearlier
    · exact hended
    · exact hinv.taken_ended pass (by omega)
  cases hstep with
  | callback hcallback hheld =>
      have hfinished := (hinv.finished_iff pass _ hcallback).mpr hended
      exact Callback.handle_tally_of_finished hfinished c.port c.tally event

theorem Rendezvous.current_of_blocked
    {moves : List Move} {c : Call} (hinv : c.Rendezvous moves)
    {passes : List QueryKind} (hpoint : c.point = .waiting passes)
    (hzero : c.tally.permits.permits.toNat = 0) :
    ∃ callback, c.callbacks[issues moves - 1]? = some callback ∧
      callback.held = true ∧ callback.finished = false := by
  have howed := hinv.owed_of_waiting hpoint
  have hended : ¬ Ended (eventsOn (issues moves - 1) moves) := by
    intro hended
    have hone := hinv.permits_eq_one_iff.mpr ⟨by omega, hended⟩
    omega
  have hlt : issues moves - 1 < c.callbacks.length := by
    rw [hinv.issued]
    omega
  have hcallback := List.getElem?_eq_getElem hlt
  refine ⟨c.callbacks[issues moves - 1], hcallback, ?_, ?_⟩
  · rw [hinv.held_iff _ _ hcallback]
    intro hrelease
    exact hended (ended_iff_mem.mpr (Or.inr hrelease))
  · rw [Bool.eq_false_iff]
    intro hfinished
    exact hended ((hinv.finished_iff _ _ hcallback).mp hfinished)

theorem Rendezvous.wake_of_ended
    {moves : List Move} {c : Call} (hinv : c.Rendezvous moves)
    {passes : List QueryKind} (hpoint : c.point = .waiting passes)
    (hended : Ended (eventsOn (issues moves - 1) moves)) :
    ∃ d, c.step? .wake = some (d, []) := by
  have howed := hinv.owed_of_waiting hpoint
  have hone := hinv.permits_eq_one_iff.mpr ⟨by omega, hended⟩
  obtain ⟨permits, htake⟩ : ∃ permits, c.tally.permits.take? = some permits := by
    apply Option.ne_none_iff_exists'.mp
    intro hnone
    rw [Semaphore.take?_eq_none_iff] at hnone
    rw [hnone] at hone
    simp at hone
  refine ⟨{ c with point := .woken passes, tally := { c.tally with permits := permits } }, ?_⟩
  simp [step?, hpoint, htake]

theorem Rendezvous.owed_of_wake
    {moves : List Move} {c d : Call} (hinv : c.Rendezvous moves)
    (hstep : Step c .wake d) :
    wakes moves + 1 = issues moves ∧ c.tally.permits.permits.toNat = 1 := by
  have hle := hinv.permits_le_one
  cases hstep with
  | wake hpoint htake =>
      have hcount := Semaphore.take?_eq_some_iff.mp htake
      exact ⟨hinv.owed_of_waiting hpoint, by omega⟩

/-- No permit comes early and none is lost.  After any moves of caller and resolver there is at
most one permit; there is one exactly when the query issued last has ended and the caller has not
taken its permit; events on a callback that has ended, or on that of an earlier query, add nothing;
the permit that the caller takes is the one which the current query gave; and the caller waits
without a permit only while the resolver holds the current callback unfinished. -/
theorem rendezvous_safe
    {host : String} {port : Value} {timeout : Nat} {passes : List QueryKind}
    {moves : List Move} {c : Call} {notices : List Notice}
    (hrun : (start host port timeout passes).replay? moves = some (c, notices)) :
    c.tally.permits.permits.toNat ≤ 1 ∧
    (c.tally.permits.permits.toNat = 1 ↔
      wakes moves < issues moves ∧ Ended (eventsOn (issues moves - 1) moves)) ∧
    (∀ pass event d said, c.step? (.callback pass event) = some (d, said) →
      Ended (eventsOn pass moves) ∨ pass + 1 < issues moves → d.tally = c.tally) ∧
    (∀ d said, c.step? .wake = some (d, said) →
      ((start host port timeout passes).givers moves).drop (wakes moves) =
        [issues moves - 1]) ∧
    (∀ rest, c.point = .waiting rest →
      (c.tally.permits.permits.toNat = 0 →
        ∃ callback, c.callbacks[issues moves - 1]? = some callback ∧
          callback.held = true ∧ callback.finished = false) ∧
      (Ended (eventsOn (issues moves - 1) moves) → ∃ d, c.step? .wake = some (d, []))) := by
  have hinv := rendezvous_of_replay hrun
  refine ⟨hinv.permits_le_one, hinv.permits_eq_one_iff, ?_, ?_, ?_⟩
  · intro pass event d said hstep hstale
    exact hinv.tally_of_stale (step_of_step? hstep) hstale
  · intro d said hstep
    obtain ⟨howed, hone⟩ := hinv.owed_of_wake (step_of_step? hstep)
    rw [givers_eq_range hrun, hone, List.range_succ,
      List.drop_append_of_le_length (by simp)]
    rw [List.drop_eq_nil_of_le (by simp), List.nil_append, ← howed]
    simp
  · intro rest hpoint
    constructor
    · intro hzero
      exact hinv.current_of_blocked hpoint hzero
    · intro hended
      exact hinv.wake_of_ended hpoint hended

/-- While the second query is under way the first one's callback is called again and then let go:
the caller still waits for the second. -/
theorem rendezvous_safe_late_calls :
    ∃ c notices,
      (start "host" (.int 80) 3000 [.aaaa, .a]).replay?
          [.issue, .callback 0 (.report .allDone none), .respond (.ok ()), .wake, .readStatus,
            .issue, .respond (.ok ()), .callback 0 (.report .failed none),
            .callback 0 .release] = some (c, notices) ∧
        c.point = .waiting [] ∧ c.tally.permits.permits.toNat = 0 ∧
        ∃ callback, c.callbacks[1]? = some callback ∧
          callback.held = true ∧ callback.finished = false := by
  refine ⟨_, _, rfl, rfl, rfl, ?_⟩
  have hrun : (start "host" (.int 80) 3000 [.aaaa, .a]).replay?
      [.issue, .callback 0 (.report .allDone none), .respond (.ok ()), .wake, .readStatus,
        .issue, .respond (.ok ()), .callback 0 (.report .failed none),
        .callback 0 .release] = some (_, _) := rfl
  exact ((rendezvous_safe hrun).2.2.2.2 [] rfl).1 rfl

end Call

end ScriptSocket.Resolution
