import ScriptSocket.Proofs.Resolution.Accounts
import ScriptSocket.Resolution.Board

/-!
# What the callbacks hear of a resolver's reactions

A resolver reacts to a query with events on any callbacks, by their tickets.  A callback hears those
that are its own, from its query on and up to its release: before and after that the resolver does
not hold it.  `heardOn` reads this off the exchanges with the resolver alone.
-/

namespace ScriptSocket.Resolution

/-- The events that go to one callback, in order. -/
def toldOn (ticket : Ticket) (events : List (Ticket × Event)) : List Event :=
  events.filterMap fun (other, event) => if other = ticket then some event else none

/-- What a reaction tells a callback. -/
def Reaction.told (reaction : Reaction) (ticket : Ticket) : List Event :=
  toldOn ticket (reaction.before ++ reaction.after)

/-- Events on a callback while it is held: its release is the last. -/
def upToRelease : List Event → List Event
  | [] => []
  | .release :: _ => [.release]
  | event :: events => event :: upToRelease events

/-- What the reactions of some exchanges tell a callback. -/
def toldIn (ticket : Ticket) (exchanges : List (Exchange Resolver)) : List Event :=
  exchanges.flatMap fun exchange => Reaction.told exchange.reply ticket

/-- What the callback of a query hears in the course of some exchanges. -/
def heardOn (ticket : Ticket) (exchanges : List (Exchange Resolver)) : List Event :=
  upToRelease (toldIn ticket (exchanges.dropWhile fun exchange => exchange.request.ticket ≠ ticket))

/-- The words by which the resolver refuses queries. -/
def refusalsIn (exchanges : List (Exchange Resolver)) : List Errno :=
  exchanges.flatMap fun exchange => refusals [.respond (Reaction.outcome exchange.reply)]

@[simp]
theorem toldOn_nil (ticket : Ticket) : toldOn ticket [] = [] := rfl

@[simp]
theorem toldOn_append (ticket : Ticket) (events later : List (Ticket × Event)) :
    toldOn ticket (events ++ later) = toldOn ticket events ++ toldOn ticket later :=
  List.filterMap_append

theorem toldOn_own (ticket : Ticket) (events : List Event) :
    toldOn ticket (events.map fun event => (ticket, event)) = events := by
  simp [toldOn, List.filterMap_map]

theorem toldOn_singleton_self (ticket : Ticket) (event : Event) :
    toldOn ticket [(ticket, event)] = [event] := by
  simp [toldOn]

theorem toldOn_singleton_of_ne {ticket other : Ticket} (hne : other ≠ ticket) (event : Event) :
    toldOn ticket [(other, event)] = [] := by
  simp [toldOn, hne]

@[simp]
theorem refusalsIn_nil : refusalsIn [] = [] := rfl

theorem refusalsIn_cons
    (query : Query) (reaction : Reaction) (exchanges : List (Exchange Resolver)) :
    refusalsIn (⟨query, reaction⟩ :: exchanges) =
      refusals [.respond reaction.outcome] ++ refusalsIn exchanges :=
  List.flatMap_cons

theorem upToRelease_append_of_mem
    {events : List Event} (hreleased : Event.release ∈ events) (later : List Event) :
    upToRelease (events ++ later) = upToRelease events := by
  induction events with
  | nil => cases hreleased
  | cons event events ih =>
      cases event with
      | release => rfl
      | report status endpoint =>
          have hrest : Event.release ∈ events := by simpa using hreleased
          exact congrArg (.report status endpoint :: ·) (ih hrest)

theorem upToRelease_append_of_not_mem
    {events : List Event} (hheld : Event.release ∉ events) (later : List Event) :
    upToRelease (events ++ later) = upToRelease events ++ upToRelease later := by
  induction events with
  | nil => rfl
  | cons event events ih =>
      cases event with
      | release => simp at hheld
      | report status endpoint =>
          have hrest : Event.release ∉ events := by simpa using hheld
          exact congrArg (.report status endpoint :: ·) (ih hrest)

namespace Call

/-- The resolver holds the callback of a query. -/
def holds (c : Call) (pass : Nat) : Bool := c.callbacks[pass]?.any (·.held)

/-- What a callback hears of the events that go to it. -/
def heard (c : Call) (pass : Nat) (events : List Event) : List Event :=
  if c.holds pass then upToRelease events else []

variable {c d e : Call} {call pass : Nat} {event : Event} {notices : List Notice}

theorem holds_of_length_le (hpass : c.callbacks.length ≤ pass) : c.holds pass = false := by
  simp [holds, List.getElem?_eq_none hpass]

@[simp]
theorem heard_nil (c : Call) (pass : Nat) : c.heard pass [] = [] := by
  simp [heard, upToRelease]

theorem step?_callback_eq_none (hstep : c.step? (.callback pass event) = none) :
    c.holds pass = false := by
  simp only [step?] at hstep
  split at hstep
  · rename_i callback hcallback
    split at hstep
    · cases hstep
    · rename_i hheld
      simpa [holds, hcallback] using hheld
  · rename_i hnone
    simp [holds, hnone]

theorem holds_of_step?_callback
    (hstep : c.step? (.callback pass event) = some (d, notices)) : c.holds pass = true := by
  cases step_of_step? hstep with
  | callback hcallback hheld => simp [holds, hcallback, hheld]

theorem length_of_step?_callback
    (hstep : c.step? (.callback pass event) = some (d, notices)) :
    d.callbacks.length = c.callbacks.length := by
  cases step_of_step? hstep with
  | callback hcallback hheld => exact List.length_set

/-- Only a release takes a callback from the resolver. -/
theorem holds_iff_of_step?_callback
    (hstep : c.step? (.callback pass event) = some (d, notices)) (other : Nat) :
    d.holds other = true ↔ c.holds other = true ∧ ¬ (other = pass ∧ event = .release) := by
  cases step_of_step? hstep with
  | @callback _ _ callback hcallback hheld =>
      obtain ⟨hlt, -⟩ := List.getElem?_eq_some_iff.mp hcallback
      by_cases heq : other = pass
      · subst heq
        simp only [holds, List.getElem?_set_self hlt, hcallback, Option.any_some,
          Callback.held_handle_iff, true_and, ne_eq]
      · simp [holds, List.getElem?_set_ne (Ne.symm heq), heq]

/-! ## Between two queries -/

/-- The callbacks of a resolution before and after the resolver's events: those that the events
release are not held any more. -/
structure Heeds (call : Nat) (told : List (Ticket × Event)) (c d : Call) : Prop where
  length_eq : d.callbacks.length = c.callbacks.length
  holds_iff : ∀ pass,
    d.holds pass = true ↔ c.holds pass = true ∧ Event.release ∉ toldOn ⟨call, pass⟩ told

theorem Heeds.refl (call : Nat) (c : Call) : Heeds call [] c c := ⟨rfl, by simp⟩

theorem Heeds.of_callbacks_eq
    {told : List (Ticket × Event)} (hheeds : Heeds call told c d)
    (hcallbacks : e.callbacks = d.callbacks) : Heeds call told c e := by
  refine ⟨by rw [hcallbacks, hheeds.length_eq], fun pass => ?_⟩
  rw [← hheeds.holds_iff, holds, holds, hcallbacks]

theorem Heeds.trans
    {told later : List (Ticket × Event)} (hfirst : Heeds call told c d)
    (hsecond : Heeds call later d e) : Heeds call (told ++ later) c e := by
  refine ⟨hsecond.length_eq.trans hfirst.length_eq, fun pass => ?_⟩
  rw [hsecond.holds_iff, hfirst.holds_iff, toldOn_append, List.mem_append, not_or, and_assoc]

theorem Heeds.of_step?
    {ticket : Ticket} (hstep : c.step? (.callback ticket.pass event) = some (d, notices))
    (hcall : ticket.call = call) : Heeds call [(ticket, event)] c d := by
  refine ⟨length_of_step?_callback hstep, fun pass => ?_⟩
  rw [holds_iff_of_step?_callback hstep]
  by_cases heq : pass = ticket.pass
  · have hticket : ticket = ⟨call, pass⟩ := by rw [heq, ← hcall]
    rw [hticket, toldOn_singleton_self, List.mem_singleton, eq_comm (a := Event.release)]
    simp
  · have hne : ticket ≠ ⟨call, pass⟩ := fun hticket => heq (congrArg Ticket.pass hticket).symm
    rw [toldOn_singleton_of_ne hne]
    simp [heq]

/-- A callback hears what is told first, and what is told then if it is still held. -/
theorem Heeds.heard_append
    {told : List (Ticket × Event)} (hheeds : Heeds call told c d) (pass : Nat)
    (later : List Event) :
    c.heard pass (toldOn ⟨call, pass⟩ told ++ later) =
      c.heard pass (toldOn ⟨call, pass⟩ told) ++ d.heard pass later := by
  unfold heard
  by_cases hheld : c.holds pass = true
  · by_cases hreleased : Event.release ∈ toldOn ⟨call, pass⟩ told
    · have hgone : ¬ d.holds pass = true := fun h => ((hheeds.holds_iff pass).mp h).2 hreleased
      rw [if_pos hheld, if_pos hheld, if_neg hgone, upToRelease_append_of_mem hreleased,
        List.append_nil]
    · have hkept : d.holds pass = true := (hheeds.holds_iff pass).mpr ⟨hheld, hreleased⟩
      rw [if_pos hheld, if_pos hheld, if_pos hkept, upToRelease_append_of_not_mem hreleased]
  · have hgone : ¬ d.holds pass = true := fun h => hheld ((hheeds.holds_iff pass).mp h).1
    rw [if_neg hheld, if_neg hheld, if_neg hgone, List.append_nil]

/-! ## From one query to the next -/

/-- What the callback of a query is still to hear in some exchanges: if the query has been issued,
all that it is told, and if not, what it is told from its query on. -/
def toHear (c : Call) (call pass : Nat) (exchanges : List (Exchange Resolver)) : List Event :=
  if pass < c.callbacks.length then c.heard pass (toldIn ⟨call, pass⟩ exchanges)
  else heardOn ⟨call, pass⟩ exchanges

@[simp]
theorem toHear_nil (c : Call) (call pass : Nat) : c.toHear call pass [] = [] := by
  simp [toHear, toldIn, heardOn, upToRelease]

theorem toHear_start
    (host : String) (port : Value) (timeout : Nat) (passes : List QueryKind) (call pass : Nat)
    (exchanges : List (Exchange Resolver)) :
    (start host port timeout passes).toHear call pass exchanges =
      heardOn ⟨call, pass⟩ exchanges :=
  if_neg (Nat.not_lt_zero pass)

theorem toHear_congr
    (hcallbacks : d.callbacks = c.callbacks) (call pass : Nat)
    (exchanges : List (Exchange Resolver)) :
    d.toHear call pass exchanges = c.toHear call pass exchanges := by
  unfold toHear heard holds
  rw [hcallbacks]

/-- The exchange about the query that was issued last. -/
theorem toHear_cons
    {query : Query} {reaction : Reaction} (hquery : query.ticket = ⟨call, c.callbacks.length - 1⟩)
    (hissued : 0 < c.callbacks.length)
    (hheeds : Heeds call (reaction.before ++ reaction.after) c d) (pass : Nat)
    (exchanges : List (Exchange Resolver)) :
    c.toHear call pass (⟨query, reaction⟩ :: exchanges) =
      c.heard pass (reaction.told ⟨call, pass⟩) ++ d.toHear call pass exchanges := by
  unfold toHear
  rw [hheeds.length_eq]
  by_cases hlt : pass < c.callbacks.length
  · rw [if_pos hlt, if_pos hlt]
    exact hheeds.heard_append pass _
  · have hne : query.ticket ≠ ⟨call, pass⟩ := by
      rw [hquery]
      intro heq
      have hpass := congrArg Ticket.pass heq
      simp only at hpass
      omega
    have hunheard : c.heard pass (reaction.told ⟨call, pass⟩) = [] :=
      if_neg (by simp [holds_of_length_le (Nat.not_lt.mp hlt)])
    rw [if_neg hlt, if_neg hlt, hunheard, List.nil_append, heardOn, heardOn,
      List.dropWhile_cons_of_pos (by simpa using hne)]

/-- A query that is issued is the first that the exchanges are about. -/
theorem toHear_issue
    {kind : QueryKind} {exchanges : List (Exchange Resolver)}
    (hcallbacks : d.callbacks = c.callbacks ++ [.fresh kind])
    (hfirst : ∀ exchange ∈ exchanges.head?,
      exchange.request.ticket = ⟨call, c.callbacks.length⟩) (pass : Nat) :
    d.toHear call pass exchanges = c.toHear call pass exchanges := by
  unfold toHear heard holds
  rw [hcallbacks, List.length_append, List.length_singleton]
  rcases Nat.lt_trichotomy pass c.callbacks.length with hlt | rfl | hgt
  · rw [if_pos (by omega), if_pos hlt, List.getElem?_append_left hlt]
  · rw [if_pos (by omega), if_neg (Nat.lt_irrefl _), List.getElem?_concat_length]
    simp only [Option.any_some, Callback.fresh, if_true, heardOn]
    cases exchanges with
    | nil => rfl
    | cons exchange exchanges =>
        have hticket := hfirst exchange rfl
        rw [List.dropWhile_cons_of_neg (by simp [hticket])]
  · rw [if_neg (by omega), if_neg (by omega)]

end Call

end ScriptSocket.Resolution
