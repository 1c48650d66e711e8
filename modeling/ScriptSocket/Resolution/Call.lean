import ScriptSocket.Resolution.Callback

/-!
# A resolution under way

The caller of a resolution issues its queries one after the other.  It hands each query's callback
to the resolver, gets the resolver's word that the query was taken up or refused, waits for a
permit, reads the status, and goes on; after the last query it collects the entries.  Between any
two moves of the caller the resolver may make any move on any callback it holds.  `Call.step?` is
one move of either side.
-/

namespace ScriptSocket.Resolution

/-- Where the caller of a resolution stands.  `failure` is the status of the last query if it
failed, and `passes` are the queries still to be issued. -/
inductive Point where
  | ready (failure : Option Status) (passes : List QueryKind)
  | issuing (kind : QueryKind) (passes : List QueryKind)
  | waiting (passes : List QueryKind)
  | woken (passes : List QueryKind)
  | returned (answer : Except Fault (List Entry))

/-- A resolution with all the callbacks that it handed out, in the order of its queries. -/
structure Call where
  host : String
  port : Value
  timeout : Nat
  point : Point
  tally : Tally
  callbacks : List Callback

/-- A move of the caller or of the resolver. -/
inductive Move where
  /-- The caller issues the next query. -/
  | issue
  /-- The resolver takes the query up or refuses it. -/
  | respond (outcome : Except Errno Unit)
  /-- The caller takes a permit. -/
  | wake
  /-- The caller reads the status of the query. -/
  | readStatus
  /-- The caller takes the entries. -/
  | collect
  /-- The resolver uses or releases the callback of a query. -/
  | callback (pass : Nat) (event : Event)

namespace Call

def start (host : String) (port : Value) (timeout : Nat) (passes : List QueryKind) : Call :=
  ⟨host, port, timeout, .ready none passes, .empty, []⟩

/-- The answer of a resolution: a failure of the last query counts only if no entry was found. -/
def answer (failure : Option Status) (entries : List Entry) : Except Fault (List Entry) :=
  match failure with
  | none => .ok entries
  | some status => if entries = [] then .error status.fault else .ok entries

/-- One move, and what it says to the log, if the move can be made. -/
def step? (c : Call) : Move → Option (Call × List Notice)
  | .issue =>
    match c.point with
    | .ready _ (kind :: passes) =>
      some ({ c with point := .issuing kind passes, callbacks := c.callbacks ++ [.fresh kind] },
        [.queryIssued kind c.host])
    | _ => none
  | .respond outcome =>
    match c.point, outcome with
    | .issuing _ passes, .ok () => some ({ c with point := .waiting passes }, [])
    | .issuing _ _, .error errno =>
      some ({ c with point := .returned (.error (.system errno)) }, [])
    | _, _ => none
  | .wake =>
    match c.point with
    | .waiting passes =>
      c.tally.permits.take?.map fun permits =>
        ({ c with point := .woken passes, tally := { c.tally with permits := permits } }, [])
    | _ => none
  | .readStatus =>
    match c.point with
    | .woken passes =>
      let failure := if c.tally.status.isError then some c.tally.status else none
      some ({ c with point := .ready failure passes }, [])
    | _ => none
  | .collect =>
    match c.point with
    | .ready failure [] =>
      some ({ c with
        point := .returned (answer failure c.tally.entries)
        tally := { c.tally with entries := [] } }, [])
    | _ => none
  | .callback pass event =>
    match c.callbacks[pass]? with
    | some callback =>
      if callback.held then
        let effect := callback.handle c.port c.tally event
        some ({ c with
          tally := effect.tally
          callbacks := c.callbacks.set pass effect.callback }, effect.notices)
      else none
    | none => none

/-- Moves one after the other, and what they say to the log, if each of them can be made. -/
def replay? (c : Call) : List Move → Option (Call × List Notice)
  | [] => some (c, [])
  | move :: moves =>
    (c.step? move).bind fun first =>
      (first.1.replay? moves).map fun others => (others.1, first.2 ++ others.2)

/-- The move that the caller makes next, unless it is the resolver's turn or the resolution has
returned. -/
def next? (c : Call) : Option Move :=
  match c.point with
  | .ready _ (_ :: _) => some .issue
  | .ready _ [] => some .collect
  | .waiting _ => some .wake
  | .woken _ => some .readStatus
  | .issuing _ _ | .returned _ => none

/-- The caller's next move.  A caller that waits without a permit cannot make one. -/
def advance? (c : Call) : Option (Call × List Notice) := c.next?.bind c.step?

/-- The query that the resolver has been asked and has not answered. -/
def asked? (c : Call) : Option QueryKind :=
  match c.point with
  | .issuing kind _ => some kind
  | _ => none

def answer? (c : Call) : Option (Except Fault (List Entry)) :=
  match c.point with
  | .returned answer => some answer
  | _ => none

/-- The number of moves by which the caller still gets to its answer, if it never has to wait. -/
def distance (c : Call) : Nat :=
  match c.point with
  | .ready _ passes => 4 * passes.length + 1
  | .issuing _ passes => 4 * passes.length + 4
  | .waiting passes => 4 * passes.length + 3
  | .woken passes => 4 * passes.length + 2
  | .returned _ => 0

/-- Every move of the caller brings it one step nearer to its answer. -/
theorem distance_of_advance? {c d : Call} {notices : List Notice}
    (h : c.advance? = some (d, notices)) : c.distance = d.distance + 1 := by
  obtain ⟨host, port, timeout, point, tally, callbacks⟩ := c
  cases point with
  | ready failure passes =>
      cases passes with
      | nil =>
          simp only [advance?, next?, step?, Option.bind_some, Option.some.injEq,
            Prod.mk.injEq] at h
          obtain ⟨rfl, rfl⟩ := h
          rfl
      | cons kind passes =>
          simp only [advance?, next?, step?, Option.bind_some, Option.some.injEq,
            Prod.mk.injEq] at h
          obtain ⟨rfl, rfl⟩ := h
          simp only [distance, List.length_cons]
          omega
  | waiting passes =>
      simp only [advance?, next?, step?, Option.bind_some, Option.map_eq_some_iff,
        Prod.mk.injEq] at h
      obtain ⟨permits, -, rfl, rfl⟩ := h
      rfl
  | woken passes =>
      simp only [advance?, next?, step?, Option.bind_some, Option.some.injEq,
        Prod.mk.injEq] at h
      obtain ⟨rfl, rfl⟩ := h
      rfl
  | issuing kind passes => simp [advance?, next?] at h
  | returned answer => simp [advance?, next?] at h

/-- The resolver's use of a callback leaves the caller where it stands. -/
theorem point_of_step?_callback {c d : Call} {notices : List Notice} {pass : Nat} {event : Event}
    (h : c.step? (.callback pass event) = some (d, notices)) : d.point = c.point := by
  unfold step? at h
  grind

end Call

end ScriptSocket.Resolution
