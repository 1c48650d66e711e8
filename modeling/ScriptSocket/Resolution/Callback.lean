import ScriptSocket.Notice
import ScriptSocket.Resolution.Semaphore

/-!
# Callbacks of a query

A resolver reports to the callback of a query: once for each address, and once without an address to
end the query with a status.  The callback adds to the tally of its resolution.  The first report
without an address finishes it and gives the waiting caller one permit; every later report is
ignored.  A callback released unfinished finishes itself with the status `failed`, so that a caller
is never left waiting for a resolver that gave up.
-/

namespace ScriptSocket.Resolution

/-- What a resolution and its callbacks share. -/
structure Tally where
  entries : List Entry
  status : Status
  permits : Semaphore
  deriving DecidableEq

def Tally.empty : Tally := ⟨[], .ok, .empty⟩

structure Callback where
  kind : QueryKind
  /-- A report without an address came, or the callback was released. -/
  finished : Bool
  /-- The resolver has not released the callback. -/
  held : Bool
  deriving DecidableEq

def Callback.fresh (kind : QueryKind) : Callback := ⟨kind, false, true⟩

inductive Event where
  | report (status : Status) (endpoint : Option Endpoint)
  | release
  deriving DecidableEq

/-- A tally and a callback after an event, and what it says to the log. -/
structure Effect where
  tally : Tally
  callback : Callback
  notices : List Notice

def Tally.add (t : Tally) (entry : Entry) : Tally := { t with entries := t.entries ++ [entry] }

/-- The tally of a query that ended: its status, and one permit for the caller. -/
def Tally.finish (t : Tally) (status : Status) : Tally :=
  { t with status := status.normalized, permits := t.permits.give }

/-- The effect of an event on a callback, and through it on the tally, for the port object of the
resolution. -/
def Callback.handle (c : Callback) (port : Value) (t : Tally) : Event → Effect
  | .report status (some endpoint) =>
    if c.finished then ⟨t, c, [.callAfterEnd status]⟩
    else ⟨t.add (.ofEndpoint endpoint port), c, [.addressFound endpoint.address]⟩
  | .report status none =>
    if c.finished then ⟨t, c, [.callAfterEnd status]⟩
    else ⟨t.finish status, { c with finished := true }, [.queryEnded status]⟩
  | .release =>
    if c.finished then ⟨t, { c with held := false }, []⟩
    else ⟨t.finish .failed, { c with finished := true, held := false },
      [.callbackAbandoned, .queryEnded .failed]⟩

/-- A finished callback changes nothing any more. -/
theorem Callback.handle_tally_of_finished {c : Callback} (h : c.finished = true) (port : Value)
    (t : Tally) (event : Event) : (c.handle port t event).tally = t := by
  cases event with
  | report status endpoint => cases endpoint <;> simp [handle, h]
  | release => simp [handle, h]

theorem Callback.finished_handle {c : Callback} (h : c.finished = true) (port : Value) (t : Tally)
    (event : Event) : (c.handle port t event).callback.finished = true := by
  cases event with
  | report status endpoint => cases endpoint <;> simp [handle, h]
  | release => simp [handle, h]

end ScriptSocket.Resolution
