import ScriptSocket.Fault

/-!
# Status of a name query

The number with which a resolver ends a query.  Two numbers mean success: `ok` and `allDone`, which
`normalized` makes one.
-/

namespace ScriptSocket.Resolution

/-- The number with which a resolver ends a query. -/
structure Status where
  code : Int32
  deriving DecidableEq

namespace Status

def ok : Status := ⟨0⟩
def noName : Status := ⟨-2⟩
def failed : Status := ⟨-4⟩
def noData : Status := ⟨-5⟩
def system : Status := ⟨-11⟩
def canceled : Status := ⟨-101⟩
def allDone : Status := ⟨-103⟩

def names : List (Int32 × String) :=
  [(0, "OK"), (-1, "BADFLAGS"), (-2, "NONAME"), (-3, "AGAIN"), (-4, "FAIL"), (-5, "NODATA"),
    (-6, "FAMILY"), (-7, "SOCKTYPE"), (-8, "SERVICE"), (-9, "ADDRFAMILY"), (-10, "MEMORY"),
    (-11, "SYSTEM"), (-12, "OVERFLOW"), (-100, "INPROGRESS"), (-101, "CANCELED"),
    (-102, "NOTCANCELED"), (-103, "ALLDONE"), (-105, "IDN_ENCODE")]

/-- The two forms of success as one. -/
def normalized (s : Status) : Status := if s = allDone then ok else s

def isError (s : Status) : Bool := s.normalized != ok

def text (s : Status) : String :=
  match names.lookup s.code with
  | some name => s!"DNS_EAI_{name} ({s.code.toInt})"
  | none => s!"DNS status {s.code.toInt}"

def fault (s : Status) : Fault := .system ⟨s.code⟩

@[simp] theorem normalized_normalized (s : Status) : s.normalized.normalized = s.normalized := by
  unfold normalized
  split
  · decide
  · simp_all

theorem isError_eq_false_iff {s : Status} : s.isError = false ↔ s = ok ∨ s = allDone := by
  unfold isError normalized
  split
  · simp_all
  · simp_all

end Status

end ScriptSocket.Resolution
