/-!
# System error numbers

The numbers by which the network stack reports a failure.  They travel unchanged from the stack to
the script, so the type is the bare 32-bit word and every number is allowed.
-/

namespace ScriptSocket

structure Errno where
  code : Int32
  deriving DecidableEq

namespace Errno

def badDescriptor : Errno := ⟨9⟩
def again : Errno := ⟨11⟩
def noMemory : Errno := ⟨12⟩
def invalidArgument : Errno := ⟨22⟩
def wrongSocketType : Errno := ⟨91⟩
def noSuchOption : Errno := ⟨92⟩
def protocolUnsupported : Errno := ⟨93⟩
def familyUnsupported : Errno := ⟨97⟩

/-- A non-blocking call that had nothing to transfer reports `again`. -/
def wouldBlock (e : Errno) : Bool := e == again

def text (e : Errno) : String := s!"[Errno {e.code.toInt}]"

theorem wouldBlock_iff {e : Errno} : e.wouldBlock = true ↔ e = again := by
  simp [wouldBlock]

end Errno

end ScriptSocket
