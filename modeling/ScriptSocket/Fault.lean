import ScriptSocket.Errno
import ScriptSocket.Value

/-!
# Faults

Why an operation of the socket module fails, and the text that the script is shown for it.  A fault
is an error number of the system, an argument of the wrong kind, or an argument of the right kind
with a value that cannot be used.
-/

namespace ScriptSocket

/-- An argument, or the list of arguments, has the wrong shape. -/
inductive TypeFault where
  | notInteger (kind : Kind)
  | notText (kind : Kind)
  | notSequence (kind : Kind)
  | noBuffer (kind : Kind)
  /-- A packet data network is named by an integer proper, a truth value does not do. -/
  | networkNotInteger (kind : Kind)
  | argumentCount (function : String) (least most given : Nat)
  | described (message : String)
  deriving DecidableEq

/-- An argument has the right shape and an unusable value. -/
inductive ValueFault where
  | wrongLength (expected actual : Nat)
  | negativeSize
  | unknownVerification (code : Int64)
  | described (message : String)
  deriving DecidableEq

/-- Why an operation failed. -/
inductive Fault where
  | system (errno : Errno)
  | type (cause : TypeFault)
  | value (cause : ValueFault)
  deriving DecidableEq

def TypeFault.text : TypeFault → String
  | .notInteger kind => s!"can't convert {kind.name} to int"
  | .notText kind => "can't convert '" ++ kind.name ++ "' object to str implicitly"
  | .notSequence kind => "object '" ++ kind.name ++ "' isn't a tuple or list"
  | .noBuffer kind => "object with buffer protocol required, got '" ++ kind.name ++ "'"
  | .networkNotInteger kind => s!"PDN id must be an int, not {kind.name}"
  | .argumentCount function least most given =>
    s!"{function}() takes {least} to {most} positional arguments but {given} were given"
  | .described message => message

def ValueFault.text : ValueFault → String
  | .wrongLength expected actual => s!"requested length {expected} but object has length {actual}"
  | .negativeSize => "negative buffer size"
  | .unknownVerification code => s!"invalid peer verify mode {code.toInt}"
  | .described message => message

namespace Fault

def message : Fault → String
  | .system errno => "OSError: " ++ errno.text
  | .type cause => "TypeError: " ++ cause.text
  | .value cause => "ValueError: " ++ cause.text

def errno? : Fault → Option Errno
  | .system errno => some errno
  | .type _ | .value _ => none

def closed : Fault := .system .badDescriptor

end Fault

end ScriptSocket
