import ScriptSocket.Value

/-!
# Numbers of the socket interface

Address families, socket types, protocols and peer verification modes, with the numbers under which
scripts and the network stack know them.
-/

namespace ScriptSocket

inductive Family where
  | ipv4
  | ipv6
  | packet
  deriving DecidableEq

namespace Family

def code : Family → Int32
  | .ipv4 => 1
  | .ipv6 => 2
  | .packet => 3

def ofCode? (code : Int64) : Option Family :=
  if code = 1 then some .ipv4 else if code = 2 then some .ipv6 else if code = 3 then some .packet
  else none

def name : Family → String
  | .ipv4 => "Ipv4"
  | .ipv6 => "Ipv6"
  | .packet => "Packet"

def arity : Family → Nat
  | .ipv6 => 4
  | .ipv4 | .packet => 2

/-- The family a script asks to resolve for: 0 asks for every family, and a number that names none
asks for IPv4. -/
def hint (code : Int64) : Option Family :=
  if code = 0 then none else some ((ofCode? code).getD .ipv4)

theorem ofCode?_code (f : Family) : ofCode? f.code.toInt64 = some f := by
  cases f <;> decide

theorem ofCode?_eq_some_iff {code : Int64} {f : Family} :
    ofCode? code = some f ↔ code = f.code.toInt64 := by
  have h₁ : code = Int32.toInt64 1 ↔ code = 1 := by rw [show Int32.toInt64 1 = 1 by decide]
  have h₂ : code = Int32.toInt64 2 ↔ code = 2 := by rw [show Int32.toInt64 2 = 2 by decide]
  have h₃ : code = Int32.toInt64 3 ↔ code = 3 := by rw [show Int32.toInt64 3 = 3 by decide]
  unfold ofCode?
  cases f <;> simp only [Family.code, h₁, h₂, h₃] <;> grind

end Family

inductive SocketKind where
  | stream
  | datagram
  | raw
  deriving DecidableEq

namespace SocketKind

def code : SocketKind → Int32
  | .stream => 1
  | .datagram => 2
  | .raw => 3

def ofCode? (code : Int64) : Option SocketKind :=
  if code = 1 then some .stream else if code = 2 then some .datagram
  else if code = 3 then some .raw else none

def name : SocketKind → String
  | .stream => "Stream"
  | .datagram => "Datagram"
  | .raw => "Raw"

theorem ofCode?_code (k : SocketKind) : ofCode? k.code.toInt64 = some k := by
  cases k <;> decide

theorem ofCode?_eq_some_iff {code : Int64} {k : SocketKind} :
    ofCode? code = some k ↔ code = k.code.toInt64 := by
  have h₁ : code = Int32.toInt64 1 ↔ code = 1 := by rw [show Int32.toInt64 1 = 1 by decide]
  have h₂ : code = Int32.toInt64 2 ↔ code = 2 := by rw [show Int32.toInt64 2 = 2 by decide]
  have h₃ : code = Int32.toInt64 3 ↔ code = 3 := by rw [show Int32.toInt64 3 = 3 by decide]
  unfold ofCode?
  cases k <;> simp only [SocketKind.code, h₁, h₂, h₃] <;> grind

end SocketKind

/-- A transport protocol.  A number without a name of its own is carried as it is. -/
inductive Protocol where
  | tcp
  | udp
  | tls12
  | other (code : Int32)
  deriving DecidableEq

namespace Protocol

def code : Protocol → Int32
  | .tcp => 6
  | .udp => 17
  | .tls12 => 258
  | .other code => code

/-- The protocol of a script's number: the named ones are recognised on the whole 64-bit number,
any other number is cut to 32 bits. -/
def ofCode (code : Int64) : Protocol :=
  if code = 6 then .tcp else if code = 17 then .udp else if code = 258 then .tls12
  else .other code.toInt32

def name : Protocol → String
  | .tcp => "Tcp"
  | .udp => "Udp"
  | .tls12 => "Tls12"
  | .other code => s!"Other({code.toInt})"

def auto : SocketKind → Protocol
  | .stream => .tcp
  | .datagram | .raw => .udp

/-- Whatever name a number is given, it is cut to 32 bits. -/
theorem code_ofCode (code : Int64) : (ofCode code).code = code.toInt32 := by
  unfold ofCode
  split
  · rename_i hcode
    rw [hcode]
    rfl
  · split
    · rename_i hcode
      rw [hcode]
      rfl
    · split
      · rename_i hcode
        rw [hcode]
        rfl
      · rfl

/-- A protocol read back from its number has that number, though it may have another name. -/
theorem code_ofCode_code (p : Protocol) : (ofCode p.code.toInt64).code = p.code := by
  rw [code_ofCode, Int32.toInt32_toInt64]

end Protocol

/-- How strictly the peer's certificate is checked. -/
inductive Verification where
  | off
  | optional
  | required
  deriving DecidableEq

namespace Verification

def code : Verification → Int32
  | .off => 0
  | .optional => 1
  | .required => 2

def ofCode? (code : Int64) : Option Verification :=
  if code = 0 then some .off else if code = 1 then some .optional
  else if code = 2 then some .required else none

def name : Verification → String
  | .off => "None"
  | .optional => "Optional"
  | .required => "Required"

theorem ofCode?_code (v : Verification) : ofCode? v.code.toInt64 = some v := by
  cases v <;> decide

end Verification

def Value.ofCode (code : Int32) : Value := .int code.toInt64

end ScriptSocket
