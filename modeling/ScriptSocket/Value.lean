/-!
# Script values

The dynamic values a script hands to the socket module and gets back from it.  Integers are signed
64-bit words, text is a `String`, and equality is structural: a tuple never equals a list, nor a
truth value an integer.
-/

namespace ScriptSocket

inductive Kind where
  | none
  | bool
  | int
  | str
  | bytes
  | tuple
  | list
  deriving DecidableEq

def Kind.name : Kind → String
  | .none => "NoneType"
  | .bool => "bool"
  | .int => "int"
  | .str => "str"
  | .bytes => "bytes"
  | .tuple => "tuple"
  | .list => "list"

inductive Value where
  | none
  | bool (flag : Bool)
  | int (number : Int64)
  | str (text : String)
  | bytes (data : List UInt8)
  | tuple (items : List Value)
  | list (items : List Value)

namespace Value

def kind : Value → Kind
  | .none => .none
  | .bool _ => .bool
  | .int _ => .int
  | .str _ => .str
  | .bytes _ => .bytes
  | .tuple _ => .tuple
  | .list _ => .list

/-- The empty sequence, `false`, zero and `none` are false; every other value is true. -/
def isTrue : Value → Bool
  | .none => false
  | .bool flag => flag
  | .int number => number != 0
  | .str text => !text.isEmpty
  | .bytes data => !data.isEmpty
  | .tuple items | .list items => !items.isEmpty

/-- The length of a value that has one.  Text is measured in bytes of its UTF-8 form. -/
def size? : Value → Option Nat
  | .str text => some text.utf8ByteSize
  | .bytes data => some data.length
  | .tuple items | .list items => some items.length
  | .none | .bool _ | .int _ => Option.none

def utf8 (text : String) : List UInt8 := text.toUTF8.data.toList

mutual

/-- Structural comparison of two values. -/
def same : Value → Value → Bool
  | .none, .none => true
  | .bool a, .bool b => a == b
  | .int a, .int b => a == b
  | .str a, .str b => a == b
  | .bytes a, .bytes b => a == b
  | .tuple as, .tuple bs => sameAll as bs
  | .list as, .list bs => sameAll as bs
  | _, _ => false

def sameAll : List Value → List Value → Bool
  | [], [] => true
  | a :: as, b :: bs => same a b && sameAll as bs
  | _, _ => false

end

mutual

theorem same_iff : ∀ a b : Value, same a b = true ↔ a = b
  | .none, b => by cases b <;> simp [same]
  | .bool _, b => by cases b <;> simp [same]
  | .int _, b => by cases b <;> simp [same]
  | .str _, b => by cases b <;> simp [same]
  | .bytes _, b => by cases b <;> simp [same]
  | .tuple as, b => by
      cases b with
      | tuple bs => simp [same, sameAll_iff as bs]
      | _ => simp [same]
  | .list as, b => by
      cases b with
      | list bs => simp [same, sameAll_iff as bs]
      | _ => simp [same]

theorem sameAll_iff : ∀ as bs : List Value, sameAll as bs = true ↔ as = bs
  | [], bs => by cases bs <;> simp [sameAll]
  | a :: as, bs => by
      cases bs with
      | nil => simp [sameAll]
      | cons b bs => simp [sameAll, same_iff a b, sameAll_iff as bs]

end

instance : DecidableEq Value := fun a b =>
  decidable_of_iff (same a b = true) (same_iff a b)

@[simp] theorem kind_tuple (items : List Value) : (tuple items).kind = .tuple := rfl

@[simp] theorem kind_list (items : List Value) : (list items).kind = .list := rfl

end Value

end ScriptSocket
