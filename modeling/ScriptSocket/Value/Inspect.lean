import ScriptSocket.Numbering
import ScriptSocket.Text.Shapeless

/-!
# Values in log lines

The form in which log lines show a script's value: the constructor's name with its contents in
parentheses, and text in quotes with quotes, backslashes and shapeless characters escaped.
-/

namespace ScriptSocket.Value

/-- The hexadecimal digits of a number, in lower case and without leading zeros. -/
def hexadecimal (n : Nat) : String := String.ofList (Nat.toDigits 16 n)

def inspectChar (c : Char) : String :=
  match c with
  | '"' => "\\\""
  | '\\' => "\\\\"
  | '\n' => "\\n"
  | '\t' => "\\t"
  | '\r' => "\\r"
  | '\x00' => "\\0"
  | c => if Text.isShapeless c then "\\u\x7b" ++ hexadecimal c.toNat ++ "\x7d" else c.toString

def inspectText (text : String) : String :=
  "\"" ++ String.join (text.toList.map inspectChar) ++ "\""

/-- Items in brackets, separated by commas. -/
def inspectRow (items : List String) : String := "[" ++ String.intercalate ", " items ++ "]"

mutual

def inspect : Value → String
  | .none => "None"
  | .bool flag => if flag then "Bool(true)" else "Bool(false)"
  | .int number => s!"Int({number.toInt})"
  | .str text => "Str(" ++ inspectText text ++ ")"
  | .bytes data => "Bytes(" ++ inspectRow (data.map fun b => toString b.toNat) ++ ")"
  | .tuple items => "Tuple(" ++ inspectRow (inspectAll items) ++ ")"
  | .list items => "List(" ++ inspectRow (inspectAll items) ++ ")"

def inspectAll : List Value → List String
  | [] => []
  | item :: items => item.inspect :: inspectAll items

end

end ScriptSocket.Value

namespace ScriptSocket

def Family.inspectHint : Option Family → String
  | some family => s!"Some({family.name})"
  | none => "None"

end ScriptSocket
