import ScriptSocket.Fault

/-!
# Reading script values

The conversions by which operations read their arguments.  Each one either succeeds or names the
kind it was given; `integer_eq_ok_iff` and its companions say exactly when it succeeds.
-/

namespace ScriptSocket.Value

/-- A truth value counts as the integer 0 or 1. -/
def integer : Value → Except Fault Int64
  | .int number => .ok number
  | .bool flag => .ok (if flag then 1 else 0)
  | v => .error (.type (.notInteger v.kind))

def text : Value → Except Fault String
  | .str text => .ok text
  | v => .error (.type (.notText v.kind))

/-- The items of a tuple or list that has exactly `count` of them. -/
def items (count : Nat) : Value → Except Fault (List Value)
  | .tuple items | .list items =>
    if items.length = count then .ok items
    else .error (.value (.wrongLength count items.length))
  | v => .error (.type (.notSequence v.kind))

/-- The bytes of a bytes-like value; text stands for its UTF-8 form. -/
def buffer : Value → Except Fault (List UInt8)
  | .bytes data => .ok data
  | .str text => .ok (utf8 text)
  | v => .error (.type (.noBuffer v.kind))

def low16 (number : Int64) : UInt16 := number.toUInt64.toUInt16

def low32 (number : Int64) : UInt32 := number.toUInt64.toUInt32

def ofWord16 (word : UInt16) : Value := .int word.toUInt64.toInt64

def ofWord32 (word : UInt32) : Value := .int word.toUInt64.toInt64

/-- The values that pass for an integer. -/
def IsInteger (v : Value) : Prop := v.kind = .int ∨ v.kind = .bool

instance (v : Value) : Decidable v.IsInteger := by unfold IsInteger; infer_instance

@[simp] theorem bind_ok {α β : Type} (taken : α) (next : α → Except Fault β) :
    (Except.ok taken >>= next) = next taken := rfl

/-- Two readings one after the other succeed if each of them does. -/
theorem bind_eq_ok_iff {α β : Type} {first : Except Fault α} {next : α → Except Fault β}
    {value : β} :
    first >>= next = .ok value ↔ ∃ taken, first = .ok taken ∧ next taken = .ok value := by
  cases first with
  | error fault =>
      constructor
      · intro hok; cases hok
      · rintro ⟨taken, hfirst, -⟩; cases hfirst
  | ok taken => simp

theorem exists_integer_iff {v : Value} : (∃ n, v.integer = .ok n) ↔ v.IsInteger := by
  cases v <;> simp [integer, IsInteger, kind]

theorem integer_eq_error_iff {v : Value} {f : Fault} :
    v.integer = .error f ↔ ¬ v.IsInteger ∧ f = .type (.notInteger v.kind) := by
  cases v <;> simp [integer, IsInteger, kind, eq_comm]

theorem text_eq_ok_iff {v : Value} {s : String} : v.text = .ok s ↔ v = .str s := by
  cases v <;> simp [text]

theorem text_eq_error_iff {v : Value} {f : Fault} :
    v.text = .error f ↔ v.kind ≠ .str ∧ f = .type (.notText v.kind) := by
  cases v <;> simp [text, kind, eq_comm]

theorem buffer_eq_error_iff {v : Value} {f : Fault} :
    v.buffer = .error f ↔ (v.kind ≠ .bytes ∧ v.kind ≠ .str) ∧ f = .type (.noBuffer v.kind) := by
  cases v <;> simp [buffer, kind, eq_comm]

theorem items_eq_ok_iff {v : Value} {count : Nat} {xs : List Value} :
    v.items count = .ok xs ↔ (v = .tuple xs ∨ v = .list xs) ∧ xs.length = count := by
  cases v with
  | tuple ys | list ys =>
      simp only [items]
      split <;> grind
  | _ => simp [items]

end ScriptSocket.Value
