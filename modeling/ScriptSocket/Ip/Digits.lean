/-!
# Numbers and fields of address text

Text of an address is a row of fields between separators, and every field is a number: up to three
decimal digits for an octet, up to four hexadecimal digits for a segment.
-/

namespace ScriptSocket.Ip

/-- The fields of a text, cut at every `separator`.  There is always at least one field. -/
def fields (separator : Char) : List Char → List (List Char)
  | [] => [[]]
  | c :: text =>
    if c = separator then [] :: fields separator text
    else match fields separator text with
      | [] => [[c]]
      | first :: others => (c :: first) :: others

/-- Fields written one after the other with `separator` between them. -/
def joined (separator : Char) : List (List Char) → List Char
  | [] => []
  | [field] => field
  | field :: others => field ++ separator :: joined separator others

theorem fields_append {separator : Char} {field : List Char} (h : separator ∉ field)
    (text : List Char) :
    fields separator (field ++ separator :: text) = field :: fields separator text := by
  induction field with
  | nil => simp [fields]
  | cons c field ih =>
      simp only [List.mem_cons, not_or] at h
      have hne : ¬ c = separator := fun hc => h.1 hc.symm
      rw [List.cons_append, fields, if_neg hne, ih h.2]

theorem fields_self {separator : Char} {field : List Char} (h : separator ∉ field) :
    fields separator field = [field] := by
  induction field with
  | nil => rfl
  | cons c field ih =>
      simp only [List.mem_cons, not_or] at h
      have hne : ¬ c = separator := fun hc => h.1 hc.symm
      rw [fields, if_neg hne, ih h.2]

/-- Cutting at the separators undoes joining. -/
theorem fields_joined {separator : Char} {rows : List (List Char)} (hne : rows ≠ [])
    (h : ∀ row ∈ rows, separator ∉ row) : fields separator (joined separator rows) = rows := by
  induction rows with
  | nil => exact absurd rfl hne
  | cons row rows ih =>
      cases rows with
      | nil => exact fields_self (h row (by simp))
      | cons next rest =>
          rw [joined, fields_append (h row (by simp)) _, ih (by simp)]
          · intro r hr; exact h r (by simp [hr])
          · simp

def digit (n : Nat) : Char :=
  if n < 10 then Char.ofNat ('0'.toNat + n) else Char.ofNat ('a'.toNat + (n - 10))

/-- The number of a hexadecimal digit of either case. -/
def digitValue? (c : Char) : Option Nat :=
  if c.isDigit then some (c.toNat - '0'.toNat)
  else if 'a' ≤ c ∧ c ≤ 'f' then some (c.toNat - 'a'.toNat + 10)
  else if 'A' ≤ c ∧ c ≤ 'F' then some (c.toNat - 'A'.toNat + 10)
  else none

/-- The number written by digits of a base, most significant first; a character that is no digit of
the base makes it none. -/
def number? (base : Nat) (text : List Char) : Option Nat :=
  text.foldlM (fun n c => do
    let d ← digitValue? c
    if d < base then some (n * base + d) else none) 0

def octetText (n : UInt8) : List Char :=
  if n < 10 then [digit n.toNat]
  else if n < 100 then [digit (n.toNat / 10), digit (n.toNat % 10)]
  else [digit (n.toNat / 100), digit (n.toNat / 10 % 10), digit (n.toNat % 10)]

/-- An octet has one to three decimal digits, no leading zero unless it is `0`, and is at most
255. -/
def octet? (text : List Char) : Option UInt8 :=
  if text = [] ∨ 3 < text.length ∨ (text.head? = some '0' ∧ text ≠ ['0']) then none
  else (number? 10 text).bind fun n => if n < 256 then some (UInt8.ofNat n) else none

/-- The hexadecimal digits of a segment, in lower case and without leading zeros. -/
def groupText (n : UInt16) : List Char :=
  if n < 0x10 then [digit n.toNat]
  else if n < 0x100 then [digit (n.toNat / 0x10), digit (n.toNat % 0x10)]
  else if n < 0x1000 then
    [digit (n.toNat / 0x100), digit (n.toNat / 0x10 % 0x10), digit (n.toNat % 0x10)]
  else
    [digit (n.toNat / 0x1000), digit (n.toNat / 0x100 % 0x10), digit (n.toNat / 0x10 % 0x10),
      digit (n.toNat % 0x10)]

/-- A group has one to four hexadecimal digits; leading zeros are allowed. -/
def group? (text : List Char) : Option UInt16 :=
  if text = [] ∨ 4 < text.length then none else (number? 16 text).map UInt16.ofNat

end ScriptSocket.Ip
