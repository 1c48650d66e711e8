import ScriptSocket.Ip.Text

/-!
# Address literals

Reading the text of an address.  The whole text has to be a literal: nothing may stand before or
after it.  An IPv6 literal may write its last two segments as an IPv4 literal and may leave out one
run of zero segments as `::`.
-/

namespace ScriptSocket.Ip

/-- The text before and after the first `::`. -/
def cut? : List Char → Option (List Char × List Char)
  | ':' :: ':' :: tail => some ([], tail)
  | c :: text => (cut? text).map fun (head, tail) => (c :: head, tail)
  | [] => none

namespace V4

def parse? (text : List Char) : Option V4 :=
  match fields '.' text with
  | [a, b, c, d] => do return ⟨← octet? a, ← octet? b, ← octet? c, ← octet? d⟩
  | _ => none

end V4

/-- Segments of a row of groups; no text at all stands for no segments. -/
def groups? (text : List Char) : Option (List UInt16) :=
  if text = [] then some [] else (fields ':' text).mapM group?

/-- Segments of the fields that end an IPv6 literal, of which the last may be a dotted IPv4
literal. -/
def endingSegments? : List (List Char) → Option (List UInt16)
  | [] => some []
  | [last] => ((group? last).map ([·])).or ((V4.parse? last).map V4.segments)
  | field :: others => do return (← group? field) :: (← endingSegments? others)

def ending? (text : List Char) : Option (List UInt16) :=
  if text = [] then some [] else endingSegments? (fields ':' text)

namespace V6

/-- Eight segments, or fewer around one `::` that stands for at least one zero segment. -/
def parse? (text : List Char) : Option V6 :=
  match cut? text with
  | none => (ending? text).bind ofSegments?
  | some (head, tail) => do
    let before ← groups? head
    let after ← ending? tail
    if before.length + after.length < 8 then
      ofSegments? (before ++ List.replicate (8 - before.length - after.length) 0 ++ after)
    else none

end V6

def Address.parse? (text : List Char) : Option Address :=
  ((V4.parse? text).map Address.v4).or ((V6.parse? text).map Address.v6)

end ScriptSocket.Ip
