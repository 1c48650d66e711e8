import ScriptSocket.Ip.Basic
import ScriptSocket.Ip.Digits

/-!
# Canonical text of an address

Each address has one canonical text: four decimal octets for IPv4; for IPv6 lower-case groups with
the first longest run of two or more zero segments written `::`, except that an address which maps
an IPv4 address ends in dotted form.
-/

namespace ScriptSocket.Ip

namespace V4

def text (x : V4) : List Char :=
  joined '.' [octetText x.a, octetText x.b, octetText x.c, octetText x.d]

end V4

def groupsText (segments : List UInt16) : List Char := joined ':' (segments.map groupText)

namespace V6

/-- How many zero segments follow one another from position `start` on. -/
def zeroRun (x : V6) (start : Nat) : Nat :=
  ((x.segments.drop start).takeWhile (· == 0)).length

/-- The start and length of the longest run of zero segments, the first of several. -/
def longestZeroRun (x : V6) : Nat × Nat :=
  (List.range 8).foldl
    (fun best start => if best.2 < x.zeroRun start then (start, x.zeroRun start) else best) (0, 0)

/-- The canonical text: dotted for a mapped IPv4 address, otherwise with the longest zero run of at
least two segments left out. -/
def text (x : V6) : List Char :=
  match x.mapped? with
  | some inner => "::ffff:".toList ++ inner.text
  | none =>
    let run := x.longestZeroRun
    if 1 < run.2 then
      groupsText (x.segments.take run.1) ++ ':' :: ':' ::
        groupsText (x.segments.drop (run.1 + run.2))
    else groupsText x.segments

end V6

def Address.text : Address → List Char
  | .v4 x => x.text
  | .v6 x => x.text

end ScriptSocket.Ip
