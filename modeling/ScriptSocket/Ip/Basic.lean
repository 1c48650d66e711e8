/-!
# Internet addresses

An IPv4 address is four octets, an IPv6 address is eight 16-bit segments.
-/

namespace ScriptSocket.Ip

/-- An IPv4 address, most significant octet first. -/
structure V4 where
  a : UInt8
  b : UInt8
  c : UInt8
  d : UInt8
  deriving DecidableEq

/-- An IPv6 address, most significant segment first. -/
structure V6 where
  segments : List UInt16
  length_eq : segments.length = 8
  deriving DecidableEq

inductive Address where
  | v4 (address : V4)
  | v6 (address : V6)
  deriving DecidableEq

def V4.zero : V4 := ⟨0, 0, 0, 0⟩

def V6.ofSegments? (segments : List UInt16) : Option V6 :=
  if h : segments.length = 8 then some ⟨segments, h⟩ else none

theorem V6.ext {x y : V6} (h : x.segments = y.segments) : x = y := by
  cases x; cases y; simp_all

theorem V6.ofSegments?_eq_some_iff {segments : List UInt16} {x : V6} :
    V6.ofSegments? segments = some x ↔ segments = x.segments := by
  unfold V6.ofSegments?
  split
  · rename_i h
    constructor
    · rintro ⟨rfl⟩; rfl
    · intro he; exact congrArg some (V6.ext he)
  · rename_i h
    constructor
    · intro he; simp at he
    · intro he; exact absurd (he ▸ x.length_eq) h

@[simp] theorem V6.ofSegments?_segments (x : V6) : V6.ofSegments? x.segments = some x :=
  V6.ofSegments?_eq_some_iff.2 rfl

/-- A 16-bit segment written as two octets. -/
def segment (high low : UInt8) : UInt16 := high.toUInt16 * 256 + low.toUInt16

def V4.segments (x : V4) : List UInt16 := [segment x.a x.b, segment x.c x.d]

/-- The IPv4 address carried by an IPv6 address of the block `::ffff:0:0/96`. -/
def V6.mapped? (x : V6) : Option V4 :=
  match x.segments with
  | [0, 0, 0, 0, 0, 0xffff, g, h] =>
    some ⟨(g / 256).toUInt8, g.toUInt8, (h / 256).toUInt8, h.toUInt8⟩
  | _ => none

end ScriptSocket.Ip
