import Mathlib.Algebra.Group.Int.Defs
import Mathlib.Algebra.Group.Nat.Defs
import ScriptSocket.Endpoint
import ScriptSocket.Proofs.Address.Literal

/-!
# Address objects there and back

`Endpoint.Named` says which endpoint the items of an address object name; reading succeeds on just
these.  From it, and from the literals of canonical text, follows that writing an endpoint and
reading an address object undo each other, up to the port, which the script chooses, and to flow
information, which is dropped.  Numbers are cut to words on the way, so a scope comes back as it was
only if it fits.
-/

namespace ScriptSocket.Value

/-! ## Numbers cut to words -/

theorem toInt_eq_bmod (number : Int64) :
    number.toInt = (number.toUInt64.toNat : Int).bmod (2 ^ 64) := by
  rw [← Int64.toInt_toBitVec, BitVec.toInt_eq_toNat_bmod]
  rfl

theorem toNat_low16 (number : Int64) :
    ((low16 number).toNat : Int) = number.toInt % 2 ^ 16 := by
  rw [toInt_eq_bmod, Int.bmod]
  simp only [low16, UInt64.toNat_toUInt16]
  omega

theorem toNat_low32 (number : Int64) :
    ((low32 number).toNat : Int) = number.toInt % 2 ^ 32 := by
  rw [toInt_eq_bmod, Int.bmod]
  simp only [low32, UInt64.toNat_toUInt32]
  omega

@[simp] theorem low16_toInt64 (word : UInt16) : low16 word.toUInt64.toInt64 = word := by
  simp [low16]

@[simp] theorem low32_toInt64 (word : UInt32) : low32 word.toUInt64.toInt64 = word := by
  simp [low32]

theorem toInt_toInt64 (word : UInt32) : word.toUInt64.toInt64.toInt = word.toNat := by
  have hword := word.toNat_lt
  rw [toInt_eq_bmod, Int.bmod]
  simp only [UInt64.toUInt64_toInt64, UInt32.toNat_toUInt64]
  omega

/-- An integer that was cut to 32 bits is written back as it was if it is an integer proper from 0
below `2 ^ 32`. -/
theorem ofWord32_low32_eq_iff {v : Value} {number : Int64} (hv : v.integer = .ok number) :
    ofWord32 (low32 number) = v ↔
      ∃ n : Int64, v = .int n ∧ 0 ≤ n.toInt ∧ n.toInt < 2 ^ 32 := by
  have hlow := toNat_low32 number
  have hback := toInt_toInt64 (low32 number)
  have hlt := (low32 number).toNat_lt
  constructor
  · rintro rfl
    refine ⟨_, rfl, ?_⟩
    omega
  · rintro ⟨n, rfl, hrange⟩
    cases hv
    unfold ofWord32
    rw [Value.int.injEq, ← Int64.toInt_inj, hback]
    omega

end ScriptSocket.Value

namespace ScriptSocket.Endpoint

/-! ## What an address object names -/

/-- Flow information, which only IPv6 has. -/
def flow : Endpoint → UInt32
  | .v4 .. => 0
  | .v6 _ _ flow _ => flow

theorem withPort_self {e : Endpoint} (hflow : e.flow = 0) : e.withPort e.port = e := by
  cases e with
  | v4 address port => rfl
  | v6 address port flow scope =>
      cases hflow
      rfl

/-- The endpoint that the items of an address object of a family name: the first item is a literal,
all others are integers, and flow information is dropped. -/
inductive Named : Family → List Value → Endpoint → Prop where
  | v4 {text : String} {port : Value} {number : Int64} {address : Ip.V4}
      (hport : port.integer = .ok number) (hliteral : Ip.V4.parse? text.toList = some address) :
      Named .ipv4 [.str text, port] (.v4 address (Value.low16 number))
  | v6 {text : String} {port flow scope : Value} {number dropped zone : Int64}
      {address : Ip.V6} (hport : port.integer = .ok number)
      (hliteral : Ip.V6.parse? text.toList = some address)
      (hflow : flow.integer = .ok dropped) (hscope : scope.integer = .ok zone) :
      Named .ipv6 [.str text, port, flow, scope]
        (.v6 address (Value.low16 number) 0 (Value.low32 zone))

theorem named_of_ofItems {family : Family} {items : List Value} {e : Endpoint}
    (hitems : ofItems family items = .ok e) : Named family items e := by
  unfold ofItems at hitems
  split at hitems
  · obtain ⟨text, htext, hrest⟩ := Value.bind_eq_ok_iff.mp hitems
    obtain ⟨number, hport, hrest⟩ := Value.bind_eq_ok_iff.mp hrest
    obtain rfl := Value.text_eq_ok_iff.mp htext
    split at hrest
    · rename_i hliteral
      cases hrest
      exact .v4 hport hliteral
    · cases hrest
  · obtain ⟨text, htext, hrest⟩ := Value.bind_eq_ok_iff.mp hitems
    obtain ⟨number, hport, hrest⟩ := Value.bind_eq_ok_iff.mp hrest
    obtain rfl := Value.text_eq_ok_iff.mp htext
    split at hrest
    · rename_i hliteral
      obtain ⟨dropped, hflow, hrest⟩ := Value.bind_eq_ok_iff.mp hrest
      obtain ⟨zone, hscope, hrest⟩ := Value.bind_eq_ok_iff.mp hrest
      cases hrest
      exact .v6 hport hliteral hflow hscope
    · cases hrest
  · obtain ⟨text, -, hrest⟩ := Value.bind_eq_ok_iff.mp hitems
    obtain ⟨number, -, hrest⟩ := Value.bind_eq_ok_iff.mp hrest
    cases hrest
  · cases hitems

theorem ofItems_eq_ok_iff {family : Family} {items : List Value} {e : Endpoint} :
    ofItems family items = .ok e ↔ Named family items e := by
  constructor
  · exact named_of_ofItems
  · intro hnamed
    cases hnamed with
    | v4 hport hliteral => simp [ofItems, Value.text, hport, hliteral]
    | v6 hport hliteral hflow hscope =>
        simp [ofItems, Value.text, hport, hliteral, hflow, hscope]

theorem Named.length_eq {family : Family} {items : List Value} {e : Endpoint}
    (hnamed : Named family items e) : items.length = family.arity := by
  cases hnamed <;> rfl

theorem ofValue_eq_ok_iff {family : Family} {object : Value} {e : Endpoint} :
    ofValue family object = .ok e ↔
      ∃ items, (object = .tuple items ∨ object = .list items) ∧ Named family items e := by
  have hsplit : ofValue family object = .ok e ↔
      ∃ items, object.items family.arity = .ok items ∧ ofItems family items = .ok e :=
    Value.bind_eq_ok_iff
  rw [hsplit]
  constructor
  · rintro ⟨items, hobject, hitems⟩
    obtain ⟨hshape, -⟩ := Value.items_eq_ok_iff.mp hobject
    exact ⟨items, hshape, ofItems_eq_ok_iff.mp hitems⟩
  · rintro ⟨items, hshape, hnamed⟩
    exact ⟨items, Value.items_eq_ok_iff.mpr ⟨hshape, hnamed.length_eq⟩,
      ofItems_eq_ok_iff.mpr hnamed⟩

/-! ## There and back -/

theorem ofValue_toValue (e : Endpoint) {port : Value} {number : Int64}
    (hport : port.integer = .ok number) :
    ofValue e.family (e.toValue port) = .ok (e.withPort (Value.low16 number)) := by
  cases e with
  | v4 address old =>
      refine ofValue_eq_ok_iff.mpr ⟨_, Or.inl rfl, .v4 hport ?_⟩
      rw [String.toList_ofList, address.parse?_text]
  | v6 address old flow scope =>
      have hliteral : Ip.V6.parse? (String.ofList address.text).toList = some address := by
        rw [String.toList_ofList, address.parse?_text]
      have hscope : (Value.ofWord32 scope).integer = .ok scope.toUInt64.toInt64 := rfl
      have hflow : (Value.int 0).integer = .ok 0 := rfl
      have hnamed := Named.v6 hport hliteral hflow hscope
      rw [Value.low32_toInt64] at hnamed
      exact ofValue_eq_ok_iff.mpr ⟨_, Or.inl rfl, hnamed⟩

/-- The items with which an address object of an endpoint is written as `toValue` writes it. -/
def Canonical (e : Endpoint) (items : List Value) : Prop :=
  items[0]? = some (.str (String.ofList e.address.text)) ∧
    (e.family = .ipv6 → items[2]? = some (.int 0) ∧
      ∃ zone : Int64, items[3]? = some (.int zone) ∧ 0 ≤ zone.toInt ∧ zone.toInt < 2 ^ 32)

/-- Writing the endpoint that an address object names, with the port object it has, gives an
object that names the same endpoint. -/
theorem Named.read_written {family : Family} {items : List Value} {e : Endpoint}
    (hnamed : Named family items e) :
    ∃ port, items[1]? = some port ∧ ofValue family (e.toValue port) = .ok e := by
  cases hnamed with
  | v4 hport hliteral => exact ⟨_, rfl, ofValue_toValue (.v4 _ _) hport⟩
  | v6 hport hliteral hflow hscope => exact ⟨_, rfl, ofValue_toValue (.v6 _ _ _ _) hport⟩

theorem Named.toValue_eq_tuple_iff {family : Family} {items : List Value} {e : Endpoint}
    (hnamed : Named family items e) {port : Value} (hport : items[1]? = some port) :
    e.toValue port = .tuple items ↔ e.Canonical items := by
  cases hnamed with
  | v4 _ hliteral =>
      cases hport
      simp [toValue, Canonical, address, family, Ip.Address.text, eq_comm]
  | v6 _ hliteral hflow hscope =>
      cases hport
      simp only [toValue, Canonical, address, family, Ip.Address.text, Value.tuple.injEq,
        List.cons.injEq, Value.ofWord32_low32_eq_iff hscope]
      simp [eq_comm]

/-- The address codec goes round.  An endpoint written with any integer as its port object is read
as that endpoint with the port cut to 16 bits and no flow information; so with its own port it is
read as itself if it carries none.  An address object that names an endpoint has a port item with
which the endpoint is written as an object that names it again; and that is the object itself
exactly if it is a tuple of canonical text, with flow information 0 and a scope that is a number of
32 bits. -/
theorem ofValue_toValue_roundTrip :
    (∀ (e : Endpoint) (port : Value), port.IsInteger →
      ∃ number word, port.integer = .ok number ∧ (word.toNat : Int) = number.toInt % 2 ^ 16 ∧
        ofValue e.family (e.toValue port) = .ok (e.withPort word)) ∧
    (∀ e : Endpoint, e.flow = 0 →
      ofValue e.family (e.toValue (Value.ofWord16 e.port)) = .ok e) ∧
    (∀ (family : Family) (object : Value) (e : Endpoint), ofValue family object = .ok e →
      ∃ items port, (object = .tuple items ∨ object = .list items) ∧ items[1]? = some port ∧
        ofValue family (e.toValue port) = .ok e ∧
        (e.toValue port = object ↔ object = .tuple items ∧ e.Canonical items)) := by
  refine ⟨?_, ?_, ?_⟩
  · intro e port hport
    obtain ⟨number, hnumber⟩ := Value.exists_integer_iff.mpr hport
    exact ⟨number, _, hnumber, Value.toNat_low16 number, ofValue_toValue e hnumber⟩
  · intro e hflow
    have hport : (Value.ofWord16 e.port).integer = .ok e.port.toUInt64.toInt64 := rfl
    have hread := ofValue_toValue e hport
    rw [Value.low16_toInt64, withPort_self hflow] at hread
    exact hread
  · intro family object e hobject
    obtain ⟨items, hshape, hnamed⟩ := ofValue_eq_ok_iff.mp hobject
    obtain ⟨port, hport, hread⟩ := hnamed.read_written
    refine ⟨items, port, hshape, hport, hread, ?_⟩
    rw [← hnamed.toValue_eq_tuple_iff hport]
    constructor
    · intro heq
      rcases hshape with rfl | rfl
      · exact ⟨rfl, heq⟩
      · cases e <;> cases heq
    · rintro ⟨rfl, heq⟩
      exact heq

/-- `::ffff:192.0.2.1`. -/
def mappedAddress : Ip.V6 := ⟨[0, 0, 0, 0, 0, 0xffff, 0xc000, 0x0201], rfl⟩

/-- A mapped address in a list, spelled out in capitals and with a negative scope.  It names the
endpoint that its canonical tuple names; written for a truth value or for its own port, that
endpoint is read again. -/
theorem ofValue_toValue_roundTrip_mapped :
    (Value.bool true).IsInteger ∧
      ofValue .ipv6 (.list [.str "0:0::FFFF:192.0.2.1", .bool true, .int 7, .int (-1)]) =
        .ok (.v6 mappedAddress 1 0 0xffffffff) ∧
      ofValue .ipv6 (.tuple [.str "::ffff:192.0.2.1", .bool true, .int 0, .int 0xffffffff]) =
        .ok (.v6 mappedAddress 1 0 0xffffffff) ∧
      (∃ number word, (Value.bool true).integer = .ok number ∧
        (word.toNat : Int) = number.toInt % 2 ^ 16 ∧
        ofValue .ipv6 ((Endpoint.v6 mappedAddress 8080 9 3).toValue (.bool true)) =
          .ok (.v6 mappedAddress word 0 3)) ∧
      ofValue .ipv6 ((Endpoint.v6 mappedAddress 8080 0 3).toValue (.int 8080)) =
        .ok (.v6 mappedAddress 8080 0 3) := by
  have hread : ofValue .ipv6
      (.list [.str "0:0::FFFF:192.0.2.1", .bool true, .int 7, .int (-1)]) =
        .ok (.v6 mappedAddress 1 0 0xffffffff) := rfl
  have hwritten : (Endpoint.v6 mappedAddress 1 0 0xffffffff).toValue (.bool true) =
      .tuple [.str "::ffff:192.0.2.1", .bool true, .int 0, .int 0xffffffff] := by decide
  refine ⟨by decide, hread, ?_, ?_, ?_⟩
  · obtain ⟨items, port, hshape, hport, hback, -⟩ :=
      ofValue_toValue_roundTrip.2.2 _ _ _ hread
    simp only [reduceCtorEq, Value.list.injEq, false_or] at hshape
    subst hshape
    cases hport
    rw [hwritten] at hback
    exact hback
  · exact ofValue_toValue_roundTrip.1 (.v6 mappedAddress 8080 9 3) (.bool true) (by decide)
  · exact ofValue_toValue_roundTrip.2.1 (.v6 mappedAddress 8080 0 3) rfl

end ScriptSocket.Endpoint
