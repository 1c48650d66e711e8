import Mathlib.Data.List.Basic
import ScriptSocket.Proofs.Address.RoundTrip
import ScriptSocket.Proofs.Checks

/-!
# Defects of an address object

An address object may have several defects at once, and a script is told of one.  `checks` lists
what is looked at in the order in which it is; the first check that is not met decides the fault,
and an object that meets them all is read.  Of the numbers in it only what fits its field counts,
and of flow information nothing does.
-/

namespace ScriptSocket

/-- The address that a text is a literal of; packet sockets have none. -/
def Family.literal? : Family → String → Option Ip.Address
  | .ipv4, text => (Ip.V4.parse? text.toList).map .v4
  | .ipv6, text => (Ip.V6.parse? text.toList).map .v6
  | .packet, _ => none

namespace Endpoint

/-- The scope, which only IPv6 has. -/
def scope : Endpoint → UInt32
  | .v4 .. => 0
  | .v6 _ _ _ scope => scope

/-! ## The checks and their order -/

def literalCheck (family : Family) : Value → Check
  | .str text => ⟨(family.literal? text).isSome, .system .invalidArgument⟩
  | _ => ⟨false, .system .invalidArgument⟩

/-- The numbers behind the port are looked at last. -/
def itemChecks (family : Family) : List Value → List Check
  | host :: port :: others =>
    host.textCheck :: port.integerCheck :: literalCheck family host ::
      others.map Value.integerCheck
  | _ => []

def checks (family : Family) (object : Value) : List Check :=
  [object.sequenceCheck, object.lengthCheck family.arity] ++ itemChecks family object.members

theorem decides_host_port
    {host port : Value} {more : List Check} {next : String → Int64 → Except Fault Endpoint}
    (hnext : ∀ text number, host = .str text → Decides more (next text number)) :
    Decides (host.textCheck :: port.integerCheck :: more)
      (do
        let text ← host.text
        let number ← port.integer
        next text number) :=
  host.decides_text.cons fun text htext => port.decides_integer.cons fun number _ =>
    hnext text number (Value.text_eq_ok_iff.mp htext)

theorem decides_ofItems {family : Family} {items : List Value}
    (hlength : items.length = family.arity) :
    Decides (itemChecks family items) (ofItems family items) := by
  unfold ofItems
  split
  · apply decides_host_port
    rintro text number rfl
    simp only [literalCheck, Family.literal?, Option.isSome_map]
    refine .found (fun address hliteral => ?_) fun hliteral => ?_
    · rw [hliteral]
      exact .ok _
    · rw [hliteral]
  · rename_i flow scope
    apply decides_host_port
    rintro text number rfl
    simp only [literalCheck, Family.literal?, Option.isSome_map]
    refine .found (fun address hliteral => ?_) fun hliteral => ?_
    · rw [hliteral]
      exact flow.decides_integer.cons fun _ _ => scope.decides_integer.cons fun _ _ => .ok _
    · rw [hliteral]
  · apply decides_host_port
    rintro text number rfl
    exact .error _ _
  · rename_i hpair hquad hpacket
    -- a row of the length that the family has is one of the rows above
    match family, items, hlength with
    | .ipv4, [host, port], _ => exact (hpair _ _ rfl rfl).elim
    | .ipv6, [host, port, flow, scope], _ => exact (hquad _ _ _ _ rfl rfl).elim
    | .packet, [host, port], _ => exact (hpacket _ _ rfl rfl).elim

theorem decides_ofValue (family : Family) (object : Value) :
    Decides (checks family object) (ofValue family object) := by
  refine (object.decides_items family.arity).bind fun items hitems => ?_
  obtain ⟨hobject, hlength⟩ := Value.items_eq_ok_iff.mp hitems
  rw [Value.members_eq hobject]
  exact decides_ofItems hlength

/-! ## What is accepted -/

/-- An address object of a family: a tuple or list of a literal of the family and its numbers, one
for IPv4 and three for IPv6. -/
def WellFormed (family : Family) (object : Value) : Prop :=
  ∃ (text : String) (numbers : List Value),
    (object = .tuple (.str text :: numbers) ∨ object = .list (.str text :: numbers)) ∧
    (family = .ipv4 ∧ numbers.length = 1 ∨ family = .ipv6 ∧ numbers.length = 3) ∧
    (family.literal? text).isSome ∧ ∀ number ∈ numbers, number.IsInteger

theorem Named.wellFormed {family : Family} {object : Value} {items : List Value} {e : Endpoint}
    (hobject : object = .tuple items ∨ object = .list items) (hnamed : Named family items e) :
    WellFormed family object := by
  cases hnamed with
  | v4 hport hliteral =>
      refine ⟨_, _, hobject, Or.inl ⟨rfl, rfl⟩, ?_, ?_⟩
      · simp [Family.literal?, hliteral]
      · have hport := Value.exists_integer_iff.mp ⟨_, hport⟩
        simpa using hport
  | v6 hport hliteral hflow hscope =>
      refine ⟨_, _, hobject, Or.inr ⟨rfl, rfl⟩, ?_, ?_⟩
      · simp [Family.literal?, hliteral]
      · have hport := Value.exists_integer_iff.mp ⟨_, hport⟩
        have hflow := Value.exists_integer_iff.mp ⟨_, hflow⟩
        have hscope := Value.exists_integer_iff.mp ⟨_, hscope⟩
        simp [hport, hflow, hscope]

theorem WellFormed.exists_named {family : Family} {object : Value}
    (hformed : WellFormed family object) :
    ∃ items e, (object = .tuple items ∨ object = .list items) ∧ Named family items e := by
  obtain ⟨text, numbers, hobject, hfamily, hliteral, hintegers⟩ := hformed
  rcases hfamily with ⟨rfl, hlength⟩ | ⟨rfl, hlength⟩
  · obtain ⟨port, rfl⟩ := List.length_eq_one_iff.mp hlength
    rw [Family.literal?, Option.isSome_map, Option.isSome_iff_exists] at hliteral
    obtain ⟨address, hliteral⟩ := hliteral
    obtain ⟨number, hport⟩ := Value.exists_integer_iff.mpr (hintegers port (by simp))
    exact ⟨_, _, hobject, .v4 hport hliteral⟩
  · obtain ⟨port, flow, scope, rfl⟩ := List.length_eq_three.mp hlength
    rw [Family.literal?, Option.isSome_map, Option.isSome_iff_exists] at hliteral
    obtain ⟨address, hliteral⟩ := hliteral
    obtain ⟨number, hport⟩ := Value.exists_integer_iff.mpr (hintegers port (by simp))
    obtain ⟨dropped, hflow⟩ := Value.exists_integer_iff.mpr (hintegers flow (by simp))
    obtain ⟨zone, hscope⟩ := Value.exists_integer_iff.mpr (hintegers scope (by simp))
    exact ⟨_, _, hobject, .v6 hport hliteral hflow hscope⟩

/-! ## What counts of the numbers -/

/-- Integers that agree in their last bits. -/
def Congruent (bits : Nat) (v w : Value) : Prop :=
  ∃ m n : Int64, v.integer = .ok m ∧ w.integer = .ok n ∧ m.toInt % 2 ^ bits = n.toInt % 2 ^ bits

/-- Items that differ, if at all, in numbers that do not count: the port by multiples of `2 ^ 16`,
the scope by multiples of `2 ^ 32`, and flow information by anything. -/
inductive Alike : List Value → List Value → Prop where
  | pair {host port port' : Value} (hport : Congruent 16 port port') :
      Alike [host, port] [host, port']
  | quadruple {host port port' flow flow' scope scope' : Value} (hport : Congruent 16 port port')
      (hflow : flow.IsInteger) (hflow' : flow'.IsInteger) (hscope : Congruent 32 scope scope') :
      Alike [host, port, flow, scope] [host, port', flow', scope']

theorem low16_eq {m n : Int64} (hsame : m.toInt % 2 ^ 16 = n.toInt % 2 ^ 16) :
    Value.low16 m = Value.low16 n := by
  rw [← UInt16.toNat_inj, ← Int.natCast_inj, Value.toNat_low16, Value.toNat_low16, hsame]

theorem low32_eq {m n : Int64} (hsame : m.toInt % 2 ^ 32 = n.toInt % 2 ^ 32) :
    Value.low32 m = Value.low32 n := by
  rw [← UInt32.toNat_inj, ← Int.natCast_inj, Value.toNat_low32, Value.toNat_low32, hsame]

theorem Alike.ofItems_eq {items items' : List Value} (halike : Alike items items')
    (family : Family) : ofItems family items = ofItems family items' := by
  cases halike with
  | pair hport =>
      obtain ⟨m, n, hm, hn, hport⟩ := hport
      cases family <;> simp [ofItems, hm, hn, low16_eq hport]
  | quadruple hport hflow hflow' hscope =>
      obtain ⟨m, n, hm, hn, hport⟩ := hport
      obtain ⟨z, w, hz, hw, hscope⟩ := hscope
      obtain ⟨f, hflow⟩ := Value.exists_integer_iff.mpr hflow
      obtain ⟨g, hflow'⟩ := Value.exists_integer_iff.mpr hflow'
      cases family <;>
        simp [ofItems, hm, hn, hz, hw, hflow, hflow', low16_eq hport, low32_eq hscope]

theorem items_eq_of_members {object : Value} (hmembers : object.members ≠ []) (count : Nat) :
    object.items count =
      if object.members.length = count then .ok object.members
      else .error (.value (.wrongLength count object.members.length)) := by
  cases object with
  | tuple items | list items => rfl
  | _ => exact absurd rfl hmembers

theorem Alike.shape {items items' : List Value} (halike : Alike items items') :
    items.length = items'.length ∧ items ≠ [] ∧ items' ≠ [] := by
  cases halike <;> simp

theorem Alike.ofValue_eq {object object' : Value}
    (halike : Alike object.members object'.members) (family : Family) :
    ofValue family object = ofValue family object' := by
  obtain ⟨hlength, hitems, hitems'⟩ := halike.shape
  rw [ofValue, ofValue, items_eq_of_members hitems, items_eq_of_members hitems', hlength]
  split
  · exact halike.ofItems_eq family
  · rfl

/-- The endpoint has the address that the text is a literal of, and of each number what fits its
field. -/
theorem Named.fields {family : Family} {items : List Value} {e : Endpoint}
    (hnamed : Named family items e) :
    ∃ text port others, items = .str text :: port :: others ∧
      e.family = family ∧ family.literal? text = some e.address ∧ e.flow = 0 ∧
      (∃ number, port.integer = .ok number ∧ (e.port.toNat : Int) = number.toInt % 2 ^ 16) ∧
      ∀ scope, others[1]? = some scope →
        ∃ zone, scope.integer = .ok zone ∧ (e.scope.toNat : Int) = zone.toInt % 2 ^ 32 := by
  cases hnamed with
  | v4 hport hliteral =>
      refine ⟨_, _, _, rfl, rfl, ?_, rfl, ⟨_, hport, Value.toNat_low16 _⟩, by simp⟩
      rw [Family.literal?, hliteral]
      rfl
  | v6 hport hliteral hflow hscope =>
      refine ⟨_, _, _, rfl, rfl, ?_, rfl, ⟨_, hport, Value.toNat_low16 _⟩, ?_⟩
      · rw [Family.literal?, hliteral]
        rfl
      · rintro scope ⟨⟩
        exact ⟨_, hscope, Value.toNat_low32 _⟩

/-- An address object is read exactly if it is well-formed.  The endpoint then is of the family that
was asked for, with the address of the literal and no flow information, its port is the port item
modulo `2 ^ 16` and its scope the scope item modulo `2 ^ 32`; objects that differ only in what this
leaves out are read alike.  An object that is not read meets one of its checks not, and the fault is
that of the first. -/
theorem ofValue_reports_first_defect (family : Family) (object : Value) :
    ((∃ e, ofValue family object = .ok e) ↔ WellFormed family object) ∧
    (∀ e, ofValue family object = .ok e →
      ∃ text port others, object.members = .str text :: port :: others ∧
        e.family = family ∧ family.literal? text = some e.address ∧ e.flow = 0 ∧
        (∃ number, port.integer = .ok number ∧ (e.port.toNat : Int) = number.toInt % 2 ^ 16) ∧
        ∀ scope, others[1]? = some scope →
          ∃ zone, scope.integer = .ok zone ∧ (e.scope.toNat : Int) = zone.toInt % 2 ^ 32) ∧
    (∀ object' : Value, Alike object.members object'.members →
      ofValue family object = ofValue family object') ∧
    ∀ fault, ofValue family object = .error fault ↔
      firstFault? (checks family object) = some fault := by
  refine ⟨?_, ?_, fun _ halike => halike.ofValue_eq family, decides_ofValue family object⟩
  · constructor
    · rintro ⟨e, he⟩
      obtain ⟨items, hobject, hnamed⟩ := ofValue_eq_ok_iff.mp he
      exact hnamed.wellFormed hobject
    · intro hformed
      obtain ⟨items, e, hobject, hnamed⟩ := hformed.exists_named
      exact ⟨e, ofValue_eq_ok_iff.mpr ⟨items, hobject, hnamed⟩⟩
  · intro e he
    obtain ⟨items, hobject, hnamed⟩ := ofValue_eq_ok_iff.mp he
    rw [Value.members_eq hobject]
    exact hnamed.fields

/-- Two ways to write one endpoint, and two objects with more than one defect: a text that is no
literal is told after the port and before flow information. -/
theorem ofValue_reports_first_defect_twice :
    ofValue .ipv6 (.list [.str "::1", .bool true, .int 7, .int (-1)]) =
        ofValue .ipv6 (.tuple [.str "::1", .int (-65535), .bool false, .int 0xffffffff]) ∧
      ofValue .ipv4 (.tuple [.str "::1", .none]) = .error (.type (.notInteger .none)) ∧
      ofValue .ipv6 (.tuple [.str "127.0.0.1", .int 80, .none, .none]) =
        .error (.system .invalidArgument) := by
  refine ⟨?_, ?_, ?_⟩
  · have hport : Congruent 16 (.bool true) (.int (-65535)) := ⟨1, -65535, rfl, rfl, by decide⟩
    have hscope : Congruent 32 (.int (-1)) (.int 0xffffffff) :=
      ⟨-1, 0xffffffff, rfl, rfl, by decide⟩
    exact (ofValue_reports_first_defect .ipv6 _).2.2.1 _
      (.quadruple hport (by decide) (by decide) hscope)
  · exact ((ofValue_reports_first_defect .ipv4 _).2.2.2 _).mpr (by decide)
  · exact ((ofValue_reports_first_defect .ipv6 _).2.2.2 _).mpr (by decide)

end Endpoint

end ScriptSocket
