import ScriptSocket.Value.Access

/-!
# Checks in order

An operation that looks at its arguments one after the other fails by the first that it cannot use.
`Decides checks reading` says that a list of checks tells this of a reading: it fails exactly if one
of them is not met, and then with the fault of the first that is not.  Readings one after the other
make their checks one after the other (`Decides.bind`), so a list for the whole is put together from
those of its parts.
-/

namespace ScriptSocket

structure Check where
  met : Bool
  fault : Fault
  deriving DecidableEq

/-- The fault of the first check that is not met. -/
def firstFault? (checks : List Check) : Option Fault :=
  (checks.find? fun check => !check.met).map Check.fault

@[simp] theorem firstFault?_nil : firstFault? [] = none := rfl

@[simp] theorem firstFault?_cons (check : Check) (rest : List Check) :
    firstFault? (check :: rest) = if check.met then firstFault? rest else some check.fault := by
  cases hmet : check.met <;> simp [firstFault?, hmet]

theorem firstFault?_append (before after : List Check) :
    firstFault? (before ++ after) = (firstFault? before).or (firstFault? after) := by
  simp only [firstFault?, List.find?_append, Option.map_or]

theorem exists_of_firstFault? {checks : List Check} {fault : Fault}
    (hfault : firstFault? checks = some fault) : ∃ check ∈ checks, check.fault = fault := by
  obtain ⟨check, hcheck, rfl⟩ := Option.map_eq_some_iff.mp hfault
  exact ⟨check, List.mem_of_find?_eq_some hcheck, rfl⟩

def Decides {α : Type} (checks : List Check) (reading : Except Fault α) : Prop :=
  ∀ fault, reading = .error fault ↔ firstFault? checks = some fault

namespace Decides

variable {α β : Type} {checks more : List Check} {check : Check} {reading : Except Fault α}
  {next : α → Except Fault β}

theorem ok (value : α) : Decides [] (.ok value) := by
  intro fault
  simp

theorem error (fault : Fault) (rest : List Check) :
    Decides (⟨false, fault⟩ :: rest) (.error fault : Except Fault α) := by
  intro other
  simp

theorem met (hreading : Decides checks reading) (fault : Fault) :
    Decides (⟨true, fault⟩ :: checks) reading := by
  intro other
  rw [hreading]
  simp

/-- A search that has to find something before the reading can go on. -/
theorem found
    {result : Option β} {fault : Fault}
    (hfound : ∀ value, result = some value → Decides checks reading)
    (hmissing : result = none → reading = .error fault) :
    Decides (⟨result.isSome, fault⟩ :: checks) reading := by
  cases result with
  | none =>
      rw [hmissing rfl]
      exact error fault checks
  | some value => exact (hfound value rfl).met fault

theorem one
    (hreading : ∀ fault, reading = .error fault ↔ ¬ check.met ∧ fault = check.fault) :
    Decides [check] reading := by
  intro fault
  rw [hreading, firstFault?_cons]
  cases check.met <;> simp [eq_comm]

theorem firstFault?_of_ok {value : α} (hdecides : Decides checks (.ok value)) :
    firstFault? checks = none := by
  rw [Option.eq_none_iff_forall_ne_some]
  intro fault hfault
  cases (hdecides fault).mpr hfault

/-- The second reading is made with what the first one took, and only then. -/
theorem bind
    (hfirst : Decides checks reading)
    (hnext : ∀ taken, reading = .ok taken → Decides more (next taken)) :
    Decides (checks ++ more) (reading >>= next) := by
  intro fault
  rw [firstFault?_append]
  cases reading with
  | error first =>
      rw [(hfirst first).mp rfl, Option.some_or, Option.some.injEq]
      constructor
      · rintro ⟨⟩
        rfl
      · rintro rfl
        rfl
  | ok taken =>
      rw [hfirst.firstFault?_of_ok, Option.none_or]
      exact hnext taken rfl fault

theorem cons
    (hfirst : Decides [check] reading)
    (hnext : ∀ taken, reading = .ok taken → Decides more (next taken)) :
    Decides (check :: more) (reading >>= next) :=
  hfirst.bind hnext

end Decides

/-! ## The checks of the conversions -/

namespace Value

def integerCheck (v : Value) : Check := ⟨v.IsInteger, .type (.notInteger v.kind)⟩

def textCheck (v : Value) : Check := ⟨v.kind = .str, .type (.notText v.kind)⟩

/-- The items of a tuple or list of any length. -/
def members : Value → List Value
  | .tuple items | .list items => items
  | _ => []

theorem members_eq {v : Value} {xs : List Value} (hv : v = .tuple xs ∨ v = .list xs) :
    v.members = xs := by
  rcases hv with rfl | rfl
  · rfl
  · rfl

def sequenceCheck (v : Value) : Check :=
  ⟨v.kind = .tuple ∨ v.kind = .list, .type (.notSequence v.kind)⟩

def lengthCheck (count : Nat) (v : Value) : Check :=
  ⟨v.members.length = count, .value (.wrongLength count v.members.length)⟩

theorem decides_integer (v : Value) : Decides [v.integerCheck] v.integer := by
  apply Decides.one
  intro fault
  simp [integer_eq_error_iff, integerCheck]

theorem decides_text (v : Value) : Decides [v.textCheck] v.text := by
  apply Decides.one
  intro fault
  simp [text_eq_error_iff, textCheck]

theorem decides_items (count : Nat) (v : Value) :
    Decides [v.sequenceCheck, v.lengthCheck count] (v.items count) := by
  cases v with
  | tuple xs | list xs =>
      intro fault
      by_cases hlength : xs.length = count
      · simp [items, sequenceCheck, lengthCheck, members, kind, hlength]
      · simp [items, sequenceCheck, lengthCheck, members, kind, hlength]
  | _ => exact Decides.error _ _

end Value

end ScriptSocket
