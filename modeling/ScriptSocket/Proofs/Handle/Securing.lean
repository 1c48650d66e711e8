import ScriptSocket.Proofs.Address.RoundTrip
import ScriptSocket.Proofs.Handle.Refusal

/-!
# Options are applied in order

With arguments that can be used, turning TLS on applies a list of options, one call of the stack for
each, and the first that the stack refuses ends it.  So a success means that all of them are in
force, the verification of the peer among them.
-/

namespace ScriptSocket.Handle

open Network Dialogue

/-! ## A list of options -/

/-- The call by which the stack applies an option. -/
def applied (d : Int32) (option : SocketOption) : Exchange NetworkStack :=
  ⟨.setOption d option, .ok ()⟩

/-- The calls for a list of options up to the first that is refused, and what comes of them. -/
inductive Applying (d : Int32) :
    List SocketOption → List (Exchange NetworkStack) → Except Fault Unit → Prop where
  | all : Applying d [] [] (.ok ())
  | refused (option : SocketOption) (later : List SocketOption) (errno : Errno) :
      Applying d (option :: later) [⟨.setOption d option, .error errno⟩] (.error (.system errno))
  | next (option : SocketOption) {later : List SocketOption}
      {calls : List (Exchange NetworkStack)} {result : Except Fault Unit}
      (hlater : Applying d later calls result) :
      Applying d (option :: later) (applied d option :: calls) result

namespace Applying

variable {d : Int32} {options : List SocketOption} {calls : List (Exchange NetworkStack)}
  {result : Except Fault Unit} {fault : Fault}

theorem inOrder (happlying : Applying d options calls result) :
    calls.map Exchange.request <+: options.map (.setOption d) := by
  induction happlying with
  | all => exact List.prefix_rfl
  | refused option later errno => exact ⟨later.map (.setOption d), rfl⟩
  | next option hlater ih => exact List.prefix_cons_inj _ |>.mpr ih

theorem ok_iff (happlying : Applying d options calls result) :
    result = .ok () ↔ calls = options.map (applied d) := by
  induction happlying with
  | all => exact iff_of_true rfl rfl
  | refused option later errno => simp [applied]
  | next option hlater ih => simpa using ih

theorem failed (happlying : Applying d options calls (.error fault)) :
    ∃ (earlier : List SocketOption) (option : SocketOption) (errno : Errno),
      calls = earlier.map (applied d) ++ [⟨.setOption d option, .error errno⟩] ∧
        fault = .system errno := by
  generalize hresult : Except.error fault = result at happlying
  induction happlying with
  | all => cases hresult
  | refused option later errno =>
      cases hresult
      exact ⟨[], option, errno, rfl, rfl⟩
  | next option hlater ih =>
      obtain ⟨earlier, last, errno, rfl, hfault⟩ := ih hresult
      exact ⟨option :: earlier, last, errno, rfl, hfault⟩

end Applying

theorem always_applyEach
    (h : Handle) (d : Int32) (notice : Notice) (options : List SocketOption) :
    (options.foldr (h.applyOption d) (.note notice (.done (.ok (), h)))).Always fun calls done =>
      Applying d options calls done.1 ∧ done.2 = h := by
  induction options with
  | nil => exact ⟨.all, rfl⟩
  | cons option later ih =>
      apply always_applyOption
      · intro errno
        exact ⟨.refused option later errno, rfl⟩
      · apply ih.imp
        rintro calls done ⟨hlater, hkept⟩
        exact ⟨.next option hlater, hkept⟩

/-! ## What is asked for -/

/-- The verification that a script asks for by the number of a mode; without one, the strictest. -/
inductive AsksFor : Option Value → Verification → Prop where
  | absent : AsksFor none .required
  | given (mode : Verification) {value : Value} (hcode : value.integer = .ok mode.code.toInt64) :
      AsksFor (some value) mode

/-- The name of the peer that a script gives, if it gives one. -/
inductive NamesHost : Option Value → Option String → Prop where
  | absent : NamesHost none none
  | passedOver : NamesHost (some .none) none
  | given (name : String) : NamesHost (some (.str name)) (some name)

def requestedOptions (tag : UInt32) (mode : Verification) (name : Option String) :
    List SocketOption :=
  [.securityTag tag, .peerVerification mode] ++ (name.map .hostName).toList

theorem AsksFor.verificationOf_eq {verification : Option Value} {mode : Verification}
    (hasks : AsksFor verification mode) : verificationOf verification = .ok mode := by
  cases hasks with
  | absent => rfl
  | given mode hcode => simp [verificationOf, hcode, Verification.ofCode?_code]

theorem secure_eq_applyEach
    {h : Handle} {d : Int32} (hopen : h.descriptor = some d) {tag : Value} {code : Int64}
    (htag : tag.integer = .ok code) {verification hostName : Option Value} {mode : Verification}
    (hasks : AsksFor verification mode) {name : Option String}
    (hnames : NamesHost hostName name) :
    h.secure tag verification hostName =
      (requestedOptions (Value.low32 code) mode name).foldr (h.applyOption d)
        (.note (.securityApplied d (Value.low32 code) mode) (.done (.ok (), h))) := by
  rw [secure, whenOpen_open hopen]
  simp only [htag, hasks.verificationOf_eq]
  cases hnames <;> rfl

/-! ## The verification in force -/

/-- The verification that a call applies to a descriptor, if it applies one. -/
def verificationSet? (d : Int32) : Exchange NetworkStack → Option Verification
  | ⟨.setOption e (.peerVerification mode), .ok ()⟩ => if e = d then some mode else none
  | _ => none

/-- The verification that was applied last. -/
def verificationInForce? (d : Int32) (calls : List (Exchange NetworkStack)) :
    Option Verification :=
  (calls.filterMap (verificationSet? d)).getLast?

theorem verificationSet?_applied (d : Int32) (option : SocketOption) :
    verificationSet? d (applied d option) =
      match option with
      | .peerVerification mode => some mode
      | _ => none := by
  cases option with
  | peerVerification mode => exact if_pos rfl
  | _ => rfl

theorem verificationInForce?_requested
    (d : Int32) (past : List (Exchange NetworkStack)) (tag : UInt32) (mode : Verification)
    (name : Option String) :
    verificationInForce? d (past ++ (requestedOptions tag mode name).map (applied d)) =
      some mode := by
  have hrequested : ((requestedOptions tag mode name).map (applied d)).filterMap
      (verificationSet? d) = [mode] := by
    cases name <;> simp [requestedOptions, verificationSet?_applied]
  rw [verificationInForce?, List.filterMap_append, hrequested, List.getLast?_concat]

/-- Turning TLS on with arguments that can be used applies what they ask for, in this order: the tag
modulo `2 ^ 32`, the verification, and the name if there is one.  The calls are these up to the
first that the stack refuses, they are all of them and none is refused exactly if the operation
succeeds, and if it fails its fault is the error number of the last call.  The handle is left as it
was.  After a success the verification in force is the one asked for, whatever was applied
before. -/
theorem secure_applies_requested
    {h : Handle} {d : Int32} (hopen : h.descriptor = some d) {tag : Value} {code : Int64}
    (htag : tag.integer = .ok code) {word : UInt32}
    (hword : (word.toNat : Int) = code.toInt % 2 ^ 32) {verification hostName : Option Value}
    {mode : Verification} (hasks : AsksFor verification mode) {name : Option String}
    (hnames : NamesHost hostName name) {σ : Type} (respond : Responder NetworkStack σ)
    (state : σ) :
    let turn := (h.secure tag verification hostName).run respond state
    let options := requestedOptions word mode name
    turn.exchanges.map Exchange.request <+: options.map (.setOption d) ∧
    (turn.value.1 = .ok () ↔ turn.exchanges = options.map (applied d)) ∧
    (∀ fault, turn.value.1 = .error fault →
      ∃ (earlier : List SocketOption) (option : SocketOption) (errno : Errno),
        turn.exchanges = earlier.map (applied d) ++ [⟨.setOption d option, .error errno⟩] ∧
          fault = .system errno) ∧
    turn.value.2 = h ∧
    (turn.value.1 = .ok () →
      ∀ past, verificationInForce? d (past ++ turn.exchanges) = some mode) := by
  intro turn options
  obtain rfl : Value.low32 code = word := by
    rw [← UInt32.toNat_inj, ← Int.natCast_inj, Value.toNat_low32, hword]
  obtain ⟨happlying, hkept⟩ : Applying d options turn.exchanges turn.value.1 ∧
      turn.value.2 = h := by
    simp only [turn, secure_eq_applyEach hopen htag hasks hnames]
    exact (always_applyEach h d _ options).run respond state
  refine ⟨happlying.inOrder, happlying.ok_iff, ?_, hkept, ?_⟩
  · intro fault hfault
    rw [hfault] at happlying
    exact happlying.failed
  · intro hsuccess past
    rw [happlying.ok_iff.mp hsuccess]
    exact verificationInForce?_requested d past _ mode name

/-- A tag below zero, a truth value for the mode and a name: refused at the name, and applied. -/
theorem secure_applies_requested_named :
    let h : Handle := ⟨some 3, .ipv6, .connected, {}⟩
    let secured (script : Scripted.StackScript) :=
      (h.secure (.int (-1)) (some (.bool true)) (some (.str "peer"))).run
        Scripted.StackScript.respond script
    (((secured { options := [.ok (), .ok (), .error .noSuchOption] }).value.2 = h) ∧
      ∃ (earlier : List SocketOption) (option : SocketOption),
        (secured { options := [.ok (), .ok (), .error .noSuchOption] }).exchanges =
          earlier.map (applied 3) ++ [⟨.setOption 3 option, .error .noSuchOption⟩]) ∧
    (secured {}).exchanges = [applied 3 (.securityTag 0xffffffff),
      applied 3 (.peerVerification .optional), applied 3 (.hostName "peer")] ∧
    verificationInForce? 3 (secured {}).exchanges = some .optional := by
  intro h secured
  have hword : ((0xffffffff : UInt32).toNat : Int) = Int64.toInt (-1) % 2 ^ 32 := by decide
  have hasks : AsksFor (some (.bool true)) .optional := .given .optional rfl
  have hopen : h.descriptor = some 3 := rfl
  have htag : (Value.int (-1)).integer = .ok (-1) := rfl
  have happlies := secure_applies_requested hopen htag hword hasks (.given "peer")
    Scripted.StackScript.respond
  refine ⟨?_, ?_⟩
  · obtain ⟨-, -, hfails, hkept, -⟩ :=
      happlies { options := [.ok (), .ok (), .error .noSuchOption] }
    obtain ⟨earlier, option, errno, hcalls, hfault⟩ := hfails (.system .noSuchOption) rfl
    cases hfault
    exact ⟨hkept, earlier, option, hcalls⟩
  · obtain ⟨-, hsucceeds, -, -, hforce⟩ := happlies {}
    exact ⟨hsucceeds.mp rfl, hforce rfl []⟩

end ScriptSocket.Handle
