import Mathlib.Algebra.Group.Int.Defs
import ScriptSocket.Module.Lookup
import ScriptSocket.Proofs.Checks
import ScriptSocket.Proofs.Resolution.Agreement
import ScriptSocket.Scripted.Resolver
import ScriptSocket.Scripted.Stack

/-!
# Arguments are checked before anything is asked

The functions of the module read all their arguments before they call the stack or a resolver.
`socketChecks` and `lookupChecks` list what is looked at, in order: the first check that is not met
decides the fault, and then nothing has been asked.  If all are met, what is asked is told from the
arguments, of which one left out stands for a number of its own.
-/

namespace ScriptSocket.Module

open Resolution

/-! ## The checks and their order -/

/-- The checks of an argument that may be left out. -/
def optionalChecks (checks : Value → List Check) (argument : Option Value) : List Check :=
  argument.elim [] checks

/-- An integer that is one of some numbers. -/
def codeCheck (codes : List Int64) (errno : Errno) (v : Value) : Check :=
  ⟨v.integer.toOption.any (· ∈ codes), .system errno⟩

def socketChecks (arguments : List Value) : List Check :=
  ⟨arguments.length ≤ 4, argumentCount "socket" 0 4 arguments⟩ ::
    (optionalChecks (fun v => [v.integerCheck, codeCheck [1, 2, 3] .familyUnsupported v])
      arguments[0]? ++
    (optionalChecks (fun v => [v.integerCheck, codeCheck [1, 2, 3] .wrongSocketType v])
      arguments[1]? ++
    optionalChecks (fun v => [v.integerCheck]) arguments[2]?))

/-- The port, which is the second argument, is looked at last. -/
def lookupChecks (arguments : List Value) : List Check :=
  ⟨arguments.length = 2 ∨ arguments.length = 3, argumentCount "getaddrinfo" 2 3 arguments⟩ ::
    (optionalChecks (fun v => [v.textCheck]) arguments[0]? ++
    (optionalChecks (fun v => [v.integerCheck]) arguments[2]? ++
    optionalChecks (fun v => [v.integerCheck]) arguments[1]?))

section

variable {α : Type} {argument : Option Value} {number : Int64}

theorem decides_optional
    (reading : Option Value → Except Fault α) {checks : Value → List Check} {default : α}
    (habsent : reading none = .ok default) (hgiven : ∀ v, Decides (checks v) (reading (some v)))
    (argument : Option Value) : Decides (optionalChecks checks argument) (reading argument) := by
  cases argument with
  | none =>
      rw [habsent]
      exact .ok default
  | some v => exact hgiven v

theorem decides_coded
    {ofCode? : Int64 → Option α} {codes : List Int64}
    (hcodes : ∀ code, (ofCode? code).isSome ↔ code ∈ codes) (errno : Errno) (default : α)
    (argument : Option Value) :
    Decides (optionalChecks (fun v => [v.integerCheck, codeCheck codes errno v]) argument)
      (coded ofCode? errno default argument) := by
  refine decides_optional (coded ofCode? errno default) rfl (fun v => ?_) argument
  apply v.decides_integer.cons
  intro code hcode
  apply Decides.one
  intro fault
  have hmet : (codeCheck codes errno v).met = true ↔ (ofCode? code).isSome = true := by
    simp [codeCheck, hcode, Except.toOption, hcodes]
  rw [hmet]
  cases ofCode? code <;> simp [codeCheck, eq_comm]

theorem decides_protocolArgument (argument : Option Value) :
    Decides (optionalChecks (fun v => [v.integerCheck]) argument) (protocolArgument argument) :=
  decides_optional protocolArgument rfl (fun v => v.decides_integer.cons fun _ _ => .ok _)
    argument

theorem decides_familyArgument (config : ResolverConfig) (argument : Option Value) :
    Decides (optionalChecks (fun v => [v.integerCheck]) argument)
      (familyArgument config argument) :=
  decides_optional (familyArgument config) rfl
    (fun v => v.decides_integer.cons fun _ _ => .ok _) argument

theorem isSome_family_iff (code : Int64) :
    (Family.ofCode? code).isSome ↔ code ∈ ([1, 2, 3] : List Int64) := by
  unfold Family.ofCode?
  grind

theorem isSome_kind_iff (code : Int64) :
    (SocketKind.ofCode? code).isSome ↔ code ∈ ([1, 2, 3] : List Int64) := by
  unfold SocketKind.ofCode?
  grind

theorem decides_socketRequest (arguments : List Value) :
    Decides (socketChecks arguments) (SocketRequest.ofArguments arguments) := by
  unfold socketChecks SocketRequest.ofArguments
  by_cases hmany : 4 < arguments.length
  · simp only [if_pos hmany, Nat.not_le_of_lt hmany, decide_false]
    exact .error _ _
  simp only [if_neg hmany, Nat.le_of_not_lt hmany, decide_true]
  apply Decides.met
  apply (decides_coded isSome_family_iff _ _ _).bind
  intro family _
  apply (decides_coded isSome_kind_iff _ _ _).bind
  intro kind _
  rw [← List.append_nil (optionalChecks _ arguments[2]?)]
  exact (decides_protocolArgument _).bind fun _ _ => .ok _

/-- The arguments of a lookup with the check of the port, which the resolution makes. -/
def LookupRequest.checked (config : ResolverConfig) (arguments : List Value) :
    Except Fault LookupRequest := do
  let request ← LookupRequest.ofArguments config arguments
  let _ ← request.port.integer
  .ok request

theorem decides_read
    (config : ResolverConfig) (host port : Value) (family : Option Value) :
    Decides (host.textCheck ::
        (optionalChecks (fun v => [v.integerCheck]) family ++ [port.integerCheck]))
      (do
        let request ← LookupRequest.read config host port family
        let _ ← request.port.integer
        .ok request) := by
  simp only [LookupRequest.read, bind_assoc]
  apply host.decides_text.cons
  intro text _
  apply (decides_familyArgument config family).bind
  intro hint _
  exact port.decides_integer.cons fun _ _ => .ok _

theorem decides_lookupRequest (config : ResolverConfig) (arguments : List Value) :
    Decides (lookupChecks arguments) (LookupRequest.checked config arguments) := by
  unfold LookupRequest.checked LookupRequest.ofArguments
  split
  · exact (decides_read config _ _ none).met _
  · exact (decides_read config _ _ (some _)).met _
  · rename_i htwo hthree
    have hcount : ¬ (arguments.length = 2 ∨ arguments.length = 3) := by
      rintro (hlength | hlength)
      · obtain ⟨host, port, rfl⟩ := List.length_eq_two.mp hlength
        exact htwo host port rfl
      · obtain ⟨host, port, family, rfl⟩ := List.length_eq_three.mp hlength
        exact hthree host port family rfl
    simp only [lookupChecks, decide_eq_false hcount]
    exact .error _ _

/-! ## What the arguments stand for -/

/-- The number that an argument stands for; one left out stands for a number of its own. -/
def StandsFor (absent : Int64) (argument : Option Value) (number : Int64) : Prop :=
  match argument with
  | none => number = absent
  | some v => v.integer = .ok number

theorem standsFor_of_coded
    {ofCode? : Int64 → Option α} {code : α → Int32}
    (hcode : ∀ number value, ofCode? number = some value → number = (code value).toInt64)
    {errno : Errno} {default value : α} (hread : coded ofCode? errno default argument = .ok value) :
    StandsFor (code default).toInt64 argument (code value).toInt64 := by
  cases argument with
  | none =>
      cases hread
      rfl
  | some v =>
      obtain ⟨number, hnumber, hknown⟩ := Value.bind_eq_ok_iff.mp hread
      cases hfound : ofCode? number with
      | none =>
          rw [hfound] at hknown
          cases hknown
      | some found =>
          rw [hfound] at hknown
          cases hknown
          rw [StandsFor, ← hcode number value hfound]
          exact hnumber

/-- The protocol for a number; -1 stands for the usual one of the socket type. -/
def protocolFor (kind : SocketKind) (number : Int64) : Protocol :=
  if number = -1 then Protocol.auto kind else Protocol.ofCode number

theorem standsFor_of_protocolArgument
    {protocol : Option Protocol} (hread : protocolArgument argument = .ok protocol)
    (kind : SocketKind) :
    ∃ number, StandsFor (-1) argument number ∧
      protocol.getD (Protocol.auto kind) = protocolFor kind number := by
  cases argument with
  | none =>
      cases hread
      exact ⟨-1, rfl, rfl⟩
  | some v =>
      obtain ⟨number, hnumber, hprotocol⟩ := Value.bind_eq_ok_iff.mp hread
      refine ⟨number, hnumber, ?_⟩
      cases hprotocol
      unfold protocolFor
      split <;> rfl

theorem protocolFor_of_ne (kind : SocketKind) (hnumber : number ≠ -1) :
    (protocolFor kind number).code.toInt % 2 ^ 32 = number.toInt % 2 ^ 32 := by
  rw [protocolFor, if_neg hnumber, Protocol.code_ofCode, Int64.toInt_toInt32]
  exact Int.bmod_emod

/-- What the arguments of `socket` ask for: an IPv4 stream of the usual protocol, if they do not say
otherwise.  The protocol is asked for by a number. -/
structure Describes (arguments : List Value) (family : Family) (kind : SocketKind)
    (number : Int64) : Prop where
  first : StandsFor 1 arguments[0]? family.code.toInt64
  second : StandsFor 1 arguments[1]? kind.code.toInt64
  third : StandsFor (-1) arguments[2]? number

/-- Making a socket is refused for the first check that is not met, or is one call for what the
arguments describe. -/
theorem socket_cases (config : SocketConfig) (arguments : List Value) :
    (∃ fault, firstFault? (socketChecks arguments) = some fault ∧
      socket config arguments = .done (.error fault)) ∨
    (firstFault? (socketChecks arguments) = none ∧
      ∃ family kind number, Describes arguments family kind number ∧
        socket config arguments =
          Handle.create family kind (some (protocolFor kind number)) config) := by
  have hdecides := decides_socketRequest arguments
  unfold socket
  cases hrequest : SocketRequest.ofArguments arguments with
  | error fault => exact .inl ⟨fault, (hdecides fault).mp hrequest, rfl⟩
  | ok request =>
      rw [hrequest] at hdecides
      refine .inr ⟨hdecides.firstFault?_of_ok, ?_⟩
      unfold SocketRequest.ofArguments at hrequest
      split at hrequest
      · cases hrequest
      · obtain ⟨family, hfamily, hrequest⟩ := Value.bind_eq_ok_iff.mp hrequest
        obtain ⟨kind, hkind, hrequest⟩ := Value.bind_eq_ok_iff.mp hrequest
        obtain ⟨protocol, hprotocol, hrequest⟩ := Value.bind_eq_ok_iff.mp hrequest
        cases hrequest
        obtain ⟨number, hnumber, hchosen⟩ := standsFor_of_protocolArgument hprotocol kind
        refine ⟨family, kind, number, ⟨?_, ?_, hnumber⟩, ?_⟩
        · exact standsFor_of_coded (fun _ _ => Family.ofCode?_eq_some_iff.mp) hfamily
        · exact standsFor_of_coded (fun _ _ => SocketKind.ofCode?_eq_some_iff.mp) hkind
        · rw [← hchosen]
          rfl

/-- The family that a lookup asks for: the configured one, or the one of a number, of which 0 asks
for every family and those without a meaning ask for IPv4. -/
inductive HintOf (config : ResolverConfig) : Option Value → Option Family → Prop where
  | absent : HintOf config none config.family
  | every {v : Value} (hcode : v.integer = .ok 0) : HintOf config (some v) none
  | ipv6 {v : Value} (hcode : v.integer = .ok 2) : HintOf config (some v) (some .ipv6)
  | packet {v : Value} (hcode : v.integer = .ok 3) : HintOf config (some v) (some .packet)
  | ipv4 {v : Value} {code : Int64} (hcode : v.integer = .ok code)
      (hother : code ∉ ([0, 2, 3] : List Int64)) : HintOf config (some v) (some .ipv4)

theorem hintOf_of_familyArgument
    {config : ResolverConfig} {hint : Option Family}
    (hread : familyArgument config argument = .ok hint) : HintOf config argument hint := by
  cases argument with
  | none =>
      cases hread
      exact .absent
  | some v =>
      obtain ⟨code, hcode, hhint⟩ := Value.bind_eq_ok_iff.mp hread
      cases hhint
      by_cases hevery : code = 0
      · subst hevery
        exact .every hcode
      by_cases hipv6 : code = 2
      · subst hipv6
        exact .ipv6 hcode
      by_cases hpacket : code = 3
      · subst hpacket
        exact .packet hcode
      · have hhint : Family.hint code = some .ipv4 := by
          unfold Family.hint Family.ofCode?
          rw [if_neg hevery, if_neg hipv6, if_neg hpacket]
          split <;> rfl
        rw [hhint]
        exact .ipv4 hcode (by simp [hevery, hipv6, hpacket])

theorem read_eq_ok
    {config : ResolverConfig} {host port : Value} {family : Option Value}
    {request : LookupRequest} (hread : LookupRequest.read config host port family = .ok request) :
    ∃ text hint, host = .str text ∧ HintOf config family hint ∧ request = ⟨text, port, hint⟩ := by
  obtain ⟨text, htext, hread⟩ := Value.bind_eq_ok_iff.mp hread
  obtain ⟨hint, hhint, hread⟩ := Value.bind_eq_ok_iff.mp hread
  cases hread
  exact ⟨text, hint, Value.text_eq_ok_iff.mp htext, hintOf_of_familyArgument hhint, rfl⟩

theorem ofArguments_eq_ok
    {config : ResolverConfig} {arguments : List Value} {request : LookupRequest}
    (hrequest : LookupRequest.ofArguments config arguments = .ok request) :
    arguments[0]? = some (.str request.host) ∧
      HintOf config arguments[2]? request.family := by
  unfold LookupRequest.ofArguments at hrequest
  split at hrequest
  · obtain ⟨text, hint, rfl, hhint, rfl⟩ := read_eq_ok hrequest
    exact ⟨rfl, hhint⟩
  · obtain ⟨text, hint, rfl, hhint, rfl⟩ := read_eq_ok hrequest
    exact ⟨rfl, hhint⟩
  · cases hrequest

/-! ## The calls -/

theorem type_of_lookupChecks {arguments : List Value} {fault : Fault}
    (hfault : firstFault? (lookupChecks arguments) = some fault) :
    ∃ cause, fault = .type cause := by
  obtain ⟨check, hcheck, rfl⟩ := exists_of_firstFault? hfault
  have hoptional : ∀ (checks : Value → List Check) (argument : Option Value),
      (∀ v, ∀ check ∈ checks v, ∃ cause, check.fault = .type cause) →
        ∀ check ∈ optionalChecks checks argument, ∃ cause, check.fault = .type cause := by
    intro checks argument htype
    cases argument with
    | none => exact fun check hnone => absurd hnone List.not_mem_nil
    | some v => exact htype v
  simp only [lookupChecks, List.mem_cons, List.mem_append] at hcheck
  rcases hcheck with rfl | hcheck | hcheck | hcheck
  · exact ⟨_, rfl⟩
  · exact hoptional _ _ (by simp [Value.textCheck]) check hcheck
  · exact hoptional _ _ (by simp [Value.integerCheck]) check hcheck
  · exact hoptional _ _ (by simp [Value.integerCheck]) check hcheck

/-- The query that a lookup makes first: for IPv6 if that or every family is asked for. -/
def firstKind (hint : Option Family) : QueryKind :=
  if hint = none ∨ hint = some .ipv6 then .aaaa else .a

theorem passes_eq_firstKind (hint : Option Family) :
    ∃ later, QueryKind.passes hint = firstKind hint :: later := by
  rcases hint with _ | _ | _ | _ <;> exact ⟨_, rfl⟩

theorem exchanges_of_resolve
    {σ : Type} (respond : Responder Resolver σ) (state : σ) (board : Board) (host : String)
    {port : Value} (hport : port.integer = .ok number) (timeout : Nat) (hint : Option Family) :
    ∃ reaction later,
      ((board.resolve host port timeout hint).run respond state).exchanges =
        ⟨⟨⟨board.length, 0⟩, host, firstKind hint, timeout⟩, reaction⟩ :: later := by
  obtain ⟨kinds, hkinds⟩ := passes_eq_firstKind hint
  rw [(Board.run_resolve_eq_consult hport respond board host timeout hint state).exchanges, hkinds]
  exact ⟨_, _, rfl⟩

theorem exchanges_of_resolveDirectly
    {σ : Type} (respond : Responder DirectResolver σ) (state : σ) (host : String)
    {port : Value} (hport : port.integer = .ok number) (hint : Option Family) :
    ∃ reply, ((resolveDirectly host port hint).run respond state).exchanges =
      [⟨⟨host, hint⟩, reply⟩] := by
  simp only [resolveDirectly, hport, Dialogue.run]
  refine ⟨_, congrArg _ ?_⟩
  cases (respond ⟨host, hint⟩ state).1 <;> rfl

theorem run_create
    {σ : Type} (stack : Responder NetworkStack σ) (state : σ) (family : Family) (kind : SocketKind)
    (protocol : Protocol) (config : SocketConfig) :
    let made := (Handle.create family kind (some protocol) config).run stack state
    let reply := (stack (.socket family kind protocol) state).1
    made.exchanges = [⟨.socket family kind protocol, reply⟩] ∧
      (∀ errno, reply = .error errno → made.value = .error (.system errno)) ∧
      ∀ d, reply = .ok d → made.value = .ok ⟨Handle.owned d, family, .new, config⟩ := by
  simp only [Handle.create, Option.getD_some, Dialogue.run]
  cases (stack (.socket family kind protocol) state).1 with
  | error errno =>
      refine ⟨rfl, ?_, ?_⟩
      · intro other hother
        cases hother
        rfl
      · intro d hreply
        cases hreply
  | ok d =>
      refine ⟨rfl, ?_, ?_⟩
      · intro errno hreply
        cases hreply
      · intro other hother
        cases hother
        rfl

/-- A lookup is refused in both builds for the first check that is not met, or is the resolution of
the host for the family that the arguments ask for. -/
theorem lookup_cases (config : ResolverConfig) (board : Board) (arguments : List Value) :
    (∃ fault notices, firstFault? (lookupChecks arguments) = some fault ∧
      lookup config board arguments = noteAll notices (.done (some (.error fault), board)) ∧
      lookupDirectly config arguments = noteAll notices (.done (.error fault))) ∨
    (firstFault? (lookupChecks arguments) = none ∧
      ∃ host port number hint, port.integer = .ok number ∧
        arguments[0]? = some (.str host) ∧ HintOf config arguments[2]? hint ∧
        LookupRequest.ofArguments config arguments = .ok ⟨host, port, hint⟩) := by
  have hdecides := decides_lookupRequest config arguments
  unfold LookupRequest.checked at hdecides
  unfold lookup lookupDirectly Board.resolve resolveDirectly
  cases hrequest : LookupRequest.ofArguments config arguments with
  | error fault =>
      rw [hrequest] at hdecides
      exact .inl ⟨fault, [], (hdecides fault).mp rfl, rfl, rfl⟩
  | ok request =>
      rw [hrequest] at hdecides
      obtain ⟨hhost, hhint⟩ := ofArguments_eq_ok hrequest
      cases hport : request.port.integer with
      | error fault =>
          simp only [hport]
          rw [Value.bind_ok, hport] at hdecides
          exact .inl ⟨fault, [.lookupRequested request.host request.port request.family],
            (hdecides fault).mp rfl, rfl, rfl⟩
      | ok number =>
          rw [Value.bind_ok, hport] at hdecides
          exact .inr ⟨hdecides.firstFault?_of_ok, _, _, number, _, hport, hhost, hhint, rfl⟩

/-- Whatever the arguments are, and however many, the first check that is not met is what they are
refused for, and then nothing is called.  If all are met, `socket` makes one call, for the family
and the type of the numbers given, and for the protocol of the third number modulo `2 ^ 32`, or the
usual one; it does not look at a fourth argument.  A lookup fails for an argument of the wrong type
only.  If there is none, its first query is for the host and for the family asked for, or the
configured one; in one answer it is the only query. -/
theorem arguments_checked_before_calls
    {σ τ υ : Type} (sockets : SocketConfig) (config : ResolverConfig) (board : Board)
    (arguments : List Value) (stack : Responder NetworkStack σ) (state : σ)
    (callbacks : Responder Resolver τ) (pending : τ) (direct : Responder DirectResolver υ)
    (below : υ) :
    let made := (socket sockets arguments).run stack state
    let called := (lookup config board arguments).run callbacks pending
    let asked := (lookupDirectly config arguments).run direct below
    (∀ fault, firstFault? (socketChecks arguments) = some fault →
      made.value = .error fault ∧ made.exchanges = []) ∧
    (firstFault? (socketChecks arguments) = none →
      ∃ family kind number protocol, Describes arguments family kind number ∧
        (number = -1 → protocol = if kind = .stream then .tcp else .udp) ∧
        (number ≠ -1 → protocol.code.toInt % 2 ^ 32 = number.toInt % 2 ^ 32) ∧
        let reply := (stack (.socket family kind protocol) state).1
        made.exchanges = [⟨.socket family kind protocol, reply⟩] ∧
        (∀ errno, reply = .error errno → made.value = .error (.system errno)) ∧
        ∀ d, reply = .ok d → made.value = .ok ⟨Handle.owned d, family, .new, sockets⟩) ∧
    (∀ first second third fourth,
      socket sockets [first, second, third, fourth] = socket sockets [first, second, third]) ∧
    (∀ fault, firstFault? (lookupChecks arguments) = some fault →
      (∃ cause, fault = .type cause) ∧
        called.value = (some (.error fault), board) ∧ called.exchanges = [] ∧
        asked.value = .error fault ∧ asked.exchanges = []) ∧
    (firstFault? (lookupChecks arguments) = none →
      ∃ host hint, arguments[0]? = some (.str host) ∧ HintOf config arguments[2]? hint ∧
        (∃ reaction later, called.exchanges =
          ⟨⟨⟨board.length, 0⟩, host, firstKind hint, config.timeout⟩, reaction⟩ :: later) ∧
        ∃ reply, asked.exchanges = [⟨⟨host, hint⟩, reply⟩]) := by
  intro made called asked
  refine ⟨?_, ?_, fun _ _ _ _ => rfl, ?_, ?_⟩
  · intro fault hfault
    rcases socket_cases sockets arguments with ⟨first, hfirst, hsocket⟩ | ⟨hnone, -⟩
    · obtain rfl : first = fault := Option.some.inj (hfirst.symm.trans hfault)
      simp only [made, hsocket]
      exact ⟨rfl, rfl⟩
    · cases hnone.symm.trans hfault
  · intro hnone
    rcases socket_cases sockets arguments with ⟨first, hfirst, -⟩ | ⟨-, family, kind, number,
      hdescribes, hsocket⟩
    · cases hnone.symm.trans hfirst
    · refine ⟨family, kind, number, protocolFor kind number, hdescribes, ?_,
        protocolFor_of_ne kind, ?_⟩
      · rintro rfl
        cases kind <;> rfl
      · simp only [made, hsocket]
        exact run_create stack state family kind _ sockets
  · intro fault hfault
    rcases lookup_cases config board arguments with
      ⟨first, notices, hfirst, hlookup, hdirectly⟩ | ⟨hnone, -⟩
    · obtain rfl : first = fault := Option.some.inj (hfirst.symm.trans hfault)
      simp only [called, asked, hlookup, hdirectly, Board.run_noteAll]
      exact ⟨type_of_lookupChecks hfault, rfl, rfl, rfl, rfl⟩
    · cases hnone.symm.trans hfault
  · intro hnone
    rcases lookup_cases config board arguments with ⟨first, -, hfirst, -⟩ | ⟨-, host, port, number,
      hint, hport, hhost, hhint, hrequest⟩
    · cases hnone.symm.trans hfirst
    · refine ⟨host, hint, hhost, hhint, ?_, ?_⟩
      · simp only [called, lookup, hrequest, Dialogue.run, Dialogue.run_map]
        exact exchanges_of_resolve callbacks pending board host hport config.timeout hint
      · simp only [asked, lookupDirectly, hrequest, Dialogue.run, Dialogue.run_map]
        exact exchanges_of_resolveDirectly direct below host hport hint

/-- Several defects at once, of which the first is told: a family without a meaning before a type
that is no number, a host before a family, a family before a port.  And a protocol number beyond
32 bits for a datagram socket. -/
theorem arguments_checked_before_calls_several :
    ((socket {} [.int 9, .str "x"]).run Scripted.StackScript.respond {}).value =
        .error (.system .familyUnsupported) ∧
      ((lookup {} [] [.int 1, .str "80", .none]).run Scripted.ResolverScript.respond
        ⟨[], []⟩).value = (some (.error (.type (.notText .int))), []) ∧
      ((lookupDirectly {} [.str "host", .str "80", .none]).run Scripted.DirectScript.respond
        []).value = .error (.type (.notInteger .none)) ∧
      ∃ family kind protocol reply,
        ((socket {} [.bool true, .int 2, .int 0x100000011]).run Scripted.StackScript.respond
          {}).exchanges = [⟨.socket family kind protocol, reply⟩] ∧
        protocol.code.toInt % 2 ^ 32 = 17 := by
  have hchecked := fun arguments => arguments_checked_before_calls {} {} [] arguments
    Scripted.StackScript.respond {} Scripted.ResolverScript.respond ⟨[], []⟩
    Scripted.DirectScript.respond []
  refine ⟨?_, ?_, ?_, ?_⟩
  · exact ((hchecked [.int 9, .str "x"]).1 _ (by decide)).1
  · exact ((hchecked [.int 1, .str "80", .none]).2.2.2.1 _ (by decide)).2.1
  · exact ((hchecked [.str "host", .str "80", .none]).2.2.2.1 _ (by decide)).2.2.2.1
  · obtain ⟨family, kind, number, protocol, hdescribes, -, hprotocol, hcalls, -⟩ :=
      (hchecked [.bool true, .int 2, .int 0x100000011]).2.1 (by decide)
    obtain rfl : 0x100000011 = number := Except.ok.inj hdescribes.third
    exact ⟨family, kind, protocol, _, hcalls, hprotocol (by decide)⟩

end

end ScriptSocket.Module
