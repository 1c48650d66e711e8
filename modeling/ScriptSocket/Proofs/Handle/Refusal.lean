import ScriptSocket.Proofs.Handle.Course

/-!
# Refusals before the stack is called

A closed handle refuses every method that needs its descriptor, and arguments that cannot be used
are refused by an open one, before the stack hears of them.  Two methods keep that order only in
part.  Sending looks at its data even before the descriptor, so what is not text or bytes is refused
as such by a closed handle too.  Turning TLS on looks at the name of the peer last, so a name that
is no text is refused when two options are applied already.
-/

namespace ScriptSocket.Handle

open Network Dialogue

section

variable {α : Type} {h : Handle} {method : Method}

/-! ## Closed handles -/

/-- The methods that do something with the descriptor of the handle. -/
def Method.NeedsDescriptor : Method → Prop
  | .bind _ | .connect _ | .listen _ | .accept | .send _ | .receive _ | .setBlocking _
  | .localAddress | .secure _ _ _ | .joinNetwork _ | .stream (.bareRead _)
  | .stream (.bareWrite _) => True
  | .setOption _ _ _ | .makeFile | .close | .stream _ => False

/-- Only bytes and text can be sent. -/
def Method.Sendable (method : Method) : Prop :=
  ∀ data, method = .send data → data.kind = .bytes ∨ data.kind = .str

theorem sendable_send_iff {data : Value} :
    (Method.send data).Sendable ↔ data.kind = .bytes ∨ data.kind = .str := by
  simp [Method.Sendable]

theorem map_whenOpen_closed
    (hclosed : h.descriptor = none) (operation : Int32 → Operation α)
    (f : Except Fault α → Answer) :
    (h.whenOpen operation).map (Prod.map f id) = .done (f (.error .closed), h) := by
  rw [whenOpen_closed hclosed]
  rfl

theorem Method.perform_unsendable
    (patience : Nat) (h : Handle) {data : Value} (hkind : ¬ (Method.send data).Sendable) :
    (Method.send data).perform patience h =
      .done (.count (.error (.type (.noBuffer data.kind))), h) := by
  rw [sendable_send_iff, not_or] at hkind
  have hdata : data.buffer = .error (.type (.noBuffer data.kind)) :=
    Value.buffer_eq_error_iff.mpr ⟨hkind, rfl⟩
  simp only [perform, Handle.send, hdata]
  rfl

theorem Method.perform_bareRead_closed
    (hclosed : h.descriptor = none) (patience : Nat) (buffer : List UInt8) :
    (Method.stream (.bareRead buffer)).perform patience h =
      .done (.stream (.bareFilled (.error .badDescriptor) buffer), h) := by
  simp only [perform, transfer, Stream.Method.perform, relay, serve, hclosed, bind_done, map_done,
    Stream.overlay_nil]
  rfl

theorem Method.perform_closed
    (hclosed : h.descriptor = none) (hneeds : method.NeedsDescriptor)
    (hsendable : method.Sendable) (patience : Nat) :
    ∃ answer, method.perform patience h = .done (answer, h) ∧ answer.fault? = some .closed := by
  cases method with
  | bind address => exact ⟨_, map_whenOpen_closed hclosed _ _, rfl⟩
  | connect address => exact ⟨_, map_whenOpen_closed hclosed _ _, rfl⟩
  | listen backlog => exact ⟨_, map_whenOpen_closed hclosed _ _, rfl⟩
  | accept => exact ⟨_, map_whenOpen_closed hclosed _ _, rfl⟩
  | receive size => exact ⟨_, map_whenOpen_closed hclosed _ _, rfl⟩
  | setBlocking flag => exact ⟨_, map_whenOpen_closed hclosed _ _, rfl⟩
  | localAddress => exact ⟨_, map_whenOpen_closed hclosed _ _, rfl⟩
  | secure tag verification hostName => exact ⟨_, map_whenOpen_closed hclosed _ _, rfl⟩
  | joinNetwork network => exact ⟨_, map_whenOpen_closed hclosed _ _, rfl⟩
  | send data =>
      -- the data is looked at first, and it is data that can be sent
      cases hdata : data.buffer with
      | ok bytes =>
          simp only [perform, Handle.send, hdata]
          exact ⟨_, map_whenOpen_closed hclosed _ _, rfl⟩
      | error fault =>
          obtain ⟨⟨hbytes, hstr⟩, -⟩ := Value.buffer_eq_error_iff.mp hdata
          rcases sendable_send_iff.mp hsendable with hkind | hkind
          · exact absurd hkind hbytes
          · exact absurd hkind hstr
  | stream method =>
      cases method with
      | bareRead buffer => exact ⟨_, perform_bareRead_closed hclosed patience buffer, rfl⟩
      | bareWrite data =>
          refine ⟨.stream (.count (.error .badDescriptor)), ?_, rfl⟩
          simp only [perform, transfer, Stream.Method.perform, relay, serve, hclosed, bind_done,
            map_done]
          rfl
      | _ => exact hneeds.elim
  | setOption level option value => exact hneeds.elim
  | makeFile => exact hneeds.elim
  | close => exact hneeds.elim

end

section

variable {σ : Type} (respond : Responder NetworkStack σ) (state : σ)

/-- Whatever its arguments are, a method that needs the descriptor does nothing on a closed handle:
it calls nothing, logs nothing, and leaves the handle and a buffer to be filled as they are.  It
reports the missing descriptor, and not what may be wrong with its arguments, unless it is to send
what is neither bytes nor text; that is reported in its place. -/
theorem closed_refuses
    {h : Handle} (hclosed : h.descriptor = none) {method : Method}
    (hneeds : method.NeedsDescriptor) (patience : Nat) :
    let used := (method.perform patience h).run respond state
    used.exchanges = [] ∧ used.notices = [] ∧ used.state = state ∧ used.value.2 = h ∧
    (used.value.1.fault? = some .closed ↔ method.Sendable) ∧
    (∀ data, method = .send data → ¬ method.Sendable →
      used.value.1 = .count (.error (.type (.noBuffer data.kind)))) ∧
    (∀ buffer, method = .stream (.bareRead buffer) →
      used.value.1 = .stream (.bareFilled (.error .badDescriptor) buffer)) := by
  intro used
  by_cases hsendable : method.Sendable
  · obtain ⟨answer, hperform, hfault⟩ :=
      method.perform_closed hclosed hneeds hsendable patience
    have hused : used = ⟨(answer, h), state, [], []⟩ := by
      simp only [used, hperform, run]
    rw [hused]
    refine ⟨rfl, rfl, rfl, rfl, iff_of_true hfault hsendable, ?_, ?_⟩
    · intro data hsend hunsendable
      exact absurd hsendable hunsendable
    · rintro buffer rfl
      rw [Method.perform_bareRead_closed hclosed] at hperform
      cases hperform
      rfl
  · obtain ⟨data, hunsendable⟩ := Classical.not_forall.mp hsendable
    obtain ⟨rfl, -⟩ := Classical.not_imp.mp hunsendable
    have hused : used = ⟨(.count (.error (.type (.noBuffer data.kind))), h), state, [], []⟩ := by
      simp only [used, Method.perform_unsendable patience h hsendable, run]
    rw [hused]
    refine ⟨rfl, rfl, rfl, rfl, iff_of_false ?_ hsendable, ?_, ?_⟩
    · intro hreported
      cases hreported
    · rintro other ⟨⟩ -
      rfl
    · intro buffer hbare
      cases hbare

end

section

open Scripted

def closedHandle : Handle := ⟨none, .ipv4, .peerClosed, {}⟩

/-- A negative size, an address that is no address and a network that is no number are not looked
at once the handle is closed. -/
theorem closed_refuses_malformed :
    (((Method.receive (-1)).perform 0 closedHandle).run StackScript.respond
      {}).value.1.fault? = some .closed ∧
    (((Method.connect .none).perform 0 closedHandle).run StackScript.respond
      {}).value.1.fault? = some .closed ∧
    (((Method.joinNetwork (.str "1")).perform 0 closedHandle).run StackScript.respond
      {}).value.1.fault? = some .closed := by
  have hclosed : closedHandle.descriptor = none := rfl
  have hreports : ∀ method : Method, method.NeedsDescriptor → method.Sendable →
      ((method.perform 0 closedHandle).run StackScript.respond {}).value.1.fault? =
        some .closed := by
    intro method hneeds hsendable
    obtain ⟨-, -, -, -, hiff, -, -⟩ :=
      closed_refuses StackScript.respond {} hclosed hneeds 0
    exact hiff.mpr hsendable
  exact ⟨hreports _ trivial nofun, hreports _ trivial nofun, hreports _ trivial nofun⟩

/-- A number that is to be sent through a closed handle is refused for being a number. -/
theorem closed_handle_looks_at_number :
    closedHandle.descriptor = none ∧ (Method.send (.int 5)).NeedsDescriptor ∧
    (((Method.send (.int 5)).perform 0 closedHandle).run StackScript.respond
      {}).value.1.fault? = some (.type (.noBuffer .int)) ∧
    (((Method.send (.int 5)).perform 0 closedHandle).run StackScript.respond
      {}).value.1.fault? ≠ some .closed := by
  refine ⟨rfl, trivial, rfl, ?_⟩
  decide

end

/-! ## Options of a modem -/

section

variable {h : Handle} {tag : Value} {verification hostName : Option Value}

/-- The handle is open, and the two arguments that are looked at first can be used. -/
def Securable (h : Handle) (tag : Value) (verification : Option Value) : Prop :=
  h.descriptor ≠ none ∧ tag.IsInteger ∧ ∃ mode, verificationOf verification = .ok mode

/-- A name is text, if there is one. -/
def NamesPeer (hostName : Option Value) : Prop :=
  ∀ name, hostName = some name → name.kind = .none ∨ name.kind = .str

/-- How turning TLS on refuses an argument: before it calls the stack, or for the name of the peer,
with the tag and the verification applied. -/
inductive SecureRefusal (h : Handle) (tag : Value) (verification hostName : Option Value) :
    List (Exchange NetworkStack) → Prop where
  | atOnce (hunusable : ¬ Securable h tag verification) :
      SecureRefusal h tag verification hostName []
  | halfway {d : Int32} {code : Int64} {mode : Verification} (hopen : h.descriptor = some d)
      (htag : tag.integer = .ok code) (hmode : verificationOf verification = .ok mode)
      (hname : ¬ NamesPeer hostName) :
      SecureRefusal h tag verification hostName
        [⟨.setOption d (.securityTag (Value.low32 code)), .ok ()⟩,
          ⟨.setOption d (.peerVerification mode), .ok ()⟩]

theorem always_applyOption
    {d : Int32} {option : SocketOption} {next : Operation Unit}
    {P : List (Exchange NetworkStack) → Except Fault Unit × Handle → Prop}
    (hstop : ∀ errno, P [⟨.setOption d option, .error errno⟩] (.error (.system errno), h))
    (hnext : next.Always fun calls => P (⟨.setOption d option, .ok ()⟩ :: calls)) :
    (h.applyOption d option next).Always P := by
  intro reply
  cases reply with
  | ok value => exact hnext
  | error errno => exact hstop errno

/-- The name is applied or passed over, or it is no text and is refused. -/
theorem applyHostName_cases
    (h : Handle) (d : Int32) (hostName : Option Value) (next : Operation Unit) :
    (NamesPeer hostName ∧ (h.applyHostName d hostName next = next ∨
      ∃ name, h.applyHostName d hostName next = h.applyOption d (.hostName name) next)) ∨
    (¬ NamesPeer hostName ∧ ∃ kind,
      h.applyHostName d hostName next = h.refuse (.type (.notText kind))) := by
  unfold applyHostName
  split
  · exact .inl ⟨nofun, .inl rfl⟩
  · refine .inl ⟨?_, .inl rfl⟩
    rintro _ ⟨⟩
    exact .inl rfl
  · rename_i name hne
    cases hname : name.text with
    | ok text =>
        refine .inl ⟨?_, .inr ⟨text, rfl⟩⟩
        rintro _ ⟨⟩
        rw [Value.text_eq_ok_iff.mp hname]
        exact .inr rfl
    | error fault =>
        obtain ⟨hkind, rfl⟩ := Value.text_eq_error_iff.mp hname
        refine .inr ⟨?_, _, rfl⟩
        intro hnames
        rcases hnames name rfl with hnone | hstr
        · cases name <;> first | exact hne rfl | cases hnone
        · exact hkind hstr

/-- Turning TLS on refuses one of the arguments it looks at first, or goes on to the options. -/
theorem secure_cases
    (h : Handle) (tag : Value) (verification hostName : Option Value) :
    (¬ Securable h tag verification ∧
      ∃ fault, h.secure tag verification hostName = h.refuse fault) ∨
    ∃ d code mode, h.descriptor = some d ∧ tag.integer = .ok code ∧
      verificationOf verification = .ok mode ∧
      h.secure tag verification hostName =
        h.applyOption d (.securityTag (Value.low32 code))
          (h.applyOption d (.peerVerification mode)
            (h.applyHostName d hostName
              (.note (.securityApplied d (Value.low32 code) mode) (.done (.ok (), h))))) := by
  unfold secure whenOpen
  cases hopen : h.descriptor with
  | none => exact .inl ⟨fun hsecurable => hsecurable.1 hopen, _, rfl⟩
  | some d =>
      cases htag : tag.integer with
      | error fault =>
          have hinteger : ¬ tag.IsInteger := (Value.integer_eq_error_iff.mp htag).1
          exact .inl ⟨fun hsecurable => hinteger hsecurable.2.1, _, rfl⟩
      | ok code =>
          cases hmode : verificationOf verification with
          | error fault =>
              refine .inl ⟨?_, _, rfl⟩
              rintro ⟨-, -, mode, hverification⟩
              rw [hmode] at hverification
              cases hverification
          | ok mode => exact .inr ⟨d, code, mode, rfl, rfl, rfl, rfl⟩

theorem secure_refusal (h : Handle) (tag : Value) (verification hostName : Option Value) :
    (h.secure tag verification hostName).Always fun calls done =>
      ∀ fault, done.1 = .error fault → fault.errno? = none →
        SecureRefusal h tag verification hostName calls := by
  -- what the stack refuses is no fault of an argument
  have hsystem : ∀ (errno : Errno) (calls : List (Exchange NetworkStack)) (fault : Fault),
      (Except.error (.system errno) : Except Fault Unit) = .error fault → fault.errno? = none →
        SecureRefusal h tag verification hostName calls := by
    rintro errno calls fault ⟨⟩ hargument
    cases hargument
  rcases secure_cases h tag verification hostName with
    ⟨hunusable, fault, hsecure⟩ | ⟨d, code, mode, hopen, htag, hmode, hsecure⟩
  · rw [hsecure]
    intro fault hfault hargument
    exact .atOnce hunusable
  · rw [hsecure]
    apply always_applyOption fun errno => hsystem errno _
    apply always_applyOption fun errno => hsystem errno _
    rcases applyHostName_cases h d hostName _ with
      ⟨-, hnext | ⟨name, hnext⟩⟩ | ⟨hname, kind, hnext⟩
    · rw [hnext]
      exact nofun
    · rw [hnext]
      exact always_applyOption (fun errno => hsystem errno _) nofun
    · rw [hnext]
      intro fault hfault hargument
      exact .halfway hopen htag hmode hname

/-- A stack that applies every option gets two before a name that is no text is looked at. -/
theorem secure_halfway
    (hsecurable : Securable h tag verification) (hname : ¬ NamesPeer hostName) :
    let turn := (h.secure tag verification hostName).run Scripted.StackScript.respond {}
    (∃ fault, turn.value.1 = .error fault ∧ fault.errno? = none) ∧ turn.exchanges ≠ [] := by
  rcases secure_cases h tag verification hostName with
    ⟨hunusable, -⟩ | ⟨d, code, mode, -, -, -, hsecure⟩
  · exact absurd hsecurable hunusable
  rcases applyHostName_cases h d hostName _ with ⟨hnames, -⟩ | ⟨-, kind, hnext⟩
  · exact absurd hnames hname
  rw [hsecure, hnext]
  exact ⟨⟨_, rfl, rfl⟩, nofun⟩

theorem joinNetwork_refusal {σ : Type} (respond : Responder NetworkStack σ) (state : σ)
    (h : Handle) (network : Value) {fault : Fault}
    (hfault : ((h.joinNetwork network).run respond state).value.1 = .error fault)
    (hargument : fault.errno? = none) :
    ((h.joinNetwork network).run respond state).exchanges = [] := by
  have hcourse := (course_joinNetwork h network).run respond state
  rw [hfault] at hcourse
  rcases hcourse.failed with ⟨hcalls, -, -⟩ | ⟨-, -, errno, -, -, -, rfl, -⟩
  · exact hcalls
  · cases hargument

/-- A fault of an argument, which is one that is no error number of the system, means that turning
TLS on has applied nothing, whatever the stack, exactly if the peer's name is text where the other
arguments can be used.  If it is not, such a fault may leave the tag and the verification applied,
and nothing else.  Joining a network that is refused as an argument applies nothing. -/
theorem argument_fault_applies_nothing_iff
    (h : Handle) (tag : Value) (verification hostName : Option Value) (network : Value) :
    ((∀ (σ : Type) (respond : Responder NetworkStack σ) (state : σ) (fault : Fault),
        let turn := (h.secure tag verification hostName).run respond state
        turn.value.1 = .error fault → fault.errno? = none → turn.exchanges = []) ↔
      (Securable h tag verification → NamesPeer hostName)) ∧
    (∀ (σ : Type) (respond : Responder NetworkStack σ) (state : σ) (fault : Fault),
      let turn := (h.secure tag verification hostName).run respond state
      turn.value.1 = .error fault → fault.errno? = none →
        SecureRefusal h tag verification hostName turn.exchanges) ∧
    (∀ (σ : Type) (respond : Responder NetworkStack σ) (state : σ) (fault : Fault),
      let turn := (h.joinNetwork network).run respond state
      turn.value.1 = .error fault → fault.errno? = none → turn.exchanges = []) := by
  have hrefusal : ∀ (σ : Type) (respond : Responder NetworkStack σ) (state : σ) (fault : Fault),
      ((h.secure tag verification hostName).run respond state).value.1 = .error fault →
        fault.errno? = none → SecureRefusal h tag verification hostName
          ((h.secure tag verification hostName).run respond state).exchanges :=
    fun σ respond state => (secure_refusal h tag verification hostName).run respond state
  refine ⟨⟨?_, ?_⟩, hrefusal, ?_⟩
  · intro hnothing hsecurable
    by_cases hname : NamesPeer hostName
    · exact hname
    obtain ⟨⟨fault, hfault, hargument⟩, hcalls⟩ := secure_halfway hsecurable hname
    exact absurd (hnothing _ _ _ fault hfault hargument) hcalls
  · intro hnames σ respond state fault turn hfault hargument
    have hturn : SecureRefusal h tag verification hostName turn.exchanges :=
      hrefusal σ respond state fault hfault hargument
    generalize turn.exchanges = calls at hturn
    cases hturn with
    | atOnce hunusable => rfl
    | halfway hopen htag hmode hname =>
        have hsecurable : Securable h tag verification :=
          ⟨by simp [hopen], Value.exists_integer_iff.mp ⟨_, htag⟩, _, hmode⟩
        exact absurd (hnames hsecurable) hname
  · intro σ respond state fault turn hfault hargument
    exact joinNetwork_refusal respond state h network hfault hargument

/-- With a number for the name, a TLS socket keeps its tag and its verification, and the operation
fails with the fault of the name. -/
theorem number_for_name_applies_two :
    let turn := (secure ⟨some 3, .ipv4, .new, {}⟩ (.int 1) none (some (.int 5))).run
      Scripted.StackScript.respond {}
    turn.value.1 = .error (.type (.notText .int)) ∧
      turn.exchanges.map Exchange.request =
        [.setOption 3 (.securityTag 1), .setOption 3 (.peerVerification .required)] := by
  exact ⟨rfl, rfl⟩

end

end ScriptSocket.Handle
