import ScriptSocket.Proofs.Handle.Phase

/-!
# The blocking mode of a descriptor

Changing the blocking mode reads the flags of a descriptor, changes one bit of them and writes them
back.  Either call may fail.  A stack remembers the flags that were last set, and nothing else sets
any.  So the word that it has for a descriptor after a run of a session is the one it had before,
with that bit changed by each successful change of mode in turn.
-/

namespace ScriptSocket

/-- The values that are false. -/
def Value.falsities : List Value :=
  [.none, .bool false, .int 0, .str "", .bytes [], .tuple [], .list []]

theorem Value.not_isTrue (v : Value) : (!v.isTrue) = decide (v ∈ falsities) := by
  rw [Bool.eq_iff_iff, decide_eq_true_iff]
  cases v <;> simp [isTrue, falsities]

/-! ## One bit of a word -/

def flagBit (word : Int32) (bit : Nat) : Bool := word.toBitVec.getLsbD bit

namespace Handle

/-- The place of the bit in `nonBlocking`. -/
def nonBlockingBit : Nat := 11

theorem flagBit_nonBlocking (bit : Nat) :
    flagBit nonBlocking bit = decide (bit = nonBlockingBit) := by
  have hword : nonBlocking.toBitVec = BitVec.twoPow 32 nonBlockingBit := by decide
  rw [flagBit, hword, BitVec.getLsbD_twoPow]
  by_cases hbit : bit = nonBlockingBit
  · subst bit
    rfl
  · simp [hbit, Ne.symm hbit]

/-- Every other bit is kept, also of a negative word. -/
theorem flagBit_withBlocking (blocking : Bool) (word : Int32) (bit : Nat) :
    flagBit (withBlocking blocking word) bit =
      if bit = nonBlockingBit then !blocking else flagBit word bit := by
  have hbit := flagBit_nonBlocking bit
  unfold flagBit at hbit ⊢
  cases blocking with
  | false =>
      simp only [withBlocking, Bool.false_eq_true, if_false, Int32.toBitVec_or, BitVec.getLsbD_or,
        hbit]
      split <;> simp [*]
  | true =>
      simp only [withBlocking, if_true, Int32.toBitVec_and, Int32.toBitVec_not, BitVec.getLsbD_and,
        BitVec.getLsbD_not, hbit]
      by_cases hwidth : bit < 32
      · split <;> simp [*]
      · simp [hwidth, BitVec.getLsbD_of_ge _ _ (Nat.le_of_not_lt hwidth)]

/-- The word that a change of mode writes back. -/
def switched (word : Int32) (flag : Value) : Int32 := withBlocking flag.isTrue word

theorem flagBit_switched (word : Int32) (flag : Value) (bit : Nat) :
    flagBit (switched word flag) bit =
      if bit = nonBlockingBit then decide (flag ∈ Value.falsities) else flagBit word bit := by
  rw [switched, flagBit_withBlocking, flag.not_isTrue]

theorem flagBit_foldl_switched (word : Int32) (flags : List Value) {bit : Nat}
    (hbit : bit ≠ nonBlockingBit) : flagBit (flags.foldl switched word) bit = flagBit word bit := by
  induction flags generalizing word with
  | nil => rfl
  | cons flag flags ih => rw [List.foldl_cons, ih, flagBit_switched, if_neg hbit]

theorem flagBit_foldl_getLast?
    {flags : List Value} {last : Value} (hlast : flags.getLast? = some last) (word : Int32) :
    flagBit (flags.foldl switched word) nonBlockingBit = decide (last ∈ Value.falsities) := by
  obtain ⟨earlier, rfl⟩ := List.getLast?_eq_some_iff.mp hlast
  rw [List.foldl_append, List.foldl_cons, List.foldl_nil, flagBit_switched, if_pos rfl]

end Handle

/-! ## What a stack remembers -/

namespace Network

/-- The flags that are remembered for a descriptor after a call: those just set, if it set any. -/
def flagsAfterCall (d word : Int32) : Exchange NetworkStack → Int32
  | ⟨.setFlags e flags, .ok ()⟩ => if e = d then flags else word
  | _ => word

def flagsAfter (d word : Int32) (calls : List (Exchange NetworkStack)) : Int32 :=
  calls.foldl (flagsAfterCall d) word

/-- Whenever the flags of the descriptor are read, they are those last set. -/
def Remembers (d : Int32) : Int32 → List (Exchange NetworkStack) → Prop
  | _, [] => True
  | word, call :: later =>
    (∀ flags, call = ⟨.flags d, .ok flags⟩ → flags = word) ∧
      Remembers d (flagsAfterCall d word call) later

/-- The calls that leave the flags of every descriptor alone. -/
def Request.KeepsFlags : Request → Prop
  | .setFlags _ _ => False
  | _ => True

variable {d word : Int32} {calls later : List (Exchange NetworkStack)}

theorem flagsAfterCall_of_keepsFlags
    {call : Exchange NetworkStack} (hkeeps : call.request.KeepsFlags) (d word : Int32) :
    flagsAfterCall d word call = word := by
  obtain ⟨request, reply⟩ := call
  cases request with
  | setFlags e flags => exact hkeeps.elim
  | _ => rfl

theorem flagsAfter_of_keepsFlags
    (hkeeps : ∀ call ∈ calls, call.request.KeepsFlags) (d word : Int32) :
    flagsAfter d word calls = word := by
  unfold flagsAfter
  induction calls with
  | nil => rfl
  | cons call calls ih =>
      rw [List.forall_mem_cons] at hkeeps
      rw [List.foldl_cons, flagsAfterCall_of_keepsFlags hkeeps.1, ih hkeeps.2]

theorem flagsAfter_append (d word : Int32) (calls later : List (Exchange NetworkStack)) :
    flagsAfter d word (calls ++ later) = flagsAfter d (flagsAfter d word calls) later :=
  List.foldl_append

theorem remembers_append_iff :
    Remembers d word (calls ++ later) ↔
      Remembers d word calls ∧ Remembers d (flagsAfter d word calls) later := by
  induction calls generalizing word with
  | nil => simp [Remembers, flagsAfter]
  | cons call calls ih =>
      simp only [List.cons_append, Remembers, ih, flagsAfter, List.foldl_cons, and_assoc]

/-- A stack that keeps a word of flags for each descriptor in its state.  Calls may fail, and none
but a successful one that sets flags changes a word. -/
structure FlagMemory {σ : Type} (respond : Responder NetworkStack σ) (usable : σ → Prop)
    (word : σ → Int32 → Int32) : Prop where
  read : ∀ d flags state, usable state → (respond (.flags d) state).1 = .ok flags →
    flags = word state d
  after : ∀ d request state, usable state →
    word (respond request state).2 d =
      flagsAfterCall d (word state d) ⟨request, (respond request state).1⟩
  usable_after : ∀ request state, usable state → usable (respond request state).2

/-- Such a stack remembers the flags last set, whatever it is asked. -/
theorem FlagMemory.run
    {σ α : Type} {respond : Responder NetworkStack σ} {usable : σ → Prop}
    {word : σ → Int32 → Int32} (hmemory : FlagMemory respond usable word) (d : Int32)
    (dialogue : Dialogue NetworkStack α) {state : σ} (husable : usable state) :
    Remembers d (word state d) (dialogue.run respond state).exchanges ∧
      word (dialogue.run respond state).state d =
        flagsAfter d (word state d) (dialogue.run respond state).exchanges := by
  induction dialogue generalizing state with
  | done value => exact ⟨trivial, rfl⟩
  | note notice next ih => exact ih husable
  | ask request next ih =>
      have hrest := ih (respond request state).1 (hmemory.usable_after request state husable)
      rw [hmemory.after d request state husable] at hrest
      refine ⟨⟨?_, hrest.1⟩, hrest.2⟩
      intro flags hcall
      injection hcall with hrequest hreply
      subst hrequest
      exact hmemory.read d flags state husable (eq_of_heq hreply)

end Network

namespace Scripted.StackScript

theorem flags_respond (request : Network.Request) (script : StackScript) :
    (respond request script).2.flags ⊆ script.flags ∧
      (request.KeepsFlags → (respond request script).2.flagMemory = script.flagMemory) := by
  cases request with
  | socket family kind protocol =>
      cases hqueue : script.sockets <;> simp [respond, hqueue, handOut]
  | accept e => cases hqueue : script.accepts <;> simp [respond, hqueue, handOut]
  | localEndpoint e => cases hqueue : script.localEndpoints <;> simp [respond, hqueue]
  | flags e => cases hqueue : script.flags <;> simp [respond, hqueue]
  | setFlags e flags =>
      refine ⟨?_, False.elim⟩
      simp only [respond]
      cases (plainReply script.setFlags).1 <;> exact List.Subset.refl _
  | _ => exact ⟨List.Subset.refl _, fun _ => rfl⟩

theorem rememberedFlags_remember (script : StackScript) (d e flags : Int32) :
    (script.remember e flags (.ok ())).rememberedFlags d =
      if e = d then flags else script.rememberedFlags d := by
  by_cases hsame : e = d
  · simp [remember, rememberedFlags, hsame]
  · have hkey : (d == e) = false := beq_false_of_ne (Ne.symm hsame)
    simp [remember, rememberedFlags, List.lookup_cons, hsame, hkey]

/-- The stack with prepared answers has such a memory if no flags are prepared for it to read. -/
theorem memory_of_no_prepared_flags :
    Network.FlagMemory respond (fun script => ∀ flags, .ok flags ∉ script.flags)
      rememberedFlags where
  read := by
    intro d flags script hscript hreply
    cases hflags : script.flags with
    | nil =>
        simp only [respond, hflags] at hreply
        exact (Except.ok.inj hreply).symm
    | cons entry rest =>
        simp only [respond, hflags] at hreply
        rw [hflags, hreply] at hscript
        exact absurd List.mem_cons_self (hscript flags)
  after := by
    intro d request script _
    by_cases hkeeps : request.KeepsFlags
    · rw [Network.flagsAfterCall_of_keepsFlags hkeeps, rememberedFlags,
        (flags_respond request script).2 hkeeps]
      rfl
    · cases request with
      | setFlags e flags =>
          simp only [respond]
          cases (plainReply script.setFlags).1 with
          | error errno => rfl
          | ok value => exact rememberedFlags_remember _ d e flags
      | _ => exact absurd trivial hkeeps
  usable_after := by
    intro request script hscript flags hflags
    exact hscript flags ((flags_respond request script).1 hflags)

end Scripted.StackScript

/-! ## Who sets flags -/

namespace Handle

open Dialogue Network

variable {α : Type}

theorem asks_whenOpen
    (h : Handle) {operation : Int32 → Operation α}
    (hoperation : ∀ d, (operation d).Asks Request.KeepsFlags) :
    (h.whenOpen operation).Asks Request.KeepsFlags := by
  unfold whenOpen
  split
  · trivial
  · exact hoperation _

theorem asks_answer (h : Handle) (reply : Except Errno α) :
    (h.answer reply).Asks Request.KeepsFlags := by
  cases reply <;> trivial

theorem asks_bind (h : Handle) (address : Value) : (h.bind address).Asks Request.KeepsFlags := by
  apply asks_whenOpen
  intro d
  split
  · trivial
  · exact ⟨trivial, h.asks_answer⟩

theorem asks_connect (h : Handle) (address : Value) :
    (h.connect address).Asks Request.KeepsFlags := by
  apply asks_whenOpen
  intro d
  split
  · trivial
  · refine ⟨trivial, fun reply => ?_⟩
    cases reply <;> trivial

theorem asks_listen (h : Handle) (backlog : Option Int64) :
    (h.listen backlog).Asks Request.KeepsFlags :=
  asks_whenOpen h fun _ => ⟨trivial, h.asks_answer⟩

theorem asks_accept (h : Handle) : h.accept.Asks Request.KeepsFlags := by
  apply asks_whenOpen
  intro d
  refine ⟨trivial, fun reply => ?_⟩
  cases reply <;> trivial

theorem asks_send (h : Handle) (data : Value) : (h.send data).Asks Request.KeepsFlags := by
  unfold send
  split
  · trivial
  · exact asks_whenOpen h fun d => ⟨trivial, h.asks_answer⟩

theorem asks_receive (h : Handle) (size : Int64) : (h.receive size).Asks Request.KeepsFlags := by
  apply asks_whenOpen
  intro d
  split
  · trivial
  · dsimp only
    split
    · trivial
    · refine ⟨trivial, fun reply => ?_⟩
      dsimp only
      split <;> trivial

theorem asks_localAddress (h : Handle) : h.localAddress.Asks Request.KeepsFlags := by
  apply asks_whenOpen
  intro d
  refine ⟨trivial, fun reply => ?_⟩
  cases reply <;> trivial

theorem asks_applyOption
    (h : Handle) (d : Int32) (option : SocketOption) {next : Operation Unit}
    (hnext : next.Asks Request.KeepsFlags) :
    (h.applyOption d option next).Asks Request.KeepsFlags := by
  refine ⟨trivial, fun reply => ?_⟩
  cases reply with
  | ok value => exact hnext
  | error errno => trivial

theorem asks_secure (h : Handle) (tag : Value) (verification hostName : Option Value) :
    (h.secure tag verification hostName).Asks Request.KeepsFlags := by
  apply asks_whenOpen
  intro d
  split
  · trivial
  · trivial
  · apply asks_applyOption
    apply asks_applyOption
    unfold applyHostName
    split
    · trivial
    · trivial
    · split
      · trivial
      · exact h.asks_applyOption d _ trivial

theorem asks_joinNetwork (h : Handle) (network : Value) :
    (h.joinNetwork network).Asks Request.KeepsFlags := by
  apply asks_whenOpen
  intro d
  split
  · exact ⟨trivial, h.asks_answer⟩
  · trivial

theorem asks_giveBack (h : Handle) : h.giveBack.Asks Request.KeepsFlags := by
  unfold giveBack
  split
  · trivial
  · refine ⟨trivial, fun reply => ?_⟩
    cases reply <;> trivial

theorem asks_serve (request : Stream.Request) (h : Handle) :
    (serve request h).Asks Request.KeepsFlags := by
  cases request with
  | read size =>
      simp only [serve]
      split
      · trivial
      · exact ⟨trivial, fun reply => trivial⟩
  | write data =>
      simp only [serve]
      split
      · trivial
      · exact ⟨trivial, fun reply => trivial⟩
  | control request argument =>
      cases request with
      | close => exact h.asks_giveBack
      | flush => trivial
      | other code => trivial

theorem asks_transfer (h : Handle) (transfer : Dialogue ByteStream α) :
    (h.transfer transfer).Asks Request.KeepsFlags :=
  asks_relay asks_serve transfer h

theorem asks_abandon (h : Handle) : h.abandon.Asks Request.KeepsFlags := by
  unfold abandon
  split
  · trivial
  · refine ⟨trivial, fun reply => ?_⟩
    cases reply <;> trivial

theorem asks_create (family : Family) (kind : SocketKind) (protocol : Option Protocol)
    (config : SocketConfig) : (create family kind protocol config).Asks Request.KeepsFlags := by
  refine ⟨trivial, fun reply => ?_⟩
  cases reply <;> trivial

/-- No method but a change of mode sets flags. -/
theorem Method.asks_perform
    {method : Method} (hmethod : ∀ flag, method ≠ .setBlocking flag) (patience : Nat) (h : Handle) :
    (method.perform patience h).Asks Request.KeepsFlags := by
  cases method with
  | bind address => exact (h.asks_bind address).map _
  | connect address => exact (h.asks_connect address).map _
  | listen backlog => exact (h.asks_listen backlog).map _
  | accept => exact h.asks_accept.map _
  | send data => exact (h.asks_send data).map _
  | receive size => exact (h.asks_receive size).map _
  | setBlocking flag => exact absurd rfl (hmethod flag)
  | setOption level option value => trivial
  | makeFile => trivial
  | localAddress => exact h.asks_localAddress.map _
  | close => exact (h.asks_transfer Stream.close).map _
  | secure tag verification hostName => exact (h.asks_secure tag verification hostName).map _
  | joinNetwork network => exact (h.asks_joinNetwork network).map _
  | stream method => exact (h.asks_transfer (method.perform patience)).map _

/-- How a change of mode goes: its calls and its result. -/
inductive Switching (h : Handle) (flag : Value) :
    List (Exchange NetworkStack) → Except Fault Unit → Prop where
  | closed (hclosed : h.descriptor = none) : Switching h flag [] (.error .closed)
  | unread {d : Int32} (hopen : h.descriptor = some d) (errno : Errno) :
      Switching h flag [⟨.flags d, .error errno⟩] (.error (.system errno))
  | unset {d : Int32} (hopen : h.descriptor = some d) (word : Int32) (errno : Errno) :
      Switching h flag
        [⟨.flags d, .ok word⟩, ⟨.setFlags d (switched word flag), .error errno⟩]
        (.error (.system errno))
  | set {d : Int32} (hopen : h.descriptor = some d) (word : Int32) :
      Switching h flag [⟨.flags d, .ok word⟩, ⟨.setFlags d (switched word flag), .ok ()⟩] (.ok ())

theorem switching_setBlocking (h : Handle) (flag : Value) :
    (h.setBlocking flag).Always fun calls done =>
      Switching h flag calls done.1 ∧ done.2 = h := by
  unfold setBlocking
  cases hdescriptor : h.descriptor with
  | none =>
      rw [whenOpen_closed hdescriptor]
      exact ⟨.closed hdescriptor, rfl⟩
  | some d =>
      rw [whenOpen_open hdescriptor]
      intro reply
      cases reply with
      | error errno => exact ⟨.unread hdescriptor errno, rfl⟩
      | ok word =>
          intro reply
          cases reply with
          | error errno => exact ⟨.unset hdescriptor word errno, rfl⟩
          | ok value => exact ⟨.set hdescriptor word, rfl⟩

namespace Switching

variable {h : Handle} {flag : Value} {calls : List (Exchange NetworkStack)}

theorem flagsAfter_of_error {fault : Fault} (hswitching : Switching h flag calls (.error fault))
    (d word : Int32) : flagsAfter d word calls = word := by
  cases hswitching <;> rfl

theorem flagsAfter_of_ok
    {d word : Int32} (hswitching : Switching h flag calls (.ok ()))
    (hremembers : Remembers d word calls) :
    flagsAfter d word calls = if h.descriptor = some d then switched word flag else word := by
  cases hswitching with
  | @set e hopen read =>
      change (if e = d then switched read flag else word) = _
      rw [hopen]
      by_cases hsame : e = d
      · subst hsame
        rw [if_pos rfl, if_pos rfl, hremembers.1 read rfl]
      · rw [if_neg hsame, if_neg fun heq => hsame (Option.some.inj heq)]

theorem keepsFlags_of_unread
    {result : Except Fault Unit} (hswitching : Switching h flag calls result) {e : Int32}
    {errno : Errno} (hunread : ⟨.flags e, .error errno⟩ ∈ calls) :
    ∀ call ∈ calls, call.request.KeepsFlags := by
  cases hswitching with
  | closed hclosed => exact List.forall_mem_nil _
  | unread hopen errno => exact List.forall_mem_singleton.mpr trivial
  | unset hopen word errno => nomatch hunread
  | set hopen word => nomatch hunread

end Switching

end Handle

/-! ## Whole runs -/

namespace Module

open Dialogue Network

/-- The flag of a change of mode that succeeded for a descriptor. -/
def Deed.switch? (d : Int32) (deed : Deed) : Option Value :=
  match deed.action, deed.report with
  | .use _ (.setBlocking flag), .used (.done (.ok ())) h =>
    if h.descriptor = some d then some flag else none
  | _, _ => none

/-- The flags of the changes of mode that succeeded for a descriptor, in order. -/
def switches (d : Int32) (deeds : List Deed) : List Value := deeds.filterMap (Deed.switch? d)

theorem switches_cons (d : Int32) (deed : Deed) (deeds : List Deed) :
    switches d (deed :: deeds) = (deed.switch? d).toList ++ switches d deeds := by
  unfold switches
  cases hswitch : deed.switch? d <;> simp [hswitch]

def Action.IsSwitch : Action → Prop
  | .use _ (.setBlocking _) => True
  | _ => False

theorem Deed.switch?_of_not_isSwitch
    {action : Action} (haction : ¬ action.IsSwitch) (d : Int32) (report : Report)
    (calls : List (Exchange NetworkStack)) :
    (Deed.mk action report calls).switch? d = none := by
  unfold switch?
  split
  · rename_i hswitch _
    cases hswitch
    exact absurd trivial haction
  · rfl

namespace Session

variable {s : Session} {place : Nat} {h : Handle}

theorem afterUse_self
    (hhandle : s.handle? place = some h) {answer : Handle.Answer} (hmade : answer.made? = none) :
    (s.afterUse place answer h).2 = s := by
  obtain ⟨hplace, hget⟩ := List.getElem?_eq_some_iff.mp (Option.join_eq_some_iff.mp hhandle)
  simp only [afterUse, hmade, add, ← hget, List.set_getElem_self hplace]

theorem asks_perform
    (s : Session) (patience : Nat) {action : Action} (haction : ¬ action.IsSwitch) :
    (s.perform patience action).Asks Request.KeepsFlags := by
  cases action with
  | socket arguments =>
      simp only [perform, Module.socket]
      split
      · trivial
      · exact (Handle.asks_create _ _ _ _).map _
  | create family kind protocol => exact (Handle.asks_create family kind protocol _).map _
  | drop place =>
      simp only [perform]
      split
      · trivial
      · exact (Handle.asks_abandon _).map _
  | use place method =>
      simp only [perform]
      split
      · trivial
      · apply (Handle.Method.asks_perform _ patience _).map
        rintro flag rfl
        exact haction trivial

/-- A change of mode leaves the session as it is, and its calls go as `Switching` says. -/
theorem switching_perform (s : Session) (patience place : Nat) (flag : Value) :
    (s.perform patience (.use place (.setBlocking flag))).Always fun calls done =>
      done.2 = s ∧
        ((calls = [] ∧ done.1 = .noHandle) ∨
          ∃ h result, h.Switching flag calls result ∧ done.1 = .used (.done result) h) := by
  simp only [perform]
  cases hhandle : s.handle? place with
  | none => exact ⟨rfl, .inl ⟨rfl, rfl⟩⟩
  | some h =>
      apply (always_map_iff _ _).mpr
      apply (always_map_iff _ _).mpr
      apply (h.switching_setBlocking flag).imp
      rintro calls ⟨result, left⟩ ⟨hswitching, rfl⟩
      exact ⟨afterUse_self hhandle rfl, .inr ⟨left, result, hswitching, rfl⟩⟩

/-- What one action makes of the flags of a descriptor. -/
theorem flagsAfter_perform (s : Session) (patience : Nat) (action : Action) (d word : Int32) :
    (s.perform patience action).Always fun calls done =>
      Remembers d word calls →
        flagsAfter d word calls =
          ((Deed.mk action done.1 calls).switch? d).toList.foldl Handle.switched word := by
  by_cases haction : action.IsSwitch
  · match action, haction with
    | .use place (.setBlocking flag), _ =>
        apply (switching_perform s patience place flag).imp
        rintro calls ⟨report, after⟩ ⟨-, ⟨rfl, rfl⟩ | ⟨h, result, hswitching, rfl⟩⟩ hremembers
        · rfl
        · cases result with
          | error fault => exact hswitching.flagsAfter_of_error d word
          | ok value =>
              rw [hswitching.flagsAfter_of_ok hremembers]
              simp only [Deed.switch?]
              split <;> rfl
  · -- any other action cannot set flags, whatever its calls come to
    apply (asks_perform s patience haction).always.imp
    intro calls done hkeeps _
    rw [flagsAfter_of_keepsFlags hkeeps, Deed.switch?_of_not_isSwitch haction]
    rfl

section

variable {σ : Type} (respond : Responder NetworkStack σ) (patience : Nat) (state : σ)

theorem flagsAfter_transcript
    (s : Session) (actions : List Action) {d word : Int32}
    (hremembers : Remembers d word
      ((s.transcript respond patience state actions).flatMap Deed.calls)) :
    flagsAfter d word ((s.transcript respond patience state actions).flatMap Deed.calls) =
      (switches d (s.transcript respond patience state actions)).foldl Handle.switched word := by
  induction actions generalizing s state word with
  | nil => rfl
  | cons action actions ih =>
      -- the rest of the run begins with the word that the first action left
      simp only [transcript, List.flatMap_cons, remembers_append_iff] at hremembers ⊢
      have hfirst := (flagsAfter_perform s patience action d word).run respond state hremembers.1
      rw [flagsAfter_append, ih _ _ hremembers.2, hfirst, switches_cons, List.foldl_append]

/-- Over any run of a session on a stack that remembers the flags last set for a descriptor, where
any call may fail, the word remembered for it keeps every bit but the one for non-blocking mode.
That one is as the last successful change of mode says: set for a false value, clear for any other,
and as before if there was none.  A change of mode that fails changes neither the session nor the
flags of any descriptor, and does not try to set them if they could not be read. -/
theorem setBlocking_changes_one_bit
    (s : Session) (actions : List Action) {d word : Int32}
    (hremembers : Remembers d word (s.history respond state patience actions).exchanges) :
    let past := s.history respond state patience actions
    let deeds := s.transcript respond patience state actions
    let left := flagsAfter d word past.exchanges
    (deeds.map Deed.action = actions ∧ deeds.map Deed.report = past.value.1 ∧
      deeds.flatMap Deed.calls = past.exchanges) ∧
    (∀ bit, bit ≠ Handle.nonBlockingBit → flagBit left bit = flagBit word bit) ∧
    (∀ flag, (switches d deeds).getLast? = some flag →
      flagBit left Handle.nonBlockingBit = decide (flag ∈ Value.falsities)) ∧
    ((switches d deeds).getLast? = none → left = word) ∧
    ∀ place flag fault h,
      let turn := s.turnAfter respond state patience actions (.use place (.setBlocking flag))
      turn.value.1 = .used (.done (.error fault)) h →
        turn.value.2 = past.value.2 ∧ (∀ e before, flagsAfter e before turn.exchanges = before) ∧
        ∀ e errno, ⟨.flags e, .error errno⟩ ∈ turn.exchanges →
          ∀ call ∈ turn.exchanges, ∀ f flags, call.request ≠ .setFlags f flags := by
  intro past deeds left
  have hdeeds := transcript_eq_history respond patience state s actions
  have hleft : left = (switches d deeds).foldl Handle.switched word := by
    rw [← hdeeds.2.2] at hremembers
    simp only [left, past, ← hdeeds.2.2]
    exact flagsAfter_transcript respond patience state s actions hremembers
  refine ⟨hdeeds, ?_, ?_, ?_, ?_⟩
  · intro bit hbit
    rw [hleft]
    exact Handle.flagBit_foldl_switched word _ hbit
  · intro flag hlast
    rw [hleft]
    exact Handle.flagBit_foldl_getLast? hlast word
  · intro hnone
    rw [hleft, List.getLast?_eq_none_iff.mp hnone]
    rfl
  · intro place flag fault h turn hfault
    obtain ⟨hsession, ⟨-, hempty⟩ | ⟨handle, result, hswitching, hreport⟩⟩ :=
      (switching_perform past.value.2 patience place flag).run respond past.state
    · cases hfault.symm.trans hempty
    · cases hfault.symm.trans hreport
      refine ⟨hsession, hswitching.flagsAfter_of_error, ?_⟩
      intro e errno hunread call hcall f flags hrequest
      have hkeeps := hswitching.keepsFlags_of_unread hunread call hcall
      rw [hrequest] at hkeeps
      exact hkeeps

end

section

open Scripted

/-- A stack that has a negative word with a clear bit for descriptor 3.  It fails the first call
that reads flags and the third that sets them. -/
def balkingScript : StackScript :=
  { flags := [.error .invalidArgument]
    setFlags := [.ok (), .ok (), .error .again]
    flagMemory := [(3, -2049)] }

/-- Of the changes of mode of the first of two objects only the second succeeds. -/
def switchingActions : List Action :=
  [.socket [], .socket [], .use 0 (.setBlocking .none), .use 0 (.setBlocking (.str "")),
    .use 1 (.setBlocking (.int 5)), .use 0 (.send (.bytes [7])),
    .use 0 (.setBlocking (.list [.none])), .use 0 .close, .use 0 (.setBlocking (.bool true))]

theorem setBlocking_changes_one_bit_failing :
    let past := (start {} {}).history StackScript.respond balkingScript 1 switchingActions
    let deeds := (start {} {}).transcript StackScript.respond 1 balkingScript switchingActions
    Remembers 3 (-2049) past.exchanges ∧ switches 3 deeds = [.str ""] ∧
      past.state.rememberedFlags 3 = flagsAfter 3 (-2049) past.exchanges ∧
      flagBit (past.state.rememberedFlags 3) Handle.nonBlockingBit = true ∧
      flagBit (past.state.rememberedFlags 3) 31 = true := by
  intro past deeds
  have husable : ∀ flags, .ok flags ∉ balkingScript.flags := by simp [balkingScript]
  have hmemory := StackScript.memory_of_no_prepared_flags.run 3
    ((start {} {}).performAll 1 switchingActions) husable
  have hremembers : Remembers 3 (-2049) past.exchanges := hmemory.1
  have hword : past.state.rememberedFlags 3 = flagsAfter 3 (-2049) past.exchanges := hmemory.2
  have hswitches : switches 3 deeds = [.str ""] := by decide +kernel
  obtain ⟨-, hothers, hlast, -⟩ := setBlocking_changes_one_bit StackScript.respond 1
    balkingScript (start {} {}) switchingActions hremembers
  refine ⟨hremembers, hswitches, hword, ?_, ?_⟩
  · rw [hword, hlast (.str "") (congrArg List.getLast? hswitches)]
    decide
  · rw [hword, hothers 31 (by decide)]
    decide

end

end Session

end Module

end ScriptSocket
