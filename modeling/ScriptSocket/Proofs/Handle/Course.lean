import ScriptSocket.Module.Session
import ScriptSocket.Proofs.Always
import ScriptSocket.Scripted.Stack

/-!
# How an operation fails

An operation on a handle looks at the descriptor and at its arguments, and then makes one call to
the stack, or two.  `Course` lists the ways in which that can go: it is refused before any call, it
is stopped by the first call that fails, or all calls succeed.  Whichever way it fails, the handle
is what it was before, except that a connect which the stack refused leaves it new.
-/

namespace ScriptSocket

def failure? {ε α : Type} : Except ε α → Option ε
  | .ok _ => none
  | .error e => some e

namespace Network

/-- The error number of a call that failed. -/
def errno? : Exchange NetworkStack → Option Errno
  | ⟨.receive _ _, reply⟩ => failure? reply.outcome
  | ⟨.socket _ _ _, reply⟩ | ⟨.accept _, reply⟩ | ⟨.send _ _, reply⟩ | ⟨.flags _, reply⟩
  | ⟨.localEndpoint _, reply⟩ | ⟨.bind _ _, reply⟩ | ⟨.connect _ _, reply⟩ | ⟨.listen _ _, reply⟩
  | ⟨.close _, reply⟩ | ⟨.setFlags _ _, reply⟩ | ⟨.setOption _ _, reply⟩ => failure? reply

end Network

def Stream.Answer.fault? : Stream.Answer → Option Fault
  | .value result | .filled result _ | .closed result => failure? result
  | .count result | .bareFilled result _ => (failure? result).map .system
  | .unanswered => none

namespace Handle

open Network Dialogue

def Answer.fault? : Answer → Option Fault
  | .done result | .value result | .count result | .bytes result | .accepted result =>
    failure? result
  | .stream answer => answer.fault?
  | .file _ => none

/-- The operations that fail as a whole.  Of the other methods, the transfers over the stream and
the options for TLS may fail half done, and the rest cannot fail. -/
def Method.Atomic : Method → Prop
  | .bind _ | .connect _ | .listen _ | .accept | .send _ | .receive _ | .setBlocking _
  | .localAddress | .close | .joinNetwork _ => True
  | .setOption _ _ _ | .makeFile | .secure _ _ _ | .stream _ => False

/-- Changing the blocking mode reads the flags before it writes them. -/
def Method.mostCalls : Method → Nat
  | .setBlocking _ => 2
  | _ => 1

/-- The handle after a call that failed. -/
def Method.afterStop (h : Handle) : Method → Handle
  | .connect _ => { h with phase := .new }
  | _ => h

/-- What a call does to the phase of the handle, for the method that made it. -/
def Method.phaseAfter (method : Method) (phase : Phase) (call : Exchange NetworkStack) : Phase :=
  match method, call with
  | .connect _, ⟨.connect _ _, .ok ()⟩ => .connected
  | .connect _, ⟨.connect _ _, .error _⟩ => .new
  | .receive size, ⟨.receive _ _, ⟨_, .ok 0⟩⟩ => if 0 < size then .peerClosed else phase
  | _, _ => phase

/-- Why an operation is refused before any call to the stack. -/
inductive Refused (h : Handle) : Method → Fault → Prop where
  | closed (method : Method) (hclosed : h.descriptor = none) : Refused h method .closed
  | bind {address : Value} {fault : Fault}
      (haddress : Endpoint.ofValue h.family address = .error fault) :
      Refused h (.bind address) fault
  | connect {address : Value} {fault : Fault}
      (haddress : Endpoint.ofValue h.family address = .error fault) :
      Refused h (.connect address) fault
  | send {data : Value} {fault : Fault} (hdata : data.buffer = .error fault) :
      Refused h (.send data) fault
  | negative {size : Int64} (hsize : size < 0) :
      Refused h (.receive size) (.value .negativeSize)
  | tooLarge {size : Int64} (hsize : unallocatable ≤ size.toNatClampNeg) :
      Refused h (.receive size) (.system .noMemory)
  | network {network : Value} (hnetwork : network.kind ≠ .int) :
      Refused h (.joinNetwork network) (.type (.networkNotInteger network.kind))

/-- How an operation goes: its calls, its fault if it fails, and the handle after it. -/
inductive Course (h : Handle) (method : Method) :
    List (Exchange NetworkStack) → Option Fault → Handle → Prop where
  | refused {fault : Fault} (hcause : h.Refused method fault) : Course h method [] (some fault) h
  | stopped {earlier : List (Exchange NetworkStack)} {last : Exchange NetworkStack}
      {errno : Errno} (hearlier : ∀ call ∈ earlier, errno? call = none)
      (hlast : errno? last = some errno) (hmost : earlier.length < method.mostCalls)
      (hphase : (method.afterStop h).phase =
        (earlier ++ [last]).foldl method.phaseAfter h.phase) :
      Course h method (earlier ++ [last]) (some (.system errno)) (method.afterStop h)
  | carried {calls : List (Exchange NetworkStack)} {after : Handle}
      (hcalls : ∀ call ∈ calls, errno? call = none) (hmost : calls.length ≤ method.mostCalls)
      (hphase : after.phase = calls.foldl method.phaseAfter h.phase) :
      Course h method calls none after

theorem toNatClampNeg_pos_iff (size : Int64) : 0 < size.toNatClampNeg ↔ 0 < size := by
  have hnat : size.toNatClampNeg = size.toInt.toNat := rfl
  have hzero : (0 : Int64).toInt = 0 := rfl
  rw [Int64.lt_iff_toInt_lt, hnat, hzero]
  omega

theorem Method.one_le_mostCalls (method : Method) : 1 ≤ method.mostCalls := by
  cases method <;> simp [mostCalls]

namespace Course

variable {α : Type} {h after : Handle} {method : Method} {call : Exchange NetworkStack}
  {errno : Errno} {calls : List (Exchange NetworkStack)} {fault : Fault}

theorem length_le {outcome : Option Fault} (hcourse : Course h method calls outcome after) :
    calls.length ≤ method.mostCalls := by
  cases hcourse with
  | refused hcause => exact Nat.zero_le _
  | stopped hearlier hlast hmost hphase =>
      rw [List.length_append, List.length_singleton]
      exact hmost
  | carried hcalls hmost hphase => exact hmost

theorem none_failed (hcourse : Course h method calls none after) :
    ∀ call ∈ calls, errno? call = none := by
  cases hcourse with
  | carried hcalls hmost hphase => exact hcalls

theorem failed (hcourse : Course h method calls (some fault) after) :
    (calls = [] ∧ h.Refused method fault ∧ after = h) ∨
      ∃ earlier last errno, calls = earlier ++ [last] ∧
        (∀ call ∈ earlier, errno? call = none) ∧ errno? last = some errno ∧
        fault = .system errno ∧ after = method.afterStop h := by
  cases hcourse with
  | refused hcause => exact Or.inl ⟨rfl, hcause, rfl⟩
  | stopped hearlier hlast hmost hphase =>
      exact Or.inr ⟨_, _, _, rfl, hearlier, hlast, rfl, rfl⟩

theorem stoppedAtOnce
    (hcall : errno? call = some errno)
    (hphase : (method.afterStop h).phase = method.phaseAfter h.phase call) :
    Course h method [call] (some (.system errno)) (method.afterStop h) :=
  stopped (List.forall_mem_nil _) hcall method.one_le_mostCalls hphase

theorem carriedAtOnce
    (hcall : errno? call = none)
    (hphase : after.phase = method.phaseAfter h.phase call) :
    Course h method [call] none after :=
  carried (List.forall_mem_singleton.mpr hcall) method.one_le_mostCalls hphase

theorem whenOpen
    {operation : Int32 → Operation α}
    (hoperation : ∀ d, (operation d).Always fun calls done =>
      Course h method calls (failure? done.1) done.2) :
    (h.whenOpen operation).Always fun calls done =>
      Course h method calls (failure? done.1) done.2 := by
  cases hdescriptor : h.descriptor with
  | none =>
      rw [whenOpen_closed hdescriptor]
      exact refused (.closed method hdescriptor)
  | some d =>
      rw [whenOpen_open hdescriptor]
      exact hoperation d

end Course

theorem course_bind (h : Handle) (address : Value) :
    (h.bind address).Always fun calls done =>
      Course h (.bind address) calls (failure? done.1) done.2 := by
  apply Course.whenOpen
  intro d
  cases haddress : Endpoint.ofValue h.family address with
  | error fault => exact Course.refused (.bind haddress)
  | ok endpoint =>
      intro reply
      cases reply with
      | ok value => exact Course.carriedAtOnce rfl rfl
      | error errno => exact Course.stoppedAtOnce rfl rfl

theorem course_connect (h : Handle) (address : Value) :
    (h.connect address).Always fun calls done =>
      Course h (.connect address) calls (failure? done.1) done.2 := by
  apply Course.whenOpen
  intro d
  cases haddress : Endpoint.ofValue h.family address with
  | error fault => exact Course.refused (.connect haddress)
  | ok endpoint =>
      intro reply
      cases reply with
      | ok value => exact Course.carriedAtOnce rfl rfl
      | error errno => exact Course.stoppedAtOnce rfl rfl

theorem course_listen (h : Handle) (backlog : Option Int64) :
    (h.listen backlog).Always fun calls done =>
      Course h (.listen backlog) calls (failure? done.1) done.2 := by
  apply Course.whenOpen
  intro d reply
  cases reply with
  | ok value => exact Course.carriedAtOnce rfl rfl
  | error errno => exact Course.stoppedAtOnce rfl rfl

theorem course_accept (h : Handle) :
    h.accept.Always fun calls done => Course h .accept calls (failure? done.1) done.2 := by
  apply Course.whenOpen
  intro d reply
  cases reply with
  | ok accepted => exact Course.carriedAtOnce rfl rfl
  | error errno => exact Course.stoppedAtOnce rfl rfl

theorem course_send (h : Handle) (data : Value) :
    (h.send data).Always fun calls done =>
      Course h (.send data) calls (failure? done.1) done.2 := by
  unfold Handle.send
  cases hdata : data.buffer with
  | error fault => exact Course.refused (.send hdata)
  | ok bytes =>
      apply Course.whenOpen
      intro d reply
      cases reply with
      | ok count => exact Course.carriedAtOnce rfl rfl
      | error errno => exact Course.stoppedAtOnce rfl rfl

theorem course_receive (h : Handle) (size : Int64) :
    (h.receive size).Always fun calls done =>
      Course h (.receive size) calls (failure? done.1) done.2 := by
  apply Course.whenOpen
  intro d
  by_cases hnegative : size < 0
  · rw [if_pos hnegative]
    exact Course.refused (.negative hnegative)
  rw [if_neg hnegative]
  by_cases hlarge : unallocatable ≤ size.toNatClampNeg
  · simp only [hlarge, if_true]
    exact Course.refused (.tooLarge hlarge)
  simp only [hlarge, if_false]
  rintro ⟨stored, outcome⟩
  cases outcome with
  | error errno => exact Course.stoppedAtOnce rfl rfl
  | ok count =>
      cases count with
      | zero =>
          apply Course.carriedAtOnce rfl
          simp only [Method.phaseAfter, ← toNatClampNeg_pos_iff]
          split <;> rfl
      | succ count => exact Course.carriedAtOnce rfl rfl

theorem course_setBlocking (h : Handle) (flag : Value) :
    (h.setBlocking flag).Always fun calls done =>
      Course h (.setBlocking flag) calls (failure? done.1) done.2 := by
  apply Course.whenOpen
  intro d reply
  cases reply with
  | error errno => exact Course.stoppedAtOnce rfl rfl
  | ok flags =>
      intro reply
      cases reply with
      | ok value =>
          have hcalls : ∀ call ∈ ([⟨.flags d, .ok flags⟩,
              ⟨.setFlags d (withBlocking flag.isTrue flags), .ok value⟩] :
                List (Exchange NetworkStack)), errno? call = none := by
            simp [errno?, failure?]
          exact Course.carried hcalls (Nat.le_refl 2) rfl
      | error errno =>
          have hearlier : ∀ call ∈ ([⟨.flags d, .ok flags⟩] : List (Exchange NetworkStack)),
              errno? call = none := List.forall_mem_singleton.mpr rfl
          exact Course.stopped hearlier rfl (Nat.lt_succ_self 1) rfl

theorem course_localAddress (h : Handle) :
    h.localAddress.Always fun calls done =>
      Course h .localAddress calls (failure? done.1) done.2 := by
  apply Course.whenOpen
  intro d reply
  cases reply with
  | ok endpoint => exact Course.carriedAtOnce rfl rfl
  | error errno => exact Course.stoppedAtOnce rfl rfl

theorem course_close (h : Handle) :
    h.close.Always fun calls done => Course h .close calls (failure? done.1) done.2 := by
  unfold Handle.close Handle.transfer Stream.close
  apply Always.bind
  change h.giveBack.Always _
  unfold giveBack
  cases hdescriptor : h.descriptor with
  | none => exact Course.carried (List.forall_mem_nil _) (Nat.zero_le _) rfl
  | some d =>
      intro reply
      cases reply with
      | ok value => exact Course.carriedAtOnce rfl rfl
      | error errno => exact Course.stoppedAtOnce rfl rfl

theorem course_joinNetwork (h : Handle) (network : Value) :
    (h.joinNetwork network).Always fun calls done =>
      Course h (.joinNetwork network) calls (failure? done.1) done.2 := by
  apply Course.whenOpen
  intro d
  cases network with
  | int number =>
      intro reply
      cases reply with
      | ok value => exact Course.carriedAtOnce rfl rfl
      | error errno => exact Course.stoppedAtOnce rfl rfl
  | _ => exact Course.refused (.network nofun)

theorem Method.course
    {method : Method} (hatomic : method.Atomic) (patience : Nat) (h : Handle) :
    (method.perform patience h).Always fun calls used =>
      Course h method calls used.1.fault? used.2 := by
  cases method with
  | bind address => exact (always_map_iff _ _).mpr (course_bind h address)
  | connect address => exact (always_map_iff _ _).mpr (course_connect h address)
  | listen backlog => exact (always_map_iff _ _).mpr (course_listen h backlog)
  | accept => exact (always_map_iff _ _).mpr (course_accept h)
  | send data => exact (always_map_iff _ _).mpr (course_send h data)
  | receive size => exact (always_map_iff _ _).mpr (course_receive h size)
  | setBlocking flag => exact (always_map_iff _ _).mpr (course_setBlocking h flag)
  | localAddress => exact (always_map_iff _ _).mpr (course_localAddress h)
  | close => exact (always_map_iff _ _).mpr (course_close h)
  | joinNetwork network => exact (always_map_iff _ _).mpr (course_joinNetwork h network)
  | setOption level option value => exact hatomic.elim
  | makeFile => exact hatomic.elim
  | secure tag verification hostName => exact hatomic.elim
  | stream method => exact hatomic.elim

theorem Answer.made?_of_fault?
    {answer : Answer} {fault : Fault} (hfault : answer.fault? = some fault) :
    answer.made? = none := by
  unfold made?
  split
  · simp [fault?, failure?] at hfault
  · rfl

section

variable {σ : Type} (respond : Responder NetworkStack σ) (state : σ)

/-- An operation that fails has done nothing but call the stack.  Either it was refused before any
call, for a cause that `Refused` lists, and its handle is as before; or its last call is the one
that failed, the fault is the error number of that call, and its handle is as before but for a
connect, which leaves it new.  No handle is made, and in a session no other object changes.  An
operation that succeeds had no call that failed, so none is made again; it makes one call at most,
or two to change the blocking mode. -/
theorem failure_atomic
    {method : Method} (hatomic : method.Atomic) (h : Handle) (patience : Nat) :
    let used := (method.perform patience h).run respond state
    used.exchanges.length ≤ method.mostCalls ∧
    (used.value.1.fault? = none → ∀ call ∈ used.exchanges, errno? call = none) ∧
    (∀ fault, used.value.1.fault? = some fault →
      ((used.exchanges = [] ∧ h.Refused method fault ∧ used.value.2 = h) ∨
        ∃ earlier last errno, used.exchanges = earlier ++ [last] ∧
          (∀ call ∈ earlier, errno? call = none) ∧ errno? last = some errno ∧
          fault = .system errno ∧ used.value.2 = method.afterStop h) ∧
      used.value.1.made? = none ∧
      ∀ (s : Module.Session) (place : Nat), s.handle? place = some h →
        ((s.perform patience (.use place method)).run respond state).value.2 =
          { s with handles := s.handles.set place (some used.value.2) }) := by
  intro used
  have hcourse : Course h method used.exchanges used.value.1.fault? used.value.2 :=
    (method.course hatomic patience h).run respond state
  refine ⟨hcourse.length_le, ?_, ?_⟩
  · intro hsuccess
    rw [hsuccess] at hcourse
    exact hcourse.none_failed
  · intro fault hfault
    rw [hfault] at hcourse
    have hmade := Answer.made?_of_fault? hfault
    refine ⟨hcourse.failed, hmade, ?_⟩
    intro s place hhandle
    simp only [Module.Session.perform, hhandle, run_map, Module.Session.afterUse]
    change ({ s with handles := s.handles.set place (some used.value.2) } : Module.Session).add
      used.value.1.made? = _
    rw [hmade]
    rfl

end

section

open Scripted

/-- A stack that refuses connections, and reads flags but does not write them. -/
def refusingScript : StackScript := { connects := [.error ⟨111⟩], setFlags := [.error ⟨5⟩] }

def hungUp : Handle := ⟨some 7, .ipv4, .peerClosed, {}⟩

def hungUpTwice : Module.Session := ⟨{}, {}, [some hungUp, some hungUp], []⟩

def webAddress : Value := .tuple [.str "192.0.2.1", .int 80]

/-- A refused connect leaves one of two handles new; flags that cannot be written leave it as it
was, after two calls; and without a descriptor connecting is not tried. -/
theorem failure_atomic_refusing :
    ((Method.connect webAddress).Atomic ∧ hungUpTwice.handle? 1 = some hungUp ∧
      ((hungUpTwice.perform 0 (.use 1 (.connect webAddress))).run StackScript.respond
        refusingScript).value.2.handles = [some hungUp, some { hungUp with phase := .new }]) ∧
    ((Method.setBlocking .none).Atomic ∧
      (((Method.setBlocking .none).perform 0 hungUp).run StackScript.respond
        refusingScript).exchanges.map errno? = [none, some ⟨5⟩] ∧
      (((Method.setBlocking .none).perform 0 hungUp).run StackScript.respond
        refusingScript).value.2 = hungUp) ∧
    Refused { hungUp with descriptor := none } (.connect webAddress) .closed := by
  have hconnect : (Method.connect webAddress).Atomic := trivial
  have hblocking : (Method.setBlocking .none).Atomic := trivial
  refine ⟨⟨hconnect, rfl, ?_⟩, ⟨hblocking, rfl, ?_⟩, ?_⟩
  · obtain ⟨-, -, hfails⟩ := failure_atomic StackScript.respond refusingScript hconnect hungUp 0
    obtain ⟨-, -, hsession⟩ := hfails (.system ⟨111⟩) rfl
    rw [hsession hungUpTwice 1 rfl]
    rfl
  · obtain ⟨-, -, hfails⟩ := failure_atomic StackScript.respond refusingScript hblocking hungUp 0
    obtain ⟨hstopped, -, -⟩ := hfails (.system ⟨5⟩) rfl
    rcases hstopped with ⟨-, -, hkept⟩ | ⟨-, -, -, -, -, -, -, hkept⟩
    · exact hkept
    · exact hkept
  · obtain ⟨-, -, hfails⟩ := failure_atomic StackScript.respond refusingScript hconnect
      { hungUp with descriptor := none } 0
    obtain ⟨hrefused, -, -⟩ := hfails .closed rfl
    rcases hrefused with ⟨-, hcause, -⟩ | ⟨earlier, last, -, hcalls, -⟩
    · exact hcause
    · have hnone : [] = earlier ++ [last] := hcalls
      simp at hnone

end

end Handle

end ScriptSocket
