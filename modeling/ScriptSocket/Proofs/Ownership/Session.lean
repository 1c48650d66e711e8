import ScriptSocket.Module.Session
import ScriptSocket.Proofs.Ownership.Handle
import ScriptSocket.Scripted.Stack

/-!
# Every descriptor has one owner

The objects of a session are the holders of the descriptors that the stack hands out.  What one
action does to the ledger is a `Turn`; each turn keeps custody, and so does a session as a whole,
for as long as the stack hands out fresh descriptors.
-/

namespace ScriptSocket.Module

open Network

def Action.place? : Action → Option Nat
  | .socket _ | .create _ _ _ => none
  | .drop place | .use place _ => some place

namespace Session

/-- The descriptor of the object at a place, if there is an object and it is open. -/
def held (s : Session) (place : Nat) : Option Int32 := (s.handle? place).bind Handle.descriptor

variable {s after : Session} {place : Nat} {h : Handle}

/-! ## The holders of a session -/

theorem handle?_lt (hhandle : s.handle? place = some h) : place < s.handles.length := by
  unfold handle? at hhandle
  by_contra hbeyond
  rw [List.getElem?_eq_none (Nat.le_of_not_lt hbeyond)] at hhandle
  cases hhandle

theorem held_beyond (hbeyond : s.handles.length ≤ place) : s.held place = none := by
  simp [held, handle?, List.getElem?_eq_none hbeyond]

theorem held_of_handle? (hhandle : s.handle? place = some h) :
    s.held place = h.descriptor := by
  simp [held, hhandle]

theorem held_set (hplace : place < s.handles.length) (object : Option Handle) :
    { s with handles := s.handles.set place object }.held =
      Function.update s.held place (object.bind Handle.descriptor) := by
  funext other
  by_cases hother : other = place
  · subst hother
    simp [held, handle?, hplace]
  · simp [held, handle?, Function.update_of_ne hother, List.getElem?_set_ne (Ne.symm hother)]

theorem held_set_none
    {other : Nat} (hclosed : s.held place = none) (hother : other < s.handles.length) :
    { s with handles := s.handles.set other none }.held place = none := by
  rw [held_set hother]
  by_cases heq : place = other
  · rw [heq, Function.update_self]
    rfl
  · rw [Function.update_of_ne heq]
    exact hclosed

theorem held_add (s : Session) (h : Handle) :
    (s.add (some h)).held = Function.update s.held s.handles.length h.descriptor := by
  funext other
  by_cases hother : other = s.handles.length
  · subst hother
    simp [held, handle?, add]
  · rw [Function.update_of_ne hother]
    by_cases hold : other < s.handles.length
    · simp [held, handle?, add, List.getElem?_append_left hold]
    · have hbeyond : (s.add (some h)).handles.length ≤ other := by
        simp only [add, List.length_append, List.length_singleton]
        omega
      rw [held_beyond hbeyond, held_beyond (Nat.le_of_not_lt hold)]

theorem handle?_add_of_lt (hplace : place < s.handles.length) (made : Option Handle) :
    (s.add made).handle? place = s.handle? place := by
  cases made with
  | none => rfl
  | some h => simp [handle?, add, List.getElem?_append_left hplace]

theorem handle?_afterUse (hplace : place < s.handles.length) (answer : Handle.Answer) :
    (s.afterUse place answer h).2.handle? place = some h := by
  unfold afterUse
  rw [handle?_add_of_lt (by simpa using hplace)]
  simp [handle?, hplace]

theorem held_afterUse_of_lt
    {other : Nat} (hplace : place < s.handles.length) (hother : other < s.handles.length)
    (answer : Handle.Answer) :
    (s.afterUse place answer h).2.held other =
      Function.update s.held place h.descriptor other := by
  have hset := congrFun (held_set hplace (some h)) other
  unfold afterUse held
  rw [handle?_add_of_lt (by simpa using hother)]
  exact hset

/-! ## One action -/

/-- What an action does: its calls, its notices and the session after it. -/
inductive Turn (s : Session) :
    Action → List (Exchange NetworkStack) → List Notice → Session → Prop where
  /-- The place is empty, or arguments were refused. -/
  | idle {action : Action} (notices : List Notice)
      (hempty : ∀ place, action.place? = some place → s.handle? place = none) :
      Turn s action [] notices s
  | refused {action : Action} (notices : List Notice) (hplace : action.place? = none)
      (family : Family) (kind : SocketKind) (protocol : Protocol) (errno : Errno) :
      Turn s action [⟨.socket family kind protocol, .error errno⟩] notices s
  | made {action : Action} (notices : List Notice) (hplace : action.place? = none)
      (family : Family) (kind : SocketKind) (protocol : Protocol) (d : Int32) (h : Handle)
      (hown : h.descriptor = Handle.owned d) :
      Turn s action [⟨.socket family kind protocol, .ok d⟩] notices (s.add (some h))
  | used {place : Nat} {h after : Handle} {calls : List (Exchange NetworkStack)}
      {answer : Handle.Answer} (method : Handle.Method) (notices : List Notice)
      (hhandle : s.handle? place = some h) (hconduct : h.Conduct calls answer after) :
      Turn s (.use place method) calls notices (s.afterUse place answer after).2
  | dropped {place : Nat} {h : Handle} {calls : List (Exchange NetworkStack)}
      (notices : List Notice) (hhandle : s.handle? place = some h)
      (htenure : Tenure h.descriptor calls none) :
      Turn s (.drop place) calls notices { s with handles := s.handles.set place none }
  | lost {place : Nat} {h : Handle} {d : Int32} (hhandle : s.handle? place = some h)
      (hown : h.descriptor = some d) (errno : Errno) :
      Turn s (.drop place) [⟨.close d, .error errno⟩] [.abandonedCloseFailed d errno]
        { s with handles := s.handles.set place none }

section

variable {σ : Type} (respond : Responder NetworkStack σ) (state : σ)

theorem turn_create
    (s : Session) {action : Action} (hplace : action.place? = none) (family : Family)
    (kind : SocketKind) (protocol : Option Protocol) :
    Turn s action
      (((Handle.create family kind protocol s.sockets).map s.addMade).run respond
        state).exchanges
      (((Handle.create family kind protocol s.sockets).map s.addMade).run respond state).notices
      (((Handle.create family kind protocol s.sockets).map s.addMade).run respond
        state).value.2 := by
  simp only [Handle.create, Dialogue.map_ask, Dialogue.run]
  cases (respond (.socket family kind (protocol.getD (Protocol.auto kind))) state).1 with
  | error errno => exact Turn.refused _ hplace family kind _ errno
  | ok d => exact Turn.made _ hplace family kind _ d _ rfl

theorem turn_drop (hhandle : s.handle? place = some h) :
    Turn s (.drop place) (h.abandon.run respond state).exchanges
      (h.abandon.run respond state).notices
      { s with handles := s.handles.set place none } := by
  unfold Handle.abandon
  cases hown : h.descriptor with
  | none =>
      apply Turn.dropped _ hhandle
      rw [hown]
      exact Tenure.nil none
  | some d =>
      simp only [Dialogue.run]
      cases (respond (.close d) state).1 with
      | ok value =>
          apply Turn.dropped _ hhandle
          rw [hown]
          exact Tenure.close rfl (Tenure.nil none)
      | error errno => exact Turn.lost hhandle hown errno

theorem turn_perform (s : Session) (patience : Nat) (action : Action) :
    Turn s action ((s.perform patience action).run respond state).exchanges
      ((s.perform patience action).run respond state).notices
      ((s.perform patience action).run respond state).value.2 := by
  cases action with
  | socket arguments =>
      simp only [perform, Module.socket]
      split
      · apply Turn.idle
        intro place hplace
        cases hplace
      · exact turn_create respond state s rfl _ _ _
  | create family kind protocol => exact turn_create respond state s rfl family kind protocol
  | drop place =>
      simp only [perform]
      cases hhandle : s.handle? place with
      | none =>
          apply Turn.idle
          intro other hother
          cases hother
          exact hhandle
      | some h =>
          simp only [Dialogue.run_map]
          exact turn_drop respond state hhandle
  | use place method =>
      simp only [perform]
      cases hhandle : s.handle? place with
      | none =>
          apply Turn.idle
          intro other hother
          cases hother
          exact hhandle
      | some h =>
          simp only [Dialogue.run_map]
          exact Turn.used method _ hhandle (method.conduct respond state patience h)

end

namespace Turn

variable {action : Action} {calls past : List (Exchange NetworkStack)}
  {notices log : List Notice}

/-- An action that is about an object makes calls only with what that object holds; the others
make no call but for a socket. -/
theorem names
    (hturn : Turn s action calls notices after) (call : Exchange NetworkStack)
    (hcall : call ∈ calls) :
    match action.place? with
    | none => ∃ family kind protocol, call.request = .socket family kind protocol
    | some place => ∃ d, call.request.descriptor? = some d ∧ s.held place = some d := by
  cases hturn with
  | idle notices hempty => cases hcall
  | refused notices hplace family kind protocol errno =>
      rw [List.mem_singleton] at hcall
      rw [hplace, hcall]
      exact ⟨family, kind, protocol, rfl⟩
  | made notices hplace family kind protocol d h hown =>
      rw [List.mem_singleton] at hcall
      rw [hplace, hcall]
      exact ⟨family, kind, protocol, rfl⟩
  | used method notices hhandle hconduct =>
      obtain ⟨d, hown, hnames⟩ := hconduct.names call hcall
      exact ⟨d, hnames, (held_of_handle? hhandle).trans hown⟩
  | dropped notices hhandle htenure =>
      obtain ⟨d, hown, hnames⟩ := htenure.names call hcall
      exact ⟨d, hnames, (held_of_handle? hhandle).trans hown⟩
  | lost hhandle hown errno =>
      rw [List.mem_singleton] at hcall
      rw [hcall]
      exact ⟨_, rfl, (held_of_handle? hhandle).trans hown⟩

theorem custody_used
    {h left : Handle} {answer : Handle.Answer}
    (hhandle : s.handle? place = some h) (hconduct : h.Conduct calls answer left)
    (hcustody : Custody past log s.held) (hfresh : HandsOutFresh (past ++ calls)) :
    Custody (past ++ calls) log (s.afterUse place answer left).2.held := by
  have hplace := handle?_lt hhandle
  have hheld := held_of_handle? hhandle
  cases hconduct with
  | kept htenure hmade =>
      simp only [afterUse, hmade, add, held_set hplace]
      exact htenure.custody hcustody hheld
  | @accepted d client peer answer made hown hmade hclient =>
      obtain ⟨hnatural, hnew⟩ := hfresh.last rfl
      rw [Handle.owned_of_nonneg hnatural] at hclient
      simp only [afterUse, hmade, held_add, held_set hplace, hclient, Option.bind_some,
        List.length_set]
      rw [← hheld, Function.update_eq_self]
      apply hcustody.afterHandOut _ (held_beyond (Nat.le_refl _)) rfl hnew
      intro e he
      exact ⟨place, hheld.trans (hown.trans he)⟩

theorem custody
    (hturn : Turn s action calls notices after) (hcustody : Custody past log s.held)
    (hfresh : HandsOutFresh (past ++ calls)) :
    Custody (past ++ calls) (log ++ notices) after.held := by
  cases hturn with
  | idle notices hempty =>
      rw [List.append_nil]
      exact hcustody.notices_append notices
  | refused notices hplace family kind protocol errno =>
      apply (hcustody.notices_append notices).afterCall _ rfl rfl
      intro d hnames
      cases hnames
  | made notices hplace family kind protocol d h hown =>
      obtain ⟨hnatural, hnew⟩ := hfresh.last rfl
      rw [held_add, hown, Handle.owned_of_nonneg hnatural]
      apply (hcustody.notices_append notices).afterHandOut _ (held_beyond (Nat.le_refl _)) rfl
        hnew
      intro e hnames
      cases hnames
  | used method notices hhandle hconduct =>
      exact custody_used hhandle hconduct (hcustody.notices_append notices) hfresh
  | dropped notices hhandle htenure =>
      rw [held_set (handle?_lt hhandle)]
      exact htenure.custody (hcustody.notices_append notices) (held_of_handle? hhandle)
  | lost hhandle hown errno =>
      rw [held_set (handle?_lt hhandle)]
      exact hcustody.afterLoss ((held_of_handle? hhandle).trans hown) errno

/-- Where an object is closed or gone, it stays so and makes no call. -/
theorem stays_closed
    (hturn : Turn s action calls notices after) (hplace : place < s.handles.length)
    (hclosed : s.held place = none) :
    place < after.handles.length ∧ after.held place = none ∧
      (action.place? = some place → calls = []) := by
  have hsilent : action.place? = some place → calls = [] := by
    intro haction
    rw [List.eq_nil_iff_forall_not_mem]
    intro call hcall
    have hnames := hturn.names call hcall
    rw [haction] at hnames
    obtain ⟨d, -, hheld⟩ := hnames
    rw [hclosed] at hheld
    cases hheld
  cases hturn with
  | idle notices hempty => exact ⟨hplace, hclosed, hsilent⟩
  | refused notices hnone family kind protocol errno => exact ⟨hplace, hclosed, hsilent⟩
  | made notices hnone family kind protocol d h hown =>
      refine ⟨?_, ?_, hsilent⟩
      · simp only [add, List.length_append, List.length_singleton]
        omega
      · rw [held, handle?_add_of_lt hplace]
        exact hclosed
  | @used other h left calls answer method notices hhandle hconduct =>
      refine ⟨?_, ?_, hsilent⟩
      · simp only [afterUse]
        cases answer.made? <;> simp [add] <;> omega
      · rw [held_afterUse_of_lt (handle?_lt hhandle) hplace]
        by_cases hother : place = other
        · subst hother
          rw [held_of_handle? hhandle] at hclosed
          rw [Function.update_self]
          exact hconduct.left_of_none hclosed
        · rw [Function.update_of_ne hother]
          exact hclosed
  | @dropped other h calls notices hhandle htenure =>
      exact ⟨by simpa using hplace, held_set_none hclosed (handle?_lt hhandle), hsilent⟩
  | @lost other h d hhandle hown errno =>
      exact ⟨by simpa using hplace, held_set_none hclosed (handle?_lt hhandle), hsilent⟩

end Turn

/-! ## Whole runs -/

section

variable {σ : Type} (respond : Responder NetworkStack σ) (state : σ) (patience : Nat)

/-- A session in which some actions were done one after the other. -/
def history (s : Session) (actions : List Action) :
    Dialogue.Run NetworkStack σ (List Report × Session) :=
  (s.performAll patience actions).run respond state

def turnAfter (s : Session) (actions : List Action) (action : Action) :
    Dialogue.Run NetworkStack σ (Report × Session) :=
  ((s.history respond state patience actions).value.2.perform patience action).run respond
    (s.history respond state patience actions).state

theorem performAll_append (s : Session) (before later : List Action) :
    s.performAll patience (before ++ later) =
      (s.performAll patience before).bind fun done =>
        (done.2.performAll patience later).map fun rest => (done.1 ++ rest.1, rest.2) := by
  induction before generalizing s with
  | nil =>
      simp only [List.nil_append, performAll, Dialogue.bind_done, Dialogue.map_eq_bind]
      exact (Dialogue.bind_done_right _).symm
  | cons action before ih =>
      simp only [List.cons_append, performAll, ih, Dialogue.map_eq_bind, Dialogue.bind_assoc,
        Dialogue.bind_done]

theorem history_concat (s : Session) (actions : List Action) (action : Action) :
    (s.history respond state patience (actions ++ [action])).exchanges =
        (s.history respond state patience actions).exchanges ++
          (s.turnAfter respond state patience actions action).exchanges ∧
      (s.history respond state patience (actions ++ [action])).notices =
        (s.history respond state patience actions).notices ++
          (s.turnAfter respond state patience actions action).notices ∧
      (s.history respond state patience (actions ++ [action])).value.2 =
        (s.turnAfter respond state patience actions action).value.2 := by
  simp [history, turnAfter, performAll_append, performAll, Dialogue.run_bind, Dialogue.run_map,
    Dialogue.Run.andThen, Dialogue.run]

theorem history_append (s : Session) (before later : List Action) :
    ∃ more, (s.history respond state patience (before ++ later)).exchanges =
      (s.history respond state patience before).exchanges ++ more := by
  rw [history, performAll_append, Dialogue.run_bind]
  exact ⟨_, rfl⟩

theorem turn_turnAfter (s : Session) (actions : List Action) (action : Action) :
    Turn (s.history respond state patience actions).value.2 action
      (s.turnAfter respond state patience actions action).exchanges
      (s.turnAfter respond state patience actions action).notices
      (s.turnAfter respond state patience actions action).value.2 :=
  turn_perform respond _ _ patience action

theorem custody_history
    (sockets : SocketConfig) (resolver : ResolverConfig) {actions : List Action}
    (hfresh : HandsOutFresh
      ((start sockets resolver).history respond state patience actions).exchanges) :
    Custody ((start sockets resolver).history respond state patience actions).exchanges
      ((start sockets resolver).history respond state patience actions).notices
      ((start sockets resolver).history respond state patience actions).value.2.held := by
  induction actions using List.reverseRecOn with
  | nil => exact custody_nil
  | append_singleton actions action ih =>
      obtain ⟨hcalls, hnotices, hsession⟩ :=
        history_concat respond state patience (start sockets resolver) actions action
      rw [hcalls] at hfresh
      rw [hcalls, hnotices, hsession]
      exact (turn_turnAfter respond state patience _ actions action).custody
        (ih hfresh.of_append) hfresh

/-- A closed object stays closed over any number of actions and none of them makes a call for
it. -/
theorem history_stays_closed
    {s : Session} {before : List Action} {place : Nat}
    (hplace : place < (s.history respond state patience before).value.2.handles.length)
    (hclosed : (s.history respond state patience before).value.2.held place = none)
    (later : List Action) :
    place < (s.history respond state patience (before ++ later)).value.2.handles.length ∧
      (s.history respond state patience (before ++ later)).value.2.held place = none := by
  induction later using List.reverseRecOn with
  | nil =>
      rw [List.append_nil]
      exact ⟨hplace, hclosed⟩
  | append_singleton later action ih =>
      obtain ⟨-, -, hsession⟩ := history_concat respond state patience s (before ++ later) action
      rw [← List.append_assoc, hsession]
      obtain ⟨hlength, hheld, -⟩ :=
        (turn_turnAfter respond state patience s (before ++ later) action).stays_closed ih.1 ih.2
      exact ⟨hlength, hheld⟩

theorem turnAfter_use
    {s : Session} {actions : List Action} {place : Nat} {h : Handle} (method : Handle.Method)
    (hhandle : (s.history respond state patience actions).value.2.handle? place = some h) :
    ∃ answer left,
      (s.turnAfter respond state patience actions (.use place method)).value.1 =
        .used answer left ∧
      (s.turnAfter respond state patience actions (.use place method)).value.2.handle? place =
        some left ∧
      h.Conduct (s.turnAfter respond state patience actions (.use place method)).exchanges
        answer left ∧
      (method.Closes → (answer.Closed ↔ left.descriptor = none)) := by
  unfold turnAfter
  simp only [perform, hhandle, Dialogue.run_map]
  refine ⟨_, _, rfl, handle?_afterUse (handle?_lt hhandle) _, ?_, ?_⟩
  · exact method.conduct respond _ patience h
  · exact method.closed_iff respond _ patience h

/-- Over a stack that hands out fresh descriptors, and that may otherwise fail any call:

- no two open objects have the same descriptor;
- every call but the one that makes a socket names the descriptor of the object it is made for,
  which is open at that moment;
- a successful close is the last call of an object, which stays closed for good, and as long as no
  close succeeds the object keeps its descriptor;
- once all objects are dropped, every descriptor was closed exactly once each time it was handed
  out, unless the close at the drop failed: that one is logged, and the descriptor is neither handed
  out nor named again. -/
theorem descriptors_owned
    (sockets : SocketConfig) (resolver : ResolverConfig) (actions : List Action) :
    let past := (start sockets resolver).history respond state patience
    let turn := (start sockets resolver).turnAfter respond state patience
    HandsOutFresh (past actions).exchanges →
    (∀ before later, actions = before ++ later →
      ∀ p q d, (past before).value.2.held p = some d → (past before).value.2.held q = some d →
        p = q) ∧
    (∀ before action later, actions = before ++ action :: later →
      ∀ first call rest, (turn before action).exchanges = first ++ call :: rest →
        match action.place? with
        | none => ∃ family kind protocol, call.request = .socket family kind protocol
        | some place => ∃ d, call.request.descriptor? = some d ∧
          (past before).value.2.held place = some d ∧
          Open d ((past before).exchanges ++ first)) ∧
    (∀ before place method later, actions = before ++ .use place method :: later →
      ∀ h, (past before).value.2.handle? place = some h →
        ∃ answer left,
          (turn before (.use place method)).value.1 = .used answer left ∧
          (turn before (.use place method)).value.2.handle? place = some left ∧
          (method.Closes → (answer.Closed ↔ left.descriptor = none)) ∧
          ((∀ call ∈ (turn before (.use place method)).exchanges, givenBack? call = none) →
            left.descriptor = h.descriptor) ∧
          ∀ first call rest d,
            (turn before (.use place method)).exchanges = first ++ call :: rest →
            givenBack? call = some d → rest = [] ∧ left.descriptor = none) ∧
    (∀ before later, actions = before ++ later →
      ∀ place, place < (past before).value.2.handles.length →
        (past before).value.2.held place = none →
        (past actions).value.2.held place = none ∧
          ∀ first action rest, later = first ++ action :: rest → action.place? = some place →
            (turn (before ++ first) action).exchanges = []) ∧
    ((∀ place, (past actions).value.2.handle? place = none) →
      ∀ before call later d, (past actions).exchanges = before ++ call :: later →
        handedOut? call = some d →
        closings d (term d later) = 1 ∨
          (closings d later = 0 ∧ (∀ other ∈ later, handedOut? other ≠ some d) ∧
            Leaked d later (past actions).notices)) := by
  intro past turn hfresh
  have hprevious : ∀ before later, actions = before ++ later →
      HandsOutFresh (past before).exchanges := by
    intro before later hactions
    obtain ⟨more, hmore⟩ :=
      history_append respond state patience (start sockets resolver) before later
    rw [hactions] at hfresh
    apply HandsOutFresh.of_append
    rw [← hmore]
    exact hfresh
  refine ⟨?_, ?_, ?_, ?_, ?_⟩
  · intro before later hactions p q d hp hq
    exact (custody_history respond state patience sockets resolver
      (hprevious before later hactions)).distinct p q d hp hq
  · intro before action later hactions first call rest hcalls
    have hturn := turn_turnAfter respond state patience (start sockets resolver) before action
    have hmem : call ∈ (turn before action).exchanges := by
      rw [hcalls]
      simp
    have hnames := hturn.names call hmem
    cases hplace : action.place? with
    | none =>
        rw [hplace] at hnames
        exact hnames
    | some place =>
        rw [hplace] at hnames
        obtain ⟨d, hnamed, hheld⟩ := hnames
        refine ⟨d, hnamed, hheld, ?_⟩
        have hactions : actions = (before ++ [action]) ++ later := by simp [hactions]
        have hcustody := custody_history respond state patience sockets resolver
          (hprevious _ later hactions)
        obtain ⟨hexchanges, -, -⟩ :=
          history_concat respond state patience (start sockets resolver) before action
        apply hcustody.named _ call rest d _ hnamed
        rw [hexchanges, hcalls, List.append_assoc]
  · intro before place method later hactions h hhandle
    obtain ⟨answer, left, hreport, hleft, hconduct, hcloses⟩ :=
      turnAfter_use respond state patience method hhandle
    refine ⟨answer, left, hreport, hleft, hcloses, hconduct.left_of_not_closed, ?_⟩
    intro first call rest d hcalls hback
    exact hconduct.left_of_closed hcalls hback
  · intro before later hactions place hplace hclosed
    constructor
    · rw [hactions]
      exact (history_stays_closed respond state patience hplace hclosed later).2
    · intro first action rest hlater haction
      obtain ⟨hplace, hclosed⟩ :=
        history_stays_closed respond state patience hplace hclosed first
      exact ((turn_turnAfter respond state patience _ _ action).stays_closed hplace
        hclosed).2.2 haction
  · intro hdropped before call later d hcalls hout
    have hcustody := custody_history respond state patience sockets resolver hfresh
    apply hcustody.closed_once hfresh _ hcalls hout
    intro place
    change ((past actions).value.2.handle? place).bind Handle.descriptor = none
    rw [hdropped place]
    rfl

end

section

open Scripted

/-- The stack hands the same descriptor out twice and fails two closes: one that is tried again and
one at a drop. -/
def reusingScript : StackScript :=
  { sockets := [.ok 3, .ok 3]
    accepts := [.ok (4, none)]
    closes := [.error .again, .ok (), .ok (), .error .again] }

def reusingActions : List Action :=
  [.socket [], .use 0 .close, .use 0 (.stream .close), .use 0 .accept, .socket [], .use 1 .accept,
    .use 1 (.stream (.bareControl .close 0)), .drop 0, .drop 1, .drop 2]

theorem descriptors_owned_reused :
    HandsOutFresh
      ((start {} {}).history StackScript.respond reusingScript 1 reusingActions).exchanges ∧
    (∀ place, ((start {} {}).history StackScript.respond reusingScript 1
      reusingActions).value.2.handle? place = none) ∧
    ∀ before call later d,
      ((start {} {}).history StackScript.respond reusingScript 1 reusingActions).exchanges =
        before ++ call :: later →
      handedOut? call = some d →
      closings d (term d later) = 1 ∨ Leaked d later
        ((start {} {}).history StackScript.respond reusingScript 1 reusingActions).notices := by
  have hfresh : HandsOutFresh
      ((start {} {}).history StackScript.respond reusingScript 1 reusingActions).exchanges := by
    decide +kernel
  have hdropped : ∀ place, ((start {} {}).history StackScript.respond reusingScript 1
      reusingActions).value.2.handle? place = none := by
    have hhandles : ((start {} {}).history StackScript.respond reusingScript 1
        reusingActions).value.2.handles = [none, none, none] := by
      decide +kernel
    intro place
    rw [handle?, hhandles]
    rcases place with _ | _ | _ | place <;> rfl
  refine ⟨hfresh, hdropped, ?_⟩
  intro before call later d hcalls hout
  obtain ⟨-, -, -, -, hclosed⟩ :=
    descriptors_owned StackScript.respond reusingScript 1 {} {} reusingActions hfresh
  rcases hclosed hdropped before call later d hcalls hout with honce | ⟨-, -, hleaked⟩
  · exact Or.inl honce
  · exact Or.inr hleaked

end

end Session

end ScriptSocket.Module
