import ScriptSocket.Proofs.Handle.Course
import ScriptSocket.Proofs.Ownership.Session

/-!
# What the phase of a handle tells

The phase of an object is a record of its calls: a made object is new and an accepted one connected,
and from then on only the calls of connects and of receives for a positive size count, as
`Handle.Method.phaseAfter` says.  The actions of a session are written down as deeds, each with its
report and its calls, and the phase of every object is read off them.
-/

namespace ScriptSocket

namespace Handle

open Dialogue

variable {α : Type} {h : Handle} {method : Method}

/-! ## Methods that leave the phase alone -/

/-- Whatever the stack answers, the phase stays. -/
def Steady (h : Handle) (operation : Dialogue NetworkStack (α × Handle)) : Prop :=
  operation.Always fun _ done => done.2.phase = h.phase

theorem steady_applyOption
    (d : Int32) (option : SocketOption) {next : Operation Unit} (hnext : Steady h next) :
    Steady h (h.applyOption d option next) := by
  intro reply
  cases reply with
  | ok value => exact hnext
  | error errno => exact rfl

theorem steady_applyHostName
    (d : Int32) (hostName : Option Value) {next : Operation Unit} (hnext : Steady h next) :
    Steady h (h.applyHostName d hostName next) := by
  unfold applyHostName
  split
  · exact hnext
  · exact hnext
  · split
    · exact rfl
    · exact steady_applyOption d _ hnext

theorem steady_secure (h : Handle) (tag : Value) (verification hostName : Option Value) :
    Steady h (h.secure tag verification hostName) := by
  unfold secure whenOpen
  split
  · exact rfl
  split
  · exact rfl
  · exact rfl
  · apply steady_applyOption
    apply steady_applyOption
    exact steady_applyHostName _ _ rfl

theorem steady_giveBack (h : Handle) : Steady h h.giveBack := by
  unfold giveBack
  split
  · exact rfl
  · intro reply
    cases reply with
    | ok value => exact rfl
    | error errno => exact rfl

theorem steady_serve (request : Stream.Request) (h : Handle) : Steady h (serve request h) := by
  cases request with
  | read size =>
      simp only [serve]
      split
      · exact rfl
      · exact fun reply => rfl
  | write data =>
      simp only [serve]
      split
      · exact rfl
      · exact fun reply => rfl
  | control request argument =>
      cases request with
      | close => exact steady_giveBack h
      | flush => exact rfl
      | other code => exact rfl

/-- A transfer only sends, receives and closes, so a receive at the end of the stream goes
unrecorded. -/
theorem steady_transfer (transfer : Dialogue ByteStream α) (h : Handle) :
    Steady h (h.transfer transfer) := by
  unfold Handle.transfer
  induction transfer generalizing h with
  | done value => exact rfl
  | note notice next ih => exact ih h
  | ask request next ih =>
      apply Always.bind
      apply (steady_serve request h).imp
      intro calls served hserved
      apply (ih served.1 served.2).imp
      intro later done hdone
      exact hdone.trans hserved

theorem Method.steady (hmethod : ¬ method.Atomic) (patience : Nat) (h : Handle) :
    Steady h (method.perform patience h) := by
  cases method with
  | setOption level option value => exact rfl
  | makeFile => exact rfl
  | secure tag verification hostName =>
      exact (always_map_iff _ _).mpr (steady_secure h tag verification hostName)
  | stream method => exact (always_map_iff _ _).mpr (steady_transfer (method.perform patience) h)
  | _ => exact absurd trivial hmethod

theorem Method.phaseAfter_of_not_atomic
    (hmethod : ¬ method.Atomic) (phase : Phase) (call : Exchange NetworkStack) :
    method.phaseAfter phase call = phase := by
  cases method with
  | setOption level option value => rfl
  | makeFile => rfl
  | secure tag verification hostName => rfl
  | stream method => rfl
  | _ => exact absurd trivial hmethod

theorem Method.foldl_phaseAfter_of_not_atomic
    (hmethod : ¬ method.Atomic) (phase : Phase) (calls : List (Exchange NetworkStack)) :
    calls.foldl method.phaseAfter phase = phase := by
  induction calls with
  | nil => rfl
  | cons call calls ih => rw [List.foldl_cons, phaseAfter_of_not_atomic hmethod, ih]

/-! ## Every method by its calls -/

theorem Course.phase_eq
    {calls : List (Exchange NetworkStack)} {outcome : Option Fault} {after : Handle}
    (hcourse : Course h method calls outcome after) :
    after.phase = calls.foldl method.phaseAfter h.phase := by
  cases hcourse with
  | refused hcause => rfl
  | stopped hearlier hlast hmost hphase => exact hphase
  | carried hcalls hmost hphase => exact hphase

/-- What a method makes of the phase is what its calls make of it. -/
theorem Method.phase_of_calls (method : Method) (patience : Nat) (h : Handle) :
    (method.perform patience h).Always fun calls used =>
      used.2.phase = calls.foldl method.phaseAfter h.phase := by
  by_cases hatomic : method.Atomic
  · exact (method.course hatomic patience h).imp fun calls used hcourse => hcourse.phase_eq
  · apply (Method.steady hatomic patience h).imp
    intro calls used hsteady
    rw [hsteady, foldl_phaseAfter_of_not_atomic hatomic]

theorem Method.phaseAfter_ne_connecting
    (method : Method) {phase : Phase} (hphase : phase ≠ .connecting)
    (call : Exchange NetworkStack) : method.phaseAfter phase call ≠ .connecting := by
  unfold phaseAfter
  split
  · exact Phase.noConfusion
  · exact Phase.noConfusion
  · split
    · exact Phase.noConfusion
    · exact hphase
  · exact hphase

theorem Method.made_connected (method : Method) (patience : Nat) (h : Handle) :
    (method.perform patience h).Always fun _ used =>
      ∀ made, used.1.made? = some made → made.phase = .connected := by
  cases method with
  | accept =>
      apply (always_map_iff _ _).mpr
      unfold Handle.accept whenOpen
      split
      · intro made hmade
        cases hmade
      · intro reply
        cases reply with
        | error errno =>
            intro made hmade
            cases hmade
        | ok accepted =>
            intro made hmade
            cases hmade
            rfl
  | setOption level option value =>
      intro made hmade
      cases hmade
  | makeFile =>
      intro made hmade
      cases hmade
  | _ =>
      apply (always_map_iff _ _).mpr
      apply Always.of_forall
      intro calls done made hmade
      cases hmade

end Handle

namespace Module

open Dialogue

/-! ## Deeds -/

/-- An action of a session, with what it reported and the calls it made. -/
structure Deed where
  action : Action
  report : Report
  calls : List (Exchange NetworkStack)

/-- The phase in which an object begins, if one was made. -/
def Report.birth? : Report → Option Phase
  | .made result => result.toOption.map fun _ => .new
  | .used answer _ => answer.made?.map fun _ => .connected
  | .noHandle | .dropped => none

/-- One phase for each object that was made, in order. -/
def births (deeds : List Deed) : List Phase := deeds.filterMap fun deed => deed.report.birth?

/-- A call of an object, with the method that made it. -/
structure Use where
  method : Handle.Method
  call : Exchange NetworkStack

def Use.phaseAfter (phase : Phase) (use : Use) : Phase := use.method.phaseAfter phase use.call

def Action.uses (action : Action) (calls : List (Exchange NetworkStack)) (place : Nat) :
    List Use :=
  match action with
  | .use other method => if other = place then calls.map (Use.mk method) else []
  | .socket _ | .create _ _ _ | .drop _ => []

theorem Action.uses_nil (action : Action) (place : Nat) : action.uses [] place = [] := by
  cases action <;> simp [uses]

theorem Action.uses_of_place?
    {action : Action} (hplace : action.place? = none) (calls : List (Exchange NetworkStack))
    (place : Nat) : action.uses calls place = [] := by
  cases action with
  | socket arguments => rfl
  | create family kind protocol => rfl
  | drop other => cases hplace
  | use other method => cases hplace

/-- The calls of the object at a place. -/
def uses (deeds : List Deed) (place : Nat) : List Use :=
  deeds.flatMap fun deed => deed.action.uses deed.calls place

theorem births_concat (deeds : List Deed) (deed : Deed) :
    births (deeds ++ [deed]) = births deeds ++ deed.report.birth?.toList := by
  unfold births
  rw [List.filterMap_append]
  cases hbirth : deed.report.birth? <;> simp [hbirth]

theorem uses_concat (deeds : List Deed) (deed : Deed) (place : Nat) :
    uses (deeds ++ [deed]) place = uses deeds place ++ deed.action.uses deed.calls place := by
  simp [uses]

theorem foldl_phaseAfter_map
    (method : Handle.Method) (calls : List (Exchange NetworkStack)) (phase : Phase) :
    (calls.map (Use.mk method)).foldl Use.phaseAfter phase =
      calls.foldl method.phaseAfter phase := by
  rw [List.foldl_map]
  rfl

theorem foldl_phaseAfter_ne_connecting
    (uses : List Use) {phase : Phase} (hphase : phase ≠ .connecting) :
    uses.foldl Use.phaseAfter phase ≠ .connecting := by
  induction uses generalizing phase with
  | nil => exact hphase
  | cons use uses ih => exact ih (use.method.phaseAfter_ne_connecting hphase use.call)

theorem birth_ne_connecting {deeds : List Deed} {birth : Phase} (hbirth : birth ∈ births deeds) :
    birth ≠ .connecting := by
  obtain ⟨deed, -, hreport⟩ := List.mem_filterMap.mp hbirth
  rintro rfl
  unfold Report.birth? at hreport
  split at hreport
  · simp at hreport
  · simp at hreport
  · cases hreport
  · cases hreport

namespace Session

variable {s after : Session} {place : Nat} {h : Handle}

/-! ## One action -/

/-- What an action does to the phases: it makes an object in its first phase, changes one object as
its calls say, drops one, or does nothing. -/
inductive Change (s : Session) :
    Action → List (Exchange NetworkStack) → Report → Session → Prop where
  | absent (action : Action) : Change s action [] .noHandle s
  | made {action : Action} (calls : List (Exchange NetworkStack)) (hplace : action.place? = none)
      {result : Except Fault Handle} (hphase : ∀ h, result.toOption = some h → h.phase = .new) :
      Change s action calls (.made result) (s.add result.toOption)
  | used {place : Nat} {h left : Handle} {calls : List (Exchange NetworkStack)}
      {method : Handle.Method} {answer : Handle.Answer} (hhandle : s.handle? place = some h)
      (hphase : left.phase = calls.foldl method.phaseAfter h.phase)
      (hmade : ∀ made, answer.made? = some made → made.phase = .connected) :
      Change s (.use place method) calls (.used answer left) (s.afterUse place answer left).2
  | dropped {place : Nat} {h : Handle} (calls : List (Exchange NetworkStack))
      (hhandle : s.handle? place = some h) :
      Change s (.drop place) calls .dropped { s with handles := s.handles.set place none }

theorem change_create (family : Family) (kind : SocketKind) (protocol : Option Protocol)
    {action : Action} (hplace : action.place? = none) (s : Session) :
    ((Handle.create family kind protocol s.sockets).map s.addMade).Always fun calls done =>
      Change s action calls done.1 done.2 := by
  intro reply
  cases reply with
  | error errno => exact Change.made _ hplace nofun
  | ok d =>
      apply Change.made _ hplace
      rintro h hmade
      cases hmade
      rfl

theorem change_perform (s : Session) (patience : Nat) (action : Action) :
    (s.perform patience action).Always fun calls done => Change s action calls done.1 done.2 := by
  cases action with
  | socket arguments =>
      simp only [perform, Module.socket]
      split
      · apply Change.made _ rfl
        intro h hmade
        cases hmade
      · exact change_create _ _ _ rfl s
  | create family kind protocol => exact change_create family kind protocol rfl s
  | drop place =>
      simp only [perform]
      cases hhandle : s.handle? place with
      | none => exact Change.absent _
      | some h =>
          exact (always_map_iff _ _).mpr (Always.of_forall fun calls _ =>
            Change.dropped calls hhandle)
  | use place method =>
      simp only [perform]
      cases hhandle : s.handle? place with
      | none => exact Change.absent _
      | some h =>
          apply (always_map_iff _ _).mpr
          apply ((method.phase_of_calls patience h).and (method.made_connected patience h)).imp
          rintro calls used ⟨hphase, hmade⟩
          exact Change.used hhandle hphase hmade

/-- Every object began in the phase of its birth, and its phase is what its calls have made of it
since. -/
structure Traced (s : Session) (births : List Phase) (uses : Nat → List Use) : Prop where
  length_eq : births.length = s.handles.length
  unborn : ∀ place, s.handles.length ≤ place → uses place = []
  phase_eq : ∀ place h, s.handle? place = some h →
    ∃ birth, births[place]? = some birth ∧ h.phase = (uses place).foldl Use.phaseAfter birth

namespace Traced

variable {phases : List Phase} {past : Nat → List Use}

theorem add (htraced : Traced s phases past) (made : Option Handle) :
    Traced (s.add made) (phases ++ (made.map Handle.phase).toList) past := by
  cases made with
  | none => simpa [Session.add] using htraced
  | some h =>
      refine ⟨?_, ?_, ?_⟩
      · simp [Session.add, htraced.length_eq]
      · intro place hplace
        apply htraced.unborn
        simp only [Session.add, List.length_append, List.length_singleton] at hplace
        omega
      · intro place other hother
        have hlt := handle?_lt hother
        simp only [Session.add, List.length_append, List.length_singleton] at hlt
        by_cases hplace : place < s.handles.length
        · rw [handle?_add_of_lt hplace] at hother
          obtain ⟨birth, hbirth, hphase⟩ := htraced.phase_eq place other hother
          refine ⟨birth, ?_, hphase⟩
          rw [← htraced.length_eq] at hplace
          rw [List.getElem?_append_left hplace, hbirth]
        · -- the new object, for whose place no call was made before
          obtain rfl : place = s.handles.length := by omega
          have hself : other = h := by simpa [handle?, Session.add] using hother.symm
          refine ⟨h.phase, ?_, ?_⟩
          · simp [← htraced.length_eq]
          · rw [htraced.unborn _ (Nat.le_refl _), hself]
            rfl

theorem drop (htraced : Traced s phases past) (place : Nat) :
    Traced { s with handles := s.handles.set place none } phases past := by
  refine ⟨?_, ?_, ?_⟩
  · simpa using htraced.length_eq
  · simpa using htraced.unborn
  · intro other h hhandle
    apply htraced.phase_eq
    by_cases hother : other = place
    · subst hother
      have hplace := handle?_lt hhandle
      rw [List.length_set] at hplace
      simp [handle?, hplace] at hhandle
    · simpa [handle?, List.getElem?_set_ne (Ne.symm hother)] using hhandle

theorem set
    (htraced : Traced s phases past) {left : Handle} {calls : List (Exchange NetworkStack)}
    {method : Handle.Method} (hhandle : s.handle? place = some h)
    (hphase : left.phase = calls.foldl method.phaseAfter h.phase) :
    Traced { s with handles := s.handles.set place (some left) } phases fun other =>
      past other ++ (Action.use place method).uses calls other := by
  have hplace := handle?_lt hhandle
  refine ⟨?_, ?_, ?_⟩
  · simpa using htraced.length_eq
  · intro other hother
    rw [List.length_set] at hother
    have hne : ¬place = other := by omega
    simp only [htraced.unborn other hother, Action.uses, if_neg hne, List.append_nil]
  · intro other object hobject
    by_cases hother : place = other
    · subst hother
      have hself : object = left := by simpa [handle?, hplace] using hobject.symm
      obtain ⟨birth, hbirth, hbefore⟩ := htraced.phase_eq place h hhandle
      refine ⟨birth, hbirth, ?_⟩
      simp only [Action.uses, if_true, List.foldl_append, foldl_phaseAfter_map]
      rw [hself, hphase, hbefore]
    · simp only [Action.uses, if_neg hother, List.append_nil]
      apply htraced.phase_eq
      simpa [handle?, List.getElem?_set_ne hother] using hobject

theorem change
    (htraced : Traced s phases past) {action : Action} {calls : List (Exchange NetworkStack)}
    {report : Report} (hchange : Change s action calls report after) :
    Traced after (phases ++ report.birth?.toList) fun other =>
      past other ++ action.uses calls other := by
  cases hchange with
  | absent action =>
      simpa only [Action.uses_nil, List.append_nil, Report.birth?, Option.toList_none]
        using htraced
  | made calls hplace hphase =>
      simp only [Action.uses_of_place? hplace, List.append_nil, Report.birth?]
      rw [← Option.map_congr hphase]
      exact htraced.add _
  | @used place h left calls method answer hhandle hphase hmade =>
      simp only [Report.birth?]
      rw [← Option.map_congr hmade]
      exact (htraced.set hhandle hphase).add answer.made?
  | @dropped place h calls hhandle =>
      simpa only [Action.uses, List.append_nil, Report.birth?, Option.toList_none]
        using htraced.drop place

end Traced

/-! ## Whole runs -/

section

variable {σ : Type} (respond : Responder NetworkStack σ) (patience : Nat)

/-- The deeds of a session in which actions are done one after the other. -/
def transcript (s : Session) (state : σ) : List Action → List Deed
  | [] => []
  | action :: actions =>
    let turn := (s.perform patience action).run respond state
    ⟨action, turn.value.1, turn.exchanges⟩ :: transcript turn.value.2 turn.state actions

variable (state : σ)

theorem turnAfter_cons (s : Session) (first : Action) (actions : List Action) (action : Action) :
    let turn := (s.perform patience first).run respond state
    s.turnAfter respond state patience (first :: actions) action =
      turn.value.2.turnAfter respond turn.state patience actions action := by
  simp [turnAfter, history, performAll, run_bind, run_map, Run.andThen]

theorem transcript_concat (s : Session) (actions : List Action) (action : Action) :
    let turn := s.turnAfter respond state patience actions action
    s.transcript respond patience state (actions ++ [action]) =
      s.transcript respond patience state actions ++
        [⟨action, turn.value.1, turn.exchanges⟩] := by
  induction actions generalizing s state with
  | nil => rfl
  | cons first actions ih =>
      simp only [List.cons_append, transcript, ih, turnAfter_cons]

/-- The deeds are those of the session's history. -/
theorem transcript_eq_history (s : Session) (actions : List Action) :
    (s.transcript respond patience state actions).map Deed.action = actions ∧
      (s.transcript respond patience state actions).map Deed.report =
        (s.history respond state patience actions).value.1 ∧
      (s.transcript respond patience state actions).flatMap Deed.calls =
        (s.history respond state patience actions).exchanges := by
  induction actions generalizing s state with
  | nil => exact ⟨rfl, rfl, rfl⟩
  | cons action actions ih =>
      let turn := (s.perform patience action).run respond state
      obtain ⟨hactions, hreports, hcalls⟩ := ih turn.state turn.value.2
      simp only [history, performAll, run_bind, run_map, Run.andThen, transcript, List.map_cons,
        List.flatMap_cons]
      exact ⟨congrArg _ hactions, congrArg _ hreports, congrArg _ hcalls⟩

theorem Traced.history
    {s : Session} {phases : List Phase} {past : Nat → List Use} (htraced : Traced s phases past)
    (actions : List Action) :
    let deeds := s.transcript respond patience state actions
    Traced (s.history respond state patience actions).value.2 (phases ++ births deeds)
      fun place => past place ++ uses deeds place := by
  induction actions using List.reverseRecOn with
  | nil => simpa [Session.history, performAll, run, transcript, births, uses] using htraced
  | append_singleton actions action ih =>
      obtain ⟨-, -, hsession⟩ := history_concat respond state patience s actions action
      have hchange := (change_perform (s.history respond state patience actions).value.2 patience
        action).run respond (s.history respond state patience actions).state
      simp only [hsession, transcript_concat, births_concat, funext (uses_concat _ _),
        ← List.append_assoc]
      exact ih.change hchange

theorem traced_history (sockets : SocketConfig) (resolver : ResolverConfig)
    (actions : List Action) :
    let deeds := (start sockets resolver).transcript respond patience state actions
    Traced ((start sockets resolver).history respond state patience actions).value.2
      (births deeds) (uses deeds) := by
  have hstart : Traced (start sockets resolver) [] fun _ => [] := ⟨rfl, fun _ _ => rfl, nofun⟩
  exact hstart.history respond patience state actions

/-- After any run of a session, over any stack, the phase of an object is what its own calls made
of the phase it was born in: new for an object that was made, connected for one that was accepted.
No call of another object counts, nor any but that of a connect or of a receive for a positive size.
No object is ever found connecting. -/
theorem phase_recorded
    (sockets : SocketConfig) (resolver : ResolverConfig) (actions : List Action) {place : Nat}
    {h : Handle}
    (hhandle : ((start sockets resolver).history respond state patience
      actions).value.2.handle? place = some h) :
    let past := (start sockets resolver).history respond state patience actions
    let deeds := (start sockets resolver).transcript respond patience state actions
    (deeds.map Deed.action = actions ∧ deeds.map Deed.report = past.value.1 ∧
      deeds.flatMap Deed.calls = past.exchanges) ∧
    (∃ birth, (births deeds)[place]? = some birth ∧
      h.phase = (uses deeds place).foldl Use.phaseAfter birth) ∧
    h.phase ≠ .connecting := by
  intro past deeds
  obtain ⟨birth, hbirth, hphase⟩ :=
    (traced_history respond patience state sockets resolver actions).phase_eq place h hhandle
  refine ⟨transcript_eq_history respond patience state _ actions, ⟨birth, hbirth, hphase⟩, ?_⟩
  rw [hphase]
  exact foldl_phaseAfter_ne_connecting _ (birth_ne_connecting (List.mem_of_getElem? hbirth))

end

section

open Scripted

/-- Of two objects the first is refused a connection, and the second, which the first accepted,
reads to the end of its stream before it receives nothing. -/
def endingActions : List Action :=
  [.socket [], .use 0 (.connect Handle.webAddress), .use 0 .accept, .use 0 (.connect .none),
    .use 1 (.stream (.read none)), .use 1 (.receive 0), .use 1 (.receive 5), .use 1 .close]

theorem phase_recorded_ending :
    let deeds :=
      (start {} {}).transcript StackScript.respond 1 Handle.refusingScript endingActions
    births deeds = [.new, .connected] ∧
    ((start {} {}).history StackScript.respond Handle.refusingScript 1
      endingActions).value.2.handle? 1 = some ⟨none, .ipv4, .peerClosed, {}⟩ ∧
    (uses deeds 1).length = 4 ∧
    (uses deeds 1).foldl Use.phaseAfter .connected = .peerClosed := by
  intro deeds
  have hbirths : births deeds = [.new, .connected] := by decide +kernel
  have hhandle : ((start {} {}).history StackScript.respond Handle.refusingScript 1
      endingActions).value.2.handle? 1 = some ⟨none, .ipv4, .peerClosed, {}⟩ := by
    decide +kernel
  obtain ⟨-, ⟨birth, hbirth, hphase⟩, -⟩ :=
    phase_recorded StackScript.respond 1 Handle.refusingScript {} {} endingActions hhandle
  have hborn : birth = .connected := by
    change (births deeds)[1]? = some birth at hbirth
    rw [hbirths] at hbirth
    exact (Option.some.inj hbirth).symm
  rw [hborn] at hphase
  exact ⟨hbirths, hhandle, by decide +kernel, hphase.symm⟩

end

end Session

end Module

end ScriptSocket
