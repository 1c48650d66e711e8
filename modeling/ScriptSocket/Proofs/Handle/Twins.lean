import ScriptSocket.Proofs.Handle.Phase
import ScriptSocket.Proofs.Lockstep
import ScriptSocket.Proofs.Placewise

/-!
# The phase of a handle does not show

Twins are handles that differ in their phase, if in anything.  Whatever is done with two twins goes
in lockstep and leaves twins, so sessions whose objects are twins, place by place, cannot be told
apart by their calls, their notices or what they report.  Once a connect was tried, or a receive for
a positive size found the end of the stream, the phases of two twins are the same.
-/

namespace ScriptSocket

namespace Handle

open Dialogue

structure Twins (h other : Handle) : Prop where
  descriptor_eq : h.descriptor = other.descriptor
  family_eq : h.family = other.family
  config_eq : h.config = other.config

theorem Twins.refl (h : Handle) : h.Twins h := ⟨rfl, rfl, rfl⟩

theorem Twins.eq {h other : Handle} (htwins : h.Twins other) (hphase : h.phase = other.phase) :
    h = other := by
  obtain ⟨descriptor, family, phase, config⟩ := h
  obtain ⟨rfl, rfl, rfl⟩ := htwins
  cases hphase
  rfl

/-- The end of an operation on two twins: the same result, and twins again. -/
def SameResult {α : Type} (done other : α × Handle) : Prop :=
  done.1 = other.1 ∧ done.2.Twins other.2

/-- What two methods answer, with the file object of a twin being a twin. -/
inductive Answer.Alike : Answer → Answer → Prop where
  | same (answer : Answer) : Alike answer answer
  | file {h other : Handle} (htwins : h.Twins other) : Alike (.file h) (.file other)

theorem Answer.Alike.made?_eq {answer other : Answer} (halike : answer.Alike other) :
    answer.made? = other.made? := by
  cases halike <;> rfl

def SameAnswer (used other : Answer × Handle) : Prop :=
  used.1.Alike other.1 ∧ used.2.Twins other.2

namespace Twins

variable {α : Type} {h other : Handle}

theorem refuse (htwins : h.Twins other) (fault : Fault) :
    Lockstep SameResult (h.refuse fault : Operation α) (other.refuse fault) :=
  .done ⟨rfl, htwins⟩

theorem answer (htwins : h.Twins other) (reply : Except Errno α) :
    Lockstep SameResult (h.answer reply) (other.answer reply) := by
  cases reply with
  | ok value => exact .done ⟨rfl, htwins⟩
  | error errno => exact .done ⟨rfl, htwins⟩

theorem whenOpen
    (htwins : h.Twins other) {operation operation' : Int32 → Operation α}
    (hoperation : ∀ d, Lockstep SameResult (operation d) (operation' d)) :
    Lockstep SameResult (h.whenOpen operation) (other.whenOpen operation') := by
  unfold Handle.whenOpen
  rw [htwins.descriptor_eq]
  cases other.descriptor with
  | none => exact htwins.refuse _
  | some d => exact hoperation d

/-! ## The operations -/

theorem bind (htwins : h.Twins other) (address : Value) :
    Lockstep SameResult (h.bind address) (other.bind address) := by
  apply htwins.whenOpen
  intro d
  rw [htwins.family_eq]
  split
  · exact htwins.refuse _
  · exact .ask _ htwins.answer

theorem connect (htwins : h.Twins other) (address : Value) :
    Lockstep SameResult (h.connect address) (other.connect address) := by
  apply htwins.whenOpen
  intro d
  rw [htwins.family_eq]
  split
  · exact htwins.refuse _
  · apply Lockstep.ask
    intro reply
    cases reply with
    | ok value => exact .done ⟨rfl, htwins.descriptor_eq, rfl, htwins.config_eq⟩
    | error errno => exact .done ⟨rfl, htwins.descriptor_eq, rfl, htwins.config_eq⟩

theorem listen (htwins : h.Twins other) (backlog : Option Int64) :
    Lockstep SameResult (h.listen backlog) (other.listen backlog) := by
  apply htwins.whenOpen
  intro d
  rw [htwins.config_eq]
  exact .ask _ htwins.answer

/-- The handle that is accepted has nothing of the listener but what twins share. -/
theorem accept (htwins : h.Twins other) : Lockstep SameResult h.accept other.accept := by
  apply htwins.whenOpen
  intro d
  apply Lockstep.ask
  intro reply
  cases reply with
  | error errno => exact .done ⟨rfl, htwins⟩
  | ok accepted =>
      apply Lockstep.note
      apply Lockstep.done
      refine ⟨?_, htwins⟩
      simp only [htwins.family_eq, htwins.config_eq]

theorem send (htwins : h.Twins other) (data : Value) :
    Lockstep SameResult (h.send data) (other.send data) := by
  unfold Handle.send
  split
  · exact htwins.refuse _
  · apply htwins.whenOpen
    intro d
    exact .ask _ htwins.answer

theorem receive (htwins : h.Twins other) (size : Int64) :
    Lockstep SameResult (h.receive size) (other.receive size) := by
  apply htwins.whenOpen
  intro d
  by_cases hnegative : size < 0
  · rw [if_pos hnegative, if_pos hnegative]
    exact htwins.refuse _
  rw [if_neg hnegative, if_neg hnegative]
  by_cases hlarge : unallocatable ≤ size.toNatClampNeg
  · simp only [hlarge, if_true]
    exact htwins.refuse _
  simp only [hlarge, if_false]
  apply Lockstep.ask
  intro reply
  split
  · exact .done ⟨rfl, htwins⟩
  · split
    · exact .done ⟨rfl, htwins.descriptor_eq, htwins.family_eq, htwins.config_eq⟩
    · exact .done ⟨rfl, htwins⟩
  · exact .done ⟨rfl, htwins⟩

theorem setBlocking (htwins : h.Twins other) (flag : Value) :
    Lockstep SameResult (h.setBlocking flag) (other.setBlocking flag) := by
  apply htwins.whenOpen
  intro d
  apply Lockstep.ask
  intro reply
  cases reply with
  | error errno => exact .done ⟨rfl, htwins⟩
  | ok flags => exact .ask _ htwins.answer

theorem localAddress (htwins : h.Twins other) :
    Lockstep SameResult h.localAddress other.localAddress := by
  apply htwins.whenOpen
  intro d
  apply Lockstep.ask
  intro reply
  cases reply with
  | error errno => exact .done ⟨rfl, htwins⟩
  | ok endpoint => exact .done ⟨rfl, htwins⟩

theorem applyOption
    (htwins : h.Twins other) (d : Int32) (option : SocketOption) {next next' : Operation Unit}
    (hnext : Lockstep SameResult next next') :
    Lockstep SameResult (h.applyOption d option next) (other.applyOption d option next') := by
  apply Lockstep.ask
  intro reply
  cases reply with
  | ok value => exact hnext
  | error errno => exact .done ⟨rfl, htwins⟩

theorem applyHostName
    (htwins : h.Twins other) (d : Int32) (hostName : Option Value) {next next' : Operation Unit}
    (hnext : Lockstep SameResult next next') :
    Lockstep SameResult (h.applyHostName d hostName next)
      (other.applyHostName d hostName next') := by
  unfold Handle.applyHostName
  split
  · exact hnext
  · exact hnext
  · split
    · exact htwins.refuse _
    · exact htwins.applyOption d _ hnext

theorem secure (htwins : h.Twins other) (tag : Value) (verification hostName : Option Value) :
    Lockstep SameResult (h.secure tag verification hostName)
      (other.secure tag verification hostName) := by
  apply htwins.whenOpen
  intro d
  split
  · exact htwins.refuse _
  · exact htwins.refuse _
  · apply htwins.applyOption
    apply htwins.applyOption
    apply htwins.applyHostName
    exact .note _ (.done ⟨rfl, htwins⟩)

theorem joinNetwork (htwins : h.Twins other) (network : Value) :
    Lockstep SameResult (h.joinNetwork network) (other.joinNetwork network) := by
  apply htwins.whenOpen
  intro d
  split
  · exact .ask _ htwins.answer
  · exact htwins.refuse _

/-! ## Twins as streams -/

theorem giveBack (htwins : h.Twins other) :
    Lockstep SameResult h.giveBack other.giveBack := by
  unfold Handle.giveBack
  rw [htwins.descriptor_eq]
  split
  · exact .done ⟨rfl, htwins⟩
  · apply Lockstep.ask
    intro reply
    cases reply with
    | ok value => exact .note _ (.done ⟨rfl, rfl, htwins.family_eq, htwins.config_eq⟩)
    | error errno => exact .done ⟨rfl, htwins⟩

theorem serve (htwins : h.Twins other) (request : Stream.Request) :
    Lockstep SameResult (Handle.serve request h) (Handle.serve request other) := by
  cases request with
  | read size =>
      simp only [Handle.serve, htwins.descriptor_eq]
      split
      · exact .done ⟨rfl, htwins⟩
      · exact .ask _ fun reply => .done ⟨rfl, htwins⟩
  | write data =>
      simp only [Handle.serve, htwins.descriptor_eq]
      split
      · exact .done ⟨rfl, htwins⟩
      · exact .ask _ fun reply => .done ⟨rfl, htwins⟩
  | control request argument =>
      cases request with
      | close => exact htwins.giveBack
      | flush => exact .done ⟨rfl, htwins⟩
      | other code => exact .done ⟨rfl, htwins⟩

theorem transfer (htwins : h.Twins other) (transfer : Dialogue ByteStream α) :
    Lockstep SameResult (h.transfer transfer) (other.transfer transfer) := by
  unfold Handle.transfer
  induction transfer generalizing h other with
  | done value => exact .done ⟨rfl, htwins⟩
  | note notice next ih => exact .note notice (ih htwins)
  | ask request next ih =>
      apply (htwins.serve request).bind
      rintro ⟨reply, h⟩ ⟨_, other⟩ ⟨⟨⟩, htwins⟩
      exact ih reply htwins

theorem abandon (htwins : h.Twins other) : Lockstep Twins h.abandon other.abandon := by
  unfold Handle.abandon
  rw [htwins.descriptor_eq]
  split
  · exact .done htwins
  · apply Lockstep.ask
    intro reply
    cases reply with
    | ok value => exact .done ⟨rfl, htwins.family_eq, htwins.config_eq⟩
    | error errno => exact .note _ (.done ⟨rfl, htwins.family_eq, htwins.config_eq⟩)

theorem answered
    {operation operation' : Dialogue NetworkStack (α × Handle)}
    (hlockstep : Lockstep SameResult operation operation') (f : α → Answer) :
    Lockstep SameAnswer (operation.map (Prod.map f id)) (operation'.map (Prod.map f id)) := by
  apply hlockstep.map
  rintro ⟨result, h⟩ ⟨_, other⟩ ⟨⟨⟩, htwins⟩
  exact ⟨.same _, htwins⟩

theorem perform (htwins : h.Twins other) (patience : Nat) (method : Method) :
    Lockstep SameAnswer (method.perform patience h) (method.perform patience other) := by
  cases method with
  | bind address => exact answered (htwins.bind address) _
  | connect address => exact answered (htwins.connect address) _
  | listen backlog => exact answered (htwins.listen backlog) _
  | accept => exact answered htwins.accept _
  | send data => exact answered (htwins.send data) _
  | receive size => exact answered (htwins.receive size) _
  | setBlocking flag => exact answered (htwins.setBlocking flag) _
  | setOption level option value => exact .note _ (.done ⟨.same _, htwins⟩)
  | makeFile => exact .done ⟨.file htwins, htwins⟩
  | localAddress => exact answered htwins.localAddress _
  | close => exact answered (htwins.transfer Stream.close) _
  | secure tag verification hostName => exact answered (htwins.secure tag verification hostName) _
  | joinNetwork network => exact answered (htwins.joinNetwork network) _
  | stream method => exact answered (htwins.transfer (method.perform patience)) _

end Twins

end Handle

namespace Module

open Dialogue Handle

/-! ## Sessions of twins -/

/-- Sessions whose objects are twins, place by place. -/
structure Session.Twins (s other : Session) : Prop where
  sockets_eq : s.sockets = other.sockets
  resolver_eq : s.resolver = other.resolver
  board_eq : s.board = other.board
  handles : List.Forall₂ (Option.Rel Handle.Twins) s.handles other.handles

/-- The same report, of twins.  An object that was made is the same. -/
inductive Report.Alike : Report → Report → Prop where
  | noHandle : Alike .noHandle .noHandle
  | made (result : Except Fault Handle) : Alike (.made result) (.made result)
  | dropped : Alike .dropped .dropped
  | used {answer answer' : Handle.Answer} {h h' : Handle} (hanswer : answer.Alike answer')
      (htwins : h.Twins h') : Alike (.used answer h) (.used answer' h')

theorem Report.Alike.birth?_eq {report other : Report} (halike : report.Alike other) :
    report.birth? = other.birth? := by
  cases halike with
  | noHandle => rfl
  | made result => rfl
  | dropped => rfl
  | used hanswer htwins => simp only [birth?, hanswer.made?_eq]

def SameReport (turn other : Report × Session) : Prop :=
  turn.1.Alike other.1 ∧ turn.2.Twins other.2

namespace Session.Twins

variable {s other : Session}

theorem handle? (htwins : s.Twins other) (place : Nat) :
    Option.Rel Handle.Twins (s.handle? place) (other.handle? place) := by
  unfold Session.handle?
  cases hobject : s.handles[place]? with
  | none =>
      rw [List.getElem?_eq_none_iff, htwins.handles.length_eq, ← List.getElem?_eq_none_iff]
        at hobject
      rw [hobject]
      exact .none
  | some object =>
      obtain ⟨object', hobject', hrel⟩ := forall₂_getElem? htwins.handles hobject
      rw [hobject']
      cases hrel with
      | none => exact .none
      | some htwin => exact .some htwin

theorem set
    (htwins : s.Twins other) {object object' : Option Handle}
    (hobject : Option.Rel Handle.Twins object object') (place : Nat) :
    Twins { s with handles := s.handles.set place object }
      { other with handles := other.handles.set place object' } :=
  ⟨htwins.sockets_eq, htwins.resolver_eq, htwins.board_eq,
    forall₂_set htwins.handles hobject place⟩

theorem add (htwins : s.Twins other) (made : Option Handle) :
    (s.add made).Twins (other.add made) := by
  cases made with
  | none => exact htwins
  | some h =>
      refine ⟨htwins.sockets_eq, htwins.resolver_eq, htwins.board_eq, ?_⟩
      exact List.rel_append htwins.handles (.cons (.some (Handle.Twins.refl h)) .nil)

theorem addMade (htwins : s.Twins other) {result result' : Except Fault Handle}
    (hresult : result = result') : SameReport (s.addMade result) (other.addMade result') := by
  subst hresult
  exact ⟨.made result, htwins.add _⟩

theorem afterUse
    (htwins : s.Twins other) {answer answer' : Handle.Answer} (hanswer : answer.Alike answer')
    {h h' : Handle} (htwin : h.Twins h') (place : Nat) :
    SameReport (s.afterUse place answer h) (other.afterUse place answer' h') := by
  refine ⟨.used hanswer htwin, ?_⟩
  simp only [Session.afterUse, hanswer.made?_eq]
  exact (htwins.set (.some htwin) place).add _

theorem perform (htwins : s.Twins other) (patience : Nat) (action : Action) :
    Lockstep SameReport (s.perform patience action) (other.perform patience action) := by
  cases action with
  | socket arguments =>
      simp only [Session.perform, htwins.sockets_eq]
      exact (Lockstep.refl _).map fun _ _ => htwins.addMade
  | create family kind protocol =>
      simp only [Session.perform, htwins.sockets_eq]
      exact (Lockstep.refl _).map fun _ _ => htwins.addMade
  | drop place =>
      have hhandle := htwins.handle? place
      simp only [Session.perform]
      generalize s.handle? place = object at hhandle
      generalize other.handle? place = object' at hhandle
      cases hhandle with
      | none => exact .done ⟨.noHandle, htwins⟩
      | some htwin => exact htwin.abandon.map fun _ _ _ => ⟨.dropped, htwins.set .none place⟩
  | use place method =>
      have hhandle := htwins.handle? place
      simp only [Session.perform]
      generalize s.handle? place = object at hhandle
      generalize other.handle? place = object' at hhandle
      cases hhandle with
      | none => exact .done ⟨.noHandle, htwins⟩
      | some htwin =>
          exact (htwin.perform patience method).map fun _ _ hused =>
            htwins.afterUse hused.1 hused.2 place

theorem performAll (htwins : s.Twins other) (patience : Nat) (actions : List Action) :
    Lockstep (fun turns turns' =>
        List.Forall₂ Report.Alike turns.1 turns'.1 ∧ turns.2.Twins turns'.2)
      (s.performAll patience actions) (other.performAll patience actions) := by
  induction actions generalizing s other with
  | nil => exact .done ⟨.nil, htwins⟩
  | cons action actions ih =>
      apply (htwins.perform patience action).bind
      rintro ⟨report, s⟩ ⟨report', other⟩ ⟨hreport, htwins⟩
      apply (ih htwins).map
      rintro ⟨reports, s⟩ ⟨reports', other⟩ ⟨hreports, htwins⟩
      exact ⟨.cons hreport hreports, htwins⟩

end Session.Twins

/-! ## Phases that are the same again -/

/-- The call leaves its object in a phase of its own: it tries a connect, or receives nothing for a
positive size. -/
def Use.Settles (use : Use) : Prop :=
  match use.method, use.call with
  | .connect _, ⟨.connect _ _, _⟩ => True
  | .receive size, ⟨.receive _ _, ⟨_, .ok 0⟩⟩ => 0 < size
  | _, _ => False

theorem Use.phaseAfter_of_settles {use : Use} (hsettles : use.Settles) (phase phase' : Phase) :
    use.phaseAfter phase = use.phaseAfter phase' := by
  obtain ⟨method, call⟩ := use
  simp only [Settles] at hsettles
  simp only [phaseAfter]
  split at hsettles
  · rename_i reply
    cases reply with
    | ok value => rfl
    | error errno => rfl
  · simp only [Handle.Method.phaseAfter, hsettles, if_true]
  · exact hsettles.elim

theorem foldl_phaseAfter_of_settles
    {uses : List Use} (hsettles : ∃ use ∈ uses, use.Settles) (phase phase' : Phase) :
    uses.foldl Use.phaseAfter phase = uses.foldl Use.phaseAfter phase' := by
  induction uses generalizing phase phase' with
  | nil => simp at hsettles
  | cons use uses ih =>
      rw [List.exists_mem_cons_iff] at hsettles
      simp only [List.foldl_cons]
      rcases hsettles with hfirst | hrest
      · rw [use.phaseAfter_of_settles hfirst phase phase']
      · exact ih hrest _ _

/-- The same deed, reported of twins. -/
structure Deed.Alike (deed other : Deed) : Prop where
  action_eq : deed.action = other.action
  report : deed.report.Alike other.report
  calls_eq : deed.calls = other.calls

theorem births_congr {deeds others : List Deed} (halike : List.Forall₂ Deed.Alike deeds others) :
    births deeds = births others := by
  induction halike with
  | nil => rfl
  | cons hdeed hdeeds ih =>
      unfold births at ih ⊢
      rw [List.filterMap_cons, List.filterMap_cons, hdeed.report.birth?_eq, ih]

theorem uses_congr
    {deeds others : List Deed} (halike : List.Forall₂ Deed.Alike deeds others) (place : Nat) :
    uses deeds place = uses others place := by
  induction halike with
  | nil => rfl
  | cons hdeed hdeeds ih =>
      unfold uses at ih ⊢
      rw [List.flatMap_cons, List.flatMap_cons, hdeed.action_eq, hdeed.calls_eq, ih]

namespace Session

/-- The phase of each object; an empty place counts as new. -/
def phases (s : Session) : List Phase :=
  s.handles.map fun object => (object.map Handle.phase).getD .new

theorem traced_phases (s : Session) : Traced s s.phases fun _ => [] := by
  refine ⟨by simp [phases], fun _ _ => rfl, ?_⟩
  intro place h hhandle
  have hobject : s.handles[place]? = some (some h) := Option.join_eq_some_iff.mp hhandle
  exact ⟨h.phase, by simp [phases, hobject], rfl⟩

section

variable {σ : Type} (respond : Responder NetworkStack σ) (patience : Nat) (state : σ)
  {s other : Session}

theorem Twins.transcript (htwins : s.Twins other) (actions : List Action) :
    List.Forall₂ Deed.Alike (s.transcript respond patience state actions)
      (other.transcript respond patience state actions) := by
  induction actions generalizing s other state with
  | nil => exact .nil
  | cons action actions ih =>
      obtain ⟨hcalls, -, hstate, hreport, hafter⟩ :=
        (htwins.perform patience action).run respond state
      simp only [Session.transcript]
      rw [← hstate]
      exact .cons ⟨rfl, hreport, hcalls⟩ (ih _ hafter)

/-- The phases of two twins are read off the same calls, so they are the same if they begin with the
same phase, or one of the calls settles it. -/
theorem Twins.phase_eq
    (htwins : s.Twins other) (actions : List Action) {place : Nat} {h h' : Handle}
    (hhandle : (s.history respond state patience actions).value.2.handle? place = some h)
    (hhandle' : (other.history respond state patience actions).value.2.handle? place = some h')
    (hsame : s.handles.length ≤ place ∨
      ∃ use ∈ uses (s.transcript respond patience state actions) place, use.Settles) :
    h.phase = h'.phase := by
  have hdeeds := htwins.transcript respond patience state actions
  obtain ⟨birth, hbirth, hphase⟩ :=
    (s.traced_phases.history respond patience state actions).phase_eq place h hhandle
  obtain ⟨birth', hbirth', hphase'⟩ :=
    (other.traced_phases.history respond patience state actions).phase_eq place h' hhandle'
  rw [← births_congr hdeeds] at hbirth'
  rw [← uses_congr hdeeds] at hphase'
  rw [List.nil_append] at hphase hphase'
  rw [hphase, hphase']
  rcases hsame with hmade | hsettles
  · -- an object that was made in the meantime has its first phase from the report of its making
    have hlength : s.phases.length ≤ place := by simpa [phases] using hmade
    have hlength' : other.phases.length = s.phases.length := by
      simp [phases, htwins.handles.length_eq]
    rw [List.getElem?_append_right hlength] at hbirth
    rw [List.getElem?_append_right (hlength' ▸ hlength), hlength', hbirth] at hbirth'
    cases hbirth'
    rfl
  · exact foldl_phaseAfter_of_settles hsettles birth birth'

/-- Two sessions whose objects differ in their phases, if in anything, cannot be told apart.
Whatever is done with the objects, over any stack: the same calls are made, the same notices are
logged and the same is reported, where the handle reported of an object is a twin and an object that
was made or accepted is the same.  The objects stay twins, so they have the same descriptors.  They
are the same, phase and all, if they were made in the meantime, or once a connect was tried with
them or a receive for a positive size came to nothing. -/
theorem phase_unseen (htwins : s.Twins other) (actions : List Action) :
    let past := s.history respond state patience actions
    let past' := other.history respond state patience actions
    let deeds := s.transcript respond patience state actions
    past.exchanges = past'.exchanges ∧ past.notices = past'.notices ∧ past.state = past'.state ∧
    List.Forall₂ Report.Alike past.value.1 past'.value.1 ∧
    past.value.2.Twins past'.value.2 ∧
    ∀ place h h', past.value.2.handle? place = some h → past'.value.2.handle? place = some h' →
      h.Twins h' ∧
      (s.handles.length ≤ place ∨ (∃ use ∈ uses deeds place, use.Settles) → h = h') := by
  intro past past' deeds
  obtain ⟨hcalls, hnotices, hstate, hreports, hafter⟩ :=
    (htwins.performAll patience actions).run respond state
  refine ⟨hcalls, hnotices, hstate, hreports, hafter, ?_⟩
  intro place h h' hhandle hhandle'
  have htwin : h.Twins h' := by
    have hrel := hafter.handle? place
    change Option.Rel Handle.Twins (past.value.2.handle? place) (past'.value.2.handle? place)
      at hrel
    rw [hhandle, hhandle'] at hrel
    exact Option.rel_some_some.mp hrel
  refine ⟨htwin, ?_⟩
  intro hsame
  exact htwin.eq (htwins.phase_eq respond patience state actions hhandle hhandle' hsame)

end

section

open Scripted

/-- Sessions of one object each, which remembers a peer that hung up in the first only. -/
def remembering : Session := ⟨{}, {}, [some Handle.hungUp], []⟩

def forgetful : Session := ⟨{}, {}, [some { Handle.hungUp with phase := .new }], []⟩

/-- The object reads to the end of its stream and accepts another before it is refused a
connection. -/
def reconnectingActions : List Action :=
  [.use 0 (.stream (.read none)), .use 0 .accept, .use 0 (.connect Handle.webAddress),
    .use 1 .close]

theorem phase_unseen_reconnecting :
    let past := remembering.history StackScript.respond Handle.refusingScript 1
    let past' := forgetful.history StackScript.respond Handle.refusingScript 1
    (past (reconnectingActions.take 2)).value.2.handle? 0 = some Handle.hungUp ∧
    (past' (reconnectingActions.take 2)).value.2.handle? 0 ≠ some Handle.hungUp ∧
    (past reconnectingActions).exchanges = (past' reconnectingActions).exchanges ∧
    ∃ h, (past reconnectingActions).value.2.handle? 0 = some h ∧
      (past' reconnectingActions).value.2.handle? 0 = some h := by
  intro past past'
  have htwins : remembering.Twins forgetful :=
    ⟨rfl, rfl, rfl, .cons (.some ⟨rfl, rfl, rfl⟩) .nil⟩
  obtain ⟨hcalls, -, -, -, -, hsame⟩ :=
    phase_unseen StackScript.respond 1 Handle.refusingScript htwins reconnectingActions
  refine ⟨by decide +kernel, by decide +kernel, hcalls, ?_⟩
  have hhandle : (past reconnectingActions).value.2.handle? 0 =
      some { Handle.hungUp with phase := .new } := by
    decide +kernel
  have hsettles : ∃ use ∈ uses (remembering.transcript StackScript.respond 1
      Handle.refusingScript reconnectingActions) 0, use.Settles :=
    ⟨⟨.connect Handle.webAddress, _⟩, .tail _ (.tail _ (.head _)), trivial⟩
  cases hhandle' : (past' reconnectingActions).value.2.handle? 0 with
  | none => exact absurd hhandle' (by decide +kernel)
  | some h =>
      obtain ⟨-, heq⟩ := hsame 0 _ h hhandle hhandle'
      exact ⟨h, (heq (Or.inr hsettles)) ▸ hhandle, rfl⟩

end

end Session

end Module

end ScriptSocket
