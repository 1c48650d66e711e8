import ScriptSocket.Handle.Method
import ScriptSocket.Proofs.Ownership.Ledger

/-!
# What a method does with a descriptor

An operation on a handle is `Tenured` when, whatever the stack answers, its calls are the tenure of
the descriptor that the handle has, from before the operation to after it.  Every method is, whether
it closes the handle itself or through the stream it is; only accepting a connection does more, as
it makes a handle for the descriptor it is handed.
-/

namespace ScriptSocket.Handle

open Network

variable {α β : Type} {own : Option Int32}

def Tenured (own : Option Int32) (operation : Dialogue NetworkStack (α × Handle)) : Prop :=
  ∀ (σ : Type) (respond : Responder NetworkStack σ) (state : σ),
    Tenure own (operation.run respond state).exchanges
      (operation.run respond state).value.2.descriptor

namespace Tenured

theorem done (value : α) {h : Handle} (hown : h.descriptor = own) :
    Tenured own (.done (value, h)) := by
  intro σ respond state
  rw [← hown]
  exact Tenure.nil h.descriptor

theorem note
    (notice : Notice) {next : Dialogue NetworkStack (α × Handle)} (hnext : Tenured own next) :
    Tenured own (.note notice next) := by
  intro σ respond state
  exact hnext σ respond state

theorem ask
    {d : Int32} {request : Request} {next : Reply request → Dialogue NetworkStack (α × Handle)}
    (hnames : request.descriptor? = some d)
    (hout : ∀ reply, handedOut? ⟨request, reply⟩ = none)
    (hback : ∀ reply, givenBack? ⟨request, reply⟩ = none)
    (hnext : ∀ reply, Tenured (some d) (next reply)) :
    Tenured (some d) (.ask request next) := by
  intro σ respond state
  apply Tenure.call hnames (hout _) (hback _)
  exact hnext _ σ respond _

/-- A close is the last thing to do if it succeeds, and changes nothing if it fails. -/
theorem askClose
    {d : Int32} {next : Except Errno Unit → Dialogue NetworkStack (α × Handle)}
    (hsuccess : Tenured none (next (.ok ())))
    (hfailure : ∀ errno, Tenured (some d) (next (.error errno))) :
    Tenured (some d) (.ask (.close d) next) := by
  intro σ respond state
  simp only [Dialogue.run]
  generalize (respond (.close d) state).2 = after
  cases (respond (.close d) state).1 with
  | ok value => exact Tenure.close rfl (hsuccess σ respond after)
  | error errno => exact Tenure.call rfl rfl rfl (hfailure errno σ respond after)

theorem bind
    {first : Dialogue NetworkStack (α × Handle)}
    {next : α × Handle → Dialogue NetworkStack (β × Handle)} (hfirst : Tenured own first)
    (hnext : ∀ value h, Tenured h.descriptor (next (value, h))) :
    Tenured own (first.bind next) := by
  intro σ respond state
  rw [Dialogue.run_bind]
  exact (hfirst σ respond state).append (hnext _ _ σ respond _)

theorem map {operation : Dialogue NetworkStack (α × Handle)} (f : α → β)
    (hoperation : Tenured own operation) : Tenured own (operation.map (Prod.map f id)) := by
  intro σ respond state
  rw [Dialogue.run_map]
  exact hoperation σ respond state

theorem whenOpen {h : Handle} {operation : Int32 → Operation α}
    (hoperation : ∀ d, h.descriptor = some d → Tenured (some d) (operation d)) :
    Tenured h.descriptor (h.whenOpen operation) := by
  cases hown : h.descriptor with
  | none =>
      rw [whenOpen_closed hown]
      exact done _ hown
  | some d =>
      rw [whenOpen_open hown]
      exact hoperation d hown

theorem answer {h : Handle} (hown : h.descriptor = own) (reply : Except Errno α) :
    Tenured own (h.answer reply) := by
  cases reply with
  | ok value => exact done _ hown
  | error errno => exact done _ hown

end Tenured

/-! ## The methods -/

/-- No descriptor that is a number proper is the one that stands for none. -/
theorem owned_of_nonneg {d : Int32} (hnatural : 0 ≤ d) : owned d = some d := by
  unfold owned
  rw [if_neg]
  rintro rfl
  exact absurd hnatural (by decide)

theorem tenured_bind (h : Handle) (address : Value) :
    Tenured h.descriptor (h.bind address) := by
  apply Tenured.whenOpen
  intro d hown
  split
  · exact Tenured.done _ hown
  · exact Tenured.ask rfl (fun _ => rfl) (fun _ => rfl) (Tenured.answer hown)

theorem tenured_connect (h : Handle) (address : Value) :
    Tenured h.descriptor (h.connect address) := by
  apply Tenured.whenOpen
  intro d hown
  split
  · exact Tenured.done _ hown
  · apply Tenured.ask rfl (fun _ => rfl) (fun _ => rfl)
    intro reply
    cases reply with
    | ok value => exact Tenured.done _ hown
    | error errno => exact Tenured.done _ hown

theorem tenured_listen (h : Handle) (backlog : Option Int64) :
    Tenured h.descriptor (h.listen backlog) := by
  apply Tenured.whenOpen
  intro d hown
  exact Tenured.ask rfl (fun _ => rfl) (fun _ => rfl) (Tenured.answer hown)

theorem tenured_send (h : Handle) (data : Value) : Tenured h.descriptor (h.send data) := by
  unfold send
  split
  · exact Tenured.done _ rfl
  · apply Tenured.whenOpen
    intro d hown
    exact Tenured.ask rfl (fun _ => rfl) (fun _ => rfl) (Tenured.answer hown)

theorem tenured_receive (h : Handle) (size : Int64) :
    Tenured h.descriptor (h.receive size) := by
  apply Tenured.whenOpen
  intro d hown
  by_cases hnegative : size < 0
  · rw [if_pos hnegative]
    exact Tenured.done _ hown
  rw [if_neg hnegative]
  by_cases hlarge : unallocatable ≤ size.toNatClampNeg
  · simp only [hlarge, if_true]
    exact Tenured.done _ hown
  simp only [hlarge, if_false]
  apply Tenured.ask rfl (fun _ => rfl) (fun _ => rfl)
  intro reply
  split
  · exact Tenured.done _ hown
  · split
    · exact Tenured.done _ hown
    · exact Tenured.done _ hown
  · exact Tenured.done _ hown

theorem tenured_setBlocking (h : Handle) (flag : Value) :
    Tenured h.descriptor (h.setBlocking flag) := by
  apply Tenured.whenOpen
  intro d hown
  apply Tenured.ask rfl (fun _ => rfl) (fun _ => rfl)
  intro reply
  cases reply with
  | error errno => exact Tenured.done _ hown
  | ok flags => exact Tenured.ask rfl (fun _ => rfl) (fun _ => rfl) (Tenured.answer hown)

theorem tenured_localAddress (h : Handle) : Tenured h.descriptor h.localAddress := by
  apply Tenured.whenOpen
  intro d hown
  apply Tenured.ask rfl (fun _ => rfl) (fun _ => rfl)
  intro reply
  cases reply with
  | error errno => exact Tenured.done _ hown
  | ok endpoint => exact Tenured.done _ hown

theorem tenured_applyOption
    {h : Handle} {d : Int32} (hown : h.descriptor = some d) (option : SocketOption)
    {next : Operation Unit} (hnext : Tenured (some d) next) :
    Tenured (some d) (h.applyOption d option next) := by
  apply Tenured.ask rfl (fun _ => rfl) (fun _ => rfl)
  intro reply
  cases reply with
  | ok value => exact hnext
  | error errno => exact Tenured.done _ hown

theorem tenured_secure (h : Handle) (tag : Value) (verification hostName : Option Value) :
    Tenured h.descriptor (h.secure tag verification hostName) := by
  apply Tenured.whenOpen
  intro d hown
  split
  · exact Tenured.done _ hown
  · exact Tenured.done _ hown
  apply tenured_applyOption hown
  apply tenured_applyOption hown
  have hlast : ∀ notice, Tenured (some d)
      (.note notice (.done (.ok (), h)) : Operation Unit) :=
    fun notice => Tenured.note notice (Tenured.done _ hown)
  unfold applyHostName
  split
  · exact hlast _
  · exact hlast _
  · split
    · exact Tenured.done _ hown
    · exact tenured_applyOption hown _ (hlast _)

theorem tenured_joinNetwork (h : Handle) (network : Value) :
    Tenured h.descriptor (h.joinNetwork network) := by
  apply Tenured.whenOpen
  intro d hown
  split
  · exact Tenured.ask rfl (fun _ => rfl) (fun _ => rfl) (Tenured.answer hown)
  · exact Tenured.done _ hown

/-! ## The handle as a stream -/

theorem tenured_giveBack (h : Handle) : Tenured h.descriptor h.giveBack := by
  unfold giveBack
  cases hown : h.descriptor with
  | none => exact Tenured.done _ hown
  | some d =>
      apply Tenured.askClose
      · exact Tenured.note _ (Tenured.done _ rfl)
      · intro errno
        exact Tenured.done _ hown

theorem tenured_serve (request : Stream.Request) (h : Handle) :
    Tenured h.descriptor (serve request h) := by
  cases request with
  | read size =>
      cases hown : h.descriptor with
      | none =>
          simp only [serve, hown]
          exact Tenured.done _ hown
      | some d =>
          simp only [serve, hown]
          exact Tenured.ask rfl (fun _ => rfl) (fun _ => rfl) fun _ => Tenured.done _ hown
  | write data =>
      cases hown : h.descriptor with
      | none =>
          simp only [serve, hown]
          exact Tenured.done _ hown
      | some d =>
          simp only [serve, hown]
          exact Tenured.ask rfl (fun _ => rfl) (fun _ => rfl) fun _ => Tenured.done _ hown
  | control request argument =>
      cases request with
      | close => exact tenured_giveBack h
      | flush => exact Tenured.done _ rfl
      | other code => exact Tenured.done _ rfl

theorem tenured_transfer (transfer : Dialogue ByteStream α) (h : Handle) :
    Tenured h.descriptor (h.transfer transfer) := by
  unfold Handle.transfer
  induction transfer generalizing h with
  | done value => exact Tenured.done value rfl
  | note notice next ih => exact Tenured.note notice (ih h)
  | ask request next ih =>
      apply Tenured.bind (tenured_serve request h)
      intro reply h
      exact ih reply h

theorem Method.tenured
    (patience : Nat) (h : Handle) {method : Method} (hmethod : method ≠ .accept) :
    Tenured h.descriptor (method.perform patience h) := by
  cases method with
  | accept => exact absurd rfl hmethod
  | bind address => exact (tenured_bind h address).map _
  | connect address => exact (tenured_connect h address).map _
  | listen backlog => exact (tenured_listen h backlog).map _
  | send data => exact (tenured_send h data).map _
  | receive size => exact (tenured_receive h size).map _
  | setBlocking flag => exact (tenured_setBlocking h flag).map _
  | setOption level option value => exact Tenured.note _ (Tenured.done _ rfl)
  | makeFile => exact Tenured.done _ rfl
  | localAddress => exact (tenured_localAddress h).map _
  | close => exact (tenured_transfer Stream.close h).map _
  | secure tag verification hostName => exact (tenured_secure h tag verification hostName).map _
  | joinNetwork network => exact (tenured_joinNetwork h network).map _
  | stream method => exact (tenured_transfer (method.perform patience) h).map _

/-- What a method does: its calls are the tenure of the handle's descriptor, or it accepted a
connection and made a handle for it. -/
inductive Conduct (h : Handle) : List (Exchange NetworkStack) → Answer → Handle → Prop where
  | kept {calls : List (Exchange NetworkStack)} {answer : Answer} {after : Handle}
      (htenure : Tenure h.descriptor calls after.descriptor) (hmade : answer.made? = none) :
      Conduct h calls answer after
  | accepted {d client : Int32} {peer : Option Endpoint} {answer : Answer} {made : Handle}
      (hown : h.descriptor = some d) (hmade : answer.made? = some made)
      (hclient : made.descriptor = owned client) :
      Conduct h [⟨.accept d, .ok (client, peer)⟩] answer h

namespace Conduct

variable {h after : Handle} {calls : List (Exchange NetworkStack)} {answer : Answer}

theorem names
    (hconduct : Conduct h calls answer after) (call : Exchange NetworkStack)
    (hcall : call ∈ calls) :
    ∃ d, h.descriptor = some d ∧ call.request.descriptor? = some d := by
  cases hconduct with
  | kept htenure hmade => exact htenure.names call hcall
  | accepted hown hmade hclient =>
      rw [List.mem_singleton] at hcall
      rw [hcall]
      exact ⟨_, hown, rfl⟩

theorem left_of_none
    (hconduct : Conduct h calls answer after) (hown : h.descriptor = none) :
    after.descriptor = none := by
  cases hconduct with
  | kept htenure hmade =>
      rw [hown] at htenure
      exact htenure.of_none.2
  | accepted hopen hmade hclient => exact hown

theorem left_of_not_closed
    (hconduct : Conduct h calls answer after) (hback : ∀ call ∈ calls, givenBack? call = none) :
    after.descriptor = h.descriptor := by
  cases hconduct with
  | kept htenure hmade => exact htenure.left_of_not_closed hback
  | accepted hown hmade hclient => rfl

theorem left_of_closed
    (hconduct : Conduct h calls answer after) {first later : List (Exchange NetworkStack)}
    {call : Exchange NetworkStack} {d : Int32}
    (hcalls : calls = first ++ call :: later) (hback : givenBack? call = some d) :
    later = [] ∧ after.descriptor = none := by
  cases hconduct with
  | kept htenure hmade => exact htenure.left_of_closed hcalls hback
  | accepted hown hmade hclient =>
      cases first with
      | nil =>
          cases hcalls
          cases hback
      | cons other first => cases first <;> cases hcalls

end Conduct

section

variable {σ : Type} (respond : Responder NetworkStack σ) (state : σ)

theorem Method.made?_eq_none
    (patience : Nat) (h : Handle) {method : Method} (hmethod : method ≠ .accept) :
    ((method.perform patience h).run respond state).value.1.made? = none := by
  cases method with
  | accept => exact absurd rfl hmethod
  | setOption level option value => rfl
  | makeFile => rfl
  | _ =>
      simp only [Method.perform, Dialogue.run_map, Prod.map]
      rfl

theorem Method.conduct (patience : Nat) (h : Handle) (method : Method) :
    Conduct h ((method.perform patience h).run respond state).exchanges
      ((method.perform patience h).run respond state).value.1
      ((method.perform patience h).run respond state).value.2 := by
  by_cases hmethod : method = .accept
  · subst hmethod
    simp only [Method.perform, Handle.accept, Dialogue.run_map]
    cases hown : h.descriptor with
    | none =>
        rw [whenOpen_closed hown]
        exact Conduct.kept (Tenure.nil h.descriptor) rfl
    | some d =>
        rw [whenOpen_open hown]
        simp only [Dialogue.run]
        cases (respond (.accept d) state).1 with
        | error errno =>
            apply Conduct.kept _ rfl
            rw [hown]
            simp only [Dialogue.run, Prod.map, id, hown]
            exact Tenure.call rfl rfl rfl (Tenure.nil (some d))
        | ok accepted => exact Conduct.accepted hown rfl rfl
  · exact Conduct.kept (method.tenured patience h hmethod σ respond state)
      (method.made?_eq_none respond state patience h hmethod)

/-! ## The ways to close -/

def Method.Closes : Method → Prop
  | .close | .stream .close | .stream (.bareControl .close _) => True
  | _ => False

def Answer.Closed : Answer → Prop
  | .done (.ok ()) | .stream (.closed (.ok ())) | .stream (.count (.ok _)) => True
  | _ => False

theorem giveBack_isOk_iff (h : Handle) :
    (h.giveBack.run respond state).value.1.isOk = true ↔
      (h.giveBack.run respond state).value.2.descriptor = none := by
  unfold giveBack
  cases hown : h.descriptor with
  | none => simp [Dialogue.run, hown, Except.isOk, Except.toBool]
  | some d =>
      simp only [Dialogue.run]
      cases (respond (.close d) state).1 with
      | ok value => simp [Dialogue.run, Except.isOk, Except.toBool]
      | error errno => simp [Dialogue.run, hown, Except.isOk, Except.toBool]

/-- All ways to close are one way to give the descriptor back, worded differently. -/
theorem Method.perform_of_closes
    (patience : Nat) (h : Handle) {method : Method} (hcloses : method.Closes) :
    ∃ answer : Except Errno Nat → Answer,
      method.perform patience h = h.giveBack.map (Prod.map answer id) ∧
        ∀ outcome, (answer outcome).Closed ↔ outcome.isOk = true := by
  unfold Closes at hcloses
  split at hcloses
  · refine ⟨fun outcome => .done (match outcome with
      | .ok _ => .ok ()
      | .error e => .error (.system e)), ?_, ?_⟩
    · simp only [perform, Handle.close, Handle.transfer, Stream.close, Dialogue.relay, serve,
        Dialogue.map_eq_bind, Dialogue.bind_assoc]
      rfl
    · intro outcome
      cases outcome <;> simp [Answer.Closed, Except.isOk, Except.toBool]
  · refine ⟨fun outcome => .stream (.closed (match outcome with
      | .ok _ => .ok ()
      | .error e => .error (.system e))), ?_, ?_⟩
    · simp only [perform, Handle.transfer, Stream.Method.perform, Stream.close, Dialogue.relay,
        serve, Dialogue.map_eq_bind, Dialogue.bind_ask, Dialogue.bind_done, Dialogue.bind_assoc]
      rfl
    · intro outcome
      cases outcome <;> simp [Answer.Closed, Except.isOk, Except.toBool]
  · refine ⟨fun outcome => .stream (.count outcome), ?_, ?_⟩
    · simp only [perform, Handle.transfer, Stream.Method.perform, Dialogue.relay, serve,
        Dialogue.map_eq_bind, Dialogue.bind_assoc]
      rfl
    · intro outcome
      cases outcome <;> simp [Answer.Closed, Except.isOk, Except.toBool]
  · exact hcloses.elim

/-- A method that closes answers that it did exactly if no descriptor is left. -/
theorem Method.closed_iff
    (patience : Nat) (h : Handle) {method : Method} (hcloses : method.Closes) :
    ((method.perform patience h).run respond state).value.1.Closed ↔
      ((method.perform patience h).run respond state).value.2.descriptor = none := by
  obtain ⟨answer, hperform, hanswer⟩ := method.perform_of_closes patience h hcloses
  rw [hperform, Dialogue.run_map]
  exact (hanswer _).trans (giveBack_isOk_iff respond state h)

end

end ScriptSocket.Handle
