import Mathlib.Algebra.Group.Nat.Defs
import ScriptSocket.Proofs.Always
import ScriptSocket.Proofs.Relay
import ScriptSocket.Proofs.Stream.Outcome
import ScriptSocket.Scripted.Stack

/-!
# Writing hands over each byte once

A stream takes some first bytes of what it is offered, or fails and takes none.  `Handover` says how
the writes of one transfer follow one another and how they end.  So at every moment of a transfer
the bytes taken are the first bytes of the data, and the next write offers the others (`HandsOver`);
and so it is still if the caller goes on with what an answer has left.
-/

namespace ScriptSocket

open Dialogue

namespace Stream

/-- A write takes no more than it is offered. -/
def TakesPrefix : Exchange ByteStream → Prop
  | ⟨.write offered, .ok count⟩ => count ≤ offered.length
  | _ => True

def taken : Exchange ByteStream → List UInt8
  | ⟨.write offered, .ok count⟩ => offered.take count
  | _ => []

/-- The bytes taken in all the exchanges, in order. -/
def takenBy (calls : List (Exchange ByteStream)) : List UInt8 := calls.flatMap taken

/-- Every exchange is a write of what those before it have left of the data, which is not empty, and
what any first exchanges have taken are first bytes of the data. -/
structure HandsOver (data : List UInt8) (calls : List (Exchange ByteStream)) : Prop where
  offers : ∀ before call after, calls = before ++ call :: after →
    ∃ rest, rest ≠ [] ∧ call.request = .write rest ∧ takenBy before ++ rest = data
  takes : ∀ before, before <+: calls → takenBy before <+: data

/-- How the writes of one transfer of `data` follow one another, and how they end. -/
inductive Handover : List UInt8 → List (Exchange ByteStream) → Except Errno Ending → Prop where
  | complete : Handover [] [] (.ok .complete)
  | refused {data : List UInt8} (hne : data ≠ []) :
      Handover data [⟨.write data, .ok 0⟩] (.ok .complete)
  | failed {data : List UInt8} (hne : data ≠ []) (e : Errno) :
      Handover data [⟨.write data, .error e⟩] (endingOf e)
  | took {data : List UInt8} {later : List (Exchange ByteStream)} {ending : Except Errno Ending}
      {count : Nat} (hcount : count < data.length)
      (hlater : Handover (data.drop (count + 1)) later ending) :
      Handover data (⟨.write data, .ok (count + 1)⟩ :: later) ending

section

variable {data rest : List UInt8} {calls later : List (Exchange ByteStream)}
  {ending : Except Errno Ending}

@[simp]
theorem takenBy_nil : takenBy [] = [] := rfl

@[simp]
theorem takenBy_cons (call : Exchange ByteStream) (calls : List (Exchange ByteStream)) :
    takenBy (call :: calls) = taken call ++ takenBy calls := rfl

@[simp]
theorem takenBy_append (calls later : List (Exchange ByteStream)) :
    takenBy (calls ++ later) = takenBy calls ++ takenBy later :=
  List.flatMap_append

theorem HandsOver.nil (data : List UInt8) : HandsOver data [] := by
  constructor
  · intro before call after hsplit
    simp at hsplit
  · intro before hbefore
    rw [List.prefix_nil.mp hbefore]
    exact List.nil_prefix

theorem HandsOver.single (hne : data ≠ []) (reply : Except Errno Nat) :
    HandsOver data [⟨.write data, reply⟩] := by
  constructor
  · intro before call after hsplit
    cases before with
    | nil =>
        obtain ⟨rfl, -⟩ := List.cons.inj hsplit
        exact ⟨data, hne, rfl, rfl⟩
    | cons first before => simp at hsplit
  · intro before hbefore
    cases before with
    | nil => exact List.nil_prefix
    | cons first before =>
        obtain ⟨rfl, hnone⟩ := List.cons_prefix_cons.mp hbefore
        rw [List.prefix_nil.mp hnone, takenBy_cons, takenBy_nil, List.append_nil]
        cases reply with
        | ok count => exact List.take_prefix count data
        | error e => exact List.nil_prefix

/-- What is handed over of the data, and then of what was left of it. -/
theorem HandsOver.append
    (hfirst : HandsOver data calls) (hrest : takenBy calls ++ rest = data)
    (hlater : HandsOver rest later) : HandsOver data (calls ++ later) := by
  constructor
  · intro before call after hsplit
    rcases List.append_eq_append_iff.mp hsplit with
      ⟨between, rfl, hafter⟩ | ⟨between, hcalls, hafter⟩
    · obtain ⟨left, hne, hrequest, htaken⟩ := hlater.offers between call after hafter
      refine ⟨left, hne, hrequest, ?_⟩
      rw [takenBy_append, List.append_assoc, htaken, hrest]
    · cases between with
      | nil =>
          obtain ⟨left, hne, hrequest, htaken⟩ := hlater.offers [] call after hafter.symm
          refine ⟨left, hne, hrequest, ?_⟩
          rw [List.append_nil] at hcalls
          rw [← hcalls, ← hrest, ← htaken, takenBy_nil, List.nil_append]
      | cons first between =>
          obtain ⟨rfl, -⟩ := List.cons.inj hafter
          exact hfirst.offers before call between hcalls
  · intro before hbefore
    rcases List.prefix_or_prefix_of_prefix hbefore (List.prefix_append calls later) with
      hshort | ⟨between, rfl⟩
    · exact hfirst.takes before hshort
    · have hbetween := hlater.takes between ((List.prefix_append_right_inj calls).mp hbefore)
      rw [takenBy_append, ← hrest]
      exact (List.prefix_append_right_inj _).mpr hbetween

/-! ## One transfer -/

theorem Handover.handsOver (hhandover : Handover data calls ending) : HandsOver data calls := by
  induction hhandover with
  | complete => exact HandsOver.nil []
  | refused hne => exact HandsOver.single hne _
  | failed hne e => exact HandsOver.single hne _
  | @took data later ending count hcount hlater ih =>
      have hne : data ≠ [] := List.length_pos_iff.mp (by omega)
      have hfirst := HandsOver.single hne (.ok (count + 1))
      exact hfirst.append (by simp [taken]) ih

/-- The transfer follows the stream: what it counts is what was taken. -/
theorem always_push (data : List UInt8) :
    (push data).Always fun calls pushed => (∀ call ∈ calls, TakesPrefix call) →
      pushed.1 = (takenBy calls).length ∧ Handover data calls pushed.2 := by
  induction data using push.induct with
  | case1 =>
      rw [push]
      exact fun _ => ⟨rfl, .complete⟩
  | case2 data hne ih =>
      rw [push, dif_neg hne]
      intro reply
      cases reply with
      | error e => exact fun _ => ⟨rfl, .failed hne e⟩
      | ok count =>
          cases count with
          | zero => exact fun _ => ⟨rfl, .refused hne⟩
          | succ count =>
              refine (always_map_iff _ _).mpr ((ih count).imp ?_)
              rintro calls ⟨rest, ending⟩ hrest hprefix
              obtain ⟨hcount, hlater⟩ := List.forall_mem_cons.mp hprefix
              obtain ⟨hlength, hhandover⟩ := hrest hlater
              simp only [TakesPrefix] at hcount
              refine ⟨?_, .took hcount hhandover⟩
              simp only [takenBy_cons, taken, List.length_append, List.length_take]
              simp only at hlength
              omega

/-! ## How a transfer ends -/

theorem getLast?_cons_eq_some_iff
    {first last : Exchange ByteStream} (hne : first ≠ last) :
    (first :: later).getLast? = some last ↔ later.getLast? = some last := by
  cases later with
  | nil => simp [hne]
  | cons second later => rw [List.getLast?_cons_cons]

theorem Handover.error_iff (hhandover : Handover data calls ending) (errno : Errno) :
    ending = .error errno ↔
      errno ≠ .again ∧ ∃ offered, ⟨.write offered, .error errno⟩ ∈ calls := by
  induction hhandover with
  | complete => simp
  | refused hne => simp
  | failed hne e =>
      rw [endingOf_eq_error_iff]
      simp
  | took hcount hlater ih =>
      rw [ih]
      simp

theorem Handover.wouldBlock_iff (hhandover : Handover data calls ending) :
    ending = .ok .wouldBlock ↔
      ∃ offered, calls.getLast? = some ⟨.write offered, .error .again⟩ := by
  induction hhandover with
  | complete => simp
  | refused hne => simp
  | failed hne e =>
      rw [endingOf_eq_wouldBlock_iff]
      simp
  | took hcount hlater ih =>
      rw [ih]
      exact exists_congr fun offered => (getLast?_cons_eq_some_iff (by simp)).symm

theorem Handover.complete_iff (hhandover : Handover data calls ending) :
    ending = .ok .complete ↔
      takenBy calls = data ∨ ∃ offered, calls.getLast? = some ⟨.write offered, .ok 0⟩ := by
  induction hhandover with
  | complete => simp
  | refused hne => simp
  | failed hne e =>
      simp [endingOf_ne_complete, taken, Ne.symm hne]
  | @took data later ending count hcount hlater ih =>
      have htaken : data.take (count + 1) ++ takenBy later = data ↔
          takenBy later = data.drop (count + 1) := by
        have hsplit := List.take_append_drop (count + 1) data
        constructor
        · intro hall
          exact List.append_cancel_left (hall.trans hsplit.symm)
        · intro hrest
          rw [hrest, hsplit]
      rw [ih]
      refine or_congr htaken.symm ?_
      exact exists_congr fun offered => (getLast?_cons_eq_some_iff (by simp)).symm

theorem Handover.none_taken_iff (hhandover : Handover data calls ending) :
    ending = .ok .wouldBlock ∧ takenBy calls = [] ↔
      data ≠ [] ∧ ∃ later, calls = ⟨.write data, .error .again⟩ :: later := by
  cases hhandover with
  | complete => simp
  | refused hne => simp
  | failed hne e => simp [endingOf_eq_wouldBlock_iff, taken, hne]
  | took hcount hlater =>
      have hne : data ≠ [] := List.length_pos_iff.mp (by omega)
      simp [taken, hne]

/-! ## What a transfer answers -/

theorem always_write (data : List UInt8) :
    (write data).Always fun calls answer => (∀ call ∈ calls, TakesPrefix call) →
      ∃ ending, Handover data calls ending ∧
        answer = resultOf (countValue (takenBy calls).length) (takenBy calls).length ending := by
  rw [write_eq_map_push]
  refine (always_map_iff _ _).mpr ((always_push data).imp ?_)
  rintro calls ⟨count, ending⟩ hpushed hprefix
  obtain ⟨rfl, hhandover⟩ := hpushed hprefix
  exact ⟨ending, hhandover, rfl⟩

/-- What the caller of a write knows to be left of its data; nothing, if the write failed. -/
def leftAfter (data : List UInt8) : Except Fault Value → Option (List UInt8)
  | .ok .none => some data
  | .ok (.int count) => some (data.drop count.toNatClampNeg)
  | _ => none

theorem eq_drop_of_leftAfter
    {count : Nat} (hcount : count < 2 ^ 63)
    (hleft : leftAfter data (resultOf (countValue count) count ending) = some rest) :
    rest = data.drop count := by
  have hnumber : (Int64.ofNat count).toNatClampNeg = count :=
    Int64.toNatClampNeg_ofNat_of_lt hcount
  unfold resultOf countValue at hleft
  split at hleft
  · simp [leftAfter] at hleft
  · split at hleft
    · rename_i hzero
      simpa [leftAfter, hzero, eq_comm] using hleft
    · simpa [leftAfter, hnumber, eq_comm] using hleft
  · simpa [leftAfter, hnumber, eq_comm] using hleft

theorem length_leftAfter_le
    {answer : Except Fault Value} (hleft : leftAfter data answer = some rest) :
    rest.length ≤ data.length := by
  unfold leftAfter at hleft
  split at hleft
  · exact Option.some.inj hleft ▸ Nat.le_refl _
  · rw [← Option.some.inj hleft, List.length_drop]
    omega
  · cases hleft

/-- The caller of a write that did not fail knows what is left: what the stream has not taken. -/
theorem Handover.left
    (hhandover : Handover data calls ending) (hlength : data.length < 2 ^ 63)
    (hleft : leftAfter data
      (resultOf (countValue (takenBy calls).length) (takenBy calls).length ending) = some rest) :
    takenBy calls ++ rest = data := by
  have htaken := hhandover.handsOver.takes calls (List.prefix_refl calls)
  have hcount := htaken.length_le
  rw [eq_drop_of_leftAfter (by omega) hleft]
  exact List.prefix_iff_eq_append.mp htaken

/-- Writes the data, and after each answer what it has left of them, at most the given number of
times.  The value is what is left in the end, or nothing if a write failed. -/
def writeOn : Nat → List UInt8 → Dialogue ByteStream (Option (List UInt8))
  | 0, data => .done (some data)
  | times + 1, data => (write data).bind fun answer =>
    match leftAfter data answer with
    | some rest => writeOn times rest
    | none => .done none

theorem always_writeOn (times : Nat) {data : List UInt8} (hlength : data.length < 2 ^ 63) :
    (writeOn times data).Always fun calls left => (∀ call ∈ calls, TakesPrefix call) →
      HandsOver data calls ∧ ∀ rest, left = some rest → takenBy calls ++ rest = data := by
  induction times generalizing data with
  | zero => exact fun _ => ⟨HandsOver.nil data, fun rest hrest => Option.some.inj hrest ▸ rfl⟩
  | succ times ih =>
      refine Always.bind ((always_write data).imp ?_)
      intro calls answer hwritten
      cases hleft : leftAfter data answer with
      | none =>
          simp only [Always, List.append_nil]
          intro hprefix
          obtain ⟨ending, hhandover, -⟩ := hwritten hprefix
          exact ⟨hhandover.handsOver, by simp⟩
      | some rest =>
          have hshorter := length_leftAfter_le hleft
          refine (ih (by omega)).imp ?_
          intro later left hlater hprefix
          obtain ⟨hcalls, hmore⟩ := List.forall_mem_append.mp hprefix
          obtain ⟨ending, hhandover, rfl⟩ := hwritten hcalls
          obtain ⟨hover, hrest⟩ := hlater hmore
          have hdata := hhandover.left hlength hleft
          refine ⟨hhandover.handsOver.append hdata hover, fun last hlast => ?_⟩
          rw [takenBy_append, List.append_assoc, hrest last hlast, hdata]

end

/-- A transfer to a stream that takes first bytes of what it is offered, or fails, offers with every
write what the writes before it have left of the data, until nothing is left, a write takes nothing
or a write fails; so the bytes taken are first bytes of the data.  The answer is their count, unless
the very first write would have blocked, when it is the value `none`, or a write failed in another
way, when it is that failure.  A caller who writes on what each answer has left has, at every
moment, handed over first bytes of the data, and knows the others, if no write fails. -/
theorem write_hands_over_once
    {σ : Type} {respond : Responder ByteStream σ} {usable : σ → Prop}
    (hkeeps : Keeps TakesPrefix respond usable) {state : σ} (husable : usable state)
    (data : List UInt8) :
    let run := (write data).run respond state
    let done := takenBy run.exchanges
    HandsOver data run.exchanges ∧ done = data.take done.length ∧
    (run.value = .ok (countValue done.length) ↔
      done = data ∨ (∃ offered, run.exchanges.getLast? = some ⟨.write offered, .ok 0⟩) ∨
        ((∃ offered, run.exchanges.getLast? = some ⟨.write offered, .error .again⟩) ∧
          0 < done.length)) ∧
    (run.value = .ok .none ↔
      data ≠ [] ∧ ∃ later, run.exchanges = ⟨.write data, .error .again⟩ :: later) ∧
    (∀ fault, run.value = .error fault ↔
      ∃ errno, fault = .system errno ∧ errno ≠ .again ∧
        ∃ offered, ⟨.write offered, .error errno⟩ ∈ run.exchanges) ∧
    (∀ times, data.length < 2 ^ 63 →
      let runs := (writeOn times data).run respond state
      HandsOver data runs.exchanges ∧
        ∀ rest, runs.value = some rest → takenBy runs.exchanges ++ rest = data) := by
  intro run done
  obtain ⟨ending, hhandover, hvalue⟩ := (always_write data).run_of_keeps hkeeps husable
  have hover := hhandover.handsOver
  have htakes := hover.takes run.exchanges (List.prefix_refl _)
  change run.value = resultOf (countValue done.length) done.length ending at hvalue
  refine ⟨hover, List.prefix_iff_eq_take.mp htakes, ?_, ?_, ?_, ?_⟩
  · rw [hvalue, resultOf_eq_ok_iff (countValue_ne_none _), hhandover.complete_iff,
      hhandover.wouldBlock_iff, or_assoc, Nat.pos_iff_ne_zero]
    exact and_iff_left rfl
  · rw [hvalue, resultOf_eq_none_iff (countValue_ne_none _), List.length_eq_zero_iff,
      hhandover.none_taken_iff]
  · intro fault
    rw [hvalue, resultOf_eq_error_iff]
    exact exists_congr fun errno => and_congr_right fun _ => hhandover.error_iff errno
  · intro times hlength
    exact (always_writeOn times hlength).run_of_keeps hkeeps husable

end Stream

/-! ## Sockets -/

/-- A send takes no more than it is offered. -/
def Handle.SendsPrefix : Exchange NetworkStack → Prop
  | ⟨.send _ offered, .ok count⟩ => count ≤ offered.length
  | _ => True

/-- Over a stack that takes first bytes of what is sent, every handle is a stream that does, open or
closed. -/
theorem Handle.keeps_takesPrefix
    {τ : Type} {below : Responder NetworkStack τ} {usable : τ → Prop}
    (hkeeps : Keeps SendsPrefix below usable) :
    Keeps Stream.TakesPrefix (serving below serve) fun state => usable state.2 := by
  constructor
  · rintro request ⟨h, under⟩ husable
    cases request with
    | read size => trivial
    | control request argument => trivial
    | write data =>
        cases hopen : h.descriptor with
        | none => simp [serving, serve, hopen, Dialogue.run, Stream.TakesPrefix]
        | some d =>
            have hsend := hkeeps.reply (.send d data) under husable
            simp only [serving, serve, hopen, Dialogue.run]
            cases hreply : (below (.send d data) under).1 with
            | error e => trivial
            | ok count =>
                rw [hreply] at hsend
                exact hsend
  · rintro request ⟨h, under⟩ husable
    exact hkeeps.usable_run (serve request h) husable

section

open Scripted

theorem Scripted.writeReply_takesPrefix
    {queue : List WriteEntry} (hhonest : ∀ count, .claims count ∉ queue) (length : Nat) :
    (∀ count, (writeReply length queue).1 = .ok count → count ≤ length) ∧
      ∀ count, .claims count ∉ (writeReply length queue).2 := by
  cases queue with
  | nil => simp [writeReply]
  | cons entry rest =>
      have hrest : ∀ count, .claims count ∉ rest :=
        fun count hmem => hhonest count (List.mem_cons_of_mem _ hmem)
      cases entry with
      | takes most =>
          refine ⟨fun count hcount => ?_, hrest⟩
          rw [← Except.ok.inj hcount]
          exact Nat.min_le_right most length
      | takesAll => exact ⟨by simp [writeReply], hrest⟩
      | fails errno => exact ⟨by simp [writeReply], hrest⟩
      | claims count => exact absurd List.mem_cons_self (hhonest count)

theorem Scripted.StackScript.sends_respond
    {request : Network.Request} (hother : ∀ d data, request ≠ .send d data)
    (script : StackScript) : (StackScript.respond request script).2.sends = script.sends := by
  cases request with
  | send d data => exact absurd rfl (hother d data)
  | setFlags d flags =>
      simp only [StackScript.respond]
      cases (plainReply script.setFlags).1 <;> rfl
  | socket family kind protocol =>
      simp only [StackScript.respond]
      split <;> rfl
  | accept d =>
      simp only [StackScript.respond]
      split <;> rfl
  | flags d =>
      simp only [StackScript.respond]
      split <;> rfl
  | localEndpoint d =>
      simp only [StackScript.respond]
      split <;> rfl
  | _ => rfl

theorem Scripted.StackScript.keeps_sendsPrefix :
    Keeps Handle.SendsPrefix StackScript.respond
      fun script => ∀ count, .claims count ∉ script.sends := by
  constructor
  · intro request script hhonest
    cases request with
    | send d data =>
        obtain ⟨htakes, -⟩ := writeReply_takesPrefix hhonest data.length
        cases hreply : (StackScript.respond (.send d data) script).1 with
        | error e => trivial
        | ok count => exact htakes count hreply
    | _ => trivial
  · intro request script hhonest
    by_cases hsend : ∃ d data, request = .send d data
    · obtain ⟨d, data, rfl⟩ := hsend
      exact (writeReply_takesPrefix hhonest data.length).2
    · simp only [not_exists] at hsend
      rw [sends_respond hsend]
      exact hhonest

namespace Stream

/-- The stack takes two bytes before it would block, and then nothing before it takes the rest. -/
def haltingSends : Handle × StackScript :=
  (⟨some 3, .ipv4, .connected, {}⟩, { sends := [.takes 2, .fails .again, .takes 0] })

theorem write_hands_over_once_halting :
    let respond := serving StackScript.respond Handle.serve
    let run := (write [1, 2, 3, 4, 5]).run respond haltingSends
    let runs := (writeOn 3 [1, 2, 3, 4, 5]).run respond haltingSends
    HandsOver [1, 2, 3, 4, 5] run.exchanges ∧ takenBy run.exchanges = [1, 2] ∧
      leftAfter [1, 2, 3, 4, 5] run.value = some [3, 4, 5] ∧
      HandsOver [1, 2, 3, 4, 5] runs.exchanges ∧ runs.exchanges.length = 4 ∧
      takenBy runs.exchanges = [1, 2, 3, 4, 5] := by
  intro respond run runs
  have hhonest : ∀ count, .claims count ∉ haltingSends.2.sends := by simp [haltingSends]
  obtain ⟨hover, -, -, -, -, hruns⟩ := write_hands_over_once
    (Handle.keeps_takesPrefix StackScript.keeps_sendsPrefix) hhonest [1, 2, 3, 4, 5]
  obtain ⟨hovers, hrest⟩ := hruns 3 (by decide)
  have hleft : runs.value = some [] := by decide +kernel
  have htaken := hrest [] hleft
  rw [List.append_nil] at htaken
  exact ⟨hover, by decide +kernel, by decide +kernel, hovers, by decide +kernel, htaken⟩

end Stream

end

end ScriptSocket
