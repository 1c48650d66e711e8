import ScriptSocket.Proofs.Always
import ScriptSocket.Proofs.Lockstep
import ScriptSocket.Proofs.Stream.Conservation
import ScriptSocket.Proofs.Stream.Outcome

/-!
# Reading in place is reading

A read of some size fills a buffer of its own, and a read in place the buffer of its caller.  What
is in a buffer does not steer its filling, so the two ask the same of the stream (`lockstep_fill`).
What was received then stands at the front of the buffer, and behind it the buffer is as it was
(`always_fill`).
-/

namespace ScriptSocket

open Dialogue

namespace Stream

/-- A read stores as many bytes as it reports, and no more than there is room for; nothing if it
fails. -/
structure Honest (size : Nat) (reply : ReadReply) : Prop where
  fits : reply.stored.length ≤ size
  count : ∀ moved, reply.outcome = .ok moved → reply.stored.length = moved
  failed : ∀ e, reply.outcome = .error e → reply.stored = []

def Stores : Exchange ByteStream → Prop
  | ⟨.read size, reply⟩ => Honest size reply
  | _ => True

def received : Exchange ByteStream → List UInt8
  | ⟨.read _, reply⟩ => reply.stored
  | _ => []

/-- The bytes received in all the exchanges, in order. -/
def receivedBy (calls : List (Exchange ByteStream)) : List UInt8 := calls.flatMap received

@[simp]
theorem receivedBy_nil : receivedBy [] = [] := rfl

@[simp]
theorem receivedBy_cons (call : Exchange ByteStream) (calls : List (Exchange ByteStream)) :
    receivedBy (call :: calls) = received call ++ receivedBy calls := rfl

theorem lockstep_fill {buffer other : List UInt8} (hlength : buffer.length = other.length) :
    Lockstep (fun filling filling' : Filling =>
        filling.count = filling'.count ∧ filling.ending = filling'.ending)
      (fill buffer) (fill other) := by
  induction buffer using fill.induct generalizing other with
  | case1 =>
      rw [List.eq_nil_of_length_eq_zero hlength.symm]
      rw [fill]
      exact .done ⟨rfl, rfl⟩
  | case2 buffer hne ih =>
      have hother : other ≠ [] := by
        rw [← List.length_pos_iff, ← hlength]
        exact List.length_pos_iff.mpr hne
      rw [fill, dif_neg hne, fill, dif_neg hother, ← hlength]
      refine .ask _ fun reply => ?_
      cases houtcome : reply.outcome with
      | error e => exact .done ⟨rfl, rfl⟩
      | ok moved =>
          cases moved with
          | zero => exact .done ⟨rfl, rfl⟩
          | succ moved =>
              -- what remains is as long in both, whatever the bytes
              have hrest : ((overlay buffer reply.stored).drop (moved + 1)).length =
                  ((overlay other reply.stored).drop (moved + 1)).length := by
                simp only [List.length_drop, length_overlay, hlength]
              refine (ih reply moved hrest).map fun filling filling' hsame => ?_
              exact ⟨congrArg (moved + 1 + ·) hsame.1, hsame.2⟩

/-- A filling of a buffer with bytes that were received: they are its first bytes, and those behind
them are as before. -/
structure Filled (buffer bytes : List UInt8) (filling : Filling) : Prop where
  count : filling.count = bytes.length
  fits : bytes.length ≤ buffer.length
  buffer_eq : filling.buffer = bytes ++ buffer.drop bytes.length

theorem Filled.nothing (buffer : List UInt8) (ending : Except Errno Ending) :
    Filled buffer [] ⟨buffer, 0, ending⟩ :=
  ⟨rfl, Nat.zero_le _, rfl⟩

/-- The rest of a buffer is filled behind what it already holds. -/
theorem Filled.behind
    {first rest bytes : List UInt8} {filling : Filling} (hfilled : Filled rest bytes filling)
    {buffer : List UInt8} (hfirst : first.length ≤ buffer.length)
    (hrest : rest = buffer.drop first.length) :
    Filled buffer (first ++ bytes)
      ⟨first ++ filling.buffer, first.length + filling.count, filling.ending⟩ := by
  have hroom : rest.length = buffer.length - first.length := by
    rw [hrest, List.length_drop]
  have hfits := hfilled.fits
  constructor
  · simp only [hfilled.count, List.length_append]
  · rw [List.length_append]
    omega
  · simp only [hfilled.buffer_eq, hrest, List.drop_drop, List.length_append, List.append_assoc]

theorem always_fill (buffer : List UInt8) :
    (fill buffer).Always fun calls filling => (∀ call ∈ calls, Stores call) →
      Filled buffer (receivedBy calls) filling := by
  induction buffer using fill.induct with
  | case1 =>
      rw [fill]
      exact fun _ => Filled.nothing [] _
  | case2 buffer hne ih =>
      rw [fill, dif_neg hne]
      rintro ⟨stored, outcome⟩
      cases outcome with
      | error e =>
          intro hstores
          have hhonest : Honest buffer.length ⟨stored, .error e⟩ := hstores _ List.mem_cons_self
          have hnone : stored = [] := hhonest.failed e rfl
          subst hnone
          rw [overlay_nil]
          exact Filled.nothing buffer _
      | ok moved =>
          cases moved with
          | zero =>
              intro hstores
              have hhonest : Honest buffer.length ⟨stored, .ok 0⟩ := hstores _ List.mem_cons_self
              have hnone : stored = [] := List.length_eq_zero_iff.mp (hhonest.count 0 rfl)
              subst hnone
              rw [overlay_nil]
              exact Filled.nothing buffer _
          | succ moved =>
              refine (always_map_iff _ _).mpr ((ih ⟨stored, .ok (moved + 1)⟩ moved).imp ?_)
              intro calls filling hrest hstores
              obtain ⟨hhonest, hlater⟩ := List.forall_mem_cons.mp hstores
              have hmoved : stored.length = moved + 1 := hhonest.count _ rfl
              have hbuffer := overlay_of_length_le hhonest.fits
              -- the rest of the buffer, behind the bytes of this read, is filled by the later ones
              have hfilled := hrest hlater
              simp only [hbuffer, ← hmoved, List.drop_left, List.take_left] at hfilled ⊢
              exact hfilled.behind hhonest.fits rfl

theorem Filled.take_count
    {buffer bytes : List UInt8} {filling : Filling} (hfilled : Filled buffer bytes filling) :
    filling.buffer.take filling.count = bytes := by
  rw [hfilled.count, hfilled.buffer_eq, List.take_left]

/-- A read in place of a buffer and a read of its size make the same exchanges with a stream and
leave it in the same state.  They answer the same, but for the count in place of the bytes; and the
caller's buffer then begins with the bytes received, even before a failure, and goes on as it
was. -/
theorem readInto_reads_alike
    {σ : Type} {respond : Responder ByteStream σ} {usable : σ → Prop}
    (hkeeps : Keeps Stores respond usable) {state : σ} (husable : usable state)
    (buffer : List UInt8) :
    let sized := (read buffer.length).run respond state
    let into := (readInto buffer).run respond state
    let got := receivedBy into.exchanges
    into.exchanges = sized.exchanges ∧ into.state = sized.state ∧
    (into.value.1 = .ok .none ∨ (∃ number, into.value.1 = .ok (.int number)) ∨
      ∃ e, into.value.1 = .error (.system e)) ∧
    (into.value.1 = .ok .none ↔ sized.value = .ok .none) ∧
    (∀ number, into.value.1 = .ok (.int number) ↔
      ∃ bytes, sized.value = .ok (.bytes bytes) ∧ countValue bytes.length = .int number) ∧
    (∀ fault, into.value.1 = .error fault ↔ sized.value = .error fault) ∧
    got.length ≤ buffer.length ∧ into.value.2 = got ++ buffer.drop got.length ∧
    (sized.value = .ok .none → into.value.2 = buffer) ∧
    (∀ bytes, sized.value = .ok (.bytes bytes) →
      into.value.2 = bytes ++ buffer.drop bytes.length) := by
  obtain ⟨hcalls, -, hstate, hcount, hending⟩ :=
    (lockstep_fill (length_zeros buffer.length).symm).run respond state
  have hinto := (always_fill buffer).run_of_keeps hkeeps husable
  have hsized := (always_fill (zeros buffer.length)).run_of_keeps hkeeps husable
  rw [← hcalls] at hsized
  simp only [read_eq_map_fill, readInto_eq_map_fill, run_map, hsized.take_count]
  rw [← hcount, ← hending, hinto.count]
  generalize receivedBy ((fill buffer).run respond state).exchanges = got at hinto ⊢
  generalize ((fill buffer).run respond state).value = filling at hinto ⊢
  have hbytes (bytes : List UInt8) : Value.bytes bytes ≠ .none := by simp
  refine ⟨hcalls, hstate, ?_, ?_, ?_, ?_, hinto.fits, hinto.buffer_eq, ?_, ?_⟩
  · rcases resultOf_cases (countValue got.length) got.length filling.ending with
      hnone | hsome | hfailed
    · exact Or.inl hnone
    · exact Or.inr (Or.inl ⟨_, hsome⟩)
    · exact Or.inr (Or.inr hfailed)
  · rw [resultOf_eq_none_iff (countValue_ne_none _), resultOf_eq_none_iff (hbytes got)]
  · intro number
    rw [resultOf_eq_ok_iff (by simp)]
    simp only [resultOf_eq_ok_iff (hbytes _), Value.bytes.injEq, and_assoc, exists_and_left,
      exists_eq_left']
  · intro fault
    rw [resultOf_eq_error_iff, resultOf_eq_error_iff]
  · intro hnone
    obtain ⟨-, hzero⟩ := (resultOf_eq_none_iff (hbytes got)).mp hnone
    rw [hinto.buffer_eq, List.length_eq_zero_iff.mp hzero]
    rfl
  · intro bytes hsome
    obtain ⟨-, hsame⟩ := (resultOf_eq_ok_iff (hbytes bytes)).mp hsome
    rw [hinto.buffer_eq, Value.bytes.inj hsame]

end Stream

section

open Scripted

theorem Scripted.StreamScript.keeps_stores :
    Keeps Stream.Stores StreamScript.respond fun script => Conforming script.reads := by
  constructor
  · intro request script hconforming
    cases request with
    | read size =>
        have hmoved := moved_readReply hconforming size
        exact ⟨hmoved.fits, hmoved.count, hmoved.failed⟩
    | write data => trivial
    | control request argument => trivial
  · intro request script hconforming
    cases request with
    | read size => exact conforming_readReply hconforming size
    | write data => exact hconforming
    | control request argument => exact hconforming

namespace Stream

/-- Two bytes, and then a failure. -/
def brokenReads : StreamScript := ⟨[.data [1, 2], .fails .badDescriptor], [], []⟩

theorem readInto_reads_alike_broken :
    let sized := (read 4).run StreamScript.respond brokenReads
    let into := (readInto [7, 8, 9, 9]).run StreamScript.respond brokenReads
    into.exchanges = sized.exchanges ∧ into.exchanges.length = 2 ∧
      into.state = sized.state ∧ into.state.reads = [] ∧
      (∃ fault, sized.value = .error fault ∧ into.value.1 = .error fault) ∧
      into.value.2 = [1, 2, 9, 9] := by
  intro sized into
  have hconforming : Conforming brokenReads.reads := by simp [Conforming, brokenReads]
  obtain ⟨hcalls, hstate, -, -, -, hfailed, -, hbuffer, -, -⟩ :=
    readInto_reads_alike StreamScript.keeps_stores hconforming [7, 8, 9, 9]
  have hbroken : ¬ (Answer.value sized.value).Succeeded := by decide +kernel
  have hgot : receivedBy into.exchanges = [1, 2] := by decide +kernel
  change into.value.2 = receivedBy into.exchanges ++ _ at hbuffer
  rw [hgot] at hbuffer
  refine ⟨hcalls, by decide +kernel, hstate, by decide +kernel, ?_, hbuffer⟩
  cases hsized : sized.value with
  | ok value =>
      rw [hsized] at hbroken
      exact absurd trivial hbroken
  | error fault => exact ⟨fault, rfl, (hfailed fault).mpr hsized⟩

end Stream

end

end ScriptSocket
