import ScriptSocket.Proofs.Stream.Line

/-!
# Reading to the end

Reading to the end takes every byte up to the token that stops the bytes, in one transfer.  A source
that holds nothing but bytes can as well be read in pieces, by sized reads and by lines: each of
them takes at least one byte as long as there is one, so sooner or later one comes back empty, and
then the pieces make up what one transfer to the end gives (`toldEach_pieces`).
-/

namespace ScriptSocket

namespace Scripted

/-- A queue of pieces that hold bytes, and of nothing else. -/
def Plain (queue : List ReadEntry) : Prop :=
  ∀ entry ∈ queue, ∃ piece, piece ≠ [] ∧ entry = .data piece

theorem Plain.conforming {queue : List ReadEntry} (hplain : Plain queue) : Conforming queue := by
  intro count hmem
  obtain ⟨piece, -, hentry⟩ := hplain _ hmem
  cases hentry

theorem Plain.tokens_eq {queue : List ReadEntry} (hplain : Plain queue) :
    tokens queue = (queued queue).map .byte := by
  induction queue with
  | nil => rfl
  | cons entry rest ih =>
      obtain ⟨⟨piece, hpiece, rfl⟩, hrest⟩ := List.forall_mem_cons.mp hplain
      rw [tokens_cons, ih hrest]
      simp [ReadEntry.tokens, queued, hpiece]

/-- The bytes before the token that stops them. -/
theorem exists_bytes_before_stop (tokens : List Token) :
    ∃ (bytes : List UInt8) (after : List Token), tokens = bytes.map .byte ++ after ∧
      ∀ value, after.head? ≠ some (.byte value) := by
  induction tokens with
  | nil => exact ⟨[], [], rfl, by simp⟩
  | cons token rest ih =>
      cases token with
      | byte value =>
          obtain ⟨bytes, after, rfl, hstop⟩ := ih
          exact ⟨value :: bytes, after, rfl, hstop⟩
      | ended => exact ⟨[], .ended :: rest, rfl, by simp⟩
      | failed errno => exact ⟨[], .failed errno :: rest, rfl, by simp⟩

end Scripted

namespace Stream

open Scripted

section

variable {after : List Token}

/-- Where no byte comes first, the token that does is all that is taken, whatever the limit is. -/
theorem haul_of_stop (hstop : ∀ value, after.head? ≠ some (.byte value)) (limit : Nat) :
    haul none (limit + 1) after = ⟨[], (haul none 1 after).ending, after.tail⟩ := by
  cases after with
  | nil => rfl
  | cons token rest =>
      cases token with
      | byte value => exact absurd rfl (hstop value)
      | ended => rfl
      | failed errno => rfl

theorem haul_toEnd (hstop : ∀ value, after.head? ≠ some (.byte value)) (bytes : List UInt8) :
    Reading.toEnd.haul (bytes.map .byte ++ after) = (haul none 1 after).prepend bytes := by
  have hfits : bytes.length ≤ (bytes.map Token.byte ++ after).length + 1 := by
    simp only [List.length_append, List.length_map]
    omega
  have hleft : (bytes.map Token.byte ++ after).length + 1 - bytes.length = after.length + 1 := by
    simp only [List.length_append, List.length_map]
    omega
  have hlimit : haul none (after.length + 1) after = haul none 1 after :=
    (haul_of_stop hstop after.length).trans (haul_of_stop hstop 0).symm
  rw [Reading.haul, haul_append hfits, hleft, hlimit]

theorem Feeds.run_toEnd
    {σ : Type} {respond : Responder ByteStream σ} {usable : σ → Prop} {queue : σ → List ReadEntry}
    (hfeeds : Feeds respond usable queue) {bytes : List UInt8}
    (hstop : ∀ value, after.head? ≠ some (.byte value)) {state : σ}
    (hstate : Leaves usable queue (bytes.map .byte ++ after) state) {patience : Nat}
    (hpatience : (bytes.map Token.byte ++ after).length < patience) :
    let whole := ((Method.read none).perform patience).run respond state
    whole.value = .value ((haul none 1 after).prepend bytes).result ∧
      Leaves usable queue after.tail whole.state := by
  obtain ⟨hvalue, hleaves⟩ := hfeeds.run_reading .toEnd hstate hpatience
  have hrest : ((haul none 1 after).prepend bytes).rest = after.tail :=
    congrArg Haul.rest (haul_of_stop hstop 0)
  rw [haul_toEnd hstop bytes, hrest] at hleaves
  rw [Reading.told, haul_toEnd hstop bytes] at hvalue
  exact ⟨hvalue, hleaves⟩

end

/-! ## Pieces -/

/-- Readings that give their bytes, and at least one if there is one. -/
def Reading.Advances : Reading → Prop
  | .sized size => 0 < size
  | .line most => ∀ limit, most = some limit → 0 < limit
  | .toEnd => True
  | .into _ => False

theorem haul_bytes (last : Option UInt8) (limit : Nat) (bytes : List UInt8) :
    ∃ first others, bytes = first ++ others ∧
      haul last limit (bytes.map .byte) = ⟨first, .ok .complete, others.map .byte⟩ ∧
      (0 < limit → bytes ≠ [] → first ≠ []) := by
  induction bytes generalizing limit with
  | nil =>
      refine ⟨[], [], rfl, ?_, by simp⟩
      cases limit <;> rfl
  | cons value bytes ih =>
      cases limit with
      | zero => exact ⟨[], value :: bytes, rfl, rfl, by simp⟩
      | succ limit =>
          simp only [List.map_cons, haul]
          split
          · exact ⟨[value], bytes, rfl, rfl, by simp⟩
          · obtain ⟨first, others, rfl, hhaul, -⟩ := ih limit
            rw [hhaul]
            exact ⟨value :: first, others, rfl, rfl, by simp⟩

theorem Reading.Advances.haul_eq
    {reading : Reading} (hadvances : reading.Advances) (tokens : List Token) :
    ∃ last limit, 0 < limit ∧ reading.haul tokens = Stream.haul last limit tokens ∧
      reading.told tokens = .value (reading.haul tokens).result := by
  cases reading with
  | sized size => exact ⟨none, size, hadvances, rfl, rfl⟩
  | toEnd => exact ⟨none, _, Nat.succ_pos _, rfl, rfl⟩
  | into buffer => exact hadvances.elim
  | line most =>
      refine ⟨some newline, most.getD (tokens.length + 1), ?_, rfl, rfl⟩
      cases most with
      | none => exact Nat.succ_pos _
      | some limit => exact hadvances limit rfl

theorem Reading.Advances.told_bytes
    {reading : Reading} (hadvances : reading.Advances) (bytes : List UInt8) :
    ∃ piece others, bytes = piece ++ others ∧ (bytes ≠ [] → piece ≠ []) ∧
      reading.told (bytes.map .byte) = .value (.ok (.bytes piece)) ∧
      (reading.haul (bytes.map .byte)).rest = others.map .byte := by
  obtain ⟨last, limit, hlimit, hhaul, htold⟩ := hadvances.haul_eq (bytes.map .byte)
  obtain ⟨piece, others, hbytes, htaken, hne⟩ := haul_bytes last limit bytes
  rw [htold, hhaul, htaken]
  exact ⟨piece, others, hbytes, hne hlimit, rfl, rfl⟩

/-- Readings one after the other give pieces of the bytes.  One of them is empty only if nothing is
left, and one is if there are more of them than bytes. -/
theorem toldEach_pieces
    {readings : List Reading} (hadvances : ∀ reading ∈ readings, reading.Advances)
    (bytes : List UInt8) :
    ∃ (pieces : List (List UInt8)) (others : List UInt8), bytes = pieces.flatten ++ others ∧
      toldEach (bytes.map .byte) readings =
        pieces.map (fun piece => .value (.ok (.bytes piece))) ∧
      ([] ∈ pieces → others = []) ∧ (bytes.length < readings.length → [] ∈ pieces) := by
  induction readings generalizing bytes with
  | nil => exact ⟨[], bytes, rfl, rfl, by simp, by simp⟩
  | cons reading readings ih =>
      obtain ⟨hfirst, hothers⟩ := List.forall_mem_cons.mp hadvances
      obtain ⟨piece, left, rfl, hne, htold, hrest⟩ := hfirst.told_bytes bytes
      obtain ⟨pieces, others, rfl, htoldEach, hspent, hlong⟩ := ih hothers left
      -- a piece is empty only where no byte is left
      have hnothing (hempty : piece = []) : pieces.flatten ++ others = [] := by
        have hnone := mt hne (not_not_intro hempty)
        rw [ne_eq, Decidable.not_not, List.append_eq_nil_iff] at hnone
        exact hnone.2
      refine ⟨piece :: pieces, others, ?_, ?_, ?_, ?_⟩
      · rw [List.flatten_cons, List.append_assoc]
      · simp only [toldEach, htold, hrest, htoldEach, List.map_cons]
      · intro hmem
        rcases List.mem_cons.mp hmem with hempty | hmem
        · exact (List.append_eq_nil_iff.mp (hnothing hempty.symm)).2
        · exact hspent hmem
      · intro hlength
        by_cases hempty : piece = []
        · exact hempty ▸ List.mem_cons_self
        · have hpos := List.length_pos_iff.mpr hempty
          rw [List.length_append, List.length_cons] at hlength
          exact List.mem_cons_of_mem _ (hlong (by omega))

/-- Reading to the end is answered over every queue, if it is given the patience to meet all its
tokens.  It takes the bytes up to the token that stops them, and that token, and nothing behind it.
An end of stream lets it give the bytes; so does a stream that would block, if there are any, and
if there are none the answer is the value `none`; any other failure is passed on.  From a queue of
bytes alone it gives all of them.  And there any readings in pieces that advance give first bytes of
them, piece by piece: all of them once a piece is empty, which is so at the latest when there are
more pieces than bytes. -/
theorem reading_to_end_joins_pieces
    {σ : Type} {respond : Responder ByteStream σ} {usable : σ → Prop} {queue : σ → List ReadEntry}
    (hfeeds : Feeds respond usable queue) {state : σ} (husable : usable state)
    (hconforming : Conforming (queue state)) {patience : Nat}
    (hpatience : (tokens (queue state)).length < patience) :
    let whole := ((Method.read none).perform patience).run respond state
    let source := queued (queue state)
    (whole.value ≠ .unanswered ∧
      ∃ (bytes : List UInt8) (after : List Token),
        tokens (queue state) = bytes.map .byte ++ after ∧
        (∀ value, after.head? ≠ some (.byte value)) ∧
        tokens (queue whole.state) = after.tail ∧
        (after.head? = none ∨ after.head? = some .ended →
          whole.value = .value (.ok (.bytes bytes))) ∧
        (after.head? = some (.failed .again) →
          whole.value = .value (.ok (if bytes = [] then .none else .bytes bytes))) ∧
        ∀ errno, errno ≠ .again → after.head? = some (.failed errno) →
          whole.value = .value (.error (.system errno))) ∧
    (Plain (queue state) →
      whole.value = .value (.ok (.bytes source)) ∧
      ∀ readings : List Reading, (∀ reading ∈ readings, reading.Advances) →
        ∃ pieces : List (List UInt8),
          ((performEach patience (readings.map Reading.method)).run respond state).value =
            pieces.map (fun piece => .value (.ok (.bytes piece))) ∧
          pieces.flatten <+: source ∧ ([] ∈ pieces → pieces.flatten = source) ∧
          (source.length < readings.length → [] ∈ pieces)) := by
  intro whole source
  have hstate : Leaves usable queue (tokens (queue state)) state := ⟨husable, hconforming, rfl⟩
  constructor
  · obtain ⟨bytes, after, htokens, hstop⟩ := exists_bytes_before_stop (tokens (queue state))
    obtain ⟨hvalue, hleaves⟩ := hfeeds.run_toEnd hstop (htokens ▸ hstate) (htokens ▸ hpatience)
    change whole.value = _ at hvalue
    refine ⟨by simp [hvalue], bytes, after, htokens, hstop, hleaves.tokens_eq, ?_, ?_, ?_⟩
    · intro hended
      rw [hvalue, result_of_ended hended]
    · intro hblocked
      rw [hvalue, result_of_blocked hblocked]
    · intro errno herrno hfailed
      rw [hvalue, result_of_failed herrno hfailed]
  · intro hplain
    constructor
    · -- nothing stops the bytes of a plain queue but its end
      have hbytes : tokens (queue state) = source.map .byte ++ [] := by
        rw [hplain.tokens_eq, List.append_nil]
      have hvalue :=
        (hfeeds.run_toEnd (by simp) (hbytes ▸ hstate) (hbytes ▸ hpatience)).1
      rw [result_of_ended (Or.inl rfl)] at hvalue
      exact hvalue
    · intro readings hadvances
      obtain ⟨hpieces, -⟩ := hfeeds.run_readings readings hstate hpatience
      obtain ⟨pieces, others, hsource, htold, hspent, hlong⟩ := toldEach_pieces hadvances source
      refine ⟨pieces, ?_, ⟨others, hsource.symm⟩, ?_, hlong⟩
      · rw [hpieces, hplain.tokens_eq, htold]
      · intro hempty
        have hall := hsource
        rw [hspent hempty, List.append_nil] at hall
        exact hall.symm

/-- Two pieces, read by sizes and by lines until nothing comes. -/
theorem reading_to_end_joins_pieces_by_lines :
    let script : StreamScript := ⟨[.data [72, 105, 10], .data [33]], [], []⟩
    let readings := [.sized 2, .line (some 1), .sized 3, .line none, .sized 1]
    ((Method.read none).perform 5 |>.run StreamScript.respond script).value =
        .value (.ok (.bytes [72, 105, 10, 33])) ∧
      ∃ pieces : List (List UInt8),
        ((performEach 5 (readings.map Reading.method)).run StreamScript.respond script).value =
            pieces.map (fun piece => .value (.ok (.bytes piece))) ∧
          [] ∈ pieces ∧ pieces.flatten = [72, 105, 10, 33] := by
  intro script readings
  have hplain : Plain script.reads := by
    simp [Plain, script]
  have hadvances : ∀ reading ∈ readings, reading.Advances := by
    simp [readings, Reading.Advances]
  have hpatience : (tokens script.reads).length < 5 := by decide
  obtain ⟨hwhole, hpieces⟩ := (reading_to_end_joins_pieces StreamScript.feeds trivial
    hplain.conforming hpatience).2 hplain
  obtain ⟨pieces, hvalue, -, hall, hlong⟩ := hpieces readings hadvances
  have hempty : [] ∈ pieces := hlong (by decide)
  exact ⟨hwhole, pieces, hvalue, hempty, hall hempty⟩

end Stream

end ScriptSocket
