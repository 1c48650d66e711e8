import ScriptSocket.Ip.Literal

/-!
# Reading canonical text back

The canonical text of an address is a literal of that address, for every address of both kinds.  The
number in each field reads back from its digits; fields hold no separator, so they are found again;
and the zeros left out as `::` are just as many as the segments around them leave room for.  No text
is a literal of both kinds, as a colon stands in one of them and not in the other.
-/

namespace ScriptSocket.Ip

/-! ## Numbers in fields -/

theorem digitValue?_digit {d : Nat} (hd : d < 16) : digitValue? (digit d) = some d := by
  have hall : ∀ d : Fin 16, digitValue? (digit d) = some d.val := by decide
  exact hall ⟨d, hd⟩

theorem digit_ne_separator {d : Nat} (hd : d < 16) : digit d ≠ '.' ∧ digit d ≠ ':' := by
  have hall : ∀ d : Fin 16, digit d ≠ '.' ∧ digit d ≠ ':' := by decide
  exact hall ⟨d, hd⟩

theorem eq_zero_of_digit_eq_zero {d : Nat} (hd : d < 16) (hzero : digit d = '0') : d = 0 := by
  have hall : ∀ d : Fin 16, digit d = '0' → d.val = 0 := by decide
  exact hall ⟨d, hd⟩ hzero

theorem number?_map_digit
    {base : Nat} (hbase : base ≤ 16) {digits : List Nat} (hdigits : ∀ d ∈ digits, d < base) :
    number? base (digits.map digit) = some (digits.foldl (fun n d => n * base + d) 0) := by
  unfold number?
  generalize 0 = start
  induction digits generalizing start with
  | nil => rfl
  | cons d digits ih =>
      have hd : d < base := hdigits d List.mem_cons_self
      have hvalue := digitValue?_digit (by omega : d < 16)
      simp only [List.map_cons, List.foldlM_cons, hvalue, List.foldl_cons]
      simp only [Option.bind_eq_bind, Option.bind_some, hd, if_true]
      exact ih (fun other hother => hdigits other (List.mem_cons_of_mem _ hother)) _

/-- Digits of a base that write a value, the most significant first. -/
structure Numeral (base most value : Nat) (digits : List Nat) : Prop where
  nonempty : digits ≠ []
  short : digits.length ≤ most
  digit_lt : ∀ d ∈ digits, d < base
  value_eq : digits.foldl (fun n d => n * base + d) 0 = value

theorem exists_numeral_octetText (n : UInt8) :
    ∃ digits, octetText n = digits.map digit ∧ Numeral 10 3 n.toNat digits ∧
      (digits.head? = some 0 → digits = [0]) := by
  have hn := n.toNat_lt
  unfold octetText
  split
  · rename_i h
    simp only [UInt8.lt_iff_toNat_lt, UInt8.reduceToNat] at h
    refine ⟨[n.toNat], rfl, ⟨by simp, by simp, ?_, ?_⟩, ?_⟩
    · simp; omega
    · simp
    · simp
  · split
    · rename_i hten h
      simp only [UInt8.lt_iff_toNat_lt, UInt8.reduceToNat] at h hten
      refine ⟨[n.toNat / 10, n.toNat % 10], rfl, ⟨by simp, by simp, ?_, ?_⟩, ?_⟩
      · simp; omega
      · simp; omega
      · simp; omega
    · rename_i hten h
      simp only [UInt8.lt_iff_toNat_lt, UInt8.reduceToNat] at h hten
      refine ⟨[n.toNat / 100, n.toNat / 10 % 10, n.toNat % 10], rfl,
        ⟨by simp, by simp, ?_, ?_⟩, ?_⟩
      · simp; omega
      · simp; omega
      · simp; omega

theorem exists_numeral_groupText (n : UInt16) :
    ∃ digits, groupText n = digits.map digit ∧ Numeral 16 4 n.toNat digits := by
  have hn := n.toNat_lt
  unfold groupText
  split
  · rename_i h
    simp only [UInt16.lt_iff_toNat_lt, UInt16.reduceToNat] at h
    refine ⟨[n.toNat], rfl, by simp, by simp, ?_, ?_⟩
    · simp; omega
    · simp
  · split
    · rename_i hten h
      simp only [UInt16.lt_iff_toNat_lt, UInt16.reduceToNat] at h
      refine ⟨[n.toNat / 0x10, n.toNat % 0x10], rfl, by simp, by simp, ?_, ?_⟩
      · simp; omega
      · simp; omega
    · split
      · rename_i h
        simp only [UInt16.lt_iff_toNat_lt, UInt16.reduceToNat] at h
        refine ⟨[n.toNat / 0x100, n.toNat / 0x10 % 0x10, n.toNat % 0x10], rfl,
          by simp, by simp, ?_, ?_⟩
        · simp; omega
        · simp; omega
      · refine ⟨[n.toNat / 0x1000, n.toNat / 0x100 % 0x10, n.toNat / 0x10 % 0x10,
          n.toNat % 0x10], rfl, by simp, by simp, ?_, ?_⟩
        · simp; omega
        · simp; omega

theorem Numeral.separators_not_mem
    {base most value : Nat} {digits : List Nat} (hnumeral : Numeral base most value digits)
    (hbase : base ≤ 16) : '.' ∉ digits.map digit ∧ ':' ∉ digits.map digit := by
  constructor <;>
  · intro hmem
    obtain ⟨d, hd, heq⟩ := List.mem_map.mp hmem
    have hlt := hnumeral.digit_lt d hd
    have hne := digit_ne_separator (by omega : d < 16)
    simp [heq] at hne

theorem octet?_octetText (n : UInt8) : octet? (octetText n) = some n := by
  obtain ⟨digits, htext, hnumeral, hlead⟩ := exists_numeral_octetText n
  have hvalue := number?_map_digit (by omega : 10 ≤ 16) hnumeral.digit_lt
  have hshape : ¬ (digits.map digit = [] ∨ 3 < (digits.map digit).length ∨
      ((digits.map digit).head? = some '0' ∧ digits.map digit ≠ ['0'])) := by
    have hnonempty := hnumeral.nonempty
    have hshort := hnumeral.short
    rintro (hempty | hlong | ⟨hhead, hmore⟩)
    · exact hnonempty (List.map_eq_nil_iff.mp hempty)
    · rw [List.length_map] at hlong
      omega
    · -- a leading zero stands alone
      obtain ⟨d, rest, rfl⟩ := List.exists_cons_of_ne_nil hnonempty
      have hlt := hnumeral.digit_lt d List.mem_cons_self
      have hzero := eq_zero_of_digit_eq_zero (by omega : d < 16) (by simpa using hhead)
      rw [hzero] at hlead hmore
      have halone := hlead rfl
      rw [halone] at hmore
      exact hmore (by decide)
  unfold octet?
  rw [htext, if_neg hshape, hvalue, hnumeral.value_eq, Option.bind_some, if_pos n.toNat_lt,
    UInt8.ofNat_toNat]

theorem group?_groupText (n : UInt16) : group? (groupText n) = some n := by
  obtain ⟨digits, htext, hnumeral⟩ := exists_numeral_groupText n
  have hvalue := number?_map_digit (Nat.le_refl 16) hnumeral.digit_lt
  have hshape : ¬ (digits.map digit = [] ∨ 4 < (digits.map digit).length) := by
    have hshort := hnumeral.short
    rintro (hempty | hlong)
    · exact hnumeral.nonempty (List.map_eq_nil_iff.mp hempty)
    · rw [List.length_map] at hlong
      omega
  unfold group?
  rw [htext, if_neg hshape, hvalue, hnumeral.value_eq, Option.map_some, UInt16.ofNat_toNat]

theorem octetText_separators (n : UInt8) : '.' ∉ octetText n ∧ ':' ∉ octetText n := by
  obtain ⟨digits, htext, hnumeral, -⟩ := exists_numeral_octetText n
  rw [htext]
  exact hnumeral.separators_not_mem (by omega)

theorem octetText_ne_nil (n : UInt8) : octetText n ≠ [] := by
  obtain ⟨digits, htext, hnumeral, -⟩ := exists_numeral_octetText n
  rw [htext]
  exact mt List.map_eq_nil_iff.mp hnumeral.nonempty

theorem groupText_ne_nil (n : UInt16) : groupText n ≠ [] := by
  obtain ⟨digits, htext, hnumeral⟩ := exists_numeral_groupText n
  rw [htext]
  exact mt List.map_eq_nil_iff.mp hnumeral.nonempty

theorem colon_not_mem_groupText (n : UInt16) : ':' ∉ groupText n := by
  obtain ⟨digits, htext, hnumeral⟩ := exists_numeral_groupText n
  rw [htext]
  exact (hnumeral.separators_not_mem (by omega)).2

/-! ## IPv4 -/

theorem V4.parse?_text (x : V4) : V4.parse? x.text = some x := by
  have hfields : fields '.' x.text =
      [octetText x.a, octetText x.b, octetText x.c, octetText x.d] := by
    apply fields_joined
    · simp
    · simp [(octetText_separators _).1]
  unfold V4.parse?
  rw [hfields]
  simp [octet?_octetText]

theorem V4.colon_not_mem_text (x : V4) : ':' ∉ x.text := by
  simp [V4.text, joined, (octetText_separators _).2]

/-- Dotted text is too long to be a group. -/
theorem V4.group?_text (x : V4) : group? x.text = none := by
  have hlength : 4 < x.text.length := by
    have ha := List.length_pos_iff.mpr (octetText_ne_nil x.a)
    have hb := List.length_pos_iff.mpr (octetText_ne_nil x.b)
    have hc := List.length_pos_iff.mpr (octetText_ne_nil x.c)
    have hd := List.length_pos_iff.mpr (octetText_ne_nil x.d)
    simp only [V4.text, joined, List.length_append, List.length_cons]
    omega
  unfold group?
  rw [if_pos (Or.inr hlength)]

/-! ## Rows of groups -/

theorem fields_groupsText {segments : List UInt16} (hne : segments ≠ []) :
    fields ':' (groupsText segments) = segments.map groupText := by
  apply fields_joined
  · simpa using hne
  · intro row hrow
    obtain ⟨n, -, rfl⟩ := List.mem_map.mp hrow
    exact colon_not_mem_groupText n

theorem groupsText_ne_nil {segments : List UInt16} (hne : segments ≠ []) :
    groupsText segments ≠ [] := by
  obtain ⟨n, rest, rfl⟩ := List.exists_cons_of_ne_nil hne
  cases rest <;> simp [groupsText, joined, groupText_ne_nil]

theorem groups?_groupsText (segments : List UInt16) :
    groups? (groupsText segments) = some segments := by
  have hrow : (segments.map groupText).mapM group? = some segments := by
    induction segments with
    | nil => rfl
    | cons n rest ih => simp [group?_groupText, ih]
  unfold groups?
  by_cases hempty : segments = []
  · rw [hempty]
    rfl
  · rw [if_neg (groupsText_ne_nil hempty), fields_groupsText hempty, hrow]

theorem ending?_groupsText (segments : List UInt16) :
    ending? (groupsText segments) = some segments := by
  have hrow : endingSegments? (segments.map groupText) = some segments := by
    induction segments with
    | nil => rfl
    | cons n rest ih =>
        cases rest with
        | nil => simp [endingSegments?, group?_groupText]
        | cons next rest =>
            simp only [List.map_cons, endingSegments?, group?_groupText] at ih ⊢
            simp [ih]
  unfold ending?
  by_cases hempty : segments = []
  · rw [hempty]
    rfl
  · rw [if_neg (groupsText_ne_nil hempty), fields_groupsText hempty, hrow]

/-! ## The place of the double colon -/

theorem cut?_append_of_not_mem {field : List Char} (hfield : ':' ∉ field) (text : List Char) :
    cut? (field ++ text) = (cut? text).map fun (head, tail) => (field ++ head, tail) := by
  induction field with
  | nil => simp
  | cons c field ih =>
      simp only [List.mem_cons, not_or] at hfield
      rw [List.cons_append, cut?]
      · rw [ih hfield.2, Option.map_map]
        rfl
      · intro tail hc
        exact absurd hc.symm hfield.1

theorem cut?_colon {c : Char} (hc : c ≠ ':') (text : List Char) :
    cut? (':' :: c :: text) =
      (cut? (c :: text)).map fun (head, tail) => (':' :: head, tail) := by
  rw [cut?]
  intro tail _ htail
  exact hc (List.cons_eq_cons.mp htail).1

/-- A row of fields holds no double colon, so the first one comes after it. -/
theorem cut?_joined_append
    {rows : List (List Char)} (hrows : ∀ row ∈ rows, row ≠ [] ∧ ':' ∉ row)
    (text : List Char) :
    cut? (joined ':' rows ++ text) =
      (cut? text).map fun (head, tail) => (joined ':' rows ++ head, tail) := by
  induction rows with
  | nil => simp [joined]
  | cons row rows ih =>
      obtain ⟨-, hrow⟩ := hrows row List.mem_cons_self
      cases rows with
      | nil => exact cut?_append_of_not_mem hrow text
      | cons next rest =>
          have hnext := hrows next (by simp)
          obtain ⟨c, tail, hjoined⟩ : ∃ c tail, joined ':' (next :: rest) = c :: tail := by
            apply List.exists_cons_of_ne_nil
            cases rest <;> simp [joined, hnext.1]
          have hc : c ≠ ':' := by
            obtain ⟨d, field, rfl⟩ := List.exists_cons_of_ne_nil hnext.1
            have hd : c = d := by
              cases rest <;> simp_all [joined]
            rintro rfl
            simp [← hd] at hnext
          have hrest := ih fun other hother => hrows other (List.mem_cons_of_mem _ hother)
          rw [joined, List.append_assoc, cut?_append_of_not_mem hrow]
          · rw [List.cons_append, hjoined, List.cons_append, cut?_colon hc, ← List.cons_append,
              ← hjoined, hrest]
            simp only [Option.map_map]
            congr 1
            funext pair
            simp
          · simp

theorem cut?_groupsText_append (segments : List UInt16) (text : List Char) :
    cut? (groupsText segments ++ text) =
      (cut? text).map fun (head, tail) => (groupsText segments ++ head, tail) := by
  apply cut?_joined_append
  intro row hrow
  obtain ⟨n, -, rfl⟩ := List.mem_map.mp hrow
  exact ⟨groupText_ne_nil n, colon_not_mem_groupText n⟩

/-! ## IPv6 -/

theorem segments_of_mapped? {x : V6} {inner : V4} (hmapped : x.mapped? = some inner) :
    x.segments = [0, 0, 0, 0, 0, 0xffff] ++ inner.segments := by
  unfold V6.mapped? at hmapped
  split at hmapped
  · rename_i g h hsegments
    cases hmapped
    have hword : ∀ n : UInt16, segment (n / 256).toUInt8 n.toUInt8 = n := by
      intro n
      have hn := n.toNat_lt
      apply UInt16.toNat_inj.mp
      simp [segment]
      omega
    rw [hsegments]
    simp [V4.segments, hword]
  · cases hmapped

/-- A row of segments begins with as many zeros as `takeWhile` counts. -/
theorem eq_replicate_append_drop (segments : List UInt16) :
    segments = List.replicate (segments.takeWhile (· == 0)).length 0 ++
      segments.drop (segments.takeWhile (· == 0)).length := by
  induction segments with
  | nil => rfl
  | cons n rest ih =>
      by_cases hzero : n = 0
      · subst hzero
        simpa [List.replicate_succ] using ih
      · simp [hzero]

theorem V6.longestZeroRun_run (x : V6) :
    x.longestZeroRun.2 = 0 ∨ x.longestZeroRun.2 = x.zeroRun x.longestZeroRun.1 := by
  unfold longestZeroRun
  refine List.foldlRecOn (motive := fun best : Nat × Nat =>
    best.2 = 0 ∨ best.2 = x.zeroRun best.1) _ _ (Or.inl rfl) ?_
  intro best hbest start _
  split
  · exact Or.inr rfl
  · exact hbest

/-- The longest run of zeros, with what stands before and after it. -/
theorem V6.segments_around_zeroRun (x : V6) (hrun : 0 < x.longestZeroRun.2) :
    x.segments = x.segments.take x.longestZeroRun.1 ++
        List.replicate x.longestZeroRun.2 0 ++
        x.segments.drop (x.longestZeroRun.1 + x.longestZeroRun.2) := by
  have hlength : x.longestZeroRun.2 = x.zeroRun x.longestZeroRun.1 := by
    rcases x.longestZeroRun_run with hzero | heq
    · omega
    · exact heq
  rw [hlength, List.append_assoc, ← List.drop_drop]
  unfold zeroRun
  rw [← eq_replicate_append_drop, List.take_append_drop]

theorem V6.parse?_plain {x : V6} : V6.parse? (groupsText x.segments) = some x := by
  have hcut : cut? (groupsText x.segments) = none := by
    have happend := cut?_groupsText_append x.segments []
    rw [List.append_nil] at happend
    exact happend
  unfold parse?
  rw [hcut]
  simp [ending?_groupsText]

theorem V6.parse?_compressed {x : V6} {before after : List UInt16} {zeros : Nat}
    (hsegments : x.segments = before ++ List.replicate zeros 0 ++ after) (hzeros : 0 < zeros) :
    V6.parse? (groupsText before ++ ':' :: ':' :: groupsText after) = some x := by
  have hlength := x.length_eq
  rw [hsegments, List.length_append, List.length_append, List.length_replicate] at hlength
  have hroom : before.length + after.length < 8 := by omega
  have hleft : 8 - before.length - after.length = zeros := by omega
  unfold parse?
  rw [cut?_groupsText_append]
  simp only [cut?, Option.map_some, List.append_nil, groups?_groupsText, ending?_groupsText]
  simp [hroom, hleft, V6.ofSegments?_eq_some_iff, hsegments]

theorem V6.parse?_mapped {x : V6} {inner : V4} (hmapped : x.mapped? = some inner) :
    V6.parse? ("::ffff:".toList ++ inner.text) = some x := by
  have htail : ending? ("ffff:".toList ++ inner.text) = some (0xffff :: inner.segments) := by
    have hfields : fields ':' ("ffff:".toList ++ inner.text) = ["ffff".toList, inner.text] := by
      have happend := fields_append (by decide : ':' ∉ "ffff".toList) inner.text
      rw [fields_self inner.colon_not_mem_text] at happend
      exact happend
    have hgroup : group? "ffff".toList = some 0xffff := by decide
    unfold ending?
    rw [if_neg (by simp), hfields]
    simp only [endingSegments?, hgroup, inner.group?_text, inner.parse?_text]
    simp
  have hcut : cut? ("::ffff:".toList ++ inner.text) =
      some ([], "ffff:".toList ++ inner.text) := rfl
  have hsegments := segments_of_mapped? hmapped
  unfold parse?
  rw [hcut]
  simp only [htail]
  simp [groups?, V4.segments, V6.ofSegments?_eq_some_iff, hsegments]

theorem V6.parse?_text (x : V6) : V6.parse? x.text = some x := by
  unfold text
  cases hmapped : x.mapped? with
  | some inner => exact parse?_mapped hmapped
  | none =>
      by_cases hrun : 1 < x.longestZeroRun.2
      · simp only [hrun, if_true]
        exact parse?_compressed (x.segments_around_zeroRun (by omega)) (by omega)
      · simp only [hrun, if_false]
        exact parse?_plain

/-! ## Literals of either kind -/

theorem exists_field_of_mem
    {separator c : Char} (hne : c ≠ separator) {text : List Char} (hmem : c ∈ text) :
    ∃ field ∈ fields separator text, c ∈ field := by
  induction text with
  | nil => cases hmem
  | cons other text ih =>
      rw [List.mem_cons] at hmem
      unfold fields
      split
      · rename_i hseparator
        have hlater : c ∈ text := by
          rcases hmem with rfl | hlater
          · exact absurd hseparator hne
          · exact hlater
        obtain ⟨field, hfield, hin⟩ := ih hlater
        exact ⟨field, List.mem_cons_of_mem _ hfield, hin⟩
      · rcases hmem with rfl | hlater
        · split
          · exact ⟨[c], List.mem_cons_self, List.mem_cons_self⟩
          · exact ⟨_, List.mem_cons_self, List.mem_cons_self⟩
        · obtain ⟨field, hfield, hin⟩ := ih hlater
          split
          · rename_i hnone
            rw [hnone] at hfield
            cases hfield
          · rename_i first others hfields
            rw [hfields, List.mem_cons] at hfield
            rcases hfield with rfl | hothers
            · exact ⟨_, List.mem_cons_self, List.mem_cons_of_mem _ hin⟩
            · exact ⟨field, List.mem_cons_of_mem _ hothers, hin⟩

theorem colon_not_mem_of_number?
    {base n : Nat} {text : List Char} (hnumber : number? base text = some n) : ':' ∉ text := by
  unfold number? at hnumber
  generalize 0 = start at hnumber
  induction text generalizing start with
  | nil => exact List.not_mem_nil
  | cons c text ih =>
      rw [List.foldlM_cons] at hnumber
      obtain ⟨next, hdigit, hrest⟩ := Option.bind_eq_some_iff.mp hnumber
      obtain ⟨d, hvalue, -⟩ := Option.bind_eq_some_iff.mp hdigit
      rw [List.mem_cons, not_or]
      refine ⟨?_, ih _ hrest⟩
      rintro rfl
      cases hvalue

theorem colon_not_mem_of_octet?
    {text : List Char} {n : UInt8} (hoctet : octet? text = some n) : ':' ∉ text := by
  unfold octet? at hoctet
  split at hoctet
  · cases hoctet
  · obtain ⟨value, hnumber, -⟩ := Option.bind_eq_some_iff.mp hoctet
    exact colon_not_mem_of_number? hnumber

theorem V4.colon_not_mem_of_parse?
    {text : List Char} {x : V4} (hparse : V4.parse? text = some x) : ':' ∉ text := by
  intro hcolon
  obtain ⟨field, hfield, hin⟩ := exists_field_of_mem (by decide : ':' ≠ '.') hcolon
  unfold V4.parse? at hparse
  split at hparse
  · rename_i a b c d hfields
    obtain ⟨_, ha, hparse⟩ := Option.bind_eq_some_iff.mp hparse
    obtain ⟨_, hb, hparse⟩ := Option.bind_eq_some_iff.mp hparse
    obtain ⟨_, hc, hparse⟩ := Option.bind_eq_some_iff.mp hparse
    obtain ⟨_, hd, -⟩ := Option.bind_eq_some_iff.mp hparse
    rw [hfields] at hfield
    simp only [List.mem_cons, List.not_mem_nil, or_false] at hfield
    rcases hfield with rfl | rfl | rfl | rfl
    · exact colon_not_mem_of_octet? ha hin
    · exact colon_not_mem_of_octet? hb hin
    · exact colon_not_mem_of_octet? hc hin
    · exact colon_not_mem_of_octet? hd hin
  · cases hparse

theorem V6.colon_mem_groupsText (x : V6) : ':' ∈ groupsText x.segments := by
  obtain ⟨segments, hlength⟩ := x
  match segments, hlength with
  | first :: second :: others, _ => simp [groupsText, joined]

theorem V6.colon_mem_text (x : V6) : ':' ∈ x.text := by
  unfold text
  split
  · exact List.mem_append_left _ (by decide)
  · simp only
    split
    · simp
    · exact x.colon_mem_groupsText

/-- The canonical text of an address is a literal of that address and of no other kind. -/
theorem Address.parse?_text (x : Address) : Address.parse? x.text = some x := by
  cases x with
  | v4 x => simp [Address.parse?, Address.text, x.parse?_text]
  | v6 x =>
      have hnone : V4.parse? x.text = none := by
        cases hparse : V4.parse? x.text with
        | none => rfl
        | some y => exact absurd x.colon_mem_text (V4.colon_not_mem_of_parse? hparse)
      simp [Address.parse?, Address.text, hnone, x.parse?_text]

end ScriptSocket.Ip
