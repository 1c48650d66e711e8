import Mathlib.Data.List.Induction
import Mathlib.Data.List.TakeWhile
import Mathlib.Logic.Function.Basic
import ScriptSocket.Network

/-!
# The ledger of descriptors

From the calls made to a network stack alone this file reads which descriptors are open.  A ledger
is in `Custody` of some holders when each open descriptor has one holder, or was leaked: its holder
is gone, the close it made at the end failed, and the log says so.

Each kind of call keeps custody, and so does whatever a single holder does in its `Tenure`.
-/

namespace ScriptSocket.Network

/-- The descriptor that a call handed out. -/
def handedOut? : Exchange NetworkStack → Option Int32
  | ⟨.socket _ _ _, .ok d⟩ => some d
  | ⟨.accept _, .ok (d, _)⟩ => some d
  | _ => none

/-- The descriptor that a call closed. -/
def givenBack? : Exchange NetworkStack → Option Int32
  | ⟨.close d, .ok ()⟩ => some d
  | _ => none

theorem request_of_givenBack?
    {call : Exchange NetworkStack} {d : Int32} (hback : givenBack? call = some d) :
    call.request = .close d := by
  unfold givenBack? at hback
  split at hback
  · simp only [Option.some.injEq] at hback
    rw [hback]
  · cases hback

theorem givenBack?_of_handedOut?
    {call : Exchange NetworkStack} {d : Int32} (hout : handedOut? call = some d) :
    givenBack? call = none := by
  unfold handedOut? at hout
  split at hout
  · rfl
  · rfl
  · cases hout

/-- A descriptor is open after some calls if one of them handed it out and none since has given it
back. -/
def Open (d : Int32) : List (Exchange NetworkStack) → Prop
  | [] => False
  | call :: later =>
    (handedOut? call = some d ∧ ∀ other ∈ later, givenBack? other ≠ some d) ∨ Open d later

instance decidableOpen (d : Int32) : (calls : List (Exchange NetworkStack)) →
    Decidable (Open d calls)
  | [] => isFalse id
  | _ :: later =>
    have := decidableOpen d later
    inferInstanceAs (Decidable (_ ∨ _))

/-- A stack hands out descriptors that are not negative and not open at that moment. -/
def HandsOutFresh (calls : List (Exchange NetworkStack)) : Prop :=
  ∀ past call later d, calls = past ++ call :: later → handedOut? call = some d →
    0 ≤ d ∧ ¬ Open d past

theorem handsOutFresh_iff {calls : List (Exchange NetworkStack)} :
    HandsOutFresh calls ↔
      ∀ i < calls.length, ∀ d ∈ calls[i]?.bind handedOut?, 0 ≤ d ∧ ¬ Open d (calls.take i) := by
  constructor
  · intro hfresh i hi d hout
    rw [List.getElem?_eq_getElem hi, Option.bind_some] at hout
    apply hfresh (calls.take i) calls[i] (calls.drop (i + 1)) d _ hout
    simp
  · rintro hfresh past call later d rfl hout
    have hcall := hfresh past.length (by simp) d
    rw [List.take_left, List.getElem?_append_right (Nat.le_refl _), Nat.sub_self] at hcall
    exact hcall hout

-- only the descriptor at hand is looked at, not every number that there is
instance (calls : List (Exchange NetworkStack)) : Decidable (HandsOutFresh calls) :=
  have (i : Nat) :
      Decidable (∀ d ∈ calls[i]?.bind handedOut?, 0 ≤ d ∧ ¬ Open d (calls.take i)) :=
    Option.decidableForallMem _
  decidable_of_iff _ handsOutFresh_iff.symm

theorem open_concat_iff
    {d : Int32} {calls : List (Exchange NetworkStack)} {call : Exchange NetworkStack} :
    Open d (calls ++ [call]) ↔
      handedOut? call = some d ∨ Open d calls ∧ givenBack? call ≠ some d := by
  induction calls with
  | nil => simp [Open]
  | cons first calls ih =>
      simp only [List.cons_append, Open, ih, List.mem_append, List.mem_singleton, or_imp,
        forall_and, forall_eq]
      tauto

theorem HandsOutFresh.of_append
    {first second : List (Exchange NetworkStack)} (hfresh : HandsOutFresh (first ++ second)) :
    HandsOutFresh first := by
  intro past call later d hcalls hout
  apply hfresh past call (later ++ second) d _ hout
  rw [hcalls, List.append_assoc, List.cons_append]

theorem HandsOutFresh.last
    {calls : List (Exchange NetworkStack)} {call : Exchange NetworkStack} {d : Int32}
    (hfresh : HandsOutFresh (calls ++ [call])) (hout : handedOut? call = some d) :
    0 ≤ d ∧ ¬ Open d calls :=
  hfresh calls call [] d rfl hout

/-! ## Custody -/

/-- The last call that named a descriptor was a failed close, and the log has it as the close of an
abandoned socket. -/
def Leaked (d : Int32) (calls : List (Exchange NetworkStack)) (notices : List Notice) : Prop :=
  ∃ errno first last, calls = first ++ ⟨.close d, .error errno⟩ :: last ∧
    (∀ call ∈ last, call.request.descriptor? ≠ some d ∧ handedOut? call ≠ some d) ∧
    .abandonedCloseFailed d errno ∈ notices

theorem Leaked.concat
    {d : Int32} {calls : List (Exchange NetworkStack)} {notices : List Notice}
    (hleaked : Leaked d calls notices) {call : Exchange NetworkStack}
    (hnames : call.request.descriptor? ≠ some d) (hout : handedOut? call ≠ some d) :
    Leaked d (calls ++ [call]) notices := by
  obtain ⟨errno, first, last, rfl, hlast, hnotice⟩ := hleaked
  refine ⟨errno, first, last ++ [call], by simp, ?_, hnotice⟩
  intro other hother
  rcases List.mem_append.mp hother with hother | hother
  · exact hlast other hother
  · rw [List.mem_singleton.mp hother]
    exact ⟨hnames, hout⟩

theorem Leaked.notices_append
    {d : Int32} {calls : List (Exchange NetworkStack)} {notices : List Notice}
    (hleaked : Leaked d calls notices) (more : List Notice) :
    Leaked d calls (notices ++ more) := by
  obtain ⟨errno, first, last, hcalls, hlast, hnotice⟩ := hleaked
  exact ⟨errno, first, last, hcalls, hlast, List.mem_append_left more hnotice⟩

/-- What leaks a descriptor comes after it was handed out. -/
theorem Leaked.after
    {d : Int32} {before later : List (Exchange NetworkStack)} {call : Exchange NetworkStack}
    {notices : List Notice} (hleaked : Leaked d (before ++ call :: later) notices)
    (hout : handedOut? call = some d) : Leaked d later notices := by
  obtain ⟨errno, first, last, hcalls, hlast, hnotice⟩ := hleaked
  rcases List.append_eq_append_iff.mp hcalls with ⟨between, -, hrest⟩ | ⟨between, -, hrest⟩
  · cases between with
    | nil =>
        cases hrest
        cases hout
    | cons other between =>
        cases hrest
        exact ⟨errno, between, last, rfl, hlast, hnotice⟩
  · cases between with
    | nil =>
        cases hrest
        cases hout
    | cons other between =>
        cases hrest
        exact absurd hout (hlast call (by simp)).2

/-- Every open descriptor has one holder or was leaked, and only open descriptors were ever
named. -/
structure Custody (calls : List (Exchange NetworkStack)) (notices : List Notice)
    (held : Nat → Option Int32) : Prop where
  distinct : ∀ p q d, held p = some d → held q = some d → p = q
  holdsOpen : ∀ p d, held p = some d → Open d calls
  kept : ∀ d, Open d calls → (∃ p, held p = some d) ∨ Leaked d calls notices
  named : ∀ past call later d, calls = past ++ call :: later →
    call.request.descriptor? = some d → Open d past

variable {calls : List (Exchange NetworkStack)} {notices : List Notice}
  {held : Nat → Option Int32} {call : Exchange NetworkStack}

theorem custody_nil : Custody [] notices fun _ => none := by
  constructor
  · intro p q d hp
    cases hp
  · intro p d hp
    cases hp
  · intro d hopen
    exact hopen.elim
  · intro past call later d hcalls
    cases past <;> cases hcalls

theorem Custody.notices_append (hcustody : Custody calls notices held) (more : List Notice) :
    Custody calls (notices ++ more) held := by
  refine ⟨hcustody.distinct, hcustody.holdsOpen, ?_, hcustody.named⟩
  intro d hopen
  rcases hcustody.kept d hopen with hheld | hleaked
  · exact Or.inl hheld
  · exact Or.inr (hleaked.notices_append more)

/-- A call that names at most what some holder has names nothing but open descriptors. -/
theorem Custody.named_concat
    (hcustody : Custody calls notices held)
    (hnames : ∀ d, call.request.descriptor? = some d → ∃ p, held p = some d)
    (past : List (Exchange NetworkStack)) (other : Exchange NetworkStack)
    (later : List (Exchange NetworkStack)) (d : Int32)
    (hcalls : calls ++ [call] = past ++ other :: later)
    (hother : other.request.descriptor? = some d) :
    Open d past := by
  rcases List.eq_nil_or_concat later with rfl | ⟨later, last, rfl⟩
  · obtain ⟨rfl, hlast⟩ := List.append_inj' hcalls rfl
    simp only [List.cons.injEq, and_true] at hlast
    subst hlast
    obtain ⟨p, hheld⟩ := hnames d hother
    exact hcustody.holdsOpen p d hheld
  · rw [List.concat_eq_append, ← List.cons_append, ← List.append_assoc] at hcalls
    obtain ⟨hinit, -⟩ := List.append_inj' hcalls rfl
    exact hcustody.named past other later d hinit hother

theorem Custody.afterCall
    (hcustody : Custody calls notices held)
    (hnames : ∀ d, call.request.descriptor? = some d → ∃ p, held p = some d)
    (hout : handedOut? call = none) (hback : givenBack? call = none) :
    Custody (calls ++ [call]) notices held := by
  have hsame : ∀ d, Open d (calls ++ [call]) ↔ Open d calls := by
    intro d
    rw [open_concat_iff, hout, hback]
    simp
  refine ⟨hcustody.distinct, ?_, ?_, hcustody.named_concat hnames⟩
  · intro p d hheld
    exact (hsame d).mpr (hcustody.holdsOpen p d hheld)
  · intro d hopen
    by_cases hnamed : call.request.descriptor? = some d
    · exact Or.inl (hnames d hnamed)
    rcases hcustody.kept d ((hsame d).mp hopen) with hheld | hleaked
    · exact Or.inl hheld
    · exact Or.inr (hleaked.concat hnamed (by simp [hout]))

theorem Custody.afterHandOut
    (hcustody : Custody calls notices held)
    (hnames : ∀ d, call.request.descriptor? = some d → ∃ p, held p = some d)
    {p : Nat} (hfree : held p = none)
    {d : Int32} (hout : handedOut? call = some d) (hfresh : ¬ Open d calls) :
    Custody (calls ++ [call]) notices (Function.update held p (some d)) := by
  have hback := givenBack?_of_handedOut? hout
  have hsame : ∀ e, Open e (calls ++ [call]) ↔ d = e ∨ Open e calls := by
    intro e
    rw [open_concat_iff, hout, hback]
    simp
  have hother : ∀ q e, held q = some e → q ≠ p ∧ e ≠ d := by
    intro q e hheld
    constructor
    · rintro rfl
      rw [hfree] at hheld
      cases hheld
    · rintro rfl
      exact hfresh (hcustody.holdsOpen q e hheld)
  have hholder : ∀ q e, Function.update held p (some d) q = some e →
      (q = p ∧ e = d) ∨ (held q = some e ∧ q ≠ p ∧ e ≠ d) := by
    intro q e hheld
    by_cases hq : q = p
    · rw [hq, Function.update_self, Option.some.injEq] at hheld
      exact Or.inl ⟨hq, hheld.symm⟩
    · rw [Function.update_of_ne hq] at hheld
      exact Or.inr ⟨hheld, hother q e hheld⟩
  refine ⟨?_, ?_, ?_, hcustody.named_concat hnames⟩
  · intro q r e hq hr
    rcases hholder q e hq with ⟨rfl, rfl⟩ | ⟨hq, -, hne⟩
    · rcases hholder r _ hr with ⟨rfl, -⟩ | ⟨-, -, hne⟩
      · rfl
      · exact absurd rfl hne
    · rcases hholder r e hr with ⟨-, heq⟩ | ⟨hr, -⟩
      · exact absurd heq hne
      · exact hcustody.distinct q r e hq hr
  · intro q e hq
    rcases hholder q e hq with ⟨-, rfl⟩ | ⟨hq, -⟩
    · exact (hsame _).mpr (Or.inl rfl)
    · exact (hsame e).mpr (Or.inr (hcustody.holdsOpen q e hq))
  · intro e hopen
    rcases (hsame e).mp hopen with rfl | hopen
    · exact Or.inl ⟨p, Function.update_self p (some d) held⟩
    have hne : e ≠ d := by
      rintro rfl
      exact hfresh hopen
    have hkeeps : ∀ q, held q = some e → Function.update held p (some d) q = some e := by
      intro q hheld
      rw [Function.update_of_ne (hother q e hheld).1]
      exact hheld
    by_cases hnamed : call.request.descriptor? = some e
    · obtain ⟨q, hheld⟩ := hnames e hnamed
      exact Or.inl ⟨q, hkeeps q hheld⟩
    rcases hcustody.kept e hopen with ⟨q, hheld⟩ | hleaked
    · exact Or.inl ⟨q, hkeeps q hheld⟩
    · refine Or.inr (hleaked.concat hnamed ?_)
      rw [hout, ne_eq, Option.some.injEq]
      exact fun heq => hne heq.symm

/-- A holder that lets go of its descriptor by a call leaves the others theirs, whether the
descriptor was closed by the call or leaked. -/
theorem Custody.afterLetGo
    (hcustody : Custody calls notices held)
    {p : Nat} {d : Int32} (hheld : held p = some d) (hrequest : call.request = .close d)
    (hgone : Open d (calls ++ [call]) → Leaked d (calls ++ [call]) notices) :
    Custody (calls ++ [call]) notices (Function.update held p none) := by
  have hout : handedOut? call = none := by
    rcases call with ⟨request, reply⟩
    subst hrequest
    rfl
  have hnames : call.request.descriptor? = some d := by
    rw [hrequest]
    rfl
  have hsame : ∀ e, e ≠ d → (Open e (calls ++ [call]) ↔ Open e calls) := by
    intro e hne
    have hback : givenBack? call ≠ some e := by
      intro hback
      rw [request_of_givenBack? hback] at hrequest
      simp only [Request.close.injEq] at hrequest
      exact hne hrequest
    rw [open_concat_iff, hout]
    simp [hback]
  have hholder : ∀ q e, Function.update held p none q = some e →
      q ≠ p ∧ held q = some e ∧ e ≠ d := by
    intro q e hq
    have hqp : q ≠ p := by
      rintro rfl
      rw [Function.update_self] at hq
      cases hq
    rw [Function.update_of_ne hqp] at hq
    refine ⟨hqp, hq, ?_⟩
    rintro rfl
    exact hqp (hcustody.distinct q p e hq hheld)
  refine ⟨?_, ?_, ?_, ?_⟩
  · intro q r e hq hr
    exact hcustody.distinct q r e (hholder q e hq).2.1 (hholder r e hr).2.1
  · intro q e hq
    obtain ⟨-, hq, hne⟩ := hholder q e hq
    exact (hsame e hne).mpr (hcustody.holdsOpen q e hq)
  · intro e hopen
    by_cases hne : e = d
    · subst hne
      exact Or.inr (hgone hopen)
    rcases hcustody.kept e ((hsame e hne).mp hopen) with ⟨q, hq⟩ | hleaked
    · have hqp : q ≠ p := by
        rintro rfl
        rw [hheld, Option.some.injEq] at hq
        exact hne hq.symm
      left
      use q
      rw [Function.update_of_ne hqp]
      exact hq
    · refine Or.inr (hleaked.concat ?_ (by simp [hout]))
      rw [hnames, ne_eq, Option.some.injEq]
      exact fun heq => hne heq.symm
  · apply hcustody.named_concat
    intro e he
    rw [hnames, Option.some.injEq] at he
    exact ⟨p, he ▸ hheld⟩

theorem Custody.afterClose
    (hcustody : Custody calls notices held)
    {p : Nat} {d : Int32} (hheld : held p = some d) (hback : givenBack? call = some d) :
    Custody (calls ++ [call]) notices (Function.update held p none) := by
  have hrequest := request_of_givenBack? hback
  apply hcustody.afterLetGo hheld hrequest
  intro hopen
  rcases open_concat_iff.mp hopen with hout | ⟨-, hnot⟩
  · rw [givenBack?_of_handedOut? hout] at hback
    cases hback
  · exact absurd hback hnot

theorem Custody.afterLoss
    (hcustody : Custody calls notices held)
    {p : Nat} {d : Int32} (hheld : held p = some d) (errno : Errno) :
    Custody (calls ++ [⟨.close d, .error errno⟩])
      (notices ++ [.abandonedCloseFailed d errno]) (Function.update held p none) := by
  apply (hcustody.notices_append _).afterLetGo hheld rfl
  intro _
  exact ⟨errno, calls, [], rfl, by simp, by simp⟩

/-! ## What one holder does -/

/-- The calls of one holder from the descriptor it has to the one it is left with: each names its
descriptor, none hands out another, and after a successful close there is none. -/
inductive Tenure : Option Int32 → List (Exchange NetworkStack) → Option Int32 → Prop where
  | nil (own : Option Int32) : Tenure own [] own
  | call {d : Int32} {call : Exchange NetworkStack} {calls : List (Exchange NetworkStack)}
      {left : Option Int32} (hnames : call.request.descriptor? = some d)
      (hout : handedOut? call = none) (hback : givenBack? call = none)
      (hrest : Tenure (some d) calls left) : Tenure (some d) (call :: calls) left
  | close {d : Int32} {call : Exchange NetworkStack} {calls : List (Exchange NetworkStack)}
      {left : Option Int32} (hback : givenBack? call = some d)
      (hrest : Tenure none calls left) : Tenure (some d) (call :: calls) left

namespace Tenure

variable {own left last : Option Int32} {more : List (Exchange NetworkStack)}

theorem append (hfirst : Tenure own calls left) (hmore : Tenure left more last) :
    Tenure own (calls ++ more) last := by
  induction hfirst with
  | nil own => exact hmore
  | call hnames hout hback hrest ih => exact .call hnames hout hback (ih hmore)
  | close hback hrest ih => exact .close hback (ih hmore)

theorem of_none (htenure : Tenure none calls left) : calls = [] ∧ left = none := by
  cases htenure
  exact ⟨rfl, rfl⟩

theorem names
    (htenure : Tenure own calls left) (call : Exchange NetworkStack) (hcall : call ∈ calls) :
    ∃ d, own = some d ∧ call.request.descriptor? = some d := by
  induction htenure with
  | nil own => cases hcall
  | @call d first calls left hnames hout hback hrest ih =>
      rcases List.mem_cons.mp hcall with rfl | hcall
      · exact ⟨d, rfl, hnames⟩
      · exact ih hcall
  | @close d first calls left hback hrest ih =>
      rw [hrest.of_none.1, List.mem_singleton] at hcall
      subst hcall
      use d
      rw [request_of_givenBack? hback]
      exact ⟨rfl, rfl⟩

theorem left_of_not_closed
    (htenure : Tenure own calls left) (hback : ∀ call ∈ calls, givenBack? call = none) :
    left = own := by
  induction htenure with
  | nil own => rfl
  | call hnames hout hnot hrest ih =>
      exact ih fun call hcall => hback call (List.mem_cons_of_mem _ hcall)
  | close hclose hrest ih =>
      rw [hback _ List.mem_cons_self] at hclose
      cases hclose

/-- A successful close is the last call of a holder, who is left with nothing. -/
theorem left_of_closed
    (htenure : Tenure own calls left) {first later : List (Exchange NetworkStack)} {d : Int32}
    (hcalls : calls = first ++ call :: later) (hback : givenBack? call = some d) :
    later = [] ∧ left = none := by
  induction htenure generalizing first with
  | nil own => cases first <;> cases hcalls
  | call hnames hout hnot hrest ih =>
      cases first with
      | nil =>
          cases hcalls
          rw [hnot] at hback
          cases hback
      | cons other first =>
          cases hcalls
          exact ih rfl
  | close hclose hrest ih =>
      obtain ⟨rfl, rfl⟩ := hrest.of_none
      cases first with
      | nil =>
          cases hcalls
          exact ⟨rfl, rfl⟩
      | cons other first =>
          simp only [List.cons_append, List.cons.injEq] at hcalls
          cases first <;> cases hcalls.2

theorem custody
    (htenure : Tenure own calls left) {past : List (Exchange NetworkStack)}
    (hcustody : Custody past notices held) {p : Nat} (hheld : held p = own) :
    Custody (past ++ calls) notices (Function.update held p left) := by
  induction htenure generalizing past held with
  | nil own =>
      rw [← hheld, Function.update_eq_self, List.append_nil]
      exact hcustody
  | @call d first calls left hnames hout hback hrest ih =>
      have hfirst : Custody (past ++ [first]) notices held := by
        apply hcustody.afterCall _ hout hback
        intro e he
        rw [hnames] at he
        exact ⟨p, hheld.trans he⟩
      rw [List.append_cons]
      exact ih hfirst hheld
  | @close d first calls left hback hrest ih =>
      obtain ⟨rfl, rfl⟩ := hrest.of_none
      exact hcustody.afterClose hheld hback

end Tenure

/-! ## Each descriptor is closed once -/

/-- The calls until a descriptor is handed out again. -/
def term (d : Int32) (calls : List (Exchange NetworkStack)) : List (Exchange NetworkStack) :=
  calls.takeWhile fun call => handedOut? call ≠ some d

/-- A term ends with the calls or with the next one that hands the descriptor out. -/
theorem term_append (d : Int32) (calls : List (Exchange NetworkStack)) :
    ∃ rest, calls = term d calls ++ rest ∧ (∀ call ∈ term d calls, handedOut? call ≠ some d) ∧
      ∀ next more, rest = next :: more → handedOut? next = some d := by
  refine ⟨calls.dropWhile fun call => handedOut? call ≠ some d,
    List.takeWhile_append_dropWhile.symm, ?_, ?_⟩
  · intro call hcall
    simpa using List.mem_takeWhile_imp hcall
  · intro next more hrest
    have hhead := List.head?_dropWhile_not (fun call => handedOut? call ≠ some d) calls
    rw [hrest] at hhead
    simpa using hhead

/-- How often some calls close a descriptor. -/
def closings (d : Int32) (calls : List (Exchange NetworkStack)) : Nat :=
  calls.countP fun call => givenBack? call = some d

/-- While an open descriptor is not handed out again it is closed at most once, and once if it is
not open any more. -/
theorem closings_of_open
    {past : List (Exchange NetworkStack)} {d : Int32} (hopen : Open d past)
    (hout : ∀ call ∈ calls, handedOut? call ≠ some d)
    (hnamed : ∀ first call later, calls = first ++ call :: later →
      givenBack? call = some d → Open d (past ++ first)) :
    closings d calls = if Open d (past ++ calls) then 0 else 1 := by
  induction calls using List.reverseRecOn with
  | nil => simp [closings, hopen]
  | append_singleton calls call ih =>
      have hbefore := ih
        (fun other hother => hout other (List.mem_append_left [call] hother))
        (fun first other later hcalls hback =>
          hnamed first other (later ++ [call]) (by simp [hcalls]) hback)
      have hnot : handedOut? call ≠ some d := hout call (by simp)
      simp only [closings, List.countP_append, ← List.append_assoc, open_concat_iff] at hbefore ⊢
      rw [hbefore]
      by_cases hback : givenBack? call = some d
      · have hstill := hnamed calls call [] rfl hback
        simp [hnot, hback, hstill]
      · simp [hnot, hback]

/-- When nobody holds anything any more, each descriptor that was handed out was closed once before
it was handed out again, or else was leaked and never handed out again. -/
theorem Custody.closed_once
    (hcustody : Custody calls notices held) (hfresh : HandsOutFresh calls)
    (hnone : ∀ p, held p = none) {before later : List (Exchange NetworkStack)} {d : Int32}
    (hcalls : calls = before ++ call :: later) (hout : handedOut? call = some d) :
    closings d (term d later) = 1 ∨
      (closings d later = 0 ∧ (∀ other ∈ later, handedOut? other ≠ some d) ∧
        Leaked d later notices) := by
  obtain ⟨rest, hlater, hterm, hnext⟩ := term_append d later
  generalize term d later = first at hlater hterm ⊢
  subst hlater
  have hopen : Open d (before ++ [call]) := open_concat_iff.mpr (Or.inl hout)
  have hcount : closings d first = if Open d (before ++ [call] ++ first) then 0 else 1 := by
    apply closings_of_open hopen hterm
    intro other last more hfirst hback
    apply hcustody.named _ last (more ++ rest)
    · simp [hcalls, hfirst]
    · rw [request_of_givenBack? hback]
      rfl
  have hpast : before ++ [call] ++ first = before ++ call :: first := by simp
  rw [hpast] at hcount
  cases rest with
  | nil =>
      rw [List.append_nil] at hcalls ⊢
      rw [← hcalls] at hcount
      by_cases hend : Open d calls
      · right
        rw [if_pos hend] at hcount
        refine ⟨hcount, hterm, ?_⟩
        rcases hcustody.kept d hend with ⟨p, hheld⟩ | hleaked
        · rw [hnone p] at hheld
          cases hheld
        · rw [hcalls] at hleaked
          exact hleaked.after hout
      · left
        rw [hcount, if_neg hend]
  | cons next more =>
      left
      have hagain := hnext next more rfl
      have hfresh := hfresh (before ++ call :: first) next more d (by simp [hcalls]) hagain
      rw [hcount, if_neg hfresh.2]

end ScriptSocket.Network
