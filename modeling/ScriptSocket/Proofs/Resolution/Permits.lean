import Mathlib.Data.List.Basic
import ScriptSocket.Resolution.Semaphore

/-!
# Permits given and taken

Any number of parties share a semaphore.  Each has a plan of permits to give and to take, and
carries it out in order; the parties take turns in any order.  A party that wants to take is held
back while no permit is free.  `Sharing.Accounted` is the invariant of all such runs: the permits
that are free and those that were taken make up those that were given, unless there were ever more
than the semaphore can count.
-/

namespace ScriptSocket.Resolution.Semaphore

inductive Action where
  | give
  | take
  deriving DecidableEq

def gives (actions : List Action) : Nat := actions.count .give

def takes (actions : List Action) : Nat := actions.count .take

/-- At no point were there more permits to count than the semaphore can count. -/
def WithinCount (actions : List Action) : Prop :=
  ∀ earlier, earlier <+: actions → gives earlier ≤ takes earlier + 0xffffffff

/-- A semaphore and its parties: what they have done, in the order in which it was completed, and
what each of them has still to do. -/
structure Sharing where
  semaphore : Semaphore
  done : List Action
  plans : List (List Action)

/-- The semaphore after an action, if the action can be completed now. -/
def after? (s : Semaphore) : Action → Option Semaphore
  | .give => some s.give
  | .take => s.take?

namespace Sharing

def start (plans : List (List Action)) : Sharing := ⟨.empty, [], plans⟩

/-- One party completes its next action, unless it has none or is held back. -/
def step? (s : Sharing) (party : Nat) : Option Sharing :=
  match s.plans[party]? with
  | some (action :: plan) =>
    (s.semaphore.after? action).map fun semaphore =>
      ⟨semaphore, s.done ++ [action], s.plans.set party plan⟩
  | _ => none

/-- The parties complete actions in the order of a schedule. -/
def replay? (s : Sharing) : List Nat → Option Sharing
  | [] => some s
  | party :: schedule => (s.step? party).bind fun next => next.replay? schedule

end Sharing

/-! ## One action more -/

@[simp]
theorem gives_concat (actions : List Action) (action : Action) :
    gives (actions ++ [action]) = gives actions + if action = .give then 1 else 0 := by
  cases action <;> simp [gives]

@[simp]
theorem takes_concat (actions : List Action) (action : Action) :
    takes (actions ++ [action]) = takes actions + if action = .take then 1 else 0 := by
  cases action <;> simp [takes]

theorem WithinCount.self {actions : List Action} (hwithin : WithinCount actions) :
    gives actions ≤ takes actions + 0xffffffff :=
  hwithin actions (List.prefix_refl actions)

theorem WithinCount.of_append {actions later : List Action}
    (hwithin : WithinCount (actions ++ later)) : WithinCount actions :=
  fun earlier hearlier => hwithin earlier (hearlier.trans (List.prefix_append actions later))

theorem withinCount_of_length_le {actions : List Action} (hlength : actions.length ≤ 0xffffffff) :
    WithinCount actions := by
  intro earlier hearlier
  have hgives : gives earlier ≤ earlier.length := List.count_le_length
  have hle := hearlier.length_le
  omega

theorem give_of_full {s : Semaphore} (hfull : s.permits = 0xffffffff) : s.give = s := by
  unfold give
  rw [if_pos hfull]

theorem toNat_permits_after_take {s t : Semaphore} (htake : s.after? .take = some t) :
    s.permits.toNat = t.permits.toNat + 1 :=
  take?_eq_some_iff.mp htake

namespace Sharing

/-- The free permits, told from what was given and taken. -/
structure Accounted (s : Sharing) : Prop where
  covered : s.semaphore.permits.toNat + takes s.done ≤ gives s.done
  exact_of_withinCount : WithinCount s.done →
    s.semaphore.permits.toNat + takes s.done = gives s.done

theorem start_accounted (plans : List (List Action)) : (start plans).Accounted := by
  constructor <;> simp [start, empty, gives, takes]

theorem step?_eq_some_iff {s t : Sharing} {party : Nat} :
    s.step? party = some t ↔
      ∃ action plan semaphore, s.plans[party]? = some (action :: plan) ∧
        s.semaphore.after? action = some semaphore ∧
        t = ⟨semaphore, s.done ++ [action], s.plans.set party plan⟩ := by
  constructor
  · intro hstep
    unfold step? at hstep
    split at hstep
    · rename_i action plan hplan
      obtain ⟨semaphore, hafter, rfl⟩ := Option.map_eq_some_iff.mp hstep
      exact ⟨action, plan, semaphore, hplan, hafter, rfl⟩
    · cases hstep
  · rintro ⟨action, plan, semaphore, hplan, hafter, rfl⟩
    simp [step?, hplan, hafter]

theorem Accounted.afterGive {s : Sharing} (hinv : s.Accounted) (plans : List (List Action)) :
    (⟨s.semaphore.give, s.done ++ [.give], plans⟩ : Sharing).Accounted := by
  have hgive := toNat_permits_give s.semaphore
  have hcovered := hinv.covered
  constructor
  · simp only [gives_concat, takes_concat, hgive, if_true, reduceCtorEq, if_false]
    omega
  · intro hwithin
    -- the count was not at its largest value, or this permit would be one too many
    have hexact := hinv.exact_of_withinCount hwithin.of_append
    have hroom := hwithin.self
    simp only [gives_concat, takes_concat, if_true, reduceCtorEq, if_false] at hroom ⊢
    omega

theorem Accounted.afterTake {s : Sharing} (hinv : s.Accounted) {semaphore : Semaphore}
    (hafter : s.semaphore.after? .take = some semaphore) (plans : List (List Action)) :
    (⟨semaphore, s.done ++ [.take], plans⟩ : Sharing).Accounted := by
  have htake := toNat_permits_after_take hafter
  have hcovered := hinv.covered
  constructor
  · simp only [gives_concat, takes_concat, if_true, reduceCtorEq, if_false]
    omega
  · intro hwithin
    have hexact := hinv.exact_of_withinCount hwithin.of_append
    simp only [gives_concat, takes_concat, if_true, reduceCtorEq, if_false]
    omega

theorem Accounted.afterStep {s t : Sharing} {party : Nat} (hinv : s.Accounted)
    (hstep : s.step? party = some t) : t.Accounted := by
  obtain ⟨action, plan, semaphore, -, hafter, rfl⟩ := step?_eq_some_iff.mp hstep
  cases action with
  | give =>
      obtain rfl : s.semaphore.give = semaphore := Option.some.inj hafter
      exact hinv.afterGive (s.plans.set party plan)
  | take => exact hinv.afterTake hafter (s.plans.set party plan)

theorem Accounted.afterReplay {s t : Sharing} {schedule : List Nat} (hinv : s.Accounted)
    (hrun : s.replay? schedule = some t) : t.Accounted := by
  induction schedule generalizing s with
  | nil =>
      obtain rfl : s = t := Option.some.inj hrun
      exact hinv
  | cons party schedule ih =>
      obtain ⟨next, hstep, hrest⟩ := Option.bind_eq_some_iff.mp hrun
      exact ih (hinv.afterStep hstep) hrest

/-- A party that wants to take is held back exactly while no permit is free. -/
theorem step?_eq_none_iff_of_take {s : Sharing} {party : Nat} {plan : List Action}
    (hplan : s.plans[party]? = some (.take :: plan)) :
    s.step? party = none ↔ s.semaphore.permits.toNat = 0 := by
  simp only [step?, hplan, after?, Option.map_eq_none_iff, take?_eq_none_iff]
  exact UInt32.toNat_inj.symm

theorem toNat_permits_of_step_take {s t : Sharing} {party : Nat} {plan : List Action}
    (hplan : s.plans[party]? = some (.take :: plan)) (hstep : s.step? party = some t) :
    s.semaphore.permits.toNat = t.semaphore.permits.toNat + 1 := by
  obtain ⟨action, rest, semaphore, hnext, hafter, rfl⟩ := step?_eq_some_iff.mp hstep
  obtain ⟨rfl, rfl⟩ := List.cons.inj (Option.some.inj (hplan.symm.trans hnext))
  exact toNat_permits_after_take hafter

/-- Permits are conserved, whatever the plans of the parties and the order of their actions.  At
every point no more permits were taken than given, and a permit that is taken was there.  Unless
more permits were ever free than the semaphore can count, its count is the number of those given and
not taken, and a party that wants to take is held back exactly while there are none.  At the largest
count giving changes nothing. -/
theorem permits_conserved {plans : List (List Action)} {schedule : List Nat} {s : Sharing}
    (hrun : (start plans).replay? schedule = some s) :
    takes s.done ≤ gives s.done ∧
    (∀ party plan t, s.plans[party]? = some (.take :: plan) → s.step? party = some t →
      s.semaphore.permits.toNat = t.semaphore.permits.toNat + 1) ∧
    (WithinCount s.done →
      s.semaphore.permits.toNat = gives s.done - takes s.done ∧
      ∀ party plan, s.plans[party]? = some (.take :: plan) →
        (s.step? party = none ↔ gives s.done = takes s.done)) ∧
    ∀ full : Semaphore, full.permits = 0xffffffff → full.give = full := by
  have hinv := (start_accounted plans).afterReplay hrun
  have hcovered := hinv.covered
  refine ⟨by omega, ?_, ?_, fun full hfull => give_of_full hfull⟩
  · intro party plan t hplan hstep
    exact toNat_permits_of_step_take hplan hstep
  · intro hwithin
    have hexact := hinv.exact_of_withinCount hwithin
    refine ⟨by omega, ?_⟩
    intro party plan hplan
    rw [step?_eq_none_iff_of_take hplan]
    omega

/-- Of three parties the first took the permit that the second gave; the second one it wants is not
there before the third gives it. -/
theorem permits_conserved_held_back :
    ∃ s, (start [[.take, .take], [.give], [.give]]).replay? [1, 0] = some s ∧
      s.semaphore.permits.toNat = gives s.done - takes s.done ∧
      s.step? 0 = none ∧ gives s.done = takes s.done := by
  refine ⟨_, rfl, ?_⟩
  have hrun : (start [[.take, .take], [.give], [.give]]).replay? [1, 0] = some _ := rfl
  have hwithin : WithinCount [.give, .take] := withinCount_of_length_le (by decide)
  obtain ⟨hcount, hheld⟩ := (permits_conserved hrun).2.2.1 hwithin
  exact ⟨hcount, rfl, (hheld 0 [] rfl).mp rfl⟩

end Sharing

end ScriptSocket.Resolution.Semaphore
