/-!
# Permits

The counting semaphore on which a caller waits.  Giving stops at the largest count instead of
wrapping round; taking is possible only while a permit is there.
-/

namespace ScriptSocket.Resolution

/-- The number of permits that are free. -/
structure Semaphore where
  permits : UInt32
  deriving DecidableEq

namespace Semaphore

def empty : Semaphore := ⟨0⟩

/-- One permit more, up to the largest count. -/
def give (s : Semaphore) : Semaphore :=
  if s.permits = 0xffffffff then s else ⟨s.permits + 1⟩

/-- One permit less, or none if the taker has to wait. -/
def take? (s : Semaphore) : Option Semaphore :=
  if s.permits = 0 then none else some ⟨s.permits - 1⟩

theorem toNat_permits_give (s : Semaphore) :
    s.give.permits.toNat = min (s.permits.toNat + 1) 0xffffffff := by
  unfold give
  split
  · rename_i h; simp [h]
  · rename_i h
    have hne : s.permits.toNat ≠ 0xffffffff := fun he => h (UInt32.toNat_inj.1 he)
    have hlt := s.permits.toNat_lt
    simp only [UInt32.toNat_add, UInt32.reduceToNat]
    omega

theorem take?_eq_none_iff {s : Semaphore} : s.take? = none ↔ s.permits = 0 := by
  simp [take?]

theorem take?_eq_some_iff {s t : Semaphore} :
    s.take? = some t ↔ s.permits.toNat = t.permits.toNat + 1 := by
  unfold take?
  split
  · rename_i h; simp [h]
  · rename_i h
    have hpos : 1 ≤ s.permits.toNat := by
      rcases Nat.eq_zero_or_pos s.permits.toNat with h0 | h0
      · exact absurd (UInt32.toNat_inj.1 h0) h
      · exact h0
    have hsub : (s.permits - 1).toNat = s.permits.toNat - 1 := by
      rw [UInt32.toNat_sub_of_le _ _ (by rw [UInt32.le_iff_toNat_le]; exact hpos)]; rfl
    constructor
    · rintro ⟨rfl⟩; simp only [hsub]; omega
    · intro he
      refine congrArg some ?_
      cases t
      refine congrArg Semaphore.mk (UInt32.toNat_inj.1 ?_)
      simp only [hsub, he]; omega

end Semaphore

end ScriptSocket.Resolution
