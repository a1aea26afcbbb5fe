import Mathlib.Data.Nat.Notation

/-! # Distances by an odometer that is reset

A distance is told by a counter that starts from zero now and then: what is kept of it is what had been covered before
and the reading that it is counted on from.
-/

/-- What is kept of a distance. -/
structure Leg where
  (base offset : ℕ)

namespace Leg

variable {leg : Leg} {reading distance : ℕ}

/-- The distance of a leg at a reading. -/
def covered (leg : Leg) (reading : ℕ) : ℕ := leg.offset + (reading - leg.base)

/-- A leg tells a distance. -/
structure Tells (leg : Leg) (reading distance : ℕ) : Prop where
  counted : leg.base ≤ reading
  total : leg.covered reading = distance

/-- From a reading on. -/
theorem tells_start : Tells ⟨reading, 0⟩ reading 0 :=
  ⟨Nat.le_refl _, (Nat.zero_add _).trans (Nat.sub_self _)⟩

/-- From a reset on. -/
theorem tells_reset : Tells ⟨0, distance⟩ 0 distance := ⟨Nat.le_refl _, rfl⟩

theorem Tells.travel (tells : leg.Tells reading distance) (n : ℕ) : leg.Tells (reading + n) (distance + n) where
  counted := by have := tells.counted; omega
  total := by
    have counted := tells.counted
    have total := tells.total
    unfold Leg.covered at total ⊢
    omega

end Leg
