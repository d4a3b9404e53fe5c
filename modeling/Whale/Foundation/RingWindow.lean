/-
The most recent items of a ring.

A window of items ends just before the place that is written next.  Its positions
are taken in the integers and reduced at the end; in a ring that is long enough
they are distinct, and their distance to the place of the next write shrinks by one
with each step.
-/
import Mathlib.Algebra.Order.Group.Int
import Mathlib.Data.Int.ModEq
import Mathlib.Data.List.Nodup

set_option autoImplicit false

namespace Whale.Foundation

/-- The position of the item at `step` of a window, the oldest item at step zero. -/
def windowPosition (size write window step : Nat) : Nat :=
  (((write : Int) - window + step) % size).toNat

variable {size write window step other : Nat}

theorem natCast_windowPosition (positive : 0 < size) :
    (windowPosition size write window step : Int) = ((write : Int) - window + step) % size := by
  unfold windowPosition
  apply Int.toNat_of_nonneg
  apply Int.emod_nonneg
  omega

theorem windowPosition_lt (write window step : Nat) (positive : 0 < size) :
    windowPosition size write window step < size := by
  have bounded := Int.emod_lt_of_pos ((write : Int) - window + step) (Int.natCast_pos.mpr positive)
  rw [← natCast_windowPosition positive] at bounded
  exact Int.ofNat_lt.mp bounded

/-- The order of the operations that stays in the natural numbers. -/
theorem windowPosition_eq_add_mod (fits : window ≤ size) :
    windowPosition size write window step = (step + write + (size - window)) % size := by
  have shifted : ((write : Int) - window + step) + size =
      ((step + write + (size - window) : Nat) : Int) := by
    omega
  unfold windowPosition
  rw [← Int.add_emod_right, shifted, ← Int.natCast_emod, Int.toNat_natCast]

theorem windowPosition_injective (within : step < size) (within' : other < size)
    (same : windowPosition size write window step = windowPosition size write window other) :
    step = other := by
  have positive : 0 < size := by omega
  have residues : ((write : Int) - window + step) % size =
      ((write : Int) - window + other) % size := by
    rw [← natCast_windowPosition positive, ← natCast_windowPosition positive, same]
  have divides : (size : Int) ∣ (step : Int) - other := by
    have difference := Int.ModEq.dvd (Int.ModEq.symm residues)
    have rearranged : ((write : Int) - window + step) - ((write : Int) - window + other) =
        (step : Int) - other := by
      omega
    rwa [rearranged] at difference
  have zero : (step : Int) - other = 0 := by
    apply Int.eq_zero_of_abs_lt_dvd divides
    rw [abs_lt]
    omega
  omega

/-- A window no longer than the ring visits no position twice. -/
theorem windowPositions_nodup {count : Nat} (short : count ≤ size) :
    ((List.range count).map (windowPosition size write window)).Nodup := by
  apply List.Nodup.map_on _ List.nodup_range
  intro step before other before' same
  rw [List.mem_range] at before before'
  exact windowPosition_injective (by omega) (by omega) same

/-- The item at `step` lies `window - step` places before the next write. -/
theorem windowPosition_add_mod (positive : 0 < size) (inWindow : step ≤ window) :
    (windowPosition size write window step + (window - step)) % size = write % size := by
  apply Int.ofNat_inj.mp
  rw [Int.natCast_emod, Int.natCast_add, natCast_windowPosition positive, Int.emod_add_emod]
  have arrived : (write : Int) - window + step + ((window - step : Nat) : Int) = write := by
    omega
  rw [arrived, Int.natCast_emod]

end Whale.Foundation
