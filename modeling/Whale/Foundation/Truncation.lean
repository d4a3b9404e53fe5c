/-
Truncation of rational numbers toward zero, and clipping to a byte.

Clipping before the truncation and clipping after it give the same byte.
-/
import Mathlib.Data.Rat.Floor

set_option autoImplicit false

namespace Whale.Foundation

def truncate (q : Rat) : Int :=
  q.num.tdiv q.den

theorem truncate_of_nonneg {q : Rat} (nonneg : 0 ≤ q) : truncate q = ⌊q⌋ := by
  unfold truncate
  rw [Rat.floor_def', Int.tdiv_eq_ediv_of_nonneg (Rat.num_nonneg.mpr nonneg)]

theorem truncate_neg (q : Rat) : truncate (-q) = -truncate q := by
  unfold truncate
  rw [Rat.num_neg_eq_neg_num, Rat.den_neg_eq_den, Int.neg_tdiv]

theorem truncate_nonpos {q : Rat} (nonpos : q ≤ 0) : truncate q ≤ 0 := by
  have mirrored : 0 ≤ truncate (-q) := by
    rw [truncate_of_nonneg (by linarith)]
    exact Int.floor_nonneg.mpr (by linarith)
  rw [truncate_neg] at mirrored
  omega

/-! ### Bytes -/

/-- The truncation of a number, clipped to 0..255. -/
def clippedByte (q : Rat) : UInt8 :=
  UInt8.ofNat (max 0 (min 255 (truncate q))).toNat

theorem clippedByte_of_nonpos {q : Rat} (nonpos : q ≤ 0) : clippedByte q = 0 := by
  have below := truncate_nonpos nonpos
  have clipped : max 0 (min 255 (truncate q)) = 0 := by omega
  unfold clippedByte
  rw [clipped]
  rfl

theorem clippedByte_of_large {q : Rat} (large : 255 ≤ q) : clippedByte q = 255 := by
  have above : 255 ≤ truncate q := by
    rw [truncate_of_nonneg (by linarith)]
    exact Int.le_floor.mpr (by exact_mod_cast large)
  have clipped : max 0 (min 255 (truncate q)) = 255 := by omega
  unfold clippedByte
  rw [clipped]
  rfl

theorem clippedByte_of_between {q : Rat} (nonneg : 0 ≤ q) (small : q ≤ 255) :
    clippedByte q = UInt8.ofNat (truncate q).toNat := by
  have lower : 0 ≤ truncate q := by
    rw [truncate_of_nonneg nonneg]
    exact Int.floor_nonneg.mpr nonneg
  have upper : truncate q ≤ 255 := by
    rw [truncate_of_nonneg nonneg]
    exact Int.floor_le_iff.mpr (by push_cast; linarith)
  have unchanged : max 0 (min 255 (truncate q)) = truncate q := by omega
  unfold clippedByte
  rw [unchanged]

end Whale.Foundation
