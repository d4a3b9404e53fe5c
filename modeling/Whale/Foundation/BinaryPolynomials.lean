/-
Polynomials over the two-element field, as the bits of natural numbers.

Products and powers are taken modulo a polynomial and can be computed.  In any ring
where twice an element is nothing, the value at a root of the modulus turns them into
products and powers of the ring, so that a computation settles an equation there.
-/
import Mathlib.Algebra.Ring.Commute
import Mathlib.Data.Nat.Bitwise
import Mathlib.Tactic.Abel

set_option autoImplicit false

namespace Whale.Foundation

universe u

/-- The polynomial of the given degree whose other coefficients are the bits of
`rest`. -/
structure BinaryModulus where
  degree : Nat
  rest : Nat
  restFits : rest < 2 ^ degree
  several : 1 < degree

namespace BinaryModulus

/-! ### Arithmetic modulo the polynomial -/

def timesX (modulus : BinaryModulus) (word : Nat) : Nat :=
  if 2 * word < 2 ^ modulus.degree then 2 * word
  else (2 * word - 2 ^ modulus.degree) ^^^ modulus.rest

/-- Only the lowest `width` bits of `right` count. -/
def times (modulus : BinaryModulus) : Nat → Nat → Nat → Nat
  | 0, _, _ => 0
  | width + 1, left, right =>
      (if right % 2 = 1 then left else 0) ^^^
        times modulus width (modulus.timesX left) (right / 2)

def product (modulus : BinaryModulus) (left right : Nat) : Nat :=
  modulus.times modulus.degree left right

/-- Only the lowest `width` bits of the exponent count. -/
def power (modulus : BinaryModulus) : Nat → Nat → Nat → Nat
  | 0, _, _ => 1
  | width + 1, base, exponent =>
      let squares := power modulus width (modulus.product base base) (exponent / 2)
      if exponent % 2 = 1 then modulus.product base squares else squares

/-! ### Values -/

section Value

variable {R : Type u} [Ring R] {modulus : BinaryModulus} {x : R}

/-- The value at `x` of the polynomial with the lowest `width` bits of `word`. -/
def valueAt (x : R) : Nat → Nat → R
  | 0, _ => 0
  | width + 1, word => (if word % 2 = 1 then 1 else 0) + x * valueAt x width (word / 2)

/-- `x` is a root of the modulus, in a ring where twice an element is nothing. -/
structure IsRoot (modulus : BinaryModulus) (x : R) : Prop where
  twice : ∀ a : R, a + a = 0
  root : x ^ modulus.degree = valueAt x modulus.degree modulus.rest

theorem valueAt_zero (width : Nat) : valueAt x width 0 = 0 := by
  induction width with
  | zero => rfl
  | succ width ih =>
      unfold valueAt
      rw [Nat.zero_div, ih, mul_zero, if_neg (by decide), add_zero]

theorem valueAt_one (width : Nat) : valueAt x (width + 1) 1 = 1 := by
  unfold valueAt
  rw [show 1 / 2 = 0 from rfl, valueAt_zero, mul_zero, if_pos rfl, add_zero]

theorem valueAt_double (width word : Nat) :
    valueAt x (width + 1) (2 * word) = x * valueAt x width word := by
  rw [valueAt, Nat.mul_mod_right, if_neg (by decide), zero_add,
    Nat.mul_div_cancel_left word (by decide)]

/-- A bit above the others is a power of its own. -/
theorem valueAt_two_pow_add {width word : Nat} (small : word < 2 ^ width) :
    valueAt x (width + 1) (2 ^ width + word) = x ^ width + valueAt x width word := by
  induction width generalizing word with
  | zero =>
      have nothing : word = 0 := by omega
      rw [nothing, valueAt_zero, pow_zero, add_zero, add_zero, valueAt_one, pow_zero]
  | succ width ih =>
      have half : word / 2 < 2 ^ width := by omega
      have lowest : (2 ^ (width + 1) + word) % 2 = word % 2 := by omega
      have rest : (2 ^ (width + 1) + word) / 2 = 2 ^ width + word / 2 := by omega
      rw [valueAt, lowest, rest, ih half, mul_add, ← pow_succ']
      conv_rhs => rw [valueAt]
      abel

theorem valueAt_succ_of_lt {width word : Nat} (small : word < 2 ^ width) :
    valueAt x (width + 1) word = valueAt x width word := by
  induction width generalizing word with
  | zero =>
      have nothing : word = 0 := by omega
      rw [nothing, valueAt_zero, valueAt_zero]
  | succ width ih =>
      have half : word / 2 < 2 ^ width := by omega
      rw [valueAt, ih half]
      rfl

theorem commute_valueAt (width word : Nat) : Commute x (valueAt x width word) := by
  induction width generalizing word with
  | zero => exact Commute.zero_right x
  | succ width ih =>
      unfold valueAt
      refine Commute.add_right ?_ ((Commute.refl x).mul_right (ih (word / 2)))
      by_cases odd : word % 2 = 1
      · rw [if_pos odd]
        exact Commute.one_right x
      · rw [if_neg odd]
        exact Commute.zero_right x

theorem IsRoot.valueAt_xor (isRoot : modulus.IsRoot x) (width left right : Nat) :
    valueAt x width (left ^^^ right) = valueAt x width left + valueAt x width right := by
  induction width generalizing left right with
  | zero => exact (add_zero 0).symm
  | succ width ih =>
      have lowest : (if (left ^^^ right) % 2 = 1 then (1 : R) else 0) =
          (if left % 2 = 1 then 1 else 0) + (if right % 2 = 1 then 1 else 0) := by
        have summed : (left ^^^ right) % 2 = (left + right) % 2 := Nat.xor_mod_two_eq
        by_cases leftOdd : left % 2 = 1
        · by_cases rightOdd : right % 2 = 1
          · rw [if_neg (by omega), if_pos leftOdd, if_pos rightOdd, isRoot.twice]
          · rw [if_pos (by omega), if_pos leftOdd, if_neg rightOdd, add_zero]
        · by_cases rightOdd : right % 2 = 1
          · rw [if_pos (by omega), if_neg leftOdd, if_pos rightOdd, zero_add]
          · rw [if_neg (by omega), if_neg leftOdd, if_neg rightOdd, add_zero]
      unfold valueAt
      rw [lowest, Nat.xor_div_two, ih, mul_add, add_add_add_comm]

/-! ### Computations hold at a root -/

theorem timesX_lt {word : Nat} (small : word < 2 ^ modulus.degree) :
    modulus.timesX word < 2 ^ modulus.degree := by
  unfold timesX
  by_cases fits : 2 * word < 2 ^ modulus.degree
  · rw [if_pos fits]
    exact fits
  · rw [if_neg fits]
    exact Nat.xor_lt_two_pow (by omega) modulus.restFits

theorem IsRoot.valueAt_timesX (isRoot : modulus.IsRoot x) {word : Nat}
    (small : word < 2 ^ modulus.degree) :
    valueAt x modulus.degree (modulus.timesX word) = x * valueAt x modulus.degree word := by
  unfold timesX
  by_cases fits : 2 * word < 2 ^ modulus.degree
  · rw [if_pos fits, ← valueAt_succ_of_lt fits, valueAt_double]
  · rw [if_neg fits, isRoot.valueAt_xor, ← isRoot.root, ← valueAt_double]
    have above : 2 * word = 2 ^ modulus.degree + (2 * word - 2 ^ modulus.degree) := by omega
    conv_rhs => rw [above, valueAt_two_pow_add (by omega)]
    exact add_comm _ _

theorem times_lt (width : Nat) {left : Nat} (small : left < 2 ^ modulus.degree) (right : Nat) :
    modulus.times width left right < 2 ^ modulus.degree := by
  induction width generalizing left right with
  | zero => exact Nat.two_pow_pos modulus.degree
  | succ width ih =>
      unfold times
      apply Nat.xor_lt_two_pow
      · by_cases odd : right % 2 = 1
        · rw [if_pos odd]
          exact small
        · rw [if_neg odd]
          exact Nat.two_pow_pos modulus.degree
      · exact ih (timesX_lt small) (right / 2)

theorem IsRoot.valueAt_times (isRoot : modulus.IsRoot x) (width : Nat) {left : Nat}
    (small : left < 2 ^ modulus.degree) (right : Nat) :
    valueAt x modulus.degree (modulus.times width left right) =
      valueAt x width right * valueAt x modulus.degree left := by
  induction width generalizing left right with
  | zero =>
      rw [times, valueAt_zero]
      exact (zero_mul _).symm
  | succ width ih =>
      rw [times, isRoot.valueAt_xor, ih (timesX_lt small), isRoot.valueAt_timesX small, valueAt,
        add_mul, ← mul_assoc, (commute_valueAt width (right / 2)).eq]
      congr 1
      by_cases odd : right % 2 = 1
      · rw [if_pos odd, if_pos odd, one_mul]
      · rw [if_neg odd, if_neg odd, zero_mul, valueAt_zero]

theorem IsRoot.valueAt_product (isRoot : modulus.IsRoot x) {left : Nat}
    (small : left < 2 ^ modulus.degree) (right : Nat) :
    valueAt x modulus.degree (modulus.product left right) =
      valueAt x modulus.degree right * valueAt x modulus.degree left :=
  isRoot.valueAt_times modulus.degree small right

theorem power_lt (width : Nat) {base : Nat} (small : base < 2 ^ modulus.degree)
    (exponent : Nat) : modulus.power width base exponent < 2 ^ modulus.degree := by
  induction width generalizing base exponent with
  | zero => exact Nat.one_lt_two_pow (by have := modulus.several; omega)
  | succ width ih =>
      unfold power
      dsimp only
      have squares := ih (times_lt modulus.degree small base) (exponent / 2)
      by_cases odd : exponent % 2 = 1
      · rw [if_pos odd]
        exact times_lt modulus.degree small _
      · rw [if_neg odd]
        exact squares

theorem IsRoot.valueAt_power (isRoot : modulus.IsRoot x) {width : Nat} {base : Nat}
    (small : base < 2 ^ modulus.degree) {exponent : Nat} (fits : exponent < 2 ^ width) :
    valueAt x modulus.degree (modulus.power width base exponent) =
      valueAt x modulus.degree base ^ exponent := by
  induction width generalizing base exponent with
  | zero =>
      have nothing : exponent = 0 := by omega
      obtain ⟨lower, degree⟩ : ∃ lower, modulus.degree = lower + 1 :=
        ⟨modulus.degree - 1, by have := modulus.several; omega⟩
      rw [nothing, pow_zero, power, degree, valueAt_one]
  | succ width ih =>
      have half : exponent / 2 < 2 ^ width := by omega
      have squares := ih (times_lt modulus.degree small base) half
      change valueAt x modulus.degree (modulus.power width (modulus.product base base)
        (exponent / 2)) = valueAt x modulus.degree (modulus.product base base) ^ _ at squares
      rw [isRoot.valueAt_product small, ← pow_two, ← pow_mul] at squares
      unfold power
      dsimp only
      by_cases odd : exponent % 2 = 1
      · have whole : exponent = 2 * (exponent / 2) + 1 := by omega
        rw [if_pos odd, isRoot.valueAt_product small, squares, ← pow_succ, ← whole]
      · have whole : exponent = 2 * (exponent / 2) := by omega
        rw [if_neg odd, squares, ← whole]

/-- The word of `x` itself. -/
theorem valueAt_two (modulus : BinaryModulus) : valueAt x modulus.degree 2 = x := by
  obtain ⟨lower, degree⟩ : ∃ lower, modulus.degree = lower + 1 + 1 :=
    ⟨modulus.degree - 2, by have := modulus.several; omega⟩
  rw [degree, show 2 = 2 * 1 from rfl, valueAt_double, valueAt_one, mul_one]

/-- A computed power of `x`. -/
theorem IsRoot.pow_eq (isRoot : modulus.IsRoot x) {width exponent : Nat}
    (fits : exponent < 2 ^ width) :
    x ^ exponent = valueAt x modulus.degree (modulus.power width 2 exponent) := by
  have small : 2 < 2 ^ modulus.degree := by
    have fourth : 2 ^ 2 ≤ 2 ^ modulus.degree := Nat.pow_le_pow_right (by decide) modulus.several
    omega
  rw [isRoot.valueAt_power small fits, valueAt_two]

/-- A computed inverse of a power less one, where twice an element is nothing. -/
theorem IsRoot.undo (isRoot : modulus.IsRoot x) {width exponent undo : Nat}
    (fits : exponent < 2 ^ width)
    (computed : modulus.product (modulus.power width 2 exponent ^^^ 1) undo = 1) :
    valueAt x modulus.degree undo * (x ^ exponent - 1) = 1 := by
  have several := modulus.several
  have two : 2 < 2 ^ modulus.degree := by
    have fourth : 2 ^ 2 ≤ 2 ^ modulus.degree := Nat.pow_le_pow_right (by decide) several
    omega
  have one : valueAt x modulus.degree 1 = 1 := by
    obtain ⟨lower, degree⟩ : ∃ lower, modulus.degree = lower + 1 :=
      ⟨modulus.degree - 1, by omega⟩
    rw [degree, valueAt_one]
  have less : x ^ exponent - 1 = x ^ exponent + 1 := by
    rw [sub_eq_iff_eq_add, add_assoc, isRoot.twice, add_zero]
  have left : modulus.power width 2 exponent ^^^ 1 < 2 ^ modulus.degree :=
    Nat.xor_lt_two_pow (power_lt width two exponent) (by omega)
  have given : valueAt x modulus.degree (modulus.power width 2 exponent ^^^ 1) =
      x ^ exponent - 1 := by
    rw [isRoot.valueAt_xor, one, less, isRoot.pow_eq fits]
  rw [← given, ← isRoot.valueAt_product left, computed, one]

end Value

end BinaryModulus

end Whale.Foundation
