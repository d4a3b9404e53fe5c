/-
The values of a function that tells numbers apart by their remainders only.
-/
import Mathlib.Data.Nat.ModEq
import Mathlib.Data.Set.Card

set_option autoImplicit false

namespace Whale.Foundation

universe u v

variable {α : Type u} {β : Type v}

theorem modEq_lcm_iff {first second left right : Nat} :
    left ≡ right [MOD Nat.lcm first second] ↔
      left ≡ right [MOD first] ∧ left ≡ right [MOD second] := by
  constructor
  · intro both
    exact ⟨both.of_dvd (Nat.dvd_lcm_left first second), both.of_dvd (Nat.dvd_lcm_right first second)⟩
  · rintro ⟨leftSame, rightSame⟩
    exact Nat.mod_lcm leftSame rightSame

/-- It has as many values as there are remainders. -/
theorem ncard_range_of_modEq {f : α → β} (number : α → Nat) {modulus : Nat}
    (positive : 0 < modulus) (numbered : ∀ index < modulus, ∃ a, number a = index)
    (same : ∀ a b, f a = f b ↔ number a ≡ number b [MOD modulus]) :
    (Set.range f).ncard = modulus := by
  choose object hasNumber using numbered
  apply Set.ncard_eq_of_bijective fun index below => f (object index below)
  · rintro value ⟨a, rfl⟩
    have below : number a % modulus < modulus := Nat.mod_lt _ positive
    refine ⟨number a % modulus, below, ?_⟩
    rw [same, hasNumber]
    exact Nat.mod_modEq (number a) modulus
  · intro index below
    exact ⟨object index below, rfl⟩
  · intro first second firstBelow secondBelow equal
    rw [same, hasNumber, hasNumber] at equal
    exact equal.eq_of_lt_of_lt firstBelow secondBelow

end Whale.Foundation
