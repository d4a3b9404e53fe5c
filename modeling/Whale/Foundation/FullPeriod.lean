/-
Linear maps whose orbits all have one length.

A linear map that returns after `period` steps moves every vector but zero through
exactly that many, if it moves none of them back after a proper divisor.  For each
prime that divides the period an inverse witnesses this.  An orbit that is as long as
there are states passes through all of them.
-/
import Mathlib.Algebra.Module.LinearMap.End
import Mathlib.Data.Finset.Card
import Mathlib.Data.Nat.ModEq
import Mathlib.Data.Nat.Prime.Basic
import Mathlib.Dynamics.PeriodicPts.Lemmas

set_option autoImplicit false

namespace Whale.Foundation

universe u v

variable {R : Type u} {M : Type v} [Ring R] [AddCommGroup M] [Module R M]

/-- No vector but zero is moved back by fewer steps: the map less the identity can be
undone at every maximal divisor of the period. -/
structure FullPeriod (map : Module.End R M) (period : Nat) : Prop where
  positive : 0 < period
  returns : map ^ period = 1
  moves : ∀ prime, Nat.Prime prime → prime ∣ period →
    ∃ undo : Module.End R M, undo * (map ^ (period / prime) - 1) = 1

namespace FullPeriod

variable {map : Module.End R M} {period : Nat} {vector : M}

theorem isPeriodicPt (full : FullPeriod map period) (vector : M) :
    Function.IsPeriodicPt map period vector := by
  change map^[period] vector = vector
  rw [← Module.End.pow_apply, full.returns, Module.End.one_apply]

theorem eq_zero_of_fixed (full : FullPeriod map period) {prime : Nat}
    (isPrime : Nat.Prime prime) (divides : prime ∣ period)
    (fixed : (map ^ (period / prime)) vector = vector) : vector = 0 := by
  obtain ⟨undo, inverse⟩ := full.moves prime isPrime divides
  have undone : (undo * (map ^ (period / prime) - 1)) vector = 0 := by
    rw [Module.End.mul_apply, LinearMap.sub_apply, fixed, Module.End.one_apply, sub_self,
      map_zero]
  rw [inverse] at undone
  exact undone

theorem minimalPeriod_eq (full : FullPeriod map period) (nonzero : vector ≠ 0) :
    Function.minimalPeriod map vector = period := by
  have divides := (full.isPeriodicPt vector).minimalPeriod_dvd
  obtain ⟨quotient, whole⟩ := divides
  by_contra shorter
  have several : quotient ≠ 1 := by
    intro single
    rw [single, mul_one] at whole
    exact shorter whole.symm
  obtain ⟨prime, isPrime, primeDivides⟩ := Nat.exists_prime_and_dvd several
  obtain ⟨rest, rfl⟩ := primeDivides
  have product : period = prime * (Function.minimalPeriod map vector * rest) :=
    whole.trans (Nat.mul_left_comm _ _ _)
  have split : period / prime = Function.minimalPeriod map vector * rest :=
    Nat.div_eq_of_eq_mul_right isPrime.pos product
  apply nonzero
  apply full.eq_zero_of_fixed isPrime (Dvd.intro _ product.symm)
  rw [split, Module.End.pow_apply]
  exact (Function.isPeriodicPt_minimalPeriod map vector).mul_const rest

end FullPeriod

/-- An orbit repeats exactly after its period. -/
theorem iterate_eq_iterate_iff_mod {State : Type u} {step : State → State} {start : State}
    (returns : 0 < Function.minimalPeriod step start) (first second : Nat) :
    step^[first] start = step^[second] start ↔
      first ≡ second [MOD Function.minimalPeriod step start] := by
  have firstReduced : step^[first % Function.minimalPeriod step start] start =
      step^[first] start := Function.iterate_mod_minimalPeriod_eq
  have secondReduced : step^[second % Function.minimalPeriod step start] start =
      step^[second] start := Function.iterate_mod_minimalPeriod_eq
  rw [← firstReduced, ← secondReduced]
  exact Function.iterate_eq_iterate_iff_of_lt_minimalPeriod (Nat.mod_lt first returns)
    (Nat.mod_lt second returns)

/-- The states are numbered below the length of the orbit, so there are no others than
those that it passes. -/
theorem exists_iterate_of_numbered {State : Type u} {step : State → State} {start : State}
    (States : Set State) (number : State → Nat)
    (stays : Set.MapsTo step States States) (inside : start ∈ States)
    (numbered : ∀ state ∈ States, number state < Function.minimalPeriod step start)
    (apart : Set.InjOn number States) {state : State} (member : state ∈ States) :
    ∃ count < Function.minimalPeriod step start, step^[count] start = state := by
  let length := Function.minimalPeriod step start
  have passed : ∀ count, step^[count] start ∈ States :=
    fun count => stays.iterate count inside
  have injective : Set.InjOn (fun count => number (step^[count] start))
      (Finset.range length : Set Nat) := by
    intro first firstInside second secondInside same
    have firstBelow := Finset.mem_range.mp (Finset.mem_coe.mp firstInside)
    have secondBelow := Finset.mem_range.mp (Finset.mem_coe.mp secondInside)
    exact (Function.iterate_eq_iterate_iff_of_lt_minimalPeriod firstBelow secondBelow).mp
      (apart (passed first) (passed second) same)
  have within : (Finset.range length).image (fun count => number (step^[count] start)) ⊆
      Finset.range length := by
    intro value imaged
    obtain ⟨count, _below, rfl⟩ := Finset.mem_image.mp imaged
    exact Finset.mem_range.mpr (numbered _ (passed count))
  have all := Finset.eq_of_subset_of_card_le within
    (Nat.le_of_eq (Finset.card_image_of_injOn injective).symm)
  have reached : number state ∈
      (Finset.range length).image (fun count => number (step^[count] start)) := by
    rw [all]
    exact Finset.mem_range.mpr (numbered state member)
  obtain ⟨count, below, same⟩ := Finset.mem_image.mp reached
  exact ⟨count, Finset.mem_range.mp below, apart (passed count) member same⟩

end Whale.Foundation
