/-
What a step of the shift register forgets.

Bits are numbered from the lowest.  A step moves bits 1 to 62 down, writes the
exclusive or of bits 1 and 2 to the top and joins the one of bits 0 and 1 to the
place that bit 63 moves to.  The join is an OR, so it forgets; but the words that
come out of a step have their feedback in bit 63 already, and from those no later
step forgets anything.
-/
import Mathlib.Data.Set.Function
import Whale.Farbling.AudioFarblingHelper

set_option autoImplicit false

namespace Whale.Farbling

/-! ### The bits of a step -/

def bit (v : UInt64) (place : Nat) : Bool :=
  v.toBitVec.getLsbD place

theorem eq_of_bits {v w : UInt64} (same : ∀ place < 64, bit v place = bit w place) :
    v = w := by
  apply UInt64.toBitVec_inj.mp
  apply BitVec.eq_of_getLsbD_eq
  exact same

theorem lfsrMask_eq : ((~~~((~~~(0 : UInt64)) <<< 63)) <<< 62) = 13835058055282163712 := by
  decide

/-- The mask keeps the two highest bits only. -/
theorem lfsrMask_below (place : Nat) (below : place < 62) :
    (13835058055282163712#64).getLsbD place = false := by
  revert place
  decide

theorem bit_lfsrNext_of_lt (v : UInt64) {place : Nat} (below : place < 62) :
    bit (lfsrNext v) place = bit v (place + 1) := by
  unfold lfsrNext
  rw [lfsrMask_eq]
  unfold bit
  simp [lfsrMask_below place below, Nat.add_comm]

/-- What the step leaves below the top bit. -/
def joinedBit (v : UInt64) : Bool :=
  bit v 63 || (bit v 0 ^^ bit v 1)

theorem bit_lfsrNext_joined (v : UInt64) : bit (lfsrNext v) 62 = joinedBit v := by
  unfold lfsrNext joinedBit
  rw [lfsrMask_eq]
  unfold bit
  simp

theorem bit_lfsrNext_top (v : UInt64) : bit (lfsrNext v) 63 = (bit v 1 ^^ bit v 2) := by
  unfold lfsrNext
  rw [lfsrMask_eq]
  unfold bit
  simp

/-! ### Which words a step confuses -/

/-- The same bits 1 to 62, and the same bit to be left below the top. -/
def Confused (v w : UInt64) : Prop :=
  (∀ place < 62, bit v (place + 1) = bit w (place + 1)) ∧ joinedBit v = joinedBit w

theorem lfsrNext_eq_iff (v w : UInt64) : lfsrNext v = lfsrNext w ↔ Confused v w := by
  constructor
  · intro same
    constructor
    · intro place below
      rw [← bit_lfsrNext_of_lt v below, ← bit_lfsrNext_of_lt w below, same]
    · rw [← bit_lfsrNext_joined, ← bit_lfsrNext_joined, same]
  · rintro ⟨moved, joined⟩
    apply eq_of_bits
    intro place inside
    by_cases below : place < 62
    · rw [bit_lfsrNext_of_lt v below, bit_lfsrNext_of_lt w below]
      exact moved place below
    · have atEnd : place = 62 ∨ place = 63 := by omega
      rcases atEnd with rfl | rfl
      · rw [bit_lfsrNext_joined, bit_lfsrNext_joined, joined]
      · have first : bit v 1 = bit w 1 := moved 0 (by omega)
        have second : bit v 2 = bit w 2 := moved 1 (by omega)
        rw [bit_lfsrNext_top, bit_lfsrNext_top, first, second]

/-! ### Nothing is lost later -/

/-- A word that a step has left carries its own feedback at the top. -/
theorem bit_top_of_produced {v : UInt64} (produced : v ∈ Set.range lfsrNext) :
    bit v 63 = (bit v 0 ^^ bit v 1) := by
  obtain ⟨before, rfl⟩ := produced
  rw [bit_lfsrNext_top, bit_lfsrNext_of_lt before (by omega),
    bit_lfsrNext_of_lt before (by omega)]

theorem joinedBit_of_produced {v : UInt64} (produced : v ∈ Set.range lfsrNext) :
    joinedBit v = bit v 63 := by
  unfold joinedBit
  rw [← bit_top_of_produced produced, Bool.or_self]

theorem lfsrNext_injOn_produced : Set.InjOn lfsrNext (Set.range lfsrNext) := by
  intro v fromStep w fromStep' same
  obtain ⟨moved, joined⟩ := (lfsrNext_eq_iff v w).mp same
  have top : bit v 63 = bit w 63 := by
    rw [← joinedBit_of_produced fromStep, ← joinedBit_of_produced fromStep', joined]
  have first : bit v 1 = bit w 1 := moved 0 (by omega)
  have lowest : bit v 0 = bit w 0 := by
    have feedback := top
    rw [bit_top_of_produced fromStep, bit_top_of_produced fromStep', first] at feedback
    exact Bool.xor_left_inj.mp feedback
  apply eq_of_bits
  intro place inside
  by_cases ends : place = 0 ∨ place = 63
  · rcases ends with rfl | rfl
    · exact lowest
    · exact top
  · obtain ⟨earlier, rfl⟩ : ∃ earlier, place = earlier + 1 := ⟨place - 1, by omega⟩
    exact moved earlier (by omega)

/-- Two streams merge in the first step or never. -/
theorem lfsrNext_iterate_succ_eq_iff (v w : UInt64) (steps : Nat) :
    lfsrNext^[steps + 1] v = lfsrNext^[steps + 1] w ↔ lfsrNext v = lfsrNext w := by
  have stays : Set.MapsTo lfsrNext (Set.range lfsrNext) (Set.range lfsrNext) :=
    fun word _produced => ⟨word, rfl⟩
  rw [Function.iterate_succ_apply, Function.iterate_succ_apply]
  exact (lfsrNext_injOn_produced.iterate stays steps).eq_iff ⟨v, rfl⟩ ⟨w, rfl⟩

theorem lfsrNext_neverMerges_iff (v w : UInt64) :
    ((lfsrNext v = lfsrNext w → v = w) ↔ v = w ∨ ¬Confused v w) ∧
      ((∀ steps, lfsrNext^[steps] v = lfsrNext^[steps] w → v = w) ↔
        v = w ∨ ¬Confused v w) := by
  have oneStep : (lfsrNext v = lfsrNext w → v = w) ↔ v = w ∨ ¬Confused v w := by
    rw [lfsrNext_eq_iff, imp_iff_or_not]
  refine ⟨oneStep, ?_⟩
  rw [← oneStep]
  constructor
  · intro apart
    exact apart 1
  · intro injective steps merged
    cases steps with
    | zero => exact merged
    | succ steps => exact injective ((lfsrNext_iterate_succ_eq_iff v w steps).mp merged)

/-- With the highest bit set the lowest one is forgotten. -/
theorem lfsrNext_merges :
    lfsrNext 9223372036854775808 = lfsrNext 9223372036854775809 ∧
      (9223372036854775808 : UInt64) ≠ 9223372036854775809 := by
  decide

end Whale.Farbling
