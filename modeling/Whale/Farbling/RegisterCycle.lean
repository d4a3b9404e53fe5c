/-
The cycle of the shift register.

After one step a word carries its own feedback, and from there on its lowest bits are a
stream in which each bit is the sum of those 63 and 62 places before it.  The
polynomial x^63 + x + 1 is primitive: every stream but the blank one has the period
2^63 - 1.  There is one cycle, and a seed only says where on it the words begin.
-/
import Mathlib
import Whale.Farbling.ShiftRegister
import Whale.Foundation.BinaryPolynomials
import Whale.Foundation.FullPeriod

set_option autoImplicit false

namespace Whale.Farbling

open Whale.Foundation
open BinaryModulus (valueAt valueAt_one)

/-! ### Streams -/

def registerModulus : BinaryModulus :=
  { degree := 63
    rest := 3
    restFits := by decide
    several := by decide }

def registerPeriod : Nat :=
  9223372036854775807

/-- The streams that the register can produce. -/
def Streams : Submodule (ZMod 2) (Nat → ZMod 2) :=
  { carrier := { stream | ∀ place, stream (place + 63) = stream place + stream (place + 1) }
    add_mem' := by
      intro first second firstFollows secondFollows place
      simp only [Pi.add_apply]
      rw [firstFollows place, secondFollows place, add_add_add_comm]
    zero_mem' := by
      intro place
      simp
    smul_mem' := by
      intro factor stream follows place
      simp only [Pi.smul_apply]
      rw [follows place, smul_add] }

/-- The stream without its first bit. -/
def shift : Module.End (ZMod 2) Streams :=
  { toFun := fun stream =>
      ⟨fun place => stream.val (place + 1), fun place => stream.property (place + 1)⟩
    map_add' := fun _first _second => rfl
    map_smul' := fun _factor _stream => rfl }

theorem shift_pow_apply (count : Nat) (stream : Streams) (place : Nat) :
    ((shift ^ count) stream).val place = stream.val (place + count) := by
  induction count generalizing place with
  | zero => rfl
  | succ count ih =>
      rw [pow_succ', Module.End.mul_apply]
      change ((shift ^ count) stream).val (place + 1) = _
      rw [ih (place + 1), Nat.add_right_comm, Nat.add_assoc]

theorem shift_isRoot : registerModulus.IsRoot shift := by
  constructor
  · intro map
    rw [← two_smul (ZMod 2) map, show (2 : ZMod 2) = 0 from rfl, zero_smul]
  · have rest : valueAt shift (62 + 1) 3 = 1 + shift := by
      rw [valueAt, if_pos (by decide), show 3 / 2 = 1 from rfl, valueAt_one 61, mul_one]
    refine Eq.trans ?_ rest.symm
    apply LinearMap.ext
    intro stream
    apply Subtype.ext
    funext place
    rw [shift_pow_apply]
    exact stream.property place

/-! ### The period of the streams -/

theorem registerPeriod_eq :
    registerPeriod = 7 * (7 * (73 * (127 * (337 * (92737 * 649657))))) :=
  rfl

theorem prime_dvd_registerPeriod {prime : Nat} (isPrime : Nat.Prime prime)
    (divides : prime ∣ registerPeriod) :
    prime ∈ [7, 73, 127, 337, 92737, 649657] := by
  rw [registerPeriod_eq] at divides
  simp only [isPrime.dvd_mul] at divides
  have equal : ∀ {factor : Nat}, Nat.Prime factor → prime ∣ factor → prime = factor :=
    fun isFactor factorDivides => (Nat.prime_dvd_prime_iff_eq isPrime isFactor).mp factorDivides
  rcases divides with divides | divides | divides | divides | divides | divides | divides <;>
    · rw [equal (by norm_num) divides]
      decide

/-- What undoes the shift by a maximal divisor of the period, as a polynomial. -/
def undoWord : Nat → Nat
  | 7 => 77692853498478821
  | 73 => 77975174494975411
  | 127 => 1331185754538942234
  | 337 => 1606996623144895580
  | 92737 => 5048504963276231146
  | 649657 => 7285145052996081200
  | _ => 0

theorem undoWord_computed : ∀ prime ∈ [7, 73, 127, 337, 92737, 649657],
    registerModulus.product (registerModulus.power 63 2 (registerPeriod / prime) ^^^ 1)
      (undoWord prime) = 1 := by
  decide +kernel

theorem shift_fullPeriod : FullPeriod shift registerPeriod := by
  constructor
  · decide
  · have computed : registerModulus.power 63 2 registerPeriod = 1 := by decide +kernel
    rw [shift_isRoot.pow_eq (show registerPeriod < 2 ^ 63 by decide), computed]
    exact valueAt_one 62
  · intro prime isPrime divides
    have member := prime_dvd_registerPeriod isPrime divides
    have below : registerPeriod / prime < 2 ^ 63 :=
      (Nat.div_le_self _ _).trans_lt (by decide)
    exact ⟨_, shift_isRoot.undo below (undoWord_computed prime member)⟩

/-! ### The stream of a word -/

def bitValue (value : Bool) : ZMod 2 :=
  if value then 1 else 0

theorem bitValue_xor (first second : Bool) :
    bitValue (first ^^ second) = bitValue first + bitValue second := by
  cases first <;> cases second <;> rfl

theorem bitValue_injective {first second : Bool} (same : bitValue first = bitValue second) :
    first = second := by
  revert same
  cases first <;> cases second <;> decide

/-- The register moves its bits down to the lowest place. -/
theorem bit_iterate (v : UInt64) {count : Nat} (inside : count ≤ 62) :
    bit (lfsrNext^[count] v) 0 = bit v count := by
  induction count generalizing v with
  | zero => rfl
  | succ count ih =>
      rw [Function.iterate_succ_apply, ih (lfsrNext v) (by omega),
        bit_lfsrNext_of_lt v (by omega)]

theorem bit_iterate_feedback {v : UInt64} (produced : v ∈ Set.range lfsrNext) :
    bit (lfsrNext^[63] v) 0 = (bit v 0 ^^ bit v 1) := by
  rw [Function.iterate_succ_apply, bit_iterate (lfsrNext v) (Nat.le_refl 62),
    bit_lfsrNext_joined, joinedBit_of_produced produced, bit_top_of_produced produced]

theorem iterate_produced {v : UInt64} (produced : v ∈ Set.range lfsrNext) (count : Nat) :
    lfsrNext^[count] v ∈ Set.range lfsrNext := by
  have stays : Set.MapsTo lfsrNext (Set.range lfsrNext) (Set.range lfsrNext) :=
    fun word _produced => ⟨word, rfl⟩
  exact stays.iterate count produced

def lowestBits (v : UInt64) (place : Nat) : ZMod 2 :=
  bitValue (bit (lfsrNext^[place] v) 0)

theorem lowestBits_mem {v : UInt64} (produced : v ∈ Set.range lfsrNext) :
    lowestBits v ∈ Streams := by
  intro place
  have feedback := bit_iterate_feedback (iterate_produced produced place)
  have next : bit (lfsrNext^[place] v) 1 = bit (lfsrNext^[place + 1] v) 0 := by
    rw [Function.iterate_succ_apply', bit_lfsrNext_of_lt _ (by omega)]
  unfold lowestBits
  rw [Nat.add_comm place 63, Function.iterate_add_apply, feedback, next, bitValue_xor]

/-- The words that a step leaves. -/
abbrev Produced := { v : UInt64 // v ∈ Set.range lfsrNext }

def streamOf (word : Produced) : Streams :=
  ⟨lowestBits word.val, lowestBits_mem word.property⟩

def Produced.next (word : Produced) : Produced :=
  ⟨lfsrNext word.val, word.val, rfl⟩

theorem Produced.val_iterate (word : Produced) (count : Nat) :
    (Produced.next^[count] word).val = lfsrNext^[count] word.val := by
  induction count generalizing word with
  | zero => rfl
  | succ count ih =>
      rw [Function.iterate_succ_apply, Function.iterate_succ_apply, ih]
      rfl

/-- The feedback of a produced word is in its other bits. -/
theorem Produced.ext_of_bits {first second : Produced}
    (bits : ∀ place < 63, bit first.val place = bit second.val place) : first = second := by
  apply Subtype.ext
  apply eq_of_bits
  intro place inside
  by_cases low : place < 63
  · exact bits place low
  · have top : place = 63 := by omega
    rw [top, bit_top_of_produced first.property, bit_top_of_produced second.property,
      bits 0 (by omega), bits 1 (by omega)]

theorem streamOf_injective : Function.Injective streamOf := by
  intro first second same
  apply Produced.ext_of_bits
  intro place inside
  have here := congrFun (congrArg Subtype.val same) place
  rw [← bit_iterate first.val (Nat.le_of_lt_succ inside),
    ← bit_iterate second.val (Nat.le_of_lt_succ inside)]
  exact bitValue_injective here

theorem streamOf_iterate (word : Produced) (count : Nat) :
    shift^[count] (streamOf word) = streamOf (Produced.next^[count] word) := by
  rw [← Module.End.pow_apply]
  apply Subtype.ext
  funext place
  rw [shift_pow_apply]
  change lowestBits word.val (place + count) = lowestBits (Produced.next^[count] word).val place
  unfold lowestBits
  rw [word.val_iterate count, Function.iterate_add_apply]

/-! ### The cycle -/

theorem lfsrNext_zero : lfsrNext 0 = 0 := by
  decide

theorem lfsrNext_eq_zero_iff (v : UInt64) : lfsrNext v = 0 ↔ v = 0 := by
  constructor
  · intro blank
    obtain ⟨moved, joined⟩ := (lfsrNext_eq_iff v 0).mp (blank.trans lfsrNext_zero.symm)
    have clear : ∀ place, bit 0 place = false := fun place => BitVec.getLsbD_zero
    have first : bit v 1 = false := (moved 0 (by omega)).trans (clear 1)
    have ends : bit v 63 = false ∧ bit v 0 = false := by
      unfold joinedBit at joined
      simpa [clear, first] using joined
    apply eq_of_bits
    intro place inside
    rw [clear place]
    by_cases outer : place = 0 ∨ place = 63
    · rcases outer with rfl | rfl
      · exact ends.2
      · exact ends.1
    · obtain ⟨earlier, rfl⟩ : ∃ earlier, place = earlier + 1 := ⟨place - 1, by omega⟩
      exact (moved earlier (by omega)).trans (clear _)
  · rintro rfl
    exact lfsrNext_zero

theorem streamOf_ne_zero {word : Produced} (nonzero : word.val ≠ 0) : streamOf word ≠ 0 := by
  intro blank
  have zeroStream : streamOf ⟨0, 0, lfsrNext_zero⟩ = 0 := by
    apply Subtype.ext
    funext place
    change bitValue (bit (lfsrNext^[place] 0) 0) = 0
    rw [Function.iterate_fixed lfsrNext_zero]
    rfl
  exact nonzero (congrArg Subtype.val (streamOf_injective (blank.trans zeroStream.symm)))

theorem minimalPeriod_next {word : Produced} (nonzero : word.val ≠ 0) :
    Function.minimalPeriod Produced.next word = registerPeriod := by
  rw [← shift_fullPeriod.minimalPeriod_eq (streamOf_ne_zero nonzero),
    Function.minimalPeriod_eq_minimalPeriod_iff]
  intro count
  change Produced.next^[count] word = word ↔ shift^[count] (streamOf word) = streamOf word
  rw [streamOf_iterate, streamOf_injective.eq_iff]

/-- The word without its top bit, which is not zero. -/
def wordNumber (word : Produced) : Nat :=
  word.val.toNat % 2 ^ 63 - 1

theorem mod_two_pow_eq_iff (v w : UInt64) (count : Nat) :
    v.toNat % 2 ^ count = w.toNat % 2 ^ count ↔ ∀ place < count, bit v place = bit w place := by
  constructor
  · intro same place inside
    have tested := congrArg (fun value => Nat.testBit value place) same
    simp only [Nat.testBit_mod_two_pow, inside, decide_true, Bool.true_and] at tested
    exact tested
  · intro bits
    apply Nat.eq_of_testBit_eq
    intro place
    rw [Nat.testBit_mod_two_pow, Nat.testBit_mod_two_pow]
    by_cases inside : place < count
    · have here : v.toNat.testBit place = w.toNat.testBit place := bits place inside
      rw [here]
    · simp [inside]

theorem eq_of_mod {first second : Produced}
    (same : first.val.toNat % 2 ^ 63 = second.val.toNat % 2 ^ 63) : first = second :=
  Produced.ext_of_bits ((mod_two_pow_eq_iff first.val second.val 63).mp same)

theorem mod_ne_zero {word : Produced} (nonzero : word.val ≠ 0) :
    word.val.toNat % 2 ^ 63 ≠ 0 := by
  intro blank
  have same : word = ⟨0, 0, lfsrNext_zero⟩ := eq_of_mod blank
  exact nonzero (congrArg Subtype.val same)

/-- Every word but zero is on the cycle of every other. -/
theorem exists_iterate_next {first second : Produced} (firstNonzero : first.val ≠ 0)
    (secondNonzero : second.val ≠ 0) :
    ∃ count < registerPeriod, Produced.next^[count] first = second := by
  rw [← minimalPeriod_next firstNonzero]
  apply exists_iterate_of_numbered { word : Produced | word.val ≠ 0 } wordNumber
  · intro word nonzero blank
    exact nonzero ((lfsrNext_eq_zero_iff word.val).mp blank)
  · exact firstNonzero
  · intro word nonzero
    rw [minimalPeriod_next firstNonzero]
    have positive := mod_ne_zero nonzero
    have below := Nat.mod_lt word.val.toNat (show 0 < 2 ^ 63 by decide)
    unfold wordNumber registerPeriod
    omega
  · intro word nonzero other otherNonzero same
    have positive := mod_ne_zero nonzero
    have otherPositive := mod_ne_zero otherNonzero
    unfold wordNumber at same
    exact eq_of_mod (by omega)
  · exact secondNonzero

/-! ### Seeds -/

theorem noise_drop (v : UInt64) (count length : Nat) :
    (noise v (count + length)).drop count = noise (lfsrNext^[count] v) length := by
  induction count generalizing v with
  | zero => rw [Nat.zero_add, List.drop_zero, Function.iterate_zero_apply]
  | succ count ih =>
      rw [Nat.add_right_comm, noise, List.drop_succ_cons, ih, Function.iterate_succ_apply]

theorem noise_eq_of_next {v w : UInt64} (same : lfsrNext v = lfsrNext w) (length : Nat) :
    noise v length = noise w length := by
  cases length with
  | zero => rfl
  | succ length => rw [noise, noise, same]

/-- From any seed but zero the words repeat after 2^63 - 1 steps and not before, and the
words of all these seeds are on one cycle: the noise of any seed is the noise of any
other from some place on. -/
theorem lfsrNext_oneCycle (v w : UInt64) (nonzero : v ≠ 0) (otherNonzero : w ≠ 0) :
    (∀ first second, lfsrNext^[first + 1] v = lfsrNext^[second + 1] v ↔
      first ≡ second [MOD registerPeriod]) ∧
    ∃ count < registerPeriod, lfsrNext^[count + 1] v = lfsrNext w ∧
      ∀ length, noise w length = (noise v (count + length)).drop count := by
  let start : Produced := ⟨lfsrNext v, v, rfl⟩
  let other : Produced := ⟨lfsrNext w, w, rfl⟩
  have startNonzero : start.val ≠ 0 := fun blank => nonzero ((lfsrNext_eq_zero_iff v).mp blank)
  have targetNonzero : other.val ≠ 0 :=
    fun blank => otherNonzero ((lfsrNext_eq_zero_iff w).mp blank)
  constructor
  · intro first second
    have period := minimalPeriod_next startNonzero
    have returns : 0 < Function.minimalPeriod Produced.next start := by
      rw [period]
      decide
    rw [← period, ← iterate_eq_iterate_iff_mod returns, ← Subtype.val_inj, start.val_iterate,
      start.val_iterate]
    rfl
  · obtain ⟨count, below, reached⟩ := exists_iterate_next startNonzero targetNonzero
    have passed : lfsrNext^[count + 1] v = lfsrNext w := by
      rw [Function.iterate_succ_apply]
      exact (start.val_iterate count).symm.trans (congrArg Subtype.val reached)
    refine ⟨count, below, passed, fun length => ?_⟩
    rw [noise_drop]
    apply noise_eq_of_next
    rw [← passed, Function.iterate_succ_apply']

theorem lfsrNext_oneCycle_example :
    (∀ first second, lfsrNext^[first + 1] 1 = lfsrNext^[second + 1] 1 ↔
      first ≡ second [MOD registerPeriod]) ∧
    ∃ count < registerPeriod, lfsrNext^[count + 1] 1 = lfsrNext 12345 ∧
      ∀ length, noise 12345 length = (noise 1 (count + length)).drop count :=
  lfsrNext_oneCycle 1 12345 (by decide) (by decide)

end Whale.Farbling
