/-
How many texts `GenerateRandomString` can give.

A letter is the lowest six bits of the register, and a step sends one of them out and
lets one new bit in.  A letter therefore leaves two choices for the next one, until the
register has sent out all that the seed put into it.
-/
import Whale.Farbling.RegisterCycle
import Whale.Farbling.SessionCache
import Whale.Foundation.Residues

set_option autoImplicit false

namespace Whale.Farbling

open Whale.Foundation
open Whale.Url (Text)
open WhaleSessionCache

/-! ### The bits that a text shows -/

/-- The lowest bit of each word, in the order of the steps. -/
def sentBit (v : UInt64) (place : Nat) : Bool :=
  bit (lfsrNext^[place] v) 0

theorem sentBit_succ (v : UInt64) (place : Nat) :
    sentBit v (place + 1) = sentBit (lfsrNext v) place := by
  unfold sentBit
  rw [Function.iterate_succ_apply]

theorem sentBit_of_seed (v : UInt64) {place : Nat} (inside : place ≤ 62) :
    sentBit v place = bit v place :=
  bit_iterate v inside

def letterOf (v : UInt64) : Char :=
  kLettersForRandomStrings.getD (v % kLettersForRandomStringsLength).toNat (Char.ofNat 0)

theorem letters_nodup : kLettersForRandomStrings.Nodup := by
  decide +kernel

theorem letterOf_eq_iff (v w : UInt64) :
    letterOf v = letterOf w ↔ ∀ place < 6, bit v place = bit w place := by
  rw [← mod_two_pow_eq_iff]
  unfold letterOf
  rw [List.getD_eq_getElem _ _ (letterIndex_lt v),
    List.getD_eq_getElem _ _ (letterIndex_lt w),
    letters_nodup.getElem_inj_iff, UInt64.toNat_mod, UInt64.toNat_mod]
  rfl

/-- A text shows the bits that leave the register while it is made, and the five that
stay behind its last letter. -/
theorem randomLetters_eq_iff (v w : UInt64) (length : Nat) :
    randomLetters v (length + 1) = randomLetters w (length + 1) ↔
      ∀ place < length + 6, sentBit v place = sentBit w place := by
  induction length generalizing v w with
  | zero =>
      have first : randomLetters v 1 = randomLetters w 1 ↔ letterOf v = letterOf w := by
        change [letterOf v] = [letterOf w] ↔ _
        rw [List.singleton_inj]
      rw [first, letterOf_eq_iff]
      apply forall_congr'
      intro place
      apply imp_congr_right
      intro inside
      rw [sentBit_of_seed v (by omega), sentBit_of_seed w (by omega)]
  | succ length ih =>
      have split : randomLetters v (length + 1 + 1) = randomLetters w (length + 1 + 1) ↔
          letterOf v = letterOf w ∧
            randomLetters (lfsrNext v) (length + 1) = randomLetters (lfsrNext w) (length + 1) := by
        change letterOf v :: _ = letterOf w :: _ ↔ _
        rw [List.cons.injEq]
      rw [split, ih, letterOf_eq_iff]
      constructor
      · rintro ⟨shown, later⟩ place inside
        cases place with
        | zero => exact shown 0 (by omega)
        | succ place =>
            rw [sentBit_succ, sentBit_succ]
            exact later place (by omega)
      · intro sent
        constructor
        · intro place inside
          rw [← sentBit_of_seed v (by omega), ← sentBit_of_seed w (by omega)]
          exact sent place (by omega)
        · intro place inside
          rw [← sentBit_succ, ← sentBit_succ]
          exact sent (place + 1) (by omega)

/-! ### What the bits say of the seed -/

theorem sent_eq_iff_of_short (v w : UInt64) {count : Nat} (short : count ≤ 63) :
    (∀ place < count, sentBit v place = sentBit w place) ↔
      v.toNat % 2 ^ count = w.toNat % 2 ^ count := by
  rw [mod_two_pow_eq_iff]
  apply forall_congr'
  intro place
  apply imp_congr_right
  intro inside
  rw [sentBit_of_seed v (by omega), sentBit_of_seed w (by omega)]

/-- The top bit of the seed shows only through the bit that it is joined to. -/
theorem sent_eq_iff_of_long (v w : UInt64) {count : Nat} (long : 64 ≤ count) :
    (∀ place < count, sentBit v place = sentBit w place) ↔
      v.toNat % 2 ^ 63 = w.toNat % 2 ^ 63 ∧ joinedBit v = joinedBit w := by
  have joined : ∀ word, sentBit word 63 = joinedBit word := by
    intro word
    rw [sentBit_succ, sentBit_of_seed (lfsrNext word) (Nat.le_refl 62), bit_lfsrNext_joined]
  constructor
  · intro sent
    constructor
    · rw [← sent_eq_iff_of_short v w (Nat.le_refl 63)]
      exact fun place inside => sent place (by omega)
    · rw [← joined v, ← joined w]
      exact sent 63 (by omega)
  · rintro ⟨low, same⟩ place _inside
    rw [mod_two_pow_eq_iff] at low
    cases place with
    | zero => exact low 0 (by omega)
    | succ place =>
        have confused : Confused v w :=
          ⟨fun earlier below => low (earlier + 1) (by omega), same⟩
        rw [sentBit_succ, sentBit_succ, (lfsrNext_eq_iff v w).mpr confused]

/-! ### How many texts there are -/

theorem randomLetters_ncard_of_short {length : Nat} (short : length + 6 ≤ 63) :
    (Set.range fun v => randomLetters v (length + 1)).ncard = 2 ^ (length + 6) := by
  have fits : 2 ^ (length + 6) ≤ 2 ^ 63 := Nat.pow_le_pow_right (by omega) short
  apply ncard_range_of_modEq UInt64.toNat (Nat.two_pow_pos (length + 6))
  · intro index below
    refine ⟨UInt64.ofNat index, ?_⟩
    rw [UInt64.toNat_ofNat']
    exact Nat.mod_eq_of_lt (by omega)
  · intro v w
    rw [randomLetters_eq_iff, sent_eq_iff_of_short v w short]
    rfl

theorem bit_eq_decide (v : UInt64) (place : Nat) :
    bit v place = decide (v.toNat / 2 ^ place % 2 = 1) := by
  change v.toNat.testBit place = _
  rw [Nat.testBit_eq_decide_div_mod_eq]

theorem joinedBit_eq (v : UInt64) :
    joinedBit v = decide (2 ^ 63 ≤ v.toNat ∨ v.toNat % 2 ≠ v.toNat / 2 % 2) := by
  have inside := v.toNat_lt
  unfold joinedBit
  rw [bit_eq_decide, bit_eq_decide, bit_eq_decide]
  by_cases top : 2 ^ 63 ≤ v.toNat
  · have shown : v.toNat / 2 ^ 63 % 2 = 1 := by omega
    rw [decide_eq_true shown, Bool.true_or, decide_eq_true (Or.inl top)]
  · have clear : ¬v.toNat / 2 ^ 63 % 2 = 1 := by omega
    rw [decide_eq_false clear, Bool.false_or, Nat.pow_zero, Nat.div_one, Nat.pow_one]
    have lowest : v.toNat % 2 = 0 ∨ v.toNat % 2 = 1 := by omega
    have next : v.toNat / 2 % 2 = 0 ∨ v.toNat / 2 % 2 = 1 := by omega
    rcases lowest with lowest | lowest <;> rcases next with next | next <;>
      simp only [top, lowest, next] <;> decide

/-- A seed for each text: those with the top bit, and then those in which the bits that
are joined are equal. -/
def toldApart (index : Nat) : Nat :=
  if index < 2 ^ 63 then 2 ^ 63 + index
  else 4 * ((index - 2 ^ 63) / 2) + 3 * (index % 2)

theorem toldApart_of_lt {index : Nat} (below : index < 2 ^ 63) :
    toldApart index = 2 ^ 63 + index := by
  rw [toldApart, if_pos below]

theorem toldApart_add (half : Nat) {last : Nat} (isBit : last < 2) :
    toldApart (2 ^ 63 + (2 * half + last)) = 4 * half + 3 * last := by
  have ends : (2 * half + last) / 2 = half ∧ (2 ^ 63 + (2 * half + last)) % 2 = last := by omega
  rw [toldApart, if_neg (by omega), Nat.add_sub_cancel_left, ends.1, ends.2]

theorem joinedBit_of_top {v : UInt64} (top : 2 ^ 63 ≤ v.toNat) : joinedBit v = true := by
  rw [joinedBit_eq]
  exact decide_eq_true (Or.inl top)

theorem joinedBit_of_equal {v : UInt64} {half last : Nat} (isBit : last < 2)
    (below : half < 2 ^ 61) (number : v.toNat = 4 * half + 3 * last) : joinedBit v = false := by
  rw [joinedBit_eq, number]
  apply decide_eq_false
  have lastCases : last = 0 ∨ last = 1 := by omega
  rcases lastCases with rfl | rfl <;> omega

/-- The seed number `index`, in its two kinds. -/
theorem toldApart_cases {index : Nat} (below : index < 3 * 2 ^ 62) :
    (index < 2 ^ 63 ∧ (UInt64.ofNat (toldApart index)).toNat = 2 ^ 63 + index) ∨
    ∃ half < 2 ^ 61, ∃ last < 2, index = 2 ^ 63 + (2 * half + last) ∧
      (UInt64.ofNat (toldApart index)).toNat = 4 * half + 3 * last := by
  by_cases first : index < 2 ^ 63
  · left
    refine ⟨first, ?_⟩
    rw [toldApart_of_lt first, UInt64.toNat_ofNat']
    omega
  · right
    refine ⟨(index - 2 ^ 63) / 2, by omega, index % 2, by omega, by omega, ?_⟩
    rw [UInt64.toNat_ofNat', toldApart, if_neg first]
    omega

/-- No other seed gives another text. -/
theorem toldApart_reaches (v : UInt64) : ∃ index < 3 * 2 ^ 62,
    (UInt64.ofNat (toldApart index)).toNat % 2 ^ 63 = v.toNat % 2 ^ 63 ∧
      joinedBit (UInt64.ofNat (toldApart index)) = joinedBit v := by
  have inside := v.toNat_lt
  cases joined : joinedBit v with
  | true =>
      have below : v.toNat % 2 ^ 63 < 2 ^ 63 := Nat.mod_lt _ (by decide)
      have number : (UInt64.ofNat (toldApart (v.toNat % 2 ^ 63))).toNat =
          2 ^ 63 + v.toNat % 2 ^ 63 := by
        rw [toldApart_of_lt below, UInt64.toNat_ofNat']
        omega
      refine ⟨v.toNat % 2 ^ 63, by omega, ?_, joinedBit_of_top ?_⟩
      · rw [number]
        omega
      · rw [number]
        exact Nat.le_add_right _ _
  | false =>
      rw [joinedBit_eq] at joined
      have shape := of_decide_eq_false joined
      rw [not_or, Nat.not_le, not_not] at shape
      have same : UInt64.ofNat (toldApart (2 ^ 63 + (2 * (v.toNat / 4) + v.toNat % 2))) = v := by
        rw [toldApart_add _ (Nat.mod_lt _ (by decide))]
        have number : 4 * (v.toNat / 4) + 3 * (v.toNat % 2) = v.toNat := by omega
        rw [number, UInt64.ofNat_toNat]
      have quarter : v.toNat / 4 < 2 ^ 61 := by omega
      have lastBit : v.toNat % 2 < 2 := Nat.mod_lt _ (by decide)
      refine ⟨2 ^ 63 + (2 * (v.toNat / 4) + v.toNat % 2), by omega, ?_, ?_⟩
      · rw [same]
      · rw [same, joinedBit_eq]
        exact joined

theorem randomLetters_ncard_of_long {length : Nat} (long : 64 ≤ length + 6) :
    (Set.range fun v => randomLetters v (length + 1)).ncard = 3 * 2 ^ 62 := by
  have shows : ∀ v w, randomLetters v (length + 1) = randomLetters w (length + 1) ↔
      v.toNat % 2 ^ 63 = w.toNat % 2 ^ 63 ∧ joinedBit v = joinedBit w := by
    intro v w
    rw [randomLetters_eq_iff, sent_eq_iff_of_long v w long]
  apply Set.ncard_eq_of_bijective fun index _below =>
    randomLetters (UInt64.ofNat (toldApart index)) (length + 1)
  · rintro text ⟨v, rfl⟩
    obtain ⟨index, below, reached⟩ := toldApart_reaches v
    exact ⟨index, below, (shows _ _).mpr reached⟩
  · intro index _below
    exact ⟨_, rfl⟩
  · intro first second firstBelow secondBelow same
    obtain ⟨low, joined⟩ := (shows _ _).mp same
    rcases toldApart_cases firstBelow with
        ⟨below, number⟩ | ⟨half, below, last, isBit, rfl, number⟩ <;>
      rcases toldApart_cases secondBelow with
        ⟨otherBelow, otherNumber⟩ | ⟨otherHalf, otherBelow, otherLast, otherIsBit, rfl, otherNumber⟩
    · rw [number, otherNumber] at low
      omega
    · rw [joinedBit_of_top (by omega), joinedBit_of_equal otherIsBit otherBelow otherNumber]
        at joined
      cases joined
    · rw [joinedBit_of_equal isBit below number, joinedBit_of_top (by omega)] at joined
      cases joined
    · have fits : 4 * half + 3 * last < 2 ^ 63 := by omega
      have otherFits : 4 * otherHalf + 3 * otherLast < 2 ^ 63 := by omega
      rw [number, otherNumber, Nat.mod_eq_of_lt fits, Nat.mod_eq_of_lt otherFits] at low
      omega

/-! ### Every seed occurs -/

theorem joinByte (word : UInt64) :
    ((word >>> 8) <<< 8) ||| word.toUInt8.toUInt64 = word := by
  apply UInt64.toNat_inj.mp
  have inside := word.toNat_lt
  have shifted : word.toNat >>> 8 <<< 8 < 2 ^ 64 := by
    rw [Nat.shiftLeft_eq, Nat.shiftRight_eq_div_pow]
    omega
  simp only [UInt64.toNat_or, UInt64.toNat_shiftLeft, UInt64.toNat_shiftRight,
    UInt8.toNat_toUInt64, UInt64.toNat_toUInt8]
  change word.toNat >>> 8 <<< 8 % 2 ^ 64 ||| word.toNat % 2 ^ 8 = _
  rw [Nat.mod_eq_of_lt shifted, ← Nat.shiftLeft_add_eq_or_of_lt (Nat.mod_lt _ (by decide)),
    Nat.shiftLeft_eq, Nat.shiftRight_eq_div_pow]
  omega

theorem shiftRight_eight (word : UInt64) {index : Nat} (inside : index < 7) :
    word >>> (8 * (index + 1)).toUInt64 = word >>> 8 >>> (8 * index).toUInt64 := by
  apply UInt64.toNat_inj.mp
  have number : ∀ {count : Nat}, count < 64 → count.toUInt64.toNat % 64 = count := by
    intro count below
    change count % 2 ^ 64 % 64 = count
    omega
  simp only [UInt64.toNat_shiftRight]
  rw [number (by omega), number (by omega)]
  change _ = word.toNat >>> 8 >>> (8 * index)
  rw [← Nat.shiftRight_add]
  congr 1
  omega

/-- `byte` below the bytes that are joined already. -/
def joinBelow (byte : UInt8) (joined : UInt64) : UInt64 :=
  (joined <<< 8) ||| byte.toUInt64

theorem foldr_joinBelow {count : Nat} (inside : count ≤ 8) {word : UInt64}
    (fits : word.toNat < 2 ^ (8 * count)) :
    ((List.range count).map fun index => (word >>> (8 * index).toUInt64).toUInt8).foldr
      joinBelow 0 = word := by
  induction count generalizing word with
  | zero =>
      apply UInt64.toNat_inj.mp
      rw [Nat.mul_zero, Nat.pow_zero] at fits
      exact (Nat.lt_one_iff.mp fits).symm
  | succ count ih =>
      have rest : (List.range count).map
          (fun index => (word >>> (8 * (index + 1)).toUInt64).toUInt8) =
            (List.range count).map fun index => (word >>> 8 >>> (8 * index).toUInt64).toUInt8 := by
        apply List.map_congr_left
        intro index member
        rw [shiftRight_eight word (by have := List.mem_range.mp member; omega)]
      have restFits : (word >>> 8).toNat < 2 ^ (8 * count) := by
        change word.toNat >>> 8 < _
        rw [Nat.shiftRight_eq_div_pow, Nat.div_lt_iff_lt_mul (by decide), ← Nat.pow_add]
        exact fits
      rw [List.range_succ_eq_map, List.map_cons, List.map_map, List.foldr_cons]
      change joinBelow _ (((List.range count).map
        fun index => (word >>> (8 * (index + 1)).toUInt64).toUInt8).foldr joinBelow 0) = word
      rw [rest, ih (by omega) restFits]
      change ((word >>> 8) <<< 8) ||| (word >>> 0).toUInt8.toUInt64 = word
      rw [UInt64.shiftRight_zero, joinByte]

theorem exists_firstWord (word : UInt64) : ∃ digest, firstWord digest = word := by
  refine ⟨⟨(wordBytes word ++ List.replicate 24 0).toArray, rfl⟩, ?_⟩
  exact foldr_joinBelow (Nat.le_refl 8) word.toNat_lt

/-! ### All texts of a length -/

theorem generateRandomString_result (platform : FarblingPlatform) (cache : WhaleSessionCache)
    (seed : List UInt8) (length : Nat) :
    (cache.generateRandomString platform seed length).result =
      .ok (randomLetters (firstWord (platform.hmacSha256 cache.domainKey.toList seed)) length) :=
  rfl

/-- A platform on which every HMAC is `digest`. -/
def signingPlatform (digest : Digest) : FarblingPlatform :=
  { hmacSha256 := fun _key _message => digest
    getDomainAndRegistry := fun _host => []
    randenEngine := fun _seed _place => 0
    isDisplayIsolated := fun _scheme => false }

/-- From any cache and seed, over all that the HMAC may return: up to 58 letters, a text
holds one bit for each letter and five more, and longer texts are no more than
3 * 2^62. -/
theorem generateRandomString_ncard (cache : WhaleSessionCache) (seed : List UInt8)
    (length : Nat) :
    { text | ∃ platform : FarblingPlatform,
        (cache.generateRandomString platform seed (length + 1)).result = .ok text }.ncard =
      if length < 58 then 2 ^ (length + 6) else 3 * 2 ^ 62 := by
  have results : { text | ∃ platform : FarblingPlatform,
      (cache.generateRandomString platform seed (length + 1)).result = .ok text } =
        Set.range fun v => randomLetters v (length + 1) := by
    ext text
    constructor
    · rintro ⟨platform, made⟩
      rw [generateRandomString_result] at made
      exact ⟨_, Except.ok.inj made⟩
    · rintro ⟨v, rfl⟩
      obtain ⟨digest, rfl⟩ := exists_firstWord v
      exact ⟨signingPlatform digest, generateRandomString_result _ cache seed (length + 1)⟩
  rw [results]
  split
  · exact randomLetters_ncard_of_short (by omega)
  · exact randomLetters_ncard_of_long (by omega)

end Whale.Farbling
