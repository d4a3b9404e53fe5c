/-
What `PerturbPixelsInternal` does to a buffer.

The two loops are one walk of the shift register.  Each step toggles the lowest bit
of one colour byte or leaves it, as the canvas key says, so the result is the buffer
with toggles scattered at the listed offsets.
-/
import Whale.Farbling.SessionCache
import Whale.Foundation.Scatter

set_option autoImplicit false

namespace Whale.Farbling

open Whale.Foundation

/-! ### One step -/

def flipLow (pixel : UInt8) : UInt8 :=
  pixel ^^^ 1

theorem flipLow_involutive : Function.Involutive flipLow := by
  intro pixel
  unfold flipLow
  rw [UInt8.xor_assoc, UInt8.xor_self, UInt8.xor_zero]

theorem flipLow_ne (pixel : UInt8) : flipLow pixel ≠ pixel := by
  intro same
  unfold flipLow at same
  have cancelled : (1 : UInt8) = 0 :=
    (UInt8.xor_right_inj pixel).mp (same.trans UInt8.xor_zero.symm)
  exact absurd cancelled (by decide)

/-- A byte without its lowest bit. -/
def upperBits (pixel : UInt8) : UInt8 :=
  pixel >>> 1

theorem upperBits_flipLow (pixel : UInt8) : upperBits (flipLow pixel) = upperBits pixel := by
  unfold upperBits flipLow
  rw [UInt8.shiftRight_xor]
  exact UInt8.xor_zero

/-- The byte that a step of the walk looks at. -/
def pixelOffset (pixelCount v : UInt64) : Nat :=
  4 * (v.toNat % pixelCount.toNat) + v.toNat % 3

theorem pixelOffset_lt (pixelCount v : UInt64) (pixel : pixelCount ≠ 0) :
    pixelOffset pixelCount v + 1 < 4 * pixelCount.toNat := by
  have positive : 0 < pixelCount.toNat := by
    apply Nat.pos_of_ne_zero
    intro zero
    exact pixel (UInt64.toNat_inj.mp zero)
  have inside := Nat.mod_lt v.toNat positive
  have channel := Nat.mod_lt v.toNat (show 0 < 3 by omega)
  unfold pixelOffset
  omega

theorem pixelOffset_mod_four (pixelCount v : UInt64) : pixelOffset pixelCount v % 4 ≠ 3 := by
  have channel := Nat.mod_lt v.toNat (show 0 < 3 by omega)
  unfold pixelOffset
  omega

/-- The unsigned arithmetic of the index does not wrap. -/
theorem pixelIndex_toNat (pixelCount v : UInt64) (pixel : pixelCount ≠ 0)
    (fits : 4 * pixelCount.toNat < 2 ^ 64) :
    (4 * (v % pixelCount) + v % 3).toNat = pixelOffset pixelCount v := by
  have inside := pixelOffset_lt pixelCount v pixel
  unfold pixelOffset at inside ⊢
  rw [UInt64.toNat_add, UInt64.toNat_mul, UInt64.toNat_mod, UInt64.toNat_mod]
  change (4 * (v.toNat % pixelCount.toNat) % 2 ^ 64 + v.toNat % 3) % 2 ^ 64 = _
  rw [Nat.mod_eq_of_lt (show 4 * (v.toNat % pixelCount.toNat) < 2 ^ 64 by omega),
    Nat.mod_eq_of_lt (by omega)]

theorem and_one_eq (bit : UInt8) : bit &&& 1 = if bit.toNat.testBit 0 then 1 else 0 := by
  apply UInt8.toNat_inj.mp
  rw [UInt8.toNat_and, Nat.testBit_zero]
  change bit.toNat &&& 1 = _
  rw [Nat.and_one_is_mod]
  by_cases odd : bit.toNat % 2 = 1
  · simp [odd]
  · have even : bit.toNat % 2 = 0 := by omega
    simp [even]

/-- A step at which the key has `place` as its lowest bit. -/
theorem perturbPixel_eq (pixelCount : UInt64) (keyByte : UInt8) (walk : PixelWalk) (j : Nat)
    (pixel : pixelCount ≠ 0) (fits : 4 * pixelCount.toNat < 2 ^ 64)
    (inside : 4 * pixelCount.toNat ≤ walk.pixels.length)
    (shifted : j % 8 ≠ 0 → walk.bit.toNat = keyByte.toNat >>> (j % 8)) :
    ∃ bit : UInt8, bit.toNat = keyByte.toNat >>> (j % 8 + 1) ∧
      perturbPixel pixelCount keyByte walk j =
        .ok
          { v := lfsrNext walk.v
            bit := bit
            pixels :=
              if keyByte.toNat.testBit (j % 8) then
                walk.pixels.modify (pixelOffset pixelCount walk.v) flipLow
              else walk.pixels } := by
  have current : (if j % 8 = 0 then keyByte else walk.bit).toNat =
      keyByte.toNat >>> (j % 8) := by
    by_cases first : j % 8 = 0
    · simp [first]
    · rw [if_neg first]
      exact shifted first
  refine ⟨(if j % 8 = 0 then keyByte else walk.bit) >>> 1, ?_, ?_⟩
  · rw [UInt8.toNat_shiftRight, current, Nat.shiftRight_add]
    rfl
  · have bounded := pixelOffset_lt pixelCount walk.v pixel
    have index := pixelIndex_toNat pixelCount walk.v pixel fits
    have within : pixelOffset pixelCount walk.v < walk.pixels.length := by omega
    unfold perturbPixel
    simp only [if_neg pixel, index, if_pos within, and_one_eq, current, Nat.testBit_shiftRight,
      Nat.add_zero]
    cases keyByte.toNat.testBit (j % 8) with
    | true => rfl
    | false =>
        have unchanged (offset : Nat) :
            walk.pixels.modify offset (fun pixel => pixel) = walk.pixels :=
          List.modify_id offset walk.pixels
        simp [unchanged]

/-! ### The steps for one byte of the key -/

/-- The offsets that the first `steps` steps toggle, when they start at `v`. -/
def flippedBy (pixelCount : UInt64) (keyByte : UInt8) (v : UInt64) (steps : Nat) : List Nat :=
  ((List.range steps).filter fun j => keyByte.toNat.testBit (j % 8)).map
    fun j => pixelOffset pixelCount (lfsrNext^[j] v)

theorem flippedBy_length_le (pixelCount : UInt64) (keyByte : UInt8) (v : UInt64) (steps : Nat) :
    (flippedBy pixelCount keyByte v steps).length ≤ steps := by
  unfold flippedBy
  rw [List.length_map]
  calc
    ((List.range steps).filter fun j => keyByte.toNat.testBit (j % 8)).length ≤
        (List.range steps).length := List.length_filter_le _ _
    _ = steps := List.length_range

theorem flippedBy_succ (pixelCount : UInt64) (keyByte : UInt8) (v : UInt64) (steps : Nat) :
    flippedBy pixelCount keyByte v (steps + 1) =
      flippedBy pixelCount keyByte v steps ++
        if keyByte.toNat.testBit (steps % 8) then [pixelOffset pixelCount (lfsrNext^[steps] v)]
        else [] := by
  unfold flippedBy
  rw [List.range_succ, List.filter_append, List.map_append]
  cases set : keyByte.toNat.testBit (steps % 8) with
  | true => simp [set]
  | false => simp [set]

theorem mem_flippedBy {pixelCount : UInt64} {keyByte : UInt8} {v : UInt64} {steps offset : Nat}
    (member : offset ∈ flippedBy pixelCount keyByte v steps) :
    ∃ word, offset = pixelOffset pixelCount word := by
  obtain ⟨j, _listed, same⟩ := List.mem_map.mp member
  exact ⟨lfsrNext^[j] v, same.symm⟩

/-- The shifted key byte is carried from step to step, and loaded again at every
eighth. -/
theorem perturbPixel_run (pixelCount : UInt64) (keyByte : UInt8) (walk : PixelWalk)
    (pixel : pixelCount ≠ 0) (fits : 4 * pixelCount.toNat < 2 ^ 64)
    (inside : 4 * pixelCount.toNat ≤ walk.pixels.length) (steps : Nat) :
    ∃ bit : UInt8, (steps % 8 ≠ 0 → bit.toNat = keyByte.toNat >>> (steps % 8)) ∧
      (List.range steps).foldlM (perturbPixel pixelCount keyByte) walk =
        .ok
          { v := lfsrNext^[steps] walk.v
            bit := bit
            pixels := scatter flipLow (flippedBy pixelCount keyByte walk.v steps) walk.pixels } := by
  induction steps with
  | zero => exact ⟨walk.bit, fun nonzero => absurd rfl nonzero, rfl⟩
  | succ steps ih =>
      obtain ⟨bit, shifted, run⟩ := ih
      obtain ⟨nextBit, nextShifted, step⟩ := perturbPixel_eq pixelCount keyByte
        { v := lfsrNext^[steps] walk.v
          bit := bit
          pixels := scatter flipLow (flippedBy pixelCount keyByte walk.v steps) walk.pixels }
        steps pixel fits (by rw [scatter_length]; exact inside) shifted
      refine ⟨nextBit, ?_, ?_⟩
      · intro nonzero
        have carried : (steps + 1) % 8 = steps % 8 + 1 := by omega
        rw [carried]
        exact nextShifted
      · rw [List.range_succ, List.foldlM_append, run]
        change (perturbPixel pixelCount keyByte _ steps >>= pure) = _
        rw [step, Function.iterate_succ_apply', flippedBy_succ, scatter_append]
        cases keyByte.toNat.testBit (steps % 8) with
        | true => rfl
        | false => rfl

/-! ### All the bytes of the key -/

def flips (pixelCount : UInt64) : List UInt8 → UInt64 → List Nat
  | [], _ => []
  | keyByte :: rest, v =>
      flippedBy pixelCount keyByte v 16 ++ flips pixelCount rest (lfsrNext^[16] v)

theorem flips_length_le (pixelCount : UInt64) (key : List UInt8) (v : UInt64) :
    (flips pixelCount key v).length ≤ 16 * key.length := by
  induction key generalizing v with
  | nil => exact Nat.le_refl 0
  | cons keyByte rest ih =>
      have first := flippedBy_length_le pixelCount keyByte v 16
      have others := ih (lfsrNext^[16] v)
      unfold flips
      rw [List.length_append, List.length_cons]
      omega

theorem mem_flips {pixelCount : UInt64} {key : List UInt8} {v : UInt64} {offset : Nat}
    (member : offset ∈ flips pixelCount key v) : ∃ word, offset = pixelOffset pixelCount word := by
  induction key generalizing v with
  | nil => cases member
  | cons keyByte rest ih =>
      rcases List.mem_append.mp member with atFirst | later
      · exact mem_flippedBy atFirst
      · exact ih later

theorem perturbByKeyByte_eq (pixelCount : UInt64) (keyByte : UInt8) (walk : PixelWalk)
    (pixel : pixelCount ≠ 0) (fits : 4 * pixelCount.toNat < 2 ^ 64)
    (inside : 4 * pixelCount.toNat ≤ walk.pixels.length) :
    ∃ bit, perturbByKeyByte pixelCount walk keyByte =
      .ok
        { v := lfsrNext^[16] walk.v
          bit := bit
          pixels := scatter flipLow (flippedBy pixelCount keyByte walk.v 16) walk.pixels } := by
  obtain ⟨bit, _shifted, run⟩ :=
    perturbPixel_run pixelCount keyByte { walk with bit := keyByte } pixel fits inside 16
  exact ⟨bit, run⟩

theorem perturbByKeyByte_run (pixelCount : UInt64) (key : List UInt8) (walk : PixelWalk)
    (pixel : pixelCount ≠ 0) (fits : 4 * pixelCount.toNat < 2 ^ 64)
    (inside : 4 * pixelCount.toNat ≤ walk.pixels.length) :
    ∃ final, key.foldlM (perturbByKeyByte pixelCount) walk = .ok final ∧
      final.pixels = scatter flipLow (flips pixelCount key walk.v) walk.pixels := by
  induction key generalizing walk with
  | nil => exact ⟨walk, rfl, rfl⟩
  | cons keyByte rest ih =>
      obtain ⟨bit, step⟩ := perturbByKeyByte_eq pixelCount keyByte walk pixel fits inside
      obtain ⟨final, run, pixels⟩ := ih
        { v := lfsrNext^[16] walk.v
          bit := bit
          pixels := scatter flipLow (flippedBy pixelCount keyByte walk.v 16) walk.pixels }
        (by rw [scatter_length]; exact inside)
      refine ⟨final, ?_, ?_⟩
      · rw [List.foldlM_cons, step]
        exact run
      · rw [pixels]
        exact (scatter_append _ _ _).symm

/-! ### The buffer after the call -/

/-- The key that decides which pixels are perturbed, and how. -/
def canvasKeyOf (platform : FarblingPlatform) (self : WhaleSessionCache)
    (pixels : List UInt8) : Digest :=
  platform.hmacSha256 (wordBytes (self.sessionKey ^^^ firstWord self.domainKey)) pixels

/-- The offsets whose lowest bits are toggled, once for each time they are listed. -/
def flippedOffsets (platform : FarblingPlatform) (self : WhaleSessionCache)
    (data : PixelBuffer) : List Nat :=
  let canvasKey := canvasKeyOf platform self data.bytes
  flips (data.size / 4) canvasKey.toList (firstWord canvasKey)

namespace PixelBuffer

theorem size_toNat (buffer : PixelBuffer) : buffer.size.toNat = buffer.bytes.length :=
  UInt64.toNat_ofNat_of_lt' buffer.sizeFits

theorem pixelCount_toNat (buffer : PixelBuffer) :
    (buffer.size / 4).toNat = buffer.bytes.length / 4 := by
  rw [UInt64.toNat_div, buffer.size_toNat]
  rfl

theorem size_eq_zero_iff (buffer : PixelBuffer) : buffer.size = 0 ↔ buffer.bytes = [] := by
  rw [← UInt64.toNat_inj, buffer.size_toNat]
  exact List.length_eq_zero_iff

theorem pixelCount_eq_zero_iff (buffer : PixelBuffer) :
    buffer.size / 4 = 0 ↔ buffer.bytes.length < 4 := by
  rw [← UInt64.toNat_inj, buffer.pixelCount_toNat]
  change buffer.bytes.length / 4 = 0 ↔ _
  omega

theorem pixelCount_ne_zero (buffer : PixelBuffer) (pixel : 4 ≤ buffer.bytes.length) :
    buffer.size / 4 ≠ 0 := by
  intro zero
  have short := buffer.pixelCount_eq_zero_iff.mp zero
  omega

end PixelBuffer

/-- The loops over the key of a buffer. -/
def walkCanvasKey (platform : FarblingPlatform) (self : WhaleSessionCache)
    (data : PixelBuffer) : Except Fault PixelWalk :=
  let canvasKey := canvasKeyOf platform self data.bytes
  canvasKey.toList.foldlM (perturbByKeyByte (data.size / 4))
    { v := firstWord canvasKey, bit := 0, pixels := data.bytes }

theorem perturbPixelsInternal_of_nonempty (platform : FarblingPlatform)
    (self : WhaleSessionCache) (data : PixelBuffer) (nonempty : data.bytes ≠ []) :
    (self.perturbPixelsInternal platform (some data)).result =
      (walkCanvasKey platform self data).map fun walk => some walk.pixels := by
  have sizePositive : data.size ≠ 0 := fun zero => nonempty (data.size_eq_zero_iff.mp zero)
  unfold WhaleSessionCache.perturbPixelsInternal
  simp only [if_neg sizePositive]
  rw [Traced.result_bind_of_ok (Traced.result_access _ _),
    Traced.result_bind_of_ok (Traced.result_access _ _)]
  cases walked : walkCanvasKey platform self data with
  | error reason => exact Traced.result_bind_of_error walked _
  | ok walk => exact Traced.result_bind_of_ok walked _

theorem walkCanvasKey_eq (platform : FarblingPlatform) (self : WhaleSessionCache)
    (data : PixelBuffer) (pixel : 4 ≤ data.bytes.length) :
    ∃ final, walkCanvasKey platform self data = .ok final ∧
      final.pixels = scatter flipLow (flippedOffsets platform self data) data.bytes := by
  have counted := data.pixelCount_toNat
  have fits := data.sizeFits
  apply perturbByKeyByte_run
  · exact data.pixelCount_ne_zero pixel
  · omega
  · change 4 * (data.size / 4).toNat ≤ data.bytes.length
    omega

theorem perturbPixelsInternal_result (platform : FarblingPlatform) (self : WhaleSessionCache)
    (data : PixelBuffer) (pixel : 4 ≤ data.bytes.length) :
    (self.perturbPixelsInternal platform (some data)).result =
      .ok (some (scatter flipLow (flippedOffsets platform self data) data.bytes)) := by
  obtain ⟨final, walked, pixels⟩ := walkCanvasKey_eq platform self data pixel
  rw [perturbPixelsInternal_of_nonempty platform self data (List.ne_nil_of_length_pos (by omega)),
    walked, ← pixels]
  rfl

theorem flippedOffsets_length_le (platform : FarblingPlatform) (self : WhaleSessionCache)
    (data : PixelBuffer) : (flippedOffsets platform self data).length ≤ 512 := by
  have counted := flips_length_le (data.size / 4) (canvasKeyOf platform self data.bytes).toList
    (firstWord (canvasKeyOf platform self data.bytes))
  rw [Vector.length_toList] at counted
  exact counted

/-- Alpha bytes and the bytes after the last whole pixel are never looked at. -/
theorem not_mem_flippedOffsets (platform : FarblingPlatform) (self : WhaleSessionCache)
    (data : PixelBuffer) (pixel : 4 ≤ data.bytes.length) {offset : Nat}
    (outside : offset % 4 = 3 ∨ 4 * (data.bytes.length / 4) ≤ offset) :
    offset ∉ flippedOffsets platform self data := by
  intro listed
  obtain ⟨word, same⟩ := mem_flips listed
  rcases outside with alpha | past
  · exact pixelOffset_mod_four (data.size / 4) word (same ▸ alpha)
  · have bounded := pixelOffset_lt (data.size / 4) word (data.pixelCount_ne_zero pixel)
    rw [← same, data.pixelCount_toNat] at bounded
    omega

theorem perturbPixelsInternal_frame (platform : FarblingPlatform) (self : WhaleSessionCache)
    (data : PixelBuffer) (pixel : 4 ≤ data.bytes.length) :
    ∃ after,
      (self.perturbPixelsInternal platform (some data)).result = .ok (some after) ∧
      after.length = data.bytes.length ∧
      (∀ offset : Nat,
        (after[offset]?).map upperBits = (data.bytes[offset]?).map upperBits) ∧
      (∀ offset : Nat, offset % 4 = 3 ∨ 4 * (data.bytes.length / 4) ≤ offset →
        after[offset]? = data.bytes[offset]?) ∧
      (changedPlaces data.bytes after).length ≤ 512 := by
  refine ⟨_, perturbPixelsInternal_result platform self data pixel, ?_, ?_, ?_, ?_⟩
  · exact scatter_length _ _
  · intro offset
    exact getElem?_map_scatter upperBits upperBits_flipLow _ _ offset
  · intro offset outside
    exact getElem?_scatter_of_not_mem
      (not_mem_flippedOffsets platform self data pixel outside) data.bytes
  · calc
      (changedPlaces data.bytes
          (scatter flipLow (flippedOffsets platform self data) data.bytes)).length ≤
          (flippedOffsets platform self data).length := changedPlaces_scatter_length_le _ _
      _ ≤ 512 := flippedOffsets_length_le platform self data

/-! ### Buffers without a whole pixel -/

theorem perturbPixelsInternal_empty (platform : FarblingPlatform) (self : WhaleSessionCache)
    (data : PixelBuffer) (empty : data.bytes = []) :
    (self.perturbPixelsInternal platform (some data)).result = .ok (some data.bytes) := by
  unfold WhaleSessionCache.perturbPixelsInternal
  simp only [if_pos (data.size_eq_zero_iff.mpr empty)]
  rfl

/-- The number of pixels is the divisor of the first step. -/
theorem walkCanvasKey_short (platform : FarblingPlatform) (self : WhaleSessionCache)
    (data : PixelBuffer) (short : data.bytes.length < 4) :
    walkCanvasKey platform self data = .error .divisionByZero := by
  unfold walkCanvasKey
  rw [data.pixelCount_eq_zero_iff.mpr short]
  cases key : (canvasKeyOf platform self data.bytes).toList with
  | nil =>
      have counted := congrArg List.length key
      rw [Vector.length_toList] at counted
      cases counted
  | cons first rest =>
      dsimp only
      rw [key, List.foldlM_cons]
      rfl

theorem perturbPixelsInternal_short (platform : FarblingPlatform) (self : WhaleSessionCache)
    (data : PixelBuffer) (nonempty : data.bytes ≠ []) (short : data.bytes.length < 4) :
    (self.perturbPixelsInternal platform (some data)).result = .error .divisionByZero := by
  rw [perturbPixelsInternal_of_nonempty platform self data nonempty,
    walkCanvasKey_short platform self data short]
  rfl

/-- The remainders and the indices of the loops are defined exactly for a buffer that
is empty or has a whole pixel. -/
theorem perturbPixelsInternal_defined_iff (platform : FarblingPlatform)
    (self : WhaleSessionCache) (data : PixelBuffer) :
    ((self.perturbPixelsInternal platform (some data)).result ≠ .error .divisionByZero ∧
      (self.perturbPixelsInternal platform (some data)).result ≠ .error .outOfBounds) ↔
      data.bytes.length = 0 ∨ 4 ≤ data.bytes.length := by
  by_cases empty : data.bytes = []
  · rw [perturbPixelsInternal_empty platform self data empty, empty]
    simp
  · by_cases pixel : 4 ≤ data.bytes.length
    · rw [perturbPixelsInternal_result platform self data pixel]
      simp [pixel]
    · rw [perturbPixelsInternal_short platform self data empty (by omega)]
      simp [empty, pixel]

def singleByte : PixelBuffer :=
  { bytes := [0], sizeFits := by decide }

/-! ### A concrete platform -/

namespace ReferenceFarbling

/-- `example.com` in UTF-8. -/
def exampleDomain : List UInt8 :=
  [101, 120, 97, 109, 112, 108, 101, 46, 99, 111, 109]

def exampleDomainKey : Digest :=
  #v[27, 51, 181, 177, 161, 38, 11, 138, 42, 145, 167, 79, 214, 62, 143, 207,
    167, 104, 228, 226, 214, 24, 249, 238, 18, 31, 203, 166, 90, 31, 117, 101]

def whitePixel : PixelBuffer :=
  { bytes := [255, 255, 255, 255], sizeFits := by decide }

def whitePixelKey : Digest :=
  #v[231, 203, 147, 225, 254, 192, 245, 143, 27, 145, 47, 38, 32, 74, 20, 250,
    61, 219, 36, 221, 18, 1, 90, 82, 17, 64, 237, 9, 156, 99, 99, 170]

/-- Two pixels and half of a third. -/
def tornRow : PixelBuffer :=
  { bytes := [255, 255, 255, 255, 18, 52, 86, 120, 154, 188], sizeFits := by decide }

def tornRowKey : Digest :=
  #v[139, 255, 177, 53, 194, 252, 78, 154, 210, 83, 85, 63, 148, 20, 79, 24,
    42, 71, 212, 33, 41, 97, 228, 64, 203, 68, 59, 11, 145, 11, 77, 0]

/-- HMAC-SHA256 at the messages above, under the keys that sign them.  The table is blank
elsewhere. -/
def hmacSha256 (key message : List UInt8) : Digest :=
  if key = wordBytes 12345 ∧ message = exampleDomain then exampleDomainKey
  else if key = wordBytes (12345 ^^^ firstWord exampleDomainKey) ∧ message = whitePixel.bytes then
    whitePixelKey
  else if key = wordBytes (12345 ^^^ firstWord exampleDomainKey) ∧ message = tornRow.bytes then
    tornRowKey
  else Vector.replicate 32 0

def platform : FarblingPlatform :=
  { hmacSha256 := hmacSha256
    getDomainAndRegistry := fun host => if host = "example.com".toList then exampleDomain else []
    randenEngine := fun _seed _draw => 0
    isDisplayIsolated := fun protocol => decide (protocol = "chrome".toList) }

def exampleKeys : KeyMemory :=
  { sessionKey := 12345, domainKey := exampleDomainKey }

end ReferenceFarbling

open ReferenceFarbling in
theorem perturbPixelsInternal_frame_tornRow :
    4 ≤ tornRow.bytes.length ∧
    ∃ after,
      ((WhaleSessionCache.unset exampleKeys).perturbPixelsInternal platform
        (some tornRow)).result = .ok (some after) ∧
      after.length = tornRow.bytes.length ∧
      (∀ offset : Nat,
        (after[offset]?).map upperBits = (tornRow.bytes[offset]?).map upperBits) ∧
      (∀ offset : Nat, offset % 4 = 3 ∨ 4 * (tornRow.bytes.length / 4) ≤ offset →
        after[offset]? = tornRow.bytes[offset]?) ∧
      (changedPlaces tornRow.bytes after).length ≤ 512 :=
  ⟨by decide, perturbPixelsInternal_frame platform _ tornRow (by decide)⟩

open ReferenceFarbling in
example : ((WhaleSessionCache.unset exampleKeys).perturbPixelsInternal platform
    (some tornRow)).result = .ok (some [254, 254, 255, 255, 19, 53, 86, 120, 154, 188]) := by
  decide +kernel

open ReferenceFarbling in
theorem perturbPixelsInternal_singleByte :
    ((WhaleSessionCache.unset exampleKeys).perturbPixelsInternal platform
      (some singleByte)).result = .error .divisionByZero := by
  decide +kernel

end Whale.Farbling
