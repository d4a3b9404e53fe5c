/-
The screen coordinate that a pointer event reports.

A frame that is protected reports the zoomed client coordinate and an offset in 0..8.
The product is narrowed to an `int` first, and the offset is added to the narrowed
value without a check, on the first call of a key as on later ones.
-/
import Whale.Farbling.FarbledIntegers
import Whale.Farbling.Wrappers

set_option autoImplicit false

namespace Whale.Farbling

open Whale.Foundation
open WhaleSessionCache

/-- The offset that the cache holds for `key`, or else the one that the first call
draws. -/
def pointerOffset (platform : FarblingPlatform) (cache : WhaleSessionCache) (key : FarbleKey) :
    Int :=
  match cache.farbledIntegers.lookup key with
  | some offset => offset
  | none => (platform.randenEngine (firstWord cache.domainKey ^^^ key.toUInt64) 0).toNat % 9

theorem pointerOffset_of_some {platform : FarblingPlatform} {cache : WhaleSessionCache}
    {key : FarbleKey} {offset : Int} (found : cache.farbledIntegers.lookup key = some offset) :
    pointerOffset platform cache key = offset := by
  unfold pointerOffset
  rw [found]

theorem pointerOffset_of_none {platform : FarblingPlatform} {cache : WhaleSessionCache}
    {key : FarbleKey} (missing : cache.farbledIntegers.lookup key = none) :
    pointerOffset platform cache key =
      (platform.randenEngine (firstWord cache.domainKey ^^^ key.toUInt64) 0).toNat % 9 := by
  unfold pointerOffset
  rw [missing]

theorem pointerOffset_nonneg (platform : FarblingPlatform) {cache : WhaleSessionCache}
    {key : FarbleKey}
    (cached : ∀ offset, cache.farbledIntegers.lookup key = some offset → 0 ≤ offset ∧ offset ≤ 8) :
    0 ≤ pointerOffset platform cache key := by
  cases found : cache.farbledIntegers.lookup key with
  | some offset =>
      rw [pointerOffset_of_some found]
      exact (cached offset found).1
  | none =>
      rw [pointerOffset_of_none found]
      omega

def coordinateCall (key : FarbleKey) (spoofValue : Int) : IntegerCall :=
  { key := key
    spoofValue := spoofValue
    minRandomOffset := 0
    maxRandomOffset := 8 }

theorem drawnOffset_coordinateCall (platform : FarblingPlatform) (domainKey : Digest)
    (key : FarbleKey) (spoofValue : Int) :
    drawnOffset platform domainKey (coordinateCall key spoofValue) =
      .ok ((platform.randenEngine (firstWord domainKey ^^^ key.toUInt64) 0).toNat % 9) := by
  let draw := platform.randenEngine (firstWord domainKey ^^^ key.toUInt64) 0
  have drawn := newFarbledInteger_of_nonneg draw (Int.le_refl 0) (show (0 : Int) ≤ 8 by omega)
    (by omega)
  rw [Int.add_zero] at drawn
  exact drawn

theorem remember_coordinateCall (platform : FarblingPlatform) (cache : WhaleSessionCache)
    (key : FarbleKey) (spoofValue : Int) :
    ∃ table,
      (integerMemo platform cache.domainKey).remember cache.farbledIntegers
          (coordinateCall key spoofValue) =
        .ok (pointerOffset platform cache key, table) := by
  let memo := integerMemo platform cache.domainKey
  let call := coordinateCall key spoofValue
  cases found : cache.farbledIntegers.lookup key with
  | some offset =>
      have hit : cache.farbledIntegers.lookup (memo.key call) = some offset := found
      rw [pointerOffset_of_some found]
      exact ⟨_, Memo.remember_of_some memo hit⟩
  | none =>
      have missing : cache.farbledIntegers.lookup (memo.key call) = none := found
      have drawn : memo.draw call = _ :=
        drawnOffset_coordinateCall platform cache.domainKey key spoofValue
      have recalled := Memo.remember_of_none memo missing
      rw [drawn] at recalled
      rw [pointerOffset_of_none found]
      exact ⟨_, recalled⟩

theorem farbledInteger_coordinate (platform : FarblingPlatform) (cache : WhaleSessionCache)
    (key : FarbleKey) (spoofValue : Int) :
    (cache.farbledInteger platform key spoofValue 0 8).result.map Prod.fst =
      checkedInt (pointerOffset platform cache key + spoofValue) := by
  obtain ⟨table, recalled⟩ := remember_coordinateCall platform cache key spoofValue
  have performed := farbledInteger_result platform cache (coordinateCall key spoofValue)
  rw [recalled] at performed
  refine (congrArg (Except.map Prod.fst) performed).trans ?_
  change Except.map Prod.fst (checkedInt (pointerOffset platform cache key + spoofValue) >>= _) = _
  cases checkedInt (pointerOffset platform cache key + spoofValue) with
  | error reason => rfl
  | ok result => rfl

theorem blockScreenFingerprinting_result {renderer : Renderer} {context : ExecutionContext}
    {supplement : Option WhaleSessionCache} {cache : WhaleSessionCache}
    (made : (sessionCacheFrom renderer context supplement).result = .ok cache) :
    (blockScreenFingerprinting renderer (some context) supplement).result =
      .ok (decide (cache.farblingLevel ≠ .off), some cache) := by
  unfold blockScreenFingerprinting getWhaleFarblingLevelFor
  dsimp only
  rw [Traced.result_bind, Traced.result_bind, made]
  rfl

/-- What a protected frame reports. -/
theorem farbledPointerScreenCoordinate_result {renderer : Renderer} {context : ExecutionContext}
    {supplement : Option WhaleSessionCache} {cache : WhaleSessionCache}
    (made : (sessionCacheFrom renderer context supplement).result = .ok cache)
    (protecting : cache.farblingLevel ≠ .off) (zoomFactor : Rat) (key : FarbleKey)
    (clientCoordinate trueScreenCoordinate : Int) :
    (farbledPointerScreenCoordinate renderer (some context)
        (some (.localDOMWindow (some zoomFactor))) key clientCoordinate trueScreenCoordinate
        supplement).result.map Prod.fst =
      checkedInt (truncate (zoomFactor * clientCoordinate)) >>= fun product =>
        checkedInt (pointerOffset renderer.toFarblingPlatform cache key + product) := by
  unfold farbledPointerScreenCoordinate
  dsimp only
  rw [Traced.result_bind_of_ok (blockScreenFingerprinting_result made)]
  dsimp only
  rw [if_pos (decide_eq_true protecting), Traced.result_bind]
  change Except.map Prod.fst (checkedInt (truncate (zoomFactor * clientCoordinate)) >>= _) = _
  cases checkedInt (truncate (zoomFactor * clientCoordinate)) with
  | error reason => rfl
  | ok product =>
      have added := farbledInteger_coordinate renderer.toFarblingPlatform cache key product
      change Except.map Prod.fst
        (cache.farbledInteger renderer.toFarblingPlatform key product 0 8 >>= _).result =
          checkedInt (pointerOffset renderer.toFarblingPlatform cache key + product)
      rw [← added, Traced.result_bind]
      cases (cache.farbledInteger renderer.toFarblingPlatform key product 0 8).result with
      | error reason => rfl
      | ok pair => rfl

/-- The sum stays in `int` exactly as far as the product leaves room for the offset. -/
theorem farbledPointerScreenCoordinate_fits_iff (renderer : Renderer)
    (context : ExecutionContext) (supplement : Option WhaleSessionCache)
    (cache : WhaleSessionCache) (zoomFactor : Rat) (key : FarbleKey)
    (clientCoordinate trueScreenCoordinate : Int)
    (made : (sessionCacheFrom renderer context supplement).result = .ok cache)
    (protecting : cache.farblingLevel ≠ .off)
    (lower : -2147483648 ≤ truncate (zoomFactor * clientCoordinate))
    (upper : truncate (zoomFactor * clientCoordinate) ≤ 2147483647)
    (cached : ∀ offset, cache.farbledIntegers.lookup key = some offset →
      0 ≤ offset ∧ offset ≤ 8) :
    (farbledPointerScreenCoordinate renderer (some context)
        (some (.localDOMWindow (some zoomFactor))) key clientCoordinate trueScreenCoordinate
        supplement).result.map Prod.fst =
      .ok (truncate (zoomFactor * clientCoordinate) +
        pointerOffset renderer.toFarblingPlatform cache key) ↔
    truncate (zoomFactor * clientCoordinate) ≤
      2147483647 - pointerOffset renderer.toFarblingPlatform cache key := by
  have nonneg := pointerOffset_nonneg renderer.toFarblingPlatform cached
  rw [farbledPointerScreenCoordinate_result made protecting, checkedInt_of_fits lower upper]
  change checkedInt (pointerOffset renderer.toFarblingPlatform cache key +
    truncate (zoomFactor * clientCoordinate)) = _ ↔ _
  rw [Int.add_comm]
  constructor
  · intro added
    have sumFits := (checkedInt_eq_ok_iff.mp added).2.2
    omega
  · intro room
    exact checkedInt_of_fits (by omega) (by omega)

namespace ReferenceFarbling

/-- The engine draws the greatest offset. -/
def pointerRenderer : Renderer :=
  { platform with
    randenEngine := fun _seed _draw => 8
    numberOfProcessors := 4
    approximatedDeviceMemory := 8
    keyMemory := freshMemory }

end ReferenceFarbling

open ReferenceFarbling in
theorem farbledPointerScreenCoordinate_fits_iff_zoomed :
    (farbledPointerScreenCoordinate pointerRenderer (some balancedContext)
        (some (.localDOMWindow (some (3 / 2)))) .kPointerScreenX 101 0 none).result.map Prod.fst =
      .ok (truncate (3 / 2 * (101 : Int)) +
        pointerOffset pointerRenderer.toFarblingPlatform balancedCache .kPointerScreenX) ↔
    truncate (3 / 2 * (101 : Int)) ≤
      2147483647 -
        pointerOffset pointerRenderer.toFarblingPlatform balancedCache .kPointerScreenX :=
  farbledPointerScreenCoordinate_fits_iff pointerRenderer balancedContext none balancedCache
    (3 / 2) .kPointerScreenX 101 0 (by decide +kernel) (by decide) (by decide +kernel)
    (by decide +kernel) (fun _offset found => by cases found)

open ReferenceFarbling in
/-- At the greatest coordinate the first call overflows, and so does a later one. -/
theorem farbledPointerScreenCoordinate_overflows :
    (farbledPointerScreenCoordinate pointerRenderer (some balancedContext)
        (some (.localDOMWindow (some 1))) .kPointerScreenX 2147483647 0 none).result.map
        Prod.fst = .error .signedOverflow ∧
      (farbledPointerScreenCoordinate pointerRenderer (some balancedContext)
        (some (.localDOMWindow (some 1))) .kPointerScreenX 2147483647 0
        (some { balancedCache with farbledIntegers := [(.kPointerScreenX, 8)] })).result.map
        Prod.fst = .error .signedOverflow := by
  decide +kernel

end Whale.Farbling
