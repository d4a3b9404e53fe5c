/-
The functions that `whale_session_cache.cc` exports for other parts of the renderer.

Each reaches the session cache through the execution context, which makes the cache
when it is first asked for.  The pointer to a cache that may not have been made yet
is passed along and returned.
-/
import Whale.Farbling.CacheCalls
import Whale.Foundation.Truncation

set_option autoImplicit false

namespace Whale.Farbling

open Whale.Foundation

/-- What the renderer process supplies besides the libraries.  `keyMemory` is what the
memory of the cache holds where the keys are. -/
structure Renderer extends FarblingPlatform where
  numberOfProcessors : UInt32
  approximatedDeviceMemory : Rat
  keyMemory : KeyMemory

/-- `Supplement::From`, and the construction when there is none yet. -/
def sessionCacheFrom (renderer : Renderer) (context : ExecutionContext) :
    Option WhaleSessionCache → Op WhaleSessionCache
  | some cache => pure cache
  | none => WhaleSessionCache.new renderer.toFarblingPlatform renderer.keyMemory context

def getWhaleFarblingLevelFor (renderer : Renderer) (context : Option ExecutionContext)
    (defaultValue : WhaleFarblingLevel) (supplement : Option WhaleSessionCache) :
    Op (WhaleFarblingLevel × Option WhaleSessionCache) :=
  match context with
  | none => pure (defaultValue, supplement)
  | some context => do
      let cache ← sessionCacheFrom renderer context supplement
      pure (cache.farblingLevel, some cache)

def allowFingerprinting (renderer : Renderer) (context : Option ExecutionContext)
    (supplement : Option WhaleSessionCache) : Op (Bool × Option WhaleSessionCache) := do
  let (level, supplement) ← getWhaleFarblingLevelFor renderer context .off supplement
  pure (decide (level ≠ .maximum), supplement)

/-! ### Processors -/

def kFakeMinProcessors : UInt32 := 2

def kFakeMaxProcessors : UInt32 := 8

/-- The case for `BALANCED`, into which `MAXIMUM` falls through. -/
def farbledProcessors (renderer : Renderer) (context : ExecutionContext) (trueValue : UInt32)
    (supplement : Option WhaleSessionCache) : Op (UInt32 × Option WhaleSessionCache) := do
  let cache ← sessionCacheFrom renderer context supplement
  let prng ← cache.makePseudoRandomGenerator renderer.toFarblingPlatform .kNone
  let choices := (trueValue + 1 - kFakeMinProcessors).toUInt64
  pure ((kFakeMinProcessors.toUInt64 + prng 0 % choices).toUInt32, some cache)

/-- The value behind the pointer after the call. -/
def applyWhaleHardwareConcurrencyOverride (renderer : Renderer)
    (context : Option ExecutionContext) (hardwareConcurrency : UInt32)
    (supplement : Option WhaleSessionCache) : Op (UInt32 × Option WhaleSessionCache) :=
  match context with
  | none => pure (hardwareConcurrency, supplement)
  | some context => do
      let (allowed, supplement) ← allowFingerprinting renderer (some context) supplement
      if allowed then pure (hardwareConcurrency, supplement)
      else
        let trueValue := renderer.numberOfProcessors
        if trueValue ≤ 2 then pure (trueValue, supplement)
        else do
          let (level, supplement) ←
            getWhaleFarblingLevelFor renderer (some context) .off supplement
          match level with
          | .off => pure (trueValue, supplement)
          | .maximum => farbledProcessors renderer context kFakeMaxProcessors supplement
          | .balanced => farbledProcessors renderer context trueValue supplement

/-! ### Device memory -/

def validValues : List Rat := [1 / 4, 1 / 2, 1, 2, 4, 8]

/-- The index of the true value, or the last index if it is not a valid value. -/
def trueIndex (trueValue : Rat) : UInt64 :=
  UInt64.ofNat ((validValues.findIdx? fun value => decide (value = trueValue)).getD
    (validValues.length - 1))

def farbleDeviceMemory (renderer : Renderer) (context : Option ExecutionContext)
    (supplement : Option WhaleSessionCache) : Op (Rat × Option WhaleSessionCache) := do
  let trueValue := renderer.approximatedDeviceMemory
  let (farblingLevel, supplement) ← getWhaleFarblingLevelFor renderer context .off supplement
  if farblingLevel = .off then pure (trueValue, supplement)
  else
    let minFarbledIndex : UInt64 := 1
    let maxFarbledIndex := trueIndex trueValue
    if maxFarbledIndex ≤ minFarbledIndex then
      pure (validValues.getD minFarbledIndex.toNat 0, supplement)
    else
      match context with
      | none => Traced.ofExcept (.error .nullDereference)
      | some context => do
          let cache ← sessionCacheFrom renderer context supplement
          let prng ← cache.makePseudoRandomGenerator renderer.toFarblingPlatform .kNone
          let index :=
            minFarbledIndex + prng 0 % (maxFarbledIndex + 1 - minFarbledIndex)
          pure (validValues.getD index.toNat 0, some cache)

/-! ### Integers and pointer coordinates -/

def farbleInteger (renderer : Renderer) (context : Option ExecutionContext) (key : FarbleKey)
    (spoofValue minValue maxValue : Int) (supplement : Option WhaleSessionCache) :
    Op (Int × Option WhaleSessionCache) :=
  match context with
  | none => Traced.ofExcept (.error .nullDereference)
  | some context => do
      let cache ← sessionCacheFrom renderer context supplement
      let (result, cache) ←
        cache.farbledInteger renderer.toFarblingPlatform key spoofValue minValue maxValue
      pure (result, some cache)

def blockScreenFingerprinting (renderer : Renderer) (context : Option ExecutionContext)
    (supplement : Option WhaleSessionCache) : Op (Bool × Option WhaleSessionCache) := do
  let (level, supplement) ← getWhaleFarblingLevelFor renderer context .off supplement
  pure (decide (level ≠ .off), supplement)

/-- The zoom factor is that of the frame of a local window, if it has one. -/
inductive DOMWindow where
  | localDOMWindow (pageZoomFactor : Option Rat)
  | remoteDOMWindow
  deriving DecidableEq, Repr

/-- `context` is the execution context of a local window.  The product is narrowed to
an `int`, which is undefined for a product that does not fit once it is truncated. -/
def farbledPointerScreenCoordinate (renderer : Renderer) (context : Option ExecutionContext)
    (view : Option DOMWindow) (key : FarbleKey) (clientCoordinate trueScreenCoordinate : Int)
    (supplement : Option WhaleSessionCache) : Op (Int × Option WhaleSessionCache) :=
  match view with
  | none => pure (trueScreenCoordinate, supplement)
  | some .remoteDOMWindow => pure (trueScreenCoordinate, supplement)
  | some (.localDOMWindow pageZoomFactor) => do
      let (blocked, supplement) ← blockScreenFingerprinting renderer context supplement
      if blocked then
        match pageZoomFactor with
        | none => Traced.ofExcept (.error .nullDereference)
        | some zoomFactor => do
            let spoofValue ← Traced.ofExcept (checkedInt (truncate (zoomFactor * clientCoordinate)))
            farbleInteger renderer context key spoofValue 0 8 supplement
      else pure (trueScreenCoordinate, supplement)

end Whale.Farbling
