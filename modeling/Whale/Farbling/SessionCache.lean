/-
`WhaleSessionCache`.

The keys are plain members that the constructor sets on one of its paths only;
before that they hold whatever the memory held.  Each operation logs the key
members that it reads.  SHA-256 HMAC, the random engine and the lookup of
registrable domains are parameters.
-/
import Mathlib.Algebra.Group.Nat.Defs
import Whale.Farbling.AudioFarblingHelper
import Whale.Farbling.ExecutionContext
import Whale.Foundation.Traced

set_option autoImplicit false

namespace Whale.Farbling

open Whale.Foundation
open Whale.Url (Text)

abbrev Digest := Vector UInt8 32

/-- The values that a freshly seeded engine draws, in order. -/
abbrev FarblingPRNG := Nat → UInt64

structure FarblingPlatform where
  /-- The key and the signed bytes. -/
  hmacSha256 : List UInt8 → List UInt8 → Digest
  /-- `GetDomainAndRegistry` with private registries, in UTF-8. -/
  getDomainAndRegistry : Text → List UInt8
  randenEngine : UInt64 → FarblingPRNG
  isDisplayIsolated : Text → Bool

inductive KeyMember where
  | sessionKey
  | domainKey
  deriving DecidableEq, Repr

abbrev Op := Traced KeyMember Fault

/-- What the memory of a new object holds where the keys are. -/
structure KeyMemory where
  sessionKey : UInt64
  domainKey : Digest
  deriving DecidableEq

inductive FarbleKey where
  | kNone
  | kWindowInnerWidth
  | kWindowInnerHeight
  | kWindowScreenX
  | kWindowScreenY
  | kPointerScreenX
  | kPointerScreenY
  | kKeyCount
  deriving DecidableEq, Repr

def FarbleKey.toUInt64 : FarbleKey → UInt64
  | kNone => 0
  | kWindowInnerWidth => 1
  | kWindowInnerHeight => 2
  | kWindowScreenX => 3
  | kWindowScreenY => 4
  | kPointerScreenX => 5
  | kPointerScreenY => 6
  | kKeyCount => 7

structure WhaleSessionCache where
  farblingEnabled : Bool
  sessionKey : UInt64
  domainKey : Digest
  farbledIntegers : List (FarbleKey × Int)
  farblingLevel : WhaleFarblingLevel
  audioFarblingHelper : Option WhaleAudioFarblingHelper
  deriving DecidableEq

/-! ### Words and bytes -/

/-- The bytes of a word in memory, the least significant first. -/
def wordBytes (word : UInt64) : List UInt8 :=
  (List.range 8).map fun index => (word >>> (8 * index).toUInt64).toUInt8

/-- The word at the start of a digest. -/
def firstWord (digest : Digest) : UInt64 :=
  (digest.toList.take 8).foldr (fun byte word => (word <<< 8) ||| byte.toUInt64) 0

def checkedInt (value : Int) : Except Fault Int :=
  if -2147483648 ≤ value ∧ value ≤ 2147483647 then .ok value else .error .signedOverflow

/-! ### The constructor -/

namespace WhaleSessionCache

/-- The object after the first lines of the constructor, which every path keeps. -/
def unset (memory : KeyMemory) : WhaleSessionCache :=
  { farblingEnabled := false
    sessionKey := memory.sessionKey
    domainKey := memory.domainKey
    farbledIntegers := []
    farblingLevel := .off
    audioFarblingHelper := none }

/-- The lines after the early returns. -/
def deriveKeys (platform : FarblingPlatform) (context : ExecutionContext)
    (domain : List UInt8) (self : WhaleSessionCache) : Op WhaleSessionCache := do
  let keyed := { self with sessionKey := 12345 }
  let signingKey ← Traced.access .sessionKey keyed.sessionKey
  let signed :=
    { keyed with domainKey := platform.hmacSha256 (wordBytes signingKey) domain }
  let fudge ← Traced.access .domainKey (firstWord signed.domainKey)
  let fudgeFactor := 99 / 100 + ((fudge.toNat / maxUInt64AsDouble) / 100)
  let seed ← Traced.access .domainKey (firstWord signed.domainKey)
  let settings ← Traced.ofExcept
    (getContentSettingsClientFor platform.isDisplayIsolated context)
  let farblingLevel :=
    match settings with
    | some client => client.whaleFarblingLevel
    | none => signed.farblingLevel
  pure
    { signed with
      farblingLevel := farblingLevel
      audioFarblingHelper :=
        if farblingLevel ≠ .off then
          some
            { fudgeFactor := fudgeFactor
              seed := seed
              max := decide (farblingLevel = .maximum) }
        else signed.audioFarblingHelper }

def new (platform : FarblingPlatform) (memory : KeyMemory) (context : ExecutionContext) :
    Op WhaleSessionCache :=
  match keyOrigin context with
  | none => pure (unset memory)
  | some origin =>
      if origin.isOpaque then pure (unset memory)
      else
        match origin.host with
        | none => pure (unset memory)
        | some host =>
            if host.isEmpty then pure (unset memory)
            else
              let domain := platform.getDomainAndRegistry host
              if domain.isEmpty then pure (unset memory)
              else deriveKeys platform context domain (unset memory)

/-! ### Generators, strings and integers -/

def makePseudoRandomGenerator (platform : FarblingPlatform) (self : WhaleSessionCache)
    (key : FarbleKey) : Op FarblingPRNG := do
  let domainWord ← Traced.access .domainKey (firstWord self.domainKey)
  pure (platform.randenEngine (domainWord ^^^ key.toUInt64))

def kFarbledUserAgentMaxExtraSpaces : UInt64 := 5

def kLettersForRandomStrings : Text :=
  "ABCDEFGHIJKLMNOPQRSTUVWXYZabcdefghijklmnopqrstuvwxyz0123456789. ".toList

def kLettersForRandomStringsLength : UInt64 := 64

theorem letterIndex_lt (v : UInt64) :
    (v % kLettersForRandomStringsLength).toNat < kLettersForRandomStrings.length := by
  have count : kLettersForRandomStrings.length = 64 := rfl
  rw [count, UInt64.toNat_mod]
  exact Nat.mod_lt v.toNat (Nat.two_pow_pos 6)

/-- The array ends with a NUL. -/
def randomLetters : UInt64 → Nat → Text
  | _, 0 => []
  | v, length + 1 =>
      kLettersForRandomStrings.getD (v % kLettersForRandomStringsLength).toNat
          (Char.ofNat 0) ::
        randomLetters (lfsrNext v) length

def generateRandomString (platform : FarblingPlatform) (self : WhaleSessionCache)
    (seed : List UInt8) (length : Nat) : Op Text := do
  let domainKey ← Traced.access .domainKey self.domainKey
  let key := platform.hmacSha256 domainKey.toList seed
  pure (randomLetters (firstWord key) length)

def farbledUserAgent (platform : FarblingPlatform) (self : WhaleSessionCache)
    (realUserAgent : Text) : Op Text := do
  let prng ← self.makePseudoRandomGenerator platform .kNone
  let extra := (prng 0 % kFarbledUserAgentMaxExtraSpaces).toNat
  pure (realUserAgent ++ List.replicate extra ' ')

/-- The cached value of a new key: the draw is unsigned, and so is the arithmetic
that it takes part in. -/
def newFarbledInteger (draw : UInt64) (minRandomOffset maxRandomOffset : Int) :
    Except Fault Int := do
  let upper ← checkedInt (1 + maxRandomOffset)
  let span ← checkedInt (upper - minRandomOffset)
  if UInt64.ofInt span = 0 then .error .divisionByZero
  else
    let offset := draw % UInt64.ofInt span + UInt64.ofInt minRandomOffset
    if offset.toNat ≤ 2147483647 then .ok offset.toNat else .error .checkFailed

/-- The table is a `WTF::HashMap`, which reserves the key zero: callers do not pass
`kNone`. -/
def farbledInteger (platform : FarblingPlatform) (self : WhaleSessionCache)
    (key : FarbleKey) (spoofValue minRandomOffset maxRandomOffset : Int) :
    Op (Int × WhaleSessionCache) :=
  match self.farbledIntegers.lookup key with
  | none => do
      let prng ← self.makePseudoRandomGenerator platform key
      let added ← Traced.ofExcept
        (newFarbledInteger (prng 0) minRandomOffset maxRandomOffset)
      let result ← Traced.ofExcept (checkedInt (added + spoofValue))
      pure (result, { self with farbledIntegers := (key, added) :: self.farbledIntegers })
  | some value => do
      let result ← Traced.ofExcept (checkedInt (value + spoofValue))
      pure (result, self)

/-! ### Audio and pixels -/

/-- The channel after the call. -/
def farbleAudioChannel (self : WhaleSessionCache) (dst : List Rat) : List Rat :=
  match self.audioFarblingHelper with
  | some helper => helper.farbleAudioChannel dst
  | none => dst

end WhaleSessionCache

/-- A pointer that is not null and the bytes behind it, whose number is a `size_t`. -/
structure PixelBuffer where
  bytes : List UInt8
  sizeFits : bytes.length < 2 ^ 64
  deriving DecidableEq

namespace PixelBuffer

def size (buffer : PixelBuffer) : UInt64 :=
  UInt64.ofNat buffer.bytes.length

end PixelBuffer

/-- The variables of the loops over the canvas key. -/
structure PixelWalk where
  v : UInt64
  bit : UInt8
  pixels : List UInt8
  deriving DecidableEq

/-- The body of the inner loop. -/
def perturbPixel (pixelCount : UInt64) (keyByte : UInt8) (walk : PixelWalk) (j : Nat) :
    Except Fault PixelWalk :=
  let bit := if j % 8 = 0 then keyByte else walk.bit
  let channel := walk.v % 3
  if pixelCount = 0 then .error .divisionByZero
  else
    let pixelIndex := 4 * (walk.v % pixelCount) + channel
    if pixelIndex.toNat < walk.pixels.length then
      .ok
        { v := lfsrNext walk.v
          bit := bit >>> 1
          pixels := walk.pixels.modify pixelIndex.toNat fun pixel => pixel ^^^ (bit &&& 1) }
    else .error .outOfBounds

/-- The body of the outer loop. -/
def perturbByKeyByte (pixelCount : UInt64) (walk : PixelWalk) (keyByte : UInt8) :
    Except Fault PixelWalk :=
  (List.range 16).foldlM (perturbPixel pixelCount keyByte) { walk with bit := keyByte }

namespace WhaleSessionCache

/-- The bytes behind the pointer after the call. -/
def perturbPixelsInternal (platform : FarblingPlatform) (self : WhaleSessionCache) :
    Option PixelBuffer → Op (Option (List UInt8))
  | none => pure none
  | some data =>
      if data.size = 0 then pure (some data.bytes)
      else do
        let pixelCount := data.size / 4
        let sessionKey ← Traced.access .sessionKey self.sessionKey
        let domainWord ← Traced.access .domainKey (firstWord self.domainKey)
        let canvasKey := platform.hmacSha256 (wordBytes (sessionKey ^^^ domainWord)) data.bytes
        let walk ← Traced.ofExcept
          (canvasKey.toList.foldlM (perturbByKeyByte pixelCount)
            { v := firstWord canvasKey, bit := 0, pixels := data.bytes })
        pure (some walk.pixels)

def perturbPixels (platform : FarblingPlatform) (self : WhaleSessionCache)
    (data : Option PixelBuffer) : Op (Option (List UInt8)) :=
  if !self.farblingEnabled || self.farblingLevel == .off then
    pure (data.map PixelBuffer.bytes)
  else self.perturbPixelsInternal platform data

end WhaleSessionCache

end Whale.Farbling
