/-
Which surfaces the session cache protects.

The audio gate is the helper, the canvas gate is a flag together with the level.
The flag is cleared by the constructor and set nowhere, so the canvas gate is closed
at every level.
-/
import Whale.Farbling.CacheCalls
import Whale.Farbling.PerturbPixels

set_option autoImplicit false

namespace Whale.Farbling

open Whale.Foundation
open WhaleSessionCache

/-! ### The canvas gate -/

/-- The loops never run, or they toggle every byte back that they toggle. -/
def TogglesCancel (platform : FarblingPlatform) (self : WhaleSessionCache)
    (data : PixelBuffer) : Prop :=
  data.bytes = [] ∨
    4 ≤ data.bytes.length ∧
      ∀ offset < data.bytes.length, Even ((flippedOffsets platform self data).count offset)

theorem perturbPixelsInternal_untouched_iff (platform : FarblingPlatform)
    (self : WhaleSessionCache) (data : PixelBuffer) :
    (self.perturbPixelsInternal platform (some data)).result = .ok (some data.bytes) ↔
      TogglesCancel platform self data := by
  unfold TogglesCancel
  by_cases empty : data.bytes = []
  · simp only [perturbPixelsInternal_empty platform self data empty, empty, true_or]
  · by_cases pixel : 4 ≤ data.bytes.length
    · rw [perturbPixelsInternal_result platform self data pixel, Except.ok.injEq,
        Option.some.injEq, scatter_eq_self_iff flipLow_involutive flipLow_ne]
      simp only [empty, pixel, true_and, false_or]
    · rw [perturbPixelsInternal_short platform self data empty (by omega)]
      simp only [empty, pixel, false_and, or_self, reduceCtorEq]

theorem perturbPixels_of_disabled (platform : FarblingPlatform) {self : WhaleSessionCache}
    (disabled : self.farblingEnabled = false) (data : Option PixelBuffer) :
    (self.perturbPixels platform data).result = .ok (data.map PixelBuffer.bytes) := by
  unfold perturbPixels
  rw [disabled]
  rfl

/-! ### The audio gate -/

theorem farbleAudioChannel_of_protecting {self : WhaleSessionCache} (gates : Gated self)
    (protecting : self.farblingLevel ≠ .off) (dst : List Rat) :
    ∃ helper, self.audioFarblingHelper = some helper ∧
      self.farbleAudioChannel dst = helper.farbleAudioChannel dst := by
  obtain ⟨helper, present⟩ := Option.isSome_iff_exists.mp (gates.helperIff.mpr protecting)
  refine ⟨helper, present, ?_⟩
  unfold farbleAudioChannel
  rw [present]

theorem farbleAudioChannel_of_off {self : WhaleSessionCache} (gates : Gated self)
    (off : self.farblingLevel = .off) (dst : List Rat) : self.farbleAudioChannel dst = dst := by
  unfold farbleAudioChannel
  cases present : self.audioFarblingHelper with
  | none => rfl
  | some helper =>
      have protecting := gates.helperIff.mp (by rw [present]; rfl)
      exact absurd off protecting

/-! ### Both surfaces -/

/-- What the level that the constructor ended with asks of a channel and a buffer. -/
structure ProtectionAgrees (platform : FarblingPlatform) (farblingLevel : WhaleFarblingLevel)
    (current : WhaleSessionCache) (data : Option PixelBuffer) (dst : List Rat) : Prop where
  audioOn : farblingLevel ≠ .off →
    ∃ helper, current.audioFarblingHelper = some helper ∧
      current.farbleAudioChannel dst = helper.farbleAudioChannel dst
  canvasOn : farblingLevel ≠ .off →
    (current.perturbPixels platform data).result =
      (current.perturbPixelsInternal platform data).result
  audioOff : farblingLevel = .off → current.farbleAudioChannel dst = dst
  canvasOff : farblingLevel = .off →
    (current.perturbPixels platform data).result = .ok (data.map PixelBuffer.bytes)

theorem protectionAgrees_of_off (platform : FarblingPlatform) {current : WhaleSessionCache}
    (gates : Gated current) (off : current.farblingLevel = .off) (data : Option PixelBuffer)
    (dst : List Rat) : ProtectionAgrees platform current.farblingLevel current data dst :=
  { audioOn := fun protecting => absurd off protecting
    canvasOn := fun protecting => absurd off protecting
    audioOff := fun _off => farbleAudioChannel_of_off gates off dst
    canvasOff := fun _off => perturbPixels_of_disabled platform gates.disabled data }

/-- At a level other than `OFF` only the canvas can disagree. -/
theorem protectionAgrees_of_protecting_iff (platform : FarblingPlatform)
    {current : WhaleSessionCache} (gates : Gated current)
    (protecting : current.farblingLevel ≠ .off) (data : Option PixelBuffer) (dst : List Rat) :
    ProtectionAgrees platform current.farblingLevel current data dst ↔
      ∀ buffer, data = some buffer → TogglesCancel platform current buffer := by
  have untouched := perturbPixels_of_disabled platform gates.disabled data
  constructor
  · intro agrees buffer given
    subst given
    exact (perturbPixelsInternal_untouched_iff platform current buffer).mp
      ((agrees.canvasOn protecting).symm.trans untouched)
  · intro cancel
    refine
      { audioOn := fun _protecting => farbleAudioChannel_of_protecting gates protecting dst
        canvasOn := fun _protecting => ?_
        audioOff := fun off => absurd off protecting
        canvasOff := fun off => absurd off protecting }
    cases data with
    | none => exact untouched
    | some buffer =>
        have internal := (perturbPixelsInternal_untouched_iff platform current buffer).mpr
          (cancel buffer rfl)
        exact untouched.trans internal.symm

theorem not_togglesCancel_singleByte (platform : FarblingPlatform) (self : WhaleSessionCache) :
    ¬ TogglesCancel platform self singleByte := by
  intro cancel
  rcases cancel with empty | ⟨pixel, _even⟩
  · cases empty
  · exact absurd pixel (by decide)

theorem protectionAgrees_iff (platform : FarblingPlatform) (memory : KeyMemory)
    (context : ExecutionContext) (calls : List CacheCall) (cache current : WhaleSessionCache)
    (built : (new platform memory context).result = .ok cache)
    (run : (runCalls platform cache calls).result = .ok current) :
    ((∀ data dst, ProtectionAgrees platform cache.farblingLevel current data dst) ↔
      cache.farblingLevel = .off) ∧
    ∀ data dst, ProtectionAgrees platform cache.farblingLevel current data dst ↔
      cache.farblingLevel = .off ∨
        ∀ buffer, data = some buffer → TogglesCancel platform current buffer := by
  obtain ⟨gates, kept⟩ := gated_runCalls built run
  rw [← kept]
  by_cases off : current.farblingLevel = .off
  · have agrees := protectionAgrees_of_off platform gates off
    exact ⟨iff_of_true agrees off, fun data dst => iff_of_true (agrees data dst) (Or.inl off)⟩
  · have agreesIff := protectionAgrees_of_protecting_iff platform gates off
    constructor
    · constructor
      · intro agrees
        have cancel := (agreesIff (some singleByte) []).mp (agrees _ _) singleByte rfl
        exact absurd cancel (not_togglesCancel_singleByte platform current)
      · intro isOff
        exact absurd isOff off
    · intro data dst
      rw [agreesIff data dst, or_iff_right off]

/-! ### A balanced page with a white pixel -/

namespace ReferenceFarbling

/-- The top frame of `https://example.com`. -/
def balancedContext : ExecutionContext :=
  let origin : SecurityOrigin :=
    { protocol := "https".toList, host := some "example.com".toList, isOpaque := false }
  let client : WebContentSettingsClient := { whaleFarblingLevel := .balanced }
  { kind := .localDOMWindow
      (some
        { top := .localFrame (some origin) (some client)
          contentSettingsClient := some client })
      none
    securityOrigin := some origin }

def freshMemory : KeyMemory :=
  { sessionKey := 0, domainKey := Vector.replicate 32 0 }

def balancedCache : WhaleSessionCache :=
  { farblingEnabled := false
    sessionKey := 12345
    domainKey := exampleDomainKey
    farbledIntegers := []
    farblingLevel := .balanced
    audioFarblingHelper := some
      { fudgeFactor :=
          99 / 100 + (((firstWord exampleDomainKey).toNat / maxUInt64AsDouble) / 100)
        seed := firstWord exampleDomainKey
        max := false } }

end ReferenceFarbling

open ReferenceFarbling in
theorem not_protectionAgrees_whitePixel :
    (new platform freshMemory balancedContext).result = .ok balancedCache ∧
      (runCalls platform balancedCache []).result = .ok balancedCache ∧
      ¬ ProtectionAgrees platform balancedCache.farblingLevel balancedCache
          (some whitePixel) [] := by
  refine ⟨by decide +kernel, rfl, ?_⟩
  intro agrees
  have canvas := agrees.canvasOn (by decide)
  have differ : (balancedCache.perturbPixels platform (some whitePixel)).result ≠
      (balancedCache.perturbPixelsInternal platform (some whitePixel)).result := by
    decide +kernel
  exact differ canvas

open ReferenceFarbling in
theorem protectionAgrees_iff_balanced :
    (new platform freshMemory balancedContext).result = .ok balancedCache ∧
      (runCalls platform balancedCache [.getWhaleFarblingLevel]).result = .ok balancedCache ∧
      ((∀ data dst, ProtectionAgrees platform balancedCache.farblingLevel balancedCache
          data dst) ↔ balancedCache.farblingLevel = .off) ∧
      ∀ data dst, ProtectionAgrees platform balancedCache.farblingLevel balancedCache data dst ↔
        balancedCache.farblingLevel = .off ∨
          ∀ buffer, data = some buffer → TogglesCancel platform balancedCache buffer := by
  have built : (new platform freshMemory balancedContext).result = .ok balancedCache := by
    decide +kernel
  exact ⟨built, rfl, protectionAgrees_iff platform freshMemory balancedContext
    [.getWhaleFarblingLevel] balancedCache balancedCache built rfl⟩

end Whale.Farbling
