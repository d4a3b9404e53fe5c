/-
How far an answer can be from the truth.

The samples, the processors, the memory, the parameters and the coordinates are the true
ones at `OFF`.  The strings, the integers and the spaces behind the user agent are made up
at every level.  Each surface has a range of its own, and no answer leaves it.
-/
import Mathlib.Algebra.Order.Field.Rat
import Mathlib.Data.List.GetD
import Mathlib.Tactic.IntervalCases
import Mathlib.Tactic.Linarith
import Mathlib.Tactic.Positivity
import Whale.Farbling.SiteAnswers

set_option autoImplicit false

namespace Whale.Farbling

open Whale.Foundation
open Whale.Url (Text)
open WhaleSessionCache

/-! ### The ranges -/

def SamplesWithin (farblingLevel : WhaleFarblingLevel) (dst told : List Rat) : Prop :=
  match farblingLevel with
  | .off => told = dst
  | .balanced => ∃ factor : Rat, 99 / 100 ≤ factor ∧ factor ≤ 1 ∧
      told = dst.map fun sample => sample * factor
  | .maximum => told.length = dst.length ∧ ∀ sample ∈ told, 0 ≤ sample ∧ sample ≤ 1 / 10

def ProcessorsWithin (renderer : Renderer) (farblingLevel : WhaleFarblingLevel)
    (hardwareConcurrency told : UInt32) : Prop :=
  match farblingLevel with
  | .off => told = hardwareConcurrency
  | .balanced => told = hardwareConcurrency
  | .maximum =>
      told = renderer.numberOfProcessors ∧ told ≤ 2 ∨
        2 < renderer.numberOfProcessors ∧ 2 ≤ told ∧ told ≤ 8

/-- The amounts that are told are valid, and none is above a true one that is, except that
`0.5` is told for `0.25`. -/
def MemoryWithin (renderer : Renderer) (farblingLevel : WhaleFarblingLevel) (told : Rat) : Prop :=
  if farblingLevel = .off then told = renderer.approximatedDeviceMemory
  else told ∈ validValues ∧ 1 / 2 ≤ told ∧
    (renderer.approximatedDeviceMemory ∈ validValues →
      told ≤ max (1 / 2) renderer.approximatedDeviceMemory)

def ParameterWithin (farblingLevel : WhaleFarblingLevel) (owner : WebGL2RenderingContextBase)
    (pname : GLenum) (told : Option Int) : Prop :=
  match farblingLevel, farbledParameter pname with
  | .maximum, some (width, _) => ∃ value, told = some value ∧
      (value = owner.trueValue pname width ∨
        0 ≤ value ∧ value + 1 = owner.trueValue pname width)
  | _, _ => told = none

def CoordinateWithin (farblingLevel : WhaleFarblingLevel) (view : Option DOMWindow)
    (clientCoordinate trueScreenCoordinate told : Int) : Prop :=
  match farblingLevel, view with
  | .off, _ => told = trueScreenCoordinate
  | _, some (.localDOMWindow (some zoomFactor)) =>
      ∃ offset, 0 ≤ offset ∧ offset ≤ 8 ∧
        told = truncate (zoomFactor * clientCoordinate) + offset
  | _, some (.localDOMWindow none) => False
  | _, _ => told = trueScreenCoordinate

/-- The range of an integer counts when any draw under it is an `int`. -/
def IntegerWithin (spoofValue minValue maxValue told : Int) : Prop :=
  0 ≤ minValue → minValue ≤ maxValue → 1 + maxValue ≤ 2147483647 →
    spoofValue + minValue ≤ told ∧ told ≤ spoofValue + maxValue

/-- What an answer to a call can be at a level. -/
def Plausible (renderer : Renderer) (farblingLevel : WhaleFarblingLevel) :
    ScriptCall → Answer → Prop
  | .allowFingerprinting, .allowed told => told = true ↔ farblingLevel ≠ .maximum
  | .getParameter owner pname, .parameter told => ParameterWithin farblingLevel owner pname told
  | .onContext (.applyWhaleHardwareConcurrencyOverride hardwareConcurrency), .processors told =>
      ProcessorsWithin renderer farblingLevel hardwareConcurrency told
  | .onContext .farbleDeviceMemory, .memory told => MemoryWithin renderer farblingLevel told
  | .onContext (.farbleInteger _ spoofValue minValue maxValue), .integer told =>
      IntegerWithin spoofValue minValue maxValue told
  | .onContext (.farbledPointerScreenCoordinate view _ clientCoordinate trueScreenCoordinate),
      .integer told =>
      CoordinateWithin farblingLevel view clientCoordinate trueScreenCoordinate told
  | .onContext (.member .getWhaleFarblingLevel), .level told => told = farblingLevel
  | .onContext (.member (.farbleAudioChannel dst)), .samples told =>
      SamplesWithin farblingLevel dst told
  | .onContext (.member (.perturbPixels data)), .pixels told =>
      told = data.map PixelBuffer.bytes
  | .onContext (.member (.generateRandomString _ length)), .text told =>
      told.length = length ∧ ∀ letter ∈ told, letter ∈ kLettersForRandomStrings
  | .onContext (.member (.farbledUserAgent realUserAgent)), .text told =>
      ∃ extra < 5, told = realUserAgent ++ List.replicate extra ' '
  | .onContext (.member (.farbledInteger _ spoofValue minRandomOffset maxRandomOffset)),
      .integer told => IntegerWithin spoofValue minRandomOffset maxRandomOffset told
  | .onContext (.member (.makePseudoRandomGenerator _)), .generator _ => True
  | .onContext (.member .getAudioFarblingHelper), .helper told =>
      told.isSome = true ↔ farblingLevel ≠ .off
  | _, _ => False

/-! ### The surfaces -/

section Surfaces

variable {renderer : Renderer} {cache : WhaleSessionCache}

theorem noise_within (v : UInt64) (count : Nat) :
    ∀ sample ∈ noise v count, 0 ≤ sample ∧ sample ≤ 1 / 10 := by
  induction count generalizing v with
  | zero =>
      intro sample member
      cases member
  | succ count ih =>
      intro sample member
      rcases List.mem_cons.mp member with rfl | later
      · unfold noiseSample maxUInt64AsDouble
        have small : ((lfsrNext v).toNat : Rat) ≤ 18446744073709551616 := by
          have fits := (lfsrNext v).toNat_lt
          exact_mod_cast Nat.le_of_lt fits
        have nonneg : (0 : Rat) ≤ ((lfsrNext v).toNat : Rat) := Nat.cast_nonneg _
        constructor
        · positivity
        · rw [div_div, div_le_div_iff₀ (by norm_num) (by norm_num)]
          linarith
      · exact ih (lfsrNext v) sample later

theorem fudgeFactor_within (word : UInt64) :
    99 / 100 ≤ 99 / 100 + ((word.toNat : Rat) / maxUInt64AsDouble) / 100 ∧
      99 / 100 + ((word.toNat : Rat) / maxUInt64AsDouble) / 100 ≤ 1 := by
  unfold maxUInt64AsDouble
  have small : (word.toNat : Rat) ≤ 18446744073709551616 := by
    have fits := word.toNat_lt
    exact_mod_cast Nat.le_of_lt fits
  have nonneg : (0 : Rat) ≤ (word.toNat : Rat) := Nat.cast_nonneg _
  have share : (word.toNat : Rat) / 18446744073709551616 ≤ 1 := by
    rw [div_le_one (by norm_num)]
    exact small
  have least : 0 ≤ (word.toNat : Rat) / 18446744073709551616 := by positivity
  constructor <;> linarith

theorem toldProcessors_within (hardwareConcurrency : UInt32) :
    ProcessorsWithin renderer cache.farblingLevel hardwareConcurrency
      (toldProcessors renderer cache hardwareConcurrency) := by
  unfold ProcessorsWithin toldProcessors
  cases cache.farblingLevel with
  | off => rfl
  | balanced => rfl
  | maximum =>
      dsimp only
      by_cases few : renderer.numberOfProcessors ≤ 2
      · rw [if_pos few]
        exact Or.inl ⟨rfl, few⟩
      · rw [if_neg few]
        refine Or.inr ⟨UInt32.not_le.mp few, ?_⟩
        have residue : (siteDraw renderer cache 0).toNat % 7 < 7 := Nat.mod_lt _ (by omega)
        have drawn : (2 + siteDraw renderer cache 0 % 7).toUInt32.toNat =
            2 + (siteDraw renderer cache 0).toNat % 7 := by
          rw [UInt64.toNat_toUInt32, UInt64.toNat_add, UInt64.toNat_mod]
          change (2 + (siteDraw renderer cache 0).toNat % 7) % 2 ^ 64 % 2 ^ 32 = _
          omega
        rw [UInt32.le_iff_toNat_le, UInt32.le_iff_toNat_le, drawn]
        change 2 ≤ _ ∧ _ ≤ 8
        omega

theorem trueIndex_le (trueValue : Rat) : (trueIndex trueValue).toNat ≤ 5 := by
  unfold trueIndex
  cases found : validValues.findIdx? fun value => decide (value = trueValue) with
  | none => decide
  | some index =>
      obtain ⟨inside, _first⟩ := List.findIdx?_eq_some_iff_getElem.mp found
      have small : index < 6 := inside
      rw [Option.getD_some, UInt64.toNat_ofNat']
      omega

theorem getD_trueIndex {trueValue : Rat} (valid : trueValue ∈ validValues) :
    validValues.getD (trueIndex trueValue).toNat 0 = trueValue := by
  unfold validValues at valid
  simp only [List.mem_cons, List.not_mem_nil, or_false] at valid
  rcases valid with rfl | rfl | rfl | rfl | rfl | rfl <;> decide +kernel

theorem validValues_mono : ∀ greater ≤ 5, ∀ index ≤ greater,
    validValues.getD index 0 ≤ validValues.getD greater 0 := by
  decide +kernel

theorem toldMemory_within :
    MemoryWithin renderer cache.farblingLevel (toldMemory renderer cache) := by
  unfold MemoryWithin toldMemory
  by_cases off : cache.farblingLevel = .off
  · rw [if_pos off, if_pos off]
  · rw [if_neg off, if_neg off]
    let greatest := trueIndex renderer.approximatedDeviceMemory
    have bounded : greatest.toNat ≤ 5 := trueIndex_le _
    by_cases least : greatest ≤ 1
    · rw [if_pos least]
      refine ⟨by decide +kernel, le_refl _, fun _valid => le_max_left _ _⟩
    · rw [if_neg least]
      have several : 1 < greatest.toNat := UInt64.lt_iff_toNat_lt.mp (UInt64.not_le.mp least)
      have residue := Nat.mod_lt (siteDraw renderer cache 0).toNat
        (show 0 < greatest.toNat by omega)
      have drawn : (1 + siteDraw renderer cache 0 % (greatest + 1 - 1)).toNat =
          1 + (siteDraw renderer cache 0).toNat % greatest.toNat := by
        rw [UInt64.add_sub_cancel, UInt64.toNat_add, UInt64.toNat_mod]
        change (1 + _) % 2 ^ 64 = _
        omega
      rw [drawn]
      have inside : 1 + (siteDraw renderer cache 0).toNat % greatest.toNat ≤ greatest.toNat := by
        omega
      refine ⟨?_, ?_, ?_⟩
      · have fits : 1 + (siteDraw renderer cache 0).toNat % greatest.toNat <
            validValues.length := by
          change _ < 6
          omega
        rw [List.getD_eq_getElem _ _ fits]
        exact List.getElem_mem fits
      · exact validValues_mono _ (inside.trans bounded) 1 (by omega)
      · intro valid
        have below := validValues_mono _ bounded _ inside
        rw [getD_trueIndex valid] at below
        exact below.trans (le_max_right _ _)

theorem lowered_within (value : Int) (discard : Nat) :
    lowered renderer cache value discard = value ∨
      0 ≤ lowered renderer cache value discard ∧
        lowered renderer cache value discard + 1 = value := by
  unfold lowered
  by_cases taken : 0 < value ∧ siteDraw renderer cache discard % 2 ≠ 0
  · rw [if_pos taken]
    right
    omega
  · rw [if_neg taken]
    exact Or.inl rfl

theorem toldParameter_within (owner : WebGL2RenderingContextBase) (pname : GLenum) :
    ParameterWithin cache.farblingLevel owner pname
      (toldParameter renderer cache owner pname) := by
  unfold ParameterWithin toldParameter
  cases cache.farblingLevel with
  | off => rfl
  | balanced => rfl
  | maximum =>
      cases farbledParameter pname with
      | none => rfl
      | some found => exact ⟨_, rfl, lowered_within _ _⟩

theorem randomLetters_within (v : UInt64) (length : Nat) :
    (randomLetters v length).length = length ∧
      ∀ letter ∈ randomLetters v length, letter ∈ kLettersForRandomStrings := by
  induction length generalizing v with
  | zero =>
      refine ⟨rfl, ?_⟩
      intro letter member
      cases member
  | succ length ih =>
      obtain ⟨sameLength, letters⟩ := ih (lfsrNext v)
      refine ⟨congrArg Nat.succ sameLength, ?_⟩
      intro letter member
      rcases List.mem_cons.mp member with rfl | later
      · rw [List.getD_eq_getElem _ _ (letterIndex_lt v)]
        exact List.getElem_mem (letterIndex_lt v)
      · exact letters letter later

/-! ### A cache that has been made -/

structure Constructed (cache : WhaleSessionCache) : Prop where
  disabled : cache.farblingEnabled = false
  empty : cache.farbledIntegers = []
  silent : cache.farblingLevel = .off → cache.audioFarblingHelper = none
  helped : cache.farblingLevel ≠ .off →
    ∃ helper, cache.audioFarblingHelper = some helper ∧ 99 / 100 ≤ helper.fudgeFactor ∧
      helper.fudgeFactor ≤ 1 ∧ helper.max = decide (cache.farblingLevel = .maximum)

theorem constructed_unset (memory : KeyMemory) : Constructed (unset memory) :=
  { disabled := rfl
    empty := rfl
    silent := fun _off => rfl
    helped := fun protecting => absurd rfl protecting }

theorem constructed_siteCache (platform : FarblingPlatform) (domain : List UInt8)
    (farblingLevel : WhaleFarblingLevel) :
    Constructed (siteCache platform domain farblingLevel) :=
  { disabled := rfl
    empty := rfl
    silent := fun off => if_neg fun protecting => protecting off
    helped := fun protecting => by
      obtain ⟨least, greatest⟩ := fudgeFactor_within (firstWord (siteKey platform domain))
      exact ⟨siteHelper platform domain farblingLevel, if_pos protecting, least, greatest, rfl⟩ }

theorem belongsTo_of_assignsKeys {platform : FarblingPlatform} {context : ExecutionContext}
    (assigned : AssignsKeys platform context) : ∃ domain, BelongsTo platform context domain := by
  obtain ⟨origin, host, originFound, notOpaque, hostFound, hostNonempty, domainNonempty⟩ :=
    assigned
  exact ⟨_,
    { derives := ⟨origin, host, originFound, notOpaque, hostFound, hostNonempty, rfl⟩
      nonempty := domainNonempty }⟩

theorem constructed_of_new {platform : FarblingPlatform} {memory : KeyMemory}
    {context : ExecutionContext}
    (made : (new platform memory context).result = .ok cache) : Constructed cache := by
  by_cases assigned : AssignsKeys platform context
  · obtain ⟨domain, belongs⟩ := belongsTo_of_assignsKeys assigned
    rw [new_result_of_belongsTo belongs] at made
    cases found : levelOf platform context with
    | error reason =>
        rw [found] at made
        cases made
    | ok farblingLevel =>
        rw [found] at made
        cases made
        exact constructed_siteCache platform domain farblingLevel
  · rw [new_of_not_assignsKeys assigned] at made
    cases made
    exact constructed_unset memory

theorem samples_within (constructed : Constructed cache) (dst : List Rat) :
    SamplesWithin cache.farblingLevel dst (cache.farbleAudioChannel dst) := by
  by_cases off : cache.farblingLevel = .off
  · unfold WhaleSessionCache.farbleAudioChannel
    rw [constructed.silent off, off]
    rfl
  · obtain ⟨helper, present, least, greatest, strict⟩ := constructed.helped off
    unfold WhaleSessionCache.farbleAudioChannel
    rw [present]
    unfold SamplesWithin WhaleAudioFarblingHelper.farbleAudioChannel
    dsimp only
    rw [strict]
    cases level : cache.farblingLevel with
    | off => exact absurd level off
    | balanced => exact ⟨helper.fudgeFactor, least, greatest, rfl⟩
    | maximum =>
        exact ⟨WhaleAudioFarblingHelper.noise_length helper.seed dst.length,
          noise_within helper.seed dst.length⟩

/-- Without a table the integer is drawn under its own range. -/
theorem integer_within {platform : FarblingPlatform} {next : WhaleSessionCache}
    (constructed : Constructed cache) (key : FarbleKey) {spoofValue minValue maxValue told : Int}
    (done : (cache.farbledInteger platform key spoofValue minValue maxValue).result =
      .ok (told, next)) :
    IntegerWithin spoofValue minValue maxValue told := by
  intro nonneg ordered fits
  let ranges : FarbleKey → Int × Int := fun _key => (minValue, maxValue)
  have start := remembers_refl platform ranges constructed.empty
  have answered := start.farbledInteger key spoofValue
  rw [done] at answered
  have drawable : Drawable (rangedCall ranges key 0) :=
    { nonneg := nonneg, ordered := ordered, spanFits := fits }
  obtain ⟨offset, drawn, above, below⟩ := drawnOffset_between platform cache.domainKey drawable
  rw [drawn] at answered
  obtain ⟨rfl, _lower, _upper⟩ := checkedInt_eq_ok_iff.mp answered.symm
  change minValue ≤ offset at above
  change offset ≤ maxValue at below
  constructor <;> omega

theorem plausible_of_member {context : ExecutionContext} (constructed : Constructed cache)
    (call : CacheCall) {answer : Answer}
    (given : (answerCall renderer context (some cache)
      (.onContext (.member call))).result.map Prod.fst = .ok answer) :
    Plausible renderer cache.farblingLevel (.onContext (.member call)) answer := by
  rw [answerCall_member] at given
  cases call with
  | getWhaleFarblingLevel =>
      cases given
      rfl
  | farbleAudioChannel dst =>
      cases given
      exact samples_within constructed dst
  | perturbPixels data =>
      unfold answerMember at given
      rw [Traced.result_bind_pure,
        perturbPixels_of_disabled renderer.toFarblingPlatform constructed.disabled] at given
      cases given
      rfl
  | generateRandomString seed length =>
      cases given
      exact randomLetters_within _ length
  | farbledUserAgent realUserAgent =>
      cases given
      refine ⟨_, ?_, rfl⟩
      rw [UInt64.toNat_mod]
      exact Nat.mod_lt _ (by decide)
  | farbledInteger key spoofValue minRandomOffset maxRandomOffset =>
      unfold answerMember at given
      rw [Traced.result_bind_pure] at given
      cases done : (cache.farbledInteger renderer.toFarblingPlatform key spoofValue
        minRandomOffset maxRandomOffset).result with
      | error reason =>
          rw [done] at given
          cases given
      | ok read =>
          rw [done] at given
          cases given
          exact integer_within constructed key done
  | makePseudoRandomGenerator key =>
      cases given
      trivial
  | getAudioFarblingHelper =>
      cases given
      by_cases off : cache.farblingLevel = .off
      · exact iff_of_false (by simp [constructed.silent off]) fun protecting => protecting off
      · obtain ⟨helper, present, _within⟩ := constructed.helped off
        exact iff_of_true (by simp [present]) off

theorem coordinateWithin_elsewhere {farblingLevel : WhaleFarblingLevel} {view : Option DOMWindow}
    (elsewhere : ∀ pageZoomFactor, view ≠ some (.localDOMWindow pageZoomFactor))
    {clientCoordinate trueScreenCoordinate : Int} :
    CoordinateWithin farblingLevel view clientCoordinate trueScreenCoordinate
      trueScreenCoordinate := by
  unfold CoordinateWithin
  rcases view with _ | _ | _
  · cases farblingLevel <;> rfl
  · exact absurd rfl (elsewhere _)
  · cases farblingLevel <;> rfl

theorem coordinateWithin_window {farblingLevel : WhaleFarblingLevel} {zoomFactor : Rat}
    {clientCoordinate trueScreenCoordinate told : Int} (protecting : farblingLevel ≠ .off)
    (within : IntegerWithin (truncate (zoomFactor * clientCoordinate)) 0 8 told) :
    CoordinateWithin farblingLevel (some (.localDOMWindow (some zoomFactor))) clientCoordinate
      trueScreenCoordinate told := by
  obtain ⟨above, below⟩ := within (by omega) (by omega) (by omega)
  have offset : ∃ offset, 0 ≤ offset ∧ offset ≤ 8 ∧
      told = truncate (zoomFactor * clientCoordinate) + offset :=
    ⟨told - truncate (zoomFactor * clientCoordinate), by omega, by omega, by omega⟩
  cases farblingLevel with
  | off => exact absurd rfl protecting
  | balanced => exact offset
  | maximum => exact offset

theorem plausible_of_pointer {context : ExecutionContext} (constructed : Constructed cache)
    (view : Option DOMWindow) (key : FarbleKey) (clientCoordinate trueScreenCoordinate : Int)
    {answer : Answer}
    (given : (answerCall renderer context (some cache) (.onContext
      (.farbledPointerScreenCoordinate view key clientCoordinate
        trueScreenCoordinate))).result.map Prod.fst = .ok answer) :
    Plausible renderer cache.farblingLevel (.onContext
      (.farbledPointerScreenCoordinate view key clientCoordinate trueScreenCoordinate))
      answer := by
  cases view with
  | none =>
      cases given
      exact coordinateWithin_elsewhere (fun _zoom absent => by cases absent)
  | some view =>
      cases view with
      | remoteDOMWindow =>
          cases given
          exact coordinateWithin_elsewhere (fun _zoom remote => by cases remote)
      | localDOMWindow pageZoomFactor =>
          rw [answerCall_pointer] at given
          by_cases off : cache.farblingLevel = .off
          · rw [if_pos off] at given
            cases given
            rw [off]
            rfl
          · rw [if_neg off] at given
            cases pageZoomFactor with
            | none => cases given
            | some zoomFactor =>
                dsimp only at given
                cases narrowed : checkedInt (truncate (zoomFactor * clientCoordinate)) with
                | error reason =>
                    rw [narrowed] at given
                    cases given
                | ok spoofValue =>
                    rw [narrowed] at given
                    obtain ⟨same, _lower, _upper⟩ := checkedInt_eq_ok_iff.mp narrowed
                    change ((cache.farbledInteger renderer.toFarblingPlatform key spoofValue 0
                      8).result.map _).map _ = _ at given
                    cases done : (cache.farbledInteger renderer.toFarblingPlatform key spoofValue
                      0 8).result with
                    | error reason =>
                        rw [done] at given
                        cases given
                    | ok read =>
                        rw [done] at given
                        cases given
                        rw [same] at done
                        exact coordinateWithin_window off (integer_within constructed key done)

theorem plausible_of_constructed {context : ExecutionContext} (constructed : Constructed cache)
    (call : ScriptCall) {answer : Answer}
    (given : (answerCall renderer context (some cache) call).result.map Prod.fst = .ok answer) :
    Plausible renderer cache.farblingLevel call answer := by
  cases call with
  | allowFingerprinting =>
      cases given
      exact decide_eq_true_iff
  | getParameter owner pname =>
      rw [answerCall_parameter] at given
      cases given
      exact toldParameter_within owner pname
  | onContext call =>
      cases call with
      | member call => exact plausible_of_member constructed call given
      | applyWhaleHardwareConcurrencyOverride hardwareConcurrency =>
          rw [answerCall_processors] at given
          cases given
          exact toldProcessors_within hardwareConcurrency
      | farbleDeviceMemory =>
          rw [answerCall_memory] at given
          cases given
          exact toldMemory_within
      | farbleInteger key spoofValue minValue maxValue =>
          unfold answerCall at given
          dsimp only at given
          rw [Traced.result_bind_pure, farbleInteger_result] at given
          cases done : (cache.farbledInteger renderer.toFarblingPlatform key spoofValue minValue
            maxValue).result with
          | error reason =>
              rw [done] at given
              cases given
          | ok read =>
              rw [done] at given
              cases given
              exact integer_within constructed key done
      | farbledPointerScreenCoordinate view key clientCoordinate trueScreenCoordinate =>
          exact plausible_of_pointer constructed view key clientCoordinate trueScreenCoordinate
            given

end Surfaces

/-! ### Runs -/

/-- The level that the cache of a context is made with. -/
def constructedLevel (renderer : Renderer) (live : LiveContext) :
    Except Fault WhaleFarblingLevel :=
  (new renderer.toFarblingPlatform live.keyMemory live.context).result.map
    WhaleSessionCache.farblingLevel

/-- However the scripts take turns, no answer is outside the range of its surface at the
level of its context, as long as each key is used with one range. -/
theorem runScripts_plausible {Index : Type} [DecidableEq Index] (renderer : Renderer)
    (contexts : Index → LiveContext) (ranges : Index → FarbleKey → Int × Int)
    (calls : List (Index × ScriptCall)) (answers : List Answer)
    (ranged : ∀ call ∈ calls, Ranged (ranges call.1) call.2)
    (done : runScripts renderer contexts calls = .ok answers) :
    List.Forall₂
      (fun call answer => ∀ farblingLevel,
        constructedLevel renderer (contexts call.1) = .ok farblingLevel →
          Plausible renderer farblingLevel call.2 answer)
      calls answers := by
  rw [runScripts_asFresh renderer contexts ranges calls ranged] at done
  apply (forall₂_of_mapM done).imp
  rintro ⟨index, call⟩ answer given farblingLevel level
  unfold constructedLevel at level
  cases made : (new renderer.toFarblingPlatform (contexts index).keyMemory
    (contexts index).context).result with
  | error reason =>
      rw [made] at level
      cases level
  | ok cache =>
      rw [made] at level
      cases level
      have remade : (new (renderer.making (contexts index)).toFarblingPlatform
          (renderer.making (contexts index)).keyMemory (contexts index).context).result =
          .ok cache := made
      dsimp only at given
      rw [freshAnswer_of_made remade,
        answerCall_elsewhere renderer (contexts index) (contexts index).context] at given
      exact plausible_of_constructed (constructed_of_new made) call given

open ReferenceFarbling in
theorem runScripts_plausible_example :
    List.Forall₂
      (fun call answer => ∀ farblingLevel,
        constructedLevel renderer (twoContexts call.1) = .ok farblingLevel →
          Plausible renderer farblingLevel call.2 answer)
      twoScripts [.integer 100, .text [], .integer 7, .memory 8] := by
  apply runScripts_plausible renderer twoContexts (fun _index => pointerRanges) twoScripts
  · exact twoScripts_ranged
  · rfl

end Whale.Farbling
