/-
What a script is told by the execution context that it runs in.

A renderer has many contexts, each with its own session cache, and their scripts take
turns.  An answer is the one that a cache made for this call would have given: the
table of drawn integers and the order of the calls do not show, as long as each key is
used with one range.
-/
import Whale.Farbling.FarbledIntegers
import Whale.Farbling.KeyReads
import Whale.Farbling.PointerCoordinates
import Whale.Farbling.WebGLParameters
import Whale.Foundation.Stateless

set_option autoImplicit false

namespace Whale.Farbling

open Whale.Foundation
open Whale.Url (Text)
open WhaleSessionCache

/-! ### Calls and answers -/

inductive ScriptCall where
  | onContext (call : ContextCall)
  | allowFingerprinting
  | getParameter (owner : WebGL2RenderingContextBase) (pname : GLenum)

inductive Answer where
  | level (farblingLevel : WhaleFarblingLevel)
  | allowed (allowed : Bool)
  | samples (dst : List Rat)
  | pixels (bytes : Option (List UInt8))
  | text (value : Text)
  | integer (value : Int)
  | generator (prng : FarblingPRNG)
  | helper (audioFarblingHelper : Option WhaleAudioFarblingHelper)
  | processors (hardwareConcurrency : UInt32)
  | memory (value : Rat)
  | parameter (value : Option Int)

/-- What a member function returns, and the cache after it. -/
def answerMember (platform : FarblingPlatform) (cache : WhaleSessionCache) :
    CacheCall → Op (Answer × WhaleSessionCache)
  | .getWhaleFarblingLevel => pure (.level cache.farblingLevel, cache)
  | .farbleAudioChannel dst => pure (.samples (cache.farbleAudioChannel dst), cache)
  | .perturbPixels data => do
      let bytes ← cache.perturbPixels platform data
      pure (.pixels bytes, cache)
  | .generateRandomString seed length => do
      let value ← cache.generateRandomString platform seed length
      pure (.text value, cache)
  | .farbledUserAgent realUserAgent => do
      let value ← cache.farbledUserAgent platform realUserAgent
      pure (.text value, cache)
  | .farbledInteger key spoofValue minRandomOffset maxRandomOffset => do
      let (value, next) ←
        cache.farbledInteger platform key spoofValue minRandomOffset maxRandomOffset
      pure (.integer value, next)
  | .makePseudoRandomGenerator key => do
      let prng ← cache.makePseudoRandomGenerator platform key
      pure (.generator prng, cache)
  | .getAudioFarblingHelper => pure (.helper cache.audioFarblingHelper, cache)

/-- What a call returns, and the cache of the context after it. -/
def answerCall (renderer : Renderer) (context : ExecutionContext)
    (supplement : Option WhaleSessionCache) :
    ScriptCall → Op (Answer × Option WhaleSessionCache)
  | .onContext (.member call) => do
      let cache ← sessionCacheFrom renderer context supplement
      let (answer, next) ← answerMember renderer.toFarblingPlatform cache call
      pure (answer, some next)
  | .onContext (.applyWhaleHardwareConcurrencyOverride hardwareConcurrency) => do
      let (value, next) ← applyWhaleHardwareConcurrencyOverride renderer (some context)
        hardwareConcurrency supplement
      pure (.processors value, next)
  | .onContext .farbleDeviceMemory => do
      let (value, next) ← farbleDeviceMemory renderer (some context) supplement
      pure (.memory value, next)
  | .onContext (.farbleInteger key spoofValue minValue maxValue) => do
      let (value, next) ←
        farbleInteger renderer (some context) key spoofValue minValue maxValue supplement
      pure (.integer value, next)
  | .onContext
      (.farbledPointerScreenCoordinate view key clientCoordinate trueScreenCoordinate) => do
      let (value, next) ← farbledPointerScreenCoordinate renderer (some context) view key
        clientCoordinate trueScreenCoordinate supplement
      pure (.integer value, next)
  | .allowFingerprinting => do
      let (allowed, next) ← Whale.Farbling.allowFingerprinting renderer (some context) supplement
      pure (.allowed allowed, next)
  | .getParameter owner pname => do
      let (value, next) ← Whale.Farbling.getParameter renderer context owner pname supplement
      pure (.parameter value, next)

/-- The answer of a context that has not been asked before. -/
def freshAnswer (renderer : Renderer) (context : ExecutionContext) (call : ScriptCall) :
    Except Fault Answer :=
  (answerCall renderer context none call).result.map Prod.fst

/-! ### The contexts of a renderer -/

/-- A context, and what the memory of its cache holds where the keys are. -/
structure LiveContext where
  context : ExecutionContext
  keyMemory : KeyMemory
  deriving DecidableEq

/-- The renderer as it makes the cache of `live`. -/
def Renderer.making (renderer : Renderer) (live : LiveContext) : Renderer :=
  { renderer with keyMemory := live.keyMemory }

def contextService (renderer : Renderer) (live : LiveContext) :
    Service (Option WhaleSessionCache) ScriptCall Answer Fault :=
  { answer := fun supplement call =>
      (answerCall (renderer.making live) live.context supplement call).result }

/-- The answers of the contexts to the calls of their scripts, in the order of the
calls. -/
def runScripts {Index : Type} [DecidableEq Index] (renderer : Renderer)
    (contexts : Index → LiveContext) (calls : List (Index × ScriptCall)) :
    Except Fault (List Answer) :=
  ((Service.family fun index => contextService renderer (contexts index)).run
    (fun _index => none) calls).map Prod.fst

/-! ### The cache is made first -/

section Made

variable {renderer : Renderer} {context : ExecutionContext} {α β : Type}

/-- An operation that makes the cache, if there is none, before it does anything else. -/
def MakesCacheFirst (renderer : Renderer) (context : ExecutionContext)
    (operation : Option WhaleSessionCache → Op α) : Prop :=
  (operation none).result =
    (new renderer.toFarblingPlatform renderer.keyMemory context).result >>= fun cache =>
      (operation (some cache)).result

theorem MakesCacheFirst.bind {operation : Option WhaleSessionCache → Op α}
    (first : MakesCacheFirst renderer context operation) (next : α → Op β) :
    MakesCacheFirst renderer context fun supplement => operation supplement >>= next := by
  unfold MakesCacheFirst at first ⊢
  rw [Traced.result_bind, first, bind_assoc]
  congr 1
  funext cache
  exact (Traced.result_bind _ next).symm

theorem sessionCacheFrom_makesCacheFirst :
    MakesCacheFirst renderer context (sessionCacheFrom renderer context) :=
  (bind_pure _).symm

theorem getWhaleFarblingLevelFor_makesCacheFirst (defaultValue : WhaleFarblingLevel) :
    MakesCacheFirst renderer context
      (getWhaleFarblingLevelFor renderer (some context) defaultValue) :=
  sessionCacheFrom_makesCacheFirst.bind _

theorem allowFingerprinting_makesCacheFirst :
    MakesCacheFirst renderer context (allowFingerprinting renderer (some context)) :=
  (getWhaleFarblingLevelFor_makesCacheFirst _).bind _

/-- Only a coordinate that is not of a local window is reported without the cache. -/
def ScriptCall.asksCache : ScriptCall → Bool
  | .onContext (.farbledPointerScreenCoordinate view _ _ _) =>
      match view with
      | some (.localDOMWindow _) => true
      | _ => false
  | _ => true

theorem answerCall_makesCacheFirst {call : ScriptCall} (asks : call.asksCache = true) :
    MakesCacheFirst renderer context fun supplement =>
      answerCall renderer context supplement call := by
  cases call with
  | allowFingerprinting => exact allowFingerprinting_makesCacheFirst.bind _
  | getParameter owner pname =>
      exact ((getWhaleFarblingLevelFor_makesCacheFirst _).bind _).bind _
  | onContext call =>
      cases call with
      | member call => exact sessionCacheFrom_makesCacheFirst.bind _
      | applyWhaleHardwareConcurrencyOverride hardwareConcurrency =>
          exact (allowFingerprinting_makesCacheFirst.bind _).bind _
      | farbleDeviceMemory =>
          exact ((getWhaleFarblingLevelFor_makesCacheFirst _).bind _).bind _
      | farbleInteger => exact (sessionCacheFrom_makesCacheFirst.bind _).bind _
      | farbledPointerScreenCoordinate view =>
          cases view with
          | none => cases asks
          | some view =>
              cases view with
              | remoteDOMWindow => cases asks
              | localDOMWindow pageZoomFactor =>
                  exact (((getWhaleFarblingLevelFor_makesCacheFirst _).bind _).bind _).bind _

theorem answerCall_of_not_asksCache {call : ScriptCall} (without : call.asksCache = false) :
    ∃ answer, ∀ (renderer : Renderer) (context : ExecutionContext) supplement,
      answerCall renderer context supplement call = pure (answer, supplement) := by
  cases call with
  | allowFingerprinting | getParameter => cases without
  | onContext call =>
      cases call with
      | member | applyWhaleHardwareConcurrencyOverride | farbleDeviceMemory | farbleInteger =>
          cases without
      | farbledPointerScreenCoordinate view key clientCoordinate trueScreenCoordinate =>
          cases view with
          | none => exact ⟨.integer trueScreenCoordinate, fun _ _ _ => rfl⟩
          | some view =>
              cases view with
              | remoteDOMWindow => exact ⟨.integer trueScreenCoordinate, fun _ _ _ => rfl⟩
              | localDOMWindow => cases without

end Made

/-! ### What an answer depends on -/

/-- The same object with another table of drawn integers. -/
def WhaleSessionCache.withTable (cache : WhaleSessionCache) (table : List (FarbleKey × Int)) :
    WhaleSessionCache :=
  { cache with farbledIntegers := table }

theorem withTable_farblingLevel (cache : WhaleSessionCache) (table : List (FarbleKey × Int)) :
    (cache.withTable table).farblingLevel = cache.farblingLevel :=
  rfl

/-- The key of the integer that a call may draw, and its range. -/
def ScriptCall.range : ScriptCall → Option (FarbleKey × Int × Int)
  | .onContext (.member (.farbledInteger key _ minRandomOffset maxRandomOffset)) =>
      some (key, minRandomOffset, maxRandomOffset)
  | .onContext (.farbleInteger key _ minValue maxValue) => some (key, minValue, maxValue)
  | .onContext (.farbledPointerScreenCoordinate _ key _ _) => some (key, 0, 8)
  | _ => none

section Answered

variable (renderer : Renderer) (context : ExecutionContext) (cache : WhaleSessionCache)

/-- The table is not looked at, and it is the same afterwards. -/
def SkipsTable (call : ScriptCall) : Prop :=
  ∃ given : Except Fault Answer, ∀ table,
    (answerCall renderer context (some (cache.withTable table)) call).result =
      given.map fun answer => (answer, some (cache.withTable table))

/-- The answer is that of `FarbledInteger`. -/
def ReadsTable (call : ScriptCall) : Prop :=
  ∃ integer : IntegerCall,
    call.range = some (integer.key, integer.minRandomOffset, integer.maxRandomOffset) ∧
      ∀ table,
        (answerCall renderer context (some (cache.withTable table)) call).result =
          ((cache.withTable table).farbledInteger renderer.toFarblingPlatform integer.key
            integer.spoofValue integer.minRandomOffset integer.maxRandomOffset).result.map
              fun read => (.integer read.1, some read.2)

variable {renderer context cache}

theorem answerCall_member (call : CacheCall) :
    (answerCall renderer context (some cache) (.onContext (.member call))).result =
      (answerMember renderer.toFarblingPlatform cache call).result.map
        fun pair => (pair.1, some pair.2) :=
  Traced.result_bind_pure _ _

/-- A member function that returns what `operation` returns. -/
theorem skipsTable_of_member {α : Type} {call : CacheCall} (operation : Op α)
    (image : α → Answer)
    (performed : ∀ table,
      answerMember renderer.toFarblingPlatform (cache.withTable table) call =
        operation >>= fun value => pure (image value, cache.withTable table)) :
    SkipsTable renderer context cache (.onContext (.member call)) := by
  refine ⟨operation.result.map image, fun table => ?_⟩
  rw [answerCall_member, performed table, Traced.result_bind_pure]
  cases operation.result with
  | error reason => rfl
  | ok value => rfl

theorem member_cases (call : CacheCall) :
    SkipsTable renderer context cache (.onContext (.member call)) ∨
      ReadsTable renderer context cache (.onContext (.member call)) := by
  let platform := renderer.toFarblingPlatform
  cases call with
  | getWhaleFarblingLevel =>
      exact Or.inl ⟨.ok (.level cache.farblingLevel), fun table => rfl⟩
  | farbleAudioChannel dst =>
      exact Or.inl ⟨.ok (.samples (cache.farbleAudioChannel dst)), fun table => rfl⟩
  | getAudioFarblingHelper =>
      exact Or.inl ⟨.ok (.helper cache.audioFarblingHelper), fun table => rfl⟩
  | perturbPixels data =>
      exact Or.inl (skipsTable_of_member (cache.perturbPixels platform data) .pixels
        fun table => rfl)
  | generateRandomString seed length =>
      exact Or.inl (skipsTable_of_member (cache.generateRandomString platform seed length) .text
        fun table => rfl)
  | farbledUserAgent realUserAgent =>
      exact Or.inl (skipsTable_of_member (cache.farbledUserAgent platform realUserAgent) .text
        fun table => rfl)
  | makePseudoRandomGenerator key =>
      exact Or.inl (skipsTable_of_member (cache.makePseudoRandomGenerator platform key) .generator
        fun table => rfl)
  | farbledInteger key spoofValue minRandomOffset maxRandomOffset =>
      right
      let integer : IntegerCall :=
        { key := key
          spoofValue := spoofValue
          minRandomOffset := minRandomOffset
          maxRandomOffset := maxRandomOffset }
      refine ⟨integer, rfl, fun table => ?_⟩
      rw [answerCall_member]
      unfold answerMember
      rw [Traced.result_bind_pure]
      cases ((cache.withTable table).farbledInteger platform key spoofValue minRandomOffset
        maxRandomOffset).result with
      | error reason => rfl
      | ok read => rfl

/-- The draws of the generator that most answers use. -/
def siteDraw (renderer : Renderer) (cache : WhaleSessionCache) : FarblingPRNG :=
  renderer.randenEngine (firstWord cache.domainKey ^^^ FarbleKey.kNone.toUInt64)

/-- Only `MAXIMUM` gets as far as the switch. -/
def toldProcessors (renderer : Renderer) (cache : WhaleSessionCache)
    (hardwareConcurrency : UInt32) : UInt32 :=
  match cache.farblingLevel with
  | .off => hardwareConcurrency
  | .balanced => hardwareConcurrency
  | .maximum =>
      if renderer.numberOfProcessors ≤ 2 then renderer.numberOfProcessors
      else (2 + siteDraw renderer cache 0 % 7).toUInt32

def toldMemory (renderer : Renderer) (cache : WhaleSessionCache) : Rat :=
  let greatest := trueIndex renderer.approximatedDeviceMemory
  if cache.farblingLevel = .off then renderer.approximatedDeviceMemory
  else if greatest ≤ 1 then 1 / 2
  else validValues.getD (1 + siteDraw renderer cache 0 % (greatest + 1 - 1)).toNat 0

/-- A positive value, lowered by one bit of the site. -/
def lowered (renderer : Renderer) (cache : WhaleSessionCache) (value : Int) (discard : Nat) :
    Int :=
  if 0 < value ∧ siteDraw renderer cache discard % 2 ≠ 0 then value - 1 else value

def toldParameter (renderer : Renderer) (cache : WhaleSessionCache)
    (owner : WebGL2RenderingContextBase) (pname : GLenum) : Option Int :=
  match cache.farblingLevel with
  | .off => none
  | .balanced => none
  | .maximum =>
      (farbledParameter pname).map fun (width, discard) =>
        lowered renderer cache (owner.trueValue pname width) discard

theorem applyWhaleHardwareConcurrencyOverride_result (hardwareConcurrency : UInt32) :
    (applyWhaleHardwareConcurrencyOverride renderer (some context) hardwareConcurrency
        (some cache)).result =
      .ok (toldProcessors renderer cache hardwareConcurrency, some cache) := by
  obtain ⟨farblingEnabled, sessionKey, domainKey, farbledIntegers, farblingLevel, helper⟩ := cache
  cases farblingLevel with
  | off => rfl
  | balanced => rfl
  | maximum =>
      change Traced.result (if renderer.numberOfProcessors ≤ 2 then _ else _) =
        .ok (if renderer.numberOfProcessors ≤ 2 then _ else _, _)
      by_cases few : renderer.numberOfProcessors ≤ 2
      · rw [if_pos few, if_pos few]
        rfl
      · rw [if_neg few, if_neg few]
        rfl

theorem farbleDeviceMemory_result :
    (farbleDeviceMemory renderer (some context) (some cache)).result =
      .ok (toldMemory renderer cache, some cache) := by
  unfold farbleDeviceMemory toldMemory
  change Traced.result (if cache.farblingLevel = .off then _ else _) = _
  by_cases off : cache.farblingLevel = .off
  · rw [if_pos off, if_pos off]
    rfl
  · rw [if_neg off, if_neg off]
    dsimp only
    by_cases least : trueIndex renderer.approximatedDeviceMemory ≤ 1
    · rw [if_pos least, if_pos least]
      rfl
    · rw [if_neg least, if_neg least]
      rfl

theorem farbleGLValue_result (value : Int) (discard : Nat) :
    (farbleGLValue renderer context value discard (some cache)).result =
      .ok (lowered renderer cache value discard, some cache) := by
  unfold farbleGLValue lowered
  by_cases positive : 0 < value
  · rw [if_pos positive]
    simp only [positive, true_and]
    rfl
  · rw [if_neg positive, if_neg fun both => positive both.1]
    rfl

theorem getParameter_result (owner : WebGL2RenderingContextBase) (pname : GLenum) :
    (getParameter renderer context owner pname (some cache)).result =
      .ok (toldParameter renderer cache owner pname, some cache) := by
  unfold getParameter toldParameter
  change Traced.result (match cache.farblingLevel with
    | .off => _
    | .balanced => _
    | .maximum => _) = _
  cases cache.farblingLevel with
  | off => rfl
  | balanced => rfl
  | maximum =>
      cases farbledParameter pname with
      | none => rfl
      | some found =>
          obtain ⟨width, discard⟩ := found
          cases width with
          | int => exact Traced.result_bind_of_ok (farbleGLValue_result _ discard) _
          | int64 => exact Traced.result_bind_of_ok (farbleGLValue_result _ discard) _

theorem answerCall_processors (hardwareConcurrency : UInt32) :
    (answerCall renderer context (some cache)
        (.onContext (.applyWhaleHardwareConcurrencyOverride hardwareConcurrency))).result =
      .ok (.processors (toldProcessors renderer cache hardwareConcurrency), some cache) := by
  refine (Traced.result_bind_pure _ _).trans ?_
  rw [applyWhaleHardwareConcurrencyOverride_result]
  rfl

theorem answerCall_memory :
    (answerCall renderer context (some cache) (.onContext .farbleDeviceMemory)).result =
      .ok (.memory (toldMemory renderer cache), some cache) := by
  refine (Traced.result_bind_pure _ _).trans ?_
  rw [farbleDeviceMemory_result]
  rfl

theorem answerCall_parameter (owner : WebGL2RenderingContextBase) (pname : GLenum) :
    (answerCall renderer context (some cache) (.getParameter owner pname)).result =
      .ok (.parameter (toldParameter renderer cache owner pname), some cache) := by
  refine (Traced.result_bind_pure _ _).trans ?_
  rw [getParameter_result]
  rfl

/-- An exported function that returns a value and leaves the cache. -/
theorem skipsTable_of_result {α : Type} {call : ScriptCall} (value : α)
    (image : α → Answer) (operation : Option WhaleSessionCache → Op (α × Option WhaleSessionCache))
    (answered : ∀ supplement, answerCall renderer context supplement call =
      operation supplement >>= fun pair => pure (image pair.1, pair.2))
    (done : ∀ table, (operation (some (cache.withTable table))).result =
      .ok (value, some (cache.withTable table))) :
    SkipsTable renderer context cache call := by
  refine ⟨.ok (image value), fun table => ?_⟩
  rw [answered, Traced.result_bind_pure, done table]
  rfl

theorem farbleInteger_result (key : FarbleKey) (spoofValue minValue maxValue : Int) :
    (farbleInteger renderer (some context) key spoofValue minValue maxValue
        (some cache)).result =
      (cache.farbledInteger renderer.toFarblingPlatform key spoofValue minValue
        maxValue).result.map fun read => (read.1, some read.2) :=
  Traced.result_bind_pure _ _

theorem farbleInteger_readsTable (key : FarbleKey) (spoofValue minValue maxValue : Int) :
    ReadsTable renderer context cache
      (.onContext (.farbleInteger key spoofValue minValue maxValue)) := by
  let integer : IntegerCall :=
    { key := key
      spoofValue := spoofValue
      minRandomOffset := minValue
      maxRandomOffset := maxValue }
  refine ⟨integer, rfl, fun table => ?_⟩
  unfold answerCall
  rw [Traced.result_bind_pure, farbleInteger_result]
  cases ((cache.withTable table).farbledInteger renderer.toFarblingPlatform key spoofValue
    minValue maxValue).result with
  | error reason => rfl
  | ok read => rfl

/-- What a local window is told of a coordinate. -/
theorem answerCall_pointer (pageZoomFactor : Option Rat) (key : FarbleKey)
    (clientCoordinate trueScreenCoordinate : Int) :
    (answerCall renderer context (some cache) (.onContext (.farbledPointerScreenCoordinate
        (some (.localDOMWindow pageZoomFactor)) key clientCoordinate
        trueScreenCoordinate))).result =
      if cache.farblingLevel = .off then .ok (.integer trueScreenCoordinate, some cache)
      else
        match pageZoomFactor with
        | none => .error .nullDereference
        | some zoomFactor =>
            checkedInt (truncate (zoomFactor * clientCoordinate)) >>= fun spoofValue =>
              (cache.farbledInteger renderer.toFarblingPlatform key spoofValue 0 8).result.map
                fun read => (.integer read.1, some read.2) := by
  refine (Traced.result_bind_pure _ _).trans ?_
  unfold farbledPointerScreenCoordinate
  change (Traced.result (if decide (cache.farblingLevel ≠ .off) = true then _ else _)).map _ = _
  by_cases off : cache.farblingLevel = .off
  · rw [if_pos off, if_neg (by simp [off])]
    rfl
  · rw [if_neg off, if_pos (by simp [off])]
    cases pageZoomFactor with
    | none => rfl
    | some zoomFactor =>
        dsimp only
        rw [Traced.result_bind]
        cases narrowed : checkedInt (truncate (zoomFactor * clientCoordinate)) with
        | error reason => rfl
        | ok spoofValue =>
            have told := @farbleInteger_result renderer context cache key spoofValue 0 8
            refine (congrArg _ told).trans ?_
            change (Except.map _ _).map _ = Except.map _ _
            cases (cache.farbledInteger renderer.toFarblingPlatform key spoofValue 0 8).result with
            | error reason => rfl
            | ok read => rfl

theorem localPointer_cases (pageZoomFactor : Option Rat) (key : FarbleKey)
    (clientCoordinate trueScreenCoordinate : Int) :
    let call : ScriptCall := .onContext (.farbledPointerScreenCoordinate
      (some (.localDOMWindow pageZoomFactor)) key clientCoordinate trueScreenCoordinate)
    SkipsTable renderer context cache call ∨ ReadsTable renderer context cache call := by
  by_cases off : cache.farblingLevel = .off
  · refine Or.inl ⟨.ok (.integer trueScreenCoordinate), fun table => ?_⟩
    rw [answerCall_pointer, withTable_farblingLevel, if_pos off]
    rfl
  · cases pageZoomFactor with
    | none =>
        refine Or.inl ⟨.error .nullDereference, fun table => ?_⟩
        rw [answerCall_pointer, withTable_farblingLevel, if_neg off]
        rfl
    | some zoomFactor =>
        cases narrowed : checkedInt (truncate (zoomFactor * clientCoordinate)) with
        | error reason =>
            refine Or.inl ⟨.error reason, fun table => ?_⟩
            rw [answerCall_pointer, withTable_farblingLevel, if_neg off]
            dsimp only
            rw [narrowed]
            rfl
        | ok spoofValue =>
            refine Or.inr ⟨coordinateCall key spoofValue, rfl, fun table => ?_⟩
            rw [answerCall_pointer, withTable_farblingLevel, if_neg off]
            dsimp only
            rw [narrowed]
            rfl

theorem answerCall_cases (call : ScriptCall) :
    SkipsTable renderer context cache call ∨ ReadsTable renderer context cache call := by
  cases call with
  | allowFingerprinting =>
      exact Or.inl ⟨.ok (.allowed (decide (cache.farblingLevel ≠ .maximum))), fun table => rfl⟩
  | getParameter owner pname =>
      exact Or.inl (skipsTable_of_result (toldParameter renderer cache owner pname) .parameter
        (getParameter renderer context owner pname) (fun supplement => rfl)
        fun table => getParameter_result owner pname)
  | onContext call =>
      cases call with
      | member call => exact member_cases call
      | applyWhaleHardwareConcurrencyOverride hardwareConcurrency =>
          exact Or.inl (skipsTable_of_result
            (toldProcessors renderer cache hardwareConcurrency) .processors
            (applyWhaleHardwareConcurrencyOverride renderer (some context) hardwareConcurrency)
            (fun supplement => rfl)
            fun table => applyWhaleHardwareConcurrencyOverride_result hardwareConcurrency)
      | farbleDeviceMemory =>
          exact Or.inl (skipsTable_of_result (toldMemory renderer cache) .memory
            (farbleDeviceMemory renderer (some context)) (fun supplement => rfl)
            fun table => farbleDeviceMemory_result)
      | farbleInteger key spoofValue minValue maxValue =>
          exact Or.inr (farbleInteger_readsTable key spoofValue minValue maxValue)
      | farbledPointerScreenCoordinate view key clientCoordinate trueScreenCoordinate =>
          cases view with
          | none => exact Or.inl ⟨.ok (.integer trueScreenCoordinate), fun table => rfl⟩
          | some view =>
              cases view with
              | remoteDOMWindow =>
                  exact Or.inl ⟨.ok (.integer trueScreenCoordinate), fun table => rfl⟩
              | localDOMWindow pageZoomFactor =>
                  exact localPointer_cases pageZoomFactor key clientCoordinate
                    trueScreenCoordinate

end Answered

/-! ### What the table holds -/

section Remembered

variable {platform : FarblingPlatform} {ranges : FarbleKey → Int × Int}
  {built cache next : WhaleSessionCache}

def rangedCall (ranges : FarbleKey → Int × Int) (key : FarbleKey) (spoofValue : Int) :
    IntegerCall :=
  { key := key
    spoofValue := spoofValue
    minRandomOffset := (ranges key).1
    maxRandomOffset := (ranges key).2 }

/-- A later state of `built`: the table holds what the keys draw under their ranges. -/
structure Remembers (platform : FarblingPlatform) (ranges : FarbleKey → Int × Int)
    (built cache : WhaleSessionCache) : Prop where
  same : SameMembers built cache
  drawn : ∀ {key offset}, cache.farbledIntegers.lookup key = some offset →
    drawnOffset platform built.domainKey (rangedCall ranges key 0) = .ok offset

theorem remembers_refl (platform : FarblingPlatform) (ranges : FarbleKey → Int × Int)
    (empty : built.farbledIntegers = []) : Remembers platform ranges built built :=
  { same := SameMembers.refl built
    drawn := fun found => by
      rw [empty] at found
      cases found }

theorem Remembers.domainKey_eq (remembers : Remembers platform ranges built cache) :
    cache.domainKey = built.domainKey := by
  rw [remembers.same]

theorem Remembers.withTable_eq (remembers : Remembers platform ranges built cache) :
    built.withTable cache.farbledIntegers = cache :=
  remembers.same.symm

/-- The table does not show: what is remembered is what would be drawn again. -/
theorem Remembers.farbledInteger (remembers : Remembers platform ranges built cache)
    (key : FarbleKey) (spoofValue : Int) :
    (cache.farbledInteger platform key spoofValue (ranges key).1 (ranges key).2).result.map
        Prod.fst =
      drawnOffset platform built.domainKey (rangedCall ranges key 0) >>= fun offset =>
        checkedInt (offset + spoofValue) := by
  have performed := farbledInteger_result platform cache (rangedCall ranges key spoofValue)
  refine (congrArg _ performed).trans ?_
  let memo := integerMemo platform cache.domainKey
  let call := rangedCall ranges key spoofValue
  cases found : cache.farbledIntegers.lookup key with
  | some offset =>
      have hit : cache.farbledIntegers.lookup (memo.key call) = some offset := found
      rw [Memo.remember_of_some memo hit, remembers.drawn found]
      change Except.map Prod.fst (checkedInt (offset + spoofValue) >>= _) =
        checkedInt (offset + spoofValue)
      cases checkedInt (offset + spoofValue) with
      | error reason => rfl
      | ok value => rfl
  | none =>
      have missing : cache.farbledIntegers.lookup (memo.key call) = none := found
      rw [Memo.remember_of_none memo missing, ← remembers.domainKey_eq]
      change Except.map Prod.fst
        ((drawnOffset platform cache.domainKey (rangedCall ranges key 0)).map _ >>= _) = _
      cases drawnOffset platform cache.domainKey (rangedCall ranges key 0) with
      | error reason => rfl
      | ok offset =>
          change Except.map Prod.fst (checkedInt (offset + spoofValue) >>= _) =
            checkedInt (offset + spoofValue)
          cases checkedInt (offset + spoofValue) with
          | error reason => rfl
          | ok value => rfl

theorem Remembers.after (remembers : Remembers platform ranges built cache) {key : FarbleKey}
    {spoofValue value : Int}
    (done : (cache.farbledInteger platform key spoofValue (ranges key).1
      (ranges key).2).result = .ok (value, next)) :
    Remembers platform ranges built next := by
  let memo := integerMemo platform cache.domainKey
  let call := rangedCall ranges key spoofValue
  refine ⟨remembers.same.trans (farbledInteger_sameMembers done), ?_⟩
  have performed := (farbledInteger_result platform cache call).symm.trans done
  cases recalled : memo.remember cache.farbledIntegers call with
  | error reason =>
      rw [recalled] at performed
      cases performed
  | ok pair =>
      obtain ⟨held, table⟩ := pair
      rw [recalled] at performed
      have stored : next.farbledIntegers = table := by
        cases summed : checkedInt (held + spoofValue) with
        | error reason =>
            change checkedInt (held + spoofValue) >>= _ = _ at performed
            rw [summed] at performed
            cases performed
        | ok sum =>
            change checkedInt (held + spoofValue) >>= _ = _ at performed
            rw [summed] at performed
            cases performed
            rfl
      intro other offset found
      rw [stored] at found
      rcases Memo.cases_of_remember memo recalled with ⟨_hit, same⟩ | ⟨drawn, longer⟩
      · rw [same] at found
        exact remembers.drawn found
      · by_cases sameKey : other = key
        · subst sameKey
          have given : table.lookup other = some held := Memo.lookup_of_remember memo recalled
          rw [given] at found
          cases found
          rw [← remembers.domainKey_eq]
          exact drawn
        · rw [Memo.lookup_of_remember_of_ne memo recalled sameKey] at found
          exact remembers.drawn found

end Remembered

/-! ### Answers of a history -/

section Histories

variable {renderer : Renderer} {context : ExecutionContext} {ranges : FarbleKey → Int × Int}

/-- A call that may draw an integer gives the range of its key. -/
def Ranged (ranges : FarbleKey → Int × Int) (call : ScriptCall) : Prop :=
  ∀ key range, call.range = some (key, range) → range = ranges key

/-- The cache has not been made, or it is a later state of the one that is made. -/
def Supplements (renderer : Renderer) (context : ExecutionContext)
    (ranges : FarbleKey → Int × Int) : Option WhaleSessionCache → Prop
  | none => True
  | some cache =>
      ∃ built,
        (new renderer.toFarblingPlatform renderer.keyMemory context).result = .ok built ∧
          Remembers renderer.toFarblingPlatform ranges built cache

theorem remembers_of_answerCall {built cache : WhaleSessionCache} {call : ScriptCall}
    {answer : Answer} {next : Option WhaleSessionCache}
    (remembers : Remembers renderer.toFarblingPlatform ranges built cache)
    (ranged : Ranged ranges call)
    (done : (answerCall renderer context (some cache) call).result = .ok (answer, next)) :
    ∃ after, next = some after ∧
      Remembers renderer.toFarblingPlatform ranges built after := by
  have state := remembers.withTable_eq
  rcases @answerCall_cases renderer context built call with
    ⟨given, skipped⟩ | ⟨integer, drawing, read⟩
  · have answered := skipped cache.farbledIntegers
    rw [state, done] at answered
    cases given with
    | error reason => cases answered
    | ok value =>
        cases answered
        exact ⟨cache, rfl, remembers⟩
  · have answered := read cache.farbledIntegers
    have range := ranged _ _ drawing
    have least : integer.minRandomOffset = (ranges integer.key).1 := congrArg Prod.fst range
    have greatest : integer.maxRandomOffset = (ranges integer.key).2 := congrArg Prod.snd range
    rw [state, done, least, greatest] at answered
    cases returned : (cache.farbledInteger renderer.toFarblingPlatform integer.key
      integer.spoofValue (ranges integer.key).1 (ranges integer.key).2).result with
    | error reason =>
        rw [returned] at answered
        cases answered
    | ok pair =>
        rw [returned] at answered
        cases answered
        exact ⟨pair.2, rfl, remembers.after returned⟩

theorem map_answer (read : Except Fault (Int × WhaleSessionCache)) :
    (read.map fun pair => (Answer.integer pair.1, some pair.2)).map Prod.fst =
      (read.map Prod.fst).map Answer.integer := by
  cases read with
  | error reason => rfl
  | ok pair => rfl

/-- Whatever has been asked, the answer is that of a new cache. -/
theorem answer_of_remembers {built cache : WhaleSessionCache} {call : ScriptCall}
    (empty : built.farbledIntegers = [])
    (remembers : Remembers renderer.toFarblingPlatform ranges built cache)
    (ranged : Ranged ranges call) :
    (answerCall renderer context (some cache) call).result.map Prod.fst =
      (answerCall renderer context (some built) call).result.map Prod.fst := by
  have start := remembers_refl renderer.toFarblingPlatform ranges empty
  rcases @answerCall_cases renderer context built call with
    ⟨given, skipped⟩ | ⟨integer, drawing, read⟩
  · have later := skipped cache.farbledIntegers
    have first := skipped built.farbledIntegers
    rw [remembers.withTable_eq] at later
    rw [start.withTable_eq] at first
    rw [later, first]
    cases given with
    | error reason => rfl
    | ok value => rfl
  · have later := read cache.farbledIntegers
    have first := read built.farbledIntegers
    have range := ranged _ _ drawing
    have least : integer.minRandomOffset = (ranges integer.key).1 := congrArg Prod.fst range
    have greatest : integer.maxRandomOffset = (ranges integer.key).2 := congrArg Prod.snd range
    rw [remembers.withTable_eq, least, greatest] at later
    rw [start.withTable_eq, least, greatest] at first
    have same := (remembers.farbledInteger integer.key integer.spoofValue).trans
      (start.farbledInteger integer.key integer.spoofValue).symm
    rw [later, first, map_answer, map_answer, same]

theorem freshAnswer_of_made {built : WhaleSessionCache}
    (made : (new renderer.toFarblingPlatform renderer.keyMemory context).result = .ok built)
    (call : ScriptCall) :
    freshAnswer renderer context call =
      (answerCall renderer context (some built) call).result.map Prod.fst := by
  unfold freshAnswer
  by_cases asks : call.asksCache = true
  · have first := @answerCall_makesCacheFirst renderer context call asks
    unfold MakesCacheFirst at first
    rw [first, made]
    rfl
  · obtain ⟨answer, without⟩ := @answerCall_of_not_asksCache call
      (Bool.eq_false_iff.mpr asks)
    rw [without, without]
    rfl

theorem supplements_of_answerCall {call : ScriptCall} {answer : Answer}
    {supplement next : Option WhaleSessionCache}
    (supplements : Supplements renderer context ranges supplement) (ranged : Ranged ranges call)
    (done : (answerCall renderer context supplement call).result = .ok (answer, next)) :
    Supplements renderer context ranges next := by
  cases supplement with
  | some cache =>
      obtain ⟨built, made, remembers⟩ := supplements
      obtain ⟨after, rfl, later⟩ := remembers_of_answerCall remembers ranged done
      exact ⟨built, made, later⟩
  | none =>
      by_cases asks : call.asksCache = true
      · have first := @answerCall_makesCacheFirst renderer context call asks
        unfold MakesCacheFirst at first
        rw [done] at first
        cases made : (new renderer.toFarblingPlatform renderer.keyMemory context).result with
        | error reason =>
            rw [made] at first
            cases first
        | ok built =>
            rw [made] at first
            have start :=
              remembers_refl renderer.toFarblingPlatform ranges (farbledIntegers_new made)
            obtain ⟨after, rfl, later⟩ := remembers_of_answerCall start ranged first.symm
            exact ⟨built, made, later⟩
      · obtain ⟨alone, without⟩ := @answerCall_of_not_asksCache call
          (Bool.eq_false_iff.mpr asks)
        rw [without] at done
        cases done
        exact supplements

/-- The calls of a script are answered as those of a context that has not been asked
before. -/
theorem contextService_stateless (live : LiveContext) :
    Service.Stateless (contextService renderer live)
      (Supplements (renderer.making live) live.context ranges) (Ranged ranges)
      (freshAnswer (renderer.making live) live.context) := by
  constructor
  · intro supplement call supplements ranged
    cases supplement with
    | none => rfl
    | some cache =>
        obtain ⟨built, made, remembers⟩ := supplements
        exact (answer_of_remembers (farbledIntegers_new made) remembers ranged).trans
          (freshAnswer_of_made made call).symm
  · intro supplement call answer next supplements ranged done
    exact supplements_of_answerCall supplements ranged done

end Histories

/-- Scripts take turns, in any number of contexts: each answer is the one that its call
would have been given by a context that has not been asked before. -/
theorem runScripts_asFresh {Index : Type} [DecidableEq Index] (renderer : Renderer)
    (contexts : Index → LiveContext) (ranges : Index → FarbleKey → Int × Int)
    (calls : List (Index × ScriptCall)) (ranged : ∀ call ∈ calls, Ranged (ranges call.1) call.2) :
    runScripts renderer contexts calls =
      calls.mapM fun call =>
        freshAnswer (renderer.making (contexts call.1)) (contexts call.1).context call.2 := by
  have each : ∀ index, Service.Stateless (contextService renderer (contexts index))
      (Supplements (renderer.making (contexts index)) (contexts index).context (ranges index))
      (Ranged (ranges index))
      (freshAnswer (renderer.making (contexts index)) (contexts index).context) :=
    fun index => contextService_stateless (contexts index)
  exact (Service.Stateless.family each).run (fun _index => trivial) ranged

/-- The turns of the scripts do not show: in any other order of the same calls each call
is given the same answer. -/
theorem runScripts_reordered {Index : Type} [DecidableEq Index] (renderer : Renderer)
    (contexts : Index → LiveContext) (ranges : Index → FarbleKey → Int × Int)
    (calls otherCalls : List (Index × ScriptCall)) (answers : List Answer)
    (ranged : ∀ call ∈ calls, Ranged (ranges call.1) call.2)
    (reordered : calls.Perm otherCalls)
    (done : runScripts renderer contexts calls = .ok answers) :
    ∃ otherAnswers, runScripts renderer contexts otherCalls = .ok otherAnswers ∧
      (calls.zip answers).Perm (otherCalls.zip otherAnswers) := by
  have otherRanged : ∀ call ∈ otherCalls, Ranged (ranges call.1) call.2 :=
    fun call member => ranged call (reordered.mem_iff.mpr member)
  rw [runScripts_asFresh renderer contexts ranges calls ranged] at done
  rw [runScripts_asFresh renderer contexts ranges otherCalls otherRanged]
  exact exists_mapM_of_perm reordered done

namespace ReferenceFarbling

/-- A window of `https://example.com` and a frame that is sandboxed. -/
def twoContexts : Bool → LiveContext
  | true => { context := balancedContext, keyMemory := freshMemory }
  | false => { context := sandboxedContext, keyMemory := exampleKeys }

/-- The integer of one key is drawn for a coordinate and asked for again. -/
def twoScripts : List (Bool × ScriptCall) :=
  [(true, .onContext (.farbleInteger .kPointerScreenX 100 0 8)),
    (false, .onContext (.member (.farbledUserAgent []))),
    (true, .onContext (.farbleInteger .kPointerScreenX 7 0 8)),
    (false, .onContext .farbleDeviceMemory)]

theorem twoScripts_ranged : ∀ call ∈ twoScripts, Ranged pointerRanges call.2 := by
  intro call member
  simp only [twoScripts, List.mem_cons, List.not_mem_nil, or_false] at member
  rcases member with rfl | rfl | rfl | rfl <;> intro key range found <;> cases found <;> rfl

end ReferenceFarbling

open ReferenceFarbling in
theorem runScripts_reordered_example :
    ∃ otherAnswers, runScripts renderer twoContexts twoScripts.reverse = .ok otherAnswers ∧
      (twoScripts.zip [.integer 100, .text [], .integer 7, .memory 8]).Perm
        (twoScripts.reverse.zip otherAnswers) := by
  apply runScripts_reordered renderer twoContexts (fun _index => pointerRanges) twoScripts
  · exact twoScripts_ranged
  · exact (List.reverse_perm twoScripts).symm
  · rfl

end Whale.Farbling
