/-
Scripts of one site are answered alike.

The keys are derived from the registrable domain and a constant, so the cache that the
constructor makes is settled by the domain and the level.  Neither the memory of the
object nor the process, the frame or the kind of the context shows in an answer.
-/
import Whale.Farbling.ContextAnswers
import Whale.Foundation.Lockstep

set_option autoImplicit false

namespace Whale.Farbling

open Whale.Foundation
open WhaleSessionCache

/-! ### The cache of a site -/

/-- The constructor derives the keys for `domain`. -/
structure BelongsTo (platform : FarblingPlatform) (context : ExecutionContext)
    (domain : List UInt8) : Prop where
  derives : ∃ origin host, keyOrigin context = some origin ∧ origin.isOpaque = false ∧
    origin.host = some host ∧ host ≠ [] ∧ platform.getDomainAndRegistry host = domain
  nonempty : domain ≠ []

/-- The level that the constructor ends with, once it has derived the keys. -/
def levelOf (platform : FarblingPlatform) (context : ExecutionContext) :
    Except Fault WhaleFarblingLevel := do
  let settings ← getContentSettingsClientFor platform.isDisplayIsolated context
  match settings with
  | some client => pure client.whaleFarblingLevel
  | none => pure .off

def siteKey (platform : FarblingPlatform) (domain : List UInt8) : Digest :=
  platform.hmacSha256 (wordBytes 12345) domain

def siteHelper (platform : FarblingPlatform) (domain : List UInt8)
    (farblingLevel : WhaleFarblingLevel) : WhaleAudioFarblingHelper :=
  let domainWord := firstWord (siteKey platform domain)
  { fudgeFactor := 99 / 100 + ((domainWord.toNat / maxUInt64AsDouble) / 100)
    seed := domainWord
    max := decide (farblingLevel = .maximum) }

def siteCache (platform : FarblingPlatform) (domain : List UInt8)
    (farblingLevel : WhaleFarblingLevel) : WhaleSessionCache :=
  { farblingEnabled := false
    sessionKey := 12345
    domainKey := siteKey platform domain
    farbledIntegers := []
    farblingLevel := farblingLevel
    audioFarblingHelper :=
      if farblingLevel ≠ .off then some (siteHelper platform domain farblingLevel) else none }

section Site

variable {platform : FarblingPlatform} {context : ExecutionContext} {domain : List UInt8}

theorem new_of_belongsTo (belongs : BelongsTo platform context domain) (memory : KeyMemory) :
    new platform memory context = deriveKeys platform context domain (unset memory) := by
  obtain ⟨⟨origin, host, originFound, notOpaque, hostFound, hostNonempty, rfl⟩, nonempty⟩ :=
    belongs
  unfold new
  simp [originFound, notOpaque, hostFound, hostNonempty, nonempty]

theorem deriveKeys_result (memory : KeyMemory) :
    (deriveKeys platform context domain (unset memory)).result =
      (levelOf platform context).map (siteCache platform domain) := by
  unfold deriveKeys levelOf
  dsimp only
  simp only [Traced.result_bind, Traced.ofExcept]
  cases getContentSettingsClientFor platform.isDisplayIsolated context with
  | error reason => rfl
  | ok settings =>
      cases settings with
      | none => rfl
      | some client => rfl

/-- Every byte of the memory that counts has been written over. -/
theorem new_result_of_belongsTo (belongs : BelongsTo platform context domain)
    (memory : KeyMemory) :
    (new platform memory context).result =
      (levelOf platform context).map (siteCache platform domain) := by
  rw [new_of_belongsTo belongs, deriveKeys_result]

end Site

/-! ### One answer a site -/

/-- The answer that a site is given at a level, whatever the context is. -/
def siteAnswer (renderer : Renderer) (domain : List UInt8)
    (farblingLevel : WhaleFarblingLevel) (call : ScriptCall) : Except Fault Answer :=
  let context : ExecutionContext := { kind := .other, securityOrigin := none }
  (answerCall renderer context
    (some (siteCache renderer.toFarblingPlatform domain farblingLevel)) call).result.map Prod.fst

/-- Once the cache has been made, neither the context nor the memory is looked at. -/
theorem answerCall_elsewhere (renderer : Renderer) (live : LiveContext)
    (context : ExecutionContext) (cache : WhaleSessionCache) (call : ScriptCall) :
    (answerCall (renderer.making live) live.context (some cache) call).result =
      (answerCall renderer context (some cache) call).result := by
  cases call with
  | allowFingerprinting => rfl
  | getParameter owner pname => rfl
  | onContext call =>
      cases call with
      | member call => rfl
      | applyWhaleHardwareConcurrencyOverride hardwareConcurrency => rfl
      | farbleDeviceMemory => rfl
      | farbleInteger => rfl
      | farbledPointerScreenCoordinate => rfl

theorem freshAnswer_of_site {renderer : Renderer} {live : LiveContext} {domain : List UInt8}
    {farblingLevel : WhaleFarblingLevel}
    (belongs : BelongsTo renderer.toFarblingPlatform live.context domain)
    (level : levelOf renderer.toFarblingPlatform live.context = .ok farblingLevel)
    (call : ScriptCall) :
    freshAnswer (renderer.making live) live.context call =
      siteAnswer renderer domain farblingLevel call := by
  have made : (new (renderer.making live).toFarblingPlatform (renderer.making live).keyMemory
      live.context).result = .ok (siteCache renderer.toFarblingPlatform domain farblingLevel) := by
    refine (new_result_of_belongsTo belongs live.keyMemory).trans ?_
    rw [level]
    rfl
  rw [freshAnswer_of_made made, answerCall_elsewhere]
  rfl

theorem siteAnswer_processors (renderer : Renderer) (domain : List UInt8)
    (farblingLevel : WhaleFarblingLevel) (hardwareConcurrency : UInt32) :
    siteAnswer renderer domain farblingLevel
        (.onContext (.applyWhaleHardwareConcurrencyOverride hardwareConcurrency)) =
      .ok (.processors (toldProcessors renderer
        (siteCache renderer.toFarblingPlatform domain farblingLevel) hardwareConcurrency)) := by
  unfold siteAnswer
  dsimp only
  rw [answerCall_processors]
  rfl

theorem siteAnswer_memory (renderer : Renderer) (domain : List UInt8)
    (farblingLevel : WhaleFarblingLevel) :
    siteAnswer renderer domain farblingLevel (.onContext .farbleDeviceMemory) =
      .ok (.memory (toldMemory renderer
        (siteCache renderer.toFarblingPlatform domain farblingLevel))) := by
  unfold siteAnswer
  dsimp only
  rw [answerCall_memory]
  rfl

/-- The number of processors is made up, the true one does not count. -/
theorem siteAnswer_processors_maximum {renderer : Renderer}
    (many : 2 < renderer.numberOfProcessors) (domain : List UInt8) (hardwareConcurrency : UInt32) :
    siteAnswer renderer domain .maximum
        (.onContext (.applyWhaleHardwareConcurrencyOverride hardwareConcurrency)) =
      .ok (.processors (2 + siteDraw renderer
        (siteCache renderer.toFarblingPlatform domain .maximum) 0 % 7).toUInt32) := by
  rw [siteAnswer_processors]
  unfold toldProcessors siteCache
  dsimp only
  rw [if_neg (UInt32.not_le.mpr many)]

/-! ### Runs -/

/-- What settles the answers that a context gives. -/
structure OfSite (platform : FarblingPlatform) (domain : List UInt8)
    (farblingLevel : WhaleFarblingLevel) (context : ExecutionContext) : Prop where
  belongs : BelongsTo platform context domain
  level : levelOf platform context = .ok farblingLevel

/-- Wherever a call stands in a run, a context of a site answers it as the site does. -/
theorem exists_siteAnswer_of_runScripts {Index : Type} [DecidableEq Index]
    {renderer : Renderer} {contexts : Index → LiveContext}
    {ranges : Index → FarbleKey → Int × Int} {calls : List (Index × ScriptCall)}
    {answers : List Answer} (ranged : ∀ call ∈ calls, Ranged (ranges call.1) call.2)
    (done : runScripts renderer contexts calls = .ok answers) {place : Nat} {index : Index}
    {call : ScriptCall} (asked : calls[place]? = some (index, call)) {domain : List UInt8}
    {farblingLevel : WhaleFarblingLevel}
    (site : OfSite renderer.toFarblingPlatform domain farblingLevel (contexts index).context) :
    ∃ answer, answers[place]? = some answer ∧
      siteAnswer renderer domain farblingLevel call = .ok answer := by
  rw [runScripts_asFresh renderer contexts ranges calls ranged] at done
  obtain ⟨answer, given, fresh⟩ := getElem?_of_mapM done asked
  rw [freshAnswer_of_site site.belongs site.level] at fresh
  exact ⟨answer, given, fresh⟩

namespace ReferenceFarbling

/-- A worker of `https://example.com`, at the level of its page. -/
def workerContext : ExecutionContext :=
  { kind := .workerGlobalScope (some { whaleFarblingLevel := .balanced })
    securityOrigin := some
      { protocol := "https".toList, host := some "example.com".toList, isOpaque := false } }

theorem balancedContext_ofSite : OfSite platform exampleDomain .balanced balancedContext :=
  { belongs :=
      { derives := ⟨_, _, rfl, rfl, rfl, by decide, by decide⟩
        nonempty := by decide }
    level := by decide }

end ReferenceFarbling

section Hidden

variable {renderer other : Renderer} {domain : List UInt8}

end Hidden

namespace ReferenceFarbling

/-- The worker under the strictest level. -/
def strictContext : ExecutionContext :=
  { workerContext with kind := .workerGlobalScope (some { whaleFarblingLevel := .maximum }) }

theorem strictContext_ofSite : OfSite platform exampleDomain .maximum strictContext :=
  { belongs :=
      { derives := ⟨_, _, rfl, rfl, rfl, by decide, by decide⟩
        nonempty := by decide }
    level := by decide }

end ReferenceFarbling

end Whale.Farbling
