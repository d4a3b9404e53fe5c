/-
The answers that come from one draw of the generator.

The processors, the memory and the spaces behind the user agent are all made from the
first draw for the site.  They tell its remainders, and remainders are not independent
where their moduli have a factor in common.
-/
import Whale.Farbling.AnswerRanges
import Whale.Foundation.Residues

set_option autoImplicit false

namespace Whale.Farbling

open Whale.Foundation
open Whale.Url (Text)
open WhaleSessionCache

/-- The renderer with another generator. -/
def Renderer.drawing (renderer : Renderer) (randenEngine : UInt64 → FarblingPRNG) : Renderer :=
  { renderer with randenEngine := randenEngine }

theorem OfSite.drawing {renderer : Renderer} {domain : List UInt8}
    {farblingLevel : WhaleFarblingLevel} {context : ExecutionContext}
    (site : OfSite renderer.toFarblingPlatform domain farblingLevel context)
    (randenEngine : UInt64 → FarblingPRNG) :
    OfSite (renderer.drawing randenEngine).toFarblingPlatform domain farblingLevel context :=
  { belongs :=
      { derives := site.belongs.derives
        nonempty := site.belongs.nonempty }
    level := site.level }

/-- The greatest index of the memory that may be told. -/
def Renderer.memoryChoices (renderer : Renderer) : Nat :=
  (trueIndex renderer.approximatedDeviceMemory).toNat

/-- What the draw makes the three answers. -/
def drawnAnswers (renderer : Renderer) (realUserAgent : Text) (draw : UInt64) : List Answer :=
  [.processors (2 + draw % 7).toUInt32,
    .memory (validValues.getD (1 + draw.toNat % renderer.memoryChoices) 0),
    .text (realUserAgent ++ List.replicate (draw.toNat % 5) ' ')]

theorem processors_eq_iff (draw other : UInt64) :
    (2 + draw % 7).toUInt32 = (2 + other % 7).toUInt32 ↔
      draw.toNat ≡ other.toNat [MOD 7] := by
  have number : ∀ word : UInt64, (2 + word % 7).toUInt32.toNat = 2 + word.toNat % 7 := by
    intro word
    change (2 + word.toNat % 7) % 2 ^ 64 % 2 ^ 32 = _
    omega
  rw [← UInt32.toNat_inj, number, number, Nat.add_left_cancel_iff]
  rfl

theorem memory_eq_iff {choices : Nat} (positive : 0 < choices) (listed : choices ≤ 5)
    (draw other : Nat) :
    validValues.getD (1 + draw % choices) 0 = validValues.getD (1 + other % choices) 0 ↔
      draw ≡ other [MOD choices] := by
  have distinct : validValues.Nodup := by decide +kernel
  have inside : ∀ word : Nat, 1 + word % choices < validValues.length := by
    intro word
    have below := Nat.mod_lt word positive
    change 1 + word % choices < 6
    omega
  rw [List.getD_eq_getElem _ _ (inside draw), List.getD_eq_getElem _ _ (inside other),
    distinct.getElem_inj_iff, Nat.add_left_cancel_iff]
  rfl

theorem spaces_eq_iff (realUserAgent : Text) (draw other : Nat) :
    realUserAgent ++ List.replicate (draw % 5) ' ' =
        realUserAgent ++ List.replicate (other % 5) ' ' ↔
      draw ≡ other [MOD 5] := by
  rw [List.append_cancel_left_eq, List.replicate_inj]
  constructor
  · rintro ⟨same, _blank⟩
    exact same
  · intro same
    exact ⟨same, Or.inr rfl⟩

theorem drawnAnswers_eq_iff {renderer : Renderer} (positive : 0 < renderer.memoryChoices)
    (listed : renderer.memoryChoices ≤ 5) (realUserAgent : Text) (draw other : UInt64) :
    drawnAnswers renderer realUserAgent draw = drawnAnswers renderer realUserAgent other ↔
      draw.toNat ≡ other.toNat [MOD Nat.lcm 7 (Nat.lcm renderer.memoryChoices 5)] := by
  unfold drawnAnswers
  rw [modEq_lcm_iff, modEq_lcm_iff, ← processors_eq_iff, ← memory_eq_iff positive listed,
    ← spaces_eq_iff realUserAgent]
  simp only [List.cons.injEq, Answer.processors.injEq, Answer.memory.injEq, Answer.text.injEq,
    and_true]

/-! ### Three calls of a run -/

theorem toldMemory_of_draw {renderer : Renderer} {cache : WhaleSessionCache}
    (protecting : cache.farblingLevel ≠ .off) (several : 1 < renderer.memoryChoices) :
    toldMemory renderer cache =
      validValues.getD (1 + (siteDraw renderer cache 0).toNat % renderer.memoryChoices) 0 := by
  have listed : renderer.memoryChoices ≤ 5 := trueIndex_le _
  have few : ¬trueIndex renderer.approximatedDeviceMemory ≤ 1 := by
    rw [UInt64.le_iff_toNat_le]
    exact Nat.not_le_of_lt several
  unfold toldMemory
  dsimp only
  rw [if_neg protecting, if_neg few]
  congr 1
  let greatest := trueIndex renderer.approximatedDeviceMemory
  have below : (siteDraw renderer cache 0).toNat % greatest.toNat < greatest.toNat :=
    Nat.mod_lt _ (Nat.lt_of_succ_lt several)
  have whole : (greatest + 1 - 1).toNat = greatest.toNat := by
    rw [UInt64.add_sub_cancel]
  change (1 + (siteDraw renderer cache 0 % (greatest + 1 - 1)).toNat) % 2 ^ 64 = _
  rw [UInt64.toNat_mod, whole]
  exact Nat.mod_eq_of_lt (by change greatest.toNat ≤ 5 at listed; omega)

theorem siteAnswer_userAgent (renderer : Renderer) (domain : List UInt8)
    (farblingLevel : WhaleFarblingLevel) (realUserAgent : Text) :
    siteAnswer renderer domain farblingLevel
        (.onContext (.member (.farbledUserAgent realUserAgent))) =
      .ok (.text (realUserAgent ++ List.replicate (siteDraw renderer
        (siteCache renderer.toFarblingPlatform domain farblingLevel) 0 % 5).toNat ' ')) :=
  rfl

/-- The calls of the contexts of a site, wherever they stand in a run: for the number of
processors, for the memory and for the user agent. -/
structure AsksThree {Index : Type} (calls : List (Index × ScriptCall)) (sites : Index → Prop)
    (realUserAgent : Text) (places : Nat × Nat × Nat) : Prop where
  processors : ∃ index hardwareConcurrency, sites index ∧ calls[places.1]? =
    some (index, .onContext (.applyWhaleHardwareConcurrencyOverride hardwareConcurrency))
  memory : ∃ index, sites index ∧
    calls[places.2.1]? = some (index, .onContext .farbleDeviceMemory)
  userAgent : ∃ index, sites index ∧
    calls[places.2.2]? = some (index, .onContext (.member (.farbledUserAgent realUserAgent)))

def toldAt (answers : List Answer) (places : Nat × Nat × Nat) : List (Option Answer) :=
  [answers[places.1]?, answers[places.2.1]?, answers[places.2.2]?]

/-- A call of a site is answered by the site, wherever it stands. -/
theorem runScripts_getElem? {Index : Type} [DecidableEq Index] {renderer : Renderer}
    {contexts : Index → LiveContext} {ranges : Index → FarbleKey → Int × Int}
    {calls : List (Index × ScriptCall)} {answers : List Answer}
    (ranged : ∀ call ∈ calls, Ranged (ranges call.1) call.2)
    (done : runScripts renderer contexts calls = .ok answers) {place : Nat} {index : Index}
    {call : ScriptCall} (asked : calls[place]? = some (index, call)) {domain : List UInt8}
    {farblingLevel : WhaleFarblingLevel} {answer : Answer}
    (site : OfSite renderer.toFarblingPlatform domain farblingLevel (contexts index).context)
    (answered : siteAnswer renderer domain farblingLevel call = .ok answer) :
    answers[place]? = some answer := by
  obtain ⟨told, given, toldThere⟩ := exists_siteAnswer_of_runScripts ranged done asked site
  rw [answered] at toldThere
  cases toldThere
  exact given

section Told

variable {Index : Type} [DecidableEq Index] {renderer : Renderer}
  {contexts : Index → LiveContext} {ranges : Index → FarbleKey → Int × Int}
  {calls : List (Index × ScriptCall)} {domain : List UInt8} {realUserAgent : Text}
  {places : Nat × Nat × Nat}

def AtMaximum (renderer : Renderer) (contexts : Index → LiveContext) (domain : List UInt8)
    (index : Index) : Prop :=
  OfSite renderer.toFarblingPlatform domain .maximum (contexts index).context

theorem toldAt_of_runScripts (ranged : ∀ call ∈ calls, Ranged (ranges call.1) call.2)
    (asks : AsksThree calls (AtMaximum renderer contexts domain) realUserAgent places)
    (many : 2 < renderer.numberOfProcessors) (several : 1 < renderer.memoryChoices)
    {answers : List Answer} (done : runScripts renderer contexts calls = .ok answers) :
    toldAt answers places =
      (drawnAnswers renderer realUserAgent
        (siteDraw renderer (siteCache renderer.toFarblingPlatform domain .maximum) 0)).map
          some := by
  obtain ⟨first, hardwareConcurrency, firstSite, firstAsked⟩ := asks.processors
  obtain ⟨second, secondSite, secondAsked⟩ := asks.memory
  obtain ⟨third, thirdSite, thirdAsked⟩ := asks.userAgent
  have protecting : (siteCache renderer.toFarblingPlatform domain .maximum).farblingLevel ≠ .off :=
    fun off => by cases off
  have processors := runScripts_getElem? ranged done firstAsked firstSite
    (siteAnswer_processors_maximum many domain hardwareConcurrency)
  have memory := runScripts_getElem? ranged done secondAsked secondSite
    (siteAnswer_memory renderer domain .maximum)
  have userAgent := runScripts_getElem? ranged done thirdAsked thirdSite
    (siteAnswer_userAgent renderer domain .maximum realUserAgent)
  rw [toldMemory_of_draw protecting several] at memory
  unfold toldAt
  rw [processors, memory, userAgent]
  rfl

end Told

/-- Over all that the generator may draw, the three answers together take as many values
as the least common multiple of their choices, not as their product.  The calls are any of
a run, provided that no draw makes another call of it fail. -/
theorem threeAnswers_ncard {Index : Type} [DecidableEq Index] (renderer : Renderer)
    (contexts : Index → LiveContext) (ranges : Index → FarbleKey → Int × Int)
    (calls : List (Index × ScriptCall)) (domain : List UInt8) (realUserAgent : Text)
    (places : Nat × Nat × Nat)
    (ranged : ∀ call ∈ calls, Ranged (ranges call.1) call.2)
    (asks : AsksThree calls (AtMaximum renderer contexts domain) realUserAgent places)
    (many : 2 < renderer.numberOfProcessors) (several : 1 < renderer.memoryChoices)
    (ends : ∀ randenEngine, ∃ answers,
      runScripts (renderer.drawing randenEngine) contexts calls = .ok answers) :
    { told | ∃ randenEngine answers,
        runScripts (renderer.drawing randenEngine) contexts calls = .ok answers ∧
          told = toldAt answers places }.ncard =
      Nat.lcm 7 (Nat.lcm renderer.memoryChoices 5) := by
  have asked : ∀ randenEngine, AsksThree calls
      (AtMaximum (renderer.drawing randenEngine) contexts domain) realUserAgent places := by
    intro randenEngine
    obtain ⟨⟨first, concurrency, firstSite, firstAsked⟩, ⟨second, secondSite, secondAsked⟩,
      third, thirdSite, thirdAsked⟩ := asks
    exact
      { processors := ⟨first, concurrency, OfSite.drawing firstSite randenEngine, firstAsked⟩
        memory := ⟨second, OfSite.drawing secondSite randenEngine, secondAsked⟩
        userAgent := ⟨third, OfSite.drawing thirdSite randenEngine, thirdAsked⟩ }
  have told : { told | ∃ randenEngine answers,
      runScripts (renderer.drawing randenEngine) contexts calls = .ok answers ∧
        told = toldAt answers places } =
          Set.range fun draw => (drawnAnswers renderer realUserAgent draw).map some := by
    ext told
    constructor
    · rintro ⟨randenEngine, answers, done, rfl⟩
      exact ⟨_, (toldAt_of_runScripts ranged (asked randenEngine) many several done).symm⟩
    · rintro ⟨draw, rfl⟩
      let engine : UInt64 → FarblingPRNG := fun _seed _place => draw
      obtain ⟨answers, done⟩ := ends engine
      exact ⟨engine, answers, done,
        (toldAt_of_runScripts ranged (asked engine) many several done).symm⟩
  have listed : renderer.memoryChoices ≤ 5 := trueIndex_le _
  have choices : 0 < renderer.memoryChoices := Nat.lt_of_succ_lt several
  have positive : 0 < Nat.lcm 7 (Nat.lcm renderer.memoryChoices 5) :=
    Nat.lcm_pos (by decide) (Nat.lcm_pos choices (by decide))
  have small : Nat.lcm 7 (Nat.lcm renderer.memoryChoices 5) ≤ 7 * (5 * 5) :=
    (Nat.lcm_le_mul (by decide) (Nat.lcm_pos choices (by decide))).trans
      (Nat.mul_le_mul_left 7 ((Nat.lcm_le_mul choices (by decide)).trans
        (Nat.mul_le_mul_right 5 listed)))
  rw [told]
  apply ncard_range_of_modEq UInt64.toNat positive
  · intro index below
    refine ⟨UInt64.ofNat index, ?_⟩
    rw [UInt64.toNat_ofNat']
    exact Nat.mod_eq_of_lt (by omega)
  · intro draw other
    rw [List.map_inj_right fun _ _ same => Option.some.inj same]
    exact drawnAnswers_eq_iff choices listed realUserAgent draw other

namespace ReferenceFarbling

def strictContexts (_frame : Unit) : LiveContext :=
  { context := strictContext
    keyMemory := freshMemory }

/-- The three calls in another order, and a random string between them. -/
def strictScripts : List (Unit × ScriptCall) :=
  [((), .onContext (.member (.farbledUserAgent "Whale/3".toList))),
    ((), .onContext (.member (.generateRandomString [1] 2))),
    ((), .onContext (.applyWhaleHardwareConcurrencyOverride 16)),
    ((), .onContext .farbleDeviceMemory)]

theorem strictScripts_ranged : ∀ call ∈ strictScripts, Ranged pointerRanges call.2 := by
  intro call member
  simp only [strictScripts, List.mem_cons, List.not_mem_nil, or_false] at member
  rcases member with rfl | rfl | rfl | rfl <;> intro key range found <;> cases found

theorem strictScripts_end (randenEngine : UInt64 → FarblingPRNG) :
    ∃ answers, runScripts (renderer.drawing randenEngine) strictContexts strictScripts =
      .ok answers := by
  have site : OfSite (renderer.drawing randenEngine).toFarblingPlatform exampleDomain .maximum
      (strictContexts ()).context := strictContext_ofSite.drawing randenEngine
  have many : 2 < (renderer.drawing randenEngine).numberOfProcessors :=
    show 2 < renderer.numberOfProcessors by decide
  rw [runScripts_asFresh _ _ (fun _frame => pointerRanges) _ strictScripts_ranged]
  unfold strictScripts
  simp only [List.mapM_cons, List.mapM_nil, freshAnswer_of_site site.belongs site.level]
  rw [siteAnswer_processors_maximum many, siteAnswer_memory]
  exact ⟨_, rfl⟩

end ReferenceFarbling

open ReferenceFarbling in
/-- With eight gigabytes the memory and the spaces are one remainder: 35 values, not 175. -/
theorem threeAnswers_ncard_example :
    { told | ∃ randenEngine answers,
        runScripts (renderer.drawing randenEngine) strictContexts strictScripts = .ok answers ∧
          told = toldAt answers (2, 3, 0) }.ncard = 35 := by
  have total : Nat.lcm 7 (Nat.lcm renderer.memoryChoices 5) = 35 := by decide +kernel
  rw [← total]
  exact threeAnswers_ncard renderer strictContexts (fun _frame => pointerRanges) strictScripts
    exampleDomain "Whale/3".toList (2, 3, 0) strictScripts_ranged
    { processors := ⟨(), 16, strictContext_ofSite, rfl⟩
      memory := ⟨(), strictContext_ofSite, rfl⟩
      userAgent := ⟨(), strictContext_ofSite, rfl⟩ }
    (by decide) (by decide +kernel) strictScripts_end

end Whale.Farbling
