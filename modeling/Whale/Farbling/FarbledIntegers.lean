/-
Sequences of `FarbledInteger` calls.

The table of drawn integers is a memo table: the offset of a key is drawn under the
range of its first call, and later calls add the same offset whatever their range.
A draw depends on the domain key, the key and the range alone.
-/
import Whale.Farbling.Protection
import Whale.Foundation.Memo

set_option autoImplicit false

namespace Whale.Farbling

open Whale.Foundation
open WhaleSessionCache

structure IntegerCall where
  key : FarbleKey
  spoofValue : Int
  minRandomOffset : Int
  maxRandomOffset : Int
  deriving DecidableEq, Repr

namespace WhaleSessionCache

/-- The results of the calls, and the cache after them. -/
def farbledIntegersRun (platform : FarblingPlatform) (self : WhaleSessionCache) :
    List IntegerCall → Op (List Int × WhaleSessionCache)
  | [] => pure ([], self)
  | call :: rest => do
      let (result, next) ← self.farbledInteger platform call.key call.spoofValue
        call.minRandomOffset call.maxRandomOffset
      let (results, final) ← farbledIntegersRun platform next rest
      pure (result :: results, final)

end WhaleSessionCache

/-! ### One draw -/

theorem checkedInt_of_fits {value : Int} (lower : -2147483648 ≤ value)
    (upper : value ≤ 2147483647) : checkedInt value = .ok value :=
  if_pos ⟨lower, upper⟩

theorem checkedInt_eq_ok_iff {value result : Int} :
    checkedInt value = .ok result ↔
      result = value ∧ -2147483648 ≤ value ∧ value ≤ 2147483647 := by
  unfold checkedInt
  by_cases fits : -2147483648 ≤ value ∧ value ≤ 2147483647
  · rw [if_pos fits, Except.ok.injEq, and_iff_left fits]
    exact eq_comm
  · rw [if_neg fits]
    exact iff_of_false (fun impossible => by cases impossible) (fun both => fits both.2)

theorem toNat_ofInt (value : Int) :
    ((UInt64.ofInt value).toNat : Int) = value % 18446744073709551616 := by
  have nonneg := Int.emod_nonneg value (show (18446744073709551616 : Int) ≠ 0 by omega)
  have small := Int.emod_lt_of_pos value (show (0 : Int) < 18446744073709551616 by omega)
  change (((value % 18446744073709551616).toNat % 18446744073709551616 : Nat) : Int) = _
  omega

/-- The unsigned sum of a draw, before the checked cast. -/
theorem toNat_farbledOffset (draw : UInt64) {span minRandomOffset : Int} (positive : 0 < span)
    (small : span ≤ 2147483647) :
    ((draw % UInt64.ofInt span + UInt64.ofInt minRandomOffset).toNat : Int) =
      (draw.toNat % span + minRandomOffset) % 18446744073709551616 := by
  have spanWord := toNat_ofInt span
  rw [Int.emod_eq_of_lt (by omega) (by omega)] at spanWord
  rw [UInt64.toNat_add, UInt64.toNat_mod, Int.natCast_emod, Int.natCast_add,
    Int.natCast_emod, spanWord, toNat_ofInt]
  exact Int.add_emod_emod ..

/-- A draw under a range that fits ends normally unless the offset is negative: the
unsigned sum then wraps around and fails the checked cast. -/
theorem newFarbledInteger_eq (draw : UInt64) {minRandomOffset maxRandomOffset : Int}
    (ordered : minRandomOffset ≤ maxRandomOffset) (lower : -2147483648 ≤ minRandomOffset)
    (upper : maxRandomOffset < 2147483647)
    (spanFits : 1 + maxRandomOffset - minRandomOffset ≤ 2147483647) :
    let offset := draw.toNat % (1 + maxRandomOffset - minRandomOffset) + minRandomOffset
    newFarbledInteger draw minRandomOffset maxRandomOffset =
      if 0 ≤ offset then .ok offset else .error .checkFailed := by
  intro offset
  have upperChecked := checkedInt_of_fits (show -2147483648 ≤ 1 + maxRandomOffset by omega)
    (show 1 + maxRandomOffset ≤ 2147483647 by omega)
  have spanChecked := checkedInt_of_fits
    (show -2147483648 ≤ 1 + maxRandomOffset - minRandomOffset by omega) spanFits
  unfold newFarbledInteger
  rw [upperChecked]
  change (checkedInt (1 + maxRandomOffset - minRandomOffset) >>= _) = _
  rw [spanChecked]
  have positive : 0 < 1 + maxRandomOffset - minRandomOffset := by omega
  have residueNonneg := Int.emod_nonneg (draw.toNat : Int) (Int.ne_of_gt positive)
  have residueSmall := Int.emod_lt_of_pos (draw.toNat : Int) positive
  have summed := @toNat_farbledOffset draw _ minRandomOffset positive spanFits
  have spanWord := toNat_ofInt (1 + maxRandomOffset - minRandomOffset)
  have spanNonzero : UInt64.ofInt (1 + maxRandomOffset - minRandomOffset) ≠ 0 := by
    intro zero
    rw [zero] at spanWord
    change (0 : Int) = _ at spanWord
    omega
  refine (if_neg spanNonzero).trans ?_
  by_cases nonneg : 0 ≤ offset
  · have kept : offset % 18446744073709551616 = offset :=
      Int.emod_eq_of_lt nonneg (by omega)
    rw [if_pos nonneg, if_pos (by omega), summed]
    exact congrArg Except.ok kept
  · rw [if_neg nonneg, if_neg (by omega)]

theorem newFarbledInteger_of_nonneg (draw : UInt64) {minRandomOffset maxRandomOffset : Int}
    (nonneg : 0 ≤ minRandomOffset) (ordered : minRandomOffset ≤ maxRandomOffset)
    (upper : maxRandomOffset < 2147483647) :
    newFarbledInteger draw minRandomOffset maxRandomOffset =
      .ok (draw.toNat % (1 + maxRandomOffset - minRandomOffset) + minRandomOffset) := by
  have residueNonneg := Int.emod_nonneg (draw.toNat : Int)
    (show 1 + maxRandomOffset - minRandomOffset ≠ 0 by omega)
  have drawn := newFarbledInteger_eq draw ordered (by omega) upper (by omega)
  exact drawn.trans (if_pos (by omega))

/-! ### The table as a memo table -/

/-- The offset that a call draws if its key is new. -/
def drawnOffset (platform : FarblingPlatform) (domainKey : Digest) (call : IntegerCall) :
    Except Fault Int :=
  newFarbledInteger (platform.randenEngine (firstWord domainKey ^^^ call.key.toUInt64) 0)
    call.minRandomOffset call.maxRandomOffset

def integerMemo (platform : FarblingPlatform) (domainKey : Digest) :
    Memo IntegerCall FarbleKey Int Int Fault :=
  { key := IntegerCall.key
    draw := drawnOffset platform domainKey
    use := fun call offset => checkedInt (offset + call.spoofValue) }

theorem farbledInteger_result (platform : FarblingPlatform) (self : WhaleSessionCache)
    (call : IntegerCall) :
    (self.farbledInteger platform call.key call.spoofValue call.minRandomOffset
        call.maxRandomOffset).result =
      (integerMemo platform self.domainKey).remember self.farbledIntegers call >>= fun recalled =>
        checkedInt (recalled.1 + call.spoofValue) >>= fun result =>
          .ok (result, { self with farbledIntegers := recalled.2 }) := by
  let memo := integerMemo platform self.domainKey
  unfold farbledInteger
  cases found : self.farbledIntegers.lookup call.key with
  | some value =>
      rw [Memo.remember_of_some memo found]
      dsimp only
      rw [Traced.result_bind]
      rfl
  | none =>
      rw [Memo.remember_of_none memo found]
      dsimp only
      unfold makePseudoRandomGenerator
      simp only [Traced.result_bind]
      change drawnOffset platform self.domainKey call >>= _ =
        (drawnOffset platform self.domainKey call).map _ >>= _
      cases drawnOffset platform self.domainKey call with
      | error reason => rfl
      | ok value => rfl

/-- The results of a run are those of the memo table, up to the first fault. -/
theorem farbledIntegersRun_result (platform : FarblingPlatform) (calls : List IntegerCall)
    (self : WhaleSessionCache) :
    (self.farbledIntegersRun platform calls).result.map Prod.fst =
      (integerMemo platform self.domainKey).run self.farbledIntegers calls := by
  induction calls generalizing self with
  | nil => rfl
  | cons call rest ih =>
      unfold farbledIntegersRun Memo.run
      rw [Traced.result_bind, farbledInteger_result]
      cases (integerMemo platform self.domainKey).remember self.farbledIntegers call with
      | error reason => rfl
      | ok recalled =>
          obtain ⟨offset, table⟩ := recalled
          have later := ih { self with farbledIntegers := table }
          change (Except.map Prod.fst (checkedInt (offset + call.spoofValue) >>= _ >>= _)) =
            checkedInt (offset + call.spoofValue) >>= fun result =>
              (integerMemo platform self.domainKey).run table rest >>= fun results =>
                pure (result :: results)
          rw [← later]
          cases checkedInt (offset + call.spoofValue) with
          | error reason => rfl
          | ok result =>
              change Except.map Prod.fst (Traced.result (_ >>= _)) = _
              rw [Traced.result_bind]
              cases (farbledIntegersRun platform { self with farbledIntegers := table }
                rest).result with
              | error reason => rfl
              | ok pair => rfl

/-- A run that returns has gone through every call. -/
theorem exists_farbledIntegersRun {platform : FarblingPlatform} {self : WhaleSessionCache}
    {calls : List IntegerCall} {results : List Int}
    (done : (integerMemo platform self.domainKey).run self.farbledIntegers calls =
      .ok results) :
    ∃ final, (self.farbledIntegersRun platform calls).result = .ok (results, final) := by
  rw [← farbledIntegersRun_result] at done
  cases ran : (self.farbledIntegersRun platform calls).result with
  | error reason =>
      rw [ran] at done
      cases done
  | ok pair =>
      rw [ran] at done
      cases done
      exact ⟨pair.2, rfl⟩

/-! ### Bounds on the results -/

/-- The call that draws the offset of the key of `call`, if the key is new. -/
def firstCall (calls : List IntegerCall) (call : IntegerCall) : IntegerCall :=
  (calls.find? fun other => decide (other.key = call.key)).getD call

/-- The least and the greatest offset that the key of `call` can have in a run. -/
def offsetBounds (self : WhaleSessionCache) (calls : List IntegerCall) (call : IntegerCall) :
    Int × Int :=
  match self.farbledIntegers.lookup call.key with
  | some offset => (offset, offset)
  | none => ((firstCall calls call).minRandomOffset, (firstCall calls call).maxRandomOffset)

/-- A range of which any draw lies in it. -/
structure Drawable (call : IntegerCall) : Prop where
  nonneg : 0 ≤ call.minRandomOffset
  ordered : call.minRandomOffset ≤ call.maxRandomOffset
  spanFits : 1 + call.maxRandomOffset ≤ 2147483647

/-- Every sum of the value of `call` and an offset between the bounds is an `int`. -/
structure SumsFit (call : IntegerCall) (bounds : Int × Int) : Prop where
  lower : -2147483648 ≤ call.spoofValue + bounds.1
  upper : call.spoofValue + bounds.2 ≤ 2147483647

structure ResultBetween (call : IntegerCall) (bounds : Int × Int) (result : Int) : Prop where
  lower : call.spoofValue + bounds.1 ≤ result
  upper : result ≤ call.spoofValue + bounds.2

theorem drawnOffset_between (platform : FarblingPlatform) (domainKey : Digest)
    {call : IntegerCall} (drawable : Drawable call) :
    ∃ offset, drawnOffset platform domainKey call = .ok offset ∧
      call.minRandomOffset ≤ offset ∧ offset ≤ call.maxRandomOffset := by
  obtain ⟨nonneg, ordered, spanFits⟩ := drawable
  let draw := platform.randenEngine (firstWord domainKey ^^^ call.key.toUInt64) 0
  have positive : 0 < 1 + call.maxRandomOffset - call.minRandomOffset := by omega
  have residueNonneg := Int.emod_nonneg (draw.toNat : Int) (Int.ne_of_gt positive)
  have residueSmall := Int.emod_lt_of_pos (draw.toNat : Int) positive
  have drawn := newFarbledInteger_of_nonneg draw nonneg ordered (by omega)
  exact ⟨_, drawn, by omega, by omega⟩

theorem valueFor_between (platform : FarblingPlatform) (self : WhaleSessionCache)
    (calls : List IntegerCall) (call : IntegerCall)
    (drawable : self.farbledIntegers.lookup call.key = none → Drawable (firstCall calls call)) :
    ∃ offset,
      (integerMemo platform self.domainKey).valueFor self.farbledIntegers calls call =
        .ok offset ∧
      (offsetBounds self calls call).1 ≤ offset ∧ offset ≤ (offsetBounds self calls call).2 := by
  unfold offsetBounds
  cases found : self.farbledIntegers.lookup call.key with
  | some offset =>
      refine ⟨offset, ?_, Int.le_refl offset, Int.le_refl offset⟩
      exact Memo.valueFor_of_some _ found calls
  | none =>
      obtain ⟨offset, drawn, above, below⟩ :=
        drawnOffset_between platform self.domainKey (drawable found)
      refine ⟨offset, ?_, above, below⟩
      exact (Memo.valueFor_of_none _ found calls).trans drawn

/-- The bounds of a result are those of the call that drew the offset of its key. -/
theorem farbledIntegersRun_between (platform : FarblingPlatform) (self : WhaleSessionCache)
    (calls : List IntegerCall)
    (drawable : ∀ call ∈ calls, self.farbledIntegers.lookup call.key = none →
      Drawable (firstCall calls call))
    (sumsFit : ∀ call ∈ calls, SumsFit call (offsetBounds self calls call)) :
    ∃ results final,
      (self.farbledIntegersRun platform calls).result = .ok (results, final) ∧
        List.Forall₂ (fun call => ResultBetween call (offsetBounds self calls call))
          calls results := by
  have answers : ∀ call ∈ calls, ∃ result,
      ((integerMemo platform self.domainKey).valueFor self.farbledIntegers calls call >>=
        (integerMemo platform self.domainKey).use call) = .ok result ∧
      ResultBetween call (offsetBounds self calls call) result := by
    intro call member
    obtain ⟨offset, given, above, below⟩ :=
      valueFor_between platform self calls call (drawable call member)
    obtain ⟨lower, upper⟩ := sumsFit call member
    refine ⟨offset + call.spoofValue, ?_, { lower := by omega, upper := by omega }⟩
    rw [given]
    exact checkedInt_of_fits (by omega) (by omega)
  obtain ⟨results, visited, between⟩ := exists_mapM_of_ok calls answers
  rw [← Memo.run_eq_mapM] at visited
  obtain ⟨final, done⟩ := exists_farbledIntegersRun visited
  exact ⟨results, final, done, between⟩

namespace ReferenceFarbling

def pointerCall (spoofValue minRandomOffset maxRandomOffset : Int) : IntegerCall :=
  { key := .kPointerScreenX
    spoofValue := spoofValue
    minRandomOffset := minRandomOffset
    maxRandomOffset := maxRandomOffset }

def windowCall (spoofValue : Int) : IntegerCall :=
  { key := .kWindowInnerWidth
    spoofValue := spoofValue
    minRandomOffset := 3
    maxRandomOffset := 5 }

def pointerRanges : FarbleKey → Int × Int
  | .kPointerScreenX => (0, 8)
  | _ => (3, 5)

end ReferenceFarbling

open ReferenceFarbling in
theorem farbledIntegersRun_between_twoRanges :
    let calls := [pointerCall 100 0 8, pointerCall 50 20 30]
    ∃ results final,
      ((unset exampleKeys).farbledIntegersRun platform calls).result =
          .ok (results, final) ∧
        List.Forall₂ (fun call => ResultBetween call (offsetBounds (unset exampleKeys) calls call))
          calls results := by
  apply farbledIntegersRun_between
  · intro call member _new
    have first : firstCall [pointerCall 100 0 8, pointerCall 50 20 30] call =
        pointerCall 100 0 8 := by
      simp only [List.mem_cons, List.not_mem_nil, or_false] at member
      rcases member with rfl | rfl <;> rfl
    rw [first]
    exact { nonneg := by decide, ordered := by decide, spanFits := by decide }
  · intro call member
    simp only [List.mem_cons, List.not_mem_nil, or_false] at member
    rcases member with rfl | rfl <;> exact { lower := by decide, upper := by decide }

open ReferenceFarbling in
/-- The first run is stopped by the checked cast, in the second the second result is
below its own range, and in the third `1 + max_random_offset` overflows. -/
theorem farbledIntegersRun_outside :
    ((unset exampleKeys).farbledIntegersRun platform [pointerCall 0 (-1) 1]).result.map
        Prod.fst = .error .checkFailed ∧
      ((unset exampleKeys).farbledIntegersRun platform
          [pointerCall 0 0 8, pointerCall 0 5 8]).result.map Prod.fst = .ok [0, 0] ∧
      ((unset exampleKeys).farbledIntegersRun platform [pointerCall 0 1 2147483647]).result.map
        Prod.fst = .error .signedOverflow := by
  decide +kernel

/-! ### Two runs -/

/-- The offset of a key that is always used with the same range. -/
def offsetOf (platform : FarblingPlatform) (domainKey : Digest)
    (ranges : FarbleKey → Int × Int) (key : FarbleKey) : Int :=
  match drawnOffset platform domainKey
      { key := key, spoofValue := 0
        minRandomOffset := (ranges key).1, maxRandomOffset := (ranges key).2 } with
  | .ok offset => offset
  | .error _ => 0

/-- The range of every call is that of its key. -/
def UsesRanges (ranges : FarbleKey → Int × Int) (calls : List IntegerCall) : Prop :=
  ∀ call ∈ calls, (call.minRandomOffset, call.maxRandomOffset) = ranges call.key

theorem drawnOffset_firstCall (platform : FarblingPlatform) (domainKey : Digest)
    {ranges : FarbleKey → Int × Int} {calls : List IntegerCall}
    (ranged : UsesRanges ranges calls) {call : IntegerCall} (member : call ∈ calls)
    {offset : Int} (drawn : drawnOffset platform domainKey (firstCall calls call) = .ok offset) :
    offset = offsetOf platform domainKey ranges call.key := by
  have sameKey : (firstCall calls call).key = call.key :=
    Memo.key_firstUse (integerMemo platform domainKey) calls call
  have firstRanged := ranged (firstCall calls call)
    (Memo.firstUse_mem (integerMemo platform domainKey) member)
  unfold offsetOf
  rw [← sameKey, ← firstRanged]
  unfold drawnOffset at drawn ⊢
  dsimp only
  rw [drawn]

theorem results_of_farbledIntegersRun {platform : FarblingPlatform} {self : WhaleSessionCache}
    (empty : self.farbledIntegers = []) {ranges : FarbleKey → Int × Int}
    {calls : List IntegerCall} (ranged : UsesRanges ranges calls) {results : List Int}
    {final : WhaleSessionCache}
    (done : (self.farbledIntegersRun platform calls).result = .ok (results, final)) :
    results = calls.map fun call =>
      offsetOf platform self.domainKey ranges call.key + call.spoofValue := by
  have visited := farbledIntegersRun_result platform calls self
  rw [done, Memo.run_eq_mapM] at visited
  apply eq_map_of_mapM calls ?_ visited.symm
  intro call member result answered
  rw [Memo.valueFor_of_none _ (by rw [empty]; rfl) calls] at answered
  change drawnOffset platform self.domainKey (firstCall calls call) >>= _ = _ at answered
  cases drawn : drawnOffset platform self.domainKey (firstCall calls call) with
  | error reason =>
      rw [drawn] at answered
      cases answered
  | ok offset =>
      rw [drawn] at answered
      rw [(checkedInt_eq_ok_iff.mp answered).1,
        drawnOffset_firstCall platform self.domainKey ranged member drawn]

/-- Two caches of one domain key add the same offset to the values of a key, in any
order of calls. -/
theorem farbledIntegersRun_stable (platform : FarblingPlatform)
    {firstMemory secondMemory : KeyMemory} {firstContext secondContext : ExecutionContext}
    {first second firstFinal secondFinal : WhaleSessionCache}
    {firstCalls secondCalls : List IntegerCall} {firstResults secondResults : List Int}
    (ranges : FarbleKey → Int × Int)
    (firstBuilt : (new platform firstMemory firstContext).result = .ok first)
    (secondBuilt : (new platform secondMemory secondContext).result = .ok second)
    (sameDomainKey : first.domainKey = second.domainKey)
    (firstRanged : UsesRanges ranges firstCalls) (secondRanged : UsesRanges ranges secondCalls)
    (firstDone : (first.farbledIntegersRun platform firstCalls).result =
      .ok (firstResults, firstFinal))
    (secondDone : (second.farbledIntegersRun platform secondCalls).result =
      .ok (secondResults, secondFinal)) :
    ∃ offset : FarbleKey → Int,
      firstResults = firstCalls.map (fun call => offset call.key + call.spoofValue) ∧
        secondResults = secondCalls.map (fun call => offset call.key + call.spoofValue) := by
  have firstOffsets :=
    results_of_farbledIntegersRun (farbledIntegers_new firstBuilt) firstRanged firstDone
  have secondOffsets :=
    results_of_farbledIntegersRun (farbledIntegers_new secondBuilt) secondRanged secondDone
  rw [← sameDomainKey] at secondOffsets
  exact ⟨_, firstOffsets, secondOffsets⟩

open ReferenceFarbling in
theorem farbledIntegersRun_stable_reordered :
    ∃ offset : FarbleKey → Int,
      [7, 103, 9] = [pointerCall 7 0 8, windowCall 100, pointerCall 9 0 8].map
          (fun call => offset call.key + call.spoofValue) ∧
        [43, 1] = [windowCall 40, pointerCall 1 0 8].map
          (fun call => offset call.key + call.spoofValue) := by
  have built : (new platform freshMemory balancedContext).result = .ok balancedCache := by
    decide +kernel
  have firstDone :
      (balancedCache.farbledIntegersRun platform
          [pointerCall 7 0 8, windowCall 100, pointerCall 9 0 8]).result =
        .ok ([7, 103, 9],
          { balancedCache with
            farbledIntegers := [(.kWindowInnerWidth, 3), (.kPointerScreenX, 0)] }) := by
    decide +kernel
  have secondDone :
      (balancedCache.farbledIntegersRun platform [windowCall 40, pointerCall 1 0 8]).result =
        .ok ([43, 1],
          { balancedCache with
            farbledIntegers := [(.kPointerScreenX, 0), (.kWindowInnerWidth, 3)] }) := by
    decide +kernel
  exact farbledIntegersRun_stable platform pointerRanges built built rfl
    (by unfold UsesRanges; decide) (by unfold UsesRanges; decide) firstDone secondDone

end Whale.Farbling
