/-
The operations of `whale_audio_farbling_helper.cc` that the analyser nodes call.

Samples are rational numbers, as for the audio channels.  Each operation logs the
positions that it reads of its input.  `audio_utilities::LinearToDecibels` is a
parameter.
-/
import Whale.Farbling.AudioFarblingHelper
import Whale.Farbling.ExecutionContext
import Whale.Foundation.RingWindow
import Whale.Foundation.Traced
import Whale.Foundation.Truncation

set_option autoImplicit false

namespace Whale.Farbling

open Whale.Foundation

abbrev AudioOp := Traced Nat Fault

/-- A loop that writes what its body makes of each new word of the register. -/
def fillFromRegister {β : Type} (body : UInt64 → β) : UInt64 → Nat → List β
  | _, 0 => []
  | v, count + 1 => body (lfsrNext v) :: fillFromRegister body (lfsrNext v) count

def readAt (samples : List Rat) (position : Nat) : AudioOp Rat :=
  { accesses := [position]
    result :=
      match samples[position]? with
      | some sample => .ok sample
      | none => .error .outOfBounds }

/-- The index of the input buffer at step `i`, a `size_t` like the operands that the
other three are converted to. -/
def inputIndex (i : UInt64) (writeIndex fftSize inputBufferSize : UInt32) :
    Except Fault UInt64 :=
  if inputBufferSize.toUInt64 = 0 then .error .divisionByZero
  else
    .ok ((i + writeIndex.toUInt64 - fftSize.toUInt64 + inputBufferSize.toUInt64) %
      inputBufferSize.toUInt64)

def readInput (inputBuffer : List Rat) (writeIndex fftSize inputBufferSize : UInt32)
    (i : Nat) : AudioOp Rat := do
  let index ← Traced.ofExcept (inputIndex (UInt64.ofNat i) writeIndex fftSize inputBufferSize)
  readAt inputBuffer index.toNat

/-- The conditionals of the clipping and the conversion to `unsigned char`. -/
def clipToByte (scaledValue : Rat) : UInt8 :=
  let notNegative := if scaledValue < 0 then 0 else scaledValue
  let clipped := if notNegative > 255 then 255 else notNegative
  UInt8.ofNat (truncate clipped).toNat

namespace WhaleAudioFarblingHelper

def farbleFloatTimeDomainData (self : WhaleAudioFarblingHelper) (inputBuffer : List Rat)
    (len : UInt64) (writeIndex fftSize inputBufferSize : UInt32) : AudioOp (List Rat) :=
  if self.max then
    pure (fillFromRegister (fun v => (v.toNat / maxUInt64AsDouble) / 10) self.seed len.toNat)
  else
    Traced.fill
      (fun i => do
        let sample ← readInput inputBuffer writeIndex fftSize inputBufferSize i
        pure (self.fudgeFactor * sample))
      0 len.toNat

def farbleByteTimeDomainData (self : WhaleAudioFarblingHelper) (inputBuffer : List Rat)
    (len : UInt64) (writeIndex fftSize inputBufferSize : UInt32) : AudioOp (List UInt8) :=
  if self.max then
    pure (fillFromRegister
      (fun v =>
        let value : Rat := (v.toNat / maxUInt64AsDouble) / 10
        clipToByte (128 * (value + 1)))
      self.seed len.toNat)
  else
    Traced.fill
      (fun i => do
        let sample ← readInput inputBuffer writeIndex fftSize inputBufferSize i
        let value := self.fudgeFactor * sample
        pure (clipToByte (128 * (value + 1))))
      0 len.toNat

def farbleConvertToByteData (linearToDecibels : Rat → Rat) (self : WhaleAudioFarblingHelper)
    (source : List Rat) (len : UInt64) (minDecibels rangeScaleFactor : Rat) :
    AudioOp (List UInt8) :=
  if self.max then
    pure (fillFromRegister
      (fun v =>
        let linearValue : Rat := (v.toNat / maxUInt64AsDouble) / 10
        let dbMag := linearToDecibels linearValue
        clipToByte (255 * (dbMag - minDecibels) * rangeScaleFactor))
      self.seed len.toNat)
  else
    Traced.fill
      (fun i => do
        let sample ← readAt source i
        let linearValue := self.fudgeFactor * sample
        let dbMag := linearToDecibels linearValue
        pure (clipToByte (255 * (dbMag - minDecibels) * rangeScaleFactor)))
      0 len.toNat

def farbleConvertFloatToDb (linearToDecibels : Rat → Rat) (self : WhaleAudioFarblingHelper)
    (source : List Rat) (len : UInt64) : AudioOp (List Rat) :=
  if self.max then
    pure (fillFromRegister
      (fun v =>
        let linearValue : Rat := (v.toNat / maxUInt64AsDouble) / 10
        linearToDecibels linearValue)
      self.seed len.toNat)
  else
    Traced.fill
      (fun i => do
        let sample ← readAt source i
        let linearValue := self.fudgeFactor * sample
        pure (linearToDecibels linearValue))
      0 len.toNat

end WhaleAudioFarblingHelper

/-! ### The positions that are read -/

theorem readAt_of_lt {samples : List Rat} {position : Nat} (inside : position < samples.length) :
    readAt samples position =
      { accesses := [position], result := .ok (samples.getD position 0) } := by
  unfold readAt
  rw [List.getD_eq_getElem?_getD, List.getElem?_eq_getElem inside]
  rfl

/-- The unsigned operations may wrap, but not all the way to the remainder. -/
theorem inputIndex_eq {i : Nat} (writeIndex : UInt32) {fftSize inputBufferSize : UInt32}
    (inWindow : i < fftSize.toNat) (fits : fftSize.toNat ≤ inputBufferSize.toNat) :
    ∃ index, inputIndex (UInt64.ofNat i) writeIndex fftSize inputBufferSize = .ok index ∧
      index.toNat =
        windowPosition inputBufferSize.toNat writeIndex.toNat fftSize.toNat i := by
  have sizeBound := inputBufferSize.toNat_lt
  have writeBound := writeIndex.toNat_lt
  have nonzero : inputBufferSize.toUInt64 ≠ 0 := by
    intro zero
    have size := congrArg UInt64.toNat zero
    rw [UInt32.toNat_toUInt64] at size
    change inputBufferSize.toNat = 0 at size
    omega
  refine ⟨_, if_neg nonzero, ?_⟩
  rw [windowPosition_eq_add_mod fits, UInt64.toNat_mod, UInt64.toNat_add, UInt64.toNat_sub,
    UInt64.toNat_add, UInt64.toNat_ofNat', UInt32.toNat_toUInt64, UInt32.toNat_toUInt64,
    UInt32.toNat_toUInt64]
  congr 1
  omega

section

variable {inputBuffer : List Rat} (writeIndex : UInt32) {fftSize inputBufferSize : UInt32}

theorem readInput_eq {i : Nat} (inWindow : i < fftSize.toNat)
    (fits : fftSize.toNat ≤ inputBufferSize.toNat)
    (held : inputBufferSize.toNat ≤ inputBuffer.length) :
    readInput inputBuffer writeIndex fftSize inputBufferSize i =
      { accesses := [windowPosition inputBufferSize.toNat writeIndex.toNat fftSize.toNat i]
        result := .ok (inputBuffer.getD
          (windowPosition inputBufferSize.toNat writeIndex.toNat fftSize.toNat i) 0) } := by
  obtain ⟨index, indexed, position⟩ := inputIndex_eq writeIndex inWindow fits
  have positive : 0 < inputBufferSize.toNat := by omega
  have bounded := windowPosition_lt writeIndex.toNat fftSize.toNat i positive
  rw [← position] at bounded ⊢
  unfold readInput
  rw [indexed, Traced.ofExcept_ok_bind]
  exact readAt_of_lt (by omega)

/-- The loop of either time domain operation, whatever it makes of a sample. -/
theorem fill_readInput {β : Type} (image : Rat → β) {len : Nat} (inWindow : len ≤ fftSize.toNat)
    (fits : fftSize.toNat ≤ inputBufferSize.toNat)
    (held : inputBufferSize.toNat ≤ inputBuffer.length) :
    (Traced.fill
      (fun i => do
        let sample ← readInput inputBuffer writeIndex fftSize inputBufferSize i
        pure (image sample))
      0 len : AudioOp (List β)) =
      { accesses := (List.range len).map
          (windowPosition inputBufferSize.toNat writeIndex.toNat fftSize.toNat)
        result := .ok ((List.range len).map fun i => image (inputBuffer.getD
          (windowPosition inputBufferSize.toNat writeIndex.toNat fftSize.toNat i) 0)) } := by
  rw [List.range_eq_range', List.map_eq_flatMap]
  apply Traced.fill_of_ok
  intro i _after before
  rw [readInput_eq writeIndex (by omega) fits held]
  rfl

end

/-- Both time domain operations read the window of the last `fftSize` samples before
the write index, the oldest first. -/
theorem timeDomainData_readsWindow (self : WhaleAudioFarblingHelper)
    (notMax : self.max = false) (inputBuffer : List Rat) (len : UInt64)
    (writeIndex fftSize inputBufferSize : UInt32)
    (inWindow : len.toNat ≤ fftSize.toNat)
    (fits : fftSize.toNat ≤ inputBufferSize.toNat)
    (written : writeIndex.toNat < inputBufferSize.toNat)
    (held : inputBufferSize.toNat ≤ inputBuffer.length) :
    let position := windowPosition inputBufferSize.toNat writeIndex.toNat fftSize.toNat
    let positions := (List.range len.toNat).map position
    (∃ values, self.farbleFloatTimeDomainData inputBuffer len writeIndex fftSize
        inputBufferSize = { accesses := positions, result := .ok values }) ∧
      (∃ bytes, self.farbleByteTimeDomainData inputBuffer len writeIndex fftSize
        inputBufferSize = { accesses := positions, result := .ok bytes }) ∧
      (∀ i < len.toNat,
        (position i : Int) =
          ((writeIndex.toNat : Int) - fftSize.toNat + i) % inputBufferSize.toNat ∧
        position i < inputBufferSize.toNat ∧
        (position i + (fftSize.toNat - i)) % inputBufferSize.toNat = writeIndex.toNat) ∧
      positions.Nodup := by
  intro position positions
  have positive : 0 < inputBufferSize.toNat := by omega
  refine ⟨?_, ?_, ?_, ?_⟩
  · have loop := fill_readInput writeIndex (fun sample => self.fudgeFactor * sample) inWindow
      fits held
    exact ⟨_, (if_neg (by rw [notMax]; exact Bool.false_ne_true)).trans loop⟩
  · have loop := fill_readInput writeIndex
      (fun sample => clipToByte (128 * (self.fudgeFactor * sample + 1))) inWindow fits held
    exact ⟨_, (if_neg (by rw [notMax]; exact Bool.false_ne_true)).trans loop⟩
  · intro i before
    refine ⟨natCast_windowPosition positive, windowPosition_lt _ _ i positive, ?_⟩
    exact (windowPosition_add_mod positive (by omega)).trans (Nat.mod_eq_of_lt written)
  · exact windowPositions_nodup (by omega)

def balancedHelper : WhaleAudioFarblingHelper :=
  { fudgeFactor := 1, seed := 0, max := false }

/-- In a ring of five samples the window of three before place 2 starts at place 4. -/
theorem timeDomainData_readsWindow_wrapping :
    (∃ values, balancedHelper.farbleFloatTimeDomainData [0, 1, 2, 3, 4] 3 2 3 5 =
        { accesses := (List.range 3).map (windowPosition 5 2 3), result := .ok values }) ∧
      (∃ bytes, balancedHelper.farbleByteTimeDomainData [0, 1, 2, 3, 4] 3 2 3 5 =
        { accesses := (List.range 3).map (windowPosition 5 2 3), result := .ok bytes }) ∧
      (List.range 3).map (windowPosition 5 2 3) = [4, 0, 1] ∧
      ((List.range 3).map (windowPosition 5 2 3)).Nodup := by
  obtain ⟨floats, bytes, _each, distinct⟩ := timeDomainData_readsWindow balancedHelper rfl
    [0, 1, 2, 3, 4] 3 2 3 5 (by decide) (by decide) (by decide) (by decide)
  exact ⟨floats, bytes, by decide, distinct⟩

/-! ### Bytes and floats -/

theorem clipToByte_eq (scaledValue : Rat) : clipToByte scaledValue = clippedByte scaledValue := by
  unfold clipToByte
  by_cases negative : scaledValue < 0
  · rw [clippedByte_of_nonpos (le_of_lt negative)]
    simp only [if_pos negative]
    rfl
  · simp only [if_neg negative]
    by_cases large : scaledValue > 255
    · rw [clippedByte_of_large (le_of_lt large)]
      simp only [if_pos large]
      rfl
    · simp only [if_neg large]
      exact (clippedByte_of_between (not_lt.mp negative) (not_lt.mp large)).symm

theorem fillFromRegister_map {α β : Type} (image : α → β) (body : UInt64 → α) (v : UInt64)
    (count : Nat) :
    fillFromRegister (fun word => image (body word)) v count =
      (fillFromRegister body v count).map image := by
  induction count generalizing v with
  | zero => rfl
  | succ count ih =>
      unfold fillFromRegister
      rw [ih, List.map_cons]

/-- Of two operations with the same modes and loops, the one that changes each value
by `image` returns the changed values of the other. -/
theorem modes_map {α β : Type} (image : α → β) (max : Bool) (fromWord : UInt64 → α)
    (sampleAt : Nat → AudioOp Rat) (fromSample : Rat → α) (seed : UInt64) (count : Nat) :
    (if max then pure (fillFromRegister (fun word => image (fromWord word)) seed count)
      else
        Traced.fill
          (fun i => do
            let sample ← sampleAt i
            pure (image (fromSample sample)))
          0 count : AudioOp (List β)) =
      (if max then pure (fillFromRegister fromWord seed count)
        else
          Traced.fill
            (fun i => do
              let sample ← sampleAt i
              pure (fromSample sample))
            0 count : AudioOp (List α)).map (List.map image) := by
  cases max with
  | true =>
      rw [if_pos rfl, if_pos rfl, fillFromRegister_map]
      rfl
  | false =>
      rw [if_neg Bool.false_ne_true, if_neg Bool.false_ne_true, ← Traced.fill_map]
      congr 1
      funext i
      rw [Traced.map_bind]
      rfl

theorem length_fillFromRegister {β : Type} (body : UInt64 → β) (v : UInt64) (count : Nat) :
    (fillFromRegister body v count).length = count := by
  induction count generalizing v with
  | zero => rfl
  | succ count ih => rw [fillFromRegister, List.length_cons, ih]

section Modes

variable {α : Type} {max : Bool} {fromWord : UInt64 → α} {body : Nat → AudioOp α}
  {seed : UInt64} {count : Nat}

/-- What an operation returns, it returns for every index. -/
theorem modes_length {values : List α}
    (done : (if max then pure (fillFromRegister fromWord seed count)
      else Traced.fill body 0 count : AudioOp (List α)).result = .ok values) :
    values.length = count := by
  cases max with
  | true =>
      cases done
      exact length_fillFromRegister fromWord seed count
  | false => exact Traced.length_of_fill done

/-- The register never fails, and the samples fail where one of them does. -/
theorem modes_ok_iff :
    (∃ values, (if max then pure (fillFromRegister fromWord seed count)
      else Traced.fill body 0 count : AudioOp (List α)).result = .ok values) ↔
        max = true ∨ ∀ i < count, ∃ value, (body i).result = .ok value := by
  cases max with
  | true => exact iff_of_true ⟨_, rfl⟩ (Or.inl rfl)
  | false =>
      rw [if_neg Bool.false_ne_true, Traced.fill_ok_iff]
      simp

end Modes

theorem readAt_ok_iff {samples : List Rat} {position : Nat} :
    (∃ sample, (readAt samples position).result = .ok sample) ↔ position < samples.length := by
  unfold readAt
  by_cases inside : position < samples.length
  · rw [List.getElem?_eq_getElem inside]
    exact iff_of_true ⟨_, rfl⟩ inside
  · rw [List.getElem?_eq_none (Nat.le_of_not_lt inside)]
    exact iff_of_false (fun ⟨_, impossible⟩ => by cases impossible) inside

/-- Step `i` reads a sample: the buffer has a size, and it holds the index. -/
def ReadsSample (inputBuffer : List Rat) (writeIndex fftSize inputBufferSize : UInt32)
    (i : Nat) : Prop :=
  ∃ index, inputIndex (UInt64.ofNat i) writeIndex fftSize inputBufferSize = .ok index ∧
    index.toNat < inputBuffer.length

theorem readInput_ok_iff {inputBuffer : List Rat}
    {writeIndex fftSize inputBufferSize : UInt32} {i : Nat} :
    (∃ sample, (readInput inputBuffer writeIndex fftSize inputBufferSize i).result =
        .ok sample) ↔
      ReadsSample inputBuffer writeIndex fftSize inputBufferSize i := by
  unfold readInput ReadsSample
  cases inputIndex (UInt64.ofNat i) writeIndex fftSize inputBufferSize with
  | error reason =>
      exact iff_of_false (fun ⟨_, impossible⟩ => by cases impossible)
        fun ⟨_, impossible, _⟩ => by cases impossible
  | ok index =>
      rw [Traced.ofExcept_ok_bind, readAt_ok_iff]
      simp

theorem ok_bind_pure_iff {α β : Type} {first : AudioOp α} (image : α → β) :
    (∃ value, (first >>= fun sample => pure (image sample)).result = .ok value) ↔
      ∃ sample, first.result = .ok sample := by
  rw [Traced.result_bind_pure]
  cases first.result with
  | error reason =>
      exact iff_of_false (fun ⟨_, impossible⟩ => by cases impossible)
        fun ⟨_, impossible⟩ => by cases impossible
  | ok sample => exact iff_of_true ⟨_, rfl⟩ ⟨_, rfl⟩

/-- The views of the same data end alike, and where they end normally the byte at each
index below `len` is the image of the float there. -/
structure ViewsAgree (image : Rat → UInt8) (len : Nat) (bytes : AudioOp (List UInt8))
    (floats : AudioOp (List Rat)) : Prop where
  same : bytes = floats.map (List.map image)
  whole : ∀ values, floats.result = .ok values →
    values.length = len ∧ bytes.result = .ok (values.map image)

theorem viewsAgree_of_map {image : Rat → UInt8} {len : Nat} {bytes : AudioOp (List UInt8)}
    {floats : AudioOp (List Rat)} (same : bytes = floats.map (List.map image))
    (lengths : ∀ values, floats.result = .ok values → values.length = len) :
    ViewsAgree image len bytes floats := by
  refine ⟨same, fun values done => ⟨lengths values done, ?_⟩⟩
  rw [same, Traced.map, done]
  rfl

/-- What a page sees as a byte is a function of what it sees as a float, at every index.
Under `MAXIMUM` it always sees both, otherwise if and only if the samples are there. -/
theorem byteViews_eq_floatViews (linearToDecibels : Rat → Rat) (self : WhaleAudioFarblingHelper)
    (inputBuffer source : List Rat) (len : UInt64) (writeIndex fftSize inputBufferSize : UInt32)
    (minDecibels rangeScaleFactor : Rat) :
    let bytes :=
      self.farbleByteTimeDomainData inputBuffer len writeIndex fftSize inputBufferSize
    let floats :=
      self.farbleFloatTimeDomainData inputBuffer len writeIndex fftSize inputBufferSize
    let byteData :=
      self.farbleConvertToByteData linearToDecibels source len minDecibels rangeScaleFactor
    let decibels := self.farbleConvertFloatToDb linearToDecibels source len
    ViewsAgree (fun x => clippedByte (128 * (x + 1))) len.toNat bytes floats ∧
      ((∃ values, floats.result = .ok values) ↔
        self.max = true ∨
          ∀ i < len.toNat, ReadsSample inputBuffer writeIndex fftSize inputBufferSize i) ∧
      ViewsAgree (fun d => clippedByte (255 * (d - minDecibels) * rangeScaleFactor)) len.toNat
        byteData decibels ∧
      ((∃ values, decibels.result = .ok values) ↔
        self.max = true ∨ len.toNat ≤ source.length) := by
  intro bytes floats byteData decibels
  refine ⟨?_, ?_, ?_, ?_⟩
  · refine viewsAgree_of_map ?_ fun values done => modes_length done
    change WhaleAudioFarblingHelper.farbleByteTimeDomainData _ _ _ _ _ _ = _
    unfold WhaleAudioFarblingHelper.farbleByteTimeDomainData
    simp only [clipToByte_eq]
    exact modes_map (fun x => clippedByte (128 * (x + 1))) self.max
      (fun v => (v.toNat / maxUInt64AsDouble) / 10)
      (readInput inputBuffer writeIndex fftSize inputBufferSize)
      (fun sample => self.fudgeFactor * sample) self.seed len.toNat
  · refine modes_ok_iff.trans (or_congr_right ?_)
    simp only [ok_bind_pure_iff, readInput_ok_iff]
  · refine viewsAgree_of_map ?_ fun values done => modes_length done
    change WhaleAudioFarblingHelper.farbleConvertToByteData _ _ _ _ _ _ = _
    unfold WhaleAudioFarblingHelper.farbleConvertToByteData
    simp only [clipToByte_eq]
    exact modes_map (fun d => clippedByte (255 * (d - minDecibels) * rangeScaleFactor)) self.max
      (fun v => linearToDecibels ((v.toNat / maxUInt64AsDouble) / 10)) (readAt source)
      (fun sample => linearToDecibels (self.fudgeFactor * sample)) self.seed len.toNat
  · refine modes_ok_iff.trans (or_congr_right ?_)
    simp only [ok_bind_pure_iff, readAt_ok_iff]
    constructor
    · intro reads
      by_contra short
      exact Nat.lt_irrefl _ (reads source.length (Nat.lt_of_not_le short))
    · intro holds i before
      exact Nat.lt_of_lt_of_le before holds

end Whale.Farbling
