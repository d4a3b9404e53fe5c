/-
When the keys of a session cache are read.

The constructor reads them after it has assigned them.  Of the other operations some
look at the level or at the flag first, and these are closed while the keys are
unset.  The rest read the keys as they are.
-/
import Whale.Farbling.PerturbPixels
import Whale.Farbling.Wrappers

set_option autoImplicit false

namespace Whale.Farbling

open Whale.Foundation
open WhaleSessionCache

/-! ### Calls on one execution context -/

inductive ContextCall where
  | member (call : CacheCall)
  | applyWhaleHardwareConcurrencyOverride (hardwareConcurrency : UInt32)
  | farbleDeviceMemory
  | farbleInteger (key : FarbleKey) (spoofValue minValue maxValue : Int)
  | farbledPointerScreenCoordinate (view : Option DOMWindow) (key : FarbleKey)
      (clientCoordinate trueScreenCoordinate : Int)

/-- The cache of the context after a call.  What the call returns is dropped. -/
def performCall (renderer : Renderer) (context : ExecutionContext)
    (supplement : Option WhaleSessionCache) : ContextCall → Op (Option WhaleSessionCache)
  | .member call => do
      let cache ← sessionCacheFrom renderer context supplement
      let next ← perform renderer.toFarblingPlatform cache call
      pure (some next)
  | .applyWhaleHardwareConcurrencyOverride hardwareConcurrency => do
      let (_, next) ← applyWhaleHardwareConcurrencyOverride renderer (some context)
        hardwareConcurrency supplement
      pure next
  | .farbleDeviceMemory => do
      let (_, next) ← farbleDeviceMemory renderer (some context) supplement
      pure next
  | .farbleInteger key spoofValue minValue maxValue => do
      let (_, next) ←
        farbleInteger renderer (some context) key spoofValue minValue maxValue supplement
      pure next
  | .farbledPointerScreenCoordinate view key clientCoordinate trueScreenCoordinate => do
      let (_, next) ← farbledPointerScreenCoordinate renderer (some context) view key
        clientCoordinate trueScreenCoordinate supplement
      pure next

/-- The calls of a context whose cache has not been made yet. -/
def performCalls (renderer : Renderer) (context : ExecutionContext) (calls : List ContextCall) :
    Op (Option WhaleSessionCache) :=
  calls.foldlM (performCall renderer context) none

/-! ### The constructor -/

/-- The constructor reads a key exactly when it has assigned them. -/
theorem accesses_new_iff (platform : FarblingPlatform) (memory : KeyMemory)
    (context : ExecutionContext) :
    (new platform memory context).accesses ≠ [] ↔ AssignsKeys platform context := by
  constructor
  · intro reads
    by_contra unassigned
    rw [new_of_not_assignsKeys unassigned memory] at reads
    exact reads rfl
  · intro assigned
    obtain ⟨domain, derived⟩ := new_of_assignsKeys assigned memory
    rw [derived]
    exact List.cons_ne_nil _ _

/-! ### Calls before the keys are assigned -/

/-- The operations that look at the level or at the flag before they read a key. -/
def ContextCall.gated : ContextCall → Bool
  | .member (.generateRandomString _ _) => false
  | .member (.farbledUserAgent _) => false
  | .member (.farbledInteger _ _ _ _) => false
  | .member (.makePseudoRandomGenerator _) => false
  | .member _ => true
  | .applyWhaleHardwareConcurrencyOverride _ => true
  | .farbleDeviceMemory => true
  | .farbleInteger _ _ _ _ => false
  | .farbledPointerScreenCoordinate _ _ _ _ => true

/-- The cache is the one that an early return leaves, or will be when it is made. -/
def KeysUnset (renderer : Renderer) (context : ExecutionContext)
    (supplement : Option WhaleSessionCache) : Prop :=
  sessionCacheFrom renderer context supplement = pure (unset renderer.keyMemory)

section Unset

variable {renderer : Renderer} {context : ExecutionContext} {supplement : Option WhaleSessionCache}

theorem keysUnset_some : KeysUnset renderer context (some (unset renderer.keyMemory)) :=
  rfl

theorem getWhaleFarblingLevelFor_of_keysUnset (keysUnset : KeysUnset renderer context supplement)
    (defaultValue : WhaleFarblingLevel) :
    getWhaleFarblingLevelFor renderer (some context) defaultValue supplement =
      pure (.off, some (unset renderer.keyMemory)) := by
  change sessionCacheFrom renderer context supplement >>= _ = _
  rw [keysUnset]
  rfl

theorem applyWhaleHardwareConcurrencyOverride_of_keysUnset
    (keysUnset : KeysUnset renderer context supplement) (hardwareConcurrency : UInt32) :
    applyWhaleHardwareConcurrencyOverride renderer (some context) hardwareConcurrency supplement =
      pure (hardwareConcurrency, some (unset renderer.keyMemory)) := by
  unfold applyWhaleHardwareConcurrencyOverride allowFingerprinting
  dsimp only
  rw [getWhaleFarblingLevelFor_of_keysUnset keysUnset]
  rfl

theorem farbleDeviceMemory_of_keysUnset (keysUnset : KeysUnset renderer context supplement) :
    farbleDeviceMemory renderer (some context) supplement =
      pure (renderer.approximatedDeviceMemory, some (unset renderer.keyMemory)) := by
  unfold farbleDeviceMemory
  rw [getWhaleFarblingLevelFor_of_keysUnset keysUnset]
  rfl

theorem farbledPointerScreenCoordinate_of_keysUnset
    (keysUnset : KeysUnset renderer context supplement) (view : Option DOMWindow)
    (key : FarbleKey) (clientCoordinate trueScreenCoordinate : Int) :
    ∃ next,
      farbledPointerScreenCoordinate renderer (some context) view key clientCoordinate
          trueScreenCoordinate supplement = pure (trueScreenCoordinate, next) ∧
        KeysUnset renderer context next := by
  cases view with
  | none => exact ⟨supplement, rfl, keysUnset⟩
  | some view =>
      cases view with
      | remoteDOMWindow => exact ⟨supplement, rfl, keysUnset⟩
      | localDOMWindow pageZoomFactor =>
          refine ⟨some (unset renderer.keyMemory), ?_, keysUnset_some⟩
          unfold farbledPointerScreenCoordinate blockScreenFingerprinting
          dsimp only
          rw [getWhaleFarblingLevelFor_of_keysUnset keysUnset]
          rfl

theorem performCall_of_gated (keysUnset : KeysUnset renderer context supplement)
    {call : ContextCall} (gated : call.gated = true) :
    ∃ next, performCall renderer context supplement call = pure next ∧
      KeysUnset renderer context next := by
  cases call with
  | member call =>
      refine ⟨some (unset renderer.keyMemory), ?_, keysUnset_some⟩
      change sessionCacheFrom renderer context supplement >>= _ = _
      rw [keysUnset]
      cases call with
      | getWhaleFarblingLevel | farbleAudioChannel | perturbPixels | getAudioFarblingHelper => rfl
      | generateRandomString | farbledUserAgent | farbledInteger | makePseudoRandomGenerator =>
          cases gated
  | applyWhaleHardwareConcurrencyOverride hardwareConcurrency =>
      refine ⟨some (unset renderer.keyMemory), ?_, keysUnset_some⟩
      change applyWhaleHardwareConcurrencyOverride renderer _ _ supplement >>= _ = _
      rw [applyWhaleHardwareConcurrencyOverride_of_keysUnset keysUnset]
      rfl
  | farbleDeviceMemory =>
      refine ⟨some (unset renderer.keyMemory), ?_, keysUnset_some⟩
      change farbleDeviceMemory renderer _ supplement >>= _ = _
      rw [farbleDeviceMemory_of_keysUnset keysUnset]
      rfl
  | farbleInteger => cases gated
  | farbledPointerScreenCoordinate view key clientCoordinate trueScreenCoordinate =>
      obtain ⟨next, returned, kept⟩ := farbledPointerScreenCoordinate_of_keysUnset keysUnset
        view key clientCoordinate trueScreenCoordinate
      refine ⟨next, ?_, kept⟩
      change farbledPointerScreenCoordinate renderer _ _ _ _ _ supplement >>= _ = _
      rw [returned]
      rfl

/-- The table of an unset cache is empty, so the integer has to be drawn. -/
theorem accesses_farbledInteger_unset (platform : FarblingPlatform) (memory : KeyMemory)
    (key : FarbleKey) (spoofValue minRandomOffset maxRandomOffset : Int) :
    ((unset memory).farbledInteger platform key spoofValue minRandomOffset
      maxRandomOffset).accesses ≠ [] :=
  List.cons_ne_nil KeyMember.domainKey _

theorem accesses_performCall_of_not_gated (keysUnset : KeysUnset renderer context supplement)
    {call : ContextCall} (ungated : call.gated = false) :
    (performCall renderer context supplement call).accesses ≠ [] := by
  cases call with
  | member call =>
      change (sessionCacheFrom renderer context supplement >>= _).accesses ≠ []
      rw [keysUnset, Traced.pure_bind]
      cases call with
      | getWhaleFarblingLevel | farbleAudioChannel | perturbPixels | getAudioFarblingHelper =>
          cases ungated
      | generateRandomString | farbledUserAgent | makePseudoRandomGenerator =>
          exact List.cons_ne_nil KeyMember.domainKey _
      | farbledInteger key spoofValue minRandomOffset maxRandomOffset =>
          apply Traced.accesses_bind_ne_nil
          apply Traced.accesses_bind_ne_nil
          apply accesses_farbledInteger_unset
  | farbleInteger key spoofValue minValue maxValue =>
      apply Traced.accesses_bind_ne_nil
      change (sessionCacheFrom renderer context supplement >>= _).accesses ≠ []
      rw [keysUnset, Traced.pure_bind]
      apply Traced.accesses_bind_ne_nil
      apply accesses_farbledInteger_unset
  | applyWhaleHardwareConcurrencyOverride | farbleDeviceMemory
      | farbledPointerScreenCoordinate => cases ungated

theorem accesses_foldlM_performCall_iff (calls : List ContextCall)
    (keysUnset : KeysUnset renderer context supplement) :
    (calls.foldlM (performCall renderer context) supplement).accesses = [] ↔
      ∀ call ∈ calls, call.gated = true := by
  induction calls generalizing supplement with
  | nil => exact iff_of_true rfl (by simp)
  | cons call rest ih =>
      rw [List.foldlM_cons, List.forall_mem_cons]
      by_cases gated : call.gated = true
      · obtain ⟨next, performed, kept⟩ := performCall_of_gated keysUnset gated
        rw [performed, and_iff_right gated]
        exact ih kept
      · have logged := accesses_performCall_of_not_gated keysUnset (Bool.eq_false_iff.mpr gated)
        apply iff_of_false (Traced.accesses_bind_ne_nil logged _)
        exact fun both => gated both.1

end Unset

/-- A sequence of calls reads the keys only where the constructor has assigned them,
exactly if it has or if every call is gated. -/
theorem keysReadOnlyIfAssigned_iff (renderer : Renderer) (context : ExecutionContext)
    (calls : List ContextCall) :
    ((performCalls renderer context calls).accesses ≠ [] →
        AssignsKeys renderer.toFarblingPlatform context) ↔
      AssignsKeys renderer.toFarblingPlatform context ∨ ∀ call ∈ calls, call.gated = true := by
  by_cases assigned : AssignsKeys renderer.toFarblingPlatform context
  · exact iff_of_true (fun _reads => assigned) (Or.inl assigned)
  · have keysUnset : KeysUnset renderer context none :=
      new_of_not_assignsKeys assigned renderer.keyMemory
    rw [or_iff_right assigned, ← accesses_foldlM_performCall_iff calls keysUnset]
    constructor
    · intro onlyIfAssigned
      by_contra reads
      exact assigned (onlyIfAssigned reads)
    · intro silent reads
      exact absurd silent reads

namespace ReferenceFarbling

def renderer : Renderer :=
  { platform with
    numberOfProcessors := 4
    approximatedDeviceMemory := 8
    keyMemory := exampleKeys }

/-- A window whose top frame has an opaque origin. -/
def sandboxedContext : ExecutionContext :=
  let origin : SecurityOrigin := { protocol := [], host := some [], isOpaque := true }
  { kind := .localDOMWindow
      (some { top := .localFrame (some origin) none, contentSettingsClient := none }) none
    securityOrigin := some origin }

end ReferenceFarbling

open ReferenceFarbling in
theorem keysRead_sandboxed :
    (performCalls renderer sandboxedContext [.member (.farbledUserAgent [])]).accesses =
        [.domainKey] ∧
      ¬AssignsKeys renderer.toFarblingPlatform sandboxedContext := by
  refine ⟨rfl, ?_⟩
  rintro ⟨origin, host, originFound, notOpaque, _hostFound, _hostNonempty, _domainNonempty⟩
  cases originFound
  cases notOpaque

end Whale.Farbling
