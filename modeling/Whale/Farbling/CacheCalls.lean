/-
Calls of the session cache, one after the other.

No member function but the constructor assigns a member, apart from the table of
integers that have been drawn.
-/
import Whale.Farbling.SessionCache

set_option autoImplicit false

namespace Whale.Farbling

open Whale.Foundation
open Whale.Url (Text)

/-- The public member functions with their arguments. -/
inductive CacheCall where
  | getWhaleFarblingLevel
  | farbleAudioChannel (dst : List Rat)
  | perturbPixels (data : Option PixelBuffer)
  | generateRandomString (seed : List UInt8) (length : Nat)
  | farbledUserAgent (realUserAgent : Text)
  | farbledInteger (key : FarbleKey) (spoofValue minRandomOffset maxRandomOffset : Int)
  | makePseudoRandomGenerator (key : FarbleKey)
  | getAudioFarblingHelper

namespace WhaleSessionCache

/-- The cache after a call.  What the call returns is dropped. -/
def perform (platform : FarblingPlatform) (self : WhaleSessionCache) :
    CacheCall → Op WhaleSessionCache
  | .getWhaleFarblingLevel => pure self
  | .farbleAudioChannel _ => pure self
  | .perturbPixels data => do
      let _ ← self.perturbPixels platform data
      pure self
  | .generateRandomString seed length => do
      let _ ← self.generateRandomString platform seed length
      pure self
  | .farbledUserAgent realUserAgent => do
      let _ ← self.farbledUserAgent platform realUserAgent
      pure self
  | .farbledInteger key spoofValue minRandomOffset maxRandomOffset => do
      let (_, next) ←
        self.farbledInteger platform key spoofValue minRandomOffset maxRandomOffset
      pure next
  | .makePseudoRandomGenerator key => do
      let _ ← self.makePseudoRandomGenerator platform key
      pure self
  | .getAudioFarblingHelper => pure self

def runCalls (platform : FarblingPlatform) (self : WhaleSessionCache)
    (calls : List CacheCall) : Op WhaleSessionCache :=
  calls.foldlM (perform platform) self

/-! ### What calls keep -/

/-- The same object up to the table of drawn integers. -/
def SameMembers (before after : WhaleSessionCache) : Prop :=
  after = { before with farbledIntegers := after.farbledIntegers }

theorem SameMembers.refl (self : WhaleSessionCache) : SameMembers self self :=
  rfl

theorem SameMembers.trans {first second third : WhaleSessionCache}
    (earlier : SameMembers first second) (later : SameMembers second third) :
    SameMembers first third := by
  unfold SameMembers at earlier later ⊢
  rw [later, earlier]

theorem returned_of_discard {α : Type} {operation : Op α} {self next : WhaleSessionCache}
    (done : (operation >>= fun _ => pure self : Op WhaleSessionCache).result = .ok next) :
    next = self := by
  obtain ⟨_value, _performed, returned⟩ := Traced.exists_of_result_bind done
  cases returned
  rfl

theorem farbledInteger_sameMembers {platform : FarblingPlatform} {self next : WhaleSessionCache}
    {key : FarbleKey} {spoofValue minRandomOffset maxRandomOffset result : Int}
    (done : (self.farbledInteger platform key spoofValue minRandomOffset maxRandomOffset).result =
      .ok (result, next)) :
    SameMembers self next := by
  unfold farbledInteger at done
  cases found : self.farbledIntegers.lookup key with
  | some value =>
      rw [found] at done
      obtain ⟨_sum, _summed, returned⟩ := Traced.exists_of_result_bind done
      cases returned
      rfl
  | none =>
      rw [found] at done
      obtain ⟨_prng, _seeded, drawn⟩ := Traced.exists_of_result_bind done
      obtain ⟨_added, _inserted, rest⟩ := Traced.exists_of_result_bind drawn
      obtain ⟨_sum, _summed, returned⟩ := Traced.exists_of_result_bind rest
      cases returned
      rfl

theorem perform_sameMembers {platform : FarblingPlatform} {self next : WhaleSessionCache}
    (call : CacheCall) (done : (perform platform self call).result = .ok next) :
    SameMembers self next := by
  cases call with
  | getWhaleFarblingLevel | farbleAudioChannel | getAudioFarblingHelper =>
      cases done
      rfl
  | perturbPixels | generateRandomString | farbledUserAgent | makePseudoRandomGenerator =>
      rw [returned_of_discard done]
      exact SameMembers.refl self
  | farbledInteger key spoofValue minRandomOffset maxRandomOffset =>
      obtain ⟨⟨result, table⟩, performed, returned⟩ := Traced.exists_of_result_bind done
      cases returned
      exact farbledInteger_sameMembers performed

theorem runCalls_sameMembers {platform : FarblingPlatform} (calls : List CacheCall)
    {self final : WhaleSessionCache} (done : (runCalls platform self calls).result = .ok final) :
    SameMembers self final := by
  apply Traced.invariant_of_foldlM _ calls (SameMembers.refl self) done
  intro before call after same performed
  exact same.trans (perform_sameMembers call performed)

/-! ### What the constructor leaves -/

/-- The flag is never set, and the helper is there exactly at a level other than
`OFF`. -/
structure Gated (cache : WhaleSessionCache) : Prop where
  disabled : cache.farblingEnabled = false
  helperIff : cache.audioFarblingHelper.isSome = true ↔ cache.farblingLevel ≠ .off

theorem gated_unset (memory : KeyMemory) : Gated (unset memory) :=
  { disabled := rfl
    helperIff := by simp [unset] }

theorem gated_of_sameMembers {before after : WhaleSessionCache} (gates : Gated before)
    (same : SameMembers before after) : Gated after := by
  rw [same]
  exact { disabled := gates.disabled, helperIff := gates.helperIff }

theorem isSome_emplaced_iff (level : WhaleFarblingLevel) (helper : WhaleAudioFarblingHelper) :
    (if level ≠ .off then some helper else none).isSome = true ↔ level ≠ .off := by
  by_cases off : level = .off
  · simp [off]
  · simp [off]

/-- What the constructor has set when it gets past its early returns. -/
theorem exists_of_deriveKeys {platform : FarblingPlatform} {context : ExecutionContext}
    {domain : List UInt8} {self cache : WhaleSessionCache}
    (built : (deriveKeys platform context domain self).result = .ok cache) :
    ∃ level helper,
      cache =
        { self with
          sessionKey := 12345
          domainKey := platform.hmacSha256 (wordBytes 12345) domain
          farblingLevel := level
          audioFarblingHelper :=
            if level ≠ .off then some helper else self.audioFarblingHelper } := by
  obtain ⟨signingKey, readSession, signed⟩ := Traced.exists_of_result_bind built
  obtain ⟨_fudge, _readFudge, fudged⟩ := Traced.exists_of_result_bind signed
  obtain ⟨_seed, _readSeed, seeded⟩ := Traced.exists_of_result_bind fudged
  obtain ⟨_settings, _asked, returned⟩ := Traced.exists_of_result_bind seeded
  cases readSession
  cases returned
  exact ⟨_, _, rfl⟩

/-- The constructor gets past its early returns. -/
def AssignsKeys (platform : FarblingPlatform) (context : ExecutionContext) : Prop :=
  ∃ origin host, keyOrigin context = some origin ∧ origin.isOpaque = false ∧
    origin.host = some host ∧ host ≠ [] ∧ platform.getDomainAndRegistry host ≠ []

theorem new_of_not_assignsKeys {platform : FarblingPlatform} {context : ExecutionContext}
    (unassigned : ¬AssignsKeys platform context) (memory : KeyMemory) :
    new platform memory context = pure (unset memory) := by
  unfold new
  cases originFound : keyOrigin context with
  | none => rfl
  | some origin =>
      by_cases isOpaque : origin.isOpaque = true
      · exact if_pos isOpaque
      · simp only [if_neg isOpaque]
        cases hostFound : origin.host with
        | none => rfl
        | some host =>
            by_cases hostEmpty : host.isEmpty = true
            · exact if_pos hostEmpty
            · by_cases domainEmpty : (platform.getDomainAndRegistry host).isEmpty = true
              · exact (if_neg hostEmpty).trans (if_pos domainEmpty)
              · refine absurd ⟨origin, host, originFound, ?_, hostFound, ?_, ?_⟩ unassigned
                · exact Bool.eq_false_iff.mpr isOpaque
                · exact fun empty => hostEmpty (List.isEmpty_iff.mpr empty)
                · exact fun empty => domainEmpty (List.isEmpty_iff.mpr empty)

theorem new_of_assignsKeys {platform : FarblingPlatform} {context : ExecutionContext}
    (assigned : AssignsKeys platform context) (memory : KeyMemory) :
    ∃ domain, new platform memory context =
      deriveKeys platform context domain (unset memory) := by
  obtain ⟨origin, host, originFound, notOpaque, hostFound, hostNonempty, domainNonempty⟩ :=
    assigned
  refine ⟨platform.getDomainAndRegistry host, ?_⟩
  unfold new
  simp [originFound, notOpaque, hostFound, hostNonempty, domainNonempty]

theorem gated_new {platform : FarblingPlatform} {memory : KeyMemory} {context : ExecutionContext}
    {cache : WhaleSessionCache} (built : (new platform memory context).result = .ok cache) :
    Gated cache := by
  by_cases assigned : AssignsKeys platform context
  · obtain ⟨domain, derived⟩ := new_of_assignsKeys assigned memory
    rw [derived] at built
    obtain ⟨level, helper, rfl⟩ := exists_of_deriveKeys built
    exact { disabled := rfl, helperIff := isSome_emplaced_iff level helper }
  · rw [new_of_not_assignsKeys assigned] at built
    cases built
    exact gated_unset memory

/-- No integer has been drawn yet. -/
theorem farbledIntegers_new {platform : FarblingPlatform} {memory : KeyMemory}
    {context : ExecutionContext} {cache : WhaleSessionCache}
    (built : (new platform memory context).result = .ok cache) : cache.farbledIntegers = [] := by
  by_cases assigned : AssignsKeys platform context
  · obtain ⟨domain, derived⟩ := new_of_assignsKeys assigned memory
    rw [derived] at built
    obtain ⟨_level, _helper, rfl⟩ := exists_of_deriveKeys built
    rfl
  · rw [new_of_not_assignsKeys assigned] at built
    cases built
    rfl

/-- The gates of a cache stay as its constructor left them. -/
theorem gated_runCalls {platform : FarblingPlatform} {memory : KeyMemory}
    {context : ExecutionContext} {cache current : WhaleSessionCache} {calls : List CacheCall}
    (built : (new platform memory context).result = .ok cache)
    (run : (runCalls platform cache calls).result = .ok current) :
    Gated current ∧ current.farblingLevel = cache.farblingLevel := by
  have same := runCalls_sameMembers calls run
  constructor
  · exact gated_of_sameMembers (gated_new built) same
  · rw [same]

end WhaleSessionCache

end Whale.Farbling
