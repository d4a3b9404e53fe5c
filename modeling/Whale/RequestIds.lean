/-
The identifiers of requests.

The profile gives each proxy the next number as its first identifier, and each
proxy counts on from there by itself.  So the identifiers of one proxy run into
the first one of a later proxy as soon as it has made enough requests.
-/
import Whale.ProxyLifecycle

set_option autoImplicit false

namespace Whale

open Whale.Foundation
open Whale.Url (Text GURL)
open Whale.Net

/-! ### Values by key -/

def valuesOf (key : Nat) (pairs : List (Nat × Nat)) : List Nat :=
  (pairs.filter (fun pair => pair.1 == key)).map Prod.snd

theorem valuesOf_cons (key : Nat) (pair : Nat × Nat) (pairs : List (Nat × Nat)) :
    valuesOf key (pair :: pairs) =
      if pair.1 = key then pair.2 :: valuesOf key pairs else valuesOf key pairs := by
  unfold valuesOf
  rw [List.filter_cons]
  by_cases same : pair.1 = key <;> simp [same]

theorem valuesOf_append (key : Nat) (first second : List (Nat × Nat)) :
    valuesOf key (first ++ second) = valuesOf key first ++ valuesOf key second := by
  simp [valuesOf]

theorem mem_values_iff (value : Nat) (pairs : List (Nat × Nat)) :
    value ∈ pairs.map Prod.snd ↔ ∃ key, value ∈ valuesOf key pairs := by
  constructor
  · intro member
    obtain ⟨pair, present, rfl⟩ := List.mem_map.mp member
    exact ⟨pair.1, List.mem_map.mpr ⟨pair, List.mem_filter.mpr ⟨present, by simp⟩, rfl⟩⟩
  · rintro ⟨key, member⟩
    obtain ⟨pair, present, rfl⟩ := List.mem_map.mp member
    exact List.mem_map.mpr ⟨pair, (List.mem_filter.mp present).1, rfl⟩

/-- Values are distinct if those of each key are, and no two keys share one. -/
theorem nodup_values_iff (pairs : List (Nat × Nat)) :
    (pairs.map Prod.snd).Nodup ↔
      (∀ key, (valuesOf key pairs).Nodup) ∧
        ∀ left right value, value ∈ valuesOf left pairs → value ∈ valuesOf right pairs →
          left = right := by
  induction pairs with
  | nil => simp [valuesOf]
  | cons pair rest ih =>
      rw [List.map_cons, List.nodup_cons, ih, mem_values_iff]
      constructor
      · rintro ⟨new, distinct, apart⟩
        have newIn : ∀ key, pair.2 ∉ valuesOf key rest := fun key member => new ⟨key, member⟩
        constructor
        · intro key
          rw [valuesOf_cons]
          split
          · exact List.nodup_cons.mpr ⟨newIn key, distinct key⟩
          · exact distinct key
        · intro left right value inLeft inRight
          rw [valuesOf_cons] at inLeft inRight
          split at inLeft <;> split at inRight
          · omega
          · rename_i isLeft _
            rcases List.mem_cons.mp inLeft with rfl | older
            · exact absurd inRight (newIn right)
            · exact apart left right value older inRight
          · rcases List.mem_cons.mp inRight with rfl | older
            · exact absurd inLeft (newIn left)
            · exact apart left right value inLeft older
          · exact apart left right value inLeft inRight
      · rintro ⟨distinct, apart⟩
        have keep : ∀ key value, value ∈ valuesOf key rest →
            value ∈ valuesOf key (pair :: rest) := by
          intro key value member
          rw [valuesOf_cons]
          split
          · exact List.mem_cons_of_mem _ member
          · exact member
        have own : pair.2 ∈ valuesOf pair.1 (pair :: rest) := by
          rw [valuesOf_cons, if_pos rfl]
          exact List.mem_cons_self
        have ownDistinct := distinct pair.1
        rw [valuesOf_cons, if_pos rfl, List.nodup_cons] at ownDistinct
        refine ⟨?_, ?_, ?_⟩
        · rintro ⟨key, member⟩
          have same := apart pair.1 key pair.2 own (keep key pair.2 member)
          rw [← same] at member
          exact ownDistinct.1 member
        · intro key
          have whole := distinct key
          rw [valuesOf_cons] at whole
          split at whole
          · exact (List.nodup_cons.mp whole).2
          · exact whole
        · intro left right value inLeft inRight
          exact apart left right value (keep left value inLeft) (keep right value inRight)

/-! ### Identifiers along a run -/

def FactoryEffect.createdId : FactoryEffect → Option Nat
  | .requestCreated _ whaleRequestId => some whaleRequestId
  | _ => none

def createdIds (outputs : List ProfileEffect) : List (Nat × Nat) :=
  outputs.filterMap fun
    | .factory proxy effect => effect.createdId.map fun whaleRequestId => (proxy, whaleRequestId)
    | _ => none

def FactoryEvent.isCall : FactoryEvent → Bool
  | .createLoaderAndStart .. => true
  | _ => false

def calls (proxy : Nat) (events : List (BrowserState × ProfileEvent)) : Nat :=
  events.countP fun
    | (_, .proxy address event) => address == proxy && event.isCall
    | _ => false

namespace WhaleProxyingURLLoaderFactory

variable {self : WhaleProxyingURLLoaderFactory} {platform : Platform}
  {browser : BrowserState}

theorem maybeRemoveProxy_ids :
    self.maybeRemoveProxy.1.requestId = self.requestId ∧
      self.maybeRemoveProxy.2.filterMap FactoryEffect.createdId = [] := by
  unfold maybeRemoveProxy
  split
  · exact ⟨rfl, rfl⟩
  · split <;> exact ⟨rfl, rfl⟩

theorem removeRequest_ids (request : Nat) :
    (self.removeRequest request).1.requestId = self.requestId ∧
      (self.removeRequest request).2.filterMap FactoryEffect.createdId = [] := by
  unfold removeRequest
  split
  · exact ⟨rfl, rfl⟩
  · exact maybeRemoveProxy_ids

theorem settle_ids (request : Nat) (outcome : Session × List Effect) :
    (self.settle request outcome).1.requestId = self.requestId ∧
      (self.settle request outcome).2.filterMap FactoryEffect.createdId = [] := by
  have quiet : (outcome.2.map (FactoryEffect.request request)).filterMap
      FactoryEffect.createdId = [] := by
    simp [List.filterMap_map, Function.comp_def, FactoryEffect.createdId]
  simp only [settle, List.filterMap_append, quiet, List.nil_append]
  split
  · exact removeRequest_ids request
  · exact ⟨rfl, rfl⟩

/-- A call takes the next number, and nothing else does. -/
theorem handle_ids {event : FactoryEvent}
    {outcome : WhaleProxyingURLLoaderFactory × List FactoryEffect}
    (handled : self.handle platform browser event = some outcome) :
    outcome.1.requestId = self.requestId + (if event.isCall then 1 else 0) ∧
      outcome.2.filterMap FactoryEffect.createdId =
        if event.isCall then [self.requestId] else [] := by
  cases handled_of_handle handled with
  | createLoaderAndStart live deliverable =>
      refine ⟨(settle_ids _ _).1, ?_⟩
      simp only [createLoaderAndStart, List.filterMap_cons, FactoryEffect.createdId]
      rw [(settle_ids _ _).2]
      rfl
  | clone live => exact ⟨rfl, rfl⟩
  | receiverDisconnected live => exact maybeRemoveProxy_ids
  | targetFactoryDisconnected bound => exact maybeRemoveProxy_ids
  | request present delivered => exact settle_ids _ _

end WhaleProxyingURLLoaderFactory

namespace ResourceContextData

structure IdHistory (events : List (BrowserState × ProfileEvent))
    (outputs : List ProfileEffect) (profile : ResourceContextData) : Prop where
  seed : profile.requestId = profile.proxies.nextAddress
  counted : ∀ address factory, profile.proxies.get address = some factory →
    factory.requestId = address + 1 + calls address events
  uncalled : ∀ address, profile.proxies.nextAddress ≤ address → calls address events = 0
  /-- Each proxy has numbered its requests without a gap. -/
  created : ∀ address, valuesOf address (createdIds outputs) =
    List.range' (address + 1) (calls address events)

variable {platform : Platform} {browser : BrowserState}
  {before after : ResourceContextData} {emitted : List ProfileEffect}
  {events : List (BrowserState × ProfileEvent)} {outputs : List ProfileEffect}

theorem IdHistory.startProxying (history : IdHistory events outputs before)
    (frameTreeNodeId : Int) :
    IdHistory (events ++ [(browser, .startProxying frameTreeNodeId)])
      (outputs ++ (before.startProxying frameTreeNodeId).2)
      (before.startProxying frameTreeNodeId).1 := by
  have sameCalls : ∀ address,
      calls address (events ++ [(browser, .startProxying frameTreeNodeId)]) =
        calls address events := by
    intro address
    simp [calls, List.countP_append]
  have nextAddress : (before.startProxying frameTreeNodeId).1.proxies.nextAddress =
      before.proxies.nextAddress + 1 := rfl
  constructor
  · change before.requestId + 1 = before.proxies.nextAddress + 1
    rw [history.seed]
  · intro address factory present
    rw [startProxying_get] at present
    rw [sameCalls]
    split at present
    · rename_i isNew
      cases present
      rw [history.uncalled address (Nat.le_of_eq isNew.symm), isNew, ← history.seed]
      rfl
    · exact history.counted address factory present
  · intro address later
    rw [sameCalls]
    rw [nextAddress] at later
    exact history.uncalled address (Nat.le_of_succ_le later)
  · intro address
    rw [sameCalls, createdIds, List.filterMap_append]
    change valuesOf address (createdIds outputs ++ []) = _
    rw [List.append_nil]
    exact history.created address

theorem IdHistory.proxyStep (history : IdHistory events outputs before)
    {address : Nat} {event : FactoryEvent}
    (step : ProxyStep platform browser address event before after emitted) :
    IdHistory (events ++ [(browser, .proxy address event)]) (outputs ++ emitted) after := by
  obtain ⟨factory, outcome, present, handled, _, rfl, stored⟩ := step.handled
  obtain ⟨counts, creates⟩ := WhaleProxyingURLLoaderFactory.handle_ids handled
  have known := OwnedSet.lt_of_get present
  have moreCalls : ∀ other,
      calls other (events ++ [(browser, .proxy address event)]) =
        calls other events + if other = address ∧ event.isCall = true then 1 else 0 := by
    intro other
    unfold calls
    rw [List.countP_append]
    by_cases same : other = address
    · subst same
      cases isCall : event.isCall <;> simp [isCall]
    · have different : (address == other) = false := by
        simpa using fun equal => same equal.symm
      simp [same, different]
  have moreIds : ∀ other,
      valuesOf other (createdIds (outputs ++ outcome.2.map (ProfileEffect.factory address))) =
        valuesOf other (createdIds outputs) ++
          if other = address ∧ event.isCall = true then [factory.requestId] else [] := by
    intro other
    have emitted : createdIds (outcome.2.map (ProfileEffect.factory address)) =
        (outcome.2.filterMap FactoryEffect.createdId).map fun id => (address, id) := by
      rw [createdIds, List.filterMap_map, List.map_filterMap]
      rfl
    rw [createdIds, List.filterMap_append]
    change valuesOf other (createdIds outputs ++ createdIds (outcome.2.map _)) = _
    rw [valuesOf_append, emitted, creates]
    by_cases same : other = address
    · subst same
      cases event.isCall <;> simp [valuesOf]
    · have different : (address == other) = false := by
        simpa using fun equal => same equal.symm
      cases event.isCall <;> simp [valuesOf, same, different]
  constructor
  · rw [step.requestId, step.nextAddress]
    exact history.seed
  · intro other found isPresent
    rw [moreCalls]
    by_cases same : other = address
    · subst same
      rw [stored] at isPresent
      split at isPresent
      · cases isPresent
      · cases isPresent
        rw [counts, history.counted other factory present]
        simp [Nat.add_assoc]
    · rw [step.others other same] at isPresent
      rw [history.counted other found isPresent]
      simp [same]
  · intro other later
    rw [step.nextAddress] at later
    rw [moreCalls, history.uncalled other later]
    have different : other ≠ address := by omega
    simp [different]
  · intro other
    rw [moreIds, moreCalls, history.created other]
    by_cases called : other = address ∧ event.isCall = true
    · obtain ⟨rfl, isCall⟩ := called
      rw [if_pos ⟨rfl, isCall⟩, if_pos ⟨rfl, isCall⟩, List.range'_1_concat,
        history.counted other factory present]
    · rw [if_neg called, if_neg called, List.append_nil]
      rfl

theorem idHistory_of_run
    {allowed : ResourceContextData → BrowserState × ProfileEvent → Prop}
    {profile : ResourceContextData}
    (run : EventMachine.Run (profileMachine platform) allowed new events outputs profile) :
    IdHistory events outputs profile := by
  refine run.historyInvariant IdHistory ?_ ?_
  · constructor
    · rfl
    · intro address factory present
      simp [new] at present
    · intro address _
      rfl
    · intro address
      rfl
  · rintro events outputs before ⟨browser, event⟩ after emitted initial history _permitted taken
    cases event with
    | startProxying frameTreeNodeId =>
        obtain ⟨rfl, rfl⟩ := startProxying_of_taken taken
        exact history.startProxying frameTreeNodeId
    | proxy address event =>
        have attached := attached_of_reachable ⟨_, _, initial⟩
        exact history.proxyStep (proxyStep_of_taken attached taken)

end ResourceContextData

/-- Along every run of a profile, all requests have different identifiers exactly
when no proxy has counted up to the first identifier of a later proxy that has
made a request. -/
theorem requestIds_distinct_iff (platform : Platform)
    (events : List (BrowserState × ProfileEvent)) (outputs : List ProfileEffect)
    (profile : ResourceContextData)
    (run : EventMachine.Run (profileMachine platform) EventMachine.anyStep
      ResourceContextData.new events outputs profile) :
    ((createdIds outputs).map Prod.snd).Nodup ↔
      ∀ earlier later, earlier < later →
        calls later events = 0 ∨ earlier + calls earlier events ≤ later := by
  have history := ResourceContextData.idHistory_of_run run
  have mem : ∀ address id, id ∈ valuesOf address (createdIds outputs) ↔
      address + 1 ≤ id ∧ id < address + 1 + calls address events := by
    intro address id
    rw [history.created address]
    exact List.mem_range'_1
  rw [nodup_values_iff]
  constructor
  · rintro ⟨_, apart⟩ earlier later before
    by_cases idle : calls later events = 0
    · exact Or.inl idle
    · by_cases reaches : earlier + calls earlier events ≤ later
      · exact Or.inr reaches
      · have same := apart earlier later (later + 1)
          ((mem earlier (later + 1)).mpr ⟨by omega, by omega⟩)
          ((mem later (later + 1)).mpr ⟨by omega, by omega⟩)
        omega
  · intro apart
    constructor
    · intro address
      rw [history.created address]
      exact List.nodup_range' 1 (by omega)
    · intro left right id inLeft inRight
      rw [mem] at inLeft inRight
      rcases Nat.lt_trichotomy left right with before | same | after
      · rcases apart left right before with idle | below
        · omega
        · omega
      · exact same
      · rcases apart right left after with idle | below
        · omega
        · omega

namespace RequestIdsExample

def browser : BrowserState :=
  referenceBrowser .ask

def call (proxy : Nat) : BrowserState × ProfileEvent :=
  (browser, .proxy proxy (.createLoaderAndStart 0
    { requestId := 7
      options := 0
      request := referenceRequest "https://cdn.example.org/" }))

def quiet : List (BrowserState × ProfileEvent) :=
  [(browser, .startProxying 3), (browser, .startProxying 4), call 0, call 1]

def busy : List (BrowserState × ProfileEvent) :=
  quiet ++ [call 0]

def execution (events : List (BrowserState × ProfileEvent)) :
    Option (ResourceContextData × List ProfileEffect) :=
  (profileMachine referencePlatform).exec (fun _ _ => true) ResourceContextData.new events

theorem quiet_completes : (execution quiet).isSome = true := by
  decide

theorem busy_completes : (execution busy).isSome = true := by
  decide

theorem run_of_completes {events : List (BrowserState × ProfileEvent)}
    (completes : (execution events).isSome = true) :
    EventMachine.Run (profileMachine referencePlatform) EventMachine.anyStep
      ResourceContextData.new events ((execution events).get completes).2
      ((execution events).get completes).1 :=
  (EventMachine.Run.of_exec (Option.some_get completes).symm).weaken fun _ _ _ => trivial

end RequestIdsExample

open RequestIdsExample in
theorem requestIds_distinct_example :
    ((createdIds ((execution quiet).get quiet_completes).2).map Prod.snd).Nodup ↔
      ∀ earlier later, earlier < later →
        calls later quiet = 0 ∨ earlier + calls earlier quiet ≤ later :=
  requestIds_distinct_iff referencePlatform quiet _ _ (run_of_completes quiet_completes)

open RequestIdsExample in
/-- The second request of the first frame and the only one of the second. -/
theorem requestIds_repeated :
    EventMachine.Run (profileMachine referencePlatform) EventMachine.anyStep
        ResourceContextData.new busy ((execution busy).get busy_completes).2
        ((execution busy).get busy_completes).1 ∧
      createdIds ((execution busy).get busy_completes).2 = [(0, 1), (1, 2), (0, 2)] ∧
      ¬((createdIds ((execution busy).get busy_completes).2).map Prod.snd).Nodup :=
  ⟨run_of_completes busy_completes, by decide, by decide⟩

end Whale
