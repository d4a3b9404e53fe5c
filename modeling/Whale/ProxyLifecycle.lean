/-
When a proxy leaves its profile.

A proxy is attached as long as it can receive calls or has requests.  Each event
leaves it attached or makes it idle, and in the second case runs the disconnect
callback in the same step.
-/
import Whale.ProxyFactory
import Whale.SessionRules
import Whale.ReferenceSession

set_option autoImplicit false

namespace Whale

open Whale.Foundation
open Whale.Url (Text GURL)
open Whale.Net

namespace FactoryEffect

def isLifecycle : FactoryEffect → Bool
  | .runDisconnectCallback | .runSpentCallback | .requestNotFound => true
  | _ => false

end FactoryEffect

namespace WhaleProxyingURLLoaderFactory

def isIdle (self : WhaleProxyingURLLoaderFactory) : Bool :=
  !self.targetFactoryBound && self.requests.isEmpty

/-- What every proxy in `proxies_` satisfies. -/
structure Attached (factory : WhaleProxyingURLLoaderFactory) : Prop where
  busy : factory.isIdle = false
  receivers : factory.proxyReceivers.isEmpty = false → factory.targetFactoryBound = true
  callback : factory.disconnectCallback = true

structure Settled (outcome : WhaleProxyingURLLoaderFactory × List FactoryEffect) :
    Prop where
  effects : outcome.2.filter FactoryEffect.isLifecycle =
    if outcome.1.isIdle then [.runDisconnectCallback] else []
  attached : outcome.1.isIdle = false → Attached outcome.1

variable {self : WhaleProxyingURLLoaderFactory} {platform : Platform}
  {browser : BrowserState}

theorem attached_new (frameTreeNodeId : Int) (requestId : Nat) :
    Attached (new frameTreeNodeId requestId) where
  busy := rfl
  receivers := fun _ => rfl
  callback := rfl

theorem Attached.settled (attached : Attached self) : Settled (self, []) where
  effects := by
    rw [attached.busy]
    rfl
  attached := fun _busy => attached

theorem settled_maybeRemoveProxy
    (receivers : self.proxyReceivers.isEmpty = false → self.targetFactoryBound = true)
    (callback : self.disconnectCallback = true) : Settled self.maybeRemoveProxy := by
  have condition : (self.targetFactoryBound || !self.requests.isEmpty) = !self.isIdle := by
    unfold isIdle
    cases self.targetFactoryBound <;> cases self.requests.isEmpty <;> rfl
  unfold maybeRemoveProxy
  rw [condition]
  cases idle : self.isIdle with
  | false => exact Attached.settled { busy := idle, receivers := receivers, callback := callback }
  | true =>
      have stillIdle : ({ self with disconnectCallback := false } :
          WhaleProxyingURLLoaderFactory).isIdle = true := idle
      rw [callback]
      constructor
      · simp only [Bool.not_true, Bool.false_eq_true, if_false, if_true, stillIdle]
        rfl
      · intro busy
        simp only [Bool.not_true, Bool.false_eq_true, if_false, if_true, stillIdle] at busy
        cases busy

theorem settled_removeRequest
    (receivers : self.proxyReceivers.isEmpty = false → self.targetFactoryBound = true)
    (callback : self.disconnectCallback = true) {request : Nat}
    (present : (self.requests.get request).isSome = true) :
    Settled (self.removeRequest request) := by
  obtain ⟨_, present⟩ := Option.isSome_iff_exists.mp present
  unfold removeRequest
  rw [present]
  exact settled_maybeRemoveProxy receivers callback

theorem Settled.prepend {outcome : WhaleProxyingURLLoaderFactory × List FactoryEffect}
    (settled : Settled outcome) (earlier : List FactoryEffect)
    (quiet : earlier.filter FactoryEffect.isLifecycle = []) :
    Settled (outcome.1, earlier ++ outcome.2) where
  effects := by
    rw [List.filter_append, quiet]
    exact settled.effects
  attached := settled.attached

theorem settled_settle
    (receivers : self.proxyReceivers.isEmpty = false → self.targetFactoryBound = true)
    (callback : self.disconnectCallback = true) {request : Nat}
    (present : (self.requests.get request).isSome = true)
    (outcome : Session × List Effect) : Settled (self.settle request outcome) := by
  have quiet : (outcome.2.map (FactoryEffect.request request)).filter
      FactoryEffect.isLifecycle = [] := by
    simp [List.filter_map, Function.comp_def, FactoryEffect.isLifecycle]
  unfold settle
  refine Settled.prepend ?_ _ quiet
  split
  · refine settled_removeRequest ?_ ?_ ?_
    · exact receivers
    · exact callback
    · simpa using present
  · refine Attached.settled { busy := ?_, receivers := receivers, callback := callback }
    obtain ⟨_, present⟩ := Option.isSome_iff_exists.mp present
    unfold isIdle
    simp only [OwnedSet.isEmpty_update, OwnedSet.isEmpty_eq_false_of_get present,
      Bool.and_false]

/-- The events that a factory handles, each with what it comes to. -/
inductive Handled (platform : Platform) (browser : BrowserState)
    (self : WhaleProxyingURLLoaderFactory) :
    FactoryEvent → WhaleProxyingURLLoaderFactory × List FactoryEffect → Prop
  | createLoaderAndStart {receiver : Nat} {call : CreateLoaderCall}
      (live : (self.proxyReceivers.get receiver).isSome = true)
      (deliverable : isDeliverableUrl call.request.url = true) :
      Handled platform browser self (.createLoaderAndStart receiver call)
        (self.createLoaderAndStart platform browser call)
  | clone {receiver : Nat} (live : (self.proxyReceivers.get receiver).isSome = true) :
      Handled platform browser self (.clone receiver) self.clone
  | receiverDisconnected {receiver : Nat}
      (live : (self.proxyReceivers.get receiver).isSome = true) :
      Handled platform browser self (.receiverDisconnected receiver)
        (onProxyBindingError
          { self with proxyReceivers := self.proxyReceivers.erase receiver })
  | targetFactoryDisconnected (bound : self.targetFactoryBound = true) :
      Handled platform browser self .targetFactoryDisconnected self.onTargetFactoryError
  | request {request : Nat} {message : RequestMessage} {session : Session}
      (present : self.requests.get request = some session)
      (delivered : session.delivers message = true) :
      Handled platform browser self (.request request message)
        (self.settle request
          (session.receive platform (self.surroundings browser) message))

theorem handled_of_handle {event : FactoryEvent}
    {outcome : WhaleProxyingURLLoaderFactory × List FactoryEffect}
    (handled : self.handle platform browser event = some outcome) :
    Handled platform browser self event outcome := by
  cases event with
  | createLoaderAndStart receiver call =>
      simp only [handle] at handled
      split at handled
      · rename_i live
        cases handled
        rw [Bool.and_eq_true] at live
        exact Handled.createLoaderAndStart live.1 live.2
      · cases handled
  | clone receiver =>
      simp only [handle] at handled
      split at handled
      · rename_i live
        cases handled
        exact Handled.clone live
      · cases handled
  | receiverDisconnected receiver =>
      simp only [handle] at handled
      split at handled
      · rename_i live
        cases handled
        exact Handled.receiverDisconnected live
      · cases handled
  | targetFactoryDisconnected =>
      simp only [handle] at handled
      split at handled
      · rename_i bound
        cases handled
        exact Handled.targetFactoryDisconnected bound
      · cases handled
  | request request message =>
      simp only [handle] at handled
      split at handled
      · cases handled
      · rename_i session present
        split at handled
        · rename_i delivered
          cases handled
          exact Handled.request present delivered
        · cases handled

/-- Every event leaves a proxy attached, or makes it idle and runs its callback. -/
theorem settled_handle (attached : Attached self) (event : FactoryEvent)
    (outcome : WhaleProxyingURLLoaderFactory × List FactoryEffect)
    (handled : self.handle platform browser event = some outcome) : Settled outcome := by
  cases handled_of_handle handled with
  | createLoaderAndStart live deliverable =>
      refine Settled.prepend ?_ [.requestCreated _ _] rfl
      refine settled_settle ?_ ?_ ?_ _
      · exact attached.receivers
      · exact attached.callback
      · simp
  | clone live =>
      obtain ⟨_, present⟩ := Option.isSome_iff_exists.mp live
      have bound := attached.receivers (OwnedSet.isEmpty_eq_false_of_get present)
      exact Attached.settled
        { busy := attached.busy
          receivers := fun _ => bound
          callback := attached.callback }
  | @receiverDisconnected receiver live =>
      obtain ⟨_, present⟩ := Option.isSome_iff_exists.mp live
      have bound := attached.receivers (OwnedSet.isEmpty_eq_false_of_get present)
      refine settled_maybeRemoveProxy ?_ attached.callback
      intro nonempty
      change (self.targetFactoryBound && !(self.proxyReceivers.erase receiver).isEmpty) =
        true
      rw [bound, show (self.proxyReceivers.erase receiver).isEmpty = false from nonempty]
      rfl
  | targetFactoryDisconnected bound =>
      exact settled_maybeRemoveProxy (fun impossible => by cases impossible)
        attached.callback
  | request present delivered =>
      refine settled_settle attached.receivers attached.callback ?_ _
      rw [present]
      rfl

end WhaleProxyingURLLoaderFactory

/-! ### The profile -/

namespace ProfileEffect

def endsProxy (proxy : Nat) : ProfileEffect → Bool
  | .factory address .runDisconnectCallback => address == proxy
  | _ => false

/-- A lookup fails or a callback runs twice. -/
def isFailure : ProfileEffect → Bool
  | .factory _ .runSpentCallback | .factory _ .requestNotFound | .proxyNotFound => true
  | _ => false

end ProfileEffect

namespace ResourceContextData

def Attached (profile : ResourceContextData) : Prop :=
  ∀ address factory, profile.proxies.get address = some factory → factory.Attached

structure ProxyStep (platform : Platform) (browser : BrowserState) (address : Nat)
    (event : FactoryEvent) (before after : ResourceContextData)
    (emitted : List ProfileEffect) : Prop where
  handled : ∃ factory outcome, before.proxies.get address = some factory ∧
    factory.handle platform browser event = some outcome ∧
    WhaleProxyingURLLoaderFactory.Settled outcome ∧
    emitted = outcome.2.map (ProfileEffect.factory address) ∧
    after.proxies.get address = if outcome.1.isIdle then none else some outcome.1
  others : ∀ other, other ≠ address →
    after.proxies.get other = before.proxies.get other
  nextAddress : after.proxies.nextAddress = before.proxies.nextAddress
  requestId : after.requestId = before.requestId

variable {platform : Platform} {browser : BrowserState}
  {before after : ResourceContextData} {emitted : List ProfileEffect}

/-- The callback runs exactly when the proxy has become idle. -/
theorem runsDisconnectCallback_eq_isIdle
    {outcome : WhaleProxyingURLLoaderFactory × List FactoryEffect}
    (settled : WhaleProxyingURLLoaderFactory.Settled outcome) :
    outcome.2.any FactoryEffect.runsDisconnectCallback = outcome.1.isIdle := by
  have onLifecycle : outcome.2.any FactoryEffect.runsDisconnectCallback =
      (outcome.2.filter FactoryEffect.isLifecycle).any
        FactoryEffect.runsDisconnectCallback := by
    rw [List.any_filter]
    congr 1
    funext effect
    cases effect <;> rfl
  rw [onLifecycle, settled.effects]
  cases outcome.1.isIdle <;> rfl

theorem proxyStep_of_taken (attached : before.Attached) {address : Nat}
    {event : FactoryEvent}
    (taken : (profileMachine platform).step before (browser, .proxy address event) =
      some (after, emitted)) :
    ProxyStep platform browser address event before after emitted := by
  simp only [profileMachine] at taken
  split at taken
  · cases taken
  · rename_i factory present
    split at taken
    · cases taken
    · rename_i outcome handled
      have settled := WhaleProxyingURLLoaderFactory.settled_handle
        (attached address factory present) event outcome handled
      unfold settle removeProxy at taken
      simp only [runsDisconnectCallback_eq_isIdle settled, OwnedSet.get_update, if_pos,
        present, Option.map_some] at taken
      cases idle : outcome.1.isIdle with
      | false =>
          simp only [idle, Bool.false_eq_true, if_false, List.append_nil,
            Option.some.injEq, Prod.mk.injEq] at taken
          obtain ⟨rfl, rfl⟩ := taken
          refine
            { handled := ⟨factory, outcome, present, handled, settled, rfl, ?_⟩
              others := ?_
              nextAddress := rfl
              requestId := rfl }
          · simp [present, idle]
          · intro other different
            simp [different]
      | true =>
          simp only [idle, if_true, List.append_nil, Option.some.injEq,
            Prod.mk.injEq] at taken
          obtain ⟨rfl, rfl⟩ := taken
          refine
            { handled := ⟨factory, outcome, present, handled, settled, rfl, ?_⟩
              others := ?_
              nextAddress := rfl
              requestId := rfl }
          · simp [idle]
          · intro other different
            simp [different]

theorem startProxying_of_taken {frameTreeNodeId : Int}
    (taken : (profileMachine platform).step before
      (browser, .startProxying frameTreeNodeId) = some (after, emitted)) :
    after = (before.startProxying frameTreeNodeId).1 ∧
      emitted = (before.startProxying frameTreeNodeId).2 := by
  have result : before.startProxying frameTreeNodeId = (after, emitted) :=
    Option.some.inj taken
  rw [result]
  exact ⟨rfl, rfl⟩

theorem startProxying_get (profile : ResourceContextData) (frameTreeNodeId : Int)
    (address : Nat) :
    (profile.startProxying frameTreeNodeId).1.proxies.get address =
      if address = profile.proxies.nextAddress then
        some (WhaleProxyingURLLoaderFactory.new frameTreeNodeId (profile.requestId + 1))
      else profile.proxies.get address := by
  simp [startProxying, nextRequestId]

theorem Attached.step (attached : before.Attached) (event : BrowserState × ProfileEvent)
    (taken : (profileMachine platform).step before event = some (after, emitted)) :
    after.Attached := by
  obtain ⟨browser, event⟩ := event
  cases event with
  | startProxying frameTreeNodeId =>
      obtain ⟨rfl, rfl⟩ := startProxying_of_taken taken
      intro address factory present
      rw [startProxying_get] at present
      split at present
      · cases present
        exact WhaleProxyingURLLoaderFactory.attached_new _ _
      · exact attached address factory present
  | proxy address event =>
      have step := proxyStep_of_taken attached taken
      obtain ⟨_, outcome, _, _, settled, _, stored⟩ := step.handled
      intro other factory present
      by_cases same : other = address
      · subst same
        rw [stored] at present
        cases idle : outcome.1.isIdle with
        | true => simp [idle] at present
        | false =>
            simp only [idle, Bool.false_eq_true, if_false, Option.some.injEq] at present
            rw [← present]
            exact settled.attached idle
      · rw [step.others other same] at present
        exact attached other factory present

theorem attached_of_reachable
    {allowed : ResourceContextData → BrowserState × ProfileEvent → Prop}
    {profile : ResourceContextData}
    (reached : (profileMachine platform).Reachable allowed new profile) :
    profile.Attached := by
  refine reached.invariant Attached ?_ ?_
  · intro address factory present
    simp [new] at present
  · intro before event after emitted _reached attached _permitted taken
    exact attached.step event taken

section

variable {outcome : WhaleProxyingURLLoaderFactory × List FactoryEffect}

theorem eq_runDisconnectCallback_of_settled
    (settled : WhaleProxyingURLLoaderFactory.Settled outcome) {effect : FactoryEffect}
    (member : effect ∈ outcome.2) (lifecycle : effect.isLifecycle = true) :
    effect = .runDisconnectCallback := by
  have kept := List.mem_filter.mpr ⟨member, lifecycle⟩
  rw [settled.effects] at kept
  split at kept
  · exact List.mem_singleton.mp kept
  · cases kept

theorem countP_endsProxy_of_settled
    (settled : WhaleProxyingURLLoaderFactory.Settled outcome) (address other : Nat) :
    (outcome.2.map (ProfileEffect.factory address)).countP (ProfileEffect.endsProxy other) =
      if other = address ∧ outcome.1.isIdle = true then 1 else 0 := by
  rw [List.countP_map]
  by_cases same : other = address
  · subst same
    have agree : ProfileEffect.endsProxy other ∘ ProfileEffect.factory other =
        fun effect => effect.runsDisconnectCallback && effect.isLifecycle := by
      funext effect
      cases effect <;> simp [ProfileEffect.endsProxy, FactoryEffect.runsDisconnectCallback,
        FactoryEffect.isLifecycle]
    rw [agree, ← List.countP_filter, settled.effects]
    cases outcome.1.isIdle <;> simp [FactoryEffect.runsDisconnectCallback]
  · have never : ProfileEffect.endsProxy other ∘ ProfileEffect.factory address =
        fun _effect => false := by
      funext effect
      have different : (address == other) = false := by
        simpa using fun equal => same equal.symm
      cases effect <;> simp [ProfileEffect.endsProxy, different]
    rw [never, List.countP_false]
    simp [same]

theorem noFailure_of_settled (settled : WhaleProxyingURLLoaderFactory.Settled outcome)
    (address : Nat) :
    (outcome.2.map (ProfileEffect.factory address)).all
      (fun effect => !effect.isFailure) = true := by
  rw [List.all_eq_true]
  intro effect member
  obtain ⟨factoryEffect, present, rfl⟩ := List.mem_map.mp member
  cases factoryEffect with
  | runSpentCallback =>
      cases eq_runDisconnectCallback_of_settled settled present rfl
  | requestNotFound =>
      cases eq_runDisconnectCallback_of_settled settled present rfl
  | _ => rfl

end

/-- How often the callback of a proxy ran and whether a lookup failed, along a
run. -/
structure CallbackHistory (outputs : List ProfileEffect) (profile : ResourceContextData) :
    Prop where
  once : ∀ address, outputs.countP (ProfileEffect.endsProxy address) =
    if address < profile.proxies.nextAddress ∧ profile.proxies.get address = none then 1
    else 0
  noFailure : outputs.all (fun effect => !effect.isFailure) = true

theorem CallbackHistory.step {outputs : List ProfileEffect}
    (history : CallbackHistory outputs before) (attached : before.Attached)
    (event : BrowserState × ProfileEvent)
    (taken : (profileMachine platform).step before event = some (after, emitted)) :
    CallbackHistory (outputs ++ emitted) after := by
  obtain ⟨browser, event⟩ := event
  cases event with
  | startProxying frameTreeNodeId =>
      obtain ⟨rfl, rfl⟩ := startProxying_of_taken taken
      constructor
      · intro address
        rw [List.countP_append, history.once address, startProxying_get]
        have unended : (before.startProxying frameTreeNodeId).2.countP
            (ProfileEffect.endsProxy address) = 0 := rfl
        have next : (before.startProxying frameTreeNodeId).1.proxies.nextAddress =
            before.proxies.nextAddress + 1 := rfl
        rw [unended, next]
        by_cases isNew : address = before.proxies.nextAddress
        · subst isNew
          simp
        · have earlier : address < before.proxies.nextAddress + 1 ↔
              address < before.proxies.nextAddress := by omega
          simp [isNew, earlier]
      · rw [List.all_append, history.noFailure]
        rfl
  | proxy address event =>
      have step := proxyStep_of_taken attached taken
      obtain ⟨factory, outcome, present, handled, settled, rfl, stored⟩ := step.handled
      constructor
      · intro other
        rw [List.countP_append, history.once other, step.nextAddress,
          countP_endsProxy_of_settled settled]
        by_cases same : other = address
        · subst same
          have created := OwnedSet.lt_of_get present
          rw [stored]
          cases outcome.1.isIdle <;> simp [present, created]
        · rw [step.others other same]
          simp [same]
      · rw [List.all_append, history.noFailure, noFailure_of_settled settled]
        rfl

theorem callbackHistory_of_run
    {allowed : ResourceContextData → BrowserState × ProfileEvent → Prop}
    {events : List (BrowserState × ProfileEvent)} {outputs : List ProfileEffect}
    {profile : ResourceContextData}
    (run : EventMachine.Run (profileMachine platform) allowed new events outputs profile) :
    CallbackHistory outputs profile := by
  refine run.historyInvariant (fun _events outputs profile => CallbackHistory outputs profile)
    ?_ ?_
  · constructor
    · intro address
      simp [new, OwnedSet.empty]
    · rfl
  · intro _events outputs before event after emitted initial history _permitted taken
    exact history.step (attached_of_reachable ⟨_, _, initial⟩) event taken

end ResourceContextData

/-- The life of proxies, along every run of a profile: what holds of the proxies
that are present, when one leaves, and what the callbacks have done. -/
theorem proxy_lifecycle (platform : Platform)
    (events : List (BrowserState × ProfileEvent)) (outputs : List ProfileEffect)
    (profile : ResourceContextData)
    (run : EventMachine.Run (profileMachine platform) EventMachine.anyStep
      ResourceContextData.new events outputs profile) :
    (∀ address factory, profile.proxies.get address = some factory →
      (factory.targetFactoryBound = true ∨ factory.requests.isEmpty = false) ∧
        (factory.proxyReceivers.isEmpty = false → factory.targetFactoryBound = true)) ∧
      (∀ browser address event after emitted,
        (profileMachine platform).step profile (browser, .proxy address event) =
          some (after, emitted) →
        (∃ factory outcome, profile.proxies.get address = some factory ∧
          factory.handle platform browser event = some outcome ∧
          (after.proxies.get address = none ↔
            outcome.1.targetFactoryBound = false ∧ outcome.1.requests.isEmpty = true)) ∧
        ∀ other, other ≠ address →
          after.proxies.get other = profile.proxies.get other) ∧
      (∀ browser frameTreeNodeId after emitted address,
        (profileMachine platform).step profile (browser, .startProxying frameTreeNodeId) =
          some (after, emitted) →
        address < profile.proxies.nextAddress →
        after.proxies.get address = profile.proxies.get address) ∧
      (∀ address, address < profile.proxies.nextAddress →
        outputs.countP (ProfileEffect.endsProxy address) =
          if profile.proxies.get address = none then 1 else 0) ∧
      outputs.all (fun effect => !effect.isFailure) = true := by
  have attached := ResourceContextData.attached_of_reachable ⟨_, _, run⟩
  have history := ResourceContextData.callbackHistory_of_run run
  refine ⟨?_, ?_, ?_, ?_, history.noFailure⟩
  · intro address factory present
    have here := attached address factory present
    refine ⟨?_, here.receivers⟩
    have busy := here.busy
    unfold WhaleProxyingURLLoaderFactory.isIdle at busy
    rw [Bool.and_eq_false_iff, Bool.not_eq_false'] at busy
    exact busy
  · intro browser address event after emitted taken
    have step := ResourceContextData.proxyStep_of_taken attached taken
    obtain ⟨factory, outcome, present, handled, _, _, stored⟩ := step.handled
    refine ⟨⟨factory, outcome, present, handled, ?_⟩, step.others⟩
    have idle : outcome.1.isIdle = true ↔
        outcome.1.targetFactoryBound = false ∧ outcome.1.requests.isEmpty = true := by
      unfold WhaleProxyingURLLoaderFactory.isIdle
      rw [Bool.and_eq_true, Bool.not_eq_true']
    rw [stored, ← idle]
    cases outcome.1.isIdle <;> simp
  · intro browser frameTreeNodeId after emitted address taken earlier
    obtain ⟨rfl, _⟩ := ResourceContextData.startProxying_of_taken taken
    rw [ResourceContextData.startProxying_get, if_neg (Nat.ne_of_lt earlier)]
  · intro address created
    rw [history.once address]
    simp [created]

namespace ProxyLifecycleExample

def browser : BrowserState :=
  referenceBrowser .ask

/-- The target factory goes away first, the last request afterwards. -/
def events : List (BrowserState × ProfileEvent) :=
  [(browser, .startProxying 3),
    (browser, .proxy 0 (.createLoaderAndStart 0
      { requestId := 7
        options := 0
        request := referenceRequest "https://cdn.example.org/" })),
    (browser, .proxy 0 .targetFactoryDisconnected),
    (browser, .proxy 0 (.request 0 .clientDisconnect))]

def execution : Option (ResourceContextData × List ProfileEffect) :=
  (profileMachine referencePlatform).exec (fun _ _ => true) ResourceContextData.new events

theorem completed : execution.isSome = true := by
  decide

def result : ResourceContextData × List ProfileEffect :=
  execution.get completed

end ProxyLifecycleExample

open ProxyLifecycleExample in
theorem proxy_lifecycle_example :
    (result.1.proxies.get 0).isNone = true ∧
      result.2.countP (ProfileEffect.endsProxy 0) =
        (if result.1.proxies.get 0 = none then 1 else 0) ∧
      result.2.all (fun effect => !effect.isFailure) = true :=
  have lifecycle := proxy_lifecycle referencePlatform events result.2 result.1
    ((EventMachine.Run.of_exec (Option.some_get completed).symm).weaken
      fun _ _ _ => trivial)
  ⟨by decide, lifecycle.2.2.2.1 0 (by decide), lifecycle.2.2.2.2⟩

end Whale
