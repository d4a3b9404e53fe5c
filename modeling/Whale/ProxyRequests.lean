/-
The requests inside a profile.

Whatever the proxies and their owners do, each request goes through steps of the
session machine.  `requestInvariant` reduces a property of every request in a
reachable profile to creations and messages.
-/
import Whale.ProxyLifecycle
import Whale.SessionInvariant

set_option autoImplicit false

namespace Whale

open Whale.Foundation
open Whale.Url (Text GURL)
open Whale.Net

namespace WhaleProxyingURLLoaderFactory

variable {self : WhaleProxyingURLLoaderFactory} {platform : Platform}
  {browser : BrowserState}

theorem maybeRemoveProxy_requests : self.maybeRemoveProxy.1.requests = self.requests := by
  unfold maybeRemoveProxy
  split
  · rfl
  · split <;> rfl

theorem settle_requests {request other : Nat} {outcome : Session × List Effect}
    {session : Session}
    (present : (self.settle request outcome).1.requests.get other = some session) :
    (other ≠ request ∧ self.requests.get other = some session) ∨
      other = request ∧ outcome.2.any Effect.isRemoval = false ∧ session = outcome.1 := by
  unfold settle at present
  by_cases same : other = request
  · subst same
    refine Or.inr ⟨rfl, ?_⟩
    cases removes : outcome.2.any Effect.isRemoval with
    | false =>
        simp only [removes, Bool.false_eq_true, if_false, OwnedSet.get_update, if_true] at present
        obtain ⟨_, _, rfl⟩ := Option.map_eq_some_iff.mp present
        exact ⟨rfl, rfl⟩
    | true =>
        simp only [removes, if_true, removeRequest] at present
        split at present
        · rename_i missing
          rw [missing] at present
          cases present
        · rw [maybeRemoveProxy_requests] at present
          simp at present
  · refine Or.inl ⟨same, ?_⟩
    cases removes : outcome.2.any Effect.isRemoval with
    | false =>
        simpa only [removes, Bool.false_eq_true, if_false, OwnedSet.get_update,
          if_neg same] using present
    | true =>
        simp only [removes, if_true, removeRequest] at present
        split at present
        · simpa only [OwnedSet.get_update, if_neg same] using present
        · rw [maybeRemoveProxy_requests] at present
          simpa only [OwnedSet.get_erase, OwnedSet.get_update, if_neg same] using present

theorem handle_requests {event : FactoryEvent}
    {outcome : WhaleProxyingURLLoaderFactory × List FactoryEffect}
    (handled : self.handle platform browser event = some outcome) {request : Nat}
    {session : Session} (present : outcome.1.requests.get request = some session) :
    self.requests.get request = some session ∨
      (∃ receiver call, event = .createLoaderAndStart receiver call ∧
        (self.proxyReceivers.get receiver).isSome = true ∧
        isDeliverableUrl call.request.url = true ∧
        session = (Session.create platform (self.surroundings browser)
          (self.createArguments call)).1) ∨
      ∃ before message, event = .request request message ∧
        self.requests.get request = some before ∧ before.delivers message = true ∧
        message.endsRequest = false ∧
        session = (before.receive platform (self.surroundings browser) message).1 := by
  cases handled_of_handle handled with
  | @createLoaderAndStart receiver call live deliverable =>
      rcases settle_requests present with ⟨other, old⟩ | ⟨_, _, created⟩
      · rw [OwnedSet.get_emplace, if_neg other] at old
        exact Or.inl old
      · exact Or.inr (Or.inl ⟨receiver, call, rfl, live, deliverable, created⟩)
  | clone live => exact Or.inl present
  | receiverDisconnected live =>
      rw [onProxyBindingError, maybeRemoveProxy_requests] at present
      exact Or.inl present
  | targetFactoryDisconnected bound =>
      rw [onTargetFactoryError, maybeRemoveProxy_requests] at present
      exact Or.inl present
  | @request address message before found delivered =>
      rcases settle_requests present with ⟨_, old⟩ | ⟨rfl, goesOn, received⟩
      · exact Or.inl old
      · rw [Session.receive_isRemoval] at goesOn
        exact Or.inr (Or.inr ⟨before, message, rfl, found, delivered, goesOn, received⟩)

end WhaleProxyingURLLoaderFactory

/-- What creations and messages keep holds of every request of every reachable
profile. -/
theorem requestInvariant {platform : Platform}
    {allowed : ResourceContextData → BrowserState × ProfileEvent → Prop}
    (holds : Session → Prop)
    (created : ∀ profile browser address factory receiver call,
      profile.Attached → profile.proxies.get address = some factory →
      (factory.proxyReceivers.get receiver).isSome = true →
      isDeliverableUrl call.request.url = true →
      allowed profile (browser, .proxy address (.createLoaderAndStart receiver call)) →
      holds (Session.create platform (factory.surroundings browser)
        (factory.createArguments call)).1)
    (received : ∀ profile browser address factory request session message,
      (profileMachine platform).Reachable allowed ResourceContextData.new profile →
      profile.proxies.get address = some factory →
      factory.requests.get request = some session → holds session →
      session.delivers message = true → message.endsRequest = false →
      allowed profile (browser, .proxy address (.request request message)) →
      holds (session.receive platform (factory.surroundings browser) message).1)
    {profile : ResourceContextData}
    (reached : (profileMachine platform).Reachable allowed ResourceContextData.new profile)
    {address : Nat} {factory : WhaleProxyingURLLoaderFactory} {request : Nat}
    {session : Session} (proxyPresent : profile.proxies.get address = some factory)
    (present : factory.requests.get request = some session) : holds session := by
  have everywhere := reached.invariant
    (fun profile => ∀ address factory request session,
      profile.proxies.get address = some factory →
      factory.requests.get request = some session → holds session) ?_ ?_
  · exact everywhere address factory request session proxyPresent present
  · intro address factory request session proxyPresent _present
    simp [ResourceContextData.new] at proxyPresent
  · rintro before ⟨browser, event⟩ after emitted reached heldBefore permitted taken
      address factory request session proxyPresent present
    have attached := ResourceContextData.attached_of_reachable reached
    cases event with
    | startProxying frameTreeNodeId =>
        obtain ⟨rfl, _⟩ := ResourceContextData.startProxying_of_taken taken
        rw [ResourceContextData.startProxying_get] at proxyPresent
        split at proxyPresent
        · cases proxyPresent
          simp [WhaleProxyingURLLoaderFactory.new] at present
        · exact heldBefore address factory request session proxyPresent present
    | proxy stepped event =>
        have step := ResourceContextData.proxyStep_of_taken attached taken
        by_cases same : address = stepped
        · subst same
          obtain ⟨old, outcome, oldPresent, handled, _, _, stored⟩ := step.handled
          rw [stored] at proxyPresent
          split at proxyPresent
          · cases proxyPresent
          · cases proxyPresent
            rcases WhaleProxyingURLLoaderFactory.handle_requests handled present with
              unchanged | ⟨receiver, call, rfl, live, deliverable, rfl⟩ |
                ⟨earlier, message, rfl, found, delivered, goesOn, rfl⟩
            · exact heldBefore address old request session oldPresent unchanged
            · exact created before browser address old receiver call attached oldPresent
                live deliverable permitted
            · exact received before browser address old request earlier message reached
                oldPresent found (heldBefore address old request earlier oldPresent found)
                delivered goesOn permitted
        · rw [step.others address same] at proxyPresent
          exact heldBefore address factory request session proxyPresent present

end Whale
