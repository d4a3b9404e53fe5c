/-
Requests that nothing will move again.

A request goes on as long as it has a loader or its client has a redirect to
follow.  An internal redirect drops the loader, and the next `FollowRedirect`
creates one only if the target factory is still bound.
-/
import Whale.ProxyRequests

set_option autoImplicit false

namespace Whale

open Whale.Foundation
open Whale.Url (Text GURL)
open Whale.Net

theorem WhaleProxyingURLLoaderFactory.handle_followRedirect
    {self : WhaleProxyingURLLoaderFactory} {platform : Platform} {browser : BrowserState}
    {request : Nat} {params : FollowRedirectParams}
    {outcome : WhaleProxyingURLLoaderFactory × List FactoryEffect}
    (handled : self.handle platform browser (.request request (.followRedirect params)) =
      some outcome) :
    ∃ session, self.requests.get request = some session ∧
      session.delivers (.followRedirect params) = true ∧
      outcome.1 =
        { self with
          requests := self.requests.update request
            ((session.prepare params).restart platform (self.surroundings browser)).1 } := by
  cases handled_of_handle handled with
  | @request _ _ session present delivered =>
      refine ⟨session, present, delivered, ?_⟩
      have goesOn := session.receive_isRemoval platform (self.surroundings browser)
        (.followRedirect params)
      unfold settle
      rw [goesOn]
      rfl

namespace Session

/-- The request has a loader, or waits for its client. -/
def NotStranded (session : Session) : Prop :=
  session.request.targetLoader.isSome = true ∨ session.awaiting.isSome = true

variable {platform : Platform} {around : Surroundings} {session : Session}

/-- After a restart there is a loader to keep or to create, or another internal
redirect to follow. -/
theorem notStranded_restart_iff :
    (session.restart platform around).1.NotStranded ↔
      session.request.targetLoader.isSome = true ∨ around.targetFactoryBound = true ∨
        session.request.asksForRedirect platform around.browser = true := by
  unfold NotStranded
  cases asks : session.request.asksForRedirect platform around.browser with
  | true =>
      rw [restart_internal asks]
      simp
  | false =>
      rw [restart_handOver asks]
      change (if session.request.startsLoader around = true then
        some session.request.nextLoader else session.request.targetLoader).isSome = true ∨
          (none : Option RedirectKind).isSome = true ↔ _
      have starts : session.request.startsLoader around =
          (session.request.targetLoader.isNone && around.targetFactoryBound) := rfl
      rw [starts]
      cases session.request.targetLoader <;> cases around.targetFactoryBound <;> simp

theorem NotStranded.receive (held : NotStranded session) (message : RequestMessage)
    (goesOn : message.endsRequest = false)
    (followable : ∀ params, message = .followRedirect params →
      session.request.targetLoader.isSome = true ∨ around.targetFactoryBound = true ∨
        (session.prepare params).request.asksForRedirect platform around.browser = true) :
    (session.receive platform around message).1.NotStranded := by
  cases message with
  | followRedirect params => exact notStranded_restart_iff.mpr (followable params rfl)
  | onReceiveRedirect => exact Or.inr rfl
  | onReceiveResponse =>
      simp only [Session.receive, passive, InProgressRequest.onReceiveResponse_eq]
      exact held
  | _ =>
      rw [receive_unchanged _ rfl goesOn]
      exact held

end Session

/-- A `FollowRedirect` finds a loader, a bound target factory, or another internal
redirect. -/
def canFollow (platform : Platform) :
    ResourceContextData → BrowserState × ProfileEvent → Bool
  | profile, (browser, .proxy address (.request request (.followRedirect params))) =>
      (profile.proxies.get address).all fun factory =>
        (factory.requests.get request).all fun session =>
          session.request.targetLoader.isSome || factory.targetFactoryBound ||
            (session.prepare params).request.asksForRedirect platform browser
  | _, _ => true

/-- No request is stranded in runs in which every `FollowRedirect` can be
followed. -/
theorem request_notStranded (platform : Platform) (profile : ResourceContextData)
    (reached : (profileMachine platform).Reachable
      (fun profile event => canFollow platform profile event = true)
      ResourceContextData.new profile)
    (address : Nat) (factory : WhaleProxyingURLLoaderFactory)
    (proxyPresent : profile.proxies.get address = some factory) (request : Nat)
    (session : Session) (present : factory.requests.get request = some session) :
    session.NotStranded := by
  refine requestInvariant Session.NotStranded ?_ ?_ reached proxyPresent present
  · intro profile browser address factory receiver call attached proxyPresent live _ _
    -- The call came through a live receiver, so the target factory is bound.
    obtain ⟨_, found⟩ := Option.isSome_iff_exists.mp live
    have bound := (attached address factory proxyPresent).receivers
      (OwnedSet.isEmpty_eq_false_of_get found)
    exact Session.notStranded_restart_iff.mpr (Or.inr (Or.inl bound))
  · intro profile browser address factory request session message _ proxyPresent present
      held _ goesOn permitted
    refine held.receive message goesOn ?_
    rintro params rfl
    simp only [canFollow, proxyPresent, present, Option.all_some, Bool.or_eq_true,
      or_assoc] at permitted
    exact permitted

/-- The condition is exact: a `FollowRedirect` that it excludes strands its request. -/
theorem followRedirect_notStranded_iff (platform : Platform) (profile after : ResourceContextData)
    (reached : (profileMachine platform).Reachable EventMachine.anyStep
      ResourceContextData.new profile)
    (browser : BrowserState) (address request : Nat) (params : FollowRedirectParams)
    (emitted : List ProfileEffect)
    (taken : (profileMachine platform).step profile
      (browser, .proxy address (.request request (.followRedirect params))) =
        some (after, emitted)) :
    ∃ factory session, after.proxies.get address = some factory ∧
      factory.requests.get request = some session ∧
      (session.NotStranded ↔
        canFollow platform profile
          (browser, .proxy address (.request request (.followRedirect params))) = true) := by
  have attached := ResourceContextData.attached_of_reachable reached
  have step := ResourceContextData.proxyStep_of_taken attached taken
  obtain ⟨factory, outcome, proxyPresent, handled, settled, _, stored⟩ := step.handled
  obtain ⟨session, present, _, result⟩ :=
    WhaleProxyingURLLoaderFactory.handle_followRedirect handled
  have found : outcome.1.requests.get request =
      some ((session.prepare params).restart platform (factory.surroundings browser)).1 := by
    rw [result]
    simp [present]
  have busy : outcome.1.isIdle = false := by
    unfold WhaleProxyingURLLoaderFactory.isIdle
    rw [OwnedSet.isEmpty_eq_false_of_get found, Bool.and_false]
  rw [busy] at stored
  refine ⟨outcome.1, _, stored, found, ?_⟩
  rw [Session.notStranded_restart_iff]
  simp only [canFollow, proxyPresent, present, Option.all_some, Bool.or_eq_true, or_assoc]
  exact Iff.rfl

namespace StrandingExample

def browser : BrowserState :=
  referenceBrowser .ask

/-- The filter redirects the request internally, so it has no loader. -/
def waiting : List (BrowserState × ProfileEvent) :=
  [(browser, .startProxying 3),
    (browser, .proxy 0 (.createLoaderAndStart 0
      { requestId := 7
        options := 0
        request := referenceRequest "https://cdn.example.org/?fbclid=1" }))]

def follow : BrowserState × ProfileEvent :=
  (browser, .proxy 0 (.request 0 (.followRedirect plainFollowUp)))

def execution (allowed : ResourceContextData → BrowserState × ProfileEvent → Bool)
    (events : List (BrowserState × ProfileEvent)) :
    Option (ResourceContextData × List ProfileEffect) :=
  (profileMachine referencePlatform).exec allowed ResourceContextData.new events

theorem followed_completes :
    (execution (canFollow referencePlatform) (waiting ++ [follow])).isSome = true := by
  decide

def followed : ResourceContextData :=
  ((execution (canFollow referencePlatform) (waiting ++ [follow])).get followed_completes).1

theorem stranded_completes :
    (execution (fun _ _ => true)
      (waiting ++ [(browser, .proxy 0 (.receiverDisconnected 0)), follow])).isSome =
        true := by
  decide

def stranded : ResourceContextData :=
  ((execution (fun _ _ => true)
    (waiting ++ [(browser, .proxy 0 (.receiverDisconnected 0)), follow])).get
      stranded_completes).1

end StrandingExample

open StrandingExample in
theorem request_notStranded_example :
    Session.NotStranded
      ((((followed.proxies.get 0).get (by decide)).requests.get 0).get (by decide)) :=
  request_notStranded referencePlatform followed
    ⟨_, _, EventMachine.Run.of_exec (Option.some_get followed_completes).symm⟩ 0 _
    (Option.some_get _).symm 0 _ (Option.some_get _).symm

open StrandingExample in
/-- The request has neither a loader nor a redirect that its client could follow. -/
theorem request_stranded :
    (profileMachine referencePlatform).Reachable EventMachine.anyStep
        ResourceContextData.new stranded ∧
      ∃ factory session, stranded.proxies.get 0 = some factory ∧
        factory.requests.get 0 = some session ∧ ¬session.NotStranded := by
  refine ⟨⟨_, _, (EventMachine.Run.of_exec (Option.some_get stranded_completes).symm).weaken
    fun _ _ _ => trivial⟩, _, _, (Option.some_get (by decide)).symm,
    (Option.some_get (by decide)).symm, ?_⟩
  unfold Session.NotStranded
  decide

end Whale
