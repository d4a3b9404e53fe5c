/-
What is vetted in a profile, and what is reported of it.

Each event vets at most one request, with a context built at that moment.  The
names that are reported to the tab of the request are those that the query filter
drops from the URL in the context.
-/
import Whale.ProxyRequests

set_option autoImplicit false

namespace Whale

open Whale.Foundation
open Whale.Url (Text GURL)
open Whale.Net

/-! ### The names that a vetting reports -/

def droppedNames (platform : Platform) (url : GURL) : List Text :=
  (droppedSegments platform url.queryPiece url.spec).map segmentKey

/-- What is stripped from the URL of a context, if the filter runs and finds something. -/
def strippedNames (platform : Platform) (ctx : WhaleRequestInfo) : Option (List Text) :=
  if ctx.requestUrl.isValid && (filterOutcome platform ctx).isSome then
    some (droppedNames platform ctx.requestUrl)
  else none

theorem filterRequestUrl_removed (platform : Platform) (ctx : WhaleRequestInfo) :
    (filterRequestUrl platform ctx []).2 = droppedNames platform ctx.requestUrl := by
  have recorded : (applyQueryFilter platform ctx.requestUrl []).2 =
      droppedNames platform ctx.requestUrl := by
    rw [applyQueryFilter_eq]
    exact List.nil_append _
  rw [← recorded]
  unfold filterRequestUrl
  rcases applyQueryFilter platform ctx.requestUrl [] with ⟨_ | url, removed⟩ <;> rfl

/-- The last steps of the site hacks for a URL that reaches the filter. -/
theorem filterStep_blockedParams (platform : Platform) (ctx : WhaleRequestInfo)
    (desktop : platform.isAndroid = false) (fresh : ctx.newUrlSpec = [])
    (notInternal : isInternalScheme platform ctx = false)
    (notNaver : ctx.requestUrl.domainIs naverDomain = false) (reports : Bool) :
    (if (applyPotentialQueryStringFilter platform ctx []).1.newUrlSpec ≠ [] ∧
        (applyPotentialQueryStringFilter platform ctx []).1.newUrlSpec ≠
          (applyPotentialQueryStringFilter platform ctx []).1.requestUrl.spec then
      (if reports then some (applyPotentialQueryStringFilter platform ctx []).2 else none)
    else none) = if reports then strippedNames platform ctx else none := by
  rw [applyPotentialQueryStringFilter_eq platform ctx [] notInternal notNaver]
  unfold strippedNames filterOutcome
  rw [desktop, Bool.false_or]
  cases excused : isExempt platform ctx || meetsInternalRedirectExit ctx with
  | true => simp [fresh]
  | false =>
      simp only [Bool.false_eq_true, if_false, filterRequestUrl_removed]
      rw [filterRequestUrl_ctx]
      cases outcome : (applyQueryFilter platform ctx.requestUrl []).1 with
      | none => simp [fresh]
      | some filtered =>
          cases valid : ctx.requestUrl.isValid with
          | false =>
              have isBlank := applyQueryFilter_of_invalid platform ctx.requestUrl filtered []
                valid outcome
              simp [isBlank, GURL.spec_empty]
          | true =>
              have pass := filteredFrom_of_applyQueryFilter valid outcome
              have written : filtered.spec ≠ [] ∧ filtered.spec ≠ ctx.requestUrl.spec :=
                ⟨filtered.spec_ne_nil_of_valid pass.valid,
                  spec_ne_of_filteredFrom valid pass⟩
              simp only [if_pos written, Option.isSome_some, Bool.and_self, if_true]

theorem siteHacks_blockedParams (platform : Platform) (browser : BrowserState)
    (ctx : WhaleRequestInfo) (fresh : ctx.newUrlSpec = []) (newUrl : GURL) :
    (onBeforeURLRequestSiteHacksWork platform browser ctx newUrl).blockedParams =
      if hasShieldsDataController browser ctx.frameTreeNodeId then strippedNames platform ctx
      else none := by
  have capped := applyPotentialReferrerBlock_ctx platform ctx
  unfold onBeforeURLRequestSiteHacksWork
  cases android : platform.isAndroid with
  | true => simp [strippedNames, filterOutcome, android]
  | false =>
      simp only [Bool.false_eq_true, if_false]
      rw [capped]
      generalize (applyPotentialReferrerBlock platform ctx).1.newReferrer = newReferrer
      -- Neither the exemptions nor the report look at what the cap has written.
      change _ = if hasShieldsDataController browser ctx.frameTreeNodeId then
        strippedNames platform { ctx with newReferrer := newReferrer } else none
      cases early : isInternalScheme platform { ctx with newReferrer := newReferrer } ||
          ctx.requestUrl.domainIs naverDomain || !ctx.requestUrl.hasQuery with
      | true =>
          have nothing := filterOutcome_early platform { ctx with newReferrer := newReferrer }
            early
          simp [strippedNames, nothing]
      | false =>
          simp only [Bool.or_eq_false_iff] at early
          rw [← filterStep_blockedParams platform { ctx with newReferrer := newReferrer }
            android fresh early.1.1 early.1.2]
          obtain ⟨_, sameContext⟩ := applyPotentialQueryStringFilter_ctx platform
            { ctx with newReferrer := newReferrer } [] early.1.1 early.1.2
          have sameFrame : (applyPotentialQueryStringFilter platform
              { ctx with newReferrer := newReferrer } []).1.frameTreeNodeId =
                ctx.frameTreeNodeId := by
            rw [sameContext]
          simp only [Bool.false_eq_true, if_false, sameFrame]
          split <;> rfl

/-! ### The vetting in a list of effects -/

def Effect.vettedContext : Effect → Option WhaleRequestInfo
  | .siteHacks ctx => some ctx
  | _ => none

def Effect.reportedNames : Effect → Option (List Text)
  | .handleURLParamsBlocked params => some params
  | _ => none

def FactoryEffect.vettedContext : FactoryEffect → Option WhaleRequestInfo
  | .request _ effect => effect.vettedContext
  | _ => none

def FactoryEffect.reportedNames : FactoryEffect → Option (List Text)
  | .request _ effect => effect.reportedNames
  | _ => none

def ProfileEffect.vettedContext : ProfileEffect → Option WhaleRequestInfo
  | .factory _ effect => effect.vettedContext
  | _ => none

def ProfileEffect.reportedNames : ProfileEffect → Option (List Text)
  | .factory _ effect => effect.reportedNames
  | _ => none

/-- A context as `MakeCTX` builds it, before anything is written into it. -/
structure WhaleRequestInfo.Fresh (platform : Platform) (browser : BrowserState)
    (ctx : WhaleRequestInfo) : Prop where
  newUrlSpec : ctx.newUrlSpec = []
  enableTrackingBlocker : ctx.enableTrackingBlocker =
    getTrackingBlockerEnabled platform browser.settings
      (tabOriginURL platform browser ctx.frameTreeNodeId)
  allowReferrers : ctx.allowReferrers =
    !isTrackingBlockerMaxLevel platform browser.settings
      (tabOriginURL platform browser ctx.frameTreeNodeId)

/-- Nothing is vetted, or one context is, and its names are reported to a tab that
takes reports. -/
inductive VetsOne (platform : Platform) (browser : BrowserState) :
    List WhaleRequestInfo → List (List Text) → Prop
  | nothing : VetsOne platform browser [] []
  | context {ctx : WhaleRequestInfo} (fresh : ctx.Fresh platform browser) :
      VetsOne platform browser [ctx]
        (if hasShieldsDataController browser ctx.frameTreeNodeId then
          (strippedNames platform ctx).toList
        else [])

theorem InProgressRequest.newContext_fresh (platform : Platform) (browser : BrowserState)
    (self : InProgressRequest) : (self.newContext platform browser).Fresh platform browser where
  newUrlSpec := rfl
  enableTrackingBlocker := rfl
  allowReferrers := rfl

namespace Session

variable {platform : Platform} {around : Surroundings} {session : Session}

/-- Neither outcome of a restart vets or reports again. -/
theorem restart_vettings :
    (session.restart platform around).2.filterMap Effect.vettedContext =
        [session.request.newContext platform around.browser] ∧
      (session.restart platform around).2.filterMap Effect.reportedNames =
        (session.request.vetting platform around.browser).blockedParams.toList := by
  have vetting : (session.request.vettingEffects platform around.browser).filterMap
        Effect.vettedContext = [session.request.newContext platform around.browser] ∧
      (session.request.vettingEffects platform around.browser).filterMap
        Effect.reportedNames =
          (session.request.vetting platform around.browser).blockedParams.toList := by
    unfold InProgressRequest.vettingEffects
    cases (session.request.vetting platform around.browser).blockedParams <;> exact ⟨rfl, rfl⟩
  cases asks : session.request.asksForRedirect platform around.browser with
  | true =>
      rw [restart_internal asks]
      simp only [List.filterMap_append, vetting.1, vetting.2]
      exact ⟨List.append_nil _, List.append_nil _⟩
  | false =>
      have quiet : ∀ {α : Type} (read : Effect → Option α),
          (∀ loader params, read (.loaderFollowRedirect loader params) = none) →
          (∀ loader networkServiceRequestId options request,
            read (.createLoaderAndStart loader networkServiceRequestId options request) =
              none) →
          (session.request.handOverEffects platform around).filterMap read = [] := by
        intro α read forwards starts
        rw [List.filterMap_eq_nil_iff]
        intro effect member
        rcases List.mem_append.mp member with forwarded | started
        · obtain ⟨_, _, rfl, _⟩ := InProgressRequest.mem_forwardEffects.mp forwarded
          exact forwards _ _
        · obtain ⟨_, rfl⟩ := InProgressRequest.mem_startEffects.mp started
          exact starts _ _ _ _
      rw [restart_handOver asks]
      simp only [List.filterMap_append, vetting.1, vetting.2,
        quiet Effect.vettedContext (fun _ _ => rfl) (fun _ _ _ _ => rfl),
        quiet Effect.reportedNames (fun _ _ => rfl) (fun _ _ _ _ => rfl)]
      exact ⟨List.append_nil _, List.append_nil _⟩

theorem restart_vetsOne (platform : Platform) (around : Surroundings) (session : Session) :
    VetsOne platform around.browser
      ((session.restart platform around).2.filterMap Effect.vettedContext)
      ((session.restart platform around).2.filterMap Effect.reportedNames) := by
  rw [restart_vettings.1, restart_vettings.2, InProgressRequest.vetting,
    siteHacks_blockedParams platform around.browser _ rfl]
  have vetted := VetsOne.context
    (session.request.newContext_fresh platform around.browser)
  split at vetted
  · rename_i reports
    rw [if_pos reports]
    exact vetted
  · rename_i silent
    rw [if_neg silent]
    exact vetted

theorem receive_vetsOne (platform : Platform) (around : Surroundings) (session : Session)
    (message : RequestMessage) :
    VetsOne platform around.browser
      ((session.receive platform around message).2.filterMap Effect.vettedContext)
      ((session.receive platform around message).2.filterMap Effect.reportedNames) := by
  by_cases follows : ∃ params, message = .followRedirect params
  · obtain ⟨params, rfl⟩ := follows
    exact restart_vetsOne platform around (session.prepare params)
  · have silent : (session.receive platform around message).2.filterMap
          Effect.vettedContext = [] ∧
        (session.receive platform around message).2.filterMap Effect.reportedNames = [] := by
      rw [List.filterMap_eq_nil_iff, List.filterMap_eq_nil_iff]
      have quiet : ∀ effect ∈ (session.receive platform around message).2,
          effect.vettedContext = none ∧ effect.reportedNames = none := by
        intro effect member
        have caused := mayCause_of_mem message member
        cases effect with
        | siteHacks | handleURLParamsBlocked =>
            cases message with
            | followRedirect params => exact absurd ⟨params, rfl⟩ follows
            | _ => cases caused
        | _ => exact ⟨rfl, rfl⟩
      exact ⟨fun effect member => (quiet effect member).1,
        fun effect member => (quiet effect member).2⟩
    rw [silent.1, silent.2]
    exact VetsOne.nothing

end Session

namespace WhaleProxyingURLLoaderFactory

variable {self : WhaleProxyingURLLoaderFactory} {platform : Platform}
  {browser : BrowserState}

theorem filterMap_of_silent {α : Type} (read : FactoryEffect → Option α)
    (lifecycle : ∀ effect, effect.isLifecycle = true → read effect = none) :
    self.maybeRemoveProxy.2.filterMap read = [] ∧
      ∀ request, (self.removeRequest request).2.filterMap read = [] := by
  have callback : ∀ other : WhaleProxyingURLLoaderFactory,
      other.maybeRemoveProxy.2.filterMap read = [] := by
    intro other
    unfold maybeRemoveProxy
    split
    · rfl
    · split
      · simp [lifecycle .runDisconnectCallback rfl]
      · simp [lifecycle .runSpentCallback rfl]
  refine ⟨callback self, ?_⟩
  intro request
  unfold removeRequest
  split
  · simp [lifecycle .requestNotFound rfl]
  · exact callback _

theorem settle_filterMap {α : Type} (read : FactoryEffect → Option α)
    (lifecycle : ∀ effect, effect.isLifecycle = true → read effect = none) (request : Nat)
    (outcome : Session × List Effect) :
    (self.settle request outcome).2.filterMap read =
      outcome.2.filterMap fun effect => read (.request request effect) := by
  have removal : ∀ stored : WhaleProxyingURLLoaderFactory,
      (if outcome.2.any Effect.isRemoval then stored.removeRequest request
        else (stored, [])).2.filterMap read = [] := by
    intro stored
    split
    · exact (filterMap_of_silent read lifecycle).2 request
    · rfl
  unfold settle
  rw [List.filterMap_append, List.filterMap_map, removal, List.append_nil]
  rfl

theorem handle_vetsOne {event : FactoryEvent}
    {outcome : WhaleProxyingURLLoaderFactory × List FactoryEffect}
    (handled : self.handle platform browser event = some outcome) :
    VetsOne platform browser (outcome.2.filterMap FactoryEffect.vettedContext)
      (outcome.2.filterMap FactoryEffect.reportedNames) := by
  have contexts : ∀ effect : FactoryEffect, effect.isLifecycle = true →
      effect.vettedContext = none := by
    intro effect lifecycle
    cases effect with
    | request => cases lifecycle
    | _ => rfl
  have names : ∀ effect : FactoryEffect, effect.isLifecycle = true →
      effect.reportedNames = none := by
    intro effect lifecycle
    cases effect with
    | request => cases lifecycle
    | _ => rfl
  cases handled_of_handle handled with
  | @createLoaderAndStart receiver call live deliverable =>
      unfold createLoaderAndStart
      simp only [List.filterMap_cons, FactoryEffect.vettedContext,
        FactoryEffect.reportedNames, settle_filterMap _ contexts, settle_filterMap _ names]
      exact Session.restart_vetsOne platform (self.surroundings browser)
        (Session.fresh (self.createArguments call))
  | clone live => exact VetsOne.nothing
  | receiverDisconnected live =>
      rw [onProxyBindingError, (filterMap_of_silent _ contexts).1,
        (filterMap_of_silent _ names).1]
      exact VetsOne.nothing
  | targetFactoryDisconnected bound =>
      rw [onTargetFactoryError, (filterMap_of_silent _ contexts).1,
        (filterMap_of_silent _ names).1]
      exact VetsOne.nothing
  | @request object message session present delivered =>
      rw [settle_filterMap _ contexts, settle_filterMap _ names]
      exact Session.receive_vetsOne platform (self.surroundings browser) session message

end WhaleProxyingURLLoaderFactory

/-- Each event of a profile vets at most one request. -/
theorem profileMachine_vetsOne {platform : Platform} {browser : BrowserState}
    {before after : ResourceContextData} {event : ProfileEvent}
    {emitted : List ProfileEffect} (attached : before.Attached)
    (taken : (profileMachine platform).step before (browser, event) = some (after, emitted)) :
    VetsOne platform browser (emitted.filterMap ProfileEffect.vettedContext)
      (emitted.filterMap ProfileEffect.reportedNames) := by
  cases event with
  | startProxying frameTreeNodeId =>
      obtain ⟨_, rfl⟩ := ResourceContextData.startProxying_of_taken taken
      exact VetsOne.nothing
  | proxy address event =>
      obtain ⟨factory, outcome, _, handled, _, rfl, _⟩ :=
        (ResourceContextData.proxyStep_of_taken attached taken).handled
      rw [List.filterMap_map, List.filterMap_map]
      exact WhaleProxyingURLLoaderFactory.handle_vetsOne handled

end Whale
