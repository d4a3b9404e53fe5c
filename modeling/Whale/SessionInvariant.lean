/-
What holds of every reachable session.

`Aligned` ties the two pipe ends, the network side and the flags of the request
together and rests on nothing outside the component.  `Vetted` is about URLs and
rests on the documented behaviour of URL parsing and of computed redirects.
-/
import Whale.SessionRules

set_option autoImplicit false

namespace Whale

open Whale.Foundation
open Whale.Url (Text GURL)
open Whale.Net

namespace Session

structure Aligned (session : Session) : Prop where
  receiver : session.request.proxiedClientReceiver = session.request.targetLoader
  network : session.network.map NetworkLoader.loader = session.request.targetLoader
  /-- `request_completed_` says that a redirect is waiting for the client. -/
  completed : session.request.requestCompleted = session.awaiting.isSome
  source : session.request.info.internalRedirect = true →
    session.request.info.redirectSource = GURL.empty
  internal : session.awaiting = some .internal →
    session.request.targetLoader = none ∧ session.request.info.internalRedirect = true

namespace Aligned

variable {platform : Platform} {around : Surroundings} {session : Session}

theorem fresh (arguments : CreateLoaderArguments) : Aligned (Session.fresh arguments) where
  receiver := rfl
  network := rfl
  completed := rfl
  source := fun impossible => by cases impossible
  internal := fun impossible => by cases impossible

theorem prepare (aligned : Aligned session) (params : FollowRedirectParams) :
    Aligned (session.prepare params) where
  receiver := aligned.receiver
  network := aligned.network
  completed := aligned.completed
  source := aligned.source
  internal := aligned.internal

theorem handedOver_network (aligned : Aligned session) :
    (session.handedOverNetwork platform around).map NetworkLoader.loader =
      (session.request.handedOver platform around).targetLoader := by
  unfold handedOverNetwork
  simp only [InProgressRequest.handedOver]
  split
  · rfl
  · split
    · rw [Option.map_map, ← aligned.network]
      rfl
    · exact aligned.network

theorem restart (aligned : Aligned session) :
    Aligned (session.restart platform around).1 := by
  cases asks : session.request.asksForRedirect platform around.browser with
  | true =>
      rw [restart_internal asks]
      exact
        { receiver := rfl
          network := rfl
          completed := rfl
          source := fun _ => rfl
          internal := fun _ => ⟨rfl, rfl⟩ }
  | false =>
      rw [restart_handOver asks]
      have fields := session.request.handedOverContext_redirectFields platform
        around.browser
      refine
        { receiver := ?_
          network := aligned.handedOver_network
          completed := rfl
          source := ?_
          internal := fun impossible => by cases impossible }
      · change (if _ then _ else _) = (if _ then _ else _)
        rw [aligned.receiver]
      · change (session.request.handedOverContext platform around.browser).internalRedirect =
            true → (session.request.handedOverContext platform
              around.browser).redirectSource = GURL.empty
        rw [fields.1, fields.2]
        exact aligned.source

theorem onReceiveRedirect (aligned : Aligned session) (redirectInfo : RedirectInfo)
    (head : URLResponseHead) :
    Aligned (session.receive platform around (.onReceiveRedirect redirectInfo head)).1 := by
  simp only [receive, passive, InProgressRequest.onReceiveRedirect_eq]
  refine
    { receiver := aligned.receiver
      network := ?_
      completed := rfl
      source := ?_
      internal := fun impossible => by cases impossible }
  · change (session.network.map (NetworkLoader.report redirectInfo)).map
      NetworkLoader.loader = _
    rw [Option.map_map]
    exact aligned.network
  · intro impossible
    change (session.request.headersContext platform around.browser).internalRedirect = true
      at impossible
    rw [InProgressRequest.headersContext_internalRedirect] at impossible
    contradiction

theorem created_network (arguments : CreateLoaderArguments) :
    (Session.create platform around arguments).1.network =
      if (Session.fresh arguments).request.asksForRedirect platform around.browser then none
      else if around.targetFactoryBound then
        some (NetworkLoader.start 0
          ((Session.fresh arguments).request.cappedRequest platform around.browser))
      else none := by
  unfold create
  cases asks : (Session.fresh arguments).request.asksForRedirect platform around.browser with
  | true =>
      rw [restart_internal asks]
      rfl
  | false =>
      rw [restart_handOver asks]
      change handedOverNetwork platform around (Session.fresh arguments) = _
      unfold handedOverNetwork
      change (if (true && around.targetFactoryBound) = true then _ else _) = _
      rw [Bool.true_and]
      rfl

theorem followed_network (aligned : Aligned session) (params : FollowRedirectParams) :
    ((session.prepare params).restart platform around).1.network =
      if (session.prepare params).request.asksForRedirect platform around.browser then none
      else
        match session.network with
        | some loader => some (loader.follow platform params)
        | none =>
            if around.targetFactoryBound then
              some (NetworkLoader.start session.request.nextLoader
                ((session.prepare params).request.cappedRequest platform around.browser))
            else none := by
  cases asks : (session.prepare params).request.asksForRedirect platform around.browser with
  | true =>
      rw [restart_internal asks]
      rfl
  | false =>
      rw [restart_handOver asks]
      change handedOverNetwork platform around (session.prepare params) = _
      unfold handedOverNetwork InProgressRequest.startsLoader
      have bound := aligned.network
      cases executing : session.network with
      | none =>
          rw [executing] at bound
          have unbound : (session.prepare params).request.targetLoader = none := bound.symm
          have idle : (session.prepare params).network = none := executing
          rw [unbound, idle, Option.isNone_none, Bool.true_and]
          cases (session.prepare params).request.pendingFollowRedirectParams <;> rfl
      | some loader =>
          rw [executing] at bound
          have held : (session.prepare params).request.targetLoader = some loader.loader :=
            bound.symm
          have saved : (session.prepare params).request.pendingFollowRedirectParams =
              some params := by
            change (if session.request.targetLoader.isSome = true then _ else _) = _
            rw [show session.request.targetLoader = some loader.loader from held]
            rfl
          have same : (session.prepare params).network = some loader := executing
          rw [held, saved, same]
          rfl

/-- The loader of a new request takes the capped request. -/
theorem created_loader {arguments : CreateLoaderArguments} {loader : NetworkLoader}
    (executing : (Session.create platform around arguments).1.network = some loader) :
    loader = NetworkLoader.start 0
      ((Session.fresh arguments).request.cappedRequest platform around.browser) := by
  rw [created_network] at executing
  split at executing
  · cases executing
  · split at executing
    · exact (Option.some.inj executing).symm
    · cases executing

/-- After a `FollowRedirect` the loader is the one before, which has followed, or a
new one, which takes the capped request. -/
theorem followed_loader (aligned : Aligned session) {params : FollowRedirectParams}
    {loader : NetworkLoader}
    (executing : ((session.prepare params).restart platform around).1.network =
      some loader) :
    (session.prepare params).request.asksForRedirect platform around.browser = false ∧
      ((∃ before, session.network = some before ∧ loader = before.follow platform params) ∨
        session.network = none ∧ around.targetFactoryBound = true ∧
          loader = NetworkLoader.start session.request.nextLoader
            ((session.prepare params).request.cappedRequest platform around.browser)) := by
  rw [aligned.followed_network] at executing
  split at executing
  · cases executing
  · rename_i silent
    refine ⟨Bool.eq_false_iff.mpr silent, ?_⟩
    cases present : session.network with
    | some before =>
        rw [present] at executing
        exact Or.inl ⟨before, rfl, (Option.some.inj executing).symm⟩
    | none =>
        simp only [present] at executing
        split at executing
        · rename_i bound
          exact Or.inr ⟨rfl, bound, (Option.some.inj executing).symm⟩
        · cases executing

/-- A response can only arrive from a loader, and an internal redirect has
dropped its loader. -/
theorem onReceiveResponse (aligned : Aligned session) (head : URLResponseHead)
    (body : Option DataPipeConsumerHandle) (cachedMetadata : Option BigBuffer)
    (bound : session.request.proxiedClientReceiver.isSome = true) :
    Aligned (session.receive platform around
      (.onReceiveResponse head body cachedMetadata)).1 := by
  simp only [receive, passive, InProgressRequest.onReceiveResponse_eq]
  refine
    { receiver := aligned.receiver
      network := aligned.network
      completed := aligned.completed
      source := ?_
      internal := ?_ }
  · intro impossible
    change (session.request.headersContext platform around.browser).internalRedirect = true
      at impossible
    rw [InProgressRequest.headersContext_internalRedirect] at impossible
    contradiction
  · intro waiting
    have unbound := (aligned.internal waiting).1
    rw [aligned.receiver, unbound] at bound
    contradiction

end Aligned

end Session

/-! ### The URLs of a request -/

namespace InProgressRequest

variable {platform : Platform} {browser : BrowserState} {self : InProgressRequest}

/-- A restart that asks for a redirect asks for the output of the filter. -/
theorem vetting_of_asks (reparses : platform.ReparsesCanonicalSpecs)
    (asks : self.asksForRedirect platform browser = true) :
    self.request.url.isValid = true ∧
      filterOutcome platform (self.newContext platform browser) =
        some (self.vetting platform browser).newUrl ∧
      FilteredFrom platform self.request.url (self.vetting platform browser).newUrl := by
  cases valid : self.request.url.isValid with
  | false =>
      have nothing := siteHacks_newUrl_of_invalid platform browser
        (self.newContext platform browser) rfl valid
      unfold asksForRedirect vetting at asks
      rw [nothing] at asks
      contradiction
  | true =>
      have deliverable : isDeliverableUrl self.request.url = true := by
        rw [isDeliverableUrl, valid, Bool.true_or]
      have answer : (self.vetting platform browser).newUrl = _ :=
        siteHacks_newUrl platform reparses browser (self.newContext platform browser) rfl
          deliverable
      cases outcome : filterOutcome platform (self.newContext platform browser) with
      | none =>
          rw [outcome] at answer
          unfold asksForRedirect at asks
          rw [answer] at asks
          contradiction
      | some filtered =>
          rw [outcome, Option.getD_some] at answer
          rw [answer]
          exact ⟨rfl, rfl, (filteredFrom_of_filterOutcome deliverable outcome).2⟩

theorem asksForRedirect_eq (reparses : platform.ReparsesCanonicalSpecs)
    (deliverable : isDeliverableUrl self.request.url = true) :
    self.asksForRedirect platform browser =
      (filterOutcome platform (self.newContext platform browser)).isSome := by
  unfold asksForRedirect vetting
  rw [siteHacks_newUrl_isEmpty platform reparses browser
    (self.newContext platform browser) rfl deliverable]
  cases filterOutcome platform (self.newContext platform browser) <;> rfl

/-- Nothing takes the exit for internal redirects, because these redirects have
no source. -/
theorem meetsInternalRedirectExit_newContext (platform : Platform)
    (browser : BrowserState)
    (source : self.info.internalRedirect = true →
      self.info.redirectSource = GURL.empty) :
    meetsInternalRedirectExit (self.newContext platform browser) = false := by
  have fields := self.newContext_redirectFields platform browser
  unfold meetsInternalRedirectExit
  rw [fields.1, fields.2]
  cases isInternal : self.info.internalRedirect with
  | false => exact Bool.and_false _
  | true =>
      rw [source isInternal]
      rfl

theorem internallyRedirected_url (browser : BrowserState)
    (redirects : platform.RedirectsToLocation) :
    (self.internallyRedirected platform browser).request.url =
      (self.vetting platform browser).newUrl :=
  redirects _ rfl

end InProgressRequest

namespace Session

structure Vetted (platform : Platform) (session : Session) : Prop where
  deliverable : isDeliverableUrl session.request.request.url = true
  /-- An unanswered internal redirect leads to an output of the filter. -/
  filtered : session.awaiting = some .internal →
    ∃ source : GURL, source.isValid = true ∧
      FilteredFrom platform source session.request.request.url

namespace Vetted

variable {platform : Platform} {around : Surroundings} {session : Session}

theorem restart (reparses : platform.ReparsesCanonicalSpecs)
    (redirects : platform.RedirectsToLocation)
    (deliverable : isDeliverableUrl session.request.request.url = true) :
    Vetted platform (session.restart platform around).1 := by
  cases asks : session.request.asksForRedirect platform around.browser with
  | true =>
      obtain ⟨valid, _, pass⟩ := InProgressRequest.vetting_of_asks reparses asks
      rw [restart_internal asks]
      have target := session.request.internallyRedirected_url around.browser redirects
      constructor
      · simp only
        rw [target, isDeliverableUrl, pass.valid, Bool.true_or]
      · intro _waiting
        simp only
        rw [target]
        exact ⟨session.request.request.url, valid, pass⟩
  | false =>
      rw [restart_handOver asks]
      exact
        { deliverable := deliverable
          filtered := fun impossible => by cases impossible }

theorem prepare (vetted : Vetted platform session) (params : FollowRedirectParams)
    (urls : params.newUrl.all isDeliverableUrl = true) :
    isDeliverableUrl (session.prepare params).request.request.url = true := by
  change isDeliverableUrl (params.newUrl.getD session.request.request.url) = true
  cases present : params.newUrl with
  | none => exact vetted.deliverable
  | some newUrl =>
      rw [present] at urls
      exact urls

theorem onReceiveRedirect (redirectInfo : RedirectInfo) (head : URLResponseHead)
    (deliverable : isDeliverableUrl redirectInfo.newUrl = true) :
    Vetted platform
      (session.receive platform around (.onReceiveRedirect redirectInfo head)).1 := by
  simp only [receive, passive, InProgressRequest.onReceiveRedirect_eq]
  exact
    { deliverable := deliverable
      filtered := fun impossible => by cases impossible }

theorem onReceiveResponse (vetted : Vetted platform session) (head : URLResponseHead)
    (body : Option DataPipeConsumerHandle) (cachedMetadata : Option BigBuffer) :
    Vetted platform (session.receive platform around
      (.onReceiveResponse head body cachedMetadata)).1 := by
  simp only [receive, passive, InProgressRequest.onReceiveResponse_eq]
  exact { deliverable := vetted.deliverable, filtered := vetted.filtered }

end Vetted

section

variable {platform : Platform} {allowed : RequestStage → Surroundings × RequestEvent → Prop}
  {session : Session}

theorem aligned_of_reachable (reached : ReachableSession platform allowed session) :
    Aligned session :=
  sessionInvariant Aligned
    (fun _around arguments _permitted _urls => (Aligned.fresh arguments).restart)
    (fun _session _around params _reached aligned _permitted _urls =>
      (aligned.prepare params).restart)
    (fun _session _around redirectInfo head _reached aligned _urls _bound =>
      aligned.onReceiveRedirect redirectInfo head)
    (fun _session _around head body cachedMetadata aligned bound =>
      aligned.onReceiveResponse head body cachedMetadata bound)
    reached

theorem vetted_of_reachable (reparses : platform.ReparsesCanonicalSpecs)
    (redirects : platform.RedirectsToLocation)
    (reached : ReachableSession platform allowed session) : Vetted platform session :=
  sessionInvariant (Vetted platform)
    (fun _around _arguments _permitted urls => Vetted.restart reparses redirects urls)
    (fun _session _around params _reached vetted _permitted urls =>
      Vetted.restart reparses redirects (vetted.prepare params urls))
    (fun _session _around redirectInfo head _reached _vetted urls _bound =>
      Vetted.onReceiveRedirect redirectInfo head urls)
    (fun _session _around head body cachedMetadata vetted _bound =>
      vetted.onReceiveResponse head body cachedMetadata)
    reached

end

end Session

end Whale
