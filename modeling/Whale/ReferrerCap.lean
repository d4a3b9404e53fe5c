/-
The referrer that the network uses.

At the maximum level the cap is computed in every restart and written into the
request.  A loader that is created afterwards takes it from there.  A forwarded
`FollowRedirect` does not carry it: the loader goes on with the referrer that the
network computed for the redirect.
-/
import Whale.SessionInvariant
import Whale.ReferenceSession

set_option autoImplicit false

namespace Whale

open Whale.Foundation
open Whale.Url (Text GURL)
open Whale.Net

def isBareOrigin (platform : Platform) (url : GURL) : Prop :=
  ∃ source, url = platform.originURL (platform.createOrigin source)

def acceptableReferrer (platform : Platform) (referrer url : GURL) : Prop :=
  referrer.isEmpty = true ∨ isSameOriginNavigation platform referrer url = true ∨
    referrer.domainIs naverDomain = true ∨ isBareOrigin platform referrer

/-- The cap would change nothing but a bare origin. -/
theorem acceptableReferrer_iff (platform : Platform) (referrer url : GURL) :
    acceptableReferrer platform referrer url ↔
      maybeChangeReferrer platform referrer url none = none ∨
        isBareOrigin platform referrer := by
  rw [maybeChangeReferrer_eq_none_iff, or_assoc, or_assoc]
  rfl

/-- The tab of the frame is at the maximum level and not an extension's. -/
def capsReferrers (platform : Platform) (browser : BrowserState) (frameTreeNodeId : Int) :
    Bool :=
  isTrackingBlockerMaxLevel platform browser.settings
      (tabOriginURL platform browser frameTreeNodeId) &&
    !(tabOriginURL platform browser frameTreeNodeId).schemeIs kExtensionScheme

def isSubresource (request : ResourceRequest) : Bool :=
  request.resourceType != ResourceType.kMainFrame &&
    request.resourceType != ResourceType.kSubFrame

namespace InProgressRequest

variable {platform : Platform} {browser : BrowserState} {self : InProgressRequest}

theorem cappedReferrer_newContext
    (caps : capsReferrers platform browser self.frameTreeNodeId = true)
    (subresource : isSubresource self.request = true) :
    cappedReferrer platform (self.newContext platform browser) =
      (maybeChangeReferrer platform self.request.referrer self.request.url none).map
        Referrer.url := by
  simp only [capsReferrers, Bool.and_eq_true, Bool.not_eq_true'] at caps
  simp only [isSubresource, Bool.and_eq_true, bne_iff_ne, ne_eq] at subresource
  have desktop : platform.isAndroid = false := by
    cases android : platform.isAndroid with
    | false => rfl
    | true =>
        have max := caps.1
        rw [isTrackingBlockerMaxLevel, android, if_pos rfl] at max
        contradiction
  have blocks : (self.newContext platform browser).allowReferrers = false := by
    change (!isTrackingBlockerMaxLevel platform browser.settings _) = false
    rw [caps.1]
    rfl
  have ordinaryTab :
      (self.newContext platform browser).tabOrigin.schemeIs kExtensionScheme = false :=
    caps.2
  have notFrame : ¬((self.newContext platform browser).resourceType =
        ResourceType.kMainFrame ∨
      (self.newContext platform browser).resourceType = ResourceType.kSubFrame) :=
    fun frame => frame.elim subresource.1 subresource.2
  unfold cappedReferrer applyPotentialReferrerBlock
  rw [desktop, blocks, ordinaryTab]
  simp only [Bool.false_eq_true, if_false, if_neg notFrame]
  have asked : maybeChangeReferrer platform (self.newContext platform browser).referrer
      (self.newContext platform browser).requestUrl none =
        maybeChangeReferrer platform self.request.referrer self.request.url none := rfl
  rw [asked]
  cases maybeChangeReferrer platform self.request.referrer self.request.url none <;> rfl

/-- So every loader that is created starts with an acceptable referrer. -/
theorem cappedRequest_acceptable (sanitizes : platform.SanitizesCrossOrigin)
    (caps : capsReferrers platform browser self.frameTreeNodeId = true)
    (subresource : isSubresource self.request = true) :
    acceptableReferrer platform (self.cappedRequest platform browser).referrer
      (self.cappedRequest platform browser).url := by
  have capped : (self.cappedRequest platform browser).referrer =
      ((maybeChangeReferrer platform self.request.referrer self.request.url none).map
        Referrer.url).getD self.request.referrer := by
    unfold cappedRequest
    rw [vetting_newReferrer, cappedReferrer_newContext caps subresource]
  rw [capped]
  cases outcome : maybeChangeReferrer platform self.request.referrer self.request.url none with
  | none => exact (acceptableReferrer_iff platform _ _).mpr (Or.inl outcome)
  | some output =>
      rcases maybeChangeReferrer_some platform sanitizes _ _ output outcome with
        origin | blank
      · exact Or.inr (Or.inr (Or.inr ⟨self.request.referrer, origin⟩))
      · exact Or.inl blank

end InProgressRequest

def subresourceSteps (platform : Platform) :
    RequestStage → Surroundings × RequestEvent → Prop
  | .notCreated, (around, .create arguments) =>
      capsReferrers platform around.browser arguments.frameTreeNodeId = true ∧
        isSubresource arguments.request = true
  | .inProgress session, (around, .message (.followRedirect _)) =>
      capsReferrers platform around.browser session.request.frameTreeNodeId = true
  | _, _ => True

/-- When a `FollowRedirect` is forwarded, the referrer that the network computed
is one that the cap leaves alone, or a bare origin. -/
def forwardsCappedReferrers (platform : Platform) :
    RequestStage → Surroundings × RequestEvent → Prop
  | .inProgress session, (around, .message (.followRedirect params)) =>
      (session.prepare params).request.asksForRedirect platform around.browser = false →
        ∀ loader, session.network = some loader →
          maybeChangeReferrer platform (loader.followedReferrer platform)
              (loader.followedUrl params) none = none ∨
            isBareOrigin platform (loader.followedReferrer platform)
  | _, _ => True

namespace Session

variable {platform : Platform} {around : Surroundings} {session : Session}

structure Capped (platform : Platform) (session : Session) : Prop where
  subresource : isSubresource session.request.request = true
  referrer : ∀ loader, session.network = some loader →
    acceptableReferrer platform loader.referrer loader.url

theorem restart_isSubresource (subresource : isSubresource session.request.request = true) :
    isSubresource (session.restart platform around).1.request.request = true := by
  cases asks : session.request.asksForRedirect platform around.browser with
  | true =>
      rw [restart_internal asks]
      exact subresource
  | false =>
      rw [restart_handOver asks]
      exact subresource

namespace Capped

theorem create (sanitizes : platform.SanitizesCrossOrigin)
    (arguments : CreateLoaderArguments)
    (caps : capsReferrers platform around.browser arguments.frameTreeNodeId = true)
    (subresource : isSubresource arguments.request = true) :
    Capped platform (Session.create platform around arguments).1 := by
  refine { subresource := restart_isSubresource subresource, referrer := ?_ }
  intro loader executing
  rw [Aligned.created_loader executing]
  exact InProgressRequest.cappedRequest_acceptable sanitizes caps subresource

theorem followRedirect (sanitizes : platform.SanitizesCrossOrigin)
    (aligned : Aligned session) (capped : Capped platform session)
    (params : FollowRedirectParams)
    (caps : capsReferrers platform around.browser session.request.frameTreeNodeId = true)
    (forwards : forwardsCappedReferrers platform (.inProgress session)
      (around, .message (.followRedirect params))) :
    Capped platform ((session.prepare params).restart platform around).1 := by
  have subresource : isSubresource (session.prepare params).request.request = true :=
    capped.subresource
  refine { subresource := restart_isSubresource subresource, referrer := ?_ }
  intro loader executing
  obtain ⟨silent, origin⟩ := aligned.followed_loader executing
  rcases origin with ⟨before, present, rfl⟩ | ⟨_, _, rfl⟩
  · exact (acceptableReferrer_iff platform _ _).mpr (forwards silent before present)
  · exact InProgressRequest.cappedRequest_acceptable sanitizes caps subresource

theorem onReceiveRedirect (capped : Capped platform session) (redirectInfo : RedirectInfo)
    (head : URLResponseHead) :
    Capped platform
      (session.receive platform around (.onReceiveRedirect redirectInfo head)).1 := by
  simp only [receive, passive, InProgressRequest.onReceiveRedirect_eq]
  refine { subresource := capped.subresource, referrer := ?_ }
  intro loader executing
  obtain ⟨before, present, rfl⟩ := Option.map_eq_some_iff.mp executing
  exact capped.referrer before present

end Capped

end Session

/-- At the maximum level, the referrer in use on each hop of a sub-resource
request is acceptable for the URL of that hop, if the network has capped the
referrers of the redirects that are forwarded. -/
theorem loader_referrer_acceptable (platform : Platform)
    (sanitizes : platform.SanitizesCrossOrigin) (session : Session)
    (reached : ReachableSession platform
      (fun stage event => subresourceSteps platform stage event ∧
        forwardsCappedReferrers platform stage event) session)
    (loader : NetworkLoader) (executing : session.network = some loader) :
    acceptableReferrer platform loader.referrer loader.url := by
  have capped := sessionInvariant (Session.Capped platform)
    (fun _around arguments permitted _urls =>
      Session.Capped.create sanitizes arguments permitted.1.1 permitted.1.2)
    (fun _session _around params reached capped permitted _urls =>
      Session.Capped.followRedirect sanitizes (Session.aligned_of_reachable reached) capped
        params permitted.1 permitted.2)
    (fun _session _around redirectInfo head _reached capped _urls _bound =>
      capped.onReceiveRedirect redirectInfo head)
    (fun _session _around head body cachedMetadata capped _bound => by
      simp only [Session.receive, Session.passive, InProgressRequest.onReceiveResponse_eq]
      exact { subresource := capped.subresource, referrer := capped.referrer })
    reached
  exact capped.referrer loader executing

/-- The condition is exact: where it fails, the next hop has an unacceptable
referrer. -/
theorem forwarded_referrer_acceptable_iff (platform : Platform) (session : Session)
    (reached : ReachableSession platform EventMachine.anyStep session)
    (loader : NetworkLoader) (executing : session.network = some loader)
    (around : Surroundings) (params : FollowRedirectParams)
    (silent : (session.prepare params).request.asksForRedirect platform
      around.browser = false) :
    (∀ next, (session.receive platform around (.followRedirect params)).1.network =
        some next → acceptableReferrer platform next.referrer next.url) ↔
      maybeChangeReferrer platform (loader.followedReferrer platform)
          (loader.followedUrl params) none = none ∨
        isBareOrigin platform (loader.followedReferrer platform) := by
  have aligned := Session.aligned_of_reachable reached
  have followed : (session.receive platform around (.followRedirect params)).1.network =
      some (loader.follow platform params) := by
    change ((session.prepare params).restart platform around).1.network = _
    rw [aligned.followed_network, silent, executing]
    rfl
  rw [followed, ← acceptableReferrer_iff]
  constructor
  · intro acceptable
    exact acceptable _ rfl
  · rintro acceptable next same
    cases same
    exact acceptable

namespace ReferrerCapExample

def around : Surroundings :=
  referenceSurroundings .block true

def arguments : CreateLoaderArguments :=
  referenceArguments
    { referenceRequest "https://news.example.com/pixel" with
      referrer := referenceUrl "https://news.example.com/article" }

def started : Session :=
  (Session.create referencePlatform around arguments).1

def report (newReferrer : String) : RequestMessage :=
  .onReceiveRedirect
    { referenceRedirect "https://cdn.example.net/pixel" with
      newReferrer := newReferrer.toList }
    referenceHead

def redirected (newReferrer : String) : Session :=
  (started.receive referencePlatform around (report newReferrer)).1

def followed (newReferrer : String) : Session :=
  ((redirected newReferrer).receive referencePlatform around
    (.followRedirect plainFollowUp)).1

theorem followed_reachable (allowed : RequestStage → Surroundings × RequestEvent → Prop)
    (newReferrer : String) (created : allowed .notCreated (around, .create arguments))
    (reported : allowed (.inProgress started) (around, .message (report newReferrer)))
    (follows : allowed (.inProgress (redirected newReferrer))
      (around, .message (.followRedirect plainFollowUp))) :
    ReachableSession referencePlatform allowed (followed newReferrer) := by
  have first : ReachableSession referencePlatform allowed started :=
    reachable_create around arguments created (by decide)
  have second : ReachableSession referencePlatform allowed (redirected newReferrer) :=
    reachable_message around (report newReferrer) first reported
      (show started.delivers (report newReferrer) = true from rfl) rfl
  exact reachable_message around (.followRedirect plainFollowUp) second follows rfl rfl

theorem path_of_isBareOrigin {url : GURL} (bare : isBareOrigin referencePlatform url) :
    url.parsed.path = ['/'] ∨ url.parsed.path = [] := by
  obtain ⟨source, rfl⟩ := bare
  change (ReferencePlatform.originURL (ReferencePlatform.createOrigin source)).parsed.path =
      ['/'] ∨
    (ReferencePlatform.originURL (ReferencePlatform.createOrigin source)).parsed.path = []
  cases ReferencePlatform.createOrigin source with
  | tuple scheme host port => exact Or.inl rfl
  | unique => exact Or.inr rfl

end ReferrerCapExample

open ReferrerCapExample in
/-- The network sends the origin alone. -/
theorem loader_referrer_acceptable_example :
    acceptableReferrer referencePlatform
      ((followed "https://news.example.com/").network.get (by decide)).referrer
      ((followed "https://news.example.com/").network.get (by decide)).url := by
  refine loader_referrer_acceptable referencePlatform referencePlatform_sanitizes
    (followed "https://news.example.com/") ?_ _ (Option.some_get _).symm
  refine followed_reachable _ _ ⟨⟨by decide, by decide⟩, trivial⟩ ⟨trivial, trivial⟩
    ⟨(by decide : capsReferrers _ _ _ = true), ?_⟩
  intro _silent loader executing
  have same : (redirected "https://news.example.com/").network.get (by decide) = loader := by
    simp only [executing, Option.get_some]
  rw [← same]
  exact Or.inr ⟨referenceUrl "https://news.example.com/article", by decide⟩

open ReferrerCapExample in
/-- The network sends the full referrer along, and the other site receives it. -/
theorem forwarded_referrer_uncapped :
    ReachableSession referencePlatform (subresourceSteps referencePlatform)
        (followed "https://news.example.com/article") ∧
      ∃ loader, (followed "https://news.example.com/article").network = some loader ∧
        ¬acceptableReferrer referencePlatform loader.referrer loader.url := by
  refine ⟨followed_reachable _ _ ⟨by decide, by decide⟩ trivial
    (by decide : capsReferrers _ _ _ = true), _, (Option.some_get (by decide)).symm, ?_⟩
  rintro (blank | sameOrigin | naver | bare)
  · revert blank
    decide
  · revert sameOrigin
    decide
  · revert naver
    decide
  · have noPath := path_of_isBareOrigin bare
    revert noPath
    decide

end Whale
