/-
`OnBeforeURLRequest_SiteHacksWork` and the two helpers it calls: the referrer
cap and the query filter with its exemptions.  What a function writes through a
parameter is part of its result.

The result to use elsewhere is `siteHacks_newUrl`: for the URLs that requests
carry, the new URL is the output of the filter when no exemption applies, and
empty otherwise.
-/
import Whale.QueryFilter
import Whale.RequestInfo
import Whale.Url.Reparse

set_option autoImplicit false

namespace Whale

open Whale.Url (Text GURL)
open Whale.Net

def kExtensionScheme : Text := "chrome-extension".toList

def kChromeUIScheme : Text := "chrome".toList

def isInternalScheme (platform : Platform) (ctx : WhaleRequestInfo) : Bool :=
  (platform.enableExtensions && ctx.requestUrl.schemeIs kExtensionScheme) ||
    ctx.requestUrl.schemeIs kChromeUIScheme

def applyPotentialReferrerBlock (platform : Platform) (ctx : WhaleRequestInfo) :
    WhaleRequestInfo × Bool :=
  if ctx.allowReferrers then (ctx, false)
  else if ctx.tabOrigin.schemeIs kExtensionScheme then (ctx, false)
  -- Frame navigations are handled in `content::NavigationRequest`.
  else if ctx.resourceType = ResourceType.kMainFrame ∨
      ctx.resourceType = ResourceType.kSubFrame then (ctx, false)
  else
    match maybeChangeReferrer platform ctx.referrer ctx.requestUrl none with
    | some newReferrer => ({ ctx with newReferrer := some newReferrer.url }, true)
    | none => (ctx, false)

/-- The last lines of `ApplyPotentialQueryStringFilter`. -/
def filterRequestUrl (platform : Platform) (ctx : WhaleRequestInfo)
    (removedTracker : List Text) : WhaleRequestInfo × List Text :=
  match applyQueryFilter platform ctx.requestUrl removedTracker with
  | (some filteredUrl, removed) => ({ ctx with newUrlSpec := filteredUrl.spec }, removed)
  | (none, removed) => (ctx, removed)

def applyPotentialQueryStringFilter (platform : Platform) (ctx : WhaleRequestInfo)
    (removedTracker : List Text) : WhaleRequestInfo × List Text :=
  if !ctx.enableTrackingBlocker then (ctx, removedTracker)
  else if ctx.method ≠ kGetMethod then (ctx, removedTracker)
  else if ctx.redirectSource.isValid then
    if ctx.internalRedirect then (ctx, removedTracker)
    else if platform.sameDomainOrHost ctx.redirectSource ctx.requestUrl then
      (ctx, removedTracker)
    else filterRequestUrl platform ctx removedTracker
  else if ctx.initiatorUrl.isValid &&
      platform.sameDomainOrHost ctx.initiatorUrl ctx.requestUrl then
    (ctx, removedTracker)
  else filterRequestUrl platform ctx removedTracker

structure SiteHacksResult where
  error : Int
  ctx : WhaleRequestInfo
  newUrl : GURL
  blockedParams : Option (List Text)

def hasShieldsDataController (browser : BrowserState) (frameTreeNodeId : Int) : Bool :=
  (browser.webContents frameTreeNodeId).any WebContents.hasShieldsDataController

def onBeforeURLRequestSiteHacksWork (platform : Platform) (browser : BrowserState)
    (ctx : WhaleRequestInfo) (newUrl : GURL) : SiteHacksResult :=
  if platform.isAndroid then
    { error := netOK, ctx := ctx, newUrl := newUrl, blockedParams := none }
  else
    let ctx := (applyPotentialReferrerBlock platform ctx).1
    if isInternalScheme platform ctx || ctx.requestUrl.domainIs naverDomain ||
        !ctx.requestUrl.hasQuery then
      { error := netOK, ctx := ctx, newUrl := newUrl, blockedParams := none }
    else
      let filtered := applyPotentialQueryStringFilter platform ctx []
      if filtered.1.newUrlSpec ≠ [] ∧ filtered.1.newUrlSpec ≠ filtered.1.requestUrl.spec then
        { error := netOK
          ctx := filtered.1
          newUrl := platform.parse filtered.1.newUrlSpec
          blockedParams :=
            if hasShieldsDataController browser filtered.1.frameTreeNodeId then
              some filtered.2
            else none }
      else { error := netOK, ctx := filtered.1, newUrl := newUrl, blockedParams := none }

/-! ### When the filter runs -/

/-- The exemptions from query filtering, other than the one for internal
redirects. -/
def isExempt (platform : Platform) (ctx : WhaleRequestInfo) : Bool :=
  !ctx.enableTrackingBlocker || ctx.method != kGetMethod ||
    isInternalScheme platform ctx || ctx.requestUrl.domainIs naverDomain ||
    (ctx.redirectSource.isValid &&
      platform.sameDomainOrHost ctx.redirectSource ctx.requestUrl) ||
    (!ctx.redirectSource.isValid && ctx.initiatorUrl.isValid &&
      platform.sameDomainOrHost ctx.initiatorUrl ctx.requestUrl)

/-- The context is one that the exit for internal redirects is meant for. -/
def meetsInternalRedirectExit (ctx : WhaleRequestInfo) : Bool :=
  ctx.redirectSource.isValid && ctx.internalRedirect

def takesInternalRedirectExit (ctx : WhaleRequestInfo) : Bool :=
  ctx.enableTrackingBlocker && ctx.method == kGetMethod &&
    meetsInternalRedirectExit ctx

def filterOutcome (platform : Platform) (ctx : WhaleRequestInfo) : Option GURL :=
  if platform.isAndroid || isExempt platform ctx || meetsInternalRedirectExit ctx then none
  else (applyQueryFilter platform ctx.requestUrl []).1

/-- Message pipes carry only valid URLs and the empty URL. -/
def isDeliverableUrl (url : GURL) : Bool :=
  url.isValid || url.isEmpty

/-- The empty URL has no query, so a deliverable URL with a query is valid. -/
theorem isValid_of_hasQuery {url : GURL} (deliverable : isDeliverableUrl url = true)
    (query : url.hasQuery = true) : url.isValid = true := by
  cases valid : url.isValid with
  | true => rfl
  | false =>
      rw [isDeliverableUrl, valid, Bool.false_or] at deliverable
      obtain ⟨text, present⟩ := Option.isSome_iff_exists.mp query
      simp [GURL.isEmpty, GURL.possiblyInvalidSpec, Whale.Url.Parsed.serialize,
        Whale.Url.Parsed.queryText, present] at deliverable

theorem applyQueryFilter_without_query (platform : Platform) (url : GURL)
    (removedTracker : List Text) (noQuery : url.hasQuery = false) :
    (applyQueryFilter platform url removedTracker).1 = none := by
  have absent : url.parsed.query = none := by
    simpa [GURL.hasQuery] using noQuery
  rw [applyQueryFilter_eq_none_iff, GURL.queryPiece, absent]
  rfl

theorem spec_ne_of_filteredFrom {platform : Platform} {url filtered : GURL}
    (valid : url.isValid = true) (pass : FilteredFrom platform url filtered) :
    filtered.spec ≠ url.spec := by
  intro same
  have equal := Whale.Url.spec_injective filtered url pass.valid valid same
  have shorter := pass.query_length_lt
  rw [equal] at shorter
  exact Nat.lt_irrefl _ shorter

/-! ### What the referrer cap and the filter write into the context -/

/-- The new referrer that the cap leaves in the context. -/
def cappedReferrer (platform : Platform) (ctx : WhaleRequestInfo) : Option GURL :=
  if platform.isAndroid then ctx.newReferrer
  else (applyPotentialReferrerBlock platform ctx).1.newReferrer

theorem applyPotentialReferrerBlock_ctx (platform : Platform) (ctx : WhaleRequestInfo) :
    (applyPotentialReferrerBlock platform ctx).1 =
      { ctx with newReferrer := (applyPotentialReferrerBlock platform ctx).1.newReferrer } := by
  unfold applyPotentialReferrerBlock
  split
  · rfl
  · split
    · rfl
    · split
      · rfl
      · split <;> rfl

theorem filterRequestUrl_ctx (platform : Platform) (ctx : WhaleRequestInfo)
    (removedTracker : List Text) :
    (filterRequestUrl platform ctx removedTracker).1 =
      { ctx with newUrlSpec :=
          match (applyQueryFilter platform ctx.requestUrl removedTracker).1 with
          | some filteredUrl => filteredUrl.spec
          | none => ctx.newUrlSpec } := by
  unfold filterRequestUrl
  rcases applyQueryFilter platform ctx.requestUrl removedTracker with ⟨_ | url, removed⟩ <;>
    rfl

/-- The exits of the filter, collected in one condition. -/
theorem applyPotentialQueryStringFilter_eq (platform : Platform)
    (ctx : WhaleRequestInfo) (removedTracker : List Text)
    (notInternal : isInternalScheme platform ctx = false)
    (notNaver : ctx.requestUrl.domainIs naverDomain = false) :
    applyPotentialQueryStringFilter platform ctx removedTracker =
      if isExempt platform ctx || meetsInternalRedirectExit ctx then (ctx, removedTracker)
      else filterRequestUrl platform ctx removedTracker := by
  unfold applyPotentialQueryStringFilter isExempt meetsInternalRedirectExit
  rw [notInternal, notNaver]
  cases ctx.enableTrackingBlocker with
  | false => simp
  | true =>
      by_cases get : ctx.method = kGetMethod
      · cases ctx.redirectSource.isValid <;> cases ctx.internalRedirect <;>
          cases platform.sameDomainOrHost ctx.redirectSource ctx.requestUrl <;>
          cases ctx.initiatorUrl.isValid <;> simp [get]
      · simp [get]

theorem applyPotentialQueryStringFilter_ctx (platform : Platform)
    (ctx : WhaleRequestInfo) (removedTracker : List Text)
    (notInternal : isInternalScheme platform ctx = false)
    (notNaver : ctx.requestUrl.domainIs naverDomain = false) :
    ∃ newUrlSpec, (applyPotentialQueryStringFilter platform ctx removedTracker).1 =
      { ctx with newUrlSpec := newUrlSpec } := by
  rw [applyPotentialQueryStringFilter_eq platform ctx removedTracker notInternal notNaver]
  split
  · exact ⟨ctx.newUrlSpec, rfl⟩
  · exact ⟨_, filterRequestUrl_ctx platform ctx removedTracker⟩

/-- The call writes no fields of the context but these two. -/
theorem siteHacks_ctx (platform : Platform) (browser : BrowserState)
    (ctx : WhaleRequestInfo) (newUrl : GURL) :
    ∃ newUrlSpec, (onBeforeURLRequestSiteHacksWork platform browser ctx newUrl).ctx =
      { ctx with
        newReferrer := cappedReferrer platform ctx
        newUrlSpec := newUrlSpec } := by
  have capped := applyPotentialReferrerBlock_ctx platform ctx
  unfold onBeforeURLRequestSiteHacksWork cappedReferrer
  cases platform.isAndroid with
  | true => exact ⟨ctx.newUrlSpec, rfl⟩
  | false =>
      simp only [Bool.false_eq_true, if_false]
      generalize (applyPotentialReferrerBlock platform ctx).1 = cappedCtx at capped ⊢
      cases early : isInternalScheme platform cappedCtx ||
          cappedCtx.requestUrl.domainIs naverDomain || !cappedCtx.requestUrl.hasQuery with
      | true => exact ⟨ctx.newUrlSpec, capped⟩
      | false =>
          simp only [Bool.or_eq_false_iff] at early
          obtain ⟨newUrlSpec, written⟩ := applyPotentialQueryStringFilter_ctx platform
            cappedCtx [] early.1.1 early.1.2
          refine ⟨newUrlSpec, ?_⟩
          simp only [Bool.false_eq_true, if_false]
          have whole : (applyPotentialQueryStringFilter platform cappedCtx []).1 =
              { ctx with
                newReferrer := cappedCtx.newReferrer
                newUrlSpec := newUrlSpec } := by
            rw [written, capped]
          split <;> exact whole

/-- The two guards around the rewritten spec let every filtered URL through. -/
theorem filterStep_newUrl (platform : Platform)
    (reparses : platform.ReparsesCanonicalSpecs) (ctx : WhaleRequestInfo)
    (desktop : platform.isAndroid = false) (fresh : ctx.newUrlSpec = [])
    (valid : ctx.requestUrl.isValid = true)
    (notInternal : isInternalScheme platform ctx = false)
    (notNaver : ctx.requestUrl.domainIs naverDomain = false) :
    (if (applyPotentialQueryStringFilter platform ctx []).1.newUrlSpec ≠ [] ∧
        (applyPotentialQueryStringFilter platform ctx []).1.newUrlSpec ≠
          (applyPotentialQueryStringFilter platform ctx []).1.requestUrl.spec then
      platform.parse (applyPotentialQueryStringFilter platform ctx []).1.newUrlSpec
    else GURL.empty) = (filterOutcome platform ctx).getD GURL.empty := by
  rw [applyPotentialQueryStringFilter_eq platform ctx [] notInternal notNaver]
  unfold filterOutcome
  rw [desktop, Bool.false_or]
  cases excused : isExempt platform ctx || meetsInternalRedirectExit ctx with
  | true => simp [fresh]
  | false =>
      simp only [Bool.false_eq_true, if_false]
      rw [filterRequestUrl_ctx]
      cases outcome : (applyQueryFilter platform ctx.requestUrl []).1 with
      | none => simp [fresh]
      | some filtered =>
          have pass := filteredFrom_of_applyQueryFilter valid outcome
          have written : filtered.spec ≠ [] ∧ filtered.spec ≠ ctx.requestUrl.spec :=
            ⟨filtered.spec_ne_nil_of_valid pass.valid, spec_ne_of_filteredFrom valid pass⟩
          simp only [if_pos written, Option.getD_some]
          exact reparses filtered pass.valid

theorem filterOutcome_early (platform : Platform) (ctx : WhaleRequestInfo)
    (early : (isInternalScheme platform ctx || ctx.requestUrl.domainIs naverDomain ||
      !ctx.requestUrl.hasQuery) = true) : filterOutcome platform ctx = none := by
  unfold filterOutcome
  split
  · rfl
  · rename_i unexcused
    simp only [Bool.or_eq_true, Bool.not_eq_true'] at early
    rcases early with (isInternal | naver) | noQuery
    · simp [isExempt, isInternal] at unexcused
    · simp [isExempt, naver] at unexcused
    · exact applyQueryFilter_without_query platform ctx.requestUrl [] noQuery

theorem siteHacks_newUrl (platform : Platform)
    (reparses : platform.ReparsesCanonicalSpecs) (browser : BrowserState)
    (ctx : WhaleRequestInfo) (fresh : ctx.newUrlSpec = [])
    (deliverable : isDeliverableUrl ctx.requestUrl = true) :
    (onBeforeURLRequestSiteHacksWork platform browser ctx GURL.empty).newUrl =
      (filterOutcome platform ctx).getD GURL.empty := by
  have capped := applyPotentialReferrerBlock_ctx platform ctx
  unfold onBeforeURLRequestSiteHacksWork
  cases android : platform.isAndroid with
  | true => simp [filterOutcome, android]
  | false =>
      simp only [Bool.false_eq_true, if_false]
      rw [capped]
      generalize (applyPotentialReferrerBlock platform ctx).1.newReferrer = newReferrer
      -- No exemption looks at what the cap has written.
      change _ = (filterOutcome platform
        { ctx with newReferrer := newReferrer }).getD GURL.empty
      cases early : isInternalScheme platform { ctx with newReferrer := newReferrer } ||
          ctx.requestUrl.domainIs naverDomain || !ctx.requestUrl.hasQuery with
      | true =>
          rw [filterOutcome_early platform { ctx with newReferrer := newReferrer } early]
          rfl
      | false =>
          simp only [Bool.or_eq_false_iff, Bool.not_eq_false'] at early
          obtain ⟨⟨notInternal, notNaver⟩, query⟩ := early
          rw [← filterStep_newUrl platform reparses
            { ctx with newReferrer := newReferrer } android fresh
            (isValid_of_hasQuery deliverable query) notInternal notNaver]
          simp only [Bool.false_eq_true, if_false]
          split <;> rfl

/-- An invalid URL filters to the empty spec, which asks for nothing. -/
theorem siteHacks_newUrl_of_invalid (platform : Platform) (browser : BrowserState)
    (ctx : WhaleRequestInfo) (fresh : ctx.newUrlSpec = [])
    (invalid : ctx.requestUrl.isValid = false) :
    (onBeforeURLRequestSiteHacksWork platform browser ctx GURL.empty).newUrl =
      GURL.empty := by
  have capped := applyPotentialReferrerBlock_ctx platform ctx
  unfold onBeforeURLRequestSiteHacksWork
  cases platform.isAndroid with
  | true => rfl
  | false =>
      simp only [Bool.false_eq_true, if_false]
      rw [capped]
      generalize (applyPotentialReferrerBlock platform ctx).1.newReferrer = newReferrer
      cases early : isInternalScheme platform { ctx with newReferrer := newReferrer } ||
          ctx.requestUrl.domainIs naverDomain || !ctx.requestUrl.hasQuery with
      | true => rfl
      | false =>
          simp only [Bool.or_eq_false_iff] at early
          have unwritten : (applyPotentialQueryStringFilter platform
              { ctx with newReferrer := newReferrer } []).1.newUrlSpec = [] := by
            rw [applyPotentialQueryStringFilter_eq platform _ [] early.1.1 early.1.2]
            split
            · exact fresh
            · rw [filterRequestUrl_ctx]
              cases outcome : (applyQueryFilter platform ctx.requestUrl []).1 with
              | none => exact fresh
              | some filtered =>
                  rw [applyQueryFilter_of_invalid platform ctx.requestUrl filtered []
                    invalid outcome]
                  exact GURL.spec_empty
          simp only [Bool.false_eq_true, if_false, unwritten, ne_eq, not_true_eq_false,
            false_and]

theorem filteredFrom_of_filterOutcome {platform : Platform} {ctx : WhaleRequestInfo}
    {filtered : GURL} (deliverable : isDeliverableUrl ctx.requestUrl = true)
    (outcome : filterOutcome platform ctx = some filtered) :
    ctx.requestUrl.isValid = true ∧ FilteredFrom platform ctx.requestUrl filtered := by
  unfold filterOutcome at outcome
  split at outcome
  · contradiction
  · have query : ctx.requestUrl.hasQuery = true := by
      cases present : ctx.requestUrl.hasQuery with
      | true => rfl
      | false =>
          rw [applyQueryFilter_without_query platform _ [] present] at outcome
          contradiction
    have valid := isValid_of_hasQuery deliverable query
    exact ⟨valid, filteredFrom_of_applyQueryFilter valid outcome⟩

theorem siteHacks_newUrl_isEmpty (platform : Platform)
    (reparses : platform.ReparsesCanonicalSpecs) (browser : BrowserState)
    (ctx : WhaleRequestInfo) (fresh : ctx.newUrlSpec = [])
    (deliverable : isDeliverableUrl ctx.requestUrl = true) :
    (onBeforeURLRequestSiteHacksWork platform browser ctx GURL.empty).newUrl.isEmpty =
      (filterOutcome platform ctx).isNone := by
  rw [siteHacks_newUrl platform reparses browser ctx fresh deliverable]
  cases outcome : filterOutcome platform ctx with
  | none => rfl
  | some filtered =>
      have pass := (filteredFrom_of_filterOutcome deliverable outcome).2
      exact filtered.isEmpty_eq_false_of_valid pass.valid

end Whale
