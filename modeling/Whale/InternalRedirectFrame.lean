/-
What an internal redirect changes in the URL, the method, the headers and the initiator.

The redirect URL is the output of the filter on the URL that the same `Restart`
has read, so of the URL only the query differs.  The two URLs then have the same
origin, unless that origin is opaque: opaque origins are never the same, and the
initiator is replaced.
-/
import Whale.ReferenceSession
import Whale.SessionInvariant

set_option autoImplicit false

namespace Whale

open Whale.Foundation
open Whale.Url (Text GURL)
open Whale.Net

namespace Platform

def KeepsMethodOn307 (platform : Platform) : Prop :=
  ∀ arguments : RedirectArguments, arguments.httpStatusCode = kInternalRedirectStatusCode →
    (platform.computeRedirectInfo arguments).newMethod = arguments.originalMethod

/-- The origin of a URL is read from the components in front of its query. -/
def OriginIgnoresQuery (platform : Platform) : Prop :=
  ∀ url edited : GURL, url.isValid = true → edited.isValid = true →
    edited.parsed = url.parsed.withQuery edited.parsed.query →
    platform.createOrigin edited = platform.createOrigin url

end Platform

theorem Net.Origin.isSameOriginWith_self (origin : Origin) :
    origin.isSameOriginWith origin = decide (origin ≠ .unique) := by
  cases origin with
  | tuple scheme host port => simp [Origin.isSameOriginWith]
  | unique => rfl

theorem method_of_filterOutcome {platform : Platform} {ctx : WhaleRequestInfo}
    {filtered : GURL} (outcome : filterOutcome platform ctx = some filtered) :
    ctx.method = kGetMethod := by
  by_cases isGet : ctx.method = kGetMethod
  · exact isGet
  · have exempt : isExempt platform ctx = true := by simp [isExempt, isGet]
    simp [filterOutcome, exempt] at outcome

namespace InProgressRequest

variable {platform : Platform} {around : Surroundings} {self : InProgressRequest}

/-- The initiator that a redirect within one origin leaves. -/
theorem taintedInitiator_of_sameOrigin (request : ResourceRequest) (redirectUrl : GURL)
    (same : platform.createOrigin redirectUrl = platform.createOrigin request.url) :
    taintedInitiator platform request redirectUrl =
      if platform.createOrigin request.url = .unique then
        request.requestInitiator.map fun _initiator => .unique
      else request.requestInitiator := by
  unfold taintedInitiator
  rw [same, Net.Origin.isSameOriginWith_self]
  cases request.requestInitiator with
  | none => simp
  | some initiator =>
      by_cases isOpaque : platform.createOrigin request.url = .unique
      · cases initiator <;> simp [isOpaque, Origin.isSameOriginWith]
      · simp [isOpaque]

theorem restart_of_asks (asks : self.asksForRedirect platform around.browser = true) :
    (self.restart platform around).1 =
      ((self.vetted platform around.browser).handleBeforeRequestRedirect platform).1 := by
  rw [restart_eq, if_pos asks]
  rfl

/-- After an internal redirect the URL differs in its query alone, the method and the headers
are those of before, and so is the initiator unless the URL has an opaque origin.  The
body, the referrer, its policy, the site for cookies and the isolation info are those of the
redirect. -/
theorem handleBeforeRequestRedirect_frame (platform : Platform)
    (reparses : platform.ReparsesCanonicalSpecs)
    (redirects : platform.RedirectsToLocation) (keepsMethod : platform.KeepsMethodOn307)
    (ignoresQuery : platform.OriginIgnoresQuery) (around : Surroundings)
    (self : InProgressRequest)
    (asks : self.asksForRedirect platform around.browser = true) :
    let running := self.vetted platform around.browser
    let after := (running.handleBeforeRequestRedirect platform).1
    (self.restart platform around).1 = after ∧
      running.redirectUrl.parsed =
        running.request.url.parsed.withQuery running.redirectUrl.parsed.query ∧
      running.redirectUrl.queryPiece.length < running.request.url.queryPiece.length ∧
      after.request.url = running.redirectUrl ∧
      running.request.method = kGetMethod ∧
      after.request.method = running.request.method ∧
      after.request.headers = running.request.headers ∧
      after.request.corsExemptHeaders = running.request.corsExemptHeaders ∧
      after.request.requestInitiator =
        if platform.createOrigin running.request.url = .unique then
          running.request.requestInitiator.map fun _initiator => .unique
        else running.request.requestInitiator := by
  intro running after
  obtain ⟨valid, outcome, pass⟩ := vetting_of_asks reparses asks
  have sameOrigin : platform.createOrigin running.redirectUrl =
      platform.createOrigin running.request.url :=
    ignoresQuery _ _ valid pass.valid pass.frame
  refine ⟨restart_of_asks asks, pass.frame, pass.query_length_lt, ?_, ?_, ?_, rfl, rfl, ?_⟩
  · exact redirects _ rfl
  · exact method_of_filterOutcome outcome
  · exact keepsMethod _ rfl
  · exact taintedInitiator_of_sameOrigin running.request running.redirectUrl sameOrigin

end InProgressRequest

theorem referencePlatform_keepsMethodOn307 : referencePlatform.KeepsMethodOn307 := by
  intro arguments temporary
  change ReferencePlatform.computeMethod arguments.originalMethod arguments.httpStatusCode = _
  rw [temporary]
  rfl

theorem referencePlatform_originIgnoresQuery : referencePlatform.OriginIgnoresQuery := by
  intro url edited valid editedValid components
  change ReferencePlatform.createOrigin edited = ReferencePlatform.createOrigin url
  unfold ReferencePlatform.createOrigin
  rw [valid, editedValid, components]
  rfl

namespace InternalRedirectExample

def around : Surroundings :=
  referenceSurroundings .ask true

def arguments (spec : String) : CreateLoaderArguments :=
  referenceArguments (referenceRequest spec)

end InternalRedirectExample

open InternalRedirectExample in
theorem handleBeforeRequestRedirect_frame_example :
    let running := (Session.fresh (arguments "https://a.com/?fbclid=1")).request.vetted
      referencePlatform around.browser
    ((running.handleBeforeRequestRedirect referencePlatform).1).request.headers =
      running.request.headers :=
  (InProgressRequest.handleBeforeRequestRedirect_frame referencePlatform
    referencePlatform_reparses referencePlatform_redirects
    referencePlatform_keepsMethodOn307 referencePlatform_originIgnoresQuery around
    (Session.fresh (arguments "https://a.com/?fbclid=1")).request
    (by decide)).2.2.2.2.2.2.1

open InternalRedirectExample in
/-- The first `Restart` of a request whose URL has an opaque origin. -/
theorem handleBeforeRequestRedirect_opaque :
    ReachableSession referencePlatform EventMachine.anyStep
        (Session.create referencePlatform around (arguments "foo:bar?fbclid=1")).1 ∧
      (Session.fresh (arguments "foo:bar?fbclid=1")).request.asksForRedirect
        referencePlatform around.browser = true ∧
      (arguments "foo:bar?fbclid=1").request.requestInitiator ≠ some .unique ∧
      (Session.create referencePlatform around
        (arguments "foo:bar?fbclid=1")).1.request.request.requestInitiator = some .unique :=
  ⟨reachable_create around (arguments "foo:bar?fbclid=1") trivial (by decide), by decide,
    by decide, by decide⟩

end Whale
