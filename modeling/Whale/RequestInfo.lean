/-
`WhaleRequestInfo`: the context built from a request for each step of its
handling.  A new context takes over two fields of the previous one, the kind of
the last redirect and its source; everything else is read again.
-/
import Whale.TrackingBlockers

set_option autoImplicit false

namespace Whale

open Whale.Url (Text GURL)
open Whale.Net

/-- The fields that the component reads, with their initial values. -/
structure WhaleRequestInfo where
  method : Text := []
  requestUrl : GURL := GURL.empty
  tabOrigin : GURL := GURL.empty
  initiatorUrl : GURL := GURL.empty
  internalRedirect : Bool := false
  redirectSource : GURL := GURL.empty
  referrer : GURL := GURL.empty
  referrerPolicy : ReferrerPolicy := .clearOnTransitionFromSecureToInsecure
  newReferrer : Option GURL := none
  newUrlSpec : Text := []
  enableTrackingBlocker : Bool := true
  allowReferrers : Bool := false
  frameTreeNodeId : Int := 0
  requestIdentifier : Nat := 0
  setHeaders : List Text := []
  removedHeaders : List Text := []
  resourceType : Int := -1
  deriving DecidableEq, Repr

def tabOriginURL (platform : Platform) (browser : BrowserState)
    (frameTreeNodeId : Int) : GURL :=
  match browser.webContents frameTreeNodeId with
  | some contents => platform.originURL (platform.createOrigin contents.lastCommittedURL)
  | none => GURL.empty

def makeCTX (platform : Platform) (browser : BrowserState)
    (request : ResourceRequest) (frameTreeNodeId : Int) (requestIdentifier : Nat)
    (oldCtx : Option WhaleRequestInfo) : WhaleRequestInfo :=
  let tabOrigin := tabOriginURL platform browser frameTreeNodeId
  { method := request.method
    requestUrl := request.url
    tabOrigin := tabOrigin
    initiatorUrl := platform.originURL (request.requestInitiator.getD .unique)
    internalRedirect := oldCtx.elim false WhaleRequestInfo.internalRedirect
    redirectSource := oldCtx.elim GURL.empty WhaleRequestInfo.redirectSource
    referrer := request.referrer
    referrerPolicy := request.referrerPolicy
    enableTrackingBlocker :=
      getTrackingBlockerEnabled platform browser.settings tabOrigin
    allowReferrers :=
      !isTrackingBlockerMaxLevel platform browser.settings tabOrigin
    frameTreeNodeId := frameTreeNodeId
    requestIdentifier := requestIdentifier
    resourceType := request.resourceType }

end Whale
