/-
`WhaleProxyingURLLoaderFactory::InProgressRequest`.

One definition for each member function, on explicit state.  What a function
sends to the client, to the network or to its factory is returned as a list of
effects in order.  Pausing and resuming message pipes, timing and histograms
are not modelled.
-/
import Whale.SiteHacks

set_option autoImplicit false

namespace Whale

open Whale.Url (Text GURL)
open Whale.Net

structure FollowRedirectParams extends HeaderUpdate where
  newUrl : Option GURL
  deriving DecidableEq, Repr

inductive Effect where
  | siteHacks (ctx : WhaleRequestInfo)
  | handleURLParamsBlocked (params : List Text)
  | clientOnReceiveResponse (head : Option URLResponseHead)
      (body : Option DataPipeConsumerHandle) (cachedMetadata : Option BigBuffer)
  | clientOnReceiveRedirect (redirectInfo : RedirectInfo) (head : Option URLResponseHead)
  | clientOnUploadProgress (currentPosition totalSize : Int)
  | clientOnTransferSizeUpdated (transferSizeDiff : Int)
  | clientOnComplete (status : URLLoaderCompletionStatus)
  /-- On the target factory; `loader` names the new message pipe. -/
  | createLoaderAndStart (loader : Nat) (networkServiceRequestId : Int)
      (options : Nat) (request : ResourceRequest)
  | loaderFollowRedirect (loader : Nat) (params : FollowRedirectParams)
  | loaderSetPriority (loader : Nat) (priority intraPriorityValue : Int)
  | loaderPauseReadingBodyFromNet (loader : Nat)
  | loaderResumeReadingBodyFromNet (loader : Nat)
  | targetLoaderReset
  | removeRequest
  deriving DecidableEq, Repr

/-- What the browser and the owning factory are at the time of a step. -/
structure Surroundings where
  browser : BrowserState
  targetFactoryBound : Bool

/-- A bound pipe end is the number of the loader it belongs to; `nextLoader`
counts the loaders created so far. -/
structure InProgressRequest where
  ctx : Option WhaleRequestInfo
  request : ResourceRequest
  requestId : Nat
  networkServiceRequestId : Int
  frameTreeNodeId : Int
  options : Nat
  proxiedClientReceiver : Option Nat
  targetLoader : Option Nat
  nextLoader : Nat
  cachedMetadata : Option BigBuffer
  currentResponseHead : Option URLResponseHead
  currentResponseBody : Option DataPipeConsumerHandle
  redirectUrl : GURL
  requestCompleted : Bool
  pendingFollowRedirectParams : Option FollowRedirectParams
  deriving DecidableEq, Repr

def createRedirectInfo (platform : Platform) (originalRequest : ResourceRequest)
    (newUrl : GURL) (responseCode : Int) (referrerPolicyHeader : Option Text) :
    RedirectInfo :=
  platform.computeRedirectInfo
    { originalMethod := originalRequest.method
      originalUrl := originalRequest.url
      originalSiteForCookies := originalRequest.siteForCookies
      originalFirstPartyUrlPolicy :=
        if originalRequest.updateFirstPartyUrlOnRedirect then .updateUrlOnRedirect
        else .neverChangeUrl
      originalReferrerPolicy := originalRequest.referrerPolicy
      originalReferrer := originalRequest.referrer.spec
      httpStatusCode := responseCode
      newLocation := newUrl
      referrerPolicyHeader := referrerPolicyHeader
      insecureSchemeWasUpgraded := false
      copyFragment := false
      isSignedExchangeFallbackRedirect := false }

def kInternalRedirectStatusCode : Int := 307

def internalRedirectHeaders (redirectUrl : GURL) : Text :=
  "HTTP/1.1 307 Internal Redirect\nLocation: ".toList ++ redirectUrl.spec ++
    "\nNon-Authoritative-Reason: WebRequest API\n\n".toList

namespace InProgressRequest

def new (requestId : Nat) (networkServiceRequestId : Int) (frameTreeNodeId : Int)
    (options : Nat) (request : ResourceRequest) : InProgressRequest :=
  { ctx := none
    request := request
    requestId := requestId
    networkServiceRequestId := networkServiceRequestId
    frameTreeNodeId := frameTreeNodeId
    options := options
    proxiedClientReceiver := none
    targetLoader := none
    nextLoader := 0
    cachedMetadata := none
    currentResponseHead := none
    currentResponseBody := none
    redirectUrl := GURL.empty
    requestCompleted := false
    pendingFollowRedirectParams := none }

/-- `*ctx_`.  The context is set before any function reads it. -/
def info (self : InProgressRequest) : WhaleRequestInfo :=
  self.ctx.getD {}

def newContext (platform : Platform) (browser : BrowserState)
    (self : InProgressRequest) : WhaleRequestInfo :=
  makeCTX platform browser self.request self.frameTreeNodeId self.requestId self.ctx

def onRequestError (self : InProgressRequest) (status : URLLoaderCompletionStatus) :
    InProgressRequest × List Effect :=
  if self.requestCompleted then (self, [.removeRequest])
  else (self, [.clientOnComplete status, .removeRequest])

/-! ### Starting and forwarding -/

def continueToStartRequest (around : Surroundings) (self : InProgressRequest)
    (errorCode : Int) : InProgressRequest × List Effect :=
  if errorCode ≠ netOK then self.onRequestError (.ofError errorCode)
  else if self.targetLoader.isNone && around.targetFactoryBound then
    ({ self with
        targetLoader := some self.nextLoader
        proxiedClientReceiver := some self.nextLoader
        nextLoader := self.nextLoader + 1 },
      [.createLoaderAndStart self.nextLoader self.networkServiceRequestId self.options
        self.request])
  else (self, [])

/-- The saved parameters with the header changes that the context asks for. -/
def amendParams (self : InProgressRequest) (params : FollowRedirectParams) :
    FollowRedirectParams :=
  { params with
    removedHeaders := params.removedHeaders ++ self.info.removedHeaders
    modifiedHeaders := self.info.setHeaders.foldl
      (fun headers setHeader =>
        match self.request.headers.getHeader setHeader with
        | some headerValue => headers.setHeader setHeader headerValue
        | none => headers)
      params.modifiedHeaders }

/-- The block of `ContinueToSendHeaders` on the saved parameters. -/
def forwardPendingParams (self : InProgressRequest) : InProgressRequest × List Effect :=
  match self.pendingFollowRedirectParams with
  | none => (self, [])
  | some params =>
      ({ self with pendingFollowRedirectParams := none },
        match self.targetLoader with
        | some loader => [.loaderFollowRedirect loader (self.amendParams params)]
        | none => [])

def continueToSendHeaders (around : Surroundings) (self : InProgressRequest)
    (errorCode : Int) : InProgressRequest × List Effect :=
  if errorCode ≠ netOK then self.onRequestError (.ofError errorCode)
  else
    let forwarded := self.forwardPendingParams
    let started := forwarded.1.continueToStartRequest around netOK
    (started.1, forwarded.2 ++ started.2)

/-! ### Redirects -/

def redirectedRequest (platform : Platform) (request : ResourceRequest)
    (redirectInfo : RedirectInfo) : ResourceRequest :=
  { request with
    url := redirectInfo.newUrl
    method := redirectInfo.newMethod
    siteForCookies := redirectInfo.newSiteForCookies
    referrer := platform.parse redirectInfo.newReferrer
    referrerPolicy := redirectInfo.newReferrerPolicy
    trustedParams := request.trustedParams.map fun params =>
      { params with
        isolationInfo := platform.createForRedirect params.isolationInfo
          (platform.createOrigin redirectInfo.newUrl) }
    requestBody :=
      if redirectInfo.newMethod = kGetMethod then none else request.requestBody }

def continueToBeforeRedirect (platform : Platform) (self : InProgressRequest)
    (redirectInfo : RedirectInfo) (errorCode : Int) : InProgressRequest × List Effect :=
  if errorCode ≠ netOK then self.onRequestError (.ofError errorCode)
  else
    let redirectSource :=
      if self.info.internalRedirect then GURL.empty else self.request.url
    ({ self with
        ctx := some { self.info with redirectSource := redirectSource }
        currentResponseHead := none
        request := redirectedRequest platform self.request redirectInfo
        requestCompleted := true },
      [.clientOnReceiveRedirect redirectInfo self.currentResponseHead])

/-- The initiator that a redirect to another origin leaves. -/
def taintedInitiator (platform : Platform) (request : ResourceRequest)
    (redirectUrl : GURL) : Option Origin :=
  match request.requestInitiator with
  | none => none
  | some initiator =>
      if !(platform.createOrigin redirectUrl).isSameOriginWith
            (platform.createOrigin request.url) &&
          !initiator.isSameOriginWith (platform.createOrigin request.url) then
        some .unique
      else some initiator

def handleBeforeRequestRedirect (platform : Platform) (self : InProgressRequest) :
    InProgressRequest × List Effect :=
  let redirectInfo := createRedirectInfo platform self.request self.redirectUrl
    kInternalRedirectStatusCode none
  let head : URLResponseHead :=
    { headers := internalRedirectHeaders self.redirectUrl, encodedDataLength := 0 }
  let dropped :=
    { self with
      proxiedClientReceiver := none
      targetLoader := none
      request :=
        { self.request with
          requestInitiator := taintedInitiator platform self.request self.redirectUrl }
      currentResponseHead := some head
      ctx := some { self.info with internalRedirect := true } }
  let reported := dropped.continueToBeforeRedirect platform redirectInfo netOK
  (reported.1, .targetLoaderReset :: reported.2)

def continueToBeforeSendHeaders (platform : Platform) (around : Surroundings)
    (self : InProgressRequest) (errorCode : Int) : InProgressRequest × List Effect :=
  if errorCode ≠ netOK then self.onRequestError (.ofError errorCode)
  else if !self.redirectUrl.isEmpty then self.handleBeforeRequestRedirect platform
  else
    let capped :=
      { self with
        request :=
          { self.request with
            referrer := self.info.newReferrer.getD self.request.referrer } }
    let renewed :=
      if capped.request.url.schemeIsHTTPOrHTTPS then
        { capped with ctx := some (capped.newContext platform around.browser) }
      else capped
    renewed.continueToSendHeaders around netOK

def restart (platform : Platform) (around : Surroundings) (self : InProgressRequest) :
    InProgressRequest × List Effect :=
  let ctx := self.newContext platform around.browser
  let hacks := onBeforeURLRequestSiteHacksWork platform around.browser ctx GURL.empty
  let vetted :=
    { self with
      requestCompleted := false
      redirectUrl := hacks.newUrl
      ctx := some hacks.ctx }
  let continued := vetted.continueToBeforeSendHeaders platform around netOK
  (continued.1,
    .siteHacks ctx ::
      (hacks.blockedParams.toList.map Effect.handleURLParamsBlocked ++ continued.2))

/-! ### Messages from the client -/

/-- The part of `FollowRedirect` before `Restart`. -/
def receiveFollowRedirect (self : InProgressRequest) (params : FollowRedirectParams) :
    InProgressRequest :=
  { self with
    request :=
      { self.request with
        url := params.newUrl.getD self.request.url
        headers := params.toHeaderUpdate.applyTo self.request.headers }
    pendingFollowRedirectParams :=
      if self.targetLoader.isSome then some params
      else self.pendingFollowRedirectParams }

def followRedirect (platform : Platform) (around : Surroundings)
    (self : InProgressRequest) (params : FollowRedirectParams) :
    InProgressRequest × List Effect :=
  (self.receiveFollowRedirect params).restart platform around

/-- The messages that are passed on to a bound loader as they are. -/
def passToLoader (self : InProgressRequest) (message : Nat → Effect) :
    InProgressRequest × List Effect :=
  (self, self.targetLoader.toList.map message)

def setPriority (self : InProgressRequest) (priority intraPriorityValue : Int) :
    InProgressRequest × List Effect :=
  self.passToLoader fun loader => .loaderSetPriority loader priority intraPriorityValue

def pauseReadingBodyFromNet (self : InProgressRequest) : InProgressRequest × List Effect :=
  self.passToLoader .loaderPauseReadingBodyFromNet

def resumeReadingBodyFromNet (self : InProgressRequest) :
    InProgressRequest × List Effect :=
  self.passToLoader .loaderResumeReadingBodyFromNet

/-- The disconnect handler of `target_client_`. -/
def onClientDisconnect (self : InProgressRequest) : InProgressRequest × List Effect :=
  self.onRequestError (.ofError errAborted)

/-! ### Messages from the network -/

def continueToResponseStarted (self : InProgressRequest) (errorCode : Int) :
    InProgressRequest × List Effect :=
  if errorCode ≠ netOK then self.onRequestError (.ofError errorCode)
  else
    ({ self with
        currentResponseHead := none
        currentResponseBody := none
        cachedMetadata := none },
      [.clientOnReceiveResponse self.currentResponseHead self.currentResponseBody
        self.cachedMetadata])

def handleResponseOrRedirectHeaders (platform : Platform) (browser : BrowserState)
    (self : InProgressRequest)
    (continuation : InProgressRequest → Int → InProgressRequest × List Effect) :
    InProgressRequest × List Effect :=
  let cleared := { self with redirectUrl := GURL.empty }
  let renewed :=
    if cleared.request.url.schemeIsHTTPOrHTTPS then
      { cleared with ctx := some (cleared.newContext platform browser) }
    else cleared
  continuation renewed netOK

def onReceiveEarlyHints (self : InProgressRequest) : InProgressRequest × List Effect :=
  (self, [])

def onReceiveResponse (platform : Platform) (browser : BrowserState)
    (self : InProgressRequest) (head : URLResponseHead)
    (body : Option DataPipeConsumerHandle) (cachedMetadata : Option BigBuffer) :
    InProgressRequest × List Effect :=
  { self with
    currentResponseHead := some head
    currentResponseBody := body
    cachedMetadata := cachedMetadata
    ctx := some { self.info with internalRedirect := false } }
  |>.handleResponseOrRedirectHeaders platform browser continueToResponseStarted

def onReceiveRedirect (platform : Platform) (browser : BrowserState)
    (self : InProgressRequest) (redirectInfo : RedirectInfo) (head : URLResponseHead) :
    InProgressRequest × List Effect :=
  { self with
    currentResponseHead := some head
    ctx := some { self.info with internalRedirect := false } }
  |>.handleResponseOrRedirectHeaders platform browser
    fun renewed errorCode => renewed.continueToBeforeRedirect platform redirectInfo errorCode

def onUploadProgress (self : InProgressRequest) (currentPosition totalSize : Int) :
    InProgressRequest × List Effect :=
  (self, [.clientOnUploadProgress currentPosition totalSize])

def onTransferSizeUpdated (self : InProgressRequest) (transferSizeDiff : Int) :
    InProgressRequest × List Effect :=
  (self, [.clientOnTransferSizeUpdated transferSizeDiff])

def onComplete (self : InProgressRequest) (status : URLLoaderCompletionStatus) :
    InProgressRequest × List Effect :=
  if status.errorCode ≠ netOK then self.onRequestError status
  else (self, [.clientOnComplete status, .removeRequest])

end InProgressRequest

end Whale
