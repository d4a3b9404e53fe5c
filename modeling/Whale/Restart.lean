/-
What `Restart` does.

A restart has two outcomes.  Either the site hacks ask for another URL, and the
client is told of an internal redirect; or the request is handed over to the
network, by forwarding the saved parameters to a bound loader or by creating a
loader.  `restart_eq` states both outcomes in full, so that no later proof
unfolds the continuations.
-/
import Whale.InProgressRequest

set_option autoImplicit false

namespace Whale

open Whale.Url (Text GURL)
open Whale.Net

namespace InProgressRequest

variable (platform : Platform) (around : Surroundings) (self : InProgressRequest)

def vetting (browser : BrowserState) : SiteHacksResult :=
  onBeforeURLRequestSiteHacksWork platform browser (self.newContext platform browser)
    GURL.empty

def asksForRedirect (browser : BrowserState) : Bool :=
  !(self.vetting platform browser).newUrl.isEmpty

def vettingEffects (browser : BrowserState) : List Effect :=
  .siteHacks (self.newContext platform browser) ::
    (self.vetting platform browser).blockedParams.toList.map .handleURLParamsBlocked

/-! ### The internal redirect -/

def internalRedirectInfo (browser : BrowserState) : RedirectInfo :=
  createRedirectInfo platform self.request (self.vetting platform browser).newUrl
    kInternalRedirectStatusCode none

def internalRedirectHead (browser : BrowserState) : URLResponseHead :=
  { headers := internalRedirectHeaders (self.vetting platform browser).newUrl
    encodedDataLength := 0 }

def internallyRedirected (browser : BrowserState) : InProgressRequest :=
  { self with
    requestCompleted := true
    redirectUrl := (self.vetting platform browser).newUrl
    proxiedClientReceiver := none
    targetLoader := none
    currentResponseHead := none
    ctx := some
      { (self.vetting platform browser).ctx with
        internalRedirect := true
        redirectSource := GURL.empty }
    request := redirectedRequest platform
      { self.request with
        requestInitiator := taintedInitiator platform self.request
          (self.vetting platform browser).newUrl }
      (self.internalRedirectInfo platform browser) }

def internalRedirectEffects (browser : BrowserState) : List Effect :=
  [.targetLoaderReset,
    .clientOnReceiveRedirect (self.internalRedirectInfo platform browser)
      (some (self.internalRedirectHead platform browser))]

/-! ### The hand-over -/

def cappedRequest (browser : BrowserState) : ResourceRequest :=
  { self.request with
    referrer := (self.vetting platform browser).ctx.newReferrer.getD self.request.referrer }

def handedOverContext (browser : BrowserState) : WhaleRequestInfo :=
  if self.request.url.schemeIsHTTPOrHTTPS then
    makeCTX platform browser (self.cappedRequest platform browser)
      self.frameTreeNodeId self.requestId (some (self.vetting platform browser).ctx)
  else (self.vetting platform browser).ctx

def startsLoader : Bool :=
  self.targetLoader.isNone && around.targetFactoryBound

def handedOver : InProgressRequest :=
  { self with
    requestCompleted := false
    redirectUrl := (self.vetting platform around.browser).newUrl
    ctx := some (self.handedOverContext platform around.browser)
    request := self.cappedRequest platform around.browser
    pendingFollowRedirectParams := none
    targetLoader :=
      if self.startsLoader around then some self.nextLoader else self.targetLoader
    proxiedClientReceiver :=
      if self.startsLoader around then some self.nextLoader else self.proxiedClientReceiver
    nextLoader :=
      if self.startsLoader around then self.nextLoader + 1 else self.nextLoader }

def forwardEffects : List Effect :=
  match self.pendingFollowRedirectParams, self.targetLoader with
  | some params, some loader => [.loaderFollowRedirect loader params]
  | _, _ => []

def startEffects : List Effect :=
  if self.startsLoader around then
    [.createLoaderAndStart self.nextLoader self.networkServiceRequestId self.options
      (self.cappedRequest platform around.browser)]
  else []

def handOverEffects : List Effect :=
  self.forwardEffects ++ self.startEffects platform around

variable {around self}

/-! ### The vetted context -/

theorem vetting_ctx (browser : BrowserState) :
    ∃ newUrlSpec, (self.vetting platform browser).ctx =
      { self.newContext platform browser with
        newReferrer := cappedReferrer platform (self.newContext platform browser)
        newUrlSpec := newUrlSpec } :=
  siteHacks_ctx platform browser (self.newContext platform browser) GURL.empty

theorem newContext_redirectFields (browser : BrowserState) :
    (self.newContext platform browser).internalRedirect = self.info.internalRedirect ∧
      (self.newContext platform browser).redirectSource = self.info.redirectSource := by
  unfold newContext makeCTX info
  cases self.ctx with
  | none => exact ⟨rfl, rfl⟩
  | some ctx => exact ⟨rfl, rfl⟩

theorem vetting_redirectFields (browser : BrowserState) :
    (self.vetting platform browser).ctx.internalRedirect = self.info.internalRedirect ∧
      (self.vetting platform browser).ctx.redirectSource = self.info.redirectSource := by
  obtain ⟨newUrlSpec, written⟩ := self.vetting_ctx platform browser
  rw [written]
  exact newContext_redirectFields platform browser

theorem handedOverContext_redirectFields (browser : BrowserState) :
    (self.handedOverContext platform browser).internalRedirect =
        self.info.internalRedirect ∧
      (self.handedOverContext platform browser).redirectSource =
        self.info.redirectSource := by
  have vetted := self.vetting_redirectFields platform browser
  unfold handedOverContext
  split
  · exact vetted
  · exact vetted

/-- No context asks for header changes. -/
theorem handedOverContext_headers (browser : BrowserState) :
    (self.handedOverContext platform browser).removedHeaders = [] ∧
      (self.handedOverContext platform browser).setHeaders = [] := by
  unfold handedOverContext
  split
  · exact ⟨rfl, rfl⟩
  · obtain ⟨newUrlSpec, written⟩ := self.vetting_ctx platform browser
    rw [written]
    exact ⟨rfl, rfl⟩

theorem amendParams_eq (params : FollowRedirectParams)
    (removes : self.info.removedHeaders = []) (sets : self.info.setHeaders = []) :
    self.amendParams params = params := by
  unfold amendParams
  rw [removes, sets, List.append_nil]
  rfl

theorem vetting_newReferrer (browser : BrowserState) :
    (self.vetting platform browser).ctx.newReferrer =
      cappedReferrer platform (self.newContext platform browser) := by
  obtain ⟨newUrlSpec, written⟩ := self.vetting_ctx platform browser
  rw [written]

/-! ### The two outcomes -/

/-- The state in which `Restart` runs its continuation. -/
def vetted (platform : Platform) (browser : BrowserState) (self : InProgressRequest) :
    InProgressRequest :=
  { self with
    requestCompleted := false
    redirectUrl := (self.vetting platform browser).newUrl
    ctx := some (self.vetting platform browser).ctx }

def readyToSend (platform : Platform) (browser : BrowserState)
    (self : InProgressRequest) : InProgressRequest :=
  { self.vetted platform browser with
    ctx := some (self.handedOverContext platform browser)
    request := self.cappedRequest platform browser }

theorem forwardPendingParams_eq (removes : self.info.removedHeaders = [])
    (sets : self.info.setHeaders = []) :
    self.forwardPendingParams =
      ({ self with pendingFollowRedirectParams := none }, self.forwardEffects) := by
  unfold forwardPendingParams forwardEffects
  cases pending : self.pendingFollowRedirectParams with
  | none =>
      simp only
      rw [← pending]
  | some params =>
      simp only [amendParams_eq params removes sets]
      cases self.targetLoader <;> rfl

theorem continueToSendHeaders_readyToSend :
    (self.readyToSend platform around.browser).continueToSendHeaders around netOK =
      (self.handedOver platform around, self.handOverEffects platform around) := by
  have headers := self.handedOverContext_headers platform around.browser
  have forwarded := (self.readyToSend platform around.browser).forwardPendingParams_eq
    headers.1 headers.2
  unfold continueToSendHeaders
  rw [forwarded]
  unfold continueToStartRequest handedOver handOverEffects startEffects
  simp only [ne_eq, not_true_eq_false, if_false]
  cases starts : self.startsLoader around with
  | true =>
      have condition : (self.targetLoader.isNone && around.targetFactoryBound) = true :=
        starts
      simp only [readyToSend, vetted, condition, if_true]
      rfl
  | false =>
      have condition : (self.targetLoader.isNone && around.targetFactoryBound) = false :=
        starts
      simp only [readyToSend, vetted, condition, Bool.false_eq_true, if_false]
      rfl

theorem continueToBeforeSendHeaders_vetted
    (silent : self.asksForRedirect platform around.browser = false) :
    (self.vetted platform around.browser).continueToBeforeSendHeaders platform around
        netOK =
      (self.readyToSend platform around.browser).continueToSendHeaders around netOK := by
  have noRedirect : (!(self.vetted platform around.browser).redirectUrl.isEmpty) = false :=
    silent
  unfold continueToBeforeSendHeaders
  simp only [ne_eq, not_true_eq_false, if_false, noRedirect, Bool.false_eq_true]
  unfold readyToSend handedOverContext
  cases web : self.request.url.schemeIsHTTPOrHTTPS with
  | true =>
      have sameScheme : (self.vetted platform around.browser).request.url.schemeIsHTTPOrHTTPS =
          true := web
      simp only [sameScheme, if_true]
      rfl
  | false =>
      have sameScheme : (self.vetted platform around.browser).request.url.schemeIsHTTPOrHTTPS =
          false := web
      simp only [sameScheme, Bool.false_eq_true, if_false]
      rfl

/-- A restart redirects internally or hands over. -/
theorem restart_eq :
    self.restart platform around =
      if self.asksForRedirect platform around.browser then
        (self.internallyRedirected platform around.browser,
          self.vettingEffects platform around.browser ++
            self.internalRedirectEffects platform around.browser)
      else
        (self.handedOver platform around,
          self.vettingEffects platform around.browser ++
            self.handOverEffects platform around) := by
  have unfolded : self.restart platform around =
      (((self.vetted platform around.browser).continueToBeforeSendHeaders platform around
          netOK).1,
        self.vettingEffects platform around.browser ++
          ((self.vetted platform around.browser).continueToBeforeSendHeaders platform
            around netOK).2) := rfl
  rw [unfolded]
  cases asks : self.asksForRedirect platform around.browser with
  | true =>
      have redirected : (self.vetted platform around.browser).continueToBeforeSendHeaders
          platform around netOK =
          (self.vetted platform around.browser).handleBeforeRequestRedirect platform := by
        have nonempty : (!(self.vetted platform around.browser).redirectUrl.isEmpty) = true :=
          asks
        unfold continueToBeforeSendHeaders
        simp only [ne_eq, not_true_eq_false, if_false, nonempty, if_true]
      rw [redirected]
      rfl
  | false =>
      rw [continueToBeforeSendHeaders_vetted platform asks, continueToSendHeaders_readyToSend]
      rfl

end InProgressRequest

end Whale
