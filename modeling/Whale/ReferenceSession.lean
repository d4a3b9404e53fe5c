/-
Requests on the reference platform.

A tab at https://news.example.com/ whose blocking level is a parameter, and the
messages of a GET request from it, as a renderer and a network service send
them.
-/
import Whale.ReferencePlatform
import Whale.Session

set_option autoImplicit false

namespace Whale

open Whale.Url (Text GURL)
open Whale.Net

def referenceBrowser (level : ContentSetting) : BrowserState :=
  { webContents := fun _frameTreeNodeId =>
      some
        { lastCommittedURL := referenceUrl "https://news.example.com/"
          hasShieldsDataController := true }
    settings := { getContentSetting := fun _primary _secondary => level } }

def referenceSurroundings (level : ContentSetting) (targetFactoryBound : Bool) :
    Surroundings :=
  { browser := referenceBrowser level, targetFactoryBound := targetFactoryBound }

def referenceRequest (spec : String) : ResourceRequest :=
  { method := kGetMethod
    url := referenceUrl spec
    siteForCookies := ⟨0⟩
    updateFirstPartyUrlOnRedirect := false
    requestInitiator := some (referencePlatform.createOrigin
      (referenceUrl "https://news.example.com/"))
    referrer := GURL.empty
    referrerPolicy := .neverClear
    headers := HttpRequestHeaders.empty
    corsExemptHeaders := HttpRequestHeaders.empty
    resourceType := 4
    trustedParams := none
    requestBody := none }

def referenceArguments (request : ResourceRequest) : CreateLoaderArguments :=
  { requestId := 1
    networkServiceRequestId := 7
    frameTreeNodeId := 3
    options := 0
    request := request }

/-- A 302 response that leaves the request a GET without referrer. -/
def referenceRedirect (spec : String) : RedirectInfo :=
  { statusCode := 302
    newMethod := kGetMethod
    newUrl := referenceUrl spec
    newSiteForCookies := ⟨0⟩
    newReferrer := []
    newReferrerPolicy := .neverClear }

def referenceHead : URLResponseHead :=
  { headers := [], encodedDataLength := 0 }

def plainFollowUp : FollowRedirectParams :=
  { removedHeaders := []
    modifiedHeaders := HttpRequestHeaders.empty
    modifiedCorsExemptHeaders := HttpRequestHeaders.empty
    newUrl := none }

end Whale
