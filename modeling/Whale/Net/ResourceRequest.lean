/-
The request, redirect and completion records that the proxy reads and writes.

Fields that this component only copies have carriers without structure; fields
that no modelled function reads are left out.
-/
import Whale.Net.HttpRequestHeaders

set_option autoImplicit false

namespace Whale.Net

open Whale.Url (Text GURL)

def netOK : Int := 0

def errAborted : Int := -3

def kGetMethod : Text := "GET".toList

/-- `url::Origin`.  Opaque origins are only ever compared with freshly created
ones here, so they carry no nonce and are same-origin with nothing. -/
inductive Origin where
  | tuple (scheme host port : Text)
  | unique
  deriving DecidableEq, Repr

namespace Origin

def isSameOriginWith : Origin → Origin → Bool
  | .tuple scheme host port, .tuple scheme' host' port' =>
      scheme == scheme' && host == host' && port == port'
  | _, _ => false

end Origin

inductive ReferrerPolicy where
  | clearOnTransitionFromSecureToInsecure
  | reduceGranularityOnTransitionCrossOrigin
  | originOnlyOnTransitionCrossOrigin
  | neverClear
  | origin
  | clearOnTransitionCrossOrigin
  | originClearOnTransitionFromSecureToInsecure
  | noReferrer
  deriving DecidableEq, Repr

inductive MojomReferrerPolicy where
  | kAlways
  | kDefault
  | kNoReferrerWhenDowngrade
  | kNever
  | kOrigin
  | kOriginWhenCrossOrigin
  | kStrictOriginWhenCrossOrigin
  | kSameOrigin
  | kStrictOrigin
  deriving DecidableEq, Repr

structure Referrer where
  url : GURL
  policy : MojomReferrerPolicy
  deriving DecidableEq, Repr

structure SiteForCookies where
  token : Nat
  deriving DecidableEq, Repr

structure IsolationInfo where
  token : Nat
  deriving DecidableEq, Repr

structure TrustedParams where
  isolationInfo : IsolationInfo
  deriving DecidableEq, Repr

structure ResourceRequestBody where
  token : Nat
  deriving DecidableEq, Repr

/-- `network::ResourceRequest`.  `resourceType` is the integer that is cast to
`blink::mojom::ResourceType`. -/
structure ResourceRequest where
  method : Text
  url : GURL
  siteForCookies : SiteForCookies
  updateFirstPartyUrlOnRedirect : Bool
  requestInitiator : Option Origin
  referrer : GURL
  referrerPolicy : ReferrerPolicy
  headers : HttpRequestHeaders
  corsExemptHeaders : HttpRequestHeaders
  resourceType : Int
  trustedParams : Option TrustedParams
  requestBody : Option ResourceRequestBody
  deriving DecidableEq, Repr

namespace ResourceType

def kMainFrame : Int := 0

def kSubFrame : Int := 1

end ResourceType

structure RedirectInfo where
  statusCode : Int
  newMethod : Text
  newUrl : GURL
  newSiteForCookies : SiteForCookies
  newReferrer : Text
  newReferrerPolicy : ReferrerPolicy
  deriving DecidableEq, Repr

inductive FirstPartyURLPolicy where
  | neverChangeUrl
  | updateUrlOnRedirect
  deriving DecidableEq, Repr

structure RedirectArguments where
  originalMethod : Text
  originalUrl : GURL
  originalSiteForCookies : SiteForCookies
  originalFirstPartyUrlPolicy : FirstPartyURLPolicy
  originalReferrerPolicy : ReferrerPolicy
  originalReferrer : Text
  httpStatusCode : Int
  newLocation : GURL
  referrerPolicyHeader : Option Text
  insecureSchemeWasUpgraded : Bool
  copyFragment : Bool
  isSignedExchangeFallbackRedirect : Bool
  deriving DecidableEq, Repr

/-- `network::mojom::URLResponseHead`, with the raw header text. -/
structure URLResponseHead where
  headers : Text
  encodedDataLength : Int
  deriving DecidableEq, Repr

structure DataPipeConsumerHandle where
  token : Nat
  deriving DecidableEq, Repr

structure BigBuffer where
  token : Nat
  deriving DecidableEq, Repr

structure URLLoaderCompletionStatus where
  errorCode : Int
  encodedDataLength : Int
  encodedBodyLength : Int
  decodedBodyLength : Int
  shouldCollapseInitiator : Bool
  deriving DecidableEq, Repr

namespace URLLoaderCompletionStatus

def ofError (errorCode : Int) : URLLoaderCompletionStatus :=
  { errorCode := errorCode
    encodedDataLength := 0
    encodedBodyLength := 0
    decodedBodyLength := 0
    shouldCollapseInitiator := false }

end URLLoaderCompletionStatus

end Whale.Net
