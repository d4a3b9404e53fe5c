/-
The browser around the component.

`Platform` collects what this component uses of the embedding browser and does
not define: two build flags, the constructor of `GURL` from a string,
`SameDomainOrHost`, `url::Origin::Create` and `GetURL`,
`content::Referrer::SanitizeForRequest`, `ComputeRedirectInfo` of
`net::RedirectInfo` and `CreateForRedirect` of `net::IsolationInfo`.  Results
that depend on one of them name the documented behaviour they use as a
hypothesis.  `BrowserState` is what the component reads from the profile and its
tabs at one moment.
-/
import Whale.Net.ResourceRequest

set_option autoImplicit false

namespace Whale

open Whale.Url (Text GURL)
open Whale.Net

structure Platform where
  isAndroid : Bool
  enableExtensions : Bool
  parse : Text → GURL
  /-- `SameDomainOrHost` with private registries included. -/
  sameDomainOrHost : GURL → GURL → Bool
  createOrigin : GURL → Origin
  originURL : Origin → GURL
  sanitizeForRequest : GURL → Referrer → Referrer
  computeRedirectInfo : RedirectArguments → RedirectInfo
  createForRedirect : IsolationInfo → Origin → IsolationInfo

namespace Platform

/-- A valid URL is in canonical form, and its spec is read as that URL. -/
def ReparsesCanonicalSpecs (platform : Platform) : Prop :=
  ∀ url : GURL, url.isValid = true → platform.parse url.spec = url

/-- The location is the new URL, unless the fragment of the old one is to be copied. -/
def RedirectsToLocation (platform : Platform) : Prop :=
  ∀ arguments, arguments.copyFragment = false →
    (platform.computeRedirectInfo arguments).newUrl = arguments.newLocation

/-- Under strict-origin-when-cross-origin, a target of another origin receives
the origin of the referrer or nothing. -/
def SanitizesCrossOrigin (platform : Platform) : Prop :=
  ∀ target referrer : GURL,
    (platform.createOrigin referrer).isSameOriginWith
        (platform.createOrigin target) = false →
      let sanitized := (platform.sanitizeForRequest target
        { url := platform.originURL (platform.createOrigin referrer)
          policy := .kStrictOriginWhenCrossOrigin }).url
      sanitized = platform.originURL (platform.createOrigin referrer) ∨
        sanitized.isEmpty = true

end Platform

inductive ContentSetting where
  | default
  | allow
  | block
  | ask
  | sessionOnly
  | detectImportantContent
  deriving DecidableEq, Repr

/-- The reading side of `HostContentSettingsMap` for the TRACKING_BLOCKER
setting: primary and secondary URL to the setting in force. -/
structure HostContentSettingsMap where
  getContentSetting : GURL → GURL → ContentSetting

structure WebContents where
  lastCommittedURL : GURL
  hasShieldsDataController : Bool
  deriving DecidableEq, Repr

structure BrowserState where
  webContents : Int → Option WebContents
  settings : HostContentSettingsMap

end Whale
