/-
The reading side of `tracking_blockers_util.cc`: the two levels of the tracking
blocker for a site, and the cap on referrers.
-/
import Whale.Platform

set_option autoImplicit false

namespace Whale

open Whale.Url (Text GURL)
open Whale.Net

def getTrackingBlockerEnabled (platform : Platform) (map : HostContentSettingsMap)
    (url : GURL) : Bool :=
  if platform.isAndroid then false
  else if url.isValid && !url.schemeIsHTTPOrHTTPS then false
  else map.getContentSetting url GURL.empty != .allow

def isTrackingBlockerMaxLevel (platform : Platform) (map : HostContentSettingsMap)
    (url : GURL) : Bool :=
  if platform.isAndroid then false
  else if url.isValid && !url.schemeIsHTTPOrHTTPS then false
  else map.getContentSetting url GURL.empty == .block

def isSameOriginNavigation (platform : Platform) (referrer targetUrl : GURL) : Bool :=
  (platform.createOrigin referrer).isSameOriginWith (platform.createOrigin targetUrl)

def naverDomain : Text := "naver.com".toList

/-- `none` is the result `false`; otherwise the output referrer is written. -/
def maybeChangeReferrer (platform : Platform) (currentReferrer targetUrl : GURL)
    (map : Option HostContentSettingsMap) : Option Referrer :=
  if map.any (fun present => !isTrackingBlockerMaxLevel platform present targetUrl) then
    none
  else if currentReferrer.isEmpty then none
  -- Same-origin requests keep their referrer.
  else if isSameOriginNavigation platform currentReferrer targetUrl then none
  else if currentReferrer.domainIs naverDomain then none
  else
    some (platform.sanitizeForRequest targetUrl
      { url := platform.originURL (platform.createOrigin currentReferrer)
        policy := .kStrictOriginWhenCrossOrigin })

theorem maybeChangeReferrer_eq_none_iff (platform : Platform)
    (currentReferrer targetUrl : GURL) :
    maybeChangeReferrer platform currentReferrer targetUrl none = none ↔
      currentReferrer.isEmpty = true ∨
        isSameOriginNavigation platform currentReferrer targetUrl = true ∨
        currentReferrer.domainIs naverDomain = true := by
  simp only [maybeChangeReferrer, Option.any_none, Bool.false_eq_true, if_false]
  by_cases isBlank : currentReferrer.isEmpty = true
  · simp [isBlank]
  · by_cases sameOrigin :
        isSameOriginNavigation platform currentReferrer targetUrl = true
    · simp [isBlank, sameOrigin]
    · by_cases naver : currentReferrer.domainIs naverDomain = true
      · simp [isBlank, sameOrigin, naver]
      · simp [isBlank, sameOrigin, naver]

theorem maybeChangeReferrer_some (platform : Platform)
    (sanitizes : platform.SanitizesCrossOrigin) (currentReferrer targetUrl : GURL)
    (output : Referrer)
    (changed : maybeChangeReferrer platform currentReferrer targetUrl none =
      some output) :
    output.url = platform.originURL (platform.createOrigin currentReferrer) ∨
      output.url.isEmpty = true := by
  simp only [maybeChangeReferrer, Option.any_none, Bool.false_eq_true,
    if_false] at changed
  by_cases isBlank : currentReferrer.isEmpty = true
  · simp [isBlank] at changed
  · by_cases sameOrigin :
        isSameOriginNavigation platform currentReferrer targetUrl = true
    · simp [isBlank, sameOrigin] at changed
    · by_cases naver : currentReferrer.domainIs naverDomain = true
      · simp [isBlank, sameOrigin, naver] at changed
      · simp only [isBlank, sameOrigin, naver, Bool.false_eq_true, if_false,
          Option.some.injEq] at changed
        subst output
        have crossOrigin := Bool.eq_false_iff.mpr sameOrigin
        exact sanitizes targetUrl currentReferrer crossOrigin

end Whale
