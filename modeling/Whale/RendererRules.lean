/-
`tracking_blocker_utils.cc`: the setting of a page, looked up in rules that a renderer has
been handed.

The rules are a copy of the settings map from the time that they were handed out.  The
first rule whose pattern matches decides.  What the copy says of a page stays true as
long as nothing is written for the host of the page, or for all sites where the host has
no rule of its own.
-/
import Whale.SiteSettings

set_option autoImplicit false

namespace Whale

open Whale.Foundation
open Whale.Url (Text GURL)

/-- Each rule has its primary pattern and its setting. -/
abbrev ContentSettingsForOneType (Pattern : Type) := List (Pattern × ContentSetting)

/-- `patternMatches` is `ContentSettingsPattern::Matches`. -/
def getTrackingBlockerContentSettingFromRules {Pattern : Type}
    (patternMatches : Pattern → GURL → Bool) (rules : ContentSettingsForOneType Pattern)
    (primaryUrl : GURL) : ContentSetting :=
  match rules.find? fun rule => patternMatches rule.1 primaryUrl with
  | some rule => rule.2
  | none => .default

section

variable {service : ContentSettingsService} {patternMatches : service.Pattern → GURL → Bool}
  {map : service.Map} {rules : ContentSettingsForOneType service.Pattern}

/-- What is handed out for a map: the rules of single hosts, the default after them.  The
pattern of a host matches the pages of exactly that host. -/
structure HandedOut (service : ContentSettingsService)
    (patternMatches : service.Pattern → GURL → Bool) (map : service.Map)
    (rules : ContentSettingsForOneType service.Pattern) : Prop where
  lists : Overrides.Lists (service.rules map)
    (fun host => service.fromString (hostPatternText host)) service.wildcard rules
  hostMatches : ∀ host (url : GURL), (service.hostRule map host).isSome = true →
    url.isValid = true → url.schemeIsHTTPOrHTTPS = true →
    patternMatches (service.fromString (hostPatternText host)) url = decide (host = url.host)
  wildcardMatches : ∀ url, patternMatches service.wildcard url = true

theorem lookup_eq_read (handedOut : HandedOut service patternMatches map rules) {url : GURL}
    (valid : url.isValid = true) (http : url.schemeIsHTTPOrHTTPS = true) :
    getTrackingBlockerContentSettingFromRules patternMatches rules url =
      (service.rules map).read url.host := by
  have found := Overrides.find?_of_lists handedOut.lists
    (fun pattern => patternMatches pattern url) url.host
    (fun host present => handedOut.hostMatches host url present valid http)
    (handedOut.wildcardMatches url)
  unfold getTrackingBlockerContentSettingFromRules
  cases first : rules.find? fun rule => patternMatches rule.1 url with
  | none =>
      rw [first] at found
      cases found
  | some rule =>
      rw [first] at found
      exact Option.some.inj found

theorem read_run_of_silent (laws : service.FollowsHostRules) (calls : List SettingsCall)
    (addressed : ∀ call ∈ calls, call.url.isValid = true ∨ call.url.isEmpty = true)
    (host : Text) (silent : ∀ call ∈ calls, call.isForHost host = false)
    (settled : (service.hostRule map host).isSome = true ∨
      ∀ call ∈ calls, call.isForAllSites = false) :
    (service.rules (service.run map calls)).read host = (service.rules map).read host := by
  rw [ContentSettingsService.rules_run laws calls addressed]
  apply Overrides.read_foldl_write_of_silent
  · intro write member
    obtain ⟨call, called, written⟩ := List.mem_filterMap.mp member
    have here := SettingsCall.any_isAt_write service.registeredDefault host call
    rw [written, silent call called] at here
    exact here
  · rcases settled with present | kept
    · exact Or.inl present
    · right
      intro write member
      obtain ⟨call, called, written⟩ := List.mem_filterMap.mp member
      have here := SettingsCall.any_isFallback_write service.registeredDefault call
      rw [written, kept call called] at here
      exact here

/-- A renderer judges a page by the rules that it was handed as the browser judges it
now, if no call since then has been for the host of the page, nor for all sites unless
the host has a rule of its own.  The URLs of the calls are valid or empty, as
`GetPatternFromURL` checks. -/
theorem staleRules_agree (service : ContentSettingsService) (laws : service.FollowsHostRules)
    (patternMatches : service.Pattern → GURL → Bool) (map : service.Map)
    (rules : ContentSettingsForOneType service.Pattern)
    (handedOut : HandedOut service patternMatches map rules) (calls : List SettingsCall)
    (addressed : ∀ call ∈ calls, call.url.isValid = true ∨ call.url.isEmpty = true)
    (url : GURL) (valid : url.isValid = true) (http : url.schemeIsHTTPOrHTTPS = true)
    (silent : ∀ call ∈ calls, call.isForHost url.host = false)
    (settled : (service.hostRule map url.host).isSome = true ∨
      ∀ call ∈ calls, call.isForAllSites = false) :
    getTrackingBlockerContentSettingFromRules patternMatches rules url =
      service.getContentSetting (service.run map calls) url GURL.empty := by
  have now : service.getContentSetting (service.run map calls) url GURL.empty =
      (service.rules (service.run map calls)).read url.host :=
    laws.reads (service.run map calls) url valid http
  rw [now, read_run_of_silent laws calls addressed url.host silent settled]
  exact lookup_eq_read handedOut valid http

end

/-! ### Rules of one site -/

def ReferencePattern.patternMatches : ReferencePattern → GURL → Bool
  | .wildcard, _ => true
  | .host name, url => decide (name = url.host)
  | .malformed, _ => false

/-- One site is blocked, the others have the default. -/
def oneSiteMap : (referenceSettings .ask).Map :=
  { fallback := .ask
    override := fun host => if host = "a.com".toList then some .block else none }

def oneSiteRules : ContentSettingsForOneType (referenceSettings .ask).Pattern :=
  [(.host "a.com".toList, .block), (.wildcard, .ask)]

theorem oneSiteRules_handedOut :
    HandedOut (referenceSettings .ask) ReferencePattern.patternMatches oneSiteMap
      oneSiteRules := by
  constructor
  · refine ⟨["a.com".toList], ?_, ?_⟩
    · intro host
      simp [ContentSettingsService.rules, referenceSettings, oneSiteMap]
    · rfl
  · intro host url _present _valid _http
    change (ReferencePattern.ofText (hostPatternText host)).patternMatches url = _
    rw [ReferencePattern.ofText_hostPatternText]
    rfl
  · intro url
    rfl

/-- Calls for other pages and for all sites do not reach a page with a rule. -/
def laterCalls : List SettingsCall :=
  [.setTrackingBlockerControlType .allow (referenceUrl "https://b.com/"),
    .setTrackingBlockerControlType .allow GURL.empty,
    .resetTrackingBlockerEnabled (referenceUrl "https://b.com/")]

theorem staleRules_agree_example :
    getTrackingBlockerContentSettingFromRules ReferencePattern.patternMatches oneSiteRules
        (referenceUrl "https://a.com/x") =
      (referenceSettings .ask).getContentSetting
        ((referenceSettings .ask).run oneSiteMap laterCalls)
        (referenceUrl "https://a.com/x") GURL.empty := by
  have addressed : ∀ call ∈ laterCalls,
      call.url.isValid = true ∨ call.url.isEmpty = true := by decide
  exact staleRules_agree (referenceSettings .ask) (referenceSettings_followsHostRules .ask)
    ReferencePattern.patternMatches oneSiteMap oneSiteRules oneSiteRules_handedOut laterCalls
    addressed (referenceUrl "https://a.com/x") (by decide) (by decide) (by decide)
    (Or.inl (by decide))

end Whale
