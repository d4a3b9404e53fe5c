/-
The settings map of the browser for the TRACKING_BLOCKER setting.

`HostContentSettingsMap` and `ContentSettingsPattern` are parameters, with the
documented behaviour of the two kinds of pattern this component writes.  A map is
then a default with overrides at single hosts.
-/
import Whale.Foundation.Overrides
import Whale.ReferencePlatform

set_option autoImplicit false

namespace Whale

open Whale.Foundation
open Whale.Url (Text GURL)

/-- `HostContentSettingsMap` and `ContentSettingsPattern` for the TRACKING_BLOCKER
setting.  `hostRule` is the rule of exactly one host, `registeredDefault` the
default before any is set. -/
structure ContentSettingsService where
  Map : Type
  Pattern : Type
  wildcard : Pattern
  fromString : Text → Pattern
  patternIsValid : Pattern → Bool
  getContentSetting : Map → GURL → GURL → ContentSetting
  getDefaultContentSetting : Map → ContentSetting
  setContentSettingCustomScope : Map → Pattern → Pattern → ContentSetting → Map
  hostRule : Map → Text → Option ContentSetting
  registeredDefault : ContentSetting

def hostPatternText (host : Text) : Text :=
  "*://".toList ++ host ++ "/*".toList

namespace ContentSettingsService

def view (service : ContentSettingsService) (map : service.Map) : HostContentSettingsMap :=
  { getContentSetting := service.getContentSetting map }

end ContentSettingsService

/-! ### What the settings map promises -/

/-- A rule for a host beats the default.  A valid host pattern addresses exactly its
host, the wildcard addresses the default, and CONTENT_SETTING_DEFAULT deletes. -/
structure ContentSettingsService.FollowsHostRules (service : ContentSettingsService) :
    Prop where
  reads : ∀ map (url : GURL), url.isValid = true → url.schemeIsHTTPOrHTTPS = true →
    service.getContentSetting map url GURL.empty =
      (service.hostRule map url.host).getD (service.getDefaultContentSetting map)
  hostPatternValid : ∀ url : GURL, url.isValid = true → url.schemeIsHTTPOrHTTPS = true →
    url.host ≠ [] →
    service.patternIsValid (service.fromString (hostPatternText url.host)) = true
  wildcardValid : service.patternIsValid service.wildcard = true
  hostWriteRule : ∀ map host setting other,
    service.patternIsValid (service.fromString (hostPatternText host)) = true →
    service.hostRule (service.setContentSettingCustomScope map
        (service.fromString (hostPatternText host)) service.wildcard setting) other =
      if other = host then (if setting = .default then none else some setting)
      else service.hostRule map other
  hostWriteDefault : ∀ map host setting,
    service.patternIsValid (service.fromString (hostPatternText host)) = true →
    service.getDefaultContentSetting (service.setContentSettingCustomScope map
        (service.fromString (hostPatternText host)) service.wildcard setting) =
      service.getDefaultContentSetting map
  wildcardWriteRule : ∀ map setting other,
    service.hostRule (service.setContentSettingCustomScope map service.wildcard
      service.wildcard setting) other = service.hostRule map other
  wildcardWriteDefault : ∀ map setting,
    service.getDefaultContentSetting (service.setContentSettingCustomScope map
        service.wildcard service.wildcard setting) =
      if setting = .default then service.registeredDefault else setting

/-! ### A map is a default with overrides -/

def ContentSettingsService.rules (service : ContentSettingsService) (map : service.Map) :
    Overrides Text ContentSetting :=
  { fallback := service.getDefaultContentSetting map
    override := service.hostRule map }

/-! ### A concrete settings map -/

inductive ReferencePattern where
  | wildcard
  | host (name : Text)
  | malformed
  deriving DecidableEq, Repr

namespace ReferencePattern

def ofText (text : Text) : ReferencePattern :=
  if "*://".toList.isPrefixOf text && "/*".toList.isSuffixOf text then
    .host ((text.drop 4).take (text.length - 6))
  else .malformed

theorem ofText_hostPatternText (host : Text) : ofText (hostPatternText host) = .host host := by
  have isPrefix : "*://".toList.isPrefixOf (hostPatternText host) = true := by
    rw [List.isPrefixOf_iff_prefix]
    exact ⟨host ++ "/*".toList, (List.append_assoc _ _ _).symm⟩
  have isSuffix : "/*".toList.isSuffixOf (hostPatternText host) = true := by
    rw [List.isSuffixOf_iff_suffix]
    exact ⟨"*://".toList ++ host, rfl⟩
  have inner : ((hostPatternText host).drop 4).take ((hostPatternText host).length - 6) =
      host := by
    simp [hostPatternText]
  rw [ofText, isPrefix, isSuffix, inner]
  rfl

def write (map : Overrides Text ContentSetting) (registeredDefault : ContentSetting)
    (setting : ContentSetting) : ReferencePattern → Overrides Text ContentSetting
  | .wildcard =>
      map.write (.setFallback (if setting = .default then registeredDefault else setting))
  | .host name =>
      map.write (if setting = .default then .removeOverride name else .setOverride name setting)
  | .malformed => map

end ReferencePattern

def referenceSettings (registeredDefault : ContentSetting) : ContentSettingsService :=
  { Map := Overrides Text ContentSetting
    Pattern := ReferencePattern
    wildcard := .wildcard
    fromString := ReferencePattern.ofText
    patternIsValid := fun pattern => pattern != .malformed
    getContentSetting := fun map url _secondary => map.read url.host
    getDefaultContentSetting := fun map => map.fallback
    setContentSettingCustomScope := fun map primary _secondary setting =>
      primary.write map registeredDefault setting
    hostRule := fun map host => map.override host
    registeredDefault := registeredDefault }

theorem ReferencePattern.hostWrite (registeredDefault : ContentSetting)
    (map : Overrides Text ContentSetting) (host : Text) (setting : ContentSetting) :
    (∀ other, ((ofText (hostPatternText host)).write map registeredDefault setting).override
        other =
      if other = host then (if setting = .default then none else some setting)
      else map.override other) ∧
    ((ofText (hostPatternText host)).write map registeredDefault setting).fallback =
      map.fallback := by
  rw [ofText_hostPatternText]
  unfold ReferencePattern.write
  by_cases deletes : setting = .default
  · simp [deletes, Overrides.write]
  · simp [deletes, Overrides.write]

theorem referenceSettings_followsHostRules (registeredDefault : ContentSetting) :
    (referenceSettings registeredDefault).FollowsHostRules := by
  constructor
  · intro map url _ _
    rfl
  · intro url _ _ _
    change (ReferencePattern.ofText (hostPatternText url.host) != .malformed) = true
    rw [ReferencePattern.ofText_hostPatternText]
    rfl
  · rfl
  · intro map host setting other _
    exact (ReferencePattern.hostWrite registeredDefault map host setting).1 other
  · intro map host setting _
    exact (ReferencePattern.hostWrite registeredDefault map host setting).2
  · intro map setting other
    rfl
  · intro map setting
    rfl

def referenceMap (fallback : ContentSetting) : (referenceSettings .ask).Map :=
  { fallback := fallback
    override := fun _host => none }

end Whale
