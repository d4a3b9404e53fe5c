/-
The writing side of `tracking_blockers_util.cc`.

A call is at most one write to a settings map: HTTP(S) URLs address their host,
the empty URL all sites, and other schemes nothing.  What the two readers return
for a host after any sequence of calls follows from the last writes.
-/
import Whale.ContentSettings
import Whale.TrackingBlockers

set_option autoImplicit false

namespace Whale

open Whale.Foundation
open Whale.Url (Text GURL)

inductive ControlType where
  | allow
  | block
  | blockThirdParty
  | default
  | invalid
  deriving DecidableEq, Repr

def getDefaultBlockFromControlType (type : ControlType) : ContentSetting :=
  if type = .default then .default
  else if type = .allow then .allow else .block

namespace ContentSettingsService

variable (service : ContentSettingsService)

def getPatternFromURL (url : GURL) : service.Pattern :=
  if url.isEmpty && url.possiblyInvalidSpec == [] then service.wildcard
  else service.fromString (hostPatternText url.host)

theorem getPatternFromURL_of_named (url : GURL) (named : url.isEmpty = false) :
    service.getPatternFromURL url = service.fromString (hostPatternText url.host) := by
  unfold getPatternFromURL
  rw [named]
  rfl

def setTrackingBlockerControlType (map : service.Map) (type : ControlType) (url : GURL) :
    service.Map :=
  if url.isValid && !url.schemeIsHTTPOrHTTPS then map
  else
    let primaryPattern := service.getPatternFromURL url
    if !service.patternIsValid primaryPattern then map
    else
      -- CONTENT_SETTING_ASK is the default mode, which blocks trackers only.
      let contentSetting :=
        if type = .default ∨ type = .blockThirdParty then .ask
        else getDefaultBlockFromControlType type
      service.setContentSettingCustomScope map primaryPattern service.wildcard contentSetting

def resetTrackingBlockerEnabled (map : service.Map) (url : GURL) : service.Map :=
  if url.isValid && !url.schemeIsHTTPOrHTTPS then map
  else
    let primaryPattern := service.getPatternFromURL url
    if !service.patternIsValid primaryPattern then map
    else service.setContentSettingCustomScope map primaryPattern service.wildcard .default

end ContentSettingsService

inductive SettingsCall where
  | setTrackingBlockerControlType (type : ControlType) (url : GURL)
  | resetTrackingBlockerEnabled (url : GURL)
  deriving DecidableEq, Repr

namespace SettingsCall

def url : SettingsCall → GURL
  | setTrackingBlockerControlType _ url => url
  | resetTrackingBlockerEnabled url => url

def perform (service : ContentSettingsService) (map : service.Map) :
    SettingsCall → service.Map
  | setTrackingBlockerControlType type url =>
      service.setTrackingBlockerControlType map type url
  | resetTrackingBlockerEnabled url => service.resetTrackingBlockerEnabled map url

end SettingsCall

/-! ### A call is a write -/

namespace SettingsCall

/-- The setting that a call writes. -/
def setting : SettingsCall → ContentSetting
  | setTrackingBlockerControlType .allow _ => .allow
  | setTrackingBlockerControlType .block _ => .block
  | setTrackingBlockerControlType .invalid _ => .block
  | setTrackingBlockerControlType .default _ => .ask
  | setTrackingBlockerControlType .blockThirdParty _ => .ask
  | resetTrackingBlockerEnabled _ => .default

/-- Both calls have the same guards and write one setting. -/
theorem perform_eq (service : ContentSettingsService) (map : service.Map)
    (call : SettingsCall) :
    call.perform service map =
      if call.url.isValid && !call.url.schemeIsHTTPOrHTTPS then map
      else if !service.patternIsValid (service.getPatternFromURL call.url) then map
      else service.setContentSettingCustomScope map (service.getPatternFromURL call.url)
        service.wildcard call.setting := by
  cases call with
  | setTrackingBlockerControlType type url => cases type <;> rfl
  | resetTrackingBlockerEnabled url => rfl

def isForAllSites (call : SettingsCall) : Bool :=
  call.url.isEmpty

def isForHost (host : Text) (call : SettingsCall) : Bool :=
  call.url.isValid && call.url.schemeIsHTTPOrHTTPS && decide (call.url.host = host)

open Overrides (Write)

/-- The write that a call makes to the default and the overrides. -/
def write (registeredDefault : ContentSetting) (call : SettingsCall) :
    Option (Write Text ContentSetting) :=
  if call.url.isEmpty then
    some (.setFallback
      (if call.setting = .default then registeredDefault else call.setting))
  else if call.url.isValid && call.url.schemeIsHTTPOrHTTPS then
    some (if call.setting = .default then .removeOverride call.url.host
      else .setOverride call.url.host call.setting)
  else none

variable {service : ContentSettingsService}

theorem perform_of_otherScheme (map : service.Map) (call : SettingsCall)
    (valid : call.url.isValid = true) (otherScheme : call.url.schemeIsHTTPOrHTTPS = false) :
    call.perform service map = map := by
  rw [perform_eq, valid, otherScheme]
  rfl

theorem perform_of_isEmpty (laws : service.FollowsHostRules) (map : service.Map)
    (call : SettingsCall) (blank : call.url.isEmpty = true) :
    call.perform service map =
      service.setContentSettingCustomScope map service.wildcard service.wildcard
        call.setting := by
  have invalid : call.url.isValid = false := by
    cases valid : call.url.isValid with
    | false => rfl
    | true => simp [GURL.isEmpty_eq_false_of_valid call.url valid] at blank
  have isNil : call.url.possiblyInvalidSpec = [] := List.isEmpty_iff.mp blank
  have pattern : service.getPatternFromURL call.url = service.wildcard := by
    simp [ContentSettingsService.getPatternFromURL, blank, isNil]
  rw [perform_eq, invalid, pattern, laws.wildcardValid]
  rfl

theorem perform_of_host (map : service.Map) (call : SettingsCall)
    (addressed : call.url.isEmpty = false)
    (notOther : (call.url.isValid && !call.url.schemeIsHTTPOrHTTPS) = false)
    (patternValid :
      service.patternIsValid (service.fromString (hostPatternText call.url.host)) = true) :
    call.perform service map =
      service.setContentSettingCustomScope map
        (service.fromString (hostPatternText call.url.host)) service.wildcard
        call.setting := by
  rw [perform_eq, notOther, service.getPatternFromURL_of_named call.url addressed,
    patternValid]
  rfl

/-- A call on an HTTP(S), other-scheme or empty URL is the write it stands for. -/
theorem rules_perform (laws : service.FollowsHostRules) (map : service.Map)
    (call : SettingsCall)
    (addressed : call.url.isValid = true ∨ call.url.isEmpty = true) :
    service.rules (call.perform service map) =
      match call.write service.registeredDefault with
      | some write => (service.rules map).write write
      | none => service.rules map := by
  unfold write
  cases blank : call.url.isEmpty with
  | true =>
      rw [perform_of_isEmpty laws map call blank]
      simp only [if_true, ContentSettingsService.rules, Overrides.write,
        laws.wildcardWriteDefault]
      congr 1
      funext other
      exact laws.wildcardWriteRule map call.setting other
  | false =>
      have valid : call.url.isValid = true := by simpa [blank] using addressed
      rw [valid, Bool.true_and]
      cases http : call.url.schemeIsHTTPOrHTTPS with
      | false =>
          rw [perform_of_otherScheme map call valid http]
          simp
      | true =>
          have patternValid := laws.hostPatternValid call.url valid http
            (call.url.host_ne_nil valid http)
          rw [perform_of_host map call blank (by simp [http]) patternValid]
          simp only [Bool.false_eq_true, if_false, if_true, ContentSettingsService.rules,
            laws.hostWriteDefault map call.url.host call.setting patternValid]
          by_cases deletes : call.setting = .default
          · simp only [deletes, if_true, Overrides.write]
            congr 1
            funext other
            rw [laws.hostWriteRule map call.url.host .default other patternValid, if_pos rfl]
          · simp only [deletes, if_false, Overrides.write]
            congr 1
            funext other
            rw [laws.hostWriteRule map call.url.host call.setting other patternValid,
              if_neg deletes]

theorem isEmpty_eq_false_of_isForHost {host : Text} {call : SettingsCall}
    (addressed : call.isForHost host = true) : call.url.isEmpty = false := by
  simp only [isForHost, Bool.and_eq_true] at addressed
  exact GURL.isEmpty_eq_false_of_valid call.url addressed.1.1

theorem any_isAt_write (registeredDefault : ContentSetting) (host : Text)
    (call : SettingsCall) :
    (call.write registeredDefault).any (Write.isAt host) = call.isForHost host := by
  cases blank : call.url.isEmpty with
  | true =>
      have elsewhere : call.isForHost host = false := by
        cases addressed : call.isForHost host with
        | false => rfl
        | true => simp [isEmpty_eq_false_of_isForHost addressed] at blank
      rw [elsewhere, write, if_pos blank]
      rfl
  | false =>
      cases guarded : call.url.isValid && call.url.schemeIsHTTPOrHTTPS with
      | false => simp [write, isForHost, blank, guarded]
      | true =>
          by_cases deletes : call.setting = .default
          · simp [write, isForHost, blank, guarded, deletes, Write.isAt]
          · simp [write, isForHost, blank, guarded, deletes, Write.isAt]

theorem any_isFallback_write (registeredDefault : ContentSetting) (call : SettingsCall) :
    (call.write registeredDefault).any Write.isFallback = call.isForAllSites := by
  unfold write isForAllSites
  cases call.url.isEmpty with
  | true => rfl
  | false =>
      cases call.url.isValid && call.url.schemeIsHTTPOrHTTPS with
      | false => rfl
      | true =>
          by_cases deletes : call.setting = .default
          · simp [deletes, Write.isFallback]
          · simp [deletes, Write.isFallback]

theorem write_of_isForHost (registeredDefault : ContentSetting) {host : Text}
    {call : SettingsCall} (addressed : call.isForHost host = true) :
    call.write registeredDefault =
      some (if call.setting = .default then .removeOverride host
        else .setOverride host call.setting) := by
  have present := isEmpty_eq_false_of_isForHost addressed
  simp only [isForHost, Bool.and_eq_true, decide_eq_true_eq] at addressed
  simp [write, present, addressed]

end SettingsCall

/-! ### Every sequence of calls -/

namespace ContentSettingsService

variable {service : ContentSettingsService}

def run (service : ContentSettingsService) (map : service.Map)
    (calls : List SettingsCall) : service.Map :=
  calls.foldl (SettingsCall.perform service) map

theorem rules_run (laws : service.FollowsHostRules) (calls : List SettingsCall)
    (addressed : ∀ call ∈ calls, call.url.isValid = true ∨ call.url.isEmpty = true)
    (map : service.Map) :
    service.rules (service.run map calls) =
      (calls.filterMap (SettingsCall.write service.registeredDefault)).foldl
        Overrides.write (service.rules map) := by
  induction calls generalizing map with
  | nil => rfl
  | cons call rest ih =>
      have first := SettingsCall.rules_perform laws map call
        (addressed call List.mem_cons_self)
      have later := ih (fun other member => addressed other (List.mem_cons_of_mem _ member))
        (call.perform service map)
      rw [run, List.foldl_cons]
      rw [run] at later
      rw [later, first]
      cases written : call.write service.registeredDefault with
      | none => rw [List.filterMap_cons_none written]
      | some write => rw [List.filterMap_cons_some written, List.foldl_cons]

end ContentSettingsService

inductive ProtectionLevel where
  | off
  | standard
  | maximum
  deriving DecidableEq, Repr

namespace ProtectionLevel

def isEnabled (level : ProtectionLevel) : Bool :=
  level != .off

def isMaximum (level : ProtectionLevel) : Bool :=
  level == .maximum

end ProtectionLevel

def ContentSetting.level : ContentSetting → ProtectionLevel
  | .allow => .off
  | .block => .maximum
  | _ => .standard

/-- The level that a caller asks for.  INVALID is no level of its own. -/
def ControlType.level : ControlType → ProtectionLevel
  | .allow => .off
  | .block => .maximum
  | .blockThirdParty => .standard
  | .default => .standard
  | .invalid => .maximum

/-- The level of a host by the last call for it, or else for all sites, or else
as before all calls. -/
def siteLevel (registered initial : ProtectionLevel) (calls : List SettingsCall)
    (host : Text) : ProtectionLevel :=
  match lastWhere (SettingsCall.isForHost host) calls with
  | some (.setTrackingBlockerControlType type _) => type.level
  | _ =>
      match lastWhere SettingsCall.isForAllSites calls with
      | some (.setTrackingBlockerControlType type _) => type.level
      | some (.resetTrackingBlockerEnabled _) => registered
      | none => initial

section

variable {service : ContentSettingsService} {platform : Platform}

/-- Both readers decode the rule of the host or the default. -/
theorem getters_eq_level (desktop : platform.isAndroid = false)
    (laws : service.FollowsHostRules) (map : service.Map) (site : GURL)
    (valid : site.isValid = true) (http : site.schemeIsHTTPOrHTTPS = true) :
    getTrackingBlockerEnabled platform (service.view map) site =
        ((service.rules map).read site.host).level.isEnabled ∧
      isTrackingBlockerMaxLevel platform (service.view map) site =
        ((service.rules map).read site.host).level.isMaximum := by
  have reads : (service.view map).getContentSetting site GURL.empty =
      (service.rules map).read site.host := laws.reads map site valid http
  unfold getTrackingBlockerEnabled isTrackingBlockerMaxLevel
  rw [reads, desktop, valid, http]
  cases (service.rules map).read site.host <;> exact ⟨rfl, rfl⟩

theorem override_run (laws : service.FollowsHostRules) (map : service.Map)
    (noRules : ∀ host, service.hostRule map host = none) (calls : List SettingsCall)
    (addressed : ∀ call ∈ calls, call.url.isValid = true ∨ call.url.isEmpty = true)
    (host : Text) :
    (service.rules (service.run map calls)).override host =
      match lastWhere (SettingsCall.isForHost host) calls with
      | some call => if call.setting = .default then none else some call.setting
      | none => none := by
  rw [ContentSettingsService.rules_run laws calls addressed, Overrides.override_foldl_write,
    lastWhere_filterMap]
  simp only [SettingsCall.any_isAt_write]
  cases found : lastWhere (SettingsCall.isForHost host) calls with
  | none => exact noRules host
  | some call =>
      have written := SettingsCall.write_of_isForHost service.registeredDefault
        (of_lastWhere_eq_some found)
      rw [Option.bind_some, written]
      by_cases deletes : call.setting = .default
      · simp [deletes, Overrides.Write.result]
      · simp [deletes, Overrides.Write.result]

theorem fallback_run (laws : service.FollowsHostRules) (map : service.Map)
    (calls : List SettingsCall)
    (addressed : ∀ call ∈ calls, call.url.isValid = true ∨ call.url.isEmpty = true) :
    (service.rules (service.run map calls)).fallback =
      match lastWhere SettingsCall.isForAllSites calls with
      | some call =>
          if call.setting = .default then service.registeredDefault else call.setting
      | none => service.getDefaultContentSetting map := by
  rw [ContentSettingsService.rules_run laws calls addressed, Overrides.fallback_foldl_write,
    lastWhere_filterMap]
  simp only [SettingsCall.any_isFallback_write]
  cases found : lastWhere SettingsCall.isForAllSites calls with
  | none => rfl
  | some call =>
      have blank : call.isForAllSites = true := of_lastWhere_eq_some found
      rw [SettingsCall.isForAllSites] at blank
      simp [SettingsCall.write, blank]

theorem level_read_run (laws : service.FollowsHostRules) (map : service.Map)
    (noRules : ∀ host, service.hostRule map host = none) (calls : List SettingsCall)
    (addressed : ∀ call ∈ calls, call.url.isValid = true ∨ call.url.isEmpty = true)
    (host : Text) :
    ((service.rules (service.run map calls)).read host).level =
      siteLevel service.registeredDefault.level (service.getDefaultContentSetting map).level
        calls host := by
  have fallback : (service.rules (service.run map calls)).fallback.level =
      match lastWhere SettingsCall.isForAllSites calls with
      | some (.setTrackingBlockerControlType type _) => type.level
      | some (.resetTrackingBlockerEnabled _) => service.registeredDefault.level
      | none => (service.getDefaultContentSetting map).level := by
    rw [fallback_run laws map calls addressed]
    cases lastWhere SettingsCall.isForAllSites calls with
    | none => rfl
    | some call =>
        cases call with
        | setTrackingBlockerControlType type url => cases type <;> rfl
        | resetTrackingBlockerEnabled url => rfl
  unfold Overrides.read siteLevel
  rw [override_run laws map noRules calls addressed, ← fallback]
  cases lastWhere (SettingsCall.isForHost host) calls with
  | none => rfl
  | some call =>
      cases call with
      | setTrackingBlockerControlType type url => cases type <;> rfl
      | resetTrackingBlockerEnabled url => rfl

/-- Site settings are last-writer-wins for each host, whatever the order of the calls. -/
theorem trackingBlocker_lastWriterWins (desktop : platform.isAndroid = false)
    (laws : service.FollowsHostRules) (map : service.Map)
    (noRules : ∀ host, service.hostRule map host = none) (calls : List SettingsCall)
    (addressed : ∀ call ∈ calls, call.url.isValid = true ∨ call.url.isEmpty = true) :
    (∀ site : GURL, site.isValid = true → site.schemeIsHTTPOrHTTPS = true →
      let level := siteLevel service.registeredDefault.level
        (service.getDefaultContentSetting map).level calls site.host
      getTrackingBlockerEnabled platform (service.view (service.run map calls)) site =
          level.isEnabled ∧
        isTrackingBlockerMaxLevel platform (service.view (service.run map calls)) site =
          level.isMaximum) ∧
      ∀ before call after, calls = before ++ call :: after → call.url.isValid = true →
        call.url.schemeIsHTTPOrHTTPS = false →
        service.run map calls = service.run map (before ++ after) := by
  constructor
  · intro site valid http
    have getters := getters_eq_level desktop laws (service.run map calls) site valid http
    rw [level_read_run laws map noRules calls addressed] at getters
    exact getters
  · rintro before call after rfl valid otherScheme
    simp only [ContentSettingsService.run, List.foldl_append, List.foldl_cons]
    rw [SettingsCall.perform_of_otherScheme _ call valid otherScheme]

end

def referenceCalls : List SettingsCall :=
  [.setTrackingBlockerControlType .block (referenceUrl "https://a.com/"),
    .setTrackingBlockerControlType .default (referenceUrl "https://b.com/"),
    .setTrackingBlockerControlType .allow GURL.empty,
    .setTrackingBlockerControlType .block (referenceUrl "foo:bar"),
    .resetTrackingBlockerEnabled (referenceUrl "http://b.com/x")]

theorem trackingBlocker_lastWriterWins_reference :
    getTrackingBlockerEnabled referencePlatform
        ((referenceSettings .ask).view
          ((referenceSettings .ask).run (referenceMap .ask) referenceCalls))
        (referenceUrl "https://b.com/y") = false ∧
      isTrackingBlockerMaxLevel referencePlatform
        ((referenceSettings .ask).view
          ((referenceSettings .ask).run (referenceMap .ask) referenceCalls))
        (referenceUrl "https://b.com/y") = false := by
  have addressed : ∀ call ∈ referenceCalls,
      call.url.isValid = true ∨ call.url.isEmpty = true := by decide
  have desktop : referencePlatform.isAndroid = false := rfl
  exact (trackingBlocker_lastWriterWins desktop (referenceSettings_followsHostRules .ask)
    (referenceMap .ask) (fun _host => rfl) referenceCalls addressed).1
      (referenceUrl "https://b.com/y") (by decide) (by decide)

end Whale
