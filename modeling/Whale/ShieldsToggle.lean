/-
The per-site switch of `WhaleShieldsDataController`.

The controller hands the last committed URL of its tab to the settings helpers.
These take the empty URL, which a tab has before its first commit, as all sites.
-/
import Whale.SiteSettings

set_option autoImplicit false

namespace Whale

open Whale.Foundation
open Whale.Url (Text GURL)

inductive TabEffect where
  | reload
  deriving DecidableEq, Repr

namespace WhaleShieldsDataController

def getCurrentSiteURL (webContents : WebContents) : GURL :=
  webContents.lastCommittedURL

def getTrackingBlockerEnabled (platform : Platform) (map : HostContentSettingsMap)
    (webContents : WebContents) : Bool :=
  Whale.getTrackingBlockerEnabled platform map (getCurrentSiteURL webContents)

def setTrackingBlockerEnabled (service : ContentSettingsService) (map : service.Map)
    (webContents : WebContents) (isEnabled : Bool) : service.Map × List TabEffect :=
  let written :=
    if service.getDefaultContentSetting map = .default then
      service.resetTrackingBlockerEnabled map (getCurrentSiteURL webContents)
    else
      service.setTrackingBlockerControlType map (if isEnabled then .default else .allow)
        (getCurrentSiteURL webContents)
  (written, [.reload])

end WhaleShieldsDataController

open WhaleShieldsDataController

/-! ### The switch is one call -/

def toggleCall (current : ContentSetting) (isEnabled : Bool) (url : GURL) : SettingsCall :=
  if current = .default then .resetTrackingBlockerEnabled url
  else .setTrackingBlockerControlType (if isEnabled then .default else .allow) url

theorem toggleCall_url (current : ContentSetting) (isEnabled : Bool) (url : GURL) :
    (toggleCall current isEnabled url).url = url := by
  unfold toggleCall
  split <;> rfl

theorem toggleCall_setting (current : ContentSetting) (isEnabled : Bool) (url : GURL) :
    (toggleCall current isEnabled url).setting =
      if current = .default then .default else if isEnabled then .ask else .allow := by
  unfold toggleCall
  by_cases unset : current = .default
  · rw [if_pos unset, if_pos unset]
    rfl
  · rw [if_neg unset, if_neg unset]
    cases isEnabled <;> rfl

theorem setTrackingBlockerEnabled_eq (service : ContentSettingsService) (map : service.Map)
    (webContents : WebContents) (isEnabled : Bool) :
    (setTrackingBlockerEnabled service map webContents isEnabled).1 =
      (toggleCall (service.getDefaultContentSetting map) isEnabled
        webContents.lastCommittedURL).perform service map := by
  unfold setTrackingBlockerEnabled toggleCall
  by_cases unset : service.getDefaultContentSetting map = .default
  · simp only [unset, if_true]
    rfl
  · simp only [unset, if_false]
    rfl

section

variable {service : ContentSettingsService}

/-- A call with a URL writes at the host of that URL or not at all. -/
theorem SettingsCall.read_perform_of_ne (laws : service.FollowsHostRules)
    (map : service.Map) (call : SettingsCall) (named : call.url.isEmpty = false)
    (host : Text) (elsewhere : host ≠ call.url.host) :
    (service.rules (call.perform service map)).read host =
      (service.rules map).read host := by
  cases ignored : call.url.isValid && !call.url.schemeIsHTTPOrHTTPS with
  | true =>
      rw [SettingsCall.perform_eq, ignored]
      rfl
  | false =>
      cases patternValid :
          service.patternIsValid (service.fromString (hostPatternText call.url.host)) with
      | true =>
          rw [SettingsCall.perform_of_host map call named ignored patternValid]
          unfold Overrides.read ContentSettingsService.rules
          simp only [laws.hostWriteRule map call.url.host call.setting host patternValid,
            laws.hostWriteDefault map call.url.host call.setting patternValid,
            if_neg elsewhere]
      | false =>
          rw [SettingsCall.perform_eq, ignored,
            service.getPatternFromURL_of_named call.url named, patternValid]
          rfl

/-- A call for all sites reaches the hosts without a rule of their own. -/
theorem SettingsCall.read_perform_of_isEmpty (laws : service.FollowsHostRules)
    (map : service.Map) (call : SettingsCall) (blank : call.url.isEmpty = true)
    (host : Text) :
    (service.rules (call.perform service map)).read host =
      (service.hostRule map host).getD
        (if call.setting = .default then service.registeredDefault else call.setting) := by
  rw [SettingsCall.perform_of_isEmpty laws map call blank]
  unfold Overrides.read ContentSettingsService.rules
  simp only [laws.wildcardWriteRule, laws.wildcardWriteDefault]

theorem SettingsCall.read_perform_of_host (laws : service.FollowsHostRules)
    (map : service.Map) (call : SettingsCall) (valid : call.url.isValid = true)
    (http : call.url.schemeIsHTTPOrHTTPS = true) :
    (service.rules (call.perform service map)).read call.url.host =
      if call.setting = .default then service.getDefaultContentSetting map
      else call.setting := by
  have patternValid := laws.hostPatternValid call.url valid http
    (call.url.host_ne_nil valid http)
  rw [SettingsCall.perform_of_host map call
    (GURL.isEmpty_eq_false_of_valid call.url valid) (by simp [http]) patternValid]
  unfold Overrides.read ContentSettingsService.rules
  simp only [laws.hostWriteRule map call.url.host call.setting call.url.host patternValid,
    laws.hostWriteDefault map call.url.host call.setting patternValid, if_true]
  by_cases deletes : call.setting = .default
  · simp [deletes]
  · simp [deletes]

/-! ### What the switch changes elsewhere -/

/-- The default already has the level that a write of all sites would give it. -/
def defaultHasToggledLevel (registered current : ContentSetting) (isEnabled : Bool) : Bool :=
  match current, isEnabled with
  | .default, _ => registered != .allow && registered != .block
  | current, true => current != .allow && current != .block
  | current, false => current == .allow

theorem level_toggleCall_setting_iff (registered current : ContentSetting)
    (isEnabled : Bool) (url : GURL) :
    (if (toggleCall current isEnabled url).setting = .default then registered
      else (toggleCall current isEnabled url).setting).level = current.level ↔
      defaultHasToggledLevel registered current isEnabled = true := by
  rw [toggleCall_setting]
  cases current with
  | default => cases registered <;> simp [ContentSetting.level, defaultHasToggledLevel]
  | _ => cases isEnabled <;> simp [ContentSetting.level, defaultHasToggledLevel]

theorem ProtectionLevel.getters_eq_iff (left right : ProtectionLevel) :
    left.isEnabled = right.isEnabled ∧ left.isMaximum = right.isMaximum ↔ left = right := by
  cases left <;> cases right <;> decide

variable {platform : Platform}

/-- The switch changes another site exactly when the tab has the empty URL, the
site has no rule of its own and the default changes its level. -/
theorem setTrackingBlockerEnabled_elsewhere_iff (laws : service.FollowsHostRules)
    (map : service.Map) (webContents : WebContents) (isEnabled : Bool) (site : GURL)
    (valid : site.isValid = true) (http : site.schemeIsHTTPOrHTTPS = true)
    (elsewhere : site.host ≠ webContents.lastCommittedURL.host) :
    let before := service.view map
    let after := service.view (setTrackingBlockerEnabled service map webContents isEnabled).1
    (Whale.getTrackingBlockerEnabled platform after site =
        Whale.getTrackingBlockerEnabled platform before site ∧
      isTrackingBlockerMaxLevel platform after site =
        isTrackingBlockerMaxLevel platform before site) ↔
      platform.isAndroid = true ∨ webContents.lastCommittedURL.isEmpty = false ∨
        (service.hostRule map site.host).isSome = true ∨
        defaultHasToggledLevel service.registeredDefault
          (service.getDefaultContentSetting map) isEnabled = true := by
  intro before after
  cases android : platform.isAndroid with
  | true => simp [Whale.getTrackingBlockerEnabled, isTrackingBlockerMaxLevel, android]
  | false =>
      have getters := getters_eq_level android laws map site valid http
      have gettersAfter := getters_eq_level android laws
        (setTrackingBlockerEnabled service map webContents isEnabled).1 site valid http
      rw [getters.1, getters.2, gettersAfter.1, gettersAfter.2,
        ProtectionLevel.getters_eq_iff, setTrackingBlockerEnabled_eq]
      cases blank : webContents.lastCommittedURL.isEmpty with
      | false =>
          have frame := SettingsCall.read_perform_of_ne laws map
            (toggleCall (service.getDefaultContentSetting map) isEnabled
              webContents.lastCommittedURL) (by rw [toggleCall_url, blank]) site.host
            (by rw [toggleCall_url]; exact elsewhere)
          simp [frame]
      | true =>
          rw [SettingsCall.read_perform_of_isEmpty laws map _
            (by rw [toggleCall_url, blank])]
          cases own : service.hostRule map site.host with
          | some setting => simp [Overrides.read, ContentSettingsService.rules, own]
          | none =>
              have levels := level_toggleCall_setting_iff service.registeredDefault
                (service.getDefaultContentSetting map) isEnabled webContents.lastCommittedURL
              simpa [Overrides.read, ContentSettingsService.rules, own] using levels

def referenceTab (url : GURL) : WebContents :=
  { lastCommittedURL := url, hasShieldsDataController := true }

/-- Switching protection off in a tab without a committed page switches it off for
every site that follows the default. -/
theorem setTrackingBlockerEnabled_emptyTab :
    (referenceUrl "https://a.com/").host ≠ (referenceTab GURL.empty).lastCommittedURL.host ∧
      Whale.getTrackingBlockerEnabled referencePlatform
        ((referenceSettings .ask).view (referenceMap .ask))
        (referenceUrl "https://a.com/") = true ∧
      Whale.getTrackingBlockerEnabled referencePlatform
        ((referenceSettings .ask).view (setTrackingBlockerEnabled (referenceSettings .ask)
          (referenceMap .ask) (referenceTab GURL.empty) false).1)
        (referenceUrl "https://a.com/") = false := by
  decide

theorem setTrackingBlockerEnabled_elsewhere_reference :
    let tab := referenceTab (referenceUrl "https://b.com/")
    let before := (referenceSettings .ask).view (referenceMap .ask)
    let after := (referenceSettings .ask).view
      (setTrackingBlockerEnabled (referenceSettings .ask) (referenceMap .ask) tab false).1
    Whale.getTrackingBlockerEnabled referencePlatform after (referenceUrl "https://a.com/") =
        Whale.getTrackingBlockerEnabled referencePlatform before
          (referenceUrl "https://a.com/") ∧
      isTrackingBlockerMaxLevel referencePlatform after (referenceUrl "https://a.com/") =
        isTrackingBlockerMaxLevel referencePlatform before (referenceUrl "https://a.com/") :=
  (setTrackingBlockerEnabled_elsewhere_iff (referenceSettings_followsHostRules .ask)
    (referenceMap .ask) (referenceTab (referenceUrl "https://b.com/")) false
    (referenceUrl "https://a.com/") (by decide) (by decide) (by decide)).mpr
      (Or.inr (Or.inl (by decide)))

/-! ### Reading the switch back -/

/-- The switch reads back unless the default is CONTENT_SETTING_DEFAULT: then the
rule of the site is deleted, whichever way it was switched. -/
theorem setTrackingBlockerEnabled_readsBack_iff (desktop : platform.isAndroid = false)
    (laws : service.FollowsHostRules) (map : service.Map) (webContents : WebContents)
    (valid : webContents.lastCommittedURL.isValid = true)
    (http : webContents.lastCommittedURL.schemeIsHTTPOrHTTPS = true) (isEnabled : Bool) :
    WhaleShieldsDataController.getTrackingBlockerEnabled platform
        (service.view (setTrackingBlockerEnabled service map webContents isEnabled).1)
        webContents = isEnabled ↔
      service.getDefaultContentSetting map ≠ .default ∨ isEnabled = true := by
  have getter := (getters_eq_level desktop laws
    (setTrackingBlockerEnabled service map webContents isEnabled).1
    webContents.lastCommittedURL valid http).1
  have url := toggleCall_url (service.getDefaultContentSetting map) isEnabled
    webContents.lastCommittedURL
  have read := SettingsCall.read_perform_of_host laws map
    (toggleCall (service.getDefaultContentSetting map) isEnabled
      webContents.lastCommittedURL) (by rw [url, valid]) (by rw [url, http])
  rw [url] at read
  rw [setTrackingBlockerEnabled_eq, read] at getter
  unfold WhaleShieldsDataController.getTrackingBlockerEnabled getCurrentSiteURL
  rw [setTrackingBlockerEnabled_eq, getter]
  by_cases unset : service.getDefaultContentSetting map = .default
  · cases isEnabled <;> simp [unset, toggleCall_setting, ContentSetting.level,
      ProtectionLevel.isEnabled]
  · cases isEnabled <;> simp [unset, toggleCall_setting, ContentSetting.level,
      ProtectionLevel.isEnabled]

/-- Under CONTENT_SETTING_DEFAULT, switching protection off leaves it on. -/
theorem setTrackingBlockerEnabled_readsBack_default :
    WhaleShieldsDataController.getTrackingBlockerEnabled referencePlatform
      ((referenceSettings .ask).view (setTrackingBlockerEnabled (referenceSettings .ask)
        (referenceMap .default) (referenceTab (referenceUrl "https://a.com/")) false).1)
      (referenceTab (referenceUrl "https://a.com/")) = true := by
  decide

theorem setTrackingBlockerEnabled_readsBack_reference :
    WhaleShieldsDataController.getTrackingBlockerEnabled referencePlatform
      ((referenceSettings .ask).view (setTrackingBlockerEnabled (referenceSettings .ask)
        (referenceMap .ask) (referenceTab (referenceUrl "https://a.com/")) false).1)
      (referenceTab (referenceUrl "https://a.com/")) = false := by
  have desktop : referencePlatform.isAndroid = false := rfl
  exact (setTrackingBlockerEnabled_readsBack_iff desktop
    (referenceSettings_followsHostRules .ask) (referenceMap .ask)
    (referenceTab (referenceUrl "https://a.com/")) (by decide) (by decide) false).mpr
      (Or.inl (by decide))

end

end Whale
