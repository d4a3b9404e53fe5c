/-
What the switch of a tab does to its requests on the desktop.

Once a user has switched protection on or off for a site, every request of the tab
is treated accordingly for as long as the tab stays on the site and nobody writes
the settings of that site again, whatever other tabs and the network do.
-/
import Whale.BlockedLists
import Whale.BlockerOff

set_option autoImplicit false

namespace Whale

open Whale.Foundation
open Whale.Url (Text GURL)
open Whale.Net

/-- The URL of the origin of an HTTP(S) URL has the same host. -/
def Platform.OriginsKeepHost (platform : Platform) : Prop :=
  ∀ url : GURL, url.isValid = true → url.schemeIsHTTPOrHTTPS = true →
    let origin := platform.originURL (platform.createOrigin url)
    origin.isValid = true ∧ origin.schemeIsHTTPOrHTTPS = true ∧ origin.host = url.host

/-! ### A tab on a site -/

def isOnHost (host : Text) (url : GURL) : Bool :=
  url.isValid && url.schemeIsHTTPOrHTTPS && url.host == host

/-- A call that writes neither all sites nor this one. -/
def leavesHost (host : Text) (url : GURL) : Bool :=
  !url.isEmpty && url.host != host

/-- The tab stays open on the host, and nobody writes the setting of the host. -/
def leavesSwitch {service : ContentSettingsService} (tab : Nat) (host : Text)
    (self : WhaleBrowser service) : BrowserEvent service → Bool
  | .closeTab address => address != tab
  | .finishNavigation address url navigationHandle =>
      address != tab || !(navigationHandle.isInMainFrame && navigationHandle.hasCommitted) ||
        isOnHost host url
  | .settingsCall call => leavesHost host call.url
  | .setTrackingBlockerEnabled address _ =>
      (self.tabs.get address).all fun contents => leavesHost host contents.lastCommittedURL
  | _ => true

/-- The tab is on the host, whose setting is this one. -/
structure OnSite {service : ContentSettingsService} (tab : Nat) (host : Text)
    (setting : ContentSetting) (browser : WhaleBrowser service) : Prop where
  site : ∃ contents, browser.tabs.get tab = some contents ∧
    isOnHost host contents.lastCommittedURL = true
  rule : (service.rules browser.settings).read host = setting

section

variable {service : ContentSettingsService} {observation : SettingsObservation service}
  {platform : Platform} {tab : Nat} {host : Text} {setting : ContentSetting}
  {before : WhaleBrowser service}

/-- Deliveries to controllers do not move tabs. -/
theorem OnSite.of_shields {after : WhaleBrowser service}
    (held : OnSite tab host setting before)
    (settings : after.settings = before.settings)
    (moves : ∀ contents, before.tabs.get tab = some contents →
      ∃ contents', after.tabs.get tab = some contents' ∧
        contents'.lastCommittedURL = contents.lastCommittedURL) :
    OnSite tab host setting after := by
  obtain ⟨contents, present, isHere⟩ := held.site
  obtain ⟨contents', present', sameUrl⟩ := moves contents present
  refine ⟨⟨contents', present', ?_⟩, ?_⟩
  · rw [sameUrl]
    exact isHere
  · rw [settings]
    exact held.rule

theorem Tab.receive_lastCommittedURL (contents : Tab) (events : List ShieldsEvent) :
    (contents.receive events).1.lastCommittedURL = contents.lastCommittedURL := by
  unfold Tab.receive
  split <;> rfl

theorem deliver_keepsTabs (self : WhaleBrowser service) (address : Nat)
    (events : List ShieldsEvent) (contents : Tab)
    (present : self.tabs.get tab = some contents) :
    ∃ contents', (self.deliver address events).1.tabs.get tab = some contents' ∧
      contents'.lastCommittedURL = contents.lastCommittedURL := by
  rw [WhaleBrowser.deliver_get, present]
  split
  · exact ⟨_, rfl, contents.receive_lastCommittedURL events⟩
  · exact ⟨contents, rfl, rfl⟩

theorem OnSite.of_write (held : OnSite tab host setting before)
    (laws : service.FollowsHostRules) {call : SettingsCall}
    (elsewhere : leavesHost host call.url = true) :
    OnSite tab host setting
      { before with settings := call.perform service before.settings } := by
  simp only [leavesHost, Bool.and_eq_true, Bool.not_eq_true', bne_iff_ne, ne_eq]
    at elsewhere
  refine ⟨held.site, ?_⟩
  have kept := SettingsCall.read_perform_of_ne laws before.settings call elsewhere.1 host
    fun same => elsewhere.2 same.symm
  exact kept.trans held.rule

theorem OnSite.step (held : OnSite tab host setting before)
    (laws : service.FollowsHostRules) {event : BrowserEvent service}
    (permitted : leavesSwitch tab host before event = true)
    {outcome : WhaleBrowser service × List BrowserEffect}
    (step : BrowserStep platform observation before event outcome) :
    OnSite tab host setting outcome.1 := by
  cases step with
  | openTab =>
      refine held.of_shields rfl ?_
      intro contents present
      refine ⟨contents, ?_, rfl⟩
      have earlier := OwnedSet.lt_of_get present
      rw [OwnedSet.get_emplace, if_neg (Nat.ne_of_lt earlier), present]
  | @closeTab address contents present =>
      refine held.of_shields rfl ?_
      intro own ownPresent
      have other : tab ≠ address := by
        intro same
        simp [leavesSwitch, same] at permitted
      refine ⟨own, ?_, rfl⟩
      rw [OwnedSet.get_erase, if_neg other, ownPresent]
  | placeFrame => exact held.of_shields rfl fun contents present => ⟨contents, present, rfl⟩
  | @finishNavigation address contents url navigationHandle present =>
      have settings : (before.finishNavigation address contents url
          navigationHandle).1.settings = before.settings :=
        (WhaleBrowser.deliver_rest _ _).2.1
      by_cases same : tab = address
      · subst same
        obtain ⟨own, ownPresent, isHere⟩ := held.site
        rw [present] at ownPresent
        cases ownPresent
        refine ⟨⟨((contents.navigate url navigationHandle).receive
          [.didFinishNavigation navigationHandle]).1, ?_, ?_⟩, ?_⟩
        · rw [WhaleBrowser.finishNavigation_get url navigationHandle present, if_pos rfl]
        · rw [Tab.receive_lastCommittedURL]
          unfold Tab.navigate
          cases commits : navigationHandle.isInMainFrame &&
              navigationHandle.hasCommitted with
          | false => exact isHere
          | true =>
              simpa [leavesSwitch, commits] using permitted
        · rw [settings]
          exact held.rule
      · refine held.of_shields settings ?_
        intro own ownPresent
        refine ⟨own, ?_, rfl⟩
        rw [WhaleBrowser.finishNavigation_get url navigationHandle present, if_neg same,
          ownPresent]
  | itemBlocked present attached =>
      exact held.of_shields (WhaleBrowser.deliver_rest _ _).2.1
        (deliver_keepsTabs before _ _)
  | proxying stepped =>
      refine held.of_shields (WhaleBrowser.settleProxying_rest _).2.1 ?_
      intro contents present
      rw [WhaleBrowser.settleProxying_get, present]
      split
      · exact ⟨_, rfl, contents.receive_lastCommittedURL _⟩
      · exact ⟨contents, rfl, rfl⟩
  | settingsCall => exact held.of_write laws permitted
  | @setTrackingBlockerEnabled address contents isEnabled present attached =>
      rw [WhaleBrowser.switchTrackingBlocker_settings]
      refine held.of_write laws ?_
      rw [toggleCall_url]
      simpa [leavesSwitch, present] using permitted
  | otherSettingChanged => exact held

/-! ### The requests of the tab -/

/-- Every context that a step vets is built from the browser of that moment. -/
theorem browserStep_fresh (attached : before.profile.Attached)
    {event : BrowserEvent service} {outcome : WhaleBrowser service × List BrowserEffect}
    (step : BrowserStep platform observation before event outcome) {ctx : WhaleRequestInfo}
    (member : ctx ∈ outcome.2.filterMap BrowserEffect.vettedContext) :
    ctx.Fresh platform before.view := by
  have fromShields : ∀ (self : WhaleBrowser service) (address : Nat)
      (events : List ShieldsEvent),
      ctx ∉ (self.deliver address events).2.filterMap BrowserEffect.vettedContext := by
    intro self address events impossible
    unfold WhaleBrowser.deliver at impossible
    split at impossible
    · cases impossible
    · rw [List.filterMap_map] at impossible
      obtain ⟨_, _, impossible⟩ := List.mem_filterMap.mp impossible
      cases impossible
  cases step with
  | finishNavigation present => exact absurd member (fromShields _ _ _)
  | itemBlocked present attached => exact absurd member (fromShields _ _ _)
  | proxying stepped =>
      have vets := profileMachine_vetsOne attached stepped
      rw [WhaleBrowser.settleProxying_contexts] at member
      generalize List.filterMap ProfileEffect.vettedContext _ = contexts at vets member
      generalize List.filterMap ProfileEffect.reportedNames _ = names at vets
      cases vets with
      | nothing => cases member
      | context fresh =>
          rw [List.mem_singleton.mp member]
          exact fresh
  | settingsCall =>
      rw [notifyCall_silent] at member
      cases member
  | setTrackingBlockerEnabled present attached =>
      unfold WhaleBrowser.switchTrackingBlocker at member
      rw [List.filterMap_append, notifyCall_silent] at member
      cases member
  | otherSettingChanged =>
      rw [notifyControllers_silent] at member
      cases member
  | _ => cases member

/-- How a request of a tab on a site is vetted. -/
theorem OnSite.fresh_switches (held : OnSite tab host setting before)
    (laws : service.FollowsHostRules) (origins : platform.OriginsKeepHost)
    (desktop : platform.isAndroid = false) {ctx : WhaleRequestInfo}
    (fresh : ctx.Fresh platform before.view)
    (isHere : before.frames ctx.frameTreeNodeId = some tab) :
    ctx.enableTrackingBlocker = setting.level.isEnabled ∧
      ctx.allowReferrers = !setting.level.isMaximum := by
  obtain ⟨contents, present, onHost⟩ := held.site
  simp only [isOnHost, Bool.and_eq_true, beq_iff_eq] at onHost
  obtain ⟨⟨valid, http⟩, sameHost⟩ := onHost
  have origin : tabOriginURL platform before.view ctx.frameTreeNodeId =
      platform.originURL (platform.createOrigin contents.lastCommittedURL) := by
    unfold tabOriginURL WhaleBrowser.view WhaleBrowser.tabOfFrame
    simp only [isHere, Option.bind_some, present, Option.map_some, Tab.webContents]
  obtain ⟨originValid, originHttp, originHost⟩ :=
    origins contents.lastCommittedURL valid http
  have getters := getters_eq_level desktop laws before.settings _ originValid originHttp
  rw [originHost, sameHost, held.rule] at getters
  refine ⟨?_, ?_⟩
  · rw [fresh.enableTrackingBlocker, origin]
    exact getters.1
  · rw [fresh.allowReferrers, origin]
    exact congrArg _ getters.2

end

/-- The setting that the switch writes. -/
def switchedSetting (isEnabled : Bool) : ContentSetting :=
  if isEnabled then .ask else .allow

/-- On a build for the desktop, after the switch has been used on a site, each request of
the tab is vetted with the blocker as it was switched and with referrers allowed, as long
as the tab stays and the setting is left alone.  With the blocker off, vetting does
nothing. -/
theorem switch_governsRequests (platform : Platform) (desktop : platform.isAndroid = false)
    (origins : platform.OriginsKeepHost) (service : ContentSettingsService)
    (observation : SettingsObservation service) (laws : service.FollowsHostRules)
    (settings : service.Map) (before switched final : WhaleBrowser service)
    (reached : (browserMachine platform service observation).Reachable EventMachine.anyStep
      (WhaleBrowser.start service settings) before)
    (tab : Nat) (contents : Tab) (present : before.tabs.get tab = some contents)
    (host : Text) (onHost : isOnHost host contents.lastCommittedURL = true)
    (hasDefault : service.getDefaultContentSetting before.settings ≠ .default)
    (isEnabled : Bool) (effects : List BrowserEffect)
    (switches : (browserMachine platform service observation).step before
      (.setTrackingBlockerEnabled tab isEnabled) = some (switched, effects))
    (events : List (BrowserEvent service)) (records : List (BrowserRecord service))
    (run : EventMachine.Run (browserMachine platform service observation).recorded
      (fun state event => leavesSwitch tab host state event = true) switched events records
      final) :
    ∀ record ∈ records, ∀ ctx ∈ record.vettedFor tab,
      ctx.enableTrackingBlocker = isEnabled ∧ ctx.allowReferrers = true ∧
        (isEnabled = false →
          onBeforeURLRequestSiteHacksWork platform record.before.view ctx GURL.empty =
            { error := netOK, ctx := ctx, newUrl := GURL.empty, blockedParams := none }) := by
  have reachedSwitched := reached.step trivial switches
  -- The switch writes the setting of the host.
  have atStart : OnSite tab host (switchedSetting isEnabled) switched := by
    have stepped : ∀ outcome, BrowserStep platform observation before
        (.setTrackingBlockerEnabled tab isEnabled) outcome →
        OnSite tab host (switchedSetting isEnabled) outcome.1 := by
      intro outcome step
      cases step with
      | @setTrackingBlockerEnabled _ own _ ownPresent attached =>
          rw [present] at ownPresent
          cases ownPresent
          rw [WhaleBrowser.switchTrackingBlocker_settings]
          refine ⟨⟨contents, present, onHost⟩, ?_⟩
          simp only [isOnHost, Bool.and_eq_true, beq_iff_eq] at onHost
          obtain ⟨⟨valid, http⟩, rfl⟩ := onHost
          have url := toggleCall_url (service.getDefaultContentSetting before.settings)
            isEnabled contents.lastCommittedURL
          have read := SettingsCall.read_perform_of_host laws before.settings
            (toggleCall (service.getDefaultContentSetting before.settings) isEnabled
              contents.lastCommittedURL) (by rw [url, valid]) (by rw [url, http])
          rw [url] at read
          rw [read, toggleCall_setting, if_neg hasDefault]
          cases isEnabled <;> rfl
    exact stepped _ (browserStep_of_taken switches)
  have throughout := run.historyInvariant
    (fun _events records state =>
      (browserMachine platform service observation).Reachable EventMachine.anyStep
        (WhaleBrowser.start service settings) state ∧
      OnSite tab host (switchedSetting isEnabled) state ∧
      ∀ record ∈ records, ∀ ctx ∈ BrowserRecord.vettedFor record tab,
        ctx.Fresh platform record.before.view ∧
          record.before.frames ctx.frameTreeNodeId = some tab ∧
          OnSite tab host (switchedSetting isEnabled) record.before)
    ⟨reachedSwitched, atStart, fun _ impossible => by cases impossible⟩ ?_
  · intro record member ctx vetted
    obtain ⟨fresh, isHere, held⟩ := throughout.2.2 record member ctx vetted
    have switchesOf := held.fresh_switches laws origins desktop fresh isHere
    have enabled : ctx.enableTrackingBlocker = isEnabled := by
      rw [switchesOf.1]
      cases isEnabled <;> rfl
    have referrers : ctx.allowReferrers = true := by
      rw [switchesOf.2]
      cases isEnabled <;> rfl
    refine ⟨enabled, referrers, ?_⟩
    intro off
    exact siteHacks_of_off platform record.before.view ctx (enabled.trans off) referrers
      fresh.newUrlSpec GURL.empty
  · rintro _ records earlier event later emitted _run ⟨reachedHere, held, vettedSoFar⟩
      permitted taken
    obtain ⟨effects, stepped, rfl⟩ := EventMachine.recorded_step_iff.mp taken
    have step := browserStep_of_taken stepped
    refine ⟨reachedHere.step trivial stepped, held.step laws permitted step, ?_⟩
    intro record member ctx vetted
    rcases List.mem_append.mp member with old | new
    · exact vettedSoFar record old ctx vetted
    · rw [List.mem_singleton.mp new] at vetted ⊢
      obtain ⟨inStep, isHere⟩ := List.mem_filter.mp vetted
      exact ⟨browserStep_fresh (attached_of_browser reachedHere) step inStep,
        of_decide_eq_true isHere, held⟩

namespace ReferencePlatform

theorem exists_authority_of_http {url : GURL} (valid : url.isValid = true)
    (http : url.schemeIsHTTPOrHTTPS = true) :
    ∃ authority, url.parsed.authority = some authority := by
  cases present : url.parsed.authority with
  | some authority => exact ⟨authority, rfl⟩
  | none =>
      have delimited := GURL.isDelimited_of_valid valid
      simp only [Whale.Url.Parsed.isDelimited, present, Bool.and_eq_true] at delimited
      have notStandard := delimited.1.2
      simp only [GURL.schemeIsHTTPOrHTTPS, GURL.schemeIs, Bool.or_eq_true, beq_iff_eq]
        at http
      rcases http with scheme | scheme
      · rw [scheme] at notStandard
        exact absurd notStandard (by decide)
      · rw [scheme] at notStandard
        exact absurd notStandard (by decide)

end ReferencePlatform

theorem referencePlatform_keepsHost : referencePlatform.OriginsKeepHost := by
  intro url valid http
  obtain ⟨authority, present⟩ := ReferencePlatform.exists_authority_of_http valid http
  have isTuple : ReferencePlatform.createOrigin url =
      .tuple url.parsed.scheme authority.host authority.port := by
    unfold ReferencePlatform.createOrigin
    rw [valid, present]
  have canonical := ReferencePlatform.originParsed_isCanonical url.parsed authority
    (url.canonical valid) present
  change (ReferencePlatform.originURL (ReferencePlatform.createOrigin url)).isValid = true ∧
    (ReferencePlatform.originURL (ReferencePlatform.createOrigin url)).schemeIsHTTPOrHTTPS =
      true ∧
    (ReferencePlatform.originURL (ReferencePlatform.createOrigin url)).host = url.host
  rw [isTuple]
  refine ⟨canonical, http, ?_⟩
  unfold GURL.host
  rw [present]
  rfl

namespace ProtectionSwitchExample

open BlockedListsExample (settings events)

def machine : EventMachine (WhaleBrowser settings) (BrowserEvent settings) BrowserEffect :=
  browserMachine referencePlatform settings (referenceObservation .ask)

/-- A page is open. -/
def opening : Option (WhaleBrowser settings × List BrowserEffect) :=
  machine.exec (fun _ _ => true) (WhaleBrowser.start settings (referenceMap .ask))
    (events.take 3)

theorem opened : opening.isSome = true := by
  decide

def before : WhaleBrowser settings :=
  (opening.get opened).1

theorem isOpen : (before.tabs.get 0).isSome = true := by
  decide

/-- Protection is switched off for it. -/
def switching : Option (WhaleBrowser settings × List BrowserEffect) :=
  machine.step before (.setTrackingBlockerEnabled 0 false)

theorem switches : switching.isSome = true := by
  decide

/-- The page sends a request with a tracking parameter. -/
def running : Option (WhaleBrowser settings × List (BrowserRecord settings)) :=
  machine.recorded.exec (leavesSwitch 0 "news.example.com".toList) (switching.get switches).1
    (events.drop 3)

theorem ran : running.isSome = true := by
  decide

end ProtectionSwitchExample

open ProtectionSwitchExample in
theorem switch_governsRequests_example :
    ((running.get ran).2.flatMap fun record => BrowserRecord.vettedFor record 0).length = 1 ∧
      ∀ record ∈ (running.get ran).2, ∀ ctx ∈ BrowserRecord.vettedFor record 0,
        ctx.enableTrackingBlocker = false ∧ ctx.allowReferrers = true ∧
          (false = false →
            onBeforeURLRequestSiteHacksWork referencePlatform record.before.view ctx
                GURL.empty =
              { error := netOK, ctx := ctx, newUrl := GURL.empty, blockedParams := none }) := by
  refine ⟨by decide +kernel, ?_⟩
  exact switch_governsRequests referencePlatform rfl referencePlatform_keepsHost
    BlockedListsExample.settings (referenceObservation .ask)
    (referenceSettings_followsHostRules .ask) (referenceMap .ask) before
    (switching.get switches).1 (running.get ran).1
    ⟨_, _, (EventMachine.Run.of_exec (Option.some_get opened).symm).weaken
      fun _ _ _ => trivial⟩
    0 ((before.tabs.get 0).get isOpen) (Option.some_get isOpen).symm
    "news.example.com".toList (by decide) (by decide) false (switching.get switches).2
    (Option.some_get switches).symm (BlockedListsExample.events.drop 3) (running.get ran).2
    (EventMachine.Run.of_exec (Option.some_get ran).symm)

end Whale
