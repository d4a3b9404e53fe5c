/-
What an observer of a controller would know.

The source adds no observer itself.  One that attached when the tab opens, and read the
controller again at each notification, would always show the lists, the counts and the
state of the switch as they are, whatever happens in the tab, in other tabs, in the
settings and in the network.
-/
import Whale.BlockedLists
import Whale.Foundation.Mirror

set_option autoImplicit false

namespace Whale

open Whale.Foundation
open Whale.Url (Text GURL)

/-- Everything that a controller lets its observers read. -/
structure Panel where
  blockedAds : List Text
  blockedTrackers : List Text
  adsCount : Nat
  trackersCount : Nat
  totalCount : Nat
  trackingBlockerEnabled : Bool
  deriving DecidableEq, Repr

def Tab.panel (platform : Platform) (map : HostContentSettingsMap) (tab : Tab) :
    Option Panel :=
  tab.shields.map fun shields =>
    { blockedAds := shields.getBlockedAdsList
      blockedTrackers := shields.getBlockedTrackersList
      adsCount := shields.getBlockedAdsCount
      trackersCount := shields.getBlockedTrackersCount
      totalCount := shields.getTotalBlockedCount
      trackingBlockerEnabled :=
        WhaleShieldsDataController.getTrackingBlockerEnabled platform map tab.webContents }

/-- The observer attaches when the tab opens. -/
def BrowserEffect.refreshes : BrowserEffect → Nat → Bool
  | .tabOpened address, key => address == key
  | .tabClosed address, key => address == key
  | .shields address _, key => address == key
  | .settings address _, key => address == key
  | _, _ => false

/-! ### What does not change the switch -/

section

variable {platform : Platform} {service : ContentSettingsService}

theorem getTrackingBlockerEnabled_congr {left right : HostContentSettingsMap} {url : GURL}
    (same : left.getContentSetting url GURL.empty = right.getContentSetting url GURL.empty) :
    getTrackingBlockerEnabled platform left url =
      getTrackingBlockerEnabled platform right url := by
  unfold getTrackingBlockerEnabled
  rw [same]

/-- Equal URLs, or valid ones that differ only in what the settings do not look at. -/
def isSameSite (url other : GURL) : Bool :=
  url == other ||
    (url.isValid && other.isValid &&
      url.schemeIsHTTPOrHTTPS == other.schemeIsHTTPOrHTTPS && url.host == other.host)

theorem getTrackingBlockerEnabled_sameSite (laws : service.FollowsHostRules)
    (map : service.Map) {url other : GURL} (same : isSameSite url other = true) :
    getTrackingBlockerEnabled platform (service.view map) url =
      getTrackingBlockerEnabled platform (service.view map) other := by
  simp only [isSameSite, Bool.or_eq_true, Bool.and_eq_true, beq_iff_eq] at same
  rcases same with rfl | ⟨⟨⟨valid, otherValid⟩, scheme⟩, host⟩
  · rfl
  · cases http : url.schemeIsHTTPOrHTTPS with
    | false =>
        have otherHttp := scheme.symm.trans http
        unfold getTrackingBlockerEnabled
        rw [valid, otherValid, http, otherHttp]
        rfl
    | true =>
        have otherHttp := scheme.symm.trans http
        have reads : service.getContentSetting map url GURL.empty =
            service.getContentSetting map other GURL.empty := by
          rw [laws.reads map url valid http, laws.reads map other otherValid otherHttp, host]
        unfold getTrackingBlockerEnabled
        rw [valid, otherValid, http, otherHttp]
        simp only [ContentSettingsService.view, reads]

/-- A same-document navigation stays on its site. -/
def keepsSite (self : WhaleBrowser service) : BrowserEvent service → Bool
  | .finishNavigation tab url navigationHandle =>
      !(navigationHandle.isInMainFrame && navigationHandle.hasCommitted &&
          navigationHandle.isSameDocument) ||
        (self.tabs.get tab).all fun contents => isSameSite url contents.lastCommittedURL
  | _ => true

end

/-! ### A controller says when its lists change -/

namespace WhaleShieldsDataController

theorem receive_announced (self : WhaleShieldsDataController) (event : ShieldsEvent) :
    self.receive event = (self, []) ∧ event.isPageCommit = false ∨
      (self.receive event).2 = [.onResourcesChanged] := by
  cases event with
  | handleItemBlocked blockType subresource => exact Or.inr rfl
  | handleURLParamsBlocked params => exact Or.inr rfl
  | didFinishNavigation navigationHandle =>
      cases commits : ShieldsEvent.isPageCommit (.didFinishNavigation navigationHandle) with
      | false =>
          refine Or.inl ⟨if_neg ?_, rfl⟩
          rw [← ShieldsEvent.isPageCommit, commits]
          exact Bool.false_ne_true
      | true =>
          have cleared : self.receive (.didFinishNavigation navigationHandle) =
              self.clearAllResourcesList := if_pos commits
          rw [cleared]
          exact Or.inr rfl

theorem receiveAll_announced (self : WhaleShieldsDataController)
    (events : List ShieldsEvent) :
    (receiveAll events self).1 = self ∨ (receiveAll events self).2 ≠ [] := by
  induction events generalizing self with
  | nil => exact Or.inl rfl
  | cons event rest ih =>
      rcases receive_announced self event with ⟨unchanged, _⟩ | announced
      · rw [receiveAll, unchanged]
        exact ih self
      · refine Or.inr ?_
        rw [receiveAll, announced]
        exact List.cons_ne_nil _ _

end WhaleShieldsDataController

theorem Tab.receive_announced (tab : Tab) (events : List ShieldsEvent) :
    (tab.receive events).1 = tab ∨ (tab.receive events).2 ≠ [] := by
  unfold Tab.receive
  cases attached : tab.shields with
  | none => exact Or.inl rfl
  | some shields =>
      rcases shields.receiveAll_announced events with unchanged | announced
      · refine Or.inl ?_
        simp only [unchanged]
        rw [← attached]
      · exact Or.inr announced

theorem any_refreshes_shields {effects : List ShieldsEffect} (announced : effects ≠ [])
    (tab : Nat) :
    (effects.map (BrowserEffect.shields tab)).any
      (fun effect => effect.refreshes tab) = true := by
  obtain ⟨effect, member⟩ := List.exists_mem_of_ne_nil effects announced
  exact List.any_eq_true.mpr
    ⟨_, List.mem_map_of_mem member, beq_self_eq_true tab⟩

/-! ### Every step announces what it changes -/

namespace WhaleBrowser

variable {platform : Platform} {service : ContentSettingsService}
  {observation : SettingsObservation service}

def panel (platform : Platform) (self : WhaleBrowser service) (tab : Nat) : Option Panel :=
  (self.tabs.get tab).bind (Tab.panel platform (service.view self.settings))

theorem panel_congr {left right : WhaleBrowser service} {tab : Nat}
    (sameTab : left.tabs.get tab = right.tabs.get tab)
    (sameSettings : left.settings = right.settings) :
    left.panel platform tab = right.panel platform tab := by
  unfold panel
  rw [sameTab, sameSettings]

theorem deliver_announces (self : WhaleBrowser service) (address tab : Nat)
    (events : List ShieldsEvent) :
    (self.deliver address events).1.panel platform tab = self.panel platform tab ∨
      (self.deliver address events).2.any (fun effect => effect.refreshes tab) = true := by
  by_cases same : tab = address
  · subst same
    cases present : self.tabs.get tab with
    | none =>
        rw [deliver_of_none present]
        exact Or.inl rfl
    | some contents =>
        rcases contents.receive_announced events with unchanged | announced
        · refine Or.inl (panel_congr ?_ (self.deliver_rest tab events).2.1)
          rw [deliver_get, if_pos rfl, present, Option.map_some, unchanged]
        · refine Or.inr ?_
          rw [(deliver_of_some present events).2]
          exact any_refreshes_shields announced tab
  · refine Or.inl (panel_congr ?_ (self.deliver_rest address events).2.1)
    rw [deliver_get, if_neg same]

theorem settleProxying_announces (self : WhaleBrowser service)
    (outcome : ResourceContextData × List ProfileEffect) (tab : Nat) :
    (self.settleProxying outcome).1.panel platform tab = self.panel platform tab ∨
      (self.settleProxying outcome).2.any (fun effect => effect.refreshes tab) = true := by
  unfold settleProxying
  split
  · exact Or.inl rfl
  · rename_i address _
    rcases deliver_announces { self with profile := outcome.1 } address tab
        ((outcome.2.filterMap ProfileEffect.reportedNames).map .handleURLParamsBlocked) with
      unchanged | announced
    · exact Or.inl unchanged
    · refine Or.inr ?_
      rw [List.any_append, announced, Bool.or_true]

/-- A navigation that clears nothing leaves the page and so the site. -/
theorem finishNavigation_announces (laws : service.FollowsHostRules)
    {self : WhaleBrowser service} {address : Nat} {contents : Tab} {url : GURL}
    {navigationHandle : NavigationHandle}
    (present : self.tabs.get address = some contents)
    (stays : keepsSite self (.finishNavigation address url navigationHandle) = true)
    (tab : Nat) :
    (self.finishNavigation address contents url navigationHandle).1.panel platform tab =
        self.panel platform tab ∨
      (self.finishNavigation address contents url navigationHandle).2.any
        (fun effect => effect.refreshes tab) = true := by
  have unchangedSettings : (self.finishNavigation address contents url
      navigationHandle).1.settings = self.settings := (deliver_rest _ _).2.1
  by_cases same : tab = address
  · subst same
    have navigated : ({ self with
        tabs := self.tabs.update tab (contents.navigate url navigationHandle) } :
        WhaleBrowser service).tabs.get tab =
          some (contents.navigate url navigationHandle) := by
      simp [present]
    cases attached : contents.shields with
    | none =>
        refine Or.inl ?_
        have blank : ∀ other : Tab, other.shields = none → ∀ map,
            other.panel platform map = none := by
          intro other unattached map
          rw [Tab.panel, unattached]
          rfl
        unfold panel
        rw [finishNavigation_get url navigationHandle present, if_pos rfl, present]
        simp only [Option.bind_some]
        rw [blank contents attached, blank]
        rw [Tab.receive_shields, Tab.navigate_shields, attached]
        rfl
    | some shields =>
        rcases shields.receive_announced (.didFinishNavigation navigationHandle) with
          ⟨unchanged, samePage⟩ | announced
        · refine Or.inl ?_
          have switch : getTrackingBlockerEnabled platform (service.view self.settings)
                (contents.navigate url navigationHandle).lastCommittedURL =
              getTrackingBlockerEnabled platform (service.view self.settings)
                contents.lastCommittedURL := by
            unfold Tab.navigate
            cases commits : navigationHandle.isInMainFrame &&
                navigationHandle.hasCommitted with
            | false => rfl
            | true =>
                simp only [ShieldsEvent.isPageCommit, commits, Bool.true_and,
                  Bool.not_eq_false'] at samePage
                simp only [keepsSite, commits, samePage, present, Bool.and_self,
                  Bool.not_true, Bool.false_or, Option.all_some] at stays
                exact getTrackingBlockerEnabled_sameSite laws self.settings stays
          have received : (contents.navigate url navigationHandle).receive
              [.didFinishNavigation navigationHandle] =
                (contents.navigate url navigationHandle, []) := by
            unfold Tab.receive
            rw [Tab.navigate_shields, attached]
            simp only [WhaleShieldsDataController.receiveAll, unchanged, List.append_nil]
            rw [← attached, ← Tab.navigate_shields contents url navigationHandle]
          unfold panel
          rw [finishNavigation_get url navigationHandle present, if_pos rfl, present,
            unchangedSettings, received]
          simp only [Option.bind_some]
          unfold Tab.panel WhaleShieldsDataController.getTrackingBlockerEnabled
            WhaleShieldsDataController.getCurrentSiteURL Tab.webContents
          rw [Tab.navigate_shields]
          simp only [switch]
        · refine Or.inr ?_
          rw [finishNavigation, (deliver_of_some navigated _).2]
          refine any_refreshes_shields ?_ tab
          unfold Tab.receive
          rw [Tab.navigate_shields, attached]
          simp only [WhaleShieldsDataController.receiveAll, announced]
          exact List.cons_ne_nil _ _
  · refine Or.inl (panel_congr ?_ unchangedSettings)
    rw [finishNavigation_get url navigationHandle present, if_neg same]

/-- A tab whose site a pattern matches hears of a write at it. -/
theorem any_refreshes_notifyControllers {self : WhaleBrowser service} {tab : Nat}
    {contents : Tab} (present : self.tabs.get tab = some contents)
    (attached : contents.shields.isSome = true) {primary : service.Pattern}
    (isMatch : observation.matchesUrl primary contents.lastCommittedURL = true) :
    (self.notifyControllers observation primary service.wildcard
      (.only .trackingBlocker)).any (fun effect => effect.refreshes tab) = true := by
  refine List.any_eq_true.mpr ⟨.settings tab .onTrackingBlockerEnabledChanged, ?_,
    beq_self_eq_true tab⟩
  refine List.mem_flatMap.mpr ⟨(tab, contents), OwnedSet.mem_entries_of_get present, ?_⟩
  simp only [attached, if_true, WhaleShieldsDataController.onContentSettingChanged,
    WhaleShieldsDataController.getCurrentSiteURL, Tab.webContents, isMatch]
  exact List.mem_singleton_self _

theorem settingsCall_announces (platform : Platform) (faithful : observation.Faithful)
    (self : WhaleBrowser service) (call : SettingsCall) (tab : Nat) :
    ({ self with settings := call.perform service self.settings } :
        WhaleBrowser service).panel platform tab = self.panel platform tab ∨
      (self.notifyCall observation call).any (fun effect => effect.refreshes tab) = true := by
  rw [SettingsCall.perform_eq_target]
  unfold notifyCall
  cases call.target service with
  | none => exact Or.inl rfl
  | some primary =>
      have ofReading : ∀ contents : Tab, self.tabs.get tab = some contents →
          service.getContentSetting (service.setContentSettingCustomScope self.settings
              primary service.wildcard call.setting) contents.lastCommittedURL GURL.empty =
            service.getContentSetting self.settings contents.lastCommittedURL GURL.empty →
          ({ self with
              settings := service.setContentSettingCustomScope self.settings primary
                service.wildcard call.setting } : WhaleBrowser service).panel platform tab =
            self.panel platform tab := by
        intro contents present same
        unfold panel
        rw [present]
        simp only [Option.bind_some]
        unfold Tab.panel
        congr 1
        funext shields
        congr 1
        exact getTrackingBlockerEnabled_congr same
      cases present : self.tabs.get tab with
      | none =>
          refine Or.inl ?_
          unfold panel
          rw [present]
          rfl
      | some contents =>
          cases announced : observation.announces self.settings primary service.wildcard
              call.setting with
          | false =>
              exact Or.inl (ofReading contents present
                (faithful.silent self.settings primary call.setting _ announced))
          | true =>
              cases isMatch : observation.matchesUrl primary contents.lastCommittedURL with
              | false =>
                  exact Or.inl (ofReading contents present
                    (faithful.unmatched self.settings primary call.setting _ isMatch))
              | true =>
                  cases attached : contents.shields with
                  | none =>
                      refine Or.inl ?_
                      unfold panel
                      rw [present]
                      simp only [Option.bind_some, Tab.panel, attached]
                      rfl
                  | some shields =>
                      refine Or.inr ?_
                      simp only [announced, if_true]
                      exact any_refreshes_notifyControllers present
                        (by rw [attached]; rfl) isMatch

theorem browserMachine_announces (platform : Platform) (laws : service.FollowsHostRules)
    (faithful : observation.Faithful) :
    EventMachine.Announces (browserMachine platform service observation) (panel platform)
      BrowserEffect.refreshes (fun state event => keepsSite state event = true) := by
  intro before event after emitted tab stays taken
  have announced : ∀ outcome, BrowserStep platform observation before event outcome →
      outcome.1.panel platform tab = before.panel platform tab ∨
        outcome.2.any (fun effect => effect.refreshes tab) = true := by
    intro outcome step
    cases step with
    | openTab =>
        by_cases isNew : tab = before.tabs.nextAddress
        · subst isNew
          simp [BrowserEffect.refreshes]
        · refine Or.inl (panel_congr ?_ rfl)
          rw [OwnedSet.get_emplace, if_neg isNew]
    | @closeTab address contents present =>
        by_cases same : tab = address
        · subst same
          simp [BrowserEffect.refreshes]
        · refine Or.inl (panel_congr ?_ rfl)
          rw [OwnedSet.get_erase, if_neg same]
    | placeFrame => exact Or.inl rfl
    | finishNavigation present => exact finishNavigation_announces laws present stays tab
    | itemBlocked present attached => exact deliver_announces before _ tab _
    | proxying stepped => exact settleProxying_announces before _ tab
    | settingsCall => exact settingsCall_announces platform faithful before _ tab
    | @setTrackingBlockerEnabled address contents isEnabled present attached =>
        rw [switchTrackingBlocker_settings]
        unfold switchTrackingBlocker
        rcases settingsCall_announces platform faithful before
            (toggleCall (service.getDefaultContentSetting before.settings) isEnabled
              contents.lastCommittedURL) tab with unchanged | announced
        · exact Or.inl unchanged
        · refine Or.inr ?_
          rw [List.any_append, announced, Bool.true_or]
    | otherSettingChanged => exact Or.inl rfl
  exact announced _ (browserStep_of_taken taken)

end WhaleBrowser

/-- In every reachable state of the browser, what an observer attached since the tab opened
last read in the controller is what it would read now. -/
theorem panelMirror_current (platform : Platform) (service : ContentSettingsService)
    (observation : SettingsObservation service) (laws : service.FollowsHostRules)
    (faithful : observation.Faithful) (settings : service.Map)
    (browser : WhaleBrowser service) (mirror : Nat → Option Panel)
    (reached : ((browserMachine platform service observation).mirrored
        (WhaleBrowser.panel platform) BrowserEffect.refreshes).Reachable
      (fun state event => keepsSite state.1 event = true)
      (WhaleBrowser.start service settings, fun _tab => none) (browser, mirror))
    (tab : Nat) : mirror tab = browser.panel platform tab := by
  have current := EventMachine.Reachable.mirror_eq
    (WhaleBrowser.browserMachine_announces platform laws faithful) reached
  exact congrFun current tab

namespace PanelMirrorExample

open BlockedListsExample (settings events)

def execution :
    Option ((WhaleBrowser settings × (Nat → Option Panel)) × List BrowserEffect) :=
  ((browserMachine referencePlatform settings (referenceObservation .ask)).mirrored
    (WhaleBrowser.panel referencePlatform) BrowserEffect.refreshes).exec
    (fun state event => keepsSite state.1 event)
    (WhaleBrowser.start settings (referenceMap .ask), fun _tab => none)
    (events ++ [.setTrackingBlockerEnabled 0 false])

theorem completed : execution.isSome = true := by
  decide

def result : (WhaleBrowser settings × (Nat → Option Panel)) × List BrowserEffect :=
  execution.get completed

end PanelMirrorExample

open PanelMirrorExample in
theorem panelMirror_current_example :
    result.1.2 0 = result.1.1.panel referencePlatform 0 :=
  panelMirror_current referencePlatform BlockedListsExample.settings
    (referenceObservation .ask) (referenceSettings_followsHostRules .ask)
    (referenceObservation_faithful .ask) (referenceMap .ask) result.1.1 result.1.2
    ⟨_, _, EventMachine.Run.of_exec (Option.some_get completed).symm⟩ 0

end Whale
