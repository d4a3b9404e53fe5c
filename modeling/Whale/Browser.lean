/-
A profile with its tabs, its settings and its proxies.

The parts meet in three places.  A request reads the settings for the last
committed URL of its tab; the names stripped from it are reported to the
controller of that tab; and a write to the settings is announced to the
controllers of all tabs.  Frames come and go, and belong to tabs.
-/
import Whale.BlockedResources
import Whale.ShieldsToggle
import Whale.Vettings

set_option autoImplicit false

namespace Whale

open Whale.Foundation
open Whale.Url (Text GURL)

/-! ### What the controllers see of a settings map -/

inductive ContentSettingsType where
  | trackingBlocker
  | other
  deriving DecidableEq, Repr

inductive ContentSettingsTypeSet where
  | allTypes
  | only (type : ContentSettingsType)
  deriving DecidableEq, Repr

def ContentSettingsTypeSet.containsAllTypes : ContentSettingsTypeSet → Bool
  | .allTypes => true
  | .only _ => false

def ContentSettingsTypeSet.getType : ContentSettingsTypeSet → ContentSettingsType
  | .allTypes => .other
  | .only type => type

structure SettingsObservation (service : ContentSettingsService) where
  /-- `ContentSettingsPattern::Matches`. -/
  matchesUrl : service.Pattern → GURL → Bool
  /-- A write calls the observers of the map. -/
  announces : service.Map → service.Pattern → service.Pattern → ContentSetting → Bool

/-- A write concerns only what its pattern matches, and one that is not announced
changes nothing. -/
structure SettingsObservation.Faithful {service : ContentSettingsService}
    (observation : SettingsObservation service) : Prop where
  unmatched : ∀ map primary setting url, observation.matchesUrl primary url = false →
    service.getContentSetting
        (service.setContentSettingCustomScope map primary service.wildcard setting) url
        GURL.empty =
      service.getContentSetting map url GURL.empty
  silent : ∀ map primary setting url,
    observation.announces map primary service.wildcard setting = false →
    service.getContentSetting
        (service.setContentSettingCustomScope map primary service.wildcard setting) url
        GURL.empty =
      service.getContentSetting map url GURL.empty

def ReferencePattern.matchesUrl (url : GURL) : ReferencePattern → Bool
  | .wildcard => true
  | .host name => url.host == name
  | .malformed => false

def referenceObservation (registeredDefault : ContentSetting) :
    SettingsObservation (referenceSettings registeredDefault) :=
  { matchesUrl := fun primary url => ReferencePattern.matchesUrl url primary
    announces := fun _map _primary _secondary _setting => true }

theorem referenceObservation_faithful (registeredDefault : ContentSetting) :
    (referenceObservation registeredDefault).Faithful := by
  constructor
  · intro map primary setting url unmatched
    change (ReferencePattern.write map registeredDefault setting primary).read url.host =
      Overrides.read map url.host
    cases primary with
    | wildcard => cases unmatched
    | host name =>
        have elsewhere : url.host ≠ name := fun same => by
          simp [referenceObservation, ReferencePattern.matchesUrl, same] at unmatched
        by_cases deletes : setting = .default
        · simp [ReferencePattern.write, deletes, Overrides.read, Overrides.write, elsewhere]
        · simp [ReferencePattern.write, deletes, Overrides.read, Overrides.write, elsewhere]
    | malformed => rfl
  · intro map primary setting url silent
    cases silent

/-- The pattern that a call writes at, unless it returns early. -/
def SettingsCall.target (service : ContentSettingsService) (call : SettingsCall) :
    Option service.Pattern :=
  if call.url.isValid && !call.url.schemeIsHTTPOrHTTPS then none
  else if !service.patternIsValid (service.getPatternFromURL call.url) then none
  else some (service.getPatternFromURL call.url)

theorem SettingsCall.perform_eq_target (service : ContentSettingsService)
    (map : service.Map) (call : SettingsCall) :
    call.perform service map =
      match call.target service with
      | none => map
      | some primary =>
          service.setContentSettingCustomScope map primary service.wildcard call.setting := by
  rw [SettingsCall.perform_eq]
  unfold SettingsCall.target
  split
  · rfl
  · split <;> rfl

/-! ### Tabs -/

inductive SettingsEffect where
  | onTrackingBlockerEnabledChanged
  deriving DecidableEq, Repr

namespace WhaleShieldsDataController

def onContentSettingChanged {service : ContentSettingsService}
    (observation : SettingsObservation service) (webContents : WebContents)
    (primaryPattern _secondaryPattern : service.Pattern)
    (contentTypeSet : ContentSettingsTypeSet) : List SettingsEffect :=
  if (contentTypeSet.containsAllTypes || contentTypeSet.getType == .trackingBlocker) &&
      observation.matchesUrl primaryPattern (getCurrentSiteURL webContents) then
    [.onTrackingBlockerEnabledChanged]
  else []

def receiveAll : List ShieldsEvent → WhaleShieldsDataController →
    WhaleShieldsDataController × List ShieldsEffect
  | [], self => (self, [])
  | event :: rest, self =>
      let first := self.receive event
      let later := receiveAll rest first.1
      (later.1, first.2 ++ later.2)

end WhaleShieldsDataController

/-- A tab without tab helpers has no controller. -/
structure Tab where
  lastCommittedURL : GURL
  shields : Option WhaleShieldsDataController

namespace Tab

def webContents (tab : Tab) : WebContents :=
  { lastCommittedURL := tab.lastCommittedURL
    hasShieldsDataController := tab.shields.isSome }

def receive (tab : Tab) (events : List ShieldsEvent) : Tab × List ShieldsEffect :=
  match tab.shields with
  | none => (tab, [])
  | some shields =>
      let heard := shields.receiveAll events
      ({ tab with shields := some heard.1 }, heard.2)

def navigate (tab : Tab) (url : GURL) (navigationHandle : NavigationHandle) : Tab :=
  if navigationHandle.isInMainFrame && navigationHandle.hasCommitted then
    { tab with lastCommittedURL := url }
  else tab

end Tab

/-! ### The browser -/

structure WhaleBrowser (service : ContentSettingsService) where
  profile : ResourceContextData
  settings : service.Map
  tabs : OwnedSet Tab
  /-- The tab that a frame tree node belongs to. -/
  frames : Int → Option Nat

inductive BrowserEvent (service : ContentSettingsService) where
  | openTab (hasTabHelpers : Bool)
  | closeTab (tab : Nat)
  | placeFrame (frameTreeNodeId : Int) (tab : Option Nat)
  | finishNavigation (tab : Nat) (url : GURL) (navigationHandle : NavigationHandle)
  | itemBlocked (tab : Nat) (blockType : BlockType) (subresource : Text)
  | proxying (event : ProfileEvent)
  | settingsCall (call : SettingsCall)
  | setTrackingBlockerEnabled (tab : Nat) (isEnabled : Bool)
  /-- The map announces a change that is not one of this setting alone. -/
  | otherSettingChanged (primary secondary : service.Pattern)
      (contentTypeSet : ContentSettingsTypeSet)

inductive BrowserEffect where
  | tabOpened (tab : Nat)
  | tabClosed (tab : Nat)
  | network (effect : ProfileEffect)
  | shields (tab : Nat) (effect : ShieldsEffect)
  | settings (tab : Nat) (effect : SettingsEffect)
  | tab (tab : Nat) (effect : TabEffect)
  deriving DecidableEq, Repr

namespace WhaleBrowser

variable {service : ContentSettingsService}

def start (service : ContentSettingsService) (settings : service.Map) : WhaleBrowser service :=
  { profile := ResourceContextData.new
    settings := settings
    tabs := OwnedSet.empty
    frames := fun _frameTreeNodeId => none }

/-- `WebContents::FromFrameTreeNodeId`. -/
def tabOfFrame (self : WhaleBrowser service) (frameTreeNodeId : Int) : Option Tab :=
  (self.frames frameTreeNodeId).bind self.tabs.get

def view (self : WhaleBrowser service) : BrowserState :=
  { webContents := fun frameTreeNodeId =>
      (self.tabOfFrame frameTreeNodeId).map Tab.webContents
    settings := service.view self.settings }

def deliver (self : WhaleBrowser service) (tab : Nat) (events : List ShieldsEvent) :
    WhaleBrowser service × List BrowserEffect :=
  match self.tabs.get tab with
  | none => (self, [])
  | some contents =>
      let received := contents.receive events
      ({ self with tabs := self.tabs.update tab received.1 }, received.2.map (.shields tab))

/-- The observers of the settings map, tab by tab. -/
def notifyControllers (observation : SettingsObservation service) (self : WhaleBrowser service)
    (primary secondary : service.Pattern) (contentTypeSet : ContentSettingsTypeSet) :
    List BrowserEffect :=
  self.tabs.entries.flatMap fun entry =>
    if entry.2.shields.isSome then
      (WhaleShieldsDataController.onContentSettingChanged observation entry.2.webContents
        primary secondary contentTypeSet).map (.settings entry.1)
    else []

def notifyCall (observation : SettingsObservation service) (self : WhaleBrowser service)
    (call : SettingsCall) : List BrowserEffect :=
  match call.target service with
  | none => []
  | some primary =>
      if observation.announces self.settings primary service.wildcard call.setting then
        self.notifyControllers observation primary service.wildcard (.only .trackingBlocker)
      else []

/-- The tab of the request that has been vetted. -/
def vettedTab (self : WhaleBrowser service) (emitted : List ProfileEffect) : Option Nat :=
  (emitted.findSome? ProfileEffect.vettedContext).bind
    fun ctx => self.frames ctx.frameTreeNodeId

/-- The proxies have acted, and the controller of the tab hears of it. -/
def settleProxying (self : WhaleBrowser service)
    (outcome : ResourceContextData × List ProfileEffect) :
    WhaleBrowser service × List BrowserEffect :=
  let stored := { self with profile := outcome.1 }
  let told :=
    match self.vettedTab outcome.2 with
    | none => (stored, [])
    | some tab =>
        stored.deliver tab
          ((outcome.2.filterMap ProfileEffect.reportedNames).map .handleURLParamsBlocked)
  (told.1, outcome.2.map .network ++ told.2)

def finishNavigation (self : WhaleBrowser service) (tab : Nat) (contents : Tab) (url : GURL)
    (navigationHandle : NavigationHandle) : WhaleBrowser service × List BrowserEffect :=
  { self with tabs := self.tabs.update tab (contents.navigate url navigationHandle) }.deliver
    tab [.didFinishNavigation navigationHandle]

def switchTrackingBlocker (observation : SettingsObservation service)
    (self : WhaleBrowser service) (tab : Nat) (contents : Tab) (isEnabled : Bool) :
    WhaleBrowser service × List BrowserEffect :=
  let switched := WhaleShieldsDataController.setTrackingBlockerEnabled service self.settings
    contents.webContents isEnabled
  ({ self with settings := switched.1 },
    self.notifyCall observation (toggleCall (service.getDefaultContentSetting self.settings)
        isEnabled contents.lastCommittedURL) ++
      switched.2.map (.tab tab))

end WhaleBrowser

def browserMachine (platform : Platform) (service : ContentSettingsService)
    (observation : SettingsObservation service) :
    EventMachine (WhaleBrowser service) (BrowserEvent service) BrowserEffect :=
  { step := fun self event =>
      match event with
      | .openTab hasTabHelpers =>
          some ({ self with
              tabs := self.tabs.emplace
                { lastCommittedURL := GURL.empty
                  shields := if hasTabHelpers then some .new else none } },
            [.tabOpened self.tabs.nextAddress])
      | .closeTab tab =>
          match self.tabs.get tab with
          | none => none
          | some _ => some ({ self with tabs := self.tabs.erase tab }, [.tabClosed tab])
      | .placeFrame frameTreeNodeId tab =>
          some ({ self with
            frames := fun other =>
              if other = frameTreeNodeId then tab else self.frames other }, [])
      | .finishNavigation tab url navigationHandle =>
          match self.tabs.get tab with
          | none => none
          | some contents => some (self.finishNavigation tab contents url navigationHandle)
      | .itemBlocked tab blockType subresource =>
          if (self.tabs.get tab).any fun contents => contents.shields.isSome then
            some (self.deliver tab [.handleItemBlocked blockType subresource])
          else none
      | .proxying event =>
          match (profileMachine platform).step self.profile (self.view, event) with
          | none => none
          | some outcome => some (self.settleProxying outcome)
      | .settingsCall call =>
          some ({ self with settings := call.perform service self.settings },
            self.notifyCall observation call)
      | .setTrackingBlockerEnabled tab isEnabled =>
          match self.tabs.get tab with
          | none => none
          | some contents =>
              if contents.shields.isSome then
                some (self.switchTrackingBlocker observation tab contents isEnabled)
              else none
      | .otherSettingChanged primary secondary contentTypeSet =>
          some (self, self.notifyControllers observation primary secondary contentTypeSet) }

/-! ### What a step is -/

/-- The events that a browser handles, each with what it comes to. -/
inductive BrowserStep (platform : Platform) {service : ContentSettingsService}
    (observation : SettingsObservation service) (self : WhaleBrowser service) :
    BrowserEvent service → WhaleBrowser service × List BrowserEffect → Prop
  | openTab {hasTabHelpers : Bool} :
      BrowserStep platform observation self (.openTab hasTabHelpers)
        ({ self with
            tabs := self.tabs.emplace
              { lastCommittedURL := GURL.empty
                shields := if hasTabHelpers then some .new else none } },
          [.tabOpened self.tabs.nextAddress])
  | closeTab {tab : Nat} {contents : Tab} (present : self.tabs.get tab = some contents) :
      BrowserStep platform observation self (.closeTab tab)
        ({ self with tabs := self.tabs.erase tab }, [.tabClosed tab])
  | placeFrame {frameTreeNodeId : Int} {tab : Option Nat} :
      BrowserStep platform observation self (.placeFrame frameTreeNodeId tab)
        ({ self with
            frames := fun other =>
              if other = frameTreeNodeId then tab else self.frames other }, [])
  | finishNavigation {tab : Nat} {contents : Tab} {url : GURL}
      {navigationHandle : NavigationHandle} (present : self.tabs.get tab = some contents) :
      BrowserStep platform observation self (.finishNavigation tab url navigationHandle)
        (self.finishNavigation tab contents url navigationHandle)
  | itemBlocked {tab : Nat} {contents : Tab} {blockType : BlockType} {subresource : Text}
      (present : self.tabs.get tab = some contents) (attached : contents.shields.isSome = true) :
      BrowserStep platform observation self (.itemBlocked tab blockType subresource)
        (self.deliver tab [.handleItemBlocked blockType subresource])
  | proxying {event : ProfileEvent} {outcome : ResourceContextData × List ProfileEffect}
      (taken : (profileMachine platform).step self.profile (self.view, event) =
        some outcome) :
      BrowserStep platform observation self (.proxying event) (self.settleProxying outcome)
  | settingsCall {call : SettingsCall} :
      BrowserStep platform observation self (.settingsCall call)
        ({ self with settings := call.perform service self.settings },
          self.notifyCall observation call)
  | setTrackingBlockerEnabled {tab : Nat} {contents : Tab} {isEnabled : Bool}
      (present : self.tabs.get tab = some contents) (attached : contents.shields.isSome = true) :
      BrowserStep platform observation self (.setTrackingBlockerEnabled tab isEnabled)
        (self.switchTrackingBlocker observation tab contents isEnabled)
  | otherSettingChanged {primary secondary : service.Pattern}
      {contentTypeSet : ContentSettingsTypeSet} :
      BrowserStep platform observation self
        (.otherSettingChanged primary secondary contentTypeSet)
        (self, self.notifyControllers observation primary secondary contentTypeSet)

theorem browserStep_of_taken {platform : Platform} {service : ContentSettingsService}
    {observation : SettingsObservation service} {before : WhaleBrowser service}
    {event : BrowserEvent service} {outcome : WhaleBrowser service × List BrowserEffect}
    (taken : (browserMachine platform service observation).step before event =
      some outcome) : BrowserStep platform observation before event outcome := by
  cases event with
  | openTab hasTabHelpers =>
      cases taken
      exact BrowserStep.openTab
  | closeTab tab =>
      cases present : before.tabs.get tab with
      | none => simp [browserMachine, present] at taken
      | some contents =>
          simp only [browserMachine, present, Option.some.injEq] at taken
          rw [← taken]
          exact BrowserStep.closeTab present
  | placeFrame frameTreeNodeId tab =>
      cases taken
      exact BrowserStep.placeFrame
  | finishNavigation tab url navigationHandle =>
      cases present : before.tabs.get tab with
      | none => simp [browserMachine, present] at taken
      | some contents =>
          simp only [browserMachine, present, Option.some.injEq] at taken
          rw [← taken]
          exact BrowserStep.finishNavigation present
  | itemBlocked tab blockType subresource =>
      cases present : before.tabs.get tab with
      | none => simp [browserMachine, present] at taken
      | some contents =>
          cases attached : contents.shields.isSome with
          | false => simp [browserMachine, present, attached] at taken
          | true =>
              simp only [browserMachine, present, Option.any_some, attached, if_true,
                Option.some.injEq] at taken
              rw [← taken]
              exact BrowserStep.itemBlocked present attached
  | proxying event =>
      cases stepped : (profileMachine platform).step before.profile (before.view, event) with
      | none => simp [browserMachine, stepped] at taken
      | some outcome =>
          simp only [browserMachine, stepped, Option.some.injEq] at taken
          rw [← taken]
          exact BrowserStep.proxying stepped
  | settingsCall call =>
      cases taken
      exact BrowserStep.settingsCall
  | setTrackingBlockerEnabled tab isEnabled =>
      cases present : before.tabs.get tab with
      | none => simp [browserMachine, present] at taken
      | some contents =>
          cases attached : contents.shields.isSome with
          | false => simp [browserMachine, present, attached] at taken
          | true =>
              simp only [browserMachine, present, attached, if_true,
                Option.some.injEq] at taken
              rw [← taken]
              exact BrowserStep.setTrackingBlockerEnabled present attached
  | otherSettingChanged primary secondary contentTypeSet =>
      cases taken
      exact BrowserStep.otherSettingChanged

/-! ### The parts of a step -/

namespace WhaleBrowser

variable {service : ContentSettingsService} {observation : SettingsObservation service}
  {self : WhaleBrowser service}

/-- What a delivery leaves in the tabs, and what it emits. -/
theorem deliver_of_some {tab : Nat} {contents : Tab}
    (present : self.tabs.get tab = some contents) (events : List ShieldsEvent) :
    (self.deliver tab events).1 =
        { self with tabs := self.tabs.update tab (contents.receive events).1 } ∧
      (self.deliver tab events).2 = (contents.receive events).2.map (.shields tab) := by
  unfold deliver
  rw [present]
  exact ⟨rfl, rfl⟩

theorem deliver_of_none {tab : Nat} (absent : self.tabs.get tab = none)
    (events : List ShieldsEvent) : self.deliver tab events = (self, []) := by
  unfold deliver
  rw [absent]

theorem deliver_get (tab other : Nat) (events : List ShieldsEvent) :
    (self.deliver tab events).1.tabs.get other =
      if other = tab then (self.tabs.get other).map fun contents => (contents.receive events).1
      else self.tabs.get other := by
  cases present : self.tabs.get tab with
  | none =>
      rw [deliver_of_none present]
      split
      · rename_i same
        rw [same, present]
        rfl
      · rfl
  | some contents =>
      rw [(deliver_of_some present events).1, OwnedSet.get_update]
      split
      · rename_i same
        rw [same, present]
        rfl
      · rfl

theorem deliver_rest (tab : Nat) (events : List ShieldsEvent) :
    (self.deliver tab events).1.profile = self.profile ∧
      (self.deliver tab events).1.settings = self.settings ∧
      (self.deliver tab events).1.frames = self.frames ∧
      (self.deliver tab events).1.tabs.nextAddress = self.tabs.nextAddress := by
  unfold deliver
  split <;> exact ⟨rfl, rfl, rfl, rfl⟩

theorem finishNavigation_get {tab : Nat} {contents : Tab} (url : GURL)
    (navigationHandle : NavigationHandle) (present : self.tabs.get tab = some contents)
    (other : Nat) :
    (self.finishNavigation tab contents url navigationHandle).1.tabs.get other =
      if other = tab then
        some ((contents.navigate url navigationHandle).receive
          [.didFinishNavigation navigationHandle]).1
      else self.tabs.get other := by
  unfold finishNavigation
  rw [deliver_get]
  split
  · rename_i same
    subst same
    simp [present]
  · rename_i different
    simp [different]

/-- What the proxies have done reaches at most the tab of the vetted request. -/
theorem settleProxying_get (outcome : ResourceContextData × List ProfileEffect)
    (other : Nat) :
    (self.settleProxying outcome).1.tabs.get other =
      if self.vettedTab outcome.2 = some other then
        (self.tabs.get other).map fun contents =>
          (contents.receive ((outcome.2.filterMap ProfileEffect.reportedNames).map
            .handleURLParamsBlocked)).1
      else self.tabs.get other := by
  unfold settleProxying
  cases vetted : self.vettedTab outcome.2 with
  | none => simp
  | some tab =>
      simp only [deliver_get, Option.some.injEq]
      by_cases same : other = tab
      · rw [if_pos same, if_pos same.symm]
      · rw [if_neg same, if_neg fun equal => same equal.symm]

theorem settleProxying_rest (outcome : ResourceContextData × List ProfileEffect) :
    (self.settleProxying outcome).1.profile = outcome.1 ∧
      (self.settleProxying outcome).1.settings = self.settings ∧
      (self.settleProxying outcome).1.frames = self.frames ∧
      (self.settleProxying outcome).1.tabs.nextAddress = self.tabs.nextAddress := by
  unfold settleProxying
  split
  · exact ⟨rfl, rfl, rfl, rfl⟩
  · exact deliver_rest _ _

theorem switchTrackingBlocker_settings {tab : Nat} {contents : Tab} (isEnabled : Bool) :
    (self.switchTrackingBlocker observation tab contents isEnabled).1 =
      { self with
        settings := (toggleCall (service.getDefaultContentSetting self.settings) isEnabled
          contents.lastCommittedURL).perform service self.settings } := by
  have written := setTrackingBlockerEnabled_eq service self.settings contents.webContents
    isEnabled
  unfold switchTrackingBlocker
  simp only [written]
  rfl

end WhaleBrowser

/-- The proxies of a browser are those of a run of their own. -/
theorem attached_of_browser {platform : Platform} {service : ContentSettingsService}
    {observation : SettingsObservation service}
    {allowed : WhaleBrowser service → BrowserEvent service → Prop} {settings : service.Map}
    {browser : WhaleBrowser service}
    (reached : (browserMachine platform service observation).Reachable allowed
      (WhaleBrowser.start service settings) browser) : browser.profile.Attached := by
  have profileReached : (profileMachine platform).Reachable EventMachine.anyStep
      ResourceContextData.new browser.profile := by
    refine reached.invariant
      (fun browser => (profileMachine platform).Reachable EventMachine.anyStep
        ResourceContextData.new browser.profile) EventMachine.Reachable.refl ?_
    intro before event after emitted _reached held _permitted taken
    have kept : ∀ outcome, BrowserStep platform observation before event outcome →
        (profileMachine platform).Reachable EventMachine.anyStep ResourceContextData.new
          outcome.1.profile := by
      intro outcome step
      cases step with
      | finishNavigation present =>
          rw [WhaleBrowser.finishNavigation, (WhaleBrowser.deliver_rest _ _).1]
          exact held
      | itemBlocked present attached =>
          rw [(WhaleBrowser.deliver_rest _ _).1]
          exact held
      | proxying stepped =>
          rw [(WhaleBrowser.settleProxying_rest _).1]
          exact held.step trivial stepped
      | setTrackingBlockerEnabled present attached =>
          rw [WhaleBrowser.switchTrackingBlocker_settings]
          exact held
      | _ => exact held
    exact kept _ (browserStep_of_taken taken)
  exact ResourceContextData.attached_of_reachable profileReached

end Whale
