/-
What the panel of a tab lists.

Over any run of the browser, the controller of a tab lists exactly the items that
were blocked on the current page, and the parameters that were stripped from the
requests of the tab's frames on the current page and on the pages of the streak
before it.
-/
import Whale.Browser
import Whale.Foundation.Recorded

set_option autoImplicit false

namespace Whale

open Whale.Foundation
open Whale.Url (Text GURL)

open PageHistory

/-! ### One controller -/

def PageHistory.itemsIn (blockType : BlockType) (page : List ShieldsEvent) : List Text :=
  page.flatMap fun event =>
    match event with
    | .handleItemBlocked kind subresource => if kind = blockType then [subresource] else []
    | _ => []

namespace WhaleShieldsDataController

structure Shows (state : WhaleShieldsDataController) (history : PageHistory) : Prop where
  ads : ∀ name, name ∈ state.resourceListBlockedAds ↔ name ∈ itemsIn .ads history.current
  trackers : ∀ name, name ∈ state.resourceListBlockedTrackers ↔
    name ∈ itemsIn .trackers history.current
  params : state.Lists history

theorem shows_new : new.Shows (ofEvents []) where
  ads := fun name => by simp [new, ofEvents, itemsIn]
  trackers := fun name => by simp [new, ofEvents, itemsIn]
  params := lists_new

theorem record_of_samePage {event : ShieldsEvent} (samePage : event.isPageCommit = false)
    (history : PageHistory) :
    (history.record event).current = history.current ++ [event] := by
  rw [PageHistory.record, samePage]
  rfl

/-- On the same page a list gains what the event says. -/
theorem mem_items_snoc {listed listed' : TextSet} {blockType : BlockType}
    {page : List ShieldsEvent} {event : ShieldsEvent}
    (before : ∀ name, name ∈ listed ↔ name ∈ itemsIn blockType page)
    (gains : ∀ name, name ∈ listed' ↔ name ∈ itemsIn blockType [event] ∨ name ∈ listed)
    (name : Text) : name ∈ listed' ↔ name ∈ itemsIn blockType (page ++ [event]) := by
  have split : itemsIn blockType (page ++ [event]) =
      itemsIn blockType page ++ itemsIn blockType [event] := List.flatMap_append
  rw [gains, before, split, List.mem_append]
  exact or_comm

theorem mem_insert_iff (listed : TextSet) (name added : Text) :
    name ∈ listed.insert added ↔ name ∈ [added] ∨ name ∈ listed := by
  rw [Std.TreeSet.mem_insert, Std.LawfulEqCmp.compare_eq_iff_eq, List.mem_singleton,
    eq_comm]

theorem Shows.receive {self : WhaleShieldsDataController} {history : PageHistory}
    (shown : self.Shows history) (event : ShieldsEvent) :
    (self.receive event).1.Shows (history.record event) := by
  have same : ∀ {listed : TextSet} {blockType : BlockType} (name : Text),
      itemsIn blockType [event] = [] →
      (name ∈ listed ↔ name ∈ itemsIn blockType [event] ∨ name ∈ listed) := by
    intro listed blockType name nothing
    rw [nothing]
    simp
  cases commits : event.isPageCommit with
  | false =>
      have page := record_of_samePage commits history
      refine { ads := ?_, trackers := ?_, params := shown.params.receive event }
      · rw [page]
        refine mem_items_snoc shown.ads ?_
        intro name
        cases event with
        | handleItemBlocked blockType subresource =>
            cases blockType with
            | ads => exact mem_insert_iff _ name subresource
            | _ => exact same name rfl
        | handleURLParamsBlocked params => exact same name rfl
        | didFinishNavigation navigationHandle =>
            have ignored : self.receive (.didFinishNavigation navigationHandle) = (self, []) :=
              if_neg (by rw [← ShieldsEvent.isPageCommit, commits]; exact Bool.false_ne_true)
            rw [ignored]
            exact same name rfl
      · rw [page]
        refine mem_items_snoc shown.trackers ?_
        intro name
        cases event with
        | handleItemBlocked blockType subresource =>
            cases blockType with
            | trackers => exact mem_insert_iff _ name subresource
            | _ => exact same name rfl
        | handleURLParamsBlocked params => exact same name rfl
        | didFinishNavigation navigationHandle =>
            have ignored : self.receive (.didFinishNavigation navigationHandle) = (self, []) :=
              if_neg (by rw [← ShieldsEvent.isPageCommit, commits]; exact Bool.false_ne_true)
            rw [ignored]
            exact same name rfl
  | true =>
      have params := shown.params.receive event
      have page : (history.record event).current = [] := by
        rw [PageHistory.record, if_pos commits]
      cases event with
      | didFinishNavigation navigationHandle =>
          have cleared : self.receive (.didFinishNavigation navigationHandle) =
              self.clearAllResourcesList := if_pos commits
          refine { ads := ?_, trackers := ?_, params := params }
          · intro name
            rw [page, cleared]
            simp [clearAllResourcesList, itemsIn]
          · intro name
            rw [page, cleared]
            simp [clearAllResourcesList, itemsIn]
      | _ => cases commits

theorem Shows.receiveAll {self : WhaleShieldsDataController} {earlier : List ShieldsEvent}
    (shown : self.Shows (ofEvents earlier)) (events : List ShieldsEvent) :
    (receiveAll events self).1.Shows (ofEvents (earlier ++ events)) := by
  induction events generalizing self earlier with
  | nil =>
      rw [List.append_nil]
      exact shown
  | cons event rest ih =>
      have first := shown.receive event
      rw [← ofEvents_snoc] at first
      have later := ih first
      rw [List.append_assoc] at later
      exact later

end WhaleShieldsDataController

/-! ### What a step of the browser means for a tab -/

abbrev BrowserRecord (service : ContentSettingsService) :=
  Record (WhaleBrowser service) (BrowserEvent service) BrowserEffect

def BrowserEffect.vettedContext : BrowserEffect → Option WhaleRequestInfo
  | .network effect => effect.vettedContext
  | _ => none

section

variable {service : ContentSettingsService}

/-- The requests of a tab that are vetted in a step. -/
def BrowserRecord.vettedFor (record : BrowserRecord service) (tab : Nat) :
    List WhaleRequestInfo :=
  (record.emitted.filterMap BrowserEffect.vettedContext).filter fun ctx =>
    decide (record.before.frames ctx.frameTreeNodeId = some tab)

/-- The items, strippings and navigations of a tab that is open. -/
def BrowserRecord.pageEvents (platform : Platform) (tab : Nat)
    (record : BrowserRecord service) : List ShieldsEvent :=
  if (record.before.tabs.get tab).isSome then
    match record.event with
    | .itemBlocked address blockType subresource =>
        if address = tab then [.handleItemBlocked blockType subresource] else []
    | .finishNavigation address _ navigationHandle =>
        if address = tab then [.didFinishNavigation navigationHandle] else []
    | _ =>
        ((record.vettedFor tab).filterMap (strippedNames platform)).map
          .handleURLParamsBlocked
  else []

theorem WhaleBrowser.vettedTab_eq (self : WhaleBrowser service) (emitted : List ProfileEffect) :
    self.vettedTab emitted =
      ((emitted.filterMap ProfileEffect.vettedContext).head?).bind
        fun ctx => self.frames ctx.frameTreeNodeId := by
  rw [WhaleBrowser.vettedTab, List.head?_filterMap]

theorem WhaleBrowser.settleProxying_contexts (self : WhaleBrowser service)
    (outcome : ResourceContextData × List ProfileEffect) :
    (self.settleProxying outcome).2.filterMap BrowserEffect.vettedContext =
      outcome.2.filterMap ProfileEffect.vettedContext := by
  have silent : ∀ (other : WhaleBrowser service) (tab : Nat) (events : List ShieldsEvent),
      (other.deliver tab events).2.filterMap BrowserEffect.vettedContext = [] := by
    intro other tab events
    unfold WhaleBrowser.deliver
    split
    · rfl
    · rw [List.filterMap_map]
      exact List.filterMap_eq_nil_iff.mpr fun _effect _member => rfl
  unfold WhaleBrowser.settleProxying
  rw [List.filterMap_append, List.filterMap_map]
  have nothing : ∀ told : WhaleBrowser service × List BrowserEffect,
      told.2.filterMap BrowserEffect.vettedContext = [] →
      outcome.2.filterMap (BrowserEffect.vettedContext ∘ BrowserEffect.network) ++
          told.2.filterMap BrowserEffect.vettedContext =
        outcome.2.filterMap ProfileEffect.vettedContext := by
    intro told quiet
    rw [quiet, List.append_nil]
    rfl
  refine nothing _ ?_
  split
  · rfl
  · exact silent _ _ _

/-- How the controller of a tab gets through one step. -/
inductive HearsOf (platform : Platform) (record : BrowserRecord service) (tab : Nat) :
    Option Tab → Prop
  | absent : HearsOf platform record tab none
  | opened {contents : Tab} (isNew : tab = record.before.tabs.nextAddress)
      (blank : ∀ shields, contents.shields = some shields → shields = .new) :
      HearsOf platform record tab (some contents)
  | hears {earlier contents : Tab} (present : record.before.tabs.get tab = some earlier)
      (heard : contents.shields = earlier.shields.map fun shields =>
        (shields.receiveAll (record.pageEvents platform tab)).1) :
      HearsOf platform record tab (some contents)

theorem Tab.receive_shields (tab : Tab) (events : List ShieldsEvent) :
    (tab.receive events).1.shields =
      tab.shields.map fun shields => (shields.receiveAll events).1 := by
  unfold Tab.receive
  cases attached : tab.shields with
  | none => simp [attached]
  | some shields => rfl

theorem Tab.navigate_shields (tab : Tab) (url : GURL) (navigationHandle : NavigationHandle) :
    (tab.navigate url navigationHandle).shields = tab.shields := by
  unfold Tab.navigate
  split <;> rfl

theorem BrowserRecord.pageEvents_of_some (platform : Platform) {record : BrowserRecord service}
    {tab : Nat} {contents : Tab} (present : record.before.tabs.get tab = some contents) :
    record.pageEvents platform tab =
      match record.event with
      | .itemBlocked address blockType subresource =>
          if address = tab then [.handleItemBlocked blockType subresource] else []
      | .finishNavigation address _ navigationHandle =>
          if address = tab then [.didFinishNavigation navigationHandle] else []
      | _ =>
          ((record.vettedFor tab).filterMap (strippedNames platform)).map
            .handleURLParamsBlocked := by
  unfold pageEvents
  rw [present]
  rfl

/-- A tab that stays as it is hears of nothing. -/
theorem HearsOf.of_same {platform : Platform} {record : BrowserRecord service} {tab : Nat}
    {after : Option Tab} (same : after = record.before.tabs.get tab)
    (silent : record.pageEvents platform tab = []) : HearsOf platform record tab after := by
  subst same
  cases present : record.before.tabs.get tab with
  | none => exact HearsOf.absent
  | some contents =>
      refine HearsOf.hears present ?_
      rw [silent]
      exact Option.map_id'.symm

variable {platform : Platform} {observation : SettingsObservation service}
  {before : WhaleBrowser service}

/-- Neither a notification nor a reload vets anything. -/
theorem notifyControllers_silent (primary secondary : service.Pattern)
    (contentTypeSet : ContentSettingsTypeSet) :
    (before.notifyControllers observation primary secondary contentTypeSet).filterMap
      BrowserEffect.vettedContext = [] := by
  rw [List.filterMap_eq_nil_iff]
  intro effect member
  obtain ⟨entry, _, notified⟩ := List.mem_flatMap.mp member
  split at notified
  · obtain ⟨_, _, rfl⟩ := List.mem_map.mp notified
    rfl
  · cases notified

theorem notifyCall_silent (call : SettingsCall) :
    (before.notifyCall observation call).filterMap BrowserEffect.vettedContext = [] := by
  unfold WhaleBrowser.notifyCall
  split
  · rfl
  · split
    · exact notifyControllers_silent _ _ _
    · rfl

theorem BrowserRecord.vettedFor_eq_nil {record : BrowserRecord service}
    (silent : record.emitted.filterMap BrowserEffect.vettedContext = []) (tab : Nat) :
    record.vettedFor tab = [] := by
  unfold vettedFor
  rw [silent]
  rfl

def BrowserEvent.isOfPage : BrowserEvent service → Bool
  | .itemBlocked .. => true
  | .finishNavigation .. => true
  | _ => false

theorem BrowserRecord.pageEvents_of_other {record : BrowserRecord service}
    (other : record.event.isOfPage = false)
    (silent : record.emitted.filterMap BrowserEffect.vettedContext = []) {tab : Nat} :
    record.pageEvents platform tab = [] := by
  obtain ⟨before, event, emitted, after⟩ := record
  unfold pageEvents
  rw [vettedFor_eq_nil silent]
  split
  · cases event with
    | itemBlocked => cases other
    | finishNavigation => cases other
    | _ => rfl
  · rfl

/-- The reports of the proxies are the strippings from the tab's requests. -/
theorem settleProxying_hears (attached : before.profile.Attached) {event : ProfileEvent}
    {outcome : ResourceContextData × List ProfileEffect}
    (taken : (profileMachine platform).step before.profile (before.view, event) =
      some outcome) (tab : Nat) :
    HearsOf platform
      { before := before
        event := .proxying event
        emitted := (before.settleProxying outcome).2
        after := (before.settleProxying outcome).1 }
      tab ((before.settleProxying outcome).1.tabs.get tab) := by
  have vets := profileMachine_vetsOne attached taken
  rw [WhaleBrowser.settleProxying_get, WhaleBrowser.vettedTab_eq]
  cases present : before.tabs.get tab with
  | none =>
      rw [Option.map_none, ite_self]
      exact HearsOf.absent
  | some contents =>
      generalize contextsOf : outcome.2.filterMap ProfileEffect.vettedContext = contexts
        at vets
      generalize outcome.2.filterMap ProfileEffect.reportedNames = names at vets
      have seen : BrowserRecord.vettedFor
          { before := before
            event := .proxying event
            emitted := (before.settleProxying outcome).2
            after := (before.settleProxying outcome).1 } tab =
          contexts.filter fun ctx =>
            decide (before.frames ctx.frameTreeNodeId = some tab) := by
        unfold BrowserRecord.vettedFor
        rw [WhaleBrowser.settleProxying_contexts, contextsOf]
      cases vets with
      | nothing =>
          rw [List.head?_nil, Option.bind_none, if_neg (by simp)]
          refine HearsOf.hears present ?_
          rw [BrowserRecord.pageEvents_of_some platform present]
          simp only [seen, List.filter_nil, List.filterMap_nil, List.map_nil]
          exact Option.map_id'.symm
      | @context ctx fresh =>
          rw [List.head?_cons, Option.bind_some]
          by_cases here : before.frames ctx.frameTreeNodeId = some tab
          · rw [if_pos here, Option.map_some]
            refine HearsOf.hears present ?_
            rw [Tab.receive_shields, BrowserRecord.pageEvents_of_some platform present]
            simp only [seen, List.filter_cons, here, decide_true, if_true, List.filter_nil]
            cases attached : contents.shields with
            | none => rfl
            | some shields =>
                have takes : hasShieldsDataController before.view ctx.frameTreeNodeId =
                    true := by
                  simp [hasShieldsDataController, WhaleBrowser.view,
                    WhaleBrowser.tabOfFrame, here, present, Tab.webContents, attached]
                rw [if_pos takes]
                simp only [List.filterMap_cons, List.filterMap_nil]
                cases strippedNames platform ctx <;> rfl
          · rw [if_neg here]
            refine HearsOf.hears present ?_
            rw [BrowserRecord.pageEvents_of_some platform present]
            simp only [seen, List.filter_cons, here, decide_false, Bool.false_eq_true,
              if_false, List.filter_nil, List.filterMap_nil, List.map_nil]
            exact Option.map_id'.symm

/-- What each tab hears of in a step is what the step means for it. -/
theorem browserStep_hears (attached : before.profile.Attached)
    {event : BrowserEvent service} {outcome : WhaleBrowser service × List BrowserEffect}
    (step : BrowserStep platform observation before event outcome) (tab : Nat) :
    HearsOf platform
      { before := before, event := event, emitted := outcome.2, after := outcome.1 }
      tab (outcome.1.tabs.get tab) := by
  cases step with
  | openTab =>
      by_cases isNew : tab = before.tabs.nextAddress
      · rw [OwnedSet.get_emplace, if_pos isNew]
        refine HearsOf.opened isNew ?_
        intro shields attached
        split at attached
        · exact (Option.some.inj attached).symm
        · cases attached
      · refine HearsOf.of_same ?_ (BrowserRecord.pageEvents_of_other rfl rfl)
        rw [OwnedSet.get_emplace, if_neg isNew]
  | closeTab present =>
      rw [OwnedSet.get_erase]
      split
      · exact HearsOf.absent
      · exact HearsOf.of_same rfl (BrowserRecord.pageEvents_of_other rfl rfl)
  | placeFrame => exact HearsOf.of_same rfl (BrowserRecord.pageEvents_of_other rfl rfl)
  | @finishNavigation address contents url navigationHandle present =>
      rw [WhaleBrowser.finishNavigation_get url navigationHandle present]
      by_cases same : tab = address
      · subst same
        rw [if_pos rfl]
        refine HearsOf.hears present ?_
        rw [Tab.receive_shields, Tab.navigate_shields,
          BrowserRecord.pageEvents_of_some platform present]
        simp only [if_true]
      · rw [if_neg same]
        refine HearsOf.of_same rfl ?_
        unfold BrowserRecord.pageEvents
        simp only [if_neg fun equal => same (Eq.symm equal), ite_self]
  | @itemBlocked address contents blockType subresource present attached =>
      rw [WhaleBrowser.deliver_get]
      by_cases same : tab = address
      · subst same
        rw [if_pos rfl, present, Option.map_some]
        refine HearsOf.hears present ?_
        rw [Tab.receive_shields, BrowserRecord.pageEvents_of_some platform present]
        simp only [if_true]
      · rw [if_neg same]
        refine HearsOf.of_same rfl ?_
        unfold BrowserRecord.pageEvents
        simp only [if_neg fun equal => same (Eq.symm equal), ite_self]
  | proxying taken => exact settleProxying_hears attached taken tab
  | settingsCall =>
      exact HearsOf.of_same rfl
        (BrowserRecord.pageEvents_of_other rfl (notifyCall_silent _))
  | @setTrackingBlockerEnabled address contents isEnabled present attached =>
      refine HearsOf.of_same ?_ (BrowserRecord.pageEvents_of_other rfl ?_)
      · rw [WhaleBrowser.switchTrackingBlocker_settings]
      · unfold WhaleBrowser.switchTrackingBlocker
        rw [List.filterMap_append, notifyCall_silent]
        rfl
  | otherSettingChanged =>
      exact HearsOf.of_same rfl
        (BrowserRecord.pageEvents_of_other rfl (notifyControllers_silent _ _ _))

end

/-! ### Over a whole run -/

section

variable {service : ContentSettingsService} {observation : SettingsObservation service}

theorem nextAddress_le_of_step {platform : Platform} {before : WhaleBrowser service}
    {event : BrowserEvent service} {outcome : WhaleBrowser service × List BrowserEffect}
    (step : BrowserStep platform observation before event outcome) :
    before.tabs.nextAddress ≤ outcome.1.tabs.nextAddress := by
  cases step with
  | openTab => exact Nat.le_succ _
  | finishNavigation present =>
      exact Nat.le_of_eq (by
        rw [WhaleBrowser.finishNavigation, (WhaleBrowser.deliver_rest _ _).2.2.2]
        rfl)
  | itemBlocked present attached =>
      exact Nat.le_of_eq (WhaleBrowser.deliver_rest _ _).2.2.2.symm
  | proxying taken =>
      exact Nat.le_of_eq (WhaleBrowser.settleProxying_rest _).2.2.2.symm
  | setTrackingBlockerEnabled present attached =>
      exact Nat.le_of_eq (by rw [WhaleBrowser.switchTrackingBlocker_settings])
  | _ => exact Nat.le_refl _

/-- The panel of every tab lists what was blocked and stripped for that tab: items on
its current page, and parameters since the streak of pages that keeps them began. -/
theorem panel_of_run (platform : Platform) (service : ContentSettingsService)
    (observation : SettingsObservation service) (settings : service.Map)
    (events : List (BrowserEvent service)) (records : List (BrowserRecord service))
    (final : WhaleBrowser service)
    (run : EventMachine.Run (browserMachine platform service observation).recorded
      EventMachine.anyStep (WhaleBrowser.start service settings) events records final)
    (tab : Nat) (contents : Tab) (shields : WhaleShieldsDataController)
    (present : final.tabs.get tab = some contents)
    (attached : contents.shields = some shields) :
    shields.Shows (ofEvents (records.flatMap (BrowserRecord.pageEvents platform tab))) := by
  have everywhere := run.historyInvariant
    (fun _events records state =>
      (∀ tab, state.tabs.nextAddress ≤ tab →
        records.flatMap (BrowserRecord.pageEvents platform tab) = []) ∧
      ∀ tab contents shields, state.tabs.get tab = some contents →
        contents.shields = some shields →
        shields.Shows (ofEvents (records.flatMap (BrowserRecord.pageEvents platform tab))))
    ⟨fun _ _ => rfl, fun tab contents _ impossible => by
      cases impossible⟩ ?_
  · exact everywhere.2 tab contents shields present attached
  · rintro _ records before event after emitted initial ⟨unopened, shown⟩ _ taken
    obtain ⟨effects, stepped, rfl⟩ := EventMachine.recorded_step_iff.mp taken
    have proxies := attached_of_browser ⟨_, _, initial.of_recorded⟩
    have step := browserStep_of_taken stepped
    constructor
    · intro tab later
      have grows : before.tabs.nextAddress ≤ after.tabs.nextAddress :=
        nextAddress_le_of_step step
      have absent := OwnedSet.get_eq_none_of_le (Nat.le_trans grows later)
      rw [List.flatMap_append, unopened tab (Nat.le_trans grows later),
        List.flatMap_singleton, BrowserRecord.pageEvents, absent]
      rfl
    · intro tab contents shields present attached
      have hears := browserStep_hears proxies step tab
      rw [present] at hears
      rw [List.flatMap_append, List.flatMap_singleton]
      cases hears with
      | opened isNew blank =>
          have nothing : BrowserRecord.pageEvents platform tab
              { before := before, event := event, emitted := effects, after := after } =
                [] := by
            have absent : before.tabs.get tab = none :=
              OwnedSet.get_eq_none_of_le (Nat.le_of_eq isNew.symm)
            rw [BrowserRecord.pageEvents, absent]
            rfl
          rw [unopened tab (Nat.le_of_eq isNew.symm), nothing, blank shields attached]
          exact WhaleShieldsDataController.shows_new
      | @hears earlier _ wasOpen heard =>
          rw [attached] at heard
          obtain ⟨older, olderAttached, rfl⟩ := Option.map_eq_some_iff.mp heard.symm
          exact (shown tab earlier older wasOpen olderAttached).receiveAll _

end

namespace BlockedListsExample

def settings : ContentSettingsService :=
  referenceSettings .ask

/-- A page whose request is stripped of one name, and an item blocked on it. -/
def events : List (BrowserEvent settings) :=
  [.openTab true, .placeFrame 3 (some 0),
    .finishNavigation 0 (referenceUrl "https://news.example.com/")
      { isInMainFrame := true, hasCommitted := true, isSameDocument := false },
    .proxying (.startProxying 3),
    .proxying (.proxy 0 (.createLoaderAndStart 0
      { requestId := 7
        options := 0
        request := referenceRequest "https://cdn.example.org/?fbclid=1" })),
    .itemBlocked 0 .ads "https://ads.example.org/".toList]

def execution : Option (WhaleBrowser settings × List (BrowserRecord settings)) :=
  (browserMachine referencePlatform settings (referenceObservation .ask)).recorded.exec
    (fun _ _ => true) (WhaleBrowser.start settings (referenceMap .ask)) events

theorem completed : execution.isSome = true := by
  decide

def result : WhaleBrowser settings × List (BrowserRecord settings) :=
  execution.get completed

theorem isOpen : (result.1.tabs.get 0).isSome = true := by
  decide

def contents : Tab :=
  (result.1.tabs.get 0).get isOpen

theorem hasHelpers : contents.shields.isSome = true := by
  decide

def shields : WhaleShieldsDataController :=
  contents.shields.get hasHelpers

end BlockedListsExample

open BlockedListsExample in
theorem panel_of_run_example :
    shields.Shows
      (ofEvents (result.2.flatMap (BrowserRecord.pageEvents referencePlatform 0))) :=
  panel_of_run referencePlatform settings (referenceObservation .ask) (referenceMap .ask)
    events result.2 result.1
    ((EventMachine.Run.of_exec (Option.some_get completed).symm).weaken
      fun _ _ _ => trivial)
    0 contents shields (Option.some_get isOpen).symm (Option.some_get hasHelpers).symm

end Whale
