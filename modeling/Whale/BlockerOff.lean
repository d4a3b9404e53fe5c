/-
The proxy with the tracking blocker switched off.

In tabs for which the blocker is off at every new request and follow-up, one verdict is
left: the request goes on as it is.  The proxy is then the relay that only passes on.  It
is not a direct connection: a relay drops early hints and what a client tells a loader while
there is none, and it is silent about a failure while the client has a redirect to follow.
-/
import Whale.Relay

set_option autoImplicit false

namespace Whale

open Whale.Foundation
open Whale.Url (Text GURL)
open Whale.Net

/-! ### The blocker is off -/

def blockerOffFor (platform : Platform) (browser : BrowserState) (frameTreeNodeId : Int) :
    Bool :=
  !getTrackingBlockerEnabled platform browser.settings
    (tabOriginURL platform browser frameTreeNodeId)

/-- The blocker is off whenever a request starts or goes on. -/
def blockerOff (platform : Platform) : RequestStage → Surroundings × RequestEvent → Bool
  | _, (around, .create arguments) =>
      blockerOffFor platform around.browser arguments.frameTreeNodeId
  | .inProgress session, (around, .message (.followRedirect _)) =>
      blockerOffFor platform around.browser session.request.frameTreeNodeId
  | _, _ => true

def inBlockerOff (platform : Platform) (stage : RequestStage)
    (event : Surroundings × RequestEvent) : Prop :=
  blockerOff platform stage event = true

/-- A blocker that is off is not at its highest level either. -/
theorem isTrackingBlockerMaxLevel_of_off {platform : Platform}
    {settings : HostContentSettingsMap} {url : GURL}
    (off : getTrackingBlockerEnabled platform settings url = false) :
    isTrackingBlockerMaxLevel platform settings url = false := by
  unfold getTrackingBlockerEnabled at off
  unfold isTrackingBlockerMaxLevel
  split at off
  · rename_i android
    rw [if_pos android]
  · rename_i desktop
    rw [if_neg desktop]
    split at off
    · rename_i otherScheme
      rw [if_pos otherScheme]
    · rename_i web
      rw [if_neg web]
      have allowed : settings.getContentSetting url GURL.empty = .allow := by
        simpa using off
      rw [allowed]
      rfl

theorem newContext_of_off {platform : Platform} {browser : BrowserState}
    {self : InProgressRequest}
    (off : blockerOffFor platform browser self.frameTreeNodeId = true) :
    (self.newContext platform browser).enableTrackingBlocker = false ∧
      (self.newContext platform browser).allowReferrers = true := by
  have disabled : getTrackingBlockerEnabled platform browser.settings
      (tabOriginURL platform browser self.frameTreeNodeId) = false := by
    simpa [blockerOffFor] using off
  constructor
  · exact disabled
  · change (!isTrackingBlockerMaxLevel platform browser.settings _) = true
    rw [isTrackingBlockerMaxLevel_of_off disabled]
    rfl

/-- Nothing is capped or filtered then. -/
theorem siteHacks_of_off (platform : Platform) (browser : BrowserState)
    (ctx : WhaleRequestInfo) (disabled : ctx.enableTrackingBlocker = false)
    (referrers : ctx.allowReferrers = true) (fresh : ctx.newUrlSpec = []) (newUrl : GURL) :
    onBeforeURLRequestSiteHacksWork platform browser ctx newUrl =
      { error := netOK, ctx := ctx, newUrl := newUrl, blockedParams := none } := by
  have uncapped : applyPotentialReferrerBlock platform ctx = (ctx, false) := by
    unfold applyPotentialReferrerBlock
    rw [if_pos referrers]
  have unfiltered : applyPotentialQueryStringFilter platform ctx [] = (ctx, []) := by
    unfold applyPotentialQueryStringFilter
    rw [disabled]
    rfl
  unfold onBeforeURLRequestSiteHacksWork
  simp only [uncapped, unfiltered, fresh, ne_eq, not_true_eq_false, false_and, if_false]
  split
  · rfl
  · split <;> rfl

namespace InProgressRequest

variable {platform : Platform} {browser : BrowserState} {self : InProgressRequest}

theorem vetting_of_off (off : blockerOffFor platform browser self.frameTreeNodeId = true) :
    self.vetting platform browser =
      { error := netOK
        ctx := self.newContext platform browser
        newUrl := GURL.empty
        blockedParams := none } := by
  have switches := newContext_of_off off
  exact siteHacks_of_off platform browser _ switches.1 switches.2 rfl GURL.empty

theorem asksForRedirect_of_off
    (off : blockerOffFor platform browser self.frameTreeNodeId = true) :
    self.asksForRedirect platform browser = false := by
  unfold asksForRedirect
  rw [vetting_of_off off]
  rfl

theorem verdict_of_off (off : blockerOffFor platform browser self.frameTreeNodeId = true) :
    self.verdict platform browser = .proceed none := by
  unfold verdict
  rw [asksForRedirect_of_off off, vetting_of_off off]
  rfl

end InProgressRequest

namespace Session

variable {platform : Platform} {around : Surroundings} {session : Session}

/-- No list of stripped parameters is reported. -/
theorem not_mem_restart_of_off
    (off : blockerOffFor platform around.browser session.request.frameTreeNodeId = true)
    (params : List Text) :
    .handleURLParamsBlocked params ∉ (session.restart platform around).2 := by
  rw [restart_handOver (InProgressRequest.asksForRedirect_of_off off), List.mem_append]
  rintro (vetting | handedOver)
  · rcases InProgressRequest.mem_vettingEffects.mp vetting with impossible | ⟨_, _, blocked⟩
    · cases impossible
    · rw [InProgressRequest.vetting_of_off off] at blocked
      cases blocked
  · rcases List.mem_append.mp handedOver with forwarded | started
    · obtain ⟨_, _, impossible, _⟩ := InProgressRequest.mem_forwardEffects.mp forwarded
      cases impossible
    · cases (InProgressRequest.mem_startEffects.mp started).2

end Session

/-! ### The relay that only passes on -/

/-- The event with the verdict that the request goes on as it is. -/
def RequestEvent.unchanged (around : Surroundings) : RequestEvent → RelayEvent
  | .create arguments => .create arguments around.targetFactoryBound (.proceed none)
  | .message (.followRedirect params) =>
      .followRedirect params around.targetFactoryBound (.proceed none)
  | .message sent => .pass sent

theorem relayEvent_of_off {platform : Platform} {before after : RequestStage}
    {event : Surroundings × RequestEvent} {emitted : List Effect}
    (permitted : inBlockerOff platform before event)
    (taken : (sessionMachine platform).step before event = some (after, emitted)) :
    before.relayEvent platform event = event.2.unchanged event.1 := by
  obtain ⟨around, event⟩ := event
  rcases sessionMachine_step taken with
    ⟨arguments, rfl, rfl, _, _, _⟩ | ⟨session, message, rfl, rfl, _, _, _⟩
  · have off : blockerOffFor platform around.browser
        (Session.fresh arguments).request.frameTreeNodeId = true := permitted
    exact congrArg (RelayEvent.create arguments around.targetFactoryBound)
      (InProgressRequest.verdict_of_off off)
  · cases message with
    | followRedirect params =>
        have off : blockerOffFor platform around.browser
            (session.prepare params).request.frameTreeNodeId = true := permitted
        exact congrArg (RelayEvent.followRedirect params around.targetFactoryBound)
          (InProgressRequest.verdict_of_off off)
    | _ => rfl

theorem not_mem_step_of_off {platform : Platform} {before after : RequestStage}
    {event : Surroundings × RequestEvent} {emitted : List Effect}
    (permitted : inBlockerOff platform before event)
    (taken : (sessionMachine platform).step before event = some (after, emitted))
    (params : List Text) : .handleURLParamsBlocked params ∉ emitted := by
  obtain ⟨around, event⟩ := event
  rcases sessionMachine_step taken with
    ⟨arguments, rfl, rfl, _, rfl, rfl⟩ | ⟨session, message, rfl, rfl, _, rfl, rfl⟩
  · exact (Session.fresh arguments).not_mem_restart_of_off permitted params
  · intro member
    have caused := Session.mayCause_of_mem message member
    cases message with
    | followRedirect params' =>
        exact (session.prepare params').not_mem_restart_of_off permitted params member
    | _ => cases caused

theorem simulates_unchanged (platform : Platform) :
    EventMachine.Simulates (sessionMachine platform) (relayMachine platform)
      (inBlockerOff platform) EventMachine.anyStep .notCreated
      (fun _stage event => [event.2.unchanged event.1]) Effect.crossing
      (fun stage relayStage => relayStage = stage.relay) := by
  constructor
  rintro before event after emitted _ reached rfl permitted taken
  have stepped := relayMachine_step (aligned_of_reachable_stage reached) taken
  rw [relayEvent_of_off permitted taken] at stepped
  exact ⟨after.relay, EventMachine.Run.single trivial stepped, rfl⟩

/-- With the blocker off for its tab, a request is the relay on the same events with one
verdict, that each goes on as it is, and no list of stripped parameters is reported. -/
theorem relay_of_blockerOff (platform : Platform)
    (events : List (Surroundings × RequestEvent)) (outputs : List Effect)
    (stage : RequestStage)
    (run : EventMachine.Run (sessionMachine platform) (inBlockerOff platform) .notCreated
      events outputs stage) :
    EventMachine.Run (relayMachine platform) EventMachine.anyStep .notCreated
        (events.map fun event => event.2.unchanged event.1)
        (outputs.filterMap Effect.crossing) stage.relay ∧
      ∀ params, .handleURLParamsBlocked params ∉ outputs := by
  constructor
  · obtain ⟨records, recording, rfl⟩ := run.exists_recorded
    obtain ⟨final, relayRun, rfl⟩ := (simulates_unchanged platform).run rfl recording
    rw [← recording.map_event_of_recorded, List.map_map, List.map_eq_flatMap]
    exact relayRun
  · refine run.historyInvariant
      (fun _events outputs _stage => ∀ params, .handleURLParamsBlocked params ∉ outputs)
      (fun _params => List.not_mem_nil) ?_
    intro _ outputs before event after emitted _ unreported permitted taken params member
    rcases List.mem_append.mp member with earlier | now
    · exact unreported params earlier
    · exact not_mem_step_of_off permitted taken params now

namespace BlockerOffExample

def around : Surroundings :=
  referenceSurroundings .allow true

/-- The filter would strip the query at any other level. -/
def events : List (Surroundings × RequestEvent) :=
  [(around, .create (referenceArguments
      (referenceRequest "https://cdn.example.org/?fbclid=1"))),
    (around, .message (.onReceiveRedirect
      (referenceRedirect "https://cdn.example.net/?gclid=2") referenceHead)),
    (around, .message (.followRedirect plainFollowUp)),
    (around, .message (.onReceiveResponse referenceHead none none))]

def execution : Option (RequestStage × List Effect) :=
  (sessionMachine referencePlatform).exec (blockerOff referencePlatform) .notCreated
    events

theorem completed : execution.isSome = true := by
  decide

def result : RequestStage × List Effect :=
  execution.get completed

end BlockerOffExample

open BlockerOffExample in
theorem relay_of_blockerOff_example :
    EventMachine.Run (relayMachine referencePlatform) EventMachine.anyStep .notCreated
        (events.map fun event => event.2.unchanged event.1)
        (result.2.filterMap Effect.crossing) result.1.relay ∧
      ∀ params, .handleURLParamsBlocked params ∉ result.2 :=
  relay_of_blockerOff referencePlatform events result.2 result.1
    (EventMachine.Run.of_exec (Option.some_get completed).symm)

end Whale
