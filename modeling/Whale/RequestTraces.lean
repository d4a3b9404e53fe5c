/-
The trace of one request in a profile.

Whatever the other requests and proxies do in between, the events that concern
one request (the call that makes it and the messages it is sent) make a run of the
session machine by themselves, and its outputs are those of the profile for that
request, in the same order.
-/
import Mathlib.Data.List.Basic
import Whale.Foundation.Simulation
import Whale.ProxyRequests

set_option autoImplicit false

namespace Whale

open Whale.Foundation
open Whale.Url (Text GURL)
open Whale.Net

/-! ### What concerns one request -/

/-- What an event of the proxy is to the request at an address: the call that makes it,
or a message. -/
def WhaleProxyingURLLoaderFactory.requestEvent (self : WhaleProxyingURLLoaderFactory)
    (request : Nat) : FactoryEvent → Option RequestEvent
  | .createLoaderAndStart _ call =>
      if self.requests.nextAddress = request then some (.create (self.createArguments call))
      else none
  | .request object message => if object = request then some (.message message) else none
  | _ => none

def FactoryEffect.ofRequest (request : Nat) : FactoryEffect → Option Effect
  | .request object effect => if object = request then some effect else none
  | _ => none

/-- What an event of the profile is to a request, with the browser and the target
factory of its time. -/
def ResourceContextData.requestEvent (self : ResourceContextData) (proxy request : Nat) :
    BrowserState × ProfileEvent → Option (Surroundings × RequestEvent)
  | (_, .startProxying _) => none
  | (browser, .proxy address event) =>
      if address = proxy then
        match self.proxies.get proxy with
        | none => none
        | some factory =>
            (factory.requestEvent request event).map fun requestEvent =>
              (factory.surroundings browser, requestEvent)
      else none

def ProfileEffect.ofRequest (proxy request : Nat) : ProfileEffect → Option Effect
  | .factory address effect => if address = proxy then effect.ofRequest request else none
  | _ => none

/-! ### Inside a proxy -/

namespace WhaleProxyingURLLoaderFactory

/-- How far a request of a proxy has come. -/
def HasStage (factory : WhaleProxyingURLLoaderFactory) (request : Nat) :
    RequestStage → Prop
  | .notCreated => factory.requests.nextAddress ≤ request
  | .inProgress session => factory.requests.get request = some session
  | .removed => request < factory.requests.nextAddress ∧ factory.requests.get request = none

variable {self : WhaleProxyingURLLoaderFactory} {platform : Platform}
  {browser : BrowserState}

theorem HasStage.of_same {other : WhaleProxyingURLLoaderFactory} {request : Nat}
    {stage : RequestStage} (held : self.HasStage request stage)
    (sameGet : other.requests.get request = self.requests.get request)
    (sameNext : other.requests.nextAddress = self.requests.nextAddress) :
    other.HasStage request stage := by
  cases stage with
  | notCreated => exact Nat.le_trans (Nat.le_of_eq sameNext) held
  | inProgress session => exact sameGet.trans held
  | removed =>
      refine ⟨?_, sameGet.trans held.2⟩
      rw [sameNext]
      exact held.1

theorem HasStage.eq_inProgress {request : Nat} {stage : RequestStage}
    (held : self.HasStage request stage) {session : Session}
    (present : self.requests.get request = some session) : stage = .inProgress session := by
  cases stage with
  | notCreated => exact absurd (OwnedSet.lt_of_get present) (Nat.not_lt_of_le held)
  | inProgress other => exact congrArg _ (Option.some.inj (held.symm.trans present))
  | removed =>
      rw [held.2] at present
      cases present

theorem maybeRemoveProxy_ofRequest (request : Nat) :
    self.maybeRemoveProxy.2.filterMap (FactoryEffect.ofRequest request) = [] := by
  unfold maybeRemoveProxy
  split
  · rfl
  · split <;> rfl

theorem removeRequest_get {object : Nat} {session : Session}
    (present : self.requests.get object = some session) :
    (self.removeRequest object).1.requests = self.requests.erase object ∧
      ∀ request, (self.removeRequest object).2.filterMap
        (FactoryEffect.ofRequest request) = [] := by
  unfold removeRequest
  rw [present]
  exact ⟨maybeRemoveProxy_requests, maybeRemoveProxy_ofRequest⟩

theorem filterMap_map_request (object request : Nat) (effects : List Effect) :
    (effects.map (FactoryEffect.request object)).filterMap
        (FactoryEffect.ofRequest request) =
      if object = request then effects else [] := by
  rw [List.filterMap_map]
  by_cases same : object = request
  · have keeps : FactoryEffect.ofRequest request ∘ FactoryEffect.request object = some := by
      funext effect
      simp [FactoryEffect.ofRequest, same]
    rw [keeps, List.filterMap_some, if_pos same]
  · have drops : FactoryEffect.ofRequest request ∘ FactoryEffect.request object =
        fun _effect => none := by
      funext effect
      simp [FactoryEffect.ofRequest, same]
    rw [drops, List.filterMap_none, if_neg same]

/-- What a settled request leaves at each address, and what it emits. -/
theorem settle_request {object : Nat} {old : Session}
    (present : self.requests.get object = some old) (outcome : Session × List Effect) :
    (self.settle object outcome).1.requests.nextAddress = self.requests.nextAddress ∧
      (∀ request, (self.settle object outcome).1.requests.get request =
        if request = object then
          if outcome.2.any Effect.isRemoval then none else some outcome.1
        else self.requests.get request) ∧
      ∀ request, (self.settle object outcome).2.filterMap
          (FactoryEffect.ofRequest request) =
        if object = request then outcome.2 else [] := by
  have stored : ({ self with requests := self.requests.update object outcome.1 } :
      WhaleProxyingURLLoaderFactory).requests.get object = some outcome.1 := by
    simp [present]
  unfold settle
  simp only [List.filterMap_append, filterMap_map_request]
  cases removes : outcome.2.any Effect.isRemoval with
  | false =>
      refine ⟨rfl, ?_, ?_⟩
      · intro request
        by_cases same : request = object
        · subst same
          simp [present]
        · simp [same]
      · intro request
        simp
  | true =>
      have removal := removeRequest_get stored
      refine ⟨?_, ?_, ?_⟩
      · simp only [if_true, removal.1]
        rfl
      · intro request
        simp only [if_true, removal.1, OwnedSet.get_erase, OwnedSet.get_update]
        by_cases same : request = object <;> simp [same]
      · intro request
        simp only [if_true, removal.2 request, List.append_nil]

/-- The stage that a settled request reaches. -/
theorem hasStage_settle {object : Nat} {old : Session}
    (present : self.requests.get object = some old) (outcome : Session × List Effect) :
    (self.settle object outcome).1.HasStage object (.ofOutcome outcome) := by
  have settled := settle_request present outcome
  have here := settled.2.1 object
  rw [if_pos rfl] at here
  unfold RequestStage.ofOutcome
  cases removes : outcome.2.any Effect.isRemoval with
  | false =>
      rw [removes] at here
      exact here
  | true =>
      rw [removes] at here
      refine ⟨?_, here⟩
      rw [settled.1]
      exact OwnedSet.lt_of_get present

/-- The machine of a request takes the steps that concern it. -/
def requestSteps (self : WhaleProxyingURLLoaderFactory) (browser : BrowserState)
    (request : Nat) (event : FactoryEvent) : List (Surroundings × RequestEvent) :=
  ((self.requestEvent request event).map fun requestEvent =>
    (self.surroundings browser, requestEvent)).toList

/-- An event of a proxy is at most one step of each request. -/
theorem exists_requestStep {event : FactoryEvent}
    {outcome : WhaleProxyingURLLoaderFactory × List FactoryEffect}
    (handled : self.handle platform browser event = some outcome) {request : Nat}
    {stage : RequestStage} (held : self.HasStage request stage) :
    ∃ stage', EventMachine.Run (sessionMachine platform) EventMachine.anyStep stage
        (self.requestSteps browser request event)
        (outcome.2.filterMap (FactoryEffect.ofRequest request)) stage' ∧
      outcome.1.HasStage request stage' := by
  cases handled_of_handle handled with
  | @createLoaderAndStart receiver call live deliverable =>
      let created : WhaleProxyingURLLoaderFactory :=
        { self with
          requestId := self.requestId + 1
          requests := self.requests.emplace (Session.fresh (self.createArguments call)) }
      let started := Session.create platform (self.surroundings browser)
        (self.createArguments call)
      have present : created.requests.get self.requests.nextAddress =
          some (Session.fresh (self.createArguments call)) := by
        simp [created]
      have settled := settle_request present started
      have emits : ((self.createLoaderAndStart platform browser call).2.filterMap
          (FactoryEffect.ofRequest request)) =
          if self.requests.nextAddress = request then started.2 else [] :=
        settled.2.2 request
      rw [emits]
      by_cases isNew : request = self.requests.nextAddress
      · subst isNew
        have fresh : stage = .notCreated := by
          cases stage with
          | notCreated => rfl
          | inProgress session => exact absurd (OwnedSet.lt_of_get held) (Nat.lt_irrefl _)
          | removed => exact absurd held.1 (Nat.lt_irrefl _)
        subst fresh
        have steps : self.requestSteps browser self.requests.nextAddress
            (.createLoaderAndStart receiver call) =
            [(self.surroundings browser, .create (self.createArguments call))] := by
          simp [requestSteps, requestEvent]
        rw [steps, if_pos rfl]
        refine ⟨.ofOutcome started, EventMachine.Run.single trivial ?_,
          hasStage_settle present started⟩
        simp only [sessionMachine, createArguments, deliverable, if_true]
        rfl
      · have steps : self.requestSteps browser request (.createLoaderAndStart receiver call) =
            [] := by
          simp [requestSteps, requestEvent, Ne.symm isNew]
        rw [steps, if_neg fun same => isNew same.symm]
        refine ⟨stage, EventMachine.Run.nil, ?_⟩
        have elsewhere := settled.2.1 request
        rw [if_neg isNew] at elsewhere
        have sameGet : (self.createLoaderAndStart platform browser call).1.requests.get
            request = self.requests.get request := by
          refine elsewhere.trans ?_
          simp [created, isNew]
        have next : (self.createLoaderAndStart platform browser
            call).1.requests.nextAddress = self.requests.nextAddress + 1 := settled.1
        cases stage with
        | notCreated =>
            have later : self.requests.nextAddress ≤ request := held
            change (self.createLoaderAndStart platform browser
              call).1.requests.nextAddress ≤ request
            omega
        | inProgress session => exact sameGet.trans held
        | removed =>
            have earlier := held.1
            refine ⟨?_, sameGet.trans held.2⟩
            rw [next]
            omega
  | clone live => exact ⟨stage, EventMachine.Run.nil, held⟩
  | receiverDisconnected live =>
      refine ⟨stage, ?_, ?_⟩
      · rw [onProxyBindingError, maybeRemoveProxy_ofRequest]
        exact EventMachine.Run.nil
      · refine held.of_same ?_ ?_
        · rw [onProxyBindingError, maybeRemoveProxy_requests]
        · rw [onProxyBindingError, maybeRemoveProxy_requests]
  | targetFactoryDisconnected bound =>
      refine ⟨stage, ?_, ?_⟩
      · rw [onTargetFactoryError, maybeRemoveProxy_ofRequest]
        exact EventMachine.Run.nil
      · refine held.of_same ?_ ?_
        · rw [onTargetFactoryError, maybeRemoveProxy_requests]
        · rw [onTargetFactoryError, maybeRemoveProxy_requests]
  | @request object message session present delivered =>
      have settled := settle_request present
        (session.receive platform (self.surroundings browser) message)
      rw [settled.2.2 request]
      by_cases same : object = request
      · subst same
        have running := held.eq_inProgress present
        subst running
        have steps : self.requestSteps browser object (.request object message) =
            [(self.surroundings browser, .message message)] := by
          simp [requestSteps, requestEvent]
        rw [steps, if_pos rfl]
        refine ⟨_, EventMachine.Run.single trivial ?_, hasStage_settle present _⟩
        simp only [sessionMachine, delivered, if_true]
      · have steps : self.requestSteps browser request (.request object message) = [] := by
          simp [requestSteps, requestEvent, same]
        rw [steps, if_neg same]
        refine ⟨stage, EventMachine.Run.nil, held.of_same ?_ settled.1⟩
        rw [settled.2.1 request, if_neg fun equal => same equal.symm]

end WhaleProxyingURLLoaderFactory

/-! ### Inside a profile -/

namespace ResourceContextData

/-- A proxy that is gone has no request in progress. -/
def HasStage (profile : ResourceContextData) (proxy request : Nat)
    (stage : RequestStage) : Prop :=
  match profile.proxies.get proxy with
  | some factory => factory.HasStage request stage
  | none =>
      (∀ session, stage ≠ .inProgress session) ∧
        (profile.proxies.nextAddress ≤ proxy → stage = .notCreated)

variable {platform : Platform} {proxy request : Nat}

theorem hasStage_of_some {profile : ResourceContextData}
    {factory : WhaleProxyingURLLoaderFactory} {stage : RequestStage}
    (present : profile.proxies.get proxy = some factory) :
    profile.HasStage proxy request stage ↔ factory.HasStage request stage := by
  unfold HasStage
  rw [present]

theorem hasStage_of_none {profile : ResourceContextData} {stage : RequestStage}
    (absent : profile.proxies.get proxy = none) :
    profile.HasStage proxy request stage ↔
      (∀ session, stage ≠ .inProgress session) ∧
        (profile.proxies.nextAddress ≤ proxy → stage = .notCreated) := by
  unfold HasStage
  rw [absent]

theorem hasStage_new : new.HasStage proxy request .notCreated := by
  refine (hasStage_of_none rfl).mpr ⟨?_, fun _ => rfl⟩
  intro session impossible
  cases impossible

theorem HasStage.startProxying {profile : ResourceContextData} {stage : RequestStage}
    (held : profile.HasStage proxy request stage) (frameTreeNodeId : Int) :
    (profile.startProxying frameTreeNodeId).1.HasStage proxy request stage := by
  have stands := startProxying_get profile frameTreeNodeId proxy
  by_cases isNew : proxy = profile.proxies.nextAddress
  · rw [if_pos isNew] at stands
    have unused : profile.proxies.get proxy = none :=
      OwnedSet.get_eq_none_of_le (Nat.le_of_eq isNew.symm)
    have fresh := ((hasStage_of_none unused).mp held).2 (Nat.le_of_eq isNew.symm)
    rw [hasStage_of_some stands, fresh]
    exact Nat.zero_le request
  · rw [if_neg isNew] at stands
    cases present : profile.proxies.get proxy with
    | some factory =>
        rw [present] at stands
        exact (hasStage_of_some stands).mpr ((hasStage_of_some present).mp held)
    | none =>
        rw [present] at stands
        have old := (hasStage_of_none present).mp held
        refine (hasStage_of_none stands).mpr ⟨old.1, ?_⟩
        intro later
        have next : (profile.startProxying frameTreeNodeId).1.proxies.nextAddress =
            profile.proxies.nextAddress + 1 := rfl
        rw [next] at later
        exact old.2 (by omega)

/-- A proxy leaves its profile when it is idle, and then no request is in progress. -/
theorem HasStage.leave {factory : WhaleProxyingURLLoaderFactory} {stage : RequestStage}
    (held : factory.HasStage request stage) (idle : factory.isIdle = true)
    {profile : ResourceContextData} (absent : profile.proxies.get proxy = none)
    (created : proxy < profile.proxies.nextAddress) :
    profile.HasStage proxy request stage := by
  refine (hasStage_of_none absent).mpr ⟨?_, fun impossible => ?_⟩
  · rintro session rfl
    have present : factory.requests.get request = some session := held
    unfold WhaleProxyingURLLoaderFactory.isIdle at idle
    rw [OwnedSet.isEmpty_eq_false_of_get present, Bool.and_false] at idle
    cases idle
  · omega

theorem filterMap_map_factory (address proxy request : Nat) (effects : List FactoryEffect) :
    (effects.map (ProfileEffect.factory address)).filterMap
        (ProfileEffect.ofRequest proxy request) =
      if address = proxy then effects.filterMap (FactoryEffect.ofRequest request) else [] := by
  rw [List.filterMap_map]
  by_cases same : address = proxy
  · have keeps : ProfileEffect.ofRequest proxy request ∘ ProfileEffect.factory address =
        FactoryEffect.ofRequest request := by
      funext effect
      simp [ProfileEffect.ofRequest, same]
    rw [keeps, if_pos same]
  · have drops : ProfileEffect.ofRequest proxy request ∘ ProfileEffect.factory address =
        fun _effect => none := by
      funext effect
      simp [ProfileEffect.ofRequest, same]
    rw [drops, List.filterMap_none, if_neg same]

/-- The profile simulates the session machine at each of its requests. -/
theorem simulates_session (platform : Platform) (proxy request : Nat) :
    EventMachine.Simulates (profileMachine platform) (sessionMachine platform)
      EventMachine.anyStep EventMachine.anyStep new
      (fun profile event => (profile.requestEvent proxy request event).toList)
      (ProfileEffect.ofRequest proxy request)
      (fun profile stage => profile.HasStage proxy request stage) := by
  constructor
  rintro before ⟨browser, event⟩ after emitted stage reached held _permitted taken
  have attached := attached_of_reachable reached
  cases event with
  | startProxying frameTreeNodeId =>
      obtain ⟨rfl, rfl⟩ := startProxying_of_taken taken
      exact ⟨stage, EventMachine.Run.nil, held.startProxying frameTreeNodeId⟩
  | proxy address event =>
      have step := proxyStep_of_taken attached taken
      obtain ⟨factory, outcome, present, handled, _settled, rfl, stored⟩ := step.handled
      rw [filterMap_map_factory]
      by_cases same : address = proxy
      · subst same
        obtain ⟨stage', run, reachedStage⟩ :=
          factory.exists_requestStep handled ((hasStage_of_some present).mp held)
        have steps : (before.requestEvent address request
            (browser, .proxy address event)).toList =
            factory.requestSteps browser request event := by
          simp only [requestEvent, if_true, present]
          rfl
        rw [steps, if_pos rfl]
        refine ⟨stage', run, ?_⟩
        cases idle : outcome.1.isIdle with
        | false =>
            rw [idle] at stored
            exact (hasStage_of_some stored).mpr reachedStage
        | true =>
            rw [idle] at stored
            refine HasStage.leave reachedStage idle stored ?_
            rw [step.nextAddress]
            exact OwnedSet.lt_of_get present
      · have steps : (before.requestEvent proxy request
            (browser, .proxy address event)).toList = [] := by
          simp [requestEvent, same]
        rw [steps, if_neg same]
        refine ⟨stage, EventMachine.Run.nil, ?_⟩
        have kept := step.others proxy fun equal => same equal.symm
        unfold HasStage at held ⊢
        rw [kept, step.nextAddress]
        exact held

end ResourceContextData

/-- The step that a step of the profile is to a request. -/
def requestStepIn (proxy request : Nat)
    (record : Record ResourceContextData (BrowserState × ProfileEvent) ProfileEffect) :
    Option (Surroundings × RequestEvent) :=
  record.before.requestEvent proxy request record.event

/-- Each request of a profile runs as if it were alone: the events that concern it, from
the call that makes it on, are a run of the session machine, in their order and with the
browser and the target factory of their time, and its effects in the profile are the
effects of that run. -/
theorem requestTrace_of_profile (platform : Platform)
    (events : List (BrowserState × ProfileEvent)) (outputs : List ProfileEffect)
    (profile : ResourceContextData)
    (run : EventMachine.Run (profileMachine platform) EventMachine.anyStep
      ResourceContextData.new events outputs profile) (proxy request : Nat) :
    ∃ records stage, EventMachine.Run (profileMachine platform).recorded EventMachine.anyStep
        ResourceContextData.new events records profile ∧
      records.flatMap Record.emitted = outputs ∧
      EventMachine.Run (sessionMachine platform) EventMachine.anyStep .notCreated
        (records.filterMap (requestStepIn proxy request))
        (outputs.filterMap (ProfileEffect.ofRequest proxy request)) stage ∧
      profile.HasStage proxy request stage := by
  obtain ⟨records, recording, rfl⟩ := run.exists_recorded
  obtain ⟨stage, sessionRun, held⟩ :=
    (ResourceContextData.simulates_session platform proxy request).run
      ResourceContextData.hasStage_new recording
  refine ⟨records, stage, recording, rfl, ?_, held⟩
  rw [List.filterMap_eq_flatMap_toList]
  exact sessionRun

namespace RequestTracesExample

def browser : BrowserState :=
  referenceBrowser .ask

def call (spec : String) : BrowserState × ProfileEvent :=
  (browser, .proxy 0 (.createLoaderAndStart 0
    { requestId := 7, options := 0, request := referenceRequest spec }))

/-- Two requests of one proxy in turns. -/
def events : List (BrowserState × ProfileEvent) :=
  [(browser, .startProxying 3), call "https://cdn.example.org/",
    call "https://cdn.example.net/",
    (browser, .proxy 0 (.request 1 (.onReceiveRedirect
      (referenceRedirect "https://cdn.example.com/") referenceHead))),
    (browser, .proxy 0 (.request 0 .clientDisconnect)),
    (browser, .proxy 0 (.request 1 (.followRedirect plainFollowUp)))]

def execution : Option (ResourceContextData × List ProfileEffect) :=
  (profileMachine referencePlatform).exec (fun _ _ => true) ResourceContextData.new events

theorem completed : execution.isSome = true := by
  decide

def result : ResourceContextData × List ProfileEffect :=
  execution.get completed

end RequestTracesExample

open RequestTracesExample in
theorem requestTrace_of_profile_example :
    ∃ records stage, EventMachine.Run (profileMachine referencePlatform).recorded
        EventMachine.anyStep ResourceContextData.new events records result.1 ∧
      records.flatMap Record.emitted = result.2 ∧
      EventMachine.Run (sessionMachine referencePlatform) EventMachine.anyStep .notCreated
        (records.filterMap (requestStepIn 0 1))
        (result.2.filterMap (ProfileEffect.ofRequest 0 1)) stage ∧
      result.1.HasStage 0 1 stage :=
  requestTrace_of_profile referencePlatform events result.2 result.1
    ((EventMachine.Run.of_exec (Option.some_get completed).symm).weaken
      fun _ _ _ => trivial) 0 1

end Whale
