/-
What the proxy is for, without the reasons for what it does.

A relay stands between a client and its loader and keeps the request that is under way.
On a new request and on every follow-up a verdict falls: the client is to ask for another
URL, or the request goes on to the network.  What else a relay does with a message is to
pass it on, or to drop it.  The relay knows nothing of settings, tabs or contexts; every
run of a session is one of its runs, with the verdicts of the site hacks.
-/
import Whale.Foundation.Simulation
import Whale.ReferenceSession
import Whale.SessionInvariant

set_option autoImplicit false

namespace Whale

open Whale.Foundation
open Whale.Url (Text GURL)
open Whale.Net

/-! ### The relay -/

/-- What the site hacks decide on a request. -/
inductive Verdict where
  | redirect (newUrl : GURL)
  /-- The request goes on, with another referrer if one is given. -/
  | proceed (newReferrer : Option GURL)
  deriving DecidableEq, Repr

structure Relay where
  networkServiceRequestId : Int
  options : Nat
  request : ResourceRequest
  loader : Option Nat
  nextLoader : Nat
  /-- The client has been sent a redirect and has not followed it. -/
  awaiting : Bool
  deriving DecidableEq, Repr

inductive RelayStage where
  | notCreated
  | connected (relay : Relay)
  | closed
  deriving DecidableEq, Repr

/-- The events of a request.  Where a verdict falls, there may be a factory for a new
loader. -/
inductive RelayEvent where
  | create (arguments : CreateLoaderArguments) (factoryBound : Bool) (verdict : Verdict)
  | followRedirect (params : FollowRedirectParams) (factoryBound : Bool) (verdict : Verdict)
  | pass (message : RequestMessage)
  deriving DecidableEq, Repr

namespace Relay

def fresh (arguments : CreateLoaderArguments) : Relay :=
  { networkServiceRequestId := arguments.networkServiceRequestId
    options := arguments.options
    request := arguments.request
    loader := none
    nextLoader := 0
    awaiting := false }

/-- The client goes on, to another URL or with other headers if it says so. -/
def ask (relay : Relay) (params : FollowRedirectParams) : Relay :=
  { relay with
    request :=
      { relay.request with
        url := params.newUrl.getD relay.request.url
        headers := params.toHeaderUpdate.applyTo relay.request.headers } }

def redirect (platform : Platform) (relay : Relay) (newUrl : GURL) : Relay × List Effect :=
  let redirectInfo := createRedirectInfo platform relay.request newUrl
    kInternalRedirectStatusCode none
  let head : URLResponseHead :=
    { headers := internalRedirectHeaders newUrl, encodedDataLength := 0 }
  let tainted :=
    { relay.request with
      requestInitiator :=
        InProgressRequest.taintedInitiator platform relay.request newUrl }
  ({ relay with
      request := InProgressRequest.redirectedRequest platform tainted redirectInfo
      loader := none
      awaiting := true },
    [.targetLoaderReset, .clientOnReceiveRedirect redirectInfo (some head)])

def connect (relay : Relay) (factoryBound : Bool) : Relay × List Effect :=
  if factoryBound then
    ({ relay with loader := some relay.nextLoader, nextLoader := relay.nextLoader + 1 },
      [.createLoaderAndStart relay.nextLoader relay.networkServiceRequestId relay.options
        relay.request])
  else (relay, [])

/-- `params` is what the client asks a loader to follow. -/
def conclude (platform : Platform) (relay : Relay) (params : Option FollowRedirectParams)
    (factoryBound : Bool) : Verdict → Relay × List Effect
  | .redirect newUrl => relay.redirect platform newUrl
  | .proceed newReferrer =>
      let answered :=
        { relay with
          request :=
            { relay.request with referrer := newReferrer.getD relay.request.referrer }
          awaiting := false }
      match relay.loader with
      | some loader => (answered, params.toList.map (.loaderFollowRedirect loader))
      | none => answered.connect factoryBound

theorem conclude_of_bound (platform : Platform) (relay : Relay) {loader : Nat}
    (bound : relay.loader = some loader) (params : Option FollowRedirectParams)
    (factoryBound : Bool) (newReferrer : Option GURL) :
    relay.conclude platform params factoryBound (.proceed newReferrer) =
      ({ relay with
          request :=
            { relay.request with referrer := newReferrer.getD relay.request.referrer }
          awaiting := false },
        params.toList.map (.loaderFollowRedirect loader)) := by
  unfold conclude
  rw [bound]

theorem conclude_of_unbound (platform : Platform) (relay : Relay)
    (unbound : relay.loader = none) (params : Option FollowRedirectParams)
    (factoryBound : Bool) (newReferrer : Option GURL) :
    relay.conclude platform params factoryBound (.proceed newReferrer) =
      ({ relay with
          request :=
            { relay.request with referrer := newReferrer.getD relay.request.referrer }
          awaiting := false } : Relay).connect factoryBound := by
  unfold conclude
  rw [unbound]

/-- What crosses the relay on a message.  Early hints are dropped, and so is what a client
tells a loader while there is none.  A client that leaves and a loader that fails are
answered by a completion, unless the client has a redirect to follow. -/
def pass (relay : Relay) : RequestMessage → List Effect
  | .followRedirect _ => []
  | .setPriority priority intraPriorityValue =>
      relay.loader.toList.map fun loader =>
        .loaderSetPriority loader priority intraPriorityValue
  | .pauseReadingBodyFromNet => relay.loader.toList.map .loaderPauseReadingBodyFromNet
  | .resumeReadingBodyFromNet => relay.loader.toList.map .loaderResumeReadingBodyFromNet
  | .clientDisconnect =>
      if relay.awaiting then [] else [.clientOnComplete (.ofError errAborted)]
  | .onReceiveEarlyHints => []
  | .onReceiveResponse head body cachedMetadata =>
      [.clientOnReceiveResponse (some head) body cachedMetadata]
  | .onReceiveRedirect redirectInfo head =>
      [.clientOnReceiveRedirect redirectInfo (some head)]
  | .onUploadProgress currentPosition totalSize =>
      [.clientOnUploadProgress currentPosition totalSize]
  | .onTransferSizeUpdated transferSizeDiff =>
      [.clientOnTransferSizeUpdated transferSizeDiff]
  | .onComplete status =>
      if status.errorCode ≠ netOK ∧ relay.awaiting = true then []
      else [.clientOnComplete status]

theorem pass_clientDisconnect (relay : Relay) :
    relay.pass .clientDisconnect =
      if relay.awaiting then [] else [.clientOnComplete (.ofError errAborted)] := rfl

theorem pass_onComplete (relay : Relay) (status : URLLoaderCompletionStatus) :
    relay.pass (.onComplete status) =
      if status.errorCode ≠ netOK ∧ relay.awaiting = true then []
      else [.clientOnComplete status] := rfl

def afterPass (platform : Platform) (relay : Relay) : RequestMessage → Relay
  | .onReceiveRedirect redirectInfo _ =>
      { relay with
        request := InProgressRequest.redirectedRequest platform relay.request redirectInfo
        awaiting := true }
  | _ => relay

def passes (relay : Relay) (message : RequestMessage) : Bool :=
  match message with
  | .followRedirect _ => false
  | _ => !message.isFromNetwork || relay.loader.isSome

end Relay

def relayMachine (platform : Platform) : EventMachine RelayStage RelayEvent Effect :=
  { step := fun stage event =>
      match stage, event with
      | .notCreated, .create arguments factoryBound verdict =>
          let concluded := (Relay.fresh arguments).conclude platform none factoryBound verdict
          some (.connected concluded.1, concluded.2)
      | .connected relay, .followRedirect params factoryBound verdict =>
          let concluded :=
            (relay.ask params).conclude platform (some params) factoryBound verdict
          some (.connected concluded.1, concluded.2)
      | .connected relay, .pass message =>
          if relay.passes message then
            some
              (if message.endsRequest then .closed
                else .connected (relay.afterPass platform message),
                relay.pass message)
          else none
      | _, _ => none }

/-! ### A session as a relay -/

/-- The effects that reach the client or the network. -/
def Effect.crossing : Effect → Option Effect
  | .siteHacks _ => none
  | .handleURLParamsBlocked _ => none
  | .removeRequest => none
  | effect => some effect

def Session.relay (session : Session) : Relay :=
  { networkServiceRequestId := session.request.networkServiceRequestId
    options := session.request.options
    request := session.request.request
    loader := session.request.targetLoader
    nextLoader := session.request.nextLoader
    awaiting := session.awaiting.isSome }

def RequestStage.relay : RequestStage → RelayStage
  | .notCreated => .notCreated
  | .inProgress session => .connected session.relay
  | .removed => .closed

/-- The verdict of the site hacks on a request that restarts. -/
def InProgressRequest.verdict (platform : Platform) (browser : BrowserState)
    (self : InProgressRequest) : Verdict :=
  if self.asksForRedirect platform browser then
    .redirect (self.vetting platform browser).newUrl
  else .proceed (self.vetting platform browser).ctx.newReferrer

/-- An event of a request as the relay has it, with the verdict that falls on it. -/
def RequestStage.relayEvent (platform : Platform) (stage : RequestStage) :
    Surroundings × RequestEvent → RelayEvent
  | (around, .create arguments) =>
      .create arguments around.targetFactoryBound
        ((Session.fresh arguments).request.verdict platform around.browser)
  | (around, .message (.followRedirect params)) =>
      .followRedirect params around.targetFactoryBound
        (match stage with
        | .inProgress session =>
            (session.prepare params).request.verdict platform around.browser
        | _ => .proceed none)
  | (_, .message message) => .pass message

namespace Session

variable (platform : Platform) (around : Surroundings) {session : Session}

theorem relay_awaiting : session.relay.awaiting = session.awaiting.isSome := rfl

theorem crossing_vettingEffects (browser : BrowserState) :
    (session.request.vettingEffects platform browser).filterMap Effect.crossing = [] := by
  rw [List.filterMap_eq_nil_iff]
  intro effect member
  rcases InProgressRequest.mem_vettingEffects.mp member with rfl | ⟨params, rfl, _⟩
  · rfl
  · rfl

/-- A restart does what the verdict says, provided that the saved parameters are
those of the client. -/
theorem restart_relay (params : Option FollowRedirectParams)
    (saved : session.request.targetLoader.isSome = true →
      session.request.pendingFollowRedirectParams = params) :
    (session.restart platform around).1.relay =
        (session.relay.conclude platform params around.targetFactoryBound
          (session.request.verdict platform around.browser)).1 ∧
      (session.restart platform around).2.filterMap Effect.crossing =
        (session.relay.conclude platform params around.targetFactoryBound
          (session.request.verdict platform around.browser)).2 := by
  unfold InProgressRequest.verdict
  cases asks : session.request.asksForRedirect platform around.browser with
  | true =>
      rw [restart_internal asks]
      constructor
      · rfl
      · rw [List.filterMap_append, crossing_vettingEffects platform]
        rfl
  | false =>
      rw [restart_handOver asks]
      simp only [Bool.false_eq_true, if_false, List.filterMap_append,
        crossing_vettingEffects platform, List.nil_append]
      unfold InProgressRequest.handOverEffects InProgressRequest.startEffects relay
      cases bound : session.request.targetLoader with
      | some loader =>
          have kept := saved (by rw [bound]; rfl)
          have starts : session.request.startsLoader around = false := by
            rw [InProgressRequest.startsLoader, bound]
            rfl
          rw [Relay.conclude_of_bound platform _ rfl]
          simp only [InProgressRequest.handedOver, InProgressRequest.forwardEffects, starts,
            bound, kept, Bool.false_eq_true, if_false, List.append_nil]
          refine ⟨rfl, ?_⟩
          cases params <;> rfl
      | none =>
          have starts : session.request.startsLoader around = around.targetFactoryBound := by
            rw [InProgressRequest.startsLoader, bound]
            rfl
          rw [Relay.conclude_of_unbound platform _ rfl,
            InProgressRequest.forwardEffects_of_unbound bound]
          simp only [InProgressRequest.handedOver, starts, bound]
          cases around.targetFactoryBound with
          | true => exact ⟨rfl, rfl⟩
          | false => exact ⟨rfl, rfl⟩

theorem followRedirect_relay (params : FollowRedirectParams) :
    (session.receive platform around (.followRedirect params)).1.relay =
        ((session.relay.ask params).conclude platform (some params)
          around.targetFactoryBound
          ((session.prepare params).request.verdict platform around.browser)).1 ∧
      (session.receive platform around (.followRedirect params)).2.filterMap
          Effect.crossing =
        ((session.relay.ask params).conclude platform (some params)
          around.targetFactoryBound
          ((session.prepare params).request.verdict platform around.browser)).2 := by
  refine (session.prepare params).restart_relay platform around (some params) ?_
  intro bound
  have held : session.request.targetLoader.isSome = true := bound
  change (if session.request.targetLoader.isSome then some params
    else session.request.pendingFollowRedirectParams) = some params
  rw [if_pos held]

/-- Every other message crosses as the relay has it. -/
theorem receive_relay (aligned : Aligned session) (message : RequestMessage)
    (other : ∀ params, message ≠ .followRedirect params) :
    (session.receive platform around message).1.relay =
        session.relay.afterPass platform message ∧
      (session.receive platform around message).2.filterMap Effect.crossing =
        session.relay.pass message := by
  have passed (pass : Nat → Effect) (crosses : ∀ loader, (pass loader).crossing =
      some (pass loader)) :
      (session.request.passToLoader pass).2.filterMap Effect.crossing =
        session.request.targetLoader.toList.map pass := by
    unfold InProgressRequest.passToLoader
    cases session.request.targetLoader with
    | none => rfl
    | some loader => simp [crosses]
  cases message with
  | followRedirect params => exact absurd rfl (other params)
  | setPriority => exact ⟨rfl, passed _ fun _loader => rfl⟩
  | pauseReadingBodyFromNet => exact ⟨rfl, passed _ fun _loader => rfl⟩
  | resumeReadingBodyFromNet => exact ⟨rfl, passed _ fun _loader => rfl⟩
  | clientDisconnect =>
      simp only [receive, passive, InProgressRequest.onClientDisconnect,
        onRequestError_effects, aligned.completed]
      constructor
      · unfold InProgressRequest.onRequestError relay
        split <;> rfl
      · rw [Relay.pass_clientDisconnect, relay_awaiting]
        split
        · rfl
        · rfl
  | onReceiveEarlyHints => exact ⟨rfl, rfl⟩
  | onReceiveResponse head body cachedMetadata =>
      simp only [receive, passive, InProgressRequest.onReceiveResponse_eq]
      exact ⟨rfl, rfl⟩
  | onReceiveRedirect redirectInfo head =>
      simp only [receive, passive, InProgressRequest.onReceiveRedirect_eq]
      exact ⟨rfl, rfl⟩
  | onUploadProgress => exact ⟨rfl, rfl⟩
  | onTransferSizeUpdated => exact ⟨rfl, rfl⟩
  | onComplete status =>
      simp only [receive, passive, onComplete_effects, aligned.completed]
      constructor
      · unfold InProgressRequest.onComplete InProgressRequest.onRequestError relay
        split
        · split <;> rfl
        · rfl
      · rw [Relay.pass_onComplete, relay_awaiting]
        split
        · rfl
        · rfl

end Session

/-! ### The refinement -/

/-- A step of a session is the step of its relay. -/
theorem relayMachine_step {platform : Platform} {before after : RequestStage}
    {event : Surroundings × RequestEvent} {emitted : List Effect}
    (aligned : ∀ session, before = .inProgress session → session.Aligned)
    (taken : (sessionMachine platform).step before event = some (after, emitted)) :
    (relayMachine platform).step before.relay (before.relayEvent platform event) =
      some (after.relay, emitted.filterMap Effect.crossing) := by
  obtain ⟨around, event⟩ := event
  rcases sessionMachine_step taken with
    ⟨arguments, rfl, rfl, _, rfl, rfl⟩ | ⟨session, message, rfl, rfl, delivered, rfl, rfl⟩
  · have concluded := (Session.fresh arguments).restart_relay platform around none
      fun _bound => rfl
    simp only [relayMachine, RequestStage.relay, RequestStage.relayEvent]
    have fresh : (Session.fresh arguments).relay = Relay.fresh arguments := rfl
    rw [fresh] at concluded
    unfold Session.create
    rw [concluded.1, concluded.2]
  · have held := aligned session rfl
    simp only [Session.delivers, Bool.and_eq_true] at delivered
    by_cases follows : ∃ params, message = .followRedirect params
    · obtain ⟨params, rfl⟩ := follows
      have concluded := session.followRedirect_relay platform around params
      simp only [relayMachine, RequestStage.relay, RequestStage.relayEvent,
        RequestMessage.endsRequest, Bool.false_eq_true, if_false]
      rw [concluded.1, concluded.2]
    · have other : ∀ params, message ≠ .followRedirect params :=
        fun params same => follows ⟨params, same⟩
      have received := session.receive_relay platform around held message other
      have passing : (RequestStage.inProgress session).relayEvent platform
          (around, .message message) = .pass message := by
        cases message with
        | followRedirect params => exact absurd rfl (other params)
        | _ => rfl
      have passes : session.relay.passes message = true := by
        have bound := delivered.2
        rw [held.receiver] at bound
        cases message with
        | followRedirect params => exact absurd rfl (other params)
        | _ => exact bound
      rw [passing]
      simp only [relayMachine, RequestStage.relay, passes, if_true]
      rw [received.2]
      cases message.endsRequest with
      | true => rfl
      | false =>
          simp only [Bool.false_eq_true, if_false]
          rw [received.1]

theorem aligned_of_reachable_stage {platform : Platform}
    {allowed : RequestStage → Surroundings × RequestEvent → Prop} {stage : RequestStage}
    (reached : (sessionMachine platform).Reachable allowed .notCreated stage) :
    ∀ session, stage = .inProgress session → session.Aligned := by
  rintro session rfl
  exact Session.aligned_of_reachable reached

theorem simulates_relay (platform : Platform) :
    EventMachine.Simulates (sessionMachine platform) (relayMachine platform)
      EventMachine.anyStep EventMachine.anyStep .notCreated
      (fun stage event => [stage.relayEvent platform event]) Effect.crossing
      (fun stage relayStage => relayStage = stage.relay) := by
  constructor
  rintro before event after emitted _ reached rfl _permitted taken
  exact ⟨after.relay,
    EventMachine.Run.single trivial
      (relayMachine_step (aligned_of_reachable_stage reached) taken), rfl⟩

/-- The event of the relay at a step of a session. -/
def relayEventIn (platform : Platform)
    (record : Record RequestStage (Surroundings × RequestEvent) Effect) : RelayEvent :=
  record.before.relayEvent platform record.event

/-- Every run of a session is the run of the relay on the same events, with the verdicts
of the site hacks on the requests of that run: what the client and the network are sent
is what the relay sends them. -/
theorem relay_of_run (platform : Platform) (events : List (Surroundings × RequestEvent))
    (outputs : List Effect) (stage : RequestStage)
    (run : EventMachine.Run (sessionMachine platform) EventMachine.anyStep .notCreated
      events outputs stage) :
    ∃ records, EventMachine.Run (sessionMachine platform).recorded EventMachine.anyStep
        .notCreated events records stage ∧
      records.flatMap Record.emitted = outputs ∧
      EventMachine.Run (relayMachine platform) EventMachine.anyStep .notCreated
        (records.map (relayEventIn platform)) (outputs.filterMap Effect.crossing)
        stage.relay := by
  obtain ⟨records, recording, rfl⟩ := run.exists_recorded
  obtain ⟨final, relayRun, rfl⟩ := (simulates_relay platform).run rfl recording
  refine ⟨records, recording, rfl, ?_⟩
  rw [List.map_eq_flatMap]
  exact relayRun

namespace RelayExample

def around : Surroundings :=
  referenceSurroundings .ask true

/-- An internal redirect, a new loader, and a response. -/
def events : List (Surroundings × RequestEvent) :=
  [(around, .create (referenceArguments
      (referenceRequest "https://cdn.example.org/?fbclid=1"))),
    (around, .message (.followRedirect plainFollowUp)),
    (around, .message .onReceiveEarlyHints),
    (around, .message (.onReceiveResponse referenceHead none none))]

def execution : Option (RequestStage × List Effect) :=
  (sessionMachine referencePlatform).exec (fun _ _ => true) .notCreated events

theorem completed : execution.isSome = true := by
  decide

def result : RequestStage × List Effect :=
  execution.get completed

theorem result_run :
    EventMachine.Run (sessionMachine referencePlatform) EventMachine.anyStep .notCreated
      events result.2 result.1 :=
  (EventMachine.Run.of_exec (Option.some_get completed).symm).weaken fun _ _ _ => trivial

end RelayExample

open RelayExample in
theorem relay_of_run_example :
    ∃ records, EventMachine.Run (sessionMachine referencePlatform).recorded
        EventMachine.anyStep .notCreated events records result.1 ∧
      records.flatMap Record.emitted = result.2 ∧
      EventMachine.Run (relayMachine referencePlatform) EventMachine.anyStep .notCreated
        (records.map (relayEventIn referencePlatform))
        (result.2.filterMap Effect.crossing) result.1.relay :=
  relay_of_run referencePlatform events result.2 result.1 result_run

end Whale
