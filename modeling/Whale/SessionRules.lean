/-
The rules for reasoning about sessions.

Each message has one lemma that says what it does, and `sessionInvariant` turns
a property kept by restarts, redirects and responses into one of every run.
The other messages leave a session as it is or end it.
-/
import Whale.Session

set_option autoImplicit false

namespace Whale

open Whale.Foundation
open Whale.Url (Text GURL)
open Whale.Net

/-! ### Effects of a restart -/

namespace InProgressRequest

variable {platform : Platform} {around : Surroundings} {self : InProgressRequest}

theorem mem_vettingEffects {browser : BrowserState} {effect : Effect} :
    effect ∈ self.vettingEffects platform browser ↔
      effect = .siteHacks (self.newContext platform browser) ∨
        ∃ params, effect = .handleURLParamsBlocked params ∧
          (self.vetting platform browser).blockedParams = some params := by
  unfold vettingEffects
  cases (self.vetting platform browser).blockedParams with
  | none => simp
  | some params => simp

theorem any_vettingEffects (platform : Platform) (browser : BrowserState)
    (test : Effect → Bool)
    (context : ∀ ctx, test (.siteHacks ctx) = false)
    (blocked : ∀ params, test (.handleURLParamsBlocked params) = false) :
    (self.vettingEffects platform browser).any test = false := by
  unfold vettingEffects
  cases (self.vetting platform browser).blockedParams with
  | none => simp [context]
  | some params => simp [context, blocked]

theorem observe_vettingEffects (browser : BrowserState) (network : Option NetworkLoader) :
    (self.vettingEffects platform browser).foldl (NetworkLoader.observe platform) network =
      network := by
  unfold vettingEffects
  cases (self.vetting platform browser).blockedParams <;> rfl

theorem forwardEffects_of_unbound (unbound : self.targetLoader = none) :
    self.forwardEffects = [] := by
  unfold forwardEffects
  rw [unbound]
  cases self.pendingFollowRedirectParams <;> rfl

/-- A hand-over forwards to a bound loader or starts one; it never does both. -/
theorem forwardEffects_of_startsLoader (starts : self.startsLoader around = true) :
    self.forwardEffects = [] := by
  unfold startsLoader at starts
  rw [Bool.and_eq_true, Option.isNone_iff_eq_none] at starts
  exact forwardEffects_of_unbound starts.1

theorem mem_forwardEffects {effect : Effect} :
    effect ∈ self.forwardEffects ↔
      ∃ loader params, effect = .loaderFollowRedirect loader params ∧
        self.targetLoader = some loader ∧
        self.pendingFollowRedirectParams = some params := by
  unfold forwardEffects
  cases self.pendingFollowRedirectParams with
  | none => simp
  | some params =>
      cases self.targetLoader with
      | none => simp
      | some loader =>
          simp only [List.mem_singleton, Option.some.injEq]
          constructor
          · intro same
            exact ⟨loader, params, same, rfl, rfl⟩
          · rintro ⟨_, _, same, rfl, rfl⟩
            exact same

theorem mem_startEffects {effect : Effect} :
    effect ∈ self.startEffects platform around ↔
      self.startsLoader around = true ∧
        effect = .createLoaderAndStart self.nextLoader self.networkServiceRequestId
          self.options (self.cappedRequest platform around.browser) := by
  unfold startEffects
  cases self.startsLoader around <;> simp

theorem any_handOverEffects (platform : Platform) (around : Surroundings)
    (test : Effect → Bool)
    (created : ∀ loader id options request,
      test (.createLoaderAndStart loader id options request) = false)
    (followed : ∀ loader params, test (.loaderFollowRedirect loader params) = false) :
    (self.handOverEffects platform around).any test = false := by
  unfold handOverEffects forwardEffects startEffects
  rw [List.any_append]
  cases self.pendingFollowRedirectParams <;> cases self.targetLoader <;>
    split <;> simp [created, followed]

end InProgressRequest

def Effect.isRestartEffect : Effect → Bool
  | .siteHacks _ | .handleURLParamsBlocked _ | .clientOnReceiveRedirect ..
  | .createLoaderAndStart .. | .loaderFollowRedirect .. | .targetLoaderReset => true
  | _ => false

/-! ### Restarts of a session -/

namespace Session

variable {platform : Platform} {around : Surroundings} {session : Session}

def handedOverNetwork (platform : Platform) (around : Surroundings) (session : Session) :
    Option NetworkLoader :=
  if session.request.startsLoader around then
    some (NetworkLoader.start session.request.nextLoader
      (session.request.cappedRequest platform around.browser))
  else
    match session.request.pendingFollowRedirectParams, session.request.targetLoader with
    | some params, some _ => session.network.map (NetworkLoader.follow platform params)
    | _, _ => session.network

theorem observe_handOverEffects :
    (session.request.handOverEffects platform around).foldl
        (NetworkLoader.observe platform) session.network =
      session.handedOverNetwork platform around := by
  unfold InProgressRequest.handOverEffects InProgressRequest.startEffects handedOverNetwork
  cases starts : session.request.startsLoader around with
  | true =>
      rw [InProgressRequest.forwardEffects_of_startsLoader starts]
      rfl
  | false =>
      simp only [Bool.false_eq_true, if_false, List.append_nil]
      unfold InProgressRequest.forwardEffects
      cases session.request.pendingFollowRedirectParams <;>
        cases session.request.targetLoader <;> rfl

theorem restart_internal
    (asks : session.request.asksForRedirect platform around.browser = true) :
    session.restart platform around =
      ({ session with
          request := session.request.internallyRedirected platform around.browser
          network := none
          awaiting := some .internal },
        session.request.vettingEffects platform around.browser ++
          session.request.internalRedirectEffects platform around.browser) := by
  unfold restart
  rw [InProgressRequest.restart_eq, asks]
  simp only [if_true, List.foldl_append, InProgressRequest.observe_vettingEffects,
    List.any_append]
  unfold InProgressRequest.internalRedirectEffects
  simp only [List.foldl_cons, List.foldl_nil, NetworkLoader.observe, List.any_cons,
    List.any_nil, Effect.reportsRedirect, Bool.or_true, Bool.or_false, if_true]

theorem restart_handOver
    (silent : session.request.asksForRedirect platform around.browser = false) :
    session.restart platform around =
      ({ session with
          request := session.request.handedOver platform around
          network := session.handedOverNetwork platform around
          awaiting := none },
        session.request.vettingEffects platform around.browser ++
          session.request.handOverEffects platform around) := by
  have quiet := session.request.any_vettingEffects platform around.browser
    Effect.reportsRedirect (fun _ctx => rfl) (fun _params => rfl)
  have quietHandOver := session.request.any_handOverEffects platform around
    Effect.reportsRedirect (fun _ _ _ _ => rfl) (fun _ _ => rfl)
  unfold restart
  rw [InProgressRequest.restart_eq, silent]
  simp only [Bool.false_eq_true, if_false, List.foldl_append,
    InProgressRequest.observe_vettingEffects, observe_handOverEffects, List.any_append,
    quiet, quietHandOver, Bool.or_false]

theorem restart_awaiting :
    (session.restart platform around).1.awaiting =
      if session.request.asksForRedirect platform around.browser then some .internal
      else none := by
  cases asks : session.request.asksForRedirect platform around.browser with
  | true =>
      rw [restart_internal asks]
      rfl
  | false =>
      rw [restart_handOver asks]
      rfl

theorem restart_redirectUrl_isEmpty :
    (session.restart platform around).1.request.redirectUrl.isEmpty =
      !session.request.asksForRedirect platform around.browser := by
  have answer : (session.restart platform around).1.request.redirectUrl =
      (session.request.vetting platform around.browser).newUrl := by
    cases asks : session.request.asksForRedirect platform around.browser with
    | true =>
        rw [restart_internal asks]
        rfl
    | false =>
        rw [restart_handOver asks]
        rfl
  rw [answer]
  exact (Bool.not_not _).symm

theorem siteHacks_mem_restart_iff (ctx : WhaleRequestInfo) :
    .siteHacks ctx ∈ (session.restart platform around).2 ↔
      ctx = session.request.newContext platform around.browser := by
  have inVetting : .siteHacks ctx ∈ session.request.vettingEffects platform around.browser ↔
      ctx = session.request.newContext platform around.browser := by
    rw [InProgressRequest.mem_vettingEffects]
    simp
  cases asks : session.request.asksForRedirect platform around.browser with
  | true =>
      rw [restart_internal asks, List.mem_append, inVetting]
      simp [InProgressRequest.internalRedirectEffects]
  | false =>
      rw [restart_handOver asks, List.mem_append, inVetting,
        InProgressRequest.handOverEffects, List.mem_append,
        InProgressRequest.mem_forwardEffects, InProgressRequest.mem_startEffects]
      simp

theorem isRestartEffect_of_mem {effect : Effect}
    (member : effect ∈ (session.restart platform around).2) :
    effect.isRestartEffect = true := by
  have ofVetting : effect ∈ session.request.vettingEffects platform around.browser →
      effect.isRestartEffect = true := by
    intro inVetting
    rcases InProgressRequest.mem_vettingEffects.mp inVetting with rfl | ⟨_, rfl, _⟩ <;> rfl
  cases asks : session.request.asksForRedirect platform around.browser with
  | true =>
      rw [restart_internal asks, List.mem_append] at member
      rcases member with inVetting | inRedirect
      · exact ofVetting inVetting
      · simp only [InProgressRequest.internalRedirectEffects, List.mem_cons,
          List.not_mem_nil, or_false] at inRedirect
        rcases inRedirect with rfl | rfl <;> rfl
  | false =>
      rw [restart_handOver asks, List.mem_append] at member
      rcases member with inVetting | handed
      · exact ofVetting inVetting
      · rcases List.mem_append.mp handed with forwarded | started
        · obtain ⟨_, _, rfl, _⟩ := InProgressRequest.mem_forwardEffects.mp forwarded
          rfl
        · obtain ⟨_, rfl⟩ := InProgressRequest.mem_startEffects.mp started
          rfl

end Session

/-! ### Messages of the network -/

namespace InProgressRequest

variable {platform : Platform} {browser : BrowserState} {self : InProgressRequest}

def headersContext (platform : Platform) (browser : BrowserState)
    (self : InProgressRequest) : WhaleRequestInfo :=
  if self.request.url.schemeIsHTTPOrHTTPS then
    makeCTX platform browser self.request self.frameTreeNodeId self.requestId
      (some { self.info with internalRedirect := false })
  else { self.info with internalRedirect := false }

theorem headersContext_internalRedirect :
    (self.headersContext platform browser).internalRedirect = false := by
  unfold headersContext
  split <;> rfl

theorem onReceiveResponse_eq (head : URLResponseHead) (body : Option DataPipeConsumerHandle)
    (cachedMetadata : Option BigBuffer) :
    self.onReceiveResponse platform browser head body cachedMetadata =
      ({ self with
          ctx := some (self.headersContext platform browser)
          redirectUrl := GURL.empty
          currentResponseHead := none
          currentResponseBody := none
          cachedMetadata := none },
        [.clientOnReceiveResponse (some head) body cachedMetadata]) := by
  unfold onReceiveResponse handleResponseOrRedirectHeaders continueToResponseStarted
    headersContext
  simp only [ne_eq, not_true_eq_false, if_false]
  cases self.request.url.schemeIsHTTPOrHTTPS <;> rfl

theorem onReceiveRedirect_eq (redirectInfo : RedirectInfo) (head : URLResponseHead) :
    self.onReceiveRedirect platform browser redirectInfo head =
      ({ self with
          ctx := some
            { self.headersContext platform browser with redirectSource := self.request.url }
          redirectUrl := GURL.empty
          currentResponseHead := none
          request := redirectedRequest platform self.request redirectInfo
          requestCompleted := true },
        [.clientOnReceiveRedirect redirectInfo (some head)]) := by
  unfold onReceiveRedirect handleResponseOrRedirectHeaders continueToBeforeRedirect
    headersContext
  simp only [ne_eq, not_true_eq_false, if_false]
  cases self.request.url.schemeIsHTTPOrHTTPS <;> rfl

end InProgressRequest

def RequestMessage.mayCause : RequestMessage → Effect → Bool
  | .followRedirect _, effect => effect.isRestartEffect
  | .setPriority priority intraPriorityValue, .loaderSetPriority _ priority' value' =>
      priority == priority' && intraPriorityValue == value'
  | .pauseReadingBodyFromNet, .loaderPauseReadingBodyFromNet _ => true
  | .resumeReadingBodyFromNet, .loaderResumeReadingBodyFromNet _ => true
  | .clientDisconnect, .clientOnComplete status => status == .ofError errAborted
  | .clientDisconnect, .removeRequest => true
  | .onReceiveResponse .., .clientOnReceiveResponse .. => true
  | .onReceiveRedirect .., .clientOnReceiveRedirect .. => true
  | .onUploadProgress .., .clientOnUploadProgress .. => true
  | .onTransferSizeUpdated _, .clientOnTransferSizeUpdated _ => true
  | .onComplete status, .clientOnComplete status' => status == status'
  | .onComplete _, .removeRequest => true
  | _, _ => false

def RequestMessage.endsRequest : RequestMessage → Bool
  | .clientDisconnect | .onComplete _ => true
  | _ => false

namespace Session

variable {platform : Platform} {around : Surroundings} {session : Session}

/-- An error reports the status, unless a redirect has been reported since. -/
theorem onRequestError_effects (status : URLLoaderCompletionStatus) :
    (session.request.onRequestError status).2 =
      (if session.request.requestCompleted then [] else [.clientOnComplete status]) ++
        [.removeRequest] := by
  unfold InProgressRequest.onRequestError
  cases session.request.requestCompleted <;> rfl

theorem onComplete_effects (status : URLLoaderCompletionStatus) :
    (session.request.onComplete status).2 =
      (if status.errorCode ≠ netOK ∧ session.request.requestCompleted = true then []
        else [.clientOnComplete status]) ++ [.removeRequest] := by
  unfold InProgressRequest.onComplete
  by_cases error : status.errorCode ≠ netOK
  · rw [if_pos error, onRequestError_effects]
    cases session.request.requestCompleted <;> simp [error]
  · rw [if_neg error]
    simp [error]

theorem mayCause_of_mem (message : RequestMessage) {effect : Effect}
    (member : effect ∈ (session.receive platform around message).2) :
    message.mayCause effect = true := by
  have passed {pass : Nat → Effect}
      (sent : effect ∈ (session.request.passToLoader pass).2) :
      ∃ loader, effect = pass loader := by
    obtain ⟨loader, _, rfl⟩ := List.mem_map.mp sent
    exact ⟨loader, rfl⟩
  cases message with
  | followRedirect params => exact isRestartEffect_of_mem member
  | setPriority =>
      obtain ⟨loader, rfl⟩ := passed member
      simp [RequestMessage.mayCause]
  | pauseReadingBodyFromNet =>
      obtain ⟨loader, rfl⟩ := passed member
      rfl
  | resumeReadingBodyFromNet =>
      obtain ⟨loader, rfl⟩ := passed member
      rfl
  | clientDisconnect =>
      simp only [receive, passive, InProgressRequest.onClientDisconnect,
        onRequestError_effects, List.mem_append, List.mem_singleton] at member
      rcases member with completion | rfl
      · split at completion <;> simp_all [RequestMessage.mayCause]
      · rfl
  | onReceiveEarlyHints => cases member
  | onReceiveResponse head body cachedMetadata =>
      simp only [receive, passive, InProgressRequest.onReceiveResponse_eq,
        List.mem_singleton] at member
      subst member
      rfl
  | onReceiveRedirect redirectInfo head =>
      simp only [receive, passive, InProgressRequest.onReceiveRedirect_eq,
        List.mem_singleton] at member
      subst member
      rfl
  | onUploadProgress =>
      rw [List.mem_singleton.mp member]
      rfl
  | onTransferSizeUpdated =>
      rw [List.mem_singleton.mp member]
      rfl
  | onComplete status =>
      simp only [receive, passive, onComplete_effects, List.mem_append,
        List.mem_singleton] at member
      rcases member with completion | rfl
      · split at completion <;> simp_all [RequestMessage.mayCause]
      · rfl

theorem receive_isRemoval (platform : Platform) (around : Surroundings)
    (message : RequestMessage) :
    (session.receive platform around message).2.any Effect.isRemoval =
      message.endsRequest := by
  cases ends : message.endsRequest with
  | true =>
      cases message with
      | clientDisconnect =>
          simp only [receive, passive, InProgressRequest.onClientDisconnect,
            onRequestError_effects, List.any_append]
          exact Bool.or_true _
      | onComplete status =>
          simp only [receive, passive, onComplete_effects, List.any_append]
          exact Bool.or_true _
      | _ => cases ends
  | false =>
      rw [List.any_eq_false]
      intro effect member isRemoval
      have caused := mayCause_of_mem message member
      cases effect with
      | removeRequest => cases message <;> simp_all [RequestMessage.mayCause,
          RequestMessage.endsRequest, Effect.isRestartEffect]
      | _ => cases isRemoval

def changesOnly (message : RequestMessage) : Bool :=
  match message with
  | .followRedirect _ | .onReceiveResponse .. | .onReceiveRedirect .. => true
  | _ => false

theorem receive_unchanged (message : RequestMessage) (idle : changesOnly message = false)
    (goesOn : message.endsRequest = false) :
    (session.receive platform around message).1 = session := by
  cases message with
  | followRedirect => contradiction
  | onReceiveResponse => contradiction
  | onReceiveRedirect => contradiction
  | clientDisconnect => contradiction
  | onComplete => contradiction
  | setPriority => rfl
  | pauseReadingBodyFromNet => rfl
  | resumeReadingBodyFromNet => rfl
  | onReceiveEarlyHints => rfl
  | onUploadProgress => rfl
  | onTransferSizeUpdated => rfl

end Session

/-! ### Runs -/

theorem sessionMachine_create {platform : Platform} {around : Surroundings}
    {arguments : CreateLoaderArguments}
    (deliverable : isDeliverableUrl arguments.request.url = true) :
    (sessionMachine platform).step .notCreated (around, .create arguments) =
      some (.inProgress (Session.create platform around arguments).1,
        (Session.create platform around arguments).2) := by
  have keeps : (Session.create platform around arguments).2.any Effect.isRemoval = false := by
    rw [List.any_eq_false]
    intro effect member isRemoval
    have ofRestart := Session.isRestartEffect_of_mem member
    cases effect with
    | removeRequest => cases ofRestart
    | _ => cases isRemoval
  simp only [sessionMachine, deliverable, if_true, RequestStage.ofOutcome, keeps,
    Bool.false_eq_true, if_false]

theorem sessionMachine_message (platform : Platform) (around : Surroundings)
    {session : Session} {message : RequestMessage}
    (delivered : session.delivers message = true) :
    (sessionMachine platform).step (.inProgress session) (around, .message message) =
      some
        (if message.endsRequest then .removed
          else .inProgress (session.receive platform around message).1,
        (session.receive platform around message).2) := by
  simp only [sessionMachine, delivered, if_true, RequestStage.ofOutcome,
    Session.receive_isRemoval]

def ReachableSession (platform : Platform)
    (allowed : RequestStage → Surroundings × RequestEvent → Prop) (session : Session) :
    Prop :=
  (sessionMachine platform).Reachable allowed .notCreated (.inProgress session)

section

variable {platform : Platform} {allowed : RequestStage → Surroundings × RequestEvent → Prop}

theorem reachable_create (around : Surroundings) (arguments : CreateLoaderArguments)
    (permitted : allowed .notCreated (around, .create arguments))
    (deliverable : isDeliverableUrl arguments.request.url = true) :
    ReachableSession platform allowed (Session.create platform around arguments).1 :=
  EventMachine.Reachable.refl.step permitted (sessionMachine_create deliverable)

theorem reachable_message {session : Session} (around : Surroundings)
    (message : RequestMessage) (reached : ReachableSession platform allowed session)
    (permitted : allowed (.inProgress session) (around, .message message))
    (delivered : session.delivers message = true)
    (goesOn : message.endsRequest = false) :
    ReachableSession platform allowed (session.receive platform around message).1 := by
  have taken := sessionMachine_message platform around delivered
  rw [goesOn] at taken
  exact EventMachine.Reachable.step reached permitted taken

end

theorem sessionMachine_step {platform : Platform} {before after : RequestStage}
    {around : Surroundings} {event : RequestEvent} {emitted : List Effect}
    (taken : (sessionMachine platform).step before (around, event) =
      some (after, emitted)) :
    (∃ arguments, before = .notCreated ∧ event = .create arguments ∧
        isDeliverableUrl arguments.request.url = true ∧
        after = .inProgress (Session.create platform around arguments).1 ∧
        emitted = (Session.create platform around arguments).2) ∨
      ∃ session message, before = .inProgress session ∧ event = .message message ∧
        session.delivers message = true ∧
        after =
          (if message.endsRequest then .removed
          else .inProgress (session.receive platform around message).1) ∧
        emitted = (session.receive platform around message).2 := by
  cases before with
  | notCreated =>
      cases event with
      | message => simp [sessionMachine] at taken
      | create arguments =>
          cases deliverable : isDeliverableUrl arguments.request.url with
          | false => simp [sessionMachine, deliverable] at taken
          | true =>
              rw [sessionMachine_create deliverable, Option.some.injEq,
                Prod.mk.injEq] at taken
              exact Or.inl ⟨arguments, rfl, rfl, deliverable, taken.1.symm, taken.2.symm⟩
  | inProgress session =>
      cases event with
      | create => simp [sessionMachine] at taken
      | message message =>
          cases delivered : session.delivers message with
          | false => simp [sessionMachine, delivered] at taken
          | true =>
              rw [sessionMachine_message platform around delivered, Option.some.injEq,
                Prod.mk.injEq] at taken
              exact Or.inr
                ⟨session, message, rfl, rfl, delivered, taken.1.symm, taken.2.symm⟩
  | removed => simp [sessionMachine] at taken

/-- What creations, follow-ups, redirects and responses keep holds of every
reachable session. -/
theorem sessionInvariant {platform : Platform}
    {allowed : RequestStage → Surroundings × RequestEvent → Prop} {session : Session}
    (holds : Session → Prop)
    (created : ∀ around arguments, allowed .notCreated (around, .create arguments) →
      isDeliverableUrl arguments.request.url = true →
      holds (Session.create platform around arguments).1)
    (followed : ∀ session around params, ReachableSession platform allowed session →
      holds session →
      allowed (.inProgress session) (around, .message (.followRedirect params)) →
      params.newUrl.all isDeliverableUrl = true →
      holds (session.receive platform around (.followRedirect params)).1)
    (redirected : ∀ session around redirectInfo head,
      ReachableSession platform allowed session → holds session →
      isDeliverableUrl redirectInfo.newUrl = true →
      session.request.proxiedClientReceiver.isSome = true →
      holds (session.receive platform around (.onReceiveRedirect redirectInfo head)).1)
    (answered : ∀ session around head body cachedMetadata, holds session →
      session.request.proxiedClientReceiver.isSome = true →
      holds (session.receive platform around
        (.onReceiveResponse head body cachedMetadata)).1)
    (reached : ReachableSession platform allowed session) : holds session := by
  have everywhere := reached.invariant
    (fun stage => ∀ session, stage = .inProgress session → holds session) ?_ ?_
  · exact everywhere session rfl
  · intro _session impossible
    cases impossible
  · rintro before ⟨around, event⟩ after emitted reached heldBefore permitted taken next isNext
    subst isNext
    rcases sessionMachine_step taken with
      ⟨arguments, rfl, rfl, deliverable, same, _⟩ |
        ⟨session, message, rfl, rfl, delivered, same, _⟩
    · cases same
      exact created around arguments permitted deliverable
    · have held := heldBefore session rfl
      cases ends : message.endsRequest with
      | true =>
          rw [ends] at same
          cases same
      | false =>
          rw [ends] at same
          cases same
          simp only [Session.delivers, Bool.and_eq_true] at delivered
          obtain ⟨urls, bound⟩ := delivered
          cases message with
          | followRedirect params =>
              exact followed session around params reached held permitted urls
          | onReceiveRedirect redirectInfo head =>
              exact redirected session around redirectInfo head reached held urls bound
          | onReceiveResponse head body cachedMetadata =>
              exact answered session around head body cachedMetadata held bound
          | _ =>
              rw [Session.receive_unchanged _ rfl ends]
              exact held

end Whale
