/-
No URL reaches the network unvetted.

In runs in which the client follows each reported redirect once, and the
network reports no second redirect before that, every URL that is handed over is
the URL of the request at that step, and it has just passed the filter or is
exempt from it.
-/
import Whale.SessionInvariant
import Whale.ReferenceSession

set_option autoImplicit false

namespace Whale

open Whale.Foundation
open Whale.Url (Text GURL)
open Whale.Net

/-- One `FollowRedirect` for each reported redirect, in turns. -/
def disciplined : RequestStage → Surroundings × RequestEvent → Prop
  | .inProgress session, (_, .message (.followRedirect _)) => session.awaiting.isSome = true
  | .inProgress session, (_, .message (.onReceiveRedirect ..)) =>
      session.awaiting.isNone = true
  | _, _ => True

def RequestStage.network : RequestStage → Option NetworkLoader
  | .inProgress session => session.network
  | _ => none

/-- The URL that the network fetches on a hand-over. -/
def Effect.handedUrl (network : Option NetworkLoader) : Effect → Option GURL
  | .createLoaderAndStart _ _ _ request => some request.url
  | .loaderFollowRedirect _ params =>
      params.newUrl.or
        (network.bind fun loader => loader.reportedRedirect.map RedirectInfo.newUrl)
  | _ => none

namespace InProgressRequest

variable {platform : Platform} {around : Surroundings} {self : InProgressRequest}

theorem vetted_of_silent (desktop : platform.isAndroid = false)
    (reparses : platform.ReparsesCanonicalSpecs) (browser : BrowserState)
    (deliverable : isDeliverableUrl self.request.url = true)
    (source : self.info.internalRedirect = true →
      self.info.redirectSource = GURL.empty)
    (silent : self.asksForRedirect platform browser = false) :
    isExempt platform (self.newContext platform browser) = true ∨
      (applyQueryFilter platform self.request.url []).1 = none := by
  rw [asksForRedirect_eq reparses deliverable, Option.isSome_eq_false_iff,
    Option.isNone_iff_eq_none] at silent
  unfold filterOutcome at silent
  rw [desktop, meetsInternalRedirectExit_newContext platform browser source, Bool.false_or,
    Bool.or_false] at silent
  cases exempt : isExempt platform (self.newContext platform browser) with
  | true => exact Or.inl rfl
  | false =>
      rw [exempt] at silent
      exact Or.inr silent

end InProgressRequest

namespace Session

variable {platform : Platform} {around : Surroundings} {session : Session}

/-- A redirect of the network that waits for the client leads to the URL of the
request. -/
def Followable (session : Session) : Prop :=
  session.awaiting = some .server →
    ∃ loader redirectInfo, session.network = some loader ∧
      loader.reportedRedirect = some redirectInfo ∧
      redirectInfo.newUrl = session.request.request.url

theorem Followable.restart : Followable (session.restart platform around).1 := by
  intro waiting
  rw [restart_awaiting] at waiting
  split at waiting <;> cases waiting

theorem Aligned.exists_network (aligned : Aligned session)
    (bound : session.request.targetLoader.isSome = true) :
    ∃ loader, session.network = some loader := by
  rw [← aligned.network, Option.isSome_map] at bound
  exact Option.isSome_iff_exists.mp bound

theorem Followable.onReceiveRedirect (aligned : Aligned session)
    (redirectInfo : RedirectInfo) (head : URLResponseHead)
    (bound : session.request.proxiedClientReceiver.isSome = true) :
    Followable
      (session.receive platform around (.onReceiveRedirect redirectInfo head)).1 := by
  rw [aligned.receiver] at bound
  obtain ⟨loader, present⟩ := aligned.exists_network bound
  intro _waiting
  refine ⟨loader.report redirectInfo, redirectInfo, ?_, rfl, ?_⟩
  · simp only [receive, passive, present, Option.map_some]
  · simp only [receive, passive, InProgressRequest.onReceiveRedirect_eq]
    rfl

theorem followable_of_reachable
    {allowed : RequestStage → Surroundings × RequestEvent → Prop}
    (reached : ReachableSession platform allowed session) : Followable session :=
  sessionInvariant Followable
    (fun _around _arguments _permitted _urls => Followable.restart)
    (fun _session _around _params _reached _followable _permitted _urls => Followable.restart)
    (fun _session _around redirectInfo head reached _followable _urls bound =>
      Followable.onReceiveRedirect (aligned_of_reachable reached) redirectInfo head bound)
    (fun _session _around head body cachedMetadata followable _bound => by
      simp only [receive, passive, InProgressRequest.onReceiveResponse_eq]
      exact followable)
    reached

theorem mem_restart_handsOver {effect : Effect}
    (member : effect ∈ (session.restart platform around).2)
    (hands : effect.handsOver = true) :
    session.request.asksForRedirect platform around.browser = false ∧
      effect ∈ session.request.handOverEffects platform around := by
  have notVetting : effect ∉ session.request.vettingEffects platform around.browser := by
    intro inVetting
    rcases InProgressRequest.mem_vettingEffects.mp inVetting with rfl | ⟨_, rfl, _⟩
    · cases hands
    · cases hands
  cases asks : session.request.asksForRedirect platform around.browser with
  | true =>
      rw [restart_internal asks] at member
      have inRedirect := (List.mem_append.mp member).resolve_left notVetting
      simp only [InProgressRequest.internalRedirectEffects, List.mem_cons,
        List.not_mem_nil, or_false] at inRedirect
      rcases inRedirect with rfl | rfl
      · cases hands
      · cases hands
  | false =>
      rw [restart_handOver asks] at member
      exact ⟨rfl, (List.mem_append.mp member).resolve_left notVetting⟩

theorem restart_handedOver (desktop : platform.isAndroid = false)
    (reparses : platform.ReparsesCanonicalSpecs) (network : Option NetworkLoader)
    (aligned : Aligned session)
    (deliverable : isDeliverableUrl session.request.request.url = true)
    (leads : ∀ loader params, session.request.targetLoader = some loader →
      session.request.pendingFollowRedirectParams = some params →
      (Effect.loaderFollowRedirect loader params).handedUrl network =
        some session.request.request.url)
    {effect : Effect} (member : effect ∈ (session.restart platform around).2)
    (hands : effect.handsOver = true) :
    effect.handedUrl network =
        some (session.restart platform around).1.request.request.url ∧
      ∃ ctx, (∀ other, .siteHacks other ∈ (session.restart platform around).2 ↔
          other = ctx) ∧
        ctx.requestUrl = (session.restart platform around).1.request.request.url ∧
        (isExempt platform ctx = true ∨
          (applyQueryFilter platform ctx.requestUrl []).1 = none) := by
  obtain ⟨silent, handed⟩ := mem_restart_handsOver member hands
  have sameUrl : (session.restart platform around).1.request.request.url =
      session.request.request.url := by
    rw [restart_handOver silent]
    rfl
  rw [sameUrl]
  constructor
  · rcases List.mem_append.mp handed with forwarded | started
    · obtain ⟨loader, params, rfl, bound, pending⟩ :=
        InProgressRequest.mem_forwardEffects.mp forwarded
      exact leads loader params bound pending
    · obtain ⟨_, rfl⟩ := InProgressRequest.mem_startEffects.mp started
      rfl
  · exact ⟨session.request.newContext platform around.browser,
      fun other => siteHacks_mem_restart_iff other, rfl,
      InProgressRequest.vetted_of_silent desktop reparses around.browser deliverable
        aligned.source silent⟩

theorem exists_followRedirect_of_handsOver {message : RequestMessage} {effect : Effect}
    (member : effect ∈ (session.receive platform around message).2)
    (hands : effect.handsOver = true) : ∃ params, message = .followRedirect params := by
  have caused := mayCause_of_mem message member
  cases effect with
  | createLoaderAndStart | loaderFollowRedirect =>
      cases message with
      | followRedirect params => exact ⟨params, rfl⟩
      | _ => cases caused
  | _ => cases hands

end Session

/-- Whatever order the messages of both sides arrive in: a URL that is handed to
the network is the URL of the request at that step, and the context built in
that step is exempt or the filter has nothing to remove from it. -/
theorem handedUrl_vetted (platform : Platform) (desktop : platform.isAndroid = false)
    (reparses : platform.ReparsesCanonicalSpecs)
    (redirects : platform.RedirectsToLocation)
    (before after : RequestStage) (event : Surroundings × RequestEvent)
    (emitted : List Effect)
    (reached : (sessionMachine platform).Reachable disciplined .notCreated before)
    (permitted : disciplined before event)
    (taken : (sessionMachine platform).step before event = some (after, emitted))
    (effect : Effect) (member : effect ∈ emitted) (hands : effect.handsOver = true) :
    ∃ session, after = .inProgress session ∧
      effect.handedUrl before.network = some session.request.request.url ∧
      ∃ ctx, (∀ other, .siteHacks other ∈ emitted ↔ other = ctx) ∧
        ctx.requestUrl = session.request.request.url ∧
        (isExempt platform ctx = true ∨
          (applyQueryFilter platform ctx.requestUrl []).1 = none) := by
  obtain ⟨around, event⟩ := event
  rcases sessionMachine_step taken with
    ⟨arguments, rfl, rfl, deliverable, rfl, rfl⟩ | ⟨session, message, rfl, rfl, delivered, rfl, rfl⟩
  · refine ⟨_, rfl, ?_⟩
    refine (Session.fresh arguments).restart_handedOver desktop reparses none
      (Session.Aligned.fresh arguments) deliverable ?_ member hands
    intro loader params bound
    cases bound
  · have aligned := Session.aligned_of_reachable reached
    have vetted := Session.vetted_of_reachable reparses redirects reached
    have followable := Session.followable_of_reachable reached
    obtain ⟨params, rfl⟩ := Session.exists_followRedirect_of_handsOver member hands
    simp only [Session.delivers, Bool.and_eq_true] at delivered
    refine ⟨_, rfl, ?_⟩
    refine (session.prepare params).restart_handedOver desktop reparses session.network
      (aligned.prepare params) (vetted.prepare params delivered.1) ?_ member hands
    -- Only a redirect of the network leaves the loader bound.
    intro loader saved bound pending
    have loaderBound : session.request.targetLoader = some loader := bound
    obtain ⟨kind, waiting⟩ := Option.isSome_iff_exists.mp permitted
    cases kind with
    | internal =>
        have unbound := (aligned.internal waiting).1
        rw [loaderBound] at unbound
        contradiction
    | server =>
        obtain ⟨networkLoader, redirectInfo, present, reported, leads⟩ :=
          followable waiting
        simp only [Session.prepare, InProgressRequest.receiveFollowRedirect, loaderBound,
          Option.isSome_some, if_true, Option.some.injEq] at pending
        subst saved
        change params.newUrl.or _ = some (params.newUrl.getD session.request.request.url)
        rw [present, ← leads]
        cases params.newUrl with
        | none => simp [reported]
        | some newUrl => rfl

namespace HandOverExample

def around : Surroundings :=
  referenceSurroundings .ask true

def started : Session :=
  (Session.create referencePlatform around
    (referenceArguments (referenceRequest "https://cdn.example.org/"))).1

def redirected : Session :=
  (started.receive referencePlatform around
    (.onReceiveRedirect (referenceRedirect "https://cdn.example.net/?id=1") referenceHead)).1

def followed : Session × List Effect :=
  redirected.receive referencePlatform around (.followRedirect plainFollowUp)

theorem redirected_reachable :
    ReachableSession referencePlatform disciplined redirected :=
  reachable_message around
    (.onReceiveRedirect (referenceRedirect "https://cdn.example.net/?id=1") referenceHead)
    (reachable_create around
      (referenceArguments (referenceRequest "https://cdn.example.org/")) trivial (by decide))
    (show started.awaiting.isNone = true by decide) (by decide) rfl

end HandOverExample

open HandOverExample in
/-- A redirect of the network, followed by the client. -/
theorem handedUrl_vetted_example :
    ∃ session, RequestStage.inProgress followed.1 = .inProgress session ∧
      (Effect.loaderFollowRedirect 0 plainFollowUp).handedUrl redirected.network =
        some session.request.request.url ∧
      ∃ ctx, (∀ other, .siteHacks other ∈ followed.2 ↔ other = ctx) ∧
        ctx.requestUrl = session.request.request.url ∧
        (isExempt referencePlatform ctx = true ∨
          (applyQueryFilter referencePlatform ctx.requestUrl []).1 = none) :=
  handedUrl_vetted referencePlatform rfl referencePlatform_reparses
    referencePlatform_redirects (.inProgress redirected) _
    (around, .message (.followRedirect plainFollowUp)) _ redirected_reachable
    (show redirected.awaiting.isSome = true by decide)
    (sessionMachine_message _ _ (by decide))
    (.loaderFollowRedirect 0 plainFollowUp) (by decide) rfl

end Whale
