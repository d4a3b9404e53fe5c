/-
Header updates across redirects.

Ordinary headers are kept twice, in the request and by the loader, and the two
copies agree, so a loader that is created after an internal redirect recovers
them from the request.  CORS-exempt headers are only forwarded: the request keeps
those it was created with.
-/
import Whale.SessionInvariant
import Whale.ReferenceSession

set_option autoImplicit false

namespace Whale

open Whale.Foundation
open Whale.Url (Text GURL)
open Whale.Net

/-- When a `FollowRedirect` makes the proxy create a loader, all updates together
leave the CORS-exempt headers of the original request as they are. -/
def recoversCorsExempt (platform : Platform) :
    RequestStage → Surroundings × RequestEvent → Prop
  | .inProgress session, (around, .message (.followRedirect params)) =>
      session.request.targetLoader = none → around.targetFactoryBound = true →
      (session.prepare params).request.asksForRedirect platform around.browser = false →
        HeaderUpdate.applyAllCorsExempt (session.updates ++ [params.toHeaderUpdate])
            session.original.corsExemptHeaders =
          session.original.corsExemptHeaders
  | _, _ => True

namespace Session

variable {platform : Platform} {around : Surroundings} {session : Session}

structure HeadersKept (session : Session) : Prop where
  request : session.request.request.headers =
    HeaderUpdate.applyAll session.updates session.original.headers
  network : ∀ loader, session.network = some loader →
    loader.headers = session.request.request.headers
  /-- The request does not take part in CORS-exempt updates. -/
  corsExempt : session.request.request.corsExemptHeaders =
    session.original.corsExemptHeaders

def CorsExemptKept (session : Session) : Prop :=
  ∀ loader, session.network = some loader →
    loader.corsExemptHeaders =
      HeaderUpdate.applyAllCorsExempt session.updates session.original.corsExemptHeaders

theorem restart_headers (platform : Platform) (around : Surroundings) :
    (session.restart platform around).1.request.request.headers =
        session.request.request.headers ∧
      (session.restart platform around).1.request.request.corsExemptHeaders =
        session.request.request.corsExemptHeaders ∧
      (session.restart platform around).1.updates = session.updates ∧
      (session.restart platform around).1.original = session.original := by
  cases asks : session.request.asksForRedirect platform around.browser with
  | true =>
      rw [restart_internal asks]
      exact ⟨rfl, rfl, rfl, rfl⟩
  | false =>
      rw [restart_handOver asks]
      exact ⟨rfl, rfl, rfl, rfl⟩

namespace HeadersKept

theorem create (arguments : CreateLoaderArguments) :
    HeadersKept (Session.create platform around arguments).1 := by
  obtain ⟨headers, corsExempt, updates, original⟩ :=
    (Session.fresh arguments).restart_headers platform around
  unfold Session.create
  constructor
  · rw [headers, updates, original]
    rfl
  · intro loader executing
    rw [headers]
    rw [Aligned.created_loader executing]
    rfl
  · rw [corsExempt, original]
    rfl

theorem followRedirect (aligned : Aligned session) (kept : HeadersKept session)
    (params : FollowRedirectParams) :
    HeadersKept ((session.prepare params).restart platform around).1 := by
  obtain ⟨headers, corsExempt, updates, original⟩ :=
    (session.prepare params).restart_headers platform around
  constructor
  · rw [headers, updates, original]
    change params.toHeaderUpdate.applyTo session.request.request.headers =
      HeaderUpdate.applyAll (session.updates ++ [params.toHeaderUpdate])
        session.original.headers
    rw [HeaderUpdate.applyAll_concat, kept.request]
  · intro loader executing
    rw [headers]
    rcases (aligned.followed_loader executing).2 with
      ⟨before, present, rfl⟩ | ⟨_, _, rfl⟩
    · change params.toHeaderUpdate.applyTo before.headers =
        params.toHeaderUpdate.applyTo session.request.request.headers
      rw [kept.network before present]
    · rfl
  · rw [corsExempt, original]
    exact kept.corsExempt

theorem onReceiveRedirect (kept : HeadersKept session) (redirectInfo : RedirectInfo)
    (head : URLResponseHead) :
    HeadersKept
      (session.receive platform around (.onReceiveRedirect redirectInfo head)).1 := by
  simp only [receive, passive, InProgressRequest.onReceiveRedirect_eq]
  refine { request := kept.request, network := ?_, corsExempt := kept.corsExempt }
  intro loader executing
  obtain ⟨before, present, rfl⟩ := Option.map_eq_some_iff.mp executing
  exact kept.network before present

theorem onReceiveResponse (kept : HeadersKept session) (head : URLResponseHead)
    (body : Option DataPipeConsumerHandle) (cachedMetadata : Option BigBuffer) :
    HeadersKept (session.receive platform around
      (.onReceiveResponse head body cachedMetadata)).1 := by
  simp only [receive, passive, InProgressRequest.onReceiveResponse_eq]
  exact
    { request := kept.request
      network := kept.network
      corsExempt := kept.corsExempt }

end HeadersKept

namespace CorsExemptKept

theorem create (arguments : CreateLoaderArguments) :
    CorsExemptKept (Session.create platform around arguments).1 := by
  obtain ⟨_, _, updates, original⟩ :=
    (Session.fresh arguments).restart_headers platform around
  intro loader executing
  rw [Aligned.created_loader executing]
  unfold Session.create
  rw [updates, original]
  rfl

/-- A forwarded update reaches the loader; a new loader has to do without. -/
theorem followRedirect (aligned : Aligned session) (headers : HeadersKept session)
    (kept : CorsExemptKept session) (params : FollowRedirectParams)
    (recovers : recoversCorsExempt platform (.inProgress session)
      (around, .message (.followRedirect params))) :
    CorsExemptKept ((session.prepare params).restart platform around).1 := by
  obtain ⟨_, _, updates, original⟩ :=
    (session.prepare params).restart_headers platform around
  intro loader executing
  obtain ⟨silent, origin⟩ := aligned.followed_loader executing
  rw [updates, original]
  change loader.corsExemptHeaders =
    HeaderUpdate.applyAllCorsExempt (session.updates ++ [params.toHeaderUpdate])
      session.original.corsExemptHeaders
  rcases origin with ⟨before, present, rfl⟩ | ⟨idle, bound, rfl⟩
  · rw [HeaderUpdate.applyAllCorsExempt_concat, ← kept before present]
    rfl
  · have unbound : session.request.targetLoader = none := by
      rw [← aligned.network, idle]
      rfl
    rw [recovers unbound bound silent]
    exact headers.corsExempt

theorem onReceiveRedirect (kept : CorsExemptKept session) (redirectInfo : RedirectInfo)
    (head : URLResponseHead) :
    CorsExemptKept
      (session.receive platform around (.onReceiveRedirect redirectInfo head)).1 := by
  intro loader executing
  obtain ⟨before, present, rfl⟩ := Option.map_eq_some_iff.mp executing
  exact kept before present

end CorsExemptKept

end Session

theorem headersKept_of_reachable {platform : Platform}
    {allowed : RequestStage → Surroundings × RequestEvent → Prop} {session : Session}
    (reached : ReachableSession platform allowed session) : session.HeadersKept :=
  sessionInvariant Session.HeadersKept
    (fun _around arguments _permitted _urls => Session.HeadersKept.create arguments)
    (fun _session _around params reached kept _permitted _urls =>
      Session.HeadersKept.followRedirect (Session.aligned_of_reachable reached) kept params)
    (fun _session _around redirectInfo head _reached kept _urls _bound =>
      kept.onReceiveRedirect redirectInfo head)
    (fun _session _around head body cachedMetadata kept _bound =>
      kept.onReceiveResponse head body cachedMetadata)
    reached

/-- In every run the loader has received all updates of the ordinary headers.  It
has received those of the CORS-exempt headers as well, if no loader was created
after an update that changes them. -/
theorem loader_headers_complete (platform : Platform) (session : Session)
    (reached : ReachableSession platform (recoversCorsExempt platform) session)
    (loader : NetworkLoader) (executing : session.network = some loader) :
    loader.headers = HeaderUpdate.applyAll session.updates session.original.headers ∧
      loader.corsExemptHeaders =
        HeaderUpdate.applyAllCorsExempt session.updates
          session.original.corsExemptHeaders := by
  have headers := headersKept_of_reachable reached
  have corsExempt := sessionInvariant Session.CorsExemptKept
    (fun _around arguments _permitted _urls => Session.CorsExemptKept.create arguments)
    (fun _session _around params reached kept permitted _urls =>
      Session.CorsExemptKept.followRedirect (Session.aligned_of_reachable reached)
        (headersKept_of_reachable reached) kept params permitted)
    (fun _session _around redirectInfo head _reached kept _urls _bound =>
      kept.onReceiveRedirect redirectInfo head)
    (fun _session _around _head _body _cachedMetadata kept _bound => kept)
    reached
  rw [headers.network loader executing]
  exact ⟨headers.request, corsExempt loader executing⟩

/-- The condition is exact: a loader that a `FollowRedirect` creates has all
CORS-exempt updates only if they change nothing. -/
theorem created_corsExempt_iff (platform : Platform) (session : Session)
    (reached : ReachableSession platform EventMachine.anyStep session)
    (unbound : session.request.targetLoader = none) (around : Surroundings)
    (bound : around.targetFactoryBound = true) (params : FollowRedirectParams)
    (silent : (session.prepare params).request.asksForRedirect platform
      around.browser = false) :
    (session.receive platform around (.followRedirect params)).1.CorsExemptKept ↔
      HeaderUpdate.applyAllCorsExempt (session.updates ++ [params.toHeaderUpdate])
          session.original.corsExemptHeaders =
        session.original.corsExemptHeaders := by
  have aligned := Session.aligned_of_reachable reached
  have headers := headersKept_of_reachable reached
  obtain ⟨_, _, updates, original⟩ := (session.prepare params).restart_headers platform around
  have idle : session.network = none := by
    rw [← aligned.network, Option.map_eq_none_iff] at unbound
    exact unbound
  have created : ((session.prepare params).restart platform around).1.network =
      some (NetworkLoader.start session.request.nextLoader
        ((session.prepare params).request.cappedRequest platform around.browser)) := by
    rw [aligned.followed_network, silent, idle, bound]
    rfl
  change Session.CorsExemptKept ((session.prepare params).restart platform around).1 ↔ _
  unfold Session.CorsExemptKept
  rw [created, updates, original]
  constructor
  · intro kept
    have same := kept _ rfl
    exact same.symm.trans headers.corsExempt
  · rintro unchanged loader same
    cases same
    exact headers.corsExempt.trans unchanged.symm

namespace HeaderUpdatesExample

def around : Surroundings :=
  referenceSurroundings .ask true

def arguments : CreateLoaderArguments :=
  referenceArguments (referenceRequest "https://cdn.example.org/?fbclid=1")

def waiting : Session :=
  (Session.create referencePlatform around arguments).1

def header (key value : String) : HttpRequestHeaders :=
  { headers := [{ key := key.toList, value := value.toList }] }

def ordinaryUpdate : FollowRedirectParams :=
  { plainFollowUp with modifiedHeaders := header "Accept-Language" "ko" }

def corsExemptUpdate : FollowRedirectParams :=
  { plainFollowUp with modifiedCorsExemptHeaders := header "X-Client-Data" "1" }

def followed (params : FollowRedirectParams) : Session :=
  (waiting.receive referencePlatform around (.followRedirect params)).1

end HeaderUpdatesExample

open HeaderUpdatesExample in
theorem loader_headers_complete_example :
    ((followed ordinaryUpdate).network.get (by decide)).headers =
        HeaderUpdate.applyAll [ordinaryUpdate.toHeaderUpdate] HttpRequestHeaders.empty ∧
      ((followed ordinaryUpdate).network.get (by decide)).corsExemptHeaders =
        HeaderUpdate.applyAllCorsExempt [ordinaryUpdate.toHeaderUpdate]
          HttpRequestHeaders.empty :=
  loader_headers_complete referencePlatform (followed ordinaryUpdate)
    (reachable_message around (.followRedirect ordinaryUpdate)
      (reachable_create around arguments trivial (by decide))
      (fun _unbound _bound _silent => rfl) rfl rfl)
    _ (Option.some_get _).symm

open HeaderUpdatesExample in
/-- The loader created after the internal redirect lacks the new header. -/
theorem created_corsExempt_lost :
    ReachableSession referencePlatform EventMachine.anyStep (followed corsExemptUpdate) ∧
      (followed corsExemptUpdate).updates = [corsExemptUpdate.toHeaderUpdate] ∧
      ∃ loader, (followed corsExemptUpdate).network = some loader ∧
        loader.corsExemptHeaders ≠
          HeaderUpdate.applyAllCorsExempt (followed corsExemptUpdate).updates
            (followed corsExemptUpdate).original.corsExemptHeaders :=
  ⟨reachable_message around (.followRedirect corsExemptUpdate)
      (reachable_create around arguments trivial (by decide)) trivial rfl rfl,
    by decide, _, (Option.some_get (by decide)).symm, by decide⟩

end Whale
