/-
Internal redirects in a row.

The filter is meant to leave alone the redirects that it has caused, but the
exit for them needs a redirect source, and an internal redirect clears it.  So
the filter runs again on its own output.  The chain still ends: two passes leave
nothing for a third.
-/
import Whale.SessionInvariant
import Whale.ReferenceSession
import Whale.QueryFilterPasses

set_option autoImplicit false

namespace Whale

open Whale.Foundation
open Whale.Url (Text GURL)
open Whale.Net

/-! ### Chains -/

/-- Internal redirects in a row, each followed by the client without a URL of its
own; `self` is the state before the next `Restart`.  The URLs of the request are
listed newest first.  The tab and its settings may change at each hop. -/
inductive InternalRedirects (platform : Platform) (start : InProgressRequest) :
    List GURL → InProgressRequest → Prop
  | refl : InternalRedirects platform start [start.request.url] start
  | next {around : Surroundings} {urls : List GURL} {self : InProgressRequest}
      {params : FollowRedirectParams}
      (chain : InternalRedirects platform start urls self)
      (reported : (self.restart platform around).2.any Effect.reportsRedirect = true)
      (noUrl : params.newUrl = none) :
      InternalRedirects platform start
        ((self.restart platform around).1.request.url :: urls)
        ((self.restart platform around).1.receiveFollowRedirect params)

namespace InProgressRequest

variable {platform : Platform} {around : Surroundings} {self : InProgressRequest}

theorem restart_reportsRedirect :
    (self.restart platform around).2.any Effect.reportsRedirect =
      self.asksForRedirect platform around.browser := by
  have quiet := self.any_vettingEffects platform around.browser Effect.reportsRedirect
    (fun _ctx => rfl) (fun _params => rfl)
  rw [restart_eq]
  split
  · rename_i asks
    rw [List.any_append, quiet, asks]
    rfl
  · rename_i silent
    rw [List.any_append, quiet, self.any_handOverEffects platform around
      Effect.reportsRedirect (fun _ _ _ _ => rfl) (fun _ _ => rfl)]
    exact (Bool.eq_false_iff.mpr silent).symm

theorem restart_of_reported (reparses : platform.ReparsesCanonicalSpecs)
    (redirects : platform.RedirectsToLocation)
    (reported : (self.restart platform around).2.any Effect.reportsRedirect = true) :
    self.request.url.isValid = true ∧
      FilteredFrom platform self.request.url
        (self.restart platform around).1.request.url ∧
      (self.restart platform around).1.targetLoader = none := by
  rw [restart_reportsRedirect] at reported
  obtain ⟨valid, _, pass⟩ := vetting_of_asks reparses reported
  rw [restart_eq, reported, if_pos rfl]
  refine ⟨valid, ?_, rfl⟩
  simp only
  rw [internallyRedirected_url around.browser redirects]
  exact pass

theorem receiveFollowRedirect_url {params : FollowRedirectParams}
    (noUrl : params.newUrl = none) :
    (self.receiveFollowRedirect params).request.url = self.request.url := by
  change params.newUrl.getD self.request.url = _
  rw [noUrl]
  rfl

end InProgressRequest

/-- Along a chain the URLs are successive outputs of the filter, and no loader is
left. -/
theorem InternalRedirects.passes {platform : Platform} {start self : InProgressRequest}
    {urls : List GURL} (reparses : platform.ReparsesCanonicalSpecs)
    (redirects : platform.RedirectsToLocation)
    (chain : InternalRedirects platform start urls self) :
    urls.head? = some self.request.url ∧
      (urls = [start.request.url] ∧ self = start ∨
        FilterPasses platform urls ∧ self.targetLoader = none) := by
  induction chain with
  | refl => exact ⟨rfl, Or.inl ⟨rfl, rfl⟩⟩
  | @next around urls self params chain reported noUrl ih =>
      obtain ⟨valid, output, unbound⟩ :=
        InProgressRequest.restart_of_reported reparses redirects reported
      rw [InProgressRequest.receiveFollowRedirect_url noUrl]
      refine ⟨rfl, Or.inr ⟨?_, unbound⟩⟩
      obtain ⟨head, ⟨rfl, rfl⟩ | ⟨passes, _⟩⟩ := ih
      · exact (FilterPasses.start valid).pass output
      · cases urls with
        | nil => cases head
        | cons url earlier =>
            simp only [List.head?_cons, Option.some.injEq] at head
            subst head
            exact passes.pass output

theorem InProgressRequest.restart_creates {platform : Platform} {around : Surroundings}
    {self : InProgressRequest} (unbound : self.targetLoader = none)
    (bound : around.targetFactoryBound = true)
    (unreported : (self.restart platform around).2.any Effect.reportsRedirect = false) :
    .createLoaderAndStart self.nextLoader self.networkServiceRequestId self.options
        (self.cappedRequest platform around.browser) ∈
      (self.restart platform around).2 := by
  rw [restart_reportsRedirect] at unreported
  have starts : self.startsLoader around = true := by
    unfold startsLoader
    rw [unbound, bound]
    rfl
  rw [restart_eq, unreported]
  simp only [Bool.false_eq_true, if_false, handOverEffects, startEffects, starts, if_true]
  exact List.mem_append_right _ (List.mem_append_right _ (List.mem_singleton.mpr rfl))

/-- At most two internal redirects follow one another, each with a shorter query,
and then the request is handed to the target factory. -/
theorem internalRedirects_end (platform : Platform)
    (reparses : platform.ReparsesCanonicalSpecs)
    (redirects : platform.RedirectsToLocation) (start self : InProgressRequest)
    (urls : List GURL) (chain : InternalRedirects platform start urls self) :
    urls.length ≤ 3 ∧
      urls.Pairwise (fun later earlier =>
        later.queryPiece.length < earlier.queryPiece.length) ∧
      ∀ around, around.targetFactoryBound = true →
        (start.targetLoader = none ∨ 1 < urls.length) →
        (self.restart platform around).2.any Effect.reportsRedirect = false →
        ∃ loader id options request,
          .createLoaderAndStart loader id options request ∈
            (self.restart platform around).2 ∧
          request.url = self.request.url := by
  obtain ⟨_, ⟨rfl, rfl⟩ | ⟨passes, unbound⟩⟩ := chain.passes reparses redirects
  · refine ⟨Nat.le_add_left 1 2, List.pairwise_singleton _ _, ?_⟩
    intro around bound unboundOrLonger unreported
    have unbound := unboundOrLonger.resolve_right (Nat.lt_irrefl 1)
    exact ⟨_, _, _, _, InProgressRequest.restart_creates unbound bound unreported, rfl⟩
  · refine ⟨passes.length_le reparses, passes.pairwise_shorter, ?_⟩
    intro around bound _ unreported
    exact ⟨_, _, _, _, InProgressRequest.restart_creates unbound bound unreported, rfl⟩

namespace RedirectChainExample

def around : Surroundings :=
  referenceSurroundings .ask true

/-- The word that protects the second parameter goes away with the first. -/
def arguments : CreateLoaderArguments :=
  referenceArguments
    (referenceRequest "https://cdn.example.org/?fbclid=unsubscribe&mkt_tok=1")

def session : Session :=
  (Session.create referencePlatform around arguments).1

theorem session_reachable :
    ReachableSession referencePlatform EventMachine.anyStep session :=
  reachable_create around arguments trivial (by decide)

def fresh : InProgressRequest :=
  (Session.fresh arguments).request

def once : InProgressRequest :=
  (fresh.restart referencePlatform around).1

def twice : InProgressRequest :=
  (once.followRedirect referencePlatform around plainFollowUp).1

end RedirectChainExample

open RedirectChainExample in
theorem internalRedirects_end_example :
    [twice.request.url, once.request.url, fresh.request.url].length ≤ 3 ∧
      [twice.request.url, once.request.url, fresh.request.url].Pairwise
        (fun later earlier => later.queryPiece.length < earlier.queryPiece.length) ∧
      ∃ loader id options request,
        .createLoaderAndStart loader id options request ∈
          (twice.followRedirect referencePlatform around plainFollowUp).2 ∧
        request.url = (twice.receiveFollowRedirect plainFollowUp).request.url :=
  have bounded := internalRedirects_end referencePlatform referencePlatform_reparses
    referencePlatform_redirects fresh (twice.receiveFollowRedirect plainFollowUp)
    [twice.request.url, once.request.url, fresh.request.url]
    ((InternalRedirects.refl.next (show (fresh.restart referencePlatform around).2.any
      Effect.reportsRedirect = true by decide) rfl).next
      (show (once.followRedirect referencePlatform around plainFollowUp).2.any
        Effect.reportsRedirect = true by decide) rfl)
  ⟨bounded.1, bounded.2.1, bounded.2.2 around rfl (Or.inl rfl) (by decide)⟩

/-! ### Following an internal redirect -/

theorem isExempt_of_android {platform : Platform} (android : platform.isAndroid = true)
    (browser : BrowserState) (self : InProgressRequest) :
    isExempt platform (self.newContext platform browser) = true := by
  have off : (self.newContext platform browser).enableTrackingBlocker = false := by
    change getTrackingBlockerEnabled platform browser.settings _ = false
    unfold getTrackingBlockerEnabled
    rw [android, if_pos rfl]
  unfold isExempt
  rw [off]
  rfl

namespace InProgressRequest

variable {platform : Platform} {self : InProgressRequest}

theorem asksForRedirect_of_filtered (reparses : platform.ReparsesCanonicalSpecs)
    (browser : BrowserState) {source : GURL} (valid : source.isValid = true)
    (pass : FilteredFrom platform source self.request.url)
    (redirectSource : self.info.internalRedirect = true →
      self.info.redirectSource = GURL.empty) :
    self.asksForRedirect platform browser = false ↔
      isExempt platform (self.newContext platform browser) = true ∨
        carriesConditional self.request.url.queryPiece = false ∨
        exceptionOccurs self.request.url.spec = true := by
  have deliverable : isDeliverableUrl self.request.url = true := by
    rw [isDeliverableUrl, pass.valid, Bool.true_or]
  rw [asksForRedirect_eq reparses deliverable, filterOutcome,
    meetsInternalRedirectExit_newContext platform browser redirectSource, Bool.or_false]
  cases android : platform.isAndroid with
  | true => simp [isExempt_of_android android browser self]
  | false =>
      cases exempt : isExempt platform (self.newContext platform browser) with
      | true => simp
      | false =>
          simp only [Bool.or_false, Bool.false_eq_true, if_false,
            Option.isSome_eq_false_iff, Option.isNone_iff_eq_none, false_or]
          change (applyQueryFilter platform self.request.url []).1 = none ↔ _
          rw [applyQueryFilter_eq_none_iff]
          exact droppedSegments_filtered_eq_nil_iff reparses valid pass

end InProgressRequest

/-- When the client follows an internal redirect without a URL of its own, the
filter never takes its exit for internal redirects.  No redirect follows exactly
when another exemption applies or the first pass has left nothing to remove. -/
theorem followInternalRedirect (platform : Platform)
    (reparses : platform.ReparsesCanonicalSpecs)
    (redirects : platform.RedirectsToLocation) (session : Session)
    (reached : ReachableSession platform EventMachine.anyStep session)
    (waiting : session.awaiting = some .internal) (around : Surroundings)
    (params : FollowRedirectParams) (noUrl : params.newUrl = none) :
    let outcome := session.receive platform around (.followRedirect params)
    let url := session.request.request.url
    ∃ ctx, (∀ other, .siteHacks other ∈ outcome.2 ↔ other = ctx) ∧
      takesInternalRedirectExit ctx = false ∧
      (outcome.1.request.redirectUrl.isEmpty = true ↔
        isExempt platform ctx = true ∨ carriesConditional url.queryPiece = false ∨
          exceptionOccurs url.spec = true) ∧
      (outcome.1.awaiting = some .internal ↔
        outcome.1.request.redirectUrl.isEmpty = false) := by
  have aligned := Session.aligned_of_reachable reached
  have vetted := Session.vetted_of_reachable reparses redirects reached
  obtain ⟨source, valid, pass⟩ := vetted.filtered waiting
  have sameUrl : (session.prepare params).request.request.url = session.request.request.url :=
    InProgressRequest.receiveFollowRedirect_url noUrl
  have judged := (session.prepare params).request.asksForRedirect_of_filtered reparses
    around.browser valid (sameUrl ▸ pass) aligned.source
  have notMet := (session.prepare params).request.meetsInternalRedirectExit_newContext
    platform around.browser aligned.source
  refine ⟨(session.prepare params).request.newContext platform around.browser,
    fun other => Session.siteHacks_mem_restart_iff other, ?_, ?_, ?_⟩
  · rw [takesInternalRedirectExit, notMet, Bool.and_false]
  · change ((session.prepare params).restart platform around).1.request.redirectUrl.isEmpty
      = true ↔ _
    rw [Session.restart_redirectUrl_isEmpty, Bool.not_eq_true', judged, sameUrl]
  · change ((session.prepare params).restart platform around).1.awaiting = _ ↔
      ((session.prepare params).restart platform around).1.request.redirectUrl.isEmpty = _
    rw [Session.restart_redirectUrl_isEmpty, Session.restart_awaiting, Bool.not_eq_false']
    cases (session.prepare params).request.asksForRedirect platform around.browser <;> simp

open RedirectChainExample in
theorem followInternalRedirect_example :
    ∃ ctx, (∀ other, .siteHacks other ∈
        (session.receive referencePlatform around (.followRedirect plainFollowUp)).2 ↔
          other = ctx) ∧
      takesInternalRedirectExit ctx = false ∧
      (isExempt referencePlatform ctx = true ∨
        carriesConditional session.request.request.url.queryPiece = false ∨
        exceptionOccurs session.request.request.url.spec = true ↔
          (session.receive referencePlatform around
            (.followRedirect plainFollowUp)).1.request.redirectUrl.isEmpty = true) := by
  obtain ⟨ctx, built, notTaken, condition, _⟩ := followInternalRedirect referencePlatform
    referencePlatform_reparses referencePlatform_redirects session session_reachable
    (by decide) around plainFollowUp rfl
  exact ⟨ctx, built, notTaken, condition.symm⟩

open RedirectChainExample in
/-- One internal redirect follows another. -/
theorem followInternalRedirect_repeats :
    ReachableSession referencePlatform EventMachine.anyStep session ∧
      session.awaiting = some .internal ∧
      (session.receive referencePlatform around
        (.followRedirect plainFollowUp)).1.request.redirectUrl.isEmpty = false ∧
      (session.receive referencePlatform around
        (.followRedirect plainFollowUp)).1.awaiting = some .internal :=
  ⟨session_reachable, by decide, by decide, by decide⟩

end Whale
