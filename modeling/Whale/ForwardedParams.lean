/-
Saved parameters and the loader they are for.

`FollowRedirect` saves its parameters for a bound loader, and an internal redirect
can drop that loader before they are forwarded.  They are then discarded in the
hand-over that creates the next loader, so none is ever sent parameters that are
older than itself.
-/
import Whale.HandOver

set_option autoImplicit false

namespace Whale

open Whale.Foundation
open Whale.Net

namespace Effect

def createdLoader : Effect → Option Nat
  | .createLoaderAndStart loader _ _ _ => some loader
  | _ => none

def forwarded : Effect → Option (Nat × FollowRedirectParams)
  | .loaderFollowRedirect loader params => some (loader, params)
  | _ => none

end Effect

def createdLoaders (effects : List Effect) : List Nat :=
  effects.filterMap Effect.createdLoader

def forwardedCalls (effects : List Effect) : List (Nat × FollowRedirectParams) :=
  effects.filterMap Effect.forwarded

theorem createdLoaders_append (first second : List Effect) :
    createdLoaders (first ++ second) = createdLoaders first ++ createdLoaders second :=
  List.filterMap_append

theorem mem_forwardedCalls {effects : List Effect} {loader : Nat}
    {params : FollowRedirectParams} :
    (loader, params) ∈ forwardedCalls effects ↔
      .loaderFollowRedirect loader params ∈ effects := by
  unfold forwardedCalls
  rw [List.mem_filterMap]
  constructor
  · rintro ⟨effect, member, same⟩
    cases effect with
    | loaderFollowRedirect loader' params' =>
        cases same
        exact member
    | _ => cases same
  · intro member
    exact ⟨_, member, rfl⟩

namespace InProgressRequest

variable {platform : Platform} {around : Surroundings} {self : InProgressRequest}

theorem filterMap_vettingEffects {β : Type} (browser : BrowserState)
    (image : Effect → Option β) (context : ∀ ctx, image (.siteHacks ctx) = none)
    (blocked : ∀ params, image (.handleURLParamsBlocked params) = none) :
    (self.vettingEffects platform browser).filterMap image = [] := by
  rw [List.filterMap_eq_nil_iff]
  intro effect member
  rcases mem_vettingEffects.mp member with rfl | ⟨params, rfl, _⟩
  · exact context _
  · exact blocked params

theorem createdLoaders_handOver :
    createdLoaders (self.handOverEffects platform around) =
      if self.startsLoader around then [self.nextLoader] else [] := by
  have noneForwarded : createdLoaders self.forwardEffects = [] := by
    rw [createdLoaders, List.filterMap_eq_nil_iff]
    intro effect member
    obtain ⟨_, _, rfl, _⟩ := mem_forwardEffects.mp member
    rfl
  unfold handOverEffects startEffects
  rw [createdLoaders_append, noneForwarded, List.nil_append]
  cases self.startsLoader around <;> rfl

theorem forwardedCalls_handOver :
    forwardedCalls (self.handOverEffects platform around) =
      forwardedCalls self.forwardEffects := by
  unfold handOverEffects startEffects forwardedCalls
  rw [List.filterMap_append]
  cases self.startsLoader around with
  | true => exact List.append_nil _
  | false => exact List.append_nil _

theorem forwardedCalls_length_le : (forwardedCalls self.forwardEffects).length ≤ 1 := by
  unfold forwardedCalls forwardEffects
  cases self.pendingFollowRedirectParams with
  | none => exact Nat.zero_le 1
  | some params =>
      cases self.targetLoader with
      | none => exact Nat.zero_le 1
      | some loader => exact Nat.le_refl 1

end InProgressRequest

namespace Session

variable {platform : Platform} {around : Surroundings} {session : Session}

theorem createdLoaders_restart :
    createdLoaders (session.restart platform around).2 =
      if session.request.asksForRedirect platform around.browser then []
      else if session.request.startsLoader around then [session.request.nextLoader]
      else [] := by
  have vetting : createdLoaders (session.request.vettingEffects platform around.browser) =
      [] := InProgressRequest.filterMap_vettingEffects _ _ (fun _ctx => rfl) fun _params => rfl
  cases asks : session.request.asksForRedirect platform around.browser with
  | true =>
      rw [restart_internal asks, createdLoaders_append, vetting]
      rfl
  | false =>
      rw [restart_handOver asks, createdLoaders_append, vetting,
        InProgressRequest.createdLoaders_handOver]
      rfl

theorem forwardedCalls_restart :
    forwardedCalls (session.restart platform around).2 =
      if session.request.asksForRedirect platform around.browser then []
      else forwardedCalls session.request.forwardEffects := by
  have vetting : (session.request.vettingEffects platform around.browser).filterMap
      Effect.forwarded = [] :=
    InProgressRequest.filterMap_vettingEffects _ _ (fun _ctx => rfl) fun _params => rfl
  cases asks : session.request.asksForRedirect platform around.browser with
  | true =>
      rw [restart_internal asks, forwardedCalls, List.filterMap_append, vetting]
      rfl
  | false =>
      rw [restart_handOver asks, forwardedCalls, List.filterMap_append, vetting,
        List.nil_append]
      exact InProgressRequest.forwardedCalls_handOver

theorem createdLoaders_of_other {message : RequestMessage}
    (other : ∀ params, message ≠ .followRedirect params) :
    createdLoaders (session.receive platform around message).2 = [] := by
  rw [createdLoaders, List.filterMap_eq_nil_iff]
  intro effect member
  cases effect with
  | createLoaderAndStart =>
      obtain ⟨params, same⟩ := exists_followRedirect_of_handsOver member rfl
      exact absurd same (other params)
  | _ => rfl

theorem range_append_of_other {message : RequestMessage} {count : Nat}
    (other : ∀ params, message ≠ .followRedirect params) :
    List.range count =
      List.range count ++ createdLoaders (session.receive platform around message).2 := by
  rw [createdLoaders_of_other other, List.append_nil]

/-- The loaders of a request are numbered in the order of their creation, and
parameters are saved only while none is bound. -/
structure Numbered (count : Nat) (session : Session) : Prop where
  next : session.request.nextLoader = count
  bound : ∀ loader, session.request.targetLoader = some loader → loader < count
  saved : session.request.pendingFollowRedirectParams.isSome = true →
    session.request.targetLoader = none

theorem Numbered.restart {count : Nat} (next : session.request.nextLoader = count)
    (bound : ∀ loader, session.request.targetLoader = some loader → loader < count) :
    ∃ later, List.range later =
        List.range count ++ createdLoaders (session.restart platform around).2 ∧
      Numbered later (session.restart platform around).1 := by
  rw [createdLoaders_restart]
  cases asks : session.request.asksForRedirect platform around.browser with
  | true =>
      refine ⟨count, (List.append_nil _).symm, ?_⟩
      rw [restart_internal asks]
      exact
        { next := next
          bound := fun loader impossible => by cases impossible
          saved := fun _ => rfl }
  | false =>
      rw [restart_handOver asks]
      cases starts : session.request.startsLoader around with
      | true =>
          refine ⟨count + 1, by rw [List.range_succ, next]; rfl, ?_⟩
          refine
            { next := ?_
              bound := ?_
              saved := fun impossible => by cases impossible }
          · simp [InProgressRequest.handedOver, starts, next]
          · intro loader here
            simp only [InProgressRequest.handedOver, starts, if_true,
              Option.some.injEq] at here
            omega
      | false =>
          refine ⟨count, (List.append_nil _).symm, ?_⟩
          refine
            { next := ?_
              bound := ?_
              saved := fun impossible => by cases impossible }
          · simp [InProgressRequest.handedOver, starts, next]
          · intro loader here
            simp only [InProgressRequest.handedOver, starts, Bool.false_eq_true,
              if_false] at here
            exact bound loader here

theorem Numbered.receive {count : Nat} (numbered : Numbered count session)
    (message : RequestMessage) (goesOn : message.endsRequest = false) :
    ∃ later, List.range later =
        List.range count ++ createdLoaders (session.receive platform around message).2 ∧
      Numbered later (session.receive platform around message).1 := by
  cases message with
  | followRedirect params => exact Numbered.restart numbered.next numbered.bound
  | onReceiveResponse head body cachedMetadata =>
      refine ⟨count, range_append_of_other (fun _ impossible => by cases impossible), ?_⟩
      simp only [Session.receive, passive, InProgressRequest.onReceiveResponse_eq]
      exact { next := numbered.next, bound := numbered.bound, saved := numbered.saved }
  | onReceiveRedirect redirectInfo head =>
      refine ⟨count, range_append_of_other (fun _ impossible => by cases impossible), ?_⟩
      simp only [Session.receive, passive, InProgressRequest.onReceiveRedirect_eq]
      exact { next := numbered.next, bound := numbered.bound, saved := numbered.saved }
  | _ =>
      refine ⟨count, range_append_of_other (fun _ impossible => by cases impossible), ?_⟩
      rw [receive_unchanged _ rfl goesOn]
      exact numbered

theorem forwardedCalls_of_other {message : RequestMessage}
    (other : ∀ params, message ≠ .followRedirect params) :
    forwardedCalls (session.receive platform around message).2 = [] := by
  rw [forwardedCalls, List.filterMap_eq_nil_iff]
  intro effect member
  cases effect with
  | loaderFollowRedirect =>
      obtain ⟨params, same⟩ := exists_followRedirect_of_handsOver member rfl
      exact absurd same (other params)
  | _ => rfl

/-- A forwarded call is the one that has just arrived, on the loader it found. -/
theorem forwarded_of_mem {message : RequestMessage} {loader : Nat}
    {params : FollowRedirectParams}
    (member : (loader, params) ∈
      forwardedCalls (session.receive platform around message).2) :
    message = .followRedirect params ∧ session.request.targetLoader = some loader ∧
      createdLoaders (session.receive platform around message).2 = [] := by
  cases message with
  | followRedirect arrived =>
      change (loader, params) ∈
        forwardedCalls ((session.prepare arrived).restart platform around).2 at member
      change _ ∧ _ ∧ createdLoaders ((session.prepare arrived).restart platform around).2 = []
      rw [forwardedCalls_restart] at member
      rw [createdLoaders_restart]
      split at member
      · contradiction
      · obtain ⟨_, _, same, bound, pending⟩ :=
          InProgressRequest.mem_forwardEffects.mp (mem_forwardedCalls.mp member)
        cases same
        have held : session.request.targetLoader = some loader := bound
        have saved : (if session.request.targetLoader.isSome then some arrived
            else session.request.pendingFollowRedirectParams) = some params := pending
        rw [held] at saved
        cases saved
        have keeps : (session.prepare params).request.startsLoader around = false := by
          unfold InProgressRequest.startsLoader
          rw [bound]
          rfl
        refine ⟨rfl, held, ?_⟩
        rw [keeps]
        simp
  | _ =>
      rw [forwardedCalls_of_other (fun _ impossible => by cases impossible)] at member
      contradiction

theorem forwardedCalls_receive_length_le (message : RequestMessage) :
    (forwardedCalls (session.receive platform around message).2).length ≤ 1 := by
  cases message with
  | followRedirect params =>
      change (forwardedCalls ((session.prepare params).restart platform around).2).length ≤ 1
      rw [forwardedCalls_restart]
      split
      · exact Nat.zero_le 1
      · exact InProgressRequest.forwardedCalls_length_le
  | _ =>
      rw [forwardedCalls_of_other (fun _ impossible => by cases impossible)]
      exact Nat.zero_le 1

theorem forwardedCalls_create (arguments : CreateLoaderArguments) :
    forwardedCalls (Session.create platform around arguments).2 = [] := by
  unfold create
  rw [forwardedCalls_restart]
  split <;> rfl

end Session

/-! ### Every run -/

/-- The loaders created so far are numbered without a gap. -/
def Numbers (outputs : List Effect) : RequestStage → Prop
  | .notCreated => createdLoaders outputs = []
  | .inProgress session =>
      ∃ count, createdLoaders outputs = List.range count ∧ Session.Numbered count session
  | .removed => ∃ count, createdLoaders outputs = List.range count

section

variable {platform : Platform}

theorem Numbers.step {outputs emitted : List Effect} {before after : RequestStage}
    {event : Surroundings × RequestEvent} (numbers : Numbers outputs before)
    (taken : (sessionMachine platform).step before event = some (after, emitted)) :
    Numbers (outputs ++ emitted) after := by
  obtain ⟨around, event⟩ := event
  rcases sessionMachine_step taken with
    ⟨arguments, rfl, rfl, _, rfl, rfl⟩ | ⟨session, message, rfl, rfl, _, rfl, rfl⟩
  · have noneBefore : createdLoaders outputs = [] := numbers
    obtain ⟨later, created, numbered⟩ : ∃ later, List.range later =
        List.range 0 ++ createdLoaders (Session.create platform around arguments).2 ∧
        Session.Numbered later (Session.create platform around arguments).1 :=
      Session.Numbered.restart rfl fun _ impossible => by cases impossible
    refine ⟨later, ?_, numbered⟩
    rw [createdLoaders_append, noneBefore, created]
    rfl
  · obtain ⟨count, createdBefore, numbered⟩ := numbers
    cases ends : message.endsRequest with
    | true =>
        refine ⟨count, ?_⟩
        rw [createdLoaders_append, createdBefore, Session.createdLoaders_of_other,
          List.append_nil]
        rintro params rfl
        cases ends
    | false =>
        obtain ⟨later, created, numberedAfter⟩ : ∃ later, List.range later =
            List.range count ++
              createdLoaders (session.receive platform around message).2 ∧
            Session.Numbered later (session.receive platform around message).1 :=
          numbered.receive message ends
        refine ⟨later, ?_, numberedAfter⟩
        rw [createdLoaders_append, createdBefore, created]

theorem numbers_of_run {allowed : RequestStage → Surroundings × RequestEvent → Prop}
    {events : List (Surroundings × RequestEvent)} {outputs : List Effect}
    {stage : RequestStage}
    (run : (sessionMachine platform).Run allowed .notCreated events outputs stage) :
    Numbers outputs stage := by
  refine run.historyInvariant (fun _events outputs stage => Numbers outputs stage) ?_ ?_
  · exact (rfl : createdLoaders [] = [])
  · intro _events _outputs _before _event _after _emitted _initial numbers _permitted taken
    exact numbers.step taken

theorem Numbers.nodup {outputs : List Effect} {stage : RequestStage}
    (numbers : Numbers outputs stage) : (createdLoaders outputs).Nodup := by
  cases stage with
  | notCreated =>
      have none : createdLoaders outputs = [] := numbers
      rw [none]
      exact List.nodup_nil
  | inProgress session =>
      obtain ⟨count, created, _⟩ := numbers
      rw [created]
      exact List.nodup_range
  | removed =>
      obtain ⟨count, created⟩ := numbers
      rw [created]
      exact List.nodup_range

/-- Whatever order the messages arrive in: parameters stay saved only while no loader
is bound, and a step forwards at most once, the call that it handles, to the loader
that this call found and that an earlier step created. -/
theorem forwarded_toOwnLoader (platform : Platform)
    (events : List (Surroundings × RequestEvent)) (outputs : List Effect)
    (stage : RequestStage)
    (run : (sessionMachine platform).Run EventMachine.anyStep .notCreated events outputs
      stage) :
    (∀ session, stage = .inProgress session →
      session.request.pendingFollowRedirectParams.isSome = true →
      session.request.targetLoader = none) ∧
    ∀ around event after emitted,
      (sessionMachine platform).step stage (around, event) = some (after, emitted) →
      (createdLoaders (outputs ++ emitted)).Nodup ∧
      (forwardedCalls emitted).length ≤ 1 ∧
      ∀ loader params, .loaderFollowRedirect loader params ∈ emitted →
        event = .message (.followRedirect params) ∧
        (∃ session, stage = .inProgress session ∧
          session.request.targetLoader = some loader) ∧
        loader ∈ createdLoaders outputs ∧ loader ∉ createdLoaders emitted := by
  have numbers := numbers_of_run run
  constructor
  · rintro session rfl saved
    obtain ⟨_, _, numbered⟩ := numbers
    exact numbered.saved saved
  · intro around event after emitted taken
    refine ⟨(numbers.step taken).nodup, ?_⟩
    rcases sessionMachine_step taken with
      ⟨arguments, rfl, rfl, _, rfl, rfl⟩ | ⟨session, message, rfl, rfl, _, rfl, rfl⟩
    · have silent : forwardedCalls (Session.create platform around arguments).2 = [] :=
        Session.forwardedCalls_create arguments
      constructor
      · rw [silent]
        exact Nat.zero_le 1
      · intro loader params member
        rw [← mem_forwardedCalls, silent] at member
        contradiction
    · refine ⟨Session.forwardedCalls_receive_length_le message, ?_⟩
      intro loader params member
      obtain ⟨isFollow, bound, createsNone⟩ :=
        Session.forwarded_of_mem (mem_forwardedCalls.mpr member)
      obtain ⟨count, created, numbered⟩ := numbers
      refine ⟨by rw [isFollow], ⟨session, rfl, bound⟩, ?_, ?_⟩
      · rw [created, List.mem_range]
        exact numbered.bound loader bound
      · rw [createsNone]
        exact List.not_mem_nil

end

open HandOverExample in
theorem forwarded_toOwnLoader_example :
    (forwardedCalls followed.2).length ≤ 1 ∧
      ∃ session, RequestStage.inProgress redirected = .inProgress session ∧
        session.request.targetLoader = some 0 := by
  obtain ⟨events, outputs, run⟩ := redirected_reachable
  have taken := sessionMachine_message referencePlatform around
    (show redirected.delivers (.followRedirect plainFollowUp) = true by decide)
  have step := (forwarded_toOwnLoader referencePlatform events outputs
    (.inProgress redirected) (run.weaken fun _ _ _ => trivial)).2 around
    (.message (.followRedirect plainFollowUp)) _ _ taken
  exact ⟨step.2.1, (step.2.2 0 plainFollowUp (by decide)).2.1⟩

end Whale
