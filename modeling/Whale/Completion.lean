/-
How a request ends.

A completion of the network removes the request in the same step.  The client is
told, once, unless an error arrives while it still has a redirect to follow:
`request_completed_` holds back that report.
-/
import Whale.SessionInvariant
import Whale.ReferenceSession

set_option autoImplicit false

namespace Whale

open Whale.Foundation
open Whale.Url (Text GURL)
open Whale.Net

def Effect.completesClient : Effect → Bool
  | .clientOnComplete _ => true
  | _ => false

def completions (outputs : List Effect) : List Effect :=
  outputs.filter Effect.completesClient

namespace Session

variable {platform : Platform} {around : Surroundings} {session : Session}

theorem completions_restart :
    completions (session.restart platform around).2 = [] := by
  apply List.filter_eq_nil_iff.mpr
  intro effect member isCompletion
  have ofRestart := isRestartEffect_of_mem member
  cases effect with
  | clientOnComplete => cases ofRestart
  | _ => cases isCompletion

/-- Only the messages that end a request complete the client. -/
theorem completions_receive (message : RequestMessage)
    (goesOn : message.endsRequest = false) :
    completions (session.receive platform around message).2 = [] := by
  apply List.filter_eq_nil_iff.mpr
  intro effect member isCompletion
  have caused := mayCause_of_mem message member
  cases effect with
  | clientOnComplete =>
      cases message with
      | followRedirect | clientDisconnect | onComplete => first | cases caused | cases goesOn
      | _ => cases caused
  | _ => cases isCompletion

end Session

/-- A request that is still in progress has not been completed. -/
theorem completions_of_run {platform : Platform}
    {allowed : RequestStage → Surroundings × RequestEvent → Prop}
    {events : List (Surroundings × RequestEvent)} {outputs : List Effect}
    {stage : RequestStage} (unfinished : stage ≠ .removed)
    (run : EventMachine.Run (sessionMachine platform) allowed .notCreated events outputs
      stage) : completions outputs = [] := by
  have noneYet := EventMachine.Run.historyInvariant
    (fun _events outputs stage => stage ≠ .removed → completions outputs = [])
    (fun _unfinished => rfl) ?_ run
  · exact noneYet unfinished
  · rintro _ outputs before ⟨around, event⟩ after emitted _ heldBefore _ taken goesOn
    rcases sessionMachine_step taken with
      ⟨arguments, rfl, rfl, _, _, rfl⟩ | ⟨session, message, rfl, rfl, _, same, rfl⟩
    · unfold completions at heldBefore ⊢
      rw [List.filter_append, heldBefore (fun impossible => by cases impossible)]
      exact Session.completions_restart
    · unfold completions at heldBefore ⊢
      rw [List.filter_append, heldBefore (fun impossible => by cases impossible)]
      cases ends : message.endsRequest with
      | true =>
          rw [ends] at same
          exact absurd same goesOn
      | false => exact Session.completions_receive message ends

theorem sessionMachine_removed (platform : Platform) (event : Surroundings × RequestEvent) :
    (sessionMachine platform).step .removed event = none := by
  obtain ⟨_, _ | _⟩ := event <;> rfl

/-- When the network loader completes with a status, the request is removed in
that step and nothing is sent afterwards.  The client has then been told exactly
once, with that status, unless it is an error and the client has a redirect to
follow; in that case it is never told. -/
theorem onComplete_reported (platform : Platform)
    (events : List (Surroundings × RequestEvent)) (outputs : List Effect)
    (session : Session)
    (run : EventMachine.Run (sessionMachine platform) EventMachine.anyStep .notCreated
      events outputs (.inProgress session))
    (around : Surroundings) (status : URLLoaderCompletionStatus) (after : RequestStage)
    (emitted : List Effect)
    (taken : (sessionMachine platform).step (.inProgress session)
      (around, .message (.onComplete status)) = some (after, emitted)) :
    after = .removed ∧ .removeRequest ∈ emitted ∧
      (∀ later laterOutputs final,
        EventMachine.Run (sessionMachine platform) EventMachine.anyStep after later
          laterOutputs final → laterOutputs = []) ∧
      (status.errorCode = netOK ∨ session.awaiting = none →
        completions (outputs ++ emitted) = [.clientOnComplete status]) ∧
      (status.errorCode ≠ netOK → session.awaiting ≠ none →
        completions (outputs ++ emitted) = []) := by
  have aligned := Session.aligned_of_reachable ⟨_, _, run⟩
  have noneYet := completions_of_run (by simp) run
  rcases sessionMachine_step taken with
    ⟨_, impossible, _⟩ | ⟨_, _, same, sameMessage, _, rfl, rfl⟩
  · cases impossible
  · cases same
    cases sameMessage
    have emits : (session.receive platform around (.onComplete status)).2 = _ :=
      Session.onComplete_effects status
    rw [aligned.completed] at emits
    refine ⟨rfl, ?_, ?_, ?_, ?_⟩
    · rw [emits]
      exact List.mem_append_right _ (List.mem_singleton.mpr rfl)
    · intro later laterOutputs final afterwards
      exact (afterwards.eq_nil_of_stuck (sessionMachine_removed platform)).2.1
    · intro reportable
      have told : ¬(status.errorCode ≠ netOK ∧ session.awaiting.isSome = true) := by
        rintro ⟨error, waiting⟩
        rcases reportable with ok | answered
        · exact error ok
        · rw [answered] at waiting
          cases waiting
      unfold completions at noneYet ⊢
      rw [List.filter_append, noneYet, emits, if_neg told]
      rfl
    · intro error waiting
      have held : status.errorCode ≠ netOK ∧ session.awaiting.isSome = true :=
        ⟨error, Option.isSome_iff_ne_none.mpr waiting⟩
      unfold completions at noneYet ⊢
      rw [List.filter_append, noneYet, emits, if_pos held]
      rfl

namespace CompletionExample

def around : Surroundings :=
  referenceSurroundings .ask true

def created : Session × List Effect :=
  Session.create referencePlatform around
    (referenceArguments (referenceRequest "https://cdn.example.org/"))

def redirected : Session × List Effect :=
  created.1.receive referencePlatform around
    (.onReceiveRedirect (referenceRedirect "https://cdn.example.net/") referenceHead)

def finished (session : Session) (status : URLLoaderCompletionStatus) : List Effect :=
  (session.receive referencePlatform around (.onComplete status)).2

theorem created_run :
    EventMachine.Run (sessionMachine referencePlatform) EventMachine.anyStep .notCreated
      ([] ++ [(around, .create
        (referenceArguments (referenceRequest "https://cdn.example.org/")))])
      ([] ++ created.2) (.inProgress created.1) :=
  EventMachine.Run.nil.snoc trivial (sessionMachine_create (by decide))

def errConnectionReset : Int := -101

end CompletionExample

open CompletionExample in
theorem onComplete_reported_example :
    completions ([] ++ created.2 ++ finished created.1 (.ofError errConnectionReset)) =
      [.clientOnComplete (.ofError errConnectionReset)] :=
  (onComplete_reported referencePlatform _ _ created.1 created_run around
    (.ofError errConnectionReset) _ _
    (sessionMachine_message referencePlatform around (by decide))).2.2.2.1
    (Or.inr (by decide))

open CompletionExample in
/-- The connection breaks while the client has a redirect to follow. -/
theorem onComplete_unreported :
    (sessionMachine referencePlatform).Reachable EventMachine.anyStep .notCreated
        (.inProgress redirected.1) ∧
      (sessionMachine referencePlatform).step (.inProgress redirected.1)
          (around, .message (.onComplete (.ofError errConnectionReset))) =
        some (.removed, finished redirected.1 (.ofError errConnectionReset)) ∧
      completions
          (created.2 ++ redirected.2 ++
            finished redirected.1 (.ofError errConnectionReset)) = [] :=
  ⟨reachable_message around
      (.onReceiveRedirect (referenceRedirect "https://cdn.example.net/") referenceHead)
      ⟨_, _, created_run⟩ trivial (by decide) rfl,
    sessionMachine_message referencePlatform around (by decide), by decide⟩

end Whale
