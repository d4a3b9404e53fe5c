/-
The contract between a client and its loader.

A loader reports a redirect and waits, or responds, or completes; its client
follows a redirect that was reported and nothing else.  A relay is a loader to its
client and a client to its loaders.  It keeps its part of the contract on both
sides as long as the others keep theirs, and it never talks to a loader that it
has dropped.
-/
import Whale.Foundation.Monitor
import Whale.Relay
import Whale.RequestTraces

set_option autoImplicit false

namespace Whale

open Whale.Foundation
open Whale.Url (Text GURL)
open Whale.Net

/-! ### One loader at a time -/

/-- The loader whose pipe is open, and how many have been made. -/
structure LoaderPipe where
  loader : Option Nat
  made : Nat
  deriving DecidableEq, Repr

namespace LoaderPipe

def closed : LoaderPipe :=
  { loader := none, made := 0 }

def whenOpen (pipe : LoaderPipe) (loader : Nat) : Option LoaderPipe :=
  if pipe.loader = some loader then some pipe else none

/-- A loader is made when no pipe is open and has the next number; every message
goes to the loader whose pipe is open. -/
def carry (pipe : LoaderPipe) : Effect → Option LoaderPipe
  | .createLoaderAndStart loader _ _ _ =>
      if pipe.loader = none ∧ loader = pipe.made then
        some { loader := some loader, made := pipe.made + 1 }
      else none
  | .loaderFollowRedirect loader _ => pipe.whenOpen loader
  | .loaderSetPriority loader _ _ => pipe.whenOpen loader
  | .loaderPauseReadingBodyFromNet loader => pipe.whenOpen loader
  | .loaderResumeReadingBodyFromNet loader => pipe.whenOpen loader
  | .targetLoaderReset => some { pipe with loader := none }
  | _ => some pipe

theorem foldlM_carry_crossing (effects : List Effect) (pipe : LoaderPipe) :
    (effects.filterMap Effect.crossing).foldlM carry pipe = effects.foldlM carry pipe := by
  induction effects generalizing pipe with
  | nil => rfl
  | cons effect rest ih =>
      cases effect with
      | siteHacks | handleURLParamsBlocked | removeRequest => exact ih pipe
      | _ =>
          simp only [List.filterMap_cons, Effect.crossing, List.foldlM_cons]
          congr 1
          funext next
          exact ih next

end LoaderPipe

def Relay.pipe (relay : Relay) : LoaderPipe :=
  { loader := relay.loader, made := relay.nextLoader }

namespace Relay

variable (platform : Platform) (relay : Relay)

theorem carry_conclude (params : Option FollowRedirectParams) (factoryBound : Bool)
    (verdict : Verdict) :
    (relay.conclude platform params factoryBound verdict).2.foldlM LoaderPipe.carry
        relay.pipe =
      some (relay.conclude platform params factoryBound verdict).1.pipe := by
  cases verdict with
  | redirect newUrl => rfl
  | proceed newReferrer =>
      cases bound : relay.loader with
      | some loader =>
          rw [conclude_of_bound platform relay bound]
          cases params with
          | none => rfl
          | some params =>
              simp [LoaderPipe.carry, LoaderPipe.whenOpen, pipe, bound]
      | none =>
          rw [conclude_of_unbound platform relay bound]
          cases factoryBound with
          | false => rfl
          | true => simp [connect, LoaderPipe.carry, pipe, bound]

theorem carry_pass (message : RequestMessage) :
    (relay.pass message).foldlM LoaderPipe.carry relay.pipe =
      some (relay.afterPass platform message).pipe := by
  have carried (pass : Nat → Effect) (opens : ∀ (pipe : LoaderPipe) (loader : Nat),
      pipe.carry (pass loader) = pipe.whenOpen loader) :
      (relay.loader.toList.map pass).foldlM LoaderPipe.carry relay.pipe =
        some relay.pipe := by
    cases bound : relay.loader with
    | none => rfl
    | some loader => simp [opens, LoaderPipe.whenOpen, pipe, bound]
  cases message with
  | setPriority => exact carried _ fun _pipe _loader => rfl
  | pauseReadingBodyFromNet => exact carried _ fun _pipe _loader => rfl
  | resumeReadingBodyFromNet => exact carried _ fun _pipe _loader => rfl
  | clientDisconnect =>
      rw [pass_clientDisconnect]
      split <;> rfl
  | onComplete status =>
      rw [pass_onComplete]
      split <;> rfl
  | _ => rfl

end Relay

theorem exists_pipe_of_relay {platform : Platform} {steps : List RelayEvent}
    {outputs : List Effect} {stage : RelayStage}
    (run : EventMachine.Run (relayMachine platform) EventMachine.anyStep .notCreated steps
      outputs stage) :
    ∃ pipe, outputs.foldlM LoaderPipe.carry .closed = some pipe ∧
      (stage = .notCreated → pipe = .closed) ∧
      ∀ relay, stage = .connected relay → pipe = relay.pipe := by
  refine run.historyInvariant
    (fun _steps outputs stage => ∃ pipe,
      outputs.foldlM LoaderPipe.carry .closed = some pipe ∧
        (stage = .notCreated → pipe = .closed) ∧
        ∀ relay, stage = .connected relay → pipe = relay.pipe)
    ⟨.closed, rfl, fun _ => rfl, fun _ impossible => by cases impossible⟩ ?_
  rintro _ outputs before event after emitted _ ⟨pipe, carried, atStart, connected⟩ _ taken
  have append : ∀ {next : LoaderPipe}, emitted.foldlM LoaderPipe.carry pipe = some next →
      (outputs ++ emitted).foldlM LoaderPipe.carry .closed = some next := by
    intro next later
    rw [List.foldlM_append, carried]
    exact later
  cases before with
  | notCreated =>
      cases event with
      | create arguments factoryBound verdict =>
          cases taken
          have opened : pipe = (Relay.fresh arguments).pipe := atStart rfl
          refine ⟨_, append (opened ▸ Relay.carry_conclude platform _ none factoryBound verdict), ?_, ?_⟩
          · intro impossible
            cases impossible
          · intro relay same
            rw [RelayStage.connected.inj same]
      | _ => cases taken
  | connected relay =>
      have opened := connected relay rfl
      subst opened
      cases event with
      | create => cases taken
      | followRedirect params factoryBound verdict =>
          cases taken
          refine ⟨_, append ((relay.ask params).carry_conclude platform (some params)
            factoryBound verdict), ?_, ?_⟩
          · intro impossible
            cases impossible
          · intro relay same
            rw [RelayStage.connected.inj same]
      | pass message =>
          simp only [relayMachine] at taken
          split at taken
          · simp only [Option.some.injEq, Prod.mk.injEq] at taken
            obtain ⟨rfl, rfl⟩ := taken
            refine ⟨_, append (relay.carry_pass platform message), ?_, ?_⟩
            · split
              · intro impossible
                cases impossible
              · intro impossible
                cases impossible
            · intro relay same
              split at same
              · cases same
              · rw [RelayStage.connected.inj same]
          · cases taken
  | closed => cases event <;> cases taken

/-- Every request of a profile has one loader at a time: in the order in which its
effects happen, a loader is made only after the one before has been dropped, under
the next number, and what is sent to a loader is sent to the one that is open. -/
theorem loaderPipe_of_profile (platform : Platform)
    (events : List (BrowserState × ProfileEvent)) (outputs : List ProfileEffect)
    (profile : ResourceContextData)
    (run : EventMachine.Run (profileMachine platform) EventMachine.anyStep
      ResourceContextData.new events outputs profile) (proxy request : Nat) :
    ∃ pipe, (outputs.filterMap (ProfileEffect.ofRequest proxy request)).foldlM
        LoaderPipe.carry .closed = some pipe ∧
      ∀ factory session, profile.proxies.get proxy = some factory →
        factory.requests.get request = some session →
        pipe.loader = session.request.targetLoader ∧
          pipe.made = session.request.nextLoader := by
  obtain ⟨_, recording, rfl⟩ := run.exists_recorded
  obtain ⟨stage, sessionRun, held⟩ :=
    (ResourceContextData.simulates_session platform proxy request).run
      ResourceContextData.hasStage_new recording
  obtain ⟨_, sessionRecording, same⟩ := sessionRun.exists_recorded
  obtain ⟨_, relayRun, rfl⟩ := (simulates_relay platform).run rfl sessionRecording
  rw [same] at relayRun
  obtain ⟨pipe, carried, _, connected⟩ := exists_pipe_of_relay relayRun
  rw [LoaderPipe.foldlM_carry_crossing] at carried
  refine ⟨pipe, carried, ?_⟩
  intro factory session proxyPresent present
  have running : stage = .inProgress session := by
    rw [ResourceContextData.hasStage_of_some proxyPresent] at held
    exact held.eq_inProgress present
  subst running
  rw [connected session.relay rfl]
  exact ⟨rfl, rfl⟩

open RequestTracesExample in
theorem loaderPipe_of_profile_example :
    ∃ pipe, (result.2.filterMap (ProfileEffect.ofRequest 0 1)).foldlM
        LoaderPipe.carry .closed = some pipe ∧
      ∀ factory session, result.1.proxies.get 0 = some factory →
        factory.requests.get 1 = some session →
        pipe.loader = session.request.targetLoader ∧
          pipe.made = session.request.nextLoader :=
  loaderPipe_of_profile referencePlatform events result.2 result.1
    ((EventMachine.Run.of_exec (Option.some_get completed).symm).weaken
      fun _ _ _ => trivial) 0 1

/-! ### What either end may say next -/

/-- Where a client and its loader are. -/
inductive Phase where
  | running
  | redirected
  | responded
  | completed
  deriving DecidableEq, Repr

inductive Move where
  | followRedirect
  | onReceiveRedirect
  | onReceiveResponse
  | onProgress
  | onComplete
  deriving DecidableEq, Repr

/-- A redirect is answered before anything but a completion or progress, and nothing
follows a completion. -/
def Phase.advance : Phase → Move → Option Phase
  | .running, .onReceiveRedirect => some .redirected
  | .redirected, .followRedirect => some .running
  | .running, .onReceiveResponse => some .responded
  | .completed, _ => none
  | _, .onComplete => some .completed
  | phase, .onProgress => some phase
  | _, _ => none

/-- The phases of the client and of the loader that is open. -/
structure Ends where
  client : Phase
  loader : Option Phase
  deriving DecidableEq, Repr

namespace Ends

def initial : Ends :=
  { client := .running, loader := none }

def moveClient (ends : Ends) (move : Move) : Option Ends :=
  (ends.client.advance move).map fun phase => { ends with client := phase }

def moveLoader (ends : Ends) (move : Move) : Option Ends :=
  (ends.loader.bind fun phase => phase.advance move).map
    fun phase => { ends with loader := some phase }

/-- What the client or the loader says. -/
def hear (ends : Ends) : RequestEvent → Option Ends
  | .create _ => some ends
  | .message (.followRedirect _) => ends.moveClient .followRedirect
  | .message .onReceiveEarlyHints => ends.moveLoader .onProgress
  | .message (.onReceiveResponse ..) => ends.moveLoader .onReceiveResponse
  | .message (.onReceiveRedirect ..) => ends.moveLoader .onReceiveRedirect
  | .message (.onUploadProgress ..) => ends.moveLoader .onProgress
  | .message (.onTransferSizeUpdated _) => ends.moveLoader .onProgress
  | .message (.onComplete _) => ends.moveLoader .onComplete
  | .message _ => some ends

/-- What the proxy says to either of them. -/
def say (ends : Ends) : Effect → Option Ends
  | .clientOnReceiveResponse .. => ends.moveClient .onReceiveResponse
  | .clientOnReceiveRedirect .. => ends.moveClient .onReceiveRedirect
  | .clientOnUploadProgress .. => ends.moveClient .onProgress
  | .clientOnTransferSizeUpdated _ => ends.moveClient .onProgress
  | .clientOnComplete _ => ends.moveClient .onComplete
  | .createLoaderAndStart .. =>
      if ends.loader = none then some { ends with loader := some .running } else none
  | .loaderFollowRedirect .. => ends.moveLoader .followRedirect
  | .targetLoaderReset => some { ends with loader := none }
  | _ => some ends

theorem foldlM_say_crossing (effects : List Effect) (ends : Ends) :
    (effects.filterMap Effect.crossing).foldlM say ends = effects.foldlM say ends := by
  induction effects generalizing ends with
  | nil => rfl
  | cons effect rest ih =>
      cases effect with
      | siteHacks | handleURLParamsBlocked | removeRequest => exact ih ends
      | _ =>
          simp only [List.filterMap_cons, Effect.crossing, List.foldlM_cons]
          congr 1
          funext next
          exact ih next

/-- `none` once the contract has been broken. -/
def observe (ends : Option Ends) (event : Surroundings × RequestEvent)
    (emitted : List Effect) : Option Ends :=
  ends.bind fun current => (current.hear event.2).bind fun heard => emitted.foldlM say heard

/-- The client and the loader say only what the contract lets them say. -/
def othersKeepContract (state : RequestStage × Option Ends)
    (event : Surroundings × RequestEvent) : Bool :=
  state.2.all fun ends => (ends.hear event.2).isSome

end Ends

namespace Relay

open Ends

/-- The ends of a relay that is in one phase with its loader. -/
def endsAt (relay : Relay) (phase : Phase) : Ends :=
  { client := phase, loader := relay.loader.map fun _loader => phase }

/-- Without a loader there is nothing that could respond. -/
structure InPhase (relay : Relay) (phase : Phase) : Prop where
  unbound : relay.loader = none → phase = .running ∨ phase = .redirected
  awaiting : relay.awaiting = decide (phase = .redirected)
  unfinished : phase ≠ .completed

theorem InPhase.running {relay : Relay} (answered : relay.awaiting = false) :
    InPhase relay .running where
  unbound := fun _unbound => Or.inl rfl
  awaiting := answered
  unfinished := fun impossible => by cases impossible

theorem InPhase.redirected {relay : Relay} (waiting : relay.awaiting = true) :
    InPhase relay .redirected where
  unbound := fun _unbound => Or.inr rfl
  awaiting := waiting
  unfinished := fun impossible => by cases impossible

variable {platform : Platform} {relay : Relay}

/-- Whatever the verdict, the relay is in one phase after it.  `ends` are those of a
client that has been answered and of a loader that waits to be told so. -/
theorem say_conclude (ends : Ends) (client : ends.client = .running)
    (waits : ends.loader = relay.loader.map fun _loader => .redirected)
    (asked : Option FollowRedirectParams)
    (follows : relay.loader.isSome = true → asked.isSome = true) (factoryBound : Bool)
    (verdict : Verdict) :
    ∃ phase, (relay.conclude platform asked factoryBound verdict).2.foldlM say ends =
        some ((relay.conclude platform asked factoryBound verdict).1.endsAt phase) ∧
      (relay.conclude platform asked factoryBound verdict).1.InPhase phase := by
  obtain ⟨endsClient, endsLoader⟩ := ends
  simp only at client waits
  subst client waits
  cases verdict with
  | redirect newUrl => exact ⟨.redirected, rfl, InPhase.redirected rfl⟩
  | proceed newReferrer =>
      cases bound : relay.loader with
      | some loader =>
          obtain ⟨params, rfl⟩ := Option.isSome_iff_exists.mp (follows (by rw [bound]; rfl))
          rw [conclude_of_bound platform relay bound]
          refine ⟨.running, ?_, InPhase.running rfl⟩
          simp [say, moveLoader, Phase.advance, endsAt, bound]
      | none =>
          rw [conclude_of_unbound platform relay bound]
          cases factoryBound with
          | true => exact ⟨.running, rfl, InPhase.running rfl⟩
          | false =>
              refine ⟨.running, ?_, InPhase.running rfl⟩
              simp [connect, endsAt, bound]

theorem hear_followRedirect {phase : Phase} {params : FollowRedirectParams} {heard : Ends}
    (legal : (relay.endsAt phase).hear (.message (.followRedirect params)) = some heard) :
    phase = .redirected ∧
      heard = { client := .running, loader := relay.loader.map fun _loader => .redirected } := by
  cases phase with
  | redirected => exact ⟨rfl, (Option.some.inj legal).symm⟩
  | _ => cases legal

/-- A loader that may move is there, and the client may make the same move. -/
theorem moveLoader_endsAt {phase : Phase} {move : Move} {heard : Ends}
    (legal : (relay.endsAt phase).moveLoader move = some heard) :
    ∃ next, phase.advance move = some next ∧ relay.loader.isSome = true ∧
      heard = { client := phase, loader := some next } ∧
      heard.moveClient move = some (relay.endsAt next) := by
  unfold endsAt moveLoader at legal
  cases bound : relay.loader with
  | none =>
      rw [bound] at legal
      cases legal
  | some loader =>
      rw [bound] at legal
      simp only [Option.map_some, Option.bind_some, Option.map_eq_some_iff] at legal
      obtain ⟨next, advances, rfl⟩ := legal
      refine ⟨next, advances, rfl, rfl, ?_⟩
      simp only [moveClient, advances, Option.map_some, endsAt, bound]

theorem advance_onProgress {phase next : Phase}
    (advances : phase.advance .onProgress = some next) : next = phase := by
  cases phase with
  | completed => cases advances
  | _ => exact (Option.some.inj advances).symm

theorem advance_onComplete {phase : Phase} (unfinished : phase ≠ .completed) :
    phase.advance .onComplete = some .completed := by
  cases phase with
  | completed => exact absurd rfl unfinished
  | _ => rfl

/-- What is passed on is legal, and the relay stays in one phase. -/
theorem say_pass {phase : Phase} (inPhase : relay.InPhase phase) {message : RequestMessage}
    (other : ∀ params, message ≠ .followRedirect params) {heard : Ends}
    (legal : (relay.endsAt phase).hear (.message message) = some heard) :
    ∃ after, (relay.pass message).foldlM say heard = some after ∧
      (message.endsRequest = false →
        ∃ next, after = (relay.afterPass platform message).endsAt next ∧
          (relay.afterPass platform message).InPhase next) := by
  have controlled (pass : Nat → Effect) (silent : ∀ (ends : Ends) (loader : Nat),
      ends.say (pass loader) = some ends) :
      (relay.loader.toList.map pass).foldlM say (relay.endsAt phase) =
        some (relay.endsAt phase) := by
    cases relay.loader with
    | none => rfl
    | some loader => simp [silent]
  have progressed (moves : (relay.endsAt phase).moveLoader .onProgress = some heard) :
      heard = relay.endsAt phase ∧ heard.moveClient .onProgress = some (relay.endsAt phase) := by
    obtain ⟨next, advances, bound, rfl, both⟩ := moveLoader_endsAt moves
    have same := advance_onProgress advances
    subst same
    obtain ⟨loader, bound⟩ := Option.isSome_iff_exists.mp bound
    exact ⟨by simp [endsAt, bound], both⟩
  cases message with
  | followRedirect params => exact absurd rfl (other params)
  | setPriority =>
      cases legal
      exact ⟨_, controlled _ fun _ends _loader => rfl, fun _ => ⟨phase, rfl, inPhase⟩⟩
  | pauseReadingBodyFromNet =>
      cases legal
      exact ⟨_, controlled _ fun _ends _loader => rfl, fun _ => ⟨phase, rfl, inPhase⟩⟩
  | resumeReadingBodyFromNet =>
      cases legal
      exact ⟨_, controlled _ fun _ends _loader => rfl, fun _ => ⟨phase, rfl, inPhase⟩⟩
  | clientDisconnect =>
      cases legal
      rw [pass_clientDisconnect]
      split
      · exact ⟨_, rfl, fun impossible => by cases impossible⟩
      · refine ⟨{ relay.endsAt phase with client := .completed }, ?_,
          fun impossible => by cases impossible⟩
        simp [say, moveClient, endsAt, advance_onComplete inPhase.unfinished]
  | onReceiveEarlyHints =>
      obtain ⟨rfl, _⟩ := progressed legal
      exact ⟨_, rfl, fun _ => ⟨phase, rfl, inPhase⟩⟩
  | onReceiveResponse head body cachedMetadata =>
      obtain ⟨next, advances, bound, rfl, both⟩ := moveLoader_endsAt legal
      refine ⟨relay.endsAt next, ?_, fun _ => ⟨next, rfl, ?_⟩⟩
      · simp [pass, say, both]
      · cases phase with
        | running =>
            cases advances
            exact
              { unbound := fun unbound => by
                  have missing : relay.loader = none := unbound
                  rw [missing] at bound
                  cases bound
                awaiting := inPhase.awaiting
                unfinished := fun impossible => by cases impossible }
        | _ => cases advances
  | onReceiveRedirect redirectInfo head =>
      obtain ⟨next, advances, bound, rfl, both⟩ := moveLoader_endsAt legal
      refine ⟨relay.endsAt next, ?_, fun _ => ⟨next, rfl, ?_⟩⟩
      · simp [pass, say, both]
      · cases phase with
        | running =>
            cases advances
            exact InPhase.redirected rfl
        | _ => cases advances
  | onUploadProgress =>
      obtain ⟨rfl, both⟩ := progressed legal
      refine ⟨relay.endsAt phase, ?_, fun _ => ⟨phase, rfl, inPhase⟩⟩
      simp [pass, say, both]
  | onTransferSizeUpdated =>
      obtain ⟨rfl, both⟩ := progressed legal
      refine ⟨relay.endsAt phase, ?_, fun _ => ⟨phase, rfl, inPhase⟩⟩
      simp [pass, say, both]
  | onComplete status =>
      obtain ⟨next, _, _, rfl, both⟩ := moveLoader_endsAt legal
      rw [pass_onComplete]
      split
      · exact ⟨_, rfl, fun impossible => by cases impossible⟩
      · refine ⟨relay.endsAt next, ?_, fun impossible => by cases impossible⟩
        simp [say, both]

end Relay

/-! ### The contract is kept -/

/-- The contract has been kept so far, and a request in progress is in one phase. -/
def ContractKept (state : RequestStage × Option Ends) : Prop :=
  ∃ ends, state.2 = some ends ∧
    (state.1 = .notCreated → ends = .initial) ∧
    ∀ session, state.1 = .inProgress session →
      ∃ phase, ends = session.relay.endsAt phase ∧ session.relay.InPhase phase

theorem ContractKept.step {platform : Platform} {before after : RequestStage × Option Ends}
    {event : Surroundings × RequestEvent} {emitted : List Effect}
    (aligned : ∀ session, before.1 = .inProgress session → session.Aligned)
    (kept : ContractKept before) (permitted : Ends.othersKeepContract before event = true)
    (taken : ((sessionMachine platform).monitored Ends.observe).step before event =
      some (after, emitted)) : ContractKept after := by
  obtain ⟨stage, status⟩ := before
  obtain ⟨stage', status'⟩ := after
  obtain ⟨stepped, rfl⟩ := EventMachine.monitored_step_iff.mp taken
  obtain ⟨ends, rfl, atStart, inPhase⟩ := kept
  obtain ⟨heard, legal⟩ := Option.isSome_iff_exists.mp
    (show (ends.hear event.2).isSome = true from permitted)
  -- The crossing effects are those of the relay, and only they are looked at.
  have observed : Ends.observe (some ends) event emitted =
      (emitted.filterMap Effect.crossing).foldlM Ends.say heard := by
    rw [Ends.foldlM_say_crossing, Ends.observe, Option.bind_some, legal, Option.bind_some]
  unfold ContractKept
  rw [observed]
  obtain ⟨around, event⟩ := event
  rcases sessionMachine_step stepped with
    ⟨arguments, rfl, rfl, _, rfl, rfl⟩ | ⟨session, message, rfl, rfl, _, rfl, rfl⟩
  · have start := atStart rfl
    subst start
    cases legal
    have concluded := (Session.fresh arguments).restart_relay platform around none
      fun _bound => rfl
    obtain ⟨phase, said, now⟩ := (Session.fresh arguments).relay.say_conclude .initial rfl rfl
      none (fun impossible => by cases impossible) around.targetFactoryBound
      ((Session.fresh arguments).request.verdict platform around.browser)
    rw [← concluded.2, ← concluded.1] at said
    refine ⟨_, said, ?_, ?_⟩
    · intro impossible
      cases impossible
    · intro session same
      cases same
      refine ⟨phase, rfl, ?_⟩
      rw [← concluded.1] at now
      exact now
  · obtain ⟨phase, rfl, now⟩ := inPhase session rfl
    by_cases follows : ∃ params, message = .followRedirect params
    · obtain ⟨params, rfl⟩ := follows
      obtain ⟨rfl, rfl⟩ := Relay.hear_followRedirect legal
      have concluded := session.followRedirect_relay platform around params
      obtain ⟨phase, said, agreed⟩ := (session.relay.ask params).say_conclude
        { client := .running, loader := session.relay.loader.map fun _loader => .redirected }
        rfl rfl (some params) (fun _bound => rfl) around.targetFactoryBound
        ((session.prepare params).request.verdict platform around.browser)
      rw [← concluded.2, ← concluded.1] at said
      refine ⟨_, said, ?_, ?_⟩
      · intro impossible
        cases impossible
      · intro session' same
        cases same
        refine ⟨phase, rfl, ?_⟩
        rw [← concluded.1] at agreed
        exact agreed
    · have other : ∀ params, message ≠ .followRedirect params :=
        fun params same => follows ⟨params, same⟩
      have received := session.receive_relay platform around (aligned session rfl) message
        other
      obtain ⟨after, said, agreed⟩ := Relay.say_pass now other legal
      rw [← received.2] at said
      refine ⟨after, said, ?_, ?_⟩
      · split
        · intro impossible
          cases impossible
        · intro impossible
          cases impossible
      · intro session' same
        split at same
        · cases same
        · rename_i goesOn
          obtain ⟨phase, rfl, held⟩ := agreed (Bool.eq_false_iff.mpr goesOn)
          cases same
          rw [← received.1] at held ⊢
          exact ⟨phase, rfl, held⟩

/-- As long as the client and the loaders keep the contract, so does the proxy towards
all of them, and a request in progress is in one phase with its loader. -/
theorem contractKept_of_reachable (platform : Platform) (stage : RequestStage)
    (ends : Option Ends)
    (reached : ((sessionMachine platform).monitored Ends.observe).Reachable
      (fun state event => Ends.othersKeepContract state event = true)
      (.notCreated, some Ends.initial) (stage, ends)) :
    ends.isSome = true ∧
      ∀ session, stage = .inProgress session →
        ∃ phase, ends = some
          { client := phase
            loader := session.request.targetLoader.map fun _loader => phase } := by
  have kept : ContractKept (stage, ends) := by
    refine reached.invariant ContractKept ?_ ?_
    · refine ⟨.initial, rfl, fun _ => rfl, ?_⟩
      intro _ impossible
      cases impossible
    · intro before event after emitted reachedBefore kept legal taken
      exact kept.step (aligned_of_reachable_stage reachedBefore.of_monitored) legal taken
  obtain ⟨current, rfl, _, inPhase⟩ := kept
  refine ⟨rfl, ?_⟩
  intro session same
  obtain ⟨phase, rfl, _⟩ := inPhase session same
  exact ⟨phase, rfl⟩

namespace LoaderContractExample

open RelayExample (around)

/-- An internal redirect, a loader, a redirect of its own, and the loader again. -/
def events : List (Surroundings × RequestEvent) :=
  [(around, .create (referenceArguments
      (referenceRequest "https://cdn.example.org/?fbclid=1"))),
    (around, .message (.followRedirect plainFollowUp)),
    (around, .message (.onReceiveRedirect
      (referenceRedirect "https://cdn.example.com/") referenceHead)),
    (around, .message (.followRedirect plainFollowUp)),
    (around, .message .onReceiveEarlyHints)]

def execution : Option ((RequestStage × Option Ends) × List Effect) :=
  ((sessionMachine referencePlatform).monitored Ends.observe).exec Ends.othersKeepContract
    (.notCreated, some Ends.initial) events

theorem completed : execution.isSome = true := by
  decide

def result : (RequestStage × Option Ends) × List Effect :=
  execution.get completed

end LoaderContractExample

open LoaderContractExample in
theorem contractKept_of_reachable_example :
    result.1.2.isSome = true ∧
      ∀ session, result.1.1 = .inProgress session →
        ∃ phase, result.1.2 = some
          { client := phase
            loader := session.request.targetLoader.map fun _loader => phase } :=
  contractKept_of_reachable referencePlatform result.1.1 result.1.2
    ⟨_, _, EventMachine.Run.of_exec (Option.some_get completed).symm⟩

end Whale
