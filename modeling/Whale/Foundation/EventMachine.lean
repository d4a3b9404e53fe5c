/-
Event-driven machines and their runs.

A machine consumes one event at a time.  An event that cannot be delivered in
the current state has no step, and a step may emit outputs.  Runs collect the
delivered events and the emitted outputs in order, so a statement about every
run is a statement about every interleaving of the events.
-/

set_option autoImplicit false

namespace Whale.Foundation

universe u v w

/-- A partial step: `none` means that the event is not delivered. -/
structure EventMachine (State : Type u) (Event : Type v) (Output : Type w) where
  step : State → Event → Option (State × List Output)

namespace EventMachine

variable {State : Type u} {Event : Type v} {Output : Type w}

/-- Runs whose steps all satisfy `allowed`, read on the state before the step
and the event.  The last step stands outermost. -/
inductive Run (machine : EventMachine State Event Output)
    (allowed : State → Event → Prop) (start : State) :
    List Event → List Output → State → Prop
  | nil : Run machine allowed start [] [] start
  | snoc {events : List Event} {outputs : List Output} {before after : State}
      {event : Event} {emitted : List Output}
      (initial : Run machine allowed start events outputs before)
      (permitted : allowed before event)
      (taken : machine.step before event = some (after, emitted)) :
      Run machine allowed start (events ++ [event]) (outputs ++ emitted) after

def anyStep : State → Event → Prop :=
  fun _ _ => True

def Reachable (machine : EventMachine State Event Output)
    (allowed : State → Event → Prop) (start final : State) : Prop :=
  ∃ events outputs, Run machine allowed start events outputs final

namespace Run

variable {machine : EventMachine State Event Output}
  {allowed : State → Event → Prop} {start final : State}
  {events : List Event} {outputs : List Output}

/-- A relation between the history of a run and the state it has reached, kept
by every allowed step. -/
theorem historyInvariant
    (holds : List Event → List Output → State → Prop)
    (atStart : holds [] [] start)
    (kept : ∀ events outputs before event after emitted,
      Run machine allowed start events outputs before → holds events outputs before →
      allowed before event → machine.step before event = some (after, emitted) →
      holds (events ++ [event]) (outputs ++ emitted) after)
    (run : Run machine allowed start events outputs final) :
    holds events outputs final := by
  induction run with
  | nil => exact atStart
  | snoc initial permitted taken ih =>
      exact kept _ _ _ _ _ _ initial ih permitted taken

theorem append {middle : State} {later : List Event} {laterOutputs : List Output}
    (first : Run machine allowed start events outputs middle)
    (second : Run machine allowed middle later laterOutputs final) :
    Run machine allowed start (events ++ later) (outputs ++ laterOutputs) final := by
  induction second with
  | nil =>
      rw [List.append_nil, List.append_nil]
      exact first
  | snoc initial permitted taken ih =>
      rw [← List.append_assoc, ← List.append_assoc]
      exact Run.snoc ih permitted taken

theorem weaken {weaker : State → Event → Prop}
    (implied : ∀ state event, allowed state event → weaker state event)
    (run : Run machine allowed start events outputs final) :
    Run machine weaker start events outputs final := by
  induction run with
  | nil => exact Run.nil
  | snoc initial permitted taken ih =>
      exact Run.snoc ih (implied _ _ permitted) taken

/-- A state in which nothing is delivered is the end of the run. -/
theorem eq_nil_of_stuck (stuck : ∀ event, machine.step start event = none)
    (run : Run machine allowed start events outputs final) :
    events = [] ∧ outputs = [] ∧ final = start := by
  induction run with
  | nil => exact ⟨rfl, rfl, rfl⟩
  | snoc initial permitted taken ih =>
      obtain ⟨_, _, rfl⟩ := ih
      rw [stuck] at taken
      contradiction

end Run

namespace Reachable

variable {machine : EventMachine State Event Output}
  {allowed : State → Event → Prop} {start before after final : State}

theorem refl : Reachable machine allowed start start :=
  ⟨[], [], Run.nil⟩

theorem step {event : Event} {emitted : List Output}
    (reached : Reachable machine allowed start before) (permitted : allowed before event)
    (taken : machine.step before event = some (after, emitted)) :
    Reachable machine allowed start after := by
  obtain ⟨events, outputs, run⟩ := reached
  exact ⟨_, _, run.snoc permitted taken⟩

/-- A property of the start that every allowed step keeps holds wherever a run
ends. -/
theorem invariant (holds : State → Prop) (atStart : holds start)
    (kept : ∀ before event after emitted, Reachable machine allowed start before →
      holds before → allowed before event →
      machine.step before event = some (after, emitted) → holds after)
    (reached : Reachable machine allowed start final) : holds final := by
  obtain ⟨_, _, run⟩ := reached
  refine run.historyInvariant (fun _events _outputs state => holds state) atStart ?_
  intro _ _ before event after emitted initial held permitted taken
  exact kept before event after emitted ⟨_, _, initial⟩ held permitted taken

end Reachable

def exec (machine : EventMachine State Event Output) (allowed : State → Event → Bool) :
    State → List Event → Option (State × List Output)
  | state, [] => some (state, [])
  | state, event :: events =>
      if allowed state event then
        match machine.step state event with
        | none => none
        | some (next, emitted) =>
            match exec machine allowed next events with
            | none => none
            | some (final, outputs) => some (final, emitted ++ outputs)
      else none

theorem Run.of_exec {machine : EventMachine State Event Output}
    {allowed : State → Event → Bool} {start final : State} {events : List Event}
    {outputs : List Output}
    (completed : machine.exec allowed start events = some (final, outputs)) :
    Run machine (fun state event => allowed state event = true) start events outputs
      final := by
  induction events generalizing start outputs with
  | nil =>
      simp only [exec, Option.some.injEq, Prod.mk.injEq] at completed
      obtain ⟨rfl, rfl⟩ := completed
      exact Run.nil
  | cons event rest ih =>
      unfold exec at completed
      split at completed
      · rename_i permitted
        cases taken : machine.step start event with
        | none => simp [taken] at completed
        | some result =>
            obtain ⟨next, emitted⟩ := result
            cases later : machine.exec allowed next rest with
            | none => simp [taken, later] at completed
            | some ending =>
                obtain ⟨reached, restOutputs⟩ := ending
                simp only [taken, later, Option.some.injEq, Prod.mk.injEq] at completed
                obtain ⟨rfl, rfl⟩ := completed
                have head : Run machine (fun state event => allowed state event = true)
                    start [event] emitted next := Run.snoc Run.nil permitted taken
                exact head.append (ih later)
      · cases completed

end EventMachine

end Whale.Foundation
