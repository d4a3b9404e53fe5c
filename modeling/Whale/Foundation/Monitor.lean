/-
Machines with a monitor beside them.

A monitor reads the event and the outputs of each step and keeps a status of its
own, which the machine does not see.  What may happen next can be made to depend
on the status, so that "as long as the environment keeps to its part" is a
condition on runs.
-/
import Whale.Foundation.EventMachine

set_option autoImplicit false

namespace Whale.Foundation

universe u v w x

namespace EventMachine

variable {State : Type u} {Event : Type v} {Output : Type w} {Status : Type x}

def monitored (machine : EventMachine State Event Output)
    (observe : Status → Event → List Output → Status) :
    EventMachine (State × Status) Event Output :=
  { step := fun state event =>
      match machine.step state.1 event with
      | none => none
      | some (after, emitted) => some ((after, observe state.2 event emitted), emitted) }

variable {machine : EventMachine State Event Output}
  {observe : Status → Event → List Output → Status}

theorem monitored_step_iff {before after : State} {status status' : Status} {event : Event}
    {emitted : List Output} :
    (machine.monitored observe).step (before, status) event =
        some ((after, status'), emitted) ↔
      machine.step before event = some (after, emitted) ∧
        status' = observe status event emitted := by
  simp only [monitored]
  cases machine.step before event with
  | none => simp
  | some result =>
      obtain ⟨next, outputs⟩ := result
      simp only [Option.some.injEq, Prod.mk.injEq]
      constructor
      · rintro ⟨⟨rfl, rfl⟩, rfl⟩
        exact ⟨⟨rfl, rfl⟩, rfl⟩
      · rintro ⟨⟨rfl, rfl⟩, rfl⟩
        exact ⟨⟨rfl, rfl⟩, rfl⟩

/-- Without its monitor, a run is a run of the machine. -/
theorem Run.of_monitored {allowed : State × Status → Event → Prop}
    {start final : State × Status} {events : List Event} {outputs : List Output}
    (run : Run (machine.monitored observe) allowed start events outputs final) :
    Run machine anyStep start.1 events outputs final.1 := by
  induction run with
  | nil => exact Run.nil
  | @snoc events outputs before after event emitted initial permitted taken ih =>
      exact ih.snoc trivial (monitored_step_iff.mp taken).1

theorem Reachable.of_monitored {allowed : State × Status → Event → Prop}
    {start final : State × Status}
    (reached : Reachable (machine.monitored observe) allowed start final) :
    Reachable machine anyStep start.1 final.1 := by
  obtain ⟨events, outputs, run⟩ := reached
  exact ⟨events, outputs, run.of_monitored⟩

end EventMachine

end Whale.Foundation
