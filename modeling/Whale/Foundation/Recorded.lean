/-
Runs with a record of every step.

The outputs of a machine say what it did and not where it stood.  The recorded
machine emits one record a step instead, with the states on both sides, so that a
statement about a run can read them.
-/
import Whale.Foundation.EventMachine

set_option autoImplicit false

namespace Whale.Foundation

universe u v w

structure Record (State : Type u) (Event : Type v) (Output : Type w) where
  before : State
  event : Event
  emitted : List Output
  after : State

namespace EventMachine

variable {State : Type u} {Event : Type v} {Output : Type w}

def recorded (machine : EventMachine State Event Output) :
    EventMachine State Event (Record State Event Output) :=
  { step := fun before event =>
      match machine.step before event with
      | none => none
      | some (after, emitted) =>
          some (after,
            [{ before := before, event := event, emitted := emitted, after := after }]) }

variable {machine : EventMachine State Event Output}

theorem recorded_step_iff {before after : State} {event : Event}
    {records : List (Record State Event Output)} :
    machine.recorded.step before event = some (after, records) ↔
      ∃ emitted, machine.step before event = some (after, emitted) ∧
        records =
          [{ before := before, event := event, emitted := emitted, after := after }] := by
  simp only [recorded]
  cases machine.step before event with
  | none => simp
  | some result =>
      obtain ⟨next, emitted⟩ := result
      simp only [Option.some.injEq, Prod.mk.injEq]
      constructor
      · rintro ⟨rfl, rfl⟩
        exact ⟨emitted, ⟨rfl, rfl⟩, rfl⟩
      · rintro ⟨_, ⟨rfl, rfl⟩, rfl⟩
        exact ⟨rfl, rfl⟩

variable {allowed : State → Event → Prop} {start final : State} {events : List Event}

theorem Run.of_recorded {records : List (Record State Event Output)}
    (run : Run machine.recorded allowed start events records final) :
    Run machine allowed start events (records.flatMap Record.emitted) final := by
  induction run with
  | nil => exact Run.nil
  | snoc initial permitted taken ih =>
      obtain ⟨emitted, stepped, rfl⟩ := recorded_step_iff.mp taken
      rw [List.flatMap_append, List.flatMap_singleton]
      exact ih.snoc permitted stepped

theorem Run.map_event_of_recorded {records : List (Record State Event Output)}
    (run : Run machine.recorded allowed start events records final) :
    records.map Record.event = events := by
  induction run with
  | nil => rfl
  | snoc initial permitted taken ih =>
      obtain ⟨emitted, stepped, rfl⟩ := recorded_step_iff.mp taken
      rw [List.map_append, ih, List.map_singleton]

/-- Every run can be recorded. -/
theorem Run.exists_recorded {outputs : List Output}
    (run : Run machine allowed start events outputs final) :
    ∃ records, Run machine.recorded allowed start events records final ∧
      records.flatMap Record.emitted = outputs := by
  induction run with
  | nil => exact ⟨[], Run.nil, rfl⟩
  | snoc initial permitted taken ih =>
      obtain ⟨records, recording, rfl⟩ := ih
      refine ⟨_, recording.snoc permitted (recorded_step_iff.mpr ⟨_, taken, rfl⟩), ?_⟩
      rw [List.flatMap_append, List.flatMap_singleton]

end EventMachine

end Whale.Foundation
