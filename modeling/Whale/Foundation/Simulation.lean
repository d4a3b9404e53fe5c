/-
Simulations between event-driven machines.

One step of the concrete machine is answered by a run of the abstract one, which
may be empty.  The answer is settled by the state before the step and the event.
Outputs are compared through a partial map: what it does not name is internal to
the concrete machine.
-/
import Whale.Foundation.Recorded

set_option autoImplicit false

namespace Whale.Foundation

universe u v w u' v' w'

namespace EventMachine

variable {State : Type u} {Event : Type v} {Output : Type w}
  {State' : Type u'} {Event' : Type v'} {Output' : Type w'}

/-- `answer` gives the events that the abstract machine takes for an event of the
concrete one. -/
structure Simulates (concrete : EventMachine State Event Output)
    (abstract : EventMachine State' Event' Output')
    (allowed : State → Event → Prop) (allowed' : State' → Event' → Prop) (start : State)
    (answer : State → Event → List Event') (visible : Output → Option Output')
    (related : State → State' → Prop) : Prop where
  step : ∀ before event after emitted before',
    Reachable concrete allowed start before → related before before' →
    allowed before event → concrete.step before event = some (after, emitted) →
    ∃ after',
      Run abstract allowed' before' (answer before event) (emitted.filterMap visible) after' ∧
        related after after'

/-- A step that is answered by one step. -/
theorem Run.single {machine : EventMachine State Event Output}
    {allowed : State → Event → Prop} {before after : State} {event : Event}
    {emitted : List Output} (permitted : allowed before event)
    (taken : machine.step before event = some (after, emitted)) :
    Run machine allowed before [event] emitted after :=
  Run.nil.snoc permitted taken

/-- Every run of the concrete machine is answered by a run of the abstract one, step
for step. -/
theorem Simulates.run {concrete : EventMachine State Event Output}
    {abstract : EventMachine State' Event' Output'}
    {allowed : State → Event → Prop} {allowed' : State' → Event' → Prop} {start : State}
    {answer : State → Event → List Event'} {visible : Output → Option Output'}
    {related : State → State' → Prop}
    (simulates : Simulates concrete abstract allowed allowed' start answer visible related)
    {start' : State'} (initially : related start start') {events : List Event}
    {records : List (Record State Event Output)} {final : State}
    (taken : Run concrete.recorded allowed start events records final) :
    ∃ final', Run abstract allowed' start'
        (records.flatMap fun record => answer record.before record.event)
        ((records.flatMap Record.emitted).filterMap visible) final' ∧
      related final final' := by
  induction taken with
  | nil => exact ⟨start', Run.nil, initially⟩
  | snoc initial permitted taken ih =>
      obtain ⟨before', earlier, held⟩ := ih
      obtain ⟨emitted, stepped, rfl⟩ := recorded_step_iff.mp taken
      obtain ⟨after', later, kept⟩ :=
        simulates.step _ _ _ emitted before' ⟨_, _, initial.of_recorded⟩ held permitted stepped
      refine ⟨after', ?_, kept⟩
      rw [List.flatMap_append, List.flatMap_append, List.flatMap_singleton,
        List.flatMap_singleton, List.filterMap_append]
      exact earlier.append later

end EventMachine

end Whale.Foundation
