/-
Copies that are read again when they are told to.

An observer keeps a copy of what it has read at each key, and reads a key again
when an output of the machine invalidates it.  If no step changes a key without
saying so, the copies are never out of date.
-/
import Whale.Foundation.EventMachine

set_option autoImplicit false

namespace Whale.Foundation

universe u v w x y

namespace EventMachine

variable {State : Type u} {Event : Type v} {Output : Type w} {Key : Type x}
  {Value : Type y}

def mirrored (machine : EventMachine State Event Output) (read : State → Key → Value)
    (invalidates : Output → Key → Bool) :
    EventMachine (State × (Key → Value)) Event Output :=
  { step := fun state event =>
      match machine.step state.1 event with
      | none => none
      | some (after, emitted) =>
          some ((after, fun key =>
            if emitted.any (fun output => invalidates output key) then read after key
            else state.2 key), emitted) }

variable {machine : EventMachine State Event Output} {read : State → Key → Value}
  {invalidates : Output → Key → Bool} {allowed : State → Event → Prop}

/-- A step says what it changes. -/
def Announces (machine : EventMachine State Event Output) (read : State → Key → Value)
    (invalidates : Output → Key → Bool) (allowed : State → Event → Prop) : Prop :=
  ∀ before event after emitted key, allowed before event →
    machine.step before event = some (after, emitted) →
    read after key = read before key ∨
      emitted.any (fun output => invalidates output key) = true

theorem mirrored_step {before after : State × (Key → Value)} {event : Event}
    {emitted : List Output}
    (taken : (machine.mirrored read invalidates).step before event = some (after, emitted)) :
    machine.step before.1 event = some (after.1, emitted) ∧
      after.2 = fun key =>
        if emitted.any (fun output => invalidates output key) then read after.1 key
        else before.2 key := by
  simp only [mirrored] at taken
  split at taken
  · cases taken
  · rename_i next outputs stepped
    cases taken
    exact ⟨stepped, rfl⟩

/-- Copies that are right at first stay right. -/
theorem Reachable.mirror_eq (announces : Announces machine read invalidates allowed)
    {start : State} {final : State × (Key → Value)}
    (reached : (machine.mirrored read invalidates).Reachable
      (fun state event => allowed state.1 event) (start, read start) final) :
    final.2 = read final.1 := by
  refine reached.invariant (fun state => state.2 = read state.1) rfl ?_
  intro before event after emitted _reached current permitted taken
  obtain ⟨stepped, copies⟩ := mirrored_step taken
  rw [copies]
  funext key
  split
  · rfl
  · rename_i silent
    rcases announces before.1 event after.1 emitted key permitted stepped with
      unchanged | announced
    · rw [current, unchanged]
    · exact absurd announced silent

end EventMachine

end Whale.Foundation
