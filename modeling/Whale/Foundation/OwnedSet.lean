/-
Sets of owned objects, found by address.

Addresses are given out in order and never again, so an address that has left a
set stays unknown.  Every lemma speaks of `get`, and says what an operation does
at each address.
-/

set_option autoImplicit false

namespace Whale.Foundation

universe u

structure OwnedSet (Object : Type u) where
  entries : List (Nat × Object)
  nextAddress : Nat
  below : ∀ entry ∈ entries, entry.1 < nextAddress

namespace OwnedSet

variable {Object : Type u}

def empty : OwnedSet Object :=
  { entries := []
    nextAddress := 0
    below := by simp }

def get (set : OwnedSet Object) (address : Nat) : Option Object :=
  (set.entries.find? (fun entry => entry.1 == address)).map Prod.snd

def isEmpty (set : OwnedSet Object) : Bool :=
  set.entries.isEmpty

/-- The new object stands at the old `nextAddress`. -/
def emplace (set : OwnedSet Object) (object : Object) : OwnedSet Object :=
  { entries := set.entries ++ [(set.nextAddress, object)]
    nextAddress := set.nextAddress + 1
    below := by
      intro entry member
      rcases List.mem_append.mp member with old | new
      · exact Nat.lt_succ_of_lt (set.below entry old)
      · rw [List.mem_singleton.mp new]
        exact Nat.lt_succ_self _ }

def update (set : OwnedSet Object) (address : Nat) (object : Object) : OwnedSet Object :=
  { entries := set.entries.map
      (fun entry => if entry.1 = address then (entry.1, object) else entry)
    nextAddress := set.nextAddress
    below := by
      intro entry member
      obtain ⟨old, present, rfl⟩ := List.mem_map.mp member
      split
      · exact set.below old present
      · exact set.below old present }

def erase (set : OwnedSet Object) (address : Nat) : OwnedSet Object :=
  { entries := set.entries.filter (fun entry => entry.1 != address)
    nextAddress := set.nextAddress
    below := fun entry member => set.below entry (List.mem_filter.mp member).1 }

def clear (set : OwnedSet Object) : OwnedSet Object :=
  { entries := []
    nextAddress := set.nextAddress
    below := by simp }

/-! ### What stands at an address -/

@[simp] theorem get_empty (address : Nat) : (empty : OwnedSet Object).get address = none := by
  rfl

theorem lt_of_get {set : OwnedSet Object} {address : Nat} {object : Object}
    (present : set.get address = some object) : address < set.nextAddress := by
  obtain ⟨entry, found, _⟩ := Option.map_eq_some_iff.mp present
  have same : entry.1 = address := by
    simpa using List.find?_some found
  rw [← same]
  exact set.below entry (List.mem_of_find?_eq_some found)

theorem get_eq_none_of_le {set : OwnedSet Object} {address : Nat}
    (unused : set.nextAddress ≤ address) : set.get address = none := by
  cases present : set.get address with
  | none => rfl
  | some object => exact absurd (lt_of_get present) (Nat.not_lt_of_le unused)

theorem mem_entries_of_get {set : OwnedSet Object} {address : Nat} {object : Object}
    (present : set.get address = some object) : (address, object) ∈ set.entries := by
  obtain ⟨entry, found, rfl⟩ := Option.map_eq_some_iff.mp present
  have same : entry.1 = address := by
    simpa using List.find?_some found
  rw [← same]
  exact List.mem_of_find?_eq_some found

@[simp] theorem get_emplace (set : OwnedSet Object) (object : Object) (address : Nat) :
    (set.emplace object).get address =
      if address = set.nextAddress then some object else set.get address := by
  unfold get emplace
  rw [List.find?_append]
  by_cases isNew : address = set.nextAddress
  · subst isNew
    have absent : set.entries.find? (fun entry => entry.1 == set.nextAddress) = none := by
      rw [List.find?_eq_none]
      intro entry member same
      have earlier := set.below entry member
      have equal : entry.1 = set.nextAddress := by simpa using same
      omega
    rw [absent]
    simp
  · have other : (set.nextAddress == address) = false := by
      simpa using fun same => isNew same.symm
    simp [isNew, other]

@[simp] theorem get_update (set : OwnedSet Object) (address : Nat) (object : Object)
    (other : Nat) :
    (set.update address object).get other =
      if other = address then (set.get other).map (fun _old => object)
      else set.get other := by
  unfold get update
  simp only [List.find?_map, Option.map_map]
  have sameKey : (fun entry : Nat × Object => entry.1 == other) ∘
      (fun entry => if entry.1 = address then (entry.1, object) else entry) =
      fun entry => entry.1 == other := by
    funext entry
    simp only [Function.comp_apply]
    split <;> rfl
  rw [sameKey]
  cases found : set.entries.find? (fun entry => entry.1 == other) with
  | none => simp
  | some entry =>
      have key : entry.1 = other := by
        simpa using List.find?_some found
      by_cases same : other = address
      · simp [key, same]
      · simp [key, same]

@[simp] theorem get_erase (set : OwnedSet Object) (address other : Nat) :
    (set.erase address).get other = if other = address then none else set.get other := by
  unfold get erase
  rw [List.find?_filter]
  by_cases same : other = address
  · subst same
    simp
  · rw [if_neg same]
    congr 2
    funext entry
    by_cases key : entry.1 = other
    · simp [key, same]
    · simp [key]

theorem isEmpty_iff (set : OwnedSet Object) :
    set.isEmpty = true ↔ ∀ address, set.get address = none := by
  unfold isEmpty get
  rw [List.isEmpty_iff]
  constructor
  · intro blank address
    rw [blank]
    rfl
  · intro absent
    cases entries : set.entries with
    | nil => rfl
    | cons entry rest =>
        have missing := absent entry.1
        rw [entries] at missing
        simp at missing

@[simp] theorem isEmpty_update (set : OwnedSet Object) (address : Nat) (object : Object) :
    (set.update address object).isEmpty = set.isEmpty := by
  unfold isEmpty update
  simp

theorem isEmpty_eq_false_of_get {set : OwnedSet Object} {address : Nat} {object : Object}
    (present : set.get address = some object) : set.isEmpty = false := by
  cases blank : set.isEmpty with
  | false => rfl
  | true =>
      rw [(set.isEmpty_iff.mp blank) address] at present
      contradiction

end OwnedSet

end Whale.Foundation
