/-
Single-place updates at a list of places.

The same function is applied to an item once for each time its place is listed, in
any order.  An item whose place is not listed stays as it is, so no more items
change than places are listed.
-/
import Mathlib.Algebra.Ring.Parity

set_option autoImplicit false

namespace Whale.Foundation

universe u

variable {α : Type u} {change : α → α}

def scatter (change : α → α) (places : List Nat) (items : List α) : List α :=
  places.foldl (fun items place => items.modify place change) items

theorem scatter_append (first second : List Nat) (items : List α) :
    scatter change (first ++ second) items =
      scatter change second (scatter change first items) :=
  List.foldl_append

theorem scatter_length (places : List Nat) (items : List α) :
    (scatter change places items).length = items.length := by
  induction places generalizing items with
  | nil => rfl
  | cons place rest ih =>
      change (scatter change rest (items.modify place change)).length = _
      rw [ih, List.length_modify]

/-- An item is changed once for each time its place is listed. -/
theorem getElem?_scatter (places : List Nat) (items : List α) (place : Nat) :
    (scatter change places items)[place]? =
      (items[place]?).map (change^[places.count place]) := by
  induction places generalizing items with
  | nil =>
      rw [List.count_nil, Function.iterate_zero, Option.map_id_fun]
      rfl
  | cons first rest ih =>
      change (scatter change rest (items.modify first change))[place]? = _
      rw [ih, List.getElem?_modify]
      by_cases here : first = place
      · subst here
        rw [List.count_cons_self, Function.iterate_succ]
        cases items[first]? with
        | none => rfl
        | some item => simp
      · rw [List.count_cons_of_ne here]
        cases items[place]? with
        | none => rfl
        | some item => simp [here]

theorem getElem?_scatter_of_not_mem {places : List Nat} {place : Nat}
    (unlisted : place ∉ places) (items : List α) :
    (scatter change places items)[place]? = items[place]? := by
  rw [getElem?_scatter, List.count_eq_zero_of_not_mem unlisted, Function.iterate_zero,
    Option.map_id_fun]
  rfl

/-- What a single change keeps of an item, any number of changes keeps. -/
theorem getElem?_map_scatter {β : Type u} (view : α → β)
    (kept : ∀ item, view (change item) = view item) (places : List Nat) (items : List α)
    (place : Nat) :
    ((scatter change places items)[place]?).map view = (items[place]?).map view := by
  have keptAgain : ∀ times item, view (change^[times] item) = view item := by
    intro times
    induction times with
    | zero => exact fun _item => rfl
    | succ times ih =>
        intro item
        rw [Function.iterate_succ_apply', kept, ih]
  rw [getElem?_scatter]
  cases items[place]? with
  | none => rfl
  | some item => exact congrArg some (keptAgain _ item)

/-- A change that undoes itself and moves every item leaves the list as it was
exactly when it is applied an even number of times at each place. -/
theorem scatter_eq_self_iff (undoes : Function.Involutive change)
    (moves : ∀ item, change item ≠ item) (places : List Nat) (items : List α) :
    scatter change places items = items ↔
      ∀ place < items.length, Even (places.count place) := by
  constructor
  · intro same place inside
    have applied : (scatter change places items)[place]? =
        (items[place]?).map (change^[places.count place]) :=
      getElem?_scatter places items place
    rw [same, List.getElem?_eq_getElem inside, Option.map_some, Option.some.injEq] at applied
    by_cases even : Even (places.count place)
    · exact even
    · rw [undoes.iterate_odd (Nat.not_even_iff_odd.mp even)] at applied
      exact absurd applied.symm (moves _)
  · intro even
    apply List.ext_getElem?
    intro place
    rw [getElem?_scatter]
    by_cases inside : place < items.length
    · rw [undoes.iterate_even (even place inside), Option.map_id_fun]
      rfl
    · rw [List.getElem?_eq_none (Nat.le_of_not_lt inside)]
      rfl

/-! ### How many items change -/

variable [DecidableEq α]

/-- The places at which two lists of one length differ. -/
def changedPlaces (before after : List α) : List Nat :=
  (List.range before.length).filter (fun place => decide (after[place]? ≠ before[place]?))

theorem changedPlaces_scatter_length_le (places : List Nat) (items : List α) :
    (changedPlaces items (scatter change places items)).length ≤ places.length := by
  apply List.Nodup.length_le_of_subset
  · exact List.Pairwise.filter _ List.nodup_range
  · intro place member
    have differs := of_decide_eq_true (List.mem_filter.mp member).2
    by_cases listed : place ∈ places
    · exact listed
    · exact absurd (getElem?_scatter_of_not_mem listed items) differs

end Whale.Foundation
