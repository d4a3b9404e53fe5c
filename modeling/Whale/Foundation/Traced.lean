/-
Computations that can fail and that log the accesses they make.

A failed computation keeps its log up to the failure.  Sequencing appends logs and
stops at the first failure, so a statement about the log of a composition follows
from its parts.
-/

set_option autoImplicit false

namespace Whale.Foundation

universe u v w

structure Traced (Access : Type u) (Fault : Type v) (α : Type w) where
  accesses : List Access
  result : Except Fault α

namespace Traced

variable {Access : Type u} {Fault : Type v} {α β : Type w}

def access (member : Access) (value : α) : Traced Access Fault α :=
  { accesses := [member], result := .ok value }

def ofExcept (result : Except Fault α) : Traced Access Fault α :=
  { accesses := [], result := result }

def bind (first : Traced Access Fault α) (next : α → Traced Access Fault β) :
    Traced Access Fault β :=
  match first.result with
  | .ok value =>
      { accesses := first.accesses ++ (next value).accesses, result := (next value).result }
  | .error reason => { accesses := first.accesses, result := .error reason }

instance : Monad (Traced Access Fault) where
  pure value := ofExcept (.ok value)
  bind := Traced.bind

theorem result_access (member : Access) (value : α) :
    (access member value : Traced Access Fault α).result = .ok value :=
  rfl

theorem ofExcept_ok_bind (value : α) (next : α → Traced Access Fault β) :
    (ofExcept (.ok value) >>= next) = next value :=
  rfl

theorem pure_bind (value : α) (next : α → Traced Access Fault β) :
    ((pure value : Traced Access Fault α) >>= next) = next value :=
  rfl

theorem result_bind_of_ok {first : Traced Access Fault α} {value : α}
    (done : first.result = .ok value) (next : α → Traced Access Fault β) :
    (first >>= next).result = (next value).result := by
  change (Traced.bind first next).result = _
  unfold Traced.bind
  rw [done]

theorem result_bind_of_error {first : Traced Access Fault α} {reason : Fault}
    (failed : first.result = .error reason) (next : α → Traced Access Fault β) :
    (first >>= next).result = .error reason := by
  change (Traced.bind first next).result = _
  unfold Traced.bind
  rw [failed]

/-- What a composition returns does not depend on what it logs. -/
theorem result_bind (first : Traced Access Fault α) (next : α → Traced Access Fault β) :
    (first >>= next).result = first.result >>= fun value => (next value).result := by
  change (Traced.bind first next).result = _
  unfold Traced.bind
  cases first.result with
  | error reason => rfl
  | ok value => rfl

theorem result_bind_pure (first : Traced Access Fault α) (image : α → β) :
    (first >>= fun value => pure (image value)).result = first.result.map image := by
  rw [result_bind]
  cases first.result with
  | error reason => rfl
  | ok value => rfl

/-- What the first part logs, the composition logs. -/
theorem accesses_bind_ne_nil {first : Traced Access Fault α} (logged : first.accesses ≠ [])
    (next : α → Traced Access Fault β) : (first >>= next).accesses ≠ [] := by
  change (Traced.bind first next).accesses ≠ []
  unfold Traced.bind
  cases first.result with
  | error reason => exact logged
  | ok value => exact List.append_ne_nil_of_left_ne_nil logged _

/-- A composition that succeeds has gone through a value of its first part. -/
theorem exists_of_result_bind {first : Traced Access Fault α}
    {next : α → Traced Access Fault β} {value : β}
    (done : (first >>= next).result = .ok value) :
    ∃ middle, first.result = .ok middle ∧ (next middle).result = .ok value := by
  change (Traced.bind first next).result = _ at done
  unfold Traced.bind at done
  cases produced : first.result with
  | error reason =>
      rw [produced] at done
      cases done
  | ok middle =>
      rw [produced] at done
      exact ⟨middle, rfl, done⟩

/-- What each step of a loop keeps, a loop that succeeds keeps. -/
theorem invariant_of_foldlM {Item : Type u} {step : α → Item → Traced Access Fault α}
    {Holds : α → Prop}
    (kept : ∀ before item after, Holds before → (step before item).result = .ok after →
      Holds after)
    (items : List Item) {start final : α} (initial : Holds start)
    (done : (items.foldlM step start).result = .ok final) : Holds final := by
  induction items generalizing start with
  | nil =>
      cases done
      exact initial
  | cons item rest ih =>
      rw [List.foldlM_cons] at done
      obtain ⟨next, first, others⟩ := exists_of_result_bind done
      exact ih (kept start item next initial first) others

/-! ### What a computation returns, changed afterwards -/

def map (image : α → β) (computation : Traced Access Fault α) : Traced Access Fault β :=
  { accesses := computation.accesses, result := computation.result.map image }

variable {γ : Type w}

theorem map_bind (image : α → β) (first : Traced Access Fault γ)
    (next : γ → Traced Access Fault α) :
    (first >>= next).map image = first >>= fun value => (next value).map image := by
  change (Traced.bind first next).map image = Traced.bind first _
  unfold Traced.bind
  cases first.result with
  | error reason => rfl
  | ok value => rfl

theorem bind_map (image : α → β) (first : Traced Access Fault α)
    (next : β → Traced Access Fault γ) :
    first.map image >>= next = first >>= fun value => next (image value) := by
  change Traced.bind (first.map image) next = Traced.bind first _
  unfold Traced.bind map
  cases first.result with
  | error reason => rfl
  | ok value => rfl

/-! ### Loops that collect -/

/-- The results of `count` steps, the first at `start`. -/
def fill (body : Nat → Traced Access Fault α) : Nat → Nat → Traced Access Fault (List α)
  | _, 0 => pure []
  | start, count + 1 => do
      let value ← body start
      let values ← fill body (start + 1) count
      pure (value :: values)

theorem fill_map (image : α → β) (body : Nat → Traced Access Fault α) (start count : Nat) :
    fill (fun index => (body index).map image) start count =
      (fill body start count).map (List.map image) := by
  induction count generalizing start with
  | zero => rfl
  | succ count ih =>
      unfold fill
      rw [ih, bind_map, map_bind]
      congr 1
      funext value
      rw [bind_map, map_bind]
      rfl

theorem length_of_fill {body : Nat → Traced Access Fault α} {start count : Nat}
    {values : List α} (done : (fill body start count).result = .ok values) :
    values.length = count := by
  induction count generalizing start values with
  | zero =>
      cases done
      rfl
  | succ count ih =>
      unfold fill at done
      obtain ⟨value, _first, others⟩ := exists_of_result_bind done
      obtain ⟨rest, filled, last⟩ := exists_of_result_bind others
      cases last
      rw [List.length_cons, ih filled]

/-- A loop succeeds if and only if all of its steps do. -/
theorem fill_ok_iff {body : Nat → Traced Access Fault α} (start count : Nat) :
    (∃ values, (fill body start count).result = .ok values) ↔
      ∀ index, start ≤ index → index < start + count →
        ∃ value, (body index).result = .ok value := by
  induction count generalizing start with
  | zero =>
      constructor
      · intro _ index after before
        omega
      · intro _
        exact ⟨[], rfl⟩
  | succ count ih =>
      constructor
      · rintro ⟨values, done⟩ index after before
        unfold fill at done
        obtain ⟨value, first, others⟩ := exists_of_result_bind done
        obtain ⟨rest, filled, _last⟩ := exists_of_result_bind others
        by_cases here : index = start
        · exact ⟨value, here ▸ first⟩
        · exact (ih (start + 1)).mp ⟨rest, filled⟩ index (by omega) (by omega)
      · intro steps
        obtain ⟨value, first⟩ := steps start (Nat.le_refl start) (by omega)
        obtain ⟨rest, filled⟩ := (ih (start + 1)).mpr
          fun index after before => steps index (by omega) (by omega)
        refine ⟨value :: rest, ?_⟩
        unfold fill
        rw [result_bind_of_ok first, result_bind_of_ok filled]
        rfl

/-- A loop none of whose steps fails logs the accesses of all of them. -/
theorem fill_of_ok {body : Nat → Traced Access Fault α} {places : Nat → List Access}
    {value : Nat → α} (start count : Nat)
    (steps : ∀ index, start ≤ index → index < start + count →
      body index = { accesses := places index, result := .ok (value index) }) :
    fill body start count =
      { accesses := (List.range' start count).flatMap places
        result := .ok ((List.range' start count).map value) } := by
  induction count generalizing start with
  | zero => rfl
  | succ count ih =>
      have first := steps start (Nat.le_refl start) (by omega)
      have others := ih (start + 1) fun index after before => steps index (by omega) (by omega)
      unfold fill
      rw [first, others, List.range'_succ, List.flatMap_cons, List.map_cons]
      change ({ accesses := _ ++ (_ ++ []), result := _ } : Traced Access Fault (List α)) = _
      rw [List.append_nil]
      rfl

end Traced

end Whale.Foundation
