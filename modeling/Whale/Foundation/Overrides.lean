/-
A default value with overrides at single keys.

A write sets or removes one override or sets the default.  What is read at a key
after any sequence of writes is decided by the last write at that key, and by the
last write of the default where that leaves no override.  The same is read off a list
of rules in which the first that matches decides.
-/

set_option autoImplicit false

namespace Whale.Foundation

universe u v

/-! ### The last item of a kind -/

section

variable {α : Type u} {β : Type v} {test : β → Bool}

def lastWhere (test : β → Bool) (items : List β) : Option β :=
  items.reverse.find? test

theorem lastWhere_cons (first : β) (rest : List β) :
    lastWhere test (first :: rest) =
      (lastWhere test rest).or (if test first then some first else none) := by
  unfold lastWhere
  rw [List.reverse_cons, List.find?_append, List.find?_singleton]

theorem of_lastWhere_eq_some {items : List β} {last : β}
    (found : lastWhere test items = some last) : test last = true :=
  List.find?_some found

/-- The last image of a kind is the image of the last item whose image is of that
kind. -/
theorem lastWhere_filterMap (image : α → Option β) (items : List α) :
    lastWhere test (items.filterMap image) =
      (lastWhere (fun item => (image item).any test) items).bind image := by
  induction items with
  | nil => rfl
  | cons first rest ih =>
      rw [lastWhere_cons]
      cases written : image first with
      | none =>
          rw [List.filterMap_cons_none written, ih]
          simp
      | some value =>
          rw [List.filterMap_cons_some written, lastWhere_cons, ih]
          cases found : lastWhere (fun item => (image item).any test) rest with
          | none => cases here : test value <;> simp [here, written]
          | some last =>
              have kind := of_lastWhere_eq_some found
              cases imaged : image last with
              | none => simp [imaged] at kind
              | some value' => simp [imaged]

end

/-! ### Overrides -/

structure Overrides (Key : Type u) (Value : Type v) where
  fallback : Value
  override : Key → Option Value

namespace Overrides

variable {Key : Type u} {Value : Type v}

inductive Write (Key : Type u) (Value : Type v) where
  | setOverride (key : Key) (value : Value)
  | removeOverride (key : Key)
  | setFallback (value : Value)

def read (state : Overrides Key Value) (key : Key) : Value :=
  (state.override key).getD state.fallback

variable [DecidableEq Key]

def Write.isAt (key : Key) : Write Key Value → Bool
  | .setOverride other _ => decide (other = key)
  | .removeOverride other => decide (other = key)
  | .setFallback _ => false

def Write.isFallback : Write Key Value → Bool
  | .setFallback _ => true
  | _ => false

def write (state : Overrides Key Value) : Write Key Value → Overrides Key Value
  | .setOverride key value =>
      { state with
        override := fun other => if other = key then some value else state.override other }
  | .removeOverride key =>
      { state with
        override := fun other => if other = key then none else state.override other }
  | .setFallback value => { state with fallback := value }

/-! ### One write -/

/-- What a write leaves at a key it addresses. -/
def Write.result : Write Key Value → Option Value
  | .setOverride _ value => some value
  | _ => none

theorem write_override (state : Overrides Key Value) (write : Write Key Value) (key : Key) :
    (state.write write).override key =
      if write.isAt key then write.result else state.override key := by
  cases write with
  | setOverride other value =>
      by_cases same : key = other
      · subst same
        simp [Overrides.write, Write.isAt, Write.result]
      · have different : ¬other = key := fun equal => same equal.symm
        simp [Overrides.write, Write.isAt, same, different]
  | removeOverride other =>
      by_cases same : key = other
      · subst same
        simp [Overrides.write, Write.isAt, Write.result]
      · have different : ¬other = key := fun equal => same equal.symm
        simp [Overrides.write, Write.isAt, same, different]
  | setFallback value => rfl

/-! ### The last writer -/

theorem override_foldl_write (writes : List (Write Key Value)) (state : Overrides Key Value)
    (key : Key) :
    (writes.foldl write state).override key =
      match lastWhere (Write.isAt key) writes with
      | some last => last.result
      | none => state.override key := by
  induction writes generalizing state with
  | nil => rfl
  | cons first rest ih =>
      rw [List.foldl_cons, ih, lastWhere_cons, write_override]
      cases lastWhere (Write.isAt key) rest with
      | some last => rfl
      | none => cases first.isAt key <;> rfl

theorem fallback_foldl_write (writes : List (Write Key Value)) (state : Overrides Key Value) :
    (writes.foldl write state).fallback =
      match lastWhere Write.isFallback writes with
      | some (.setFallback value) => value
      | _ => state.fallback := by
  induction writes generalizing state with
  | nil => rfl
  | cons first rest ih =>
      rw [List.foldl_cons, ih, lastWhere_cons]
      cases found : lastWhere Write.isFallback rest with
      | some last =>
          have isFallback := of_lastWhere_eq_some found
          cases last with
          | setFallback value => rfl
          | _ => cases isFallback
      | none => cases first <;> rfl

/-- Writes elsewhere are not read. -/
theorem read_foldl_write_of_silent (writes : List (Write Key Value))
    (state : Overrides Key Value) (key : Key)
    (silent : ∀ write ∈ writes, write.isAt key = false)
    (settled : (state.override key).isSome = true ∨
      ∀ write ∈ writes, write.isFallback = false) :
    (writes.foldl write state).read key = state.read key := by
  have override : (writes.foldl write state).override key = state.override key := by
    rw [override_foldl_write]
    cases found : lastWhere (Write.isAt key) writes with
    | none => rfl
    | some last =>
        have member := List.mem_reverse.mp (List.mem_of_find?_eq_some found)
        have here := of_lastWhere_eq_some found
        rw [silent last member] at here
        cases here
  unfold read
  rw [override]
  rcases settled with present | kept
  · obtain ⟨value, here⟩ := Option.isSome_iff_exists.mp present
    rw [here]
    rfl
  · have fallback : (writes.foldl write state).fallback = state.fallback := by
      rw [fallback_foldl_write]
      cases found : lastWhere Write.isFallback writes with
      | none => rfl
      | some last =>
          have member := List.mem_reverse.mp (List.mem_of_find?_eq_some found)
          have here := of_lastWhere_eq_some found
          rw [kept last member] at here
          cases here
    rw [fallback]

/-! ### Lists of rules -/

section Rules

variable {Pattern : Type u}

/-- A rule for each key that has an override, in any order, and the default last. -/
structure Lists (state : Overrides Key Value) (pattern : Key → Pattern) (wildcard : Pattern)
    (rules : List (Pattern × Value)) : Prop where
  overrides : ∃ keys : List Key, (∀ key, key ∈ keys ↔ (state.override key).isSome = true) ∧
    rules = keys.map (fun key => (pattern key, state.read key)) ++ [(wildcard, state.fallback)]

/-- The first rule that matches decides. -/
theorem find?_of_lists {state : Overrides Key Value} {pattern : Key → Pattern}
    {wildcard : Pattern} {rules : List (Pattern × Value)}
    (lists : Lists state pattern wildcard rules) (matching : Pattern → Bool) (key : Key)
    (exact : ∀ other, (state.override other).isSome = true →
      matching (pattern other) = decide (other = key))
    (all : matching wildcard = true) :
    (rules.find? fun rule => matching rule.1).map Prod.snd = some (state.read key) := by
  obtain ⟨keys, present, rfl⟩ := lists.overrides
  rw [List.find?_append, List.find?_map]
  change ((Option.map _ (keys.find? fun other => matching (pattern other))).or _).map _ = _
  cases found : keys.find? fun other => matching (pattern other) with
  | some other =>
      obtain ⟨hit, _before⟩ := List.find?_eq_some_iff_append.mp found
      have member := List.mem_of_find?_eq_some found
      rw [exact other ((present other).mp member)] at hit
      rw [of_decide_eq_true hit]
      rfl
  | none =>
      have missing : state.override key = none := by
        cases here : state.override key with
        | none => rfl
        | some value =>
            have isSome : (state.override key).isSome = true := by
              rw [here]
              rfl
            have passed := List.find?_eq_none.mp found key ((present key).mpr isSome)
            rw [exact key isSome] at passed
            simp at passed
      have read : state.read key = state.fallback := by
        unfold Overrides.read
        rw [missing]
        rfl
      rw [read, List.find?_singleton]
      simp [all]

end Rules

end Overrides

end Whale.Foundation
