/-
Tables that remember the value of a key from its first use on.

The first item that asks for a key draws its value, later items are given the same
value.  A run over a table is therefore a traversal in which each item reads one
fixed assignment of values to keys.
-/
import Mathlib.Data.List.Forall2

set_option autoImplicit false

namespace Whale.Foundation

universe u v w

structure Memo (Item : Type u) (Key Value Result : Type v) (Fault : Type w) where
  key : Item → Key
  draw : Item → Except Fault Value
  use : Item → Value → Except Fault Result

namespace Memo

variable {Item : Type u} {Key Value Result : Type v} {Fault : Type w} [DecidableEq Key]

/-- The value for an item, and the table afterwards. -/
def remember (memo : Memo Item Key Value Result Fault) (table : List (Key × Value))
    (item : Item) : Except Fault (Value × List (Key × Value)) :=
  match table.lookup (memo.key item) with
  | some value => .ok (value, table)
  | none => do
      let value ← memo.draw item
      pure (value, (memo.key item, value) :: table)

def run (memo : Memo Item Key Value Result Fault) :
    List (Key × Value) → List Item → Except Fault (List Result)
  | _, [] => pure []
  | table, item :: rest => do
      let (value, next) ← memo.remember table item
      let result ← memo.use item value
      let results ← run memo next rest
      pure (result :: results)

/-- The item that draws for the key of `item`. -/
def firstUse (memo : Memo Item Key Value Result Fault) (items : List Item) (item : Item) :
    Item :=
  (items.find? fun other => decide (memo.key other = memo.key item)).getD item

/-- The value that a run over `items` gives to `item`, wherever it stands in the run. -/
def valueFor (memo : Memo Item Key Value Result Fault) (table : List (Key × Value))
    (items : List Item) (item : Item) : Except Fault Value :=
  match table.lookup (memo.key item) with
  | some value => .ok value
  | none => memo.draw (memo.firstUse items item)

variable (memo : Memo Item Key Value Result Fault)

theorem remember_of_some {table : List (Key × Value)} {item : Item} {value : Value}
    (found : table.lookup (memo.key item) = some value) :
    memo.remember table item = .ok (value, table) := by
  unfold remember
  rw [found]

theorem remember_of_none {table : List (Key × Value)} {item : Item}
    (missing : table.lookup (memo.key item) = none) :
    memo.remember table item =
      (memo.draw item).map fun value => (value, (memo.key item, value) :: table) := by
  unfold remember
  rw [missing]
  rfl

theorem firstUse_cons_of_eq {item other : Item} (same : memo.key item = memo.key other)
    (rest : List Item) : memo.firstUse (item :: rest) other = item := by
  simp only [firstUse, List.find?_cons, same, decide_true, Option.getD_some]

theorem firstUse_cons_of_ne {item other : Item} (different : memo.key item ≠ memo.key other)
    (rest : List Item) : memo.firstUse (item :: rest) other = memo.firstUse rest other := by
  simp only [firstUse, List.find?_cons, different, decide_false]

theorem key_firstUse (items : List Item) (item : Item) :
    memo.key (memo.firstUse items item) = memo.key item := by
  unfold firstUse
  cases found : items.find? fun other => decide (memo.key other = memo.key item) with
  | none => rfl
  | some first =>
      have asked := List.find?_some found
      exact of_decide_eq_true asked

theorem firstUse_mem {items : List Item} {item : Item} (member : item ∈ items) :
    memo.firstUse items item ∈ items := by
  unfold firstUse
  cases found : items.find? fun other => decide (memo.key other = memo.key item) with
  | none => exact member
  | some first => exact List.mem_of_find?_eq_some found

/-- A value is remembered, or it is drawn and put in front of the table. -/
theorem cases_of_remember {table next : List (Key × Value)} {item : Item} {value : Value}
    (remembered : memo.remember table item = .ok (value, next)) :
    table.lookup (memo.key item) = some value ∧ next = table ∨
      memo.draw item = .ok value ∧ next = (memo.key item, value) :: table := by
  cases found : table.lookup (memo.key item) with
  | some known =>
      rw [remember_of_some memo found] at remembered
      cases remembered
      exact Or.inl ⟨rfl, rfl⟩
  | none =>
      rw [remember_of_none memo found] at remembered
      cases drawn : memo.draw item with
      | error reason =>
          rw [drawn] at remembered
          cases remembered
      | ok drawnValue =>
          rw [drawn] at remembered
          cases remembered
          exact Or.inr ⟨rfl, rfl⟩

/-- What the table holds for a key other than the item's, it keeps. -/
theorem lookup_of_remember_of_ne {table next : List (Key × Value)} {item : Item} {value : Value}
    (remembered : memo.remember table item = .ok (value, next)) {key : Key}
    (different : key ≠ memo.key item) : next.lookup key = table.lookup key := by
  rcases cases_of_remember memo remembered with ⟨_found, same⟩ | ⟨_drawn, longer⟩
  · rw [same]
  · rw [longer, List.lookup_cons, beq_false_of_ne different]

/-- The table holds the value that it has just given. -/
theorem lookup_of_remember {table next : List (Key × Value)} {item : Item} {value : Value}
    (remembered : memo.remember table item = .ok (value, next)) :
    next.lookup (memo.key item) = some value := by
  rcases cases_of_remember memo remembered with ⟨found, same⟩ | ⟨_drawn, longer⟩
  · rw [same, found]
  · rw [longer, List.lookup_cons_self]

theorem valueFor_of_some {table : List (Key × Value)} {item : Item} {value : Value}
    (found : table.lookup (memo.key item) = some value) (items : List Item) :
    memo.valueFor table items item = .ok value := by
  unfold valueFor
  rw [found]

theorem valueFor_of_none {table : List (Key × Value)} {item : Item}
    (missing : table.lookup (memo.key item) = none) (items : List Item) :
    memo.valueFor table items item = memo.draw (memo.firstUse items item) := by
  unfold valueFor
  rw [missing]

theorem valueFor_head (table : List (Key × Value)) (item : Item) (rest : List Item) :
    memo.valueFor table (item :: rest) item = (memo.remember table item).map Prod.fst := by
  unfold valueFor remember
  rw [firstUse_cons_of_eq memo rfl]
  cases table.lookup (memo.key item) with
  | some value => rfl
  | none =>
      cases memo.draw item with
      | error reason => rfl
      | ok value => rfl

/-- After the first item, the rest of the run reads the same assignment. -/
theorem valueFor_of_remember {table next : List (Key × Value)} {item : Item} {value : Value}
    (remembered : memo.remember table item = .ok (value, next)) (rest : List Item) (other : Item) :
    memo.valueFor next rest other = memo.valueFor table (item :: rest) other := by
  by_cases same : memo.key item = memo.key other
  · have given := lookup_of_remember memo remembered
    have head := valueFor_head memo table item rest
    rw [remembered] at head
    unfold valueFor at head ⊢
    rw [firstUse_cons_of_eq memo rfl] at head
    rw [firstUse_cons_of_eq memo same, ← same, given, head]
    rfl
  · have kept := lookup_of_remember_of_ne memo remembered (Ne.symm same)
    unfold valueFor
    rw [kept, firstUse_cons_of_ne memo same]

theorem run_eq_mapM (items : List Item) (table : List (Key × Value)) :
    memo.run table items =
      items.mapM fun item => memo.valueFor table items item >>= memo.use item := by
  induction items generalizing table with
  | nil => rfl
  | cons item rest ih =>
      rw [List.mapM_cons, valueFor_head memo]
      unfold run
      cases remembered : memo.remember table item with
      | error reason => rfl
      | ok pair =>
          obtain ⟨value, next⟩ := pair
          have later := ih next
          simp only [valueFor_of_remember memo remembered rest] at later
          change (memo.use item value >>= fun result =>
            memo.run next rest >>= fun results => pure (result :: results)) = _
          rw [later]
          rfl

end Memo

/-! ### Traversals that can fail -/

section Traversal

variable {Item : Type u} {Result : Type v} {Fault : Type w}
  {visit : Item → Except Fault Result}

theorem exists_mapM_of_ok {Allowed : Item → Result → Prop} (items : List Item)
    (visited : ∀ item ∈ items, ∃ result, visit item = .ok result ∧ Allowed item result) :
    ∃ results, items.mapM visit = .ok results ∧ List.Forall₂ Allowed items results := by
  induction items with
  | nil => exact ⟨[], rfl, List.Forall₂.nil⟩
  | cons item rest ih =>
      obtain ⟨result, first, allowed⟩ := visited item List.mem_cons_self
      obtain ⟨results, others, allAllowed⟩ :=
        ih fun other member => visited other (List.mem_cons_of_mem item member)
      refine ⟨result :: results, ?_, List.Forall₂.cons allowed allAllowed⟩
      rw [List.mapM_cons, first, others]
      rfl

theorem eq_map_of_mapM {image : Item → Result} (items : List Item) {results : List Result}
    (visited : ∀ item ∈ items, ∀ result, visit item = .ok result → result = image item)
    (done : items.mapM visit = .ok results) : results = items.map image := by
  induction items generalizing results with
  | nil =>
      cases done
      rfl
  | cons item rest ih =>
      rw [List.mapM_cons] at done
      cases first : visit item with
      | error reason =>
          rw [first] at done
          cases done
      | ok result =>
          rw [first] at done
          cases others : rest.mapM visit with
          | error reason =>
              rw [others] at done
              cases done
          | ok rests =>
              rw [others] at done
              cases done
              rw [List.map_cons, visited item List.mem_cons_self result first,
                ih (fun other member => visited other (List.mem_cons_of_mem item member)) others]

end Traversal

end Whale.Foundation
