/-
Delimited texts over an arbitrary alphabet.

A text is cut at its first delimiter, or split at every delimiter and joined
again.  The results here say what joining some of the segments of a text gives
back when it is split once more, and how long it is.
-/
import Mathlib.Algebra.GroupWithZero.Nat

set_option autoImplicit false

namespace Whale.Foundation.Segments

universe u

variable {α : Type u}

/-! ### Joining -/

def join (delimiter : α) (parts : List (List α)) : List α :=
  [delimiter].intercalate parts

theorem join_cons_cons (delimiter : α) (first second : List α)
    (rest : List (List α)) :
    join delimiter (first :: second :: rest) =
      first ++ delimiter :: join delimiter (second :: rest) := by
  simp [join]

theorem mem_part_of_mem_join (delimiter symbol : α) (parts : List (List α))
    (different : symbol ≠ delimiter) (member : symbol ∈ join delimiter parts) :
    ∃ part ∈ parts, symbol ∈ part := by
  induction parts with
  | nil => contradiction
  | cons first rest ih =>
      cases rest with
      | nil =>
          refine ⟨first, List.mem_cons_self, ?_⟩
          simpa [join] using member
      | cons second others =>
          rw [join_cons_cons, List.mem_append, List.mem_cons] at member
          rcases member with inFirst | isDelimiter | later
          · exact ⟨first, List.mem_cons_self, inFirst⟩
          · exact absurd isDelimiter different
          · obtain ⟨part, inRest, inPart⟩ := ih later
            exact ⟨part, List.mem_cons_of_mem first inRest, inPart⟩

theorem mem_join_of_mem_part (delimiter symbol : α) (parts : List (List α))
    (part : List α) (inParts : part ∈ parts) (inPart : symbol ∈ part) :
    symbol ∈ join delimiter parts := by
  induction parts with
  | nil => contradiction
  | cons first rest ih =>
      cases rest with
      | nil =>
          rw [List.mem_singleton] at inParts
          subst part
          simpa [join] using inPart
      | cons second others =>
          rw [join_cons_cons, List.mem_append, List.mem_cons]
          rcases List.mem_cons.mp inParts with atHead | later
          · subst part
            exact Or.inl inPart
          · exact Or.inr (Or.inr (ih later))

/-! ### Lengths -/

/-- Each part with one delimiter counted to it. -/
def weight (parts : List (List α)) : Nat :=
  (parts.map (fun part => part.length + 1)).sum

theorem join_length (delimiter : α) (parts : List (List α)) :
    (join delimiter parts).length = weight parts - 1 := by
  induction parts with
  | nil => rfl
  | cons first rest ih =>
      cases rest with
      | nil => simp [join, weight]
      | cons second others =>
          rw [join_cons_cons, List.length_append, List.length_cons, ih]
          simp only [weight, List.map_cons, List.sum_cons]
          omega

theorem weight_filter_le (keep : List α → Bool) (parts : List (List α)) :
    weight (parts.filter keep) ≤ weight parts := by
  induction parts with
  | nil => exact Nat.le_refl _
  | cons first rest ih =>
      cases kept : keep first <;>
        simp only [weight, List.filter_cons, kept, if_true, if_false,
          Bool.false_eq_true, List.map_cons, List.sum_cons] at ih ⊢ <;>
        omega

theorem weight_filter_add_dropped_le (keep : List α → Bool)
    (parts : List (List α)) (part : List α) (member : part ∈ parts)
    (dropped : keep part = false) :
    weight (parts.filter keep) + (part.length + 1) ≤ weight parts := by
  induction parts with
  | nil => contradiction
  | cons first rest ih =>
      rcases List.mem_cons.mp member with atHead | later
      · subst part
        have restBound := weight_filter_le keep rest
        simp only [weight, List.filter_cons, dropped, if_false,
          Bool.false_eq_true, List.map_cons, List.sum_cons] at restBound ⊢
        omega
      · have restBound := ih later
        cases kept : keep first <;>
          simp only [weight, List.filter_cons, kept, if_true, if_false,
            Bool.false_eq_true, List.map_cons, List.sum_cons] at restBound ⊢ <;>
          omega

/-- Dropping a nonempty part makes the join strictly shorter, whatever else is
dropped with it. -/
theorem join_filter_length_lt (delimiter : α) (keep : List α → Bool)
    (parts : List (List α)) (part : List α) (member : part ∈ parts)
    (dropped : keep part = false) (nonempty : part ≠ []) :
    (join delimiter (parts.filter keep)).length <
      (join delimiter parts).length := by
  rw [join_length, join_length]
  have bound := weight_filter_add_dropped_le keep parts part member dropped
  have positive := List.length_pos_iff.mpr nonempty
  omega

variable [DecidableEq α]

/-! ### Cutting at the first delimiter -/

/-- The part before the first `delimiter`, and the part after it when there is
one. -/
def cutFirst (delimiter : α) : List α → List α × Option (List α)
  | [] => ([], none)
  | symbol :: rest =>
      if symbol = delimiter then ([], some rest)
      else (symbol :: (cutFirst delimiter rest).1, (cutFirst delimiter rest).2)

theorem cutFirst_absent (delimiter : α) (text : List α)
    (absent : delimiter ∉ text) : cutFirst delimiter text = (text, none) := by
  induction text with
  | nil => rfl
  | cons symbol rest ih =>
      have different : symbol ≠ delimiter := by
        intro same
        subst symbol
        exact absent List.mem_cons_self
      have absentLater : delimiter ∉ rest :=
        fun present => absent (List.mem_cons_of_mem symbol present)
      simp only [cutFirst, if_neg different, ih absentLater]

theorem cutFirst_append (delimiter : α) (text rest : List α)
    (absent : delimiter ∉ text) :
    cutFirst delimiter (text ++ delimiter :: rest) = (text, some rest) := by
  induction text with
  | nil => simp only [List.nil_append, cutFirst, if_pos]
  | cons symbol tail ih =>
      have different : symbol ≠ delimiter := by
        intro same
        subst symbol
        exact absent List.mem_cons_self
      have absentLater : delimiter ∉ tail :=
        fun present => absent (List.mem_cons_of_mem symbol present)
      simp only [List.cons_append, cutFirst, if_neg different, ih absentLater]

/-! ### Splitting at every delimiter -/

/-- The segments between delimiters.  The empty text has none. -/
def segments (delimiter : α) (text : List α) : List (List α) :=
  if text = [] then [] else text.splitOn delimiter

@[simp] theorem join_segments (delimiter : α) (text : List α) :
    join delimiter (segments delimiter text) = text := by
  by_cases empty : text = []
  · subst text
    rfl
  · rw [segments, if_neg empty, join, List.intercalate_splitOn]

theorem delimiter_not_mem_splitOn (delimiter : α) (text : List α) :
    ∀ part ∈ text.splitOn delimiter, delimiter ∉ part := by
  induction text with
  | nil =>
      intro part member
      rw [List.splitOn_nil, List.mem_singleton] at member
      subst part
      exact List.not_mem_nil
  | cons symbol rest ih =>
      intro part member
      rw [List.splitOn_cons_eq_if_modifyHead] at member
      cases split : rest.splitOn delimiter with
      | nil => exact absurd split (List.splitOn_ne_nil delimiter rest)
      | cons first others =>
          rw [split] at member ih
          by_cases same : symbol = delimiter
          · subst symbol
            simp only [beq_self_eq_true, if_true, List.mem_cons] at member
            rcases member with atHead | later
            · subst part
              exact List.not_mem_nil
            · exact ih part (List.mem_cons.mpr later)
          · simp only [beq_iff_eq, if_neg same, List.modifyHead_cons,
              List.mem_cons] at member
            rcases member with atHead | later
            · subst part
              intro present
              rcases List.mem_cons.mp present with isSymbol | inFirst
              · exact same isSymbol.symm
              · exact ih first List.mem_cons_self inFirst
            · exact ih part (List.mem_cons_of_mem first later)

theorem delimiter_not_mem_segments (delimiter : α) (text : List α) :
    ∀ part ∈ segments delimiter text, delimiter ∉ part := by
  intro part member
  unfold segments at member
  split at member
  · contradiction
  · exact delimiter_not_mem_splitOn delimiter text part member

theorem mem_parts_of_mem_segments_join (delimiter : α) (parts : List (List α))
    (clean : ∀ part ∈ parts, delimiter ∉ part) (part : List α)
    (member : part ∈ segments delimiter (join delimiter parts)) :
    part ∈ parts := by
  cases parts with
  | nil => exact member
  | cons first rest =>
      unfold segments at member
      split at member
      · contradiction
      · rw [join, List.splitOn_intercalate delimiter clean (by simp)] at member
        exact member

/-! ### The nonempty pieces -/

def nonemptyPieces (delimiter : α) (text : List α) : List (List α) :=
  (segments delimiter text).filter (fun piece => !piece.isEmpty)

theorem splitOn_eq_cutFirst (delimiter : α) (text : List α) :
    text.splitOn delimiter =
      (cutFirst delimiter text).1 ::
        match (cutFirst delimiter text).2 with
        | none => []
        | some later => later.splitOn delimiter := by
  induction text with
  | nil => rfl
  | cons symbol rest ih =>
      rw [List.splitOn_cons_eq_if_modifyHead, cutFirst]
      by_cases same : symbol = delimiter
      · simp [same]
      · rw [ih]
        simp [same]

theorem nonemptyPieces_eq_filter_splitOn (delimiter : α) (text : List α) :
    nonemptyPieces delimiter text =
      (text.splitOn delimiter).filter (fun piece => !piece.isEmpty) := by
  unfold nonemptyPieces segments
  by_cases empty : text = []
  · subst text
    rfl
  · rw [if_neg empty]

theorem nonemptyPieces_cons_self (delimiter : α) (rest : List α) :
    nonemptyPieces delimiter (delimiter :: rest) = nonemptyPieces delimiter rest := by
  rw [nonemptyPieces_eq_filter_splitOn, nonemptyPieces_eq_filter_splitOn,
    List.splitOn_cons_eq_if_modifyHead]
  simp

/-- Delimiters in front count for nothing. -/
theorem nonemptyPieces_dropWhile (delimiter : α) (text : List α) :
    nonemptyPieces delimiter (text.dropWhile (· == delimiter)) =
      nonemptyPieces delimiter text := by
  induction text with
  | nil => rfl
  | cons symbol rest ih =>
      by_cases same : symbol = delimiter
      · subst symbol
        rw [nonemptyPieces_cons_self, ← ih]
        simp
      · simp [same]

theorem nonemptyPieces_of_ne (delimiter symbol : α) (rest : List α)
    (different : symbol ≠ delimiter) :
    nonemptyPieces delimiter (symbol :: rest) =
      (cutFirst delimiter (symbol :: rest)).1 ::
        match (cutFirst delimiter (symbol :: rest)).2 with
        | none => []
        | some later => nonemptyPieces delimiter later := by
  rw [nonemptyPieces_eq_filter_splitOn, splitOn_eq_cutFirst]
  have nonempty : (cutFirst delimiter (symbol :: rest)).1 ≠ [] := by
    simp [cutFirst, different]
  rw [List.filter_cons_of_pos (by simpa using nonempty)]
  cases (cutFirst delimiter (symbol :: rest)).2 with
  | none => rfl
  | some later => simp only [nonemptyPieces_eq_filter_splitOn]

theorem nonemptyPieces_eq_nil_iff (delimiter : α) (text : List α) :
    nonemptyPieces delimiter text = [] ↔ ∀ symbol ∈ text, symbol = delimiter := by
  induction text with
  | nil => exact ⟨fun _ _ member => absurd member List.not_mem_nil, fun _ => rfl⟩
  | cons symbol rest ih =>
      by_cases same : symbol = delimiter
      · subst symbol
        rw [nonemptyPieces_cons_self, ih]
        simp
      · rw [nonemptyPieces_of_ne delimiter symbol rest same]
        simp [same]

end Whale.Foundation.Segments
