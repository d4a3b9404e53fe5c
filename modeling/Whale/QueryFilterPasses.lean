/-
Filtering the output of the filter.

Simple and scoped trackers are judged by the segment and the host, which a pass
keeps.  A conditional tracker is judged by the whole spec: its exception pattern
can disappear with the segments that a pass drops.  So a second pass may remove
conditional trackers, and a third pass removes nothing.
-/
import Whale.QueryFilter
import Whale.ReferencePlatform

set_option autoImplicit false

namespace Whale

open Whale.Url (Text GURL)

def exceptionOccurs (spec : Text) : Bool :=
  kConditionalQueryStringTrackers.any (fun entry => partialMatch spec entry.2)

def isConditionalKey (key : Text) : Bool :=
  (kConditionalQueryStringTrackers.lookup key).isSome

def isConditionalSegment (kvString : Text) : Bool :=
  hasValue kvString && isConditionalKey (segmentKey kvString)

def carriesConditional (query : Text) : Bool :=
  (querySegments query).any isConditionalSegment

theorem isConditionalTracker_eq (spec key : Text) :
    isConditionalTracker spec key =
      (isConditionalKey key && !exceptionOccurs spec) := by
  unfold isConditionalTracker isConditionalKey exceptionOccurs
  simp only [kConditionalQueryStringTrackers, List.lookup_cons, List.lookup_nil,
    List.any_cons, List.any_nil, Bool.or_false]
  cases key == "mkt_tok".toList <;> rfl

section

variable {platform : Platform} {url filtered : GURL}

theorem isScopedTracker_filtered (reparses : platform.ReparsesCanonicalSpecs)
    (valid : url.isValid = true) (pass : FilteredFrom platform url filtered)
    (key : Text) :
    isScopedTracker platform filtered.spec key =
      isScopedTracker platform url.spec key := by
  unfold isScopedTracker
  rw [reparses filtered pass.valid, reparses url valid]
  cases kScopedQueryStringTrackers.lookup key with
  | none => rfl
  | some domain => exact pass.domainIs_eq valid domain

/-- A segment that one pass kept and the next drops is a conditional tracker
whose exception was in the first spec and is not in the second. -/
theorem isDisallowed_filtered (reparses : platform.ReparsesCanonicalSpecs)
    (valid : url.isValid = true) (pass : FilteredFrom platform url filtered)
    (kvString : Text) (kept : isDisallowed platform url.spec kvString = false) :
    isDisallowed platform filtered.spec kvString = true ↔
      isConditionalSegment kvString = true ∧
        exceptionOccurs filtered.spec = false := by
  have sameScope := isScopedTracker_filtered reparses valid pass (segmentKey kvString)
  unfold isDisallowed at kept ⊢
  unfold isConditionalSegment
  rw [sameScope]
  rw [isConditionalTracker_eq] at kept ⊢
  cases valued : hasValue kvString with
  | false => simp
  | true =>
      rw [valued] at kept
      simp only [Bool.true_and, Bool.or_eq_false_iff] at kept
      obtain ⟨⟨notSimple, notScoped⟩, _⟩ := kept
      simp [notSimple, notScoped]

theorem exceptionOccurs_of_kept {kvString : Text}
    (kept : isDisallowed platform url.spec kvString = false)
    (conditional : isConditionalSegment kvString = true) :
    exceptionOccurs url.spec = true := by
  simp only [isConditionalSegment, Bool.and_eq_true] at conditional
  unfold isDisallowed at kept
  rw [isConditionalTracker_eq, conditional.1, conditional.2] at kept
  simp only [Bool.true_and, Bool.or_eq_false_iff, Bool.not_eq_false'] at kept
  exact kept.2

/-- The second pass removes something exactly when a conditional tracker is left
and its exception is not. -/
theorem droppedSegments_filtered_ne_nil_iff
    (reparses : platform.ReparsesCanonicalSpecs)
    (valid : url.isValid = true) (pass : FilteredFrom platform url filtered) :
    droppedSegments platform filtered.queryPiece filtered.spec ≠ [] ↔
      carriesConditional filtered.queryPiece = true ∧
        exceptionOccurs filtered.spec = false := by
  constructor
  · intro dropped
    obtain ⟨kvString, member⟩ := List.exists_mem_of_ne_nil _ dropped
    obtain ⟨inQuery, disallowed⟩ := mem_droppedSegments.mp member
    have kept := (mem_keptSegments.mp (pass.mem_kept inQuery)).2
    obtain ⟨conditional, exceptionGone⟩ :=
      (isDisallowed_filtered reparses valid pass kvString kept).mp disallowed
    exact ⟨List.any_eq_true.mpr ⟨kvString, inQuery, conditional⟩, exceptionGone⟩
  · intro left
    obtain ⟨kvString, inQuery, conditional⟩ := List.any_eq_true.mp left.1
    have kept := (mem_keptSegments.mp (pass.mem_kept inQuery)).2
    have disallowed := (isDisallowed_filtered reparses valid pass kvString kept).mpr
      ⟨conditional, left.2⟩
    exact List.ne_nil_of_mem (mem_droppedSegments.mpr ⟨inQuery, disallowed⟩)

theorem droppedSegments_filtered_eq_nil_iff
    (reparses : platform.ReparsesCanonicalSpecs)
    (valid : url.isValid = true) (pass : FilteredFrom platform url filtered) :
    droppedSegments platform filtered.queryPiece filtered.spec = [] ↔
      carriesConditional filtered.queryPiece = false ∨
        exceptionOccurs filtered.spec = true := by
  have removes := droppedSegments_filtered_ne_nil_iff reparses valid pass
  constructor
  · intro untouched
    cases carries : carriesConditional filtered.queryPiece with
    | false => exact Or.inl rfl
    | true =>
        cases exceptionGone : exceptionOccurs filtered.spec with
        | true => exact Or.inr rfl
        | false => exact absurd untouched (removes.mpr ⟨carries, exceptionGone⟩)
  · intro stays
    by_cases untouched : droppedSegments platform filtered.queryPiece filtered.spec = []
    · exact untouched
    · obtain ⟨carries, exceptionGone⟩ := removes.mp untouched
      rw [carries, exceptionGone] at stays
      simp at stays

/-- When the second pass removes something, it removes the conditional trackers and
nothing else. -/
theorem droppedSegments_filtered_eq (reparses : platform.ReparsesCanonicalSpecs)
    (valid : url.isValid = true) (pass : FilteredFrom platform url filtered)
    (exceptionGone : exceptionOccurs filtered.spec = false) :
    droppedSegments platform filtered.queryPiece filtered.spec =
      (querySegments filtered.queryPiece).filter isConditionalSegment := by
  apply List.filter_congr
  intro kvString inQuery
  have kept := (mem_keptSegments.mp (pass.mem_kept inQuery)).2
  have judged := isDisallowed_filtered reparses valid pass kvString kept
  rw [exceptionGone] at judged
  simp only [and_true] at judged
  exact Bool.eq_iff_iff.mpr judged

theorem exceptionOccurs_of_carriesConditional
    (pass : FilteredFrom platform url filtered)
    (carries : carriesConditional filtered.queryPiece = true) :
    exceptionOccurs url.spec = true := by
  obtain ⟨kvString, inQuery, conditional⟩ := List.any_eq_true.mp carries
  exact exceptionOccurs_of_kept (mem_keptSegments.mp (pass.mem_kept inQuery)).2 conditional

theorem carriesConditional_twice {twice : GURL}
    (reparses : platform.ReparsesCanonicalSpecs) (valid : url.isValid = true)
    (first : FilteredFrom platform url filtered)
    (second : FilteredFrom platform filtered twice) :
    carriesConditional twice.queryPiece = false := by
  have exceptionGone :=
    ((droppedSegments_filtered_ne_nil_iff reparses valid first).mp second.dropped).2
  cases carries : carriesConditional twice.queryPiece with
  | false => rfl
  | true =>
      have stillThere := exceptionOccurs_of_carriesConditional second carries
      rw [exceptionGone] at stillThere
      contradiction

theorem droppedSegments_thrice {twice : GURL}
    (reparses : platform.ReparsesCanonicalSpecs) (valid : url.isValid = true)
    (first : FilteredFrom platform url filtered)
    (second : FilteredFrom platform filtered twice) :
    droppedSegments platform twice.queryPiece twice.spec = [] := by
  by_cases untouched : droppedSegments platform twice.queryPiece twice.spec = []
  · exact untouched
  · have carries :=
      ((droppedSegments_filtered_ne_nil_iff reparses first.valid second).mp untouched).1
    rw [carriesConditional_twice reparses valid first second] at carries
    contradiction

end

/-- A valid URL and the outputs of successive passes over it, newest first. -/
inductive FilterPasses (platform : Platform) : List GURL → Prop
  | start {url : GURL} (valid : url.isValid = true) : FilterPasses platform [url]
  | pass {filtered url : GURL} {earlier : List GURL}
      (passes : FilterPasses platform (url :: earlier))
      (output : FilteredFrom platform url filtered) :
      FilterPasses platform (filtered :: url :: earlier)

namespace FilterPasses

variable {platform : Platform} {urls : List GURL}

theorem head_valid {url : GURL} {earlier : List GURL}
    (passes : FilterPasses platform (url :: earlier)) : url.isValid = true := by
  cases passes with
  | start valid => exact valid
  | pass _ output => exact output.valid

/-- Two passes are enough for every URL. -/
theorem length_le (reparses : platform.ReparsesCanonicalSpecs)
    (passes : FilterPasses platform urls) : urls.length ≤ 3 := by
  cases passes with
  | start => exact Nat.le_add_left 1 2
  | pass passes third =>
      cases passes with
      | start => exact Nat.le_succ 2
      | pass passes second =>
          cases passes with
          | start => exact Nat.le_refl 3
          | pass passes first =>
              have nothingLeft := droppedSegments_thrice reparses passes.head_valid first
                second
              exact absurd nothingLeft third.dropped

theorem pairwise_shorter (passes : FilterPasses platform urls) :
    urls.Pairwise fun later earlier =>
      later.queryPiece.length < earlier.queryPiece.length := by
  induction passes with
  | start => exact List.pairwise_singleton _ _
  | @pass filtered url earlier passes output ih =>
      have shorter := output.query_length_lt
      refine List.pairwise_cons.mpr ⟨?_, ih⟩
      intro older member
      rcases List.mem_cons.mp member with rfl | before
      · exact shorter
      · exact Nat.lt_trans shorter ((List.pairwise_cons.mp ih).1 older before)

end FilterPasses

/-- What one pass leaves for the next: nothing, unless the exception pattern of
a conditional tracker went away with the dropped segments.  Then the next pass
drops the conditional trackers, and the one after it nothing. -/
theorem applyQueryFilter_again (platform : Platform)
    (reparses : platform.ReparsesCanonicalSpecs) (url filtered : GURL)
    (removedTracker removedAgain : List Text)
    (first : (applyQueryFilter platform url removedTracker).1 = some filtered) :
    ((applyQueryFilter platform filtered removedAgain).1 = none ↔
      carriesConditional filtered.queryPiece = false ∨
        exceptionOccurs filtered.spec = true) ∧
    ∀ twice, (applyQueryFilter platform filtered removedAgain).1 = some twice →
      exceptionOccurs url.spec = true ∧
      droppedSegments platform filtered.queryPiece filtered.spec =
        (querySegments filtered.queryPiece).filter isConditionalSegment ∧
      ∀ removedThrice, (applyQueryFilter platform twice removedThrice).1 = none := by
  cases valid : url.isValid with
  | false =>
      have isBlank := applyQueryFilter_of_invalid platform url filtered removedTracker
        valid first
      subst filtered
      have nothing : (applyQueryFilter platform GURL.empty removedAgain).1 = none := by
        rw [applyQueryFilter_eq_none_iff]
        rfl
      have noCarry : carriesConditional GURL.empty.queryPiece = false := rfl
      constructor
      · exact ⟨fun _ => Or.inl noCarry, fun _ => nothing⟩
      · intro twice removed
        rw [nothing] at removed
        contradiction
  | true =>
      have pass := filteredFrom_of_applyQueryFilter valid first
      constructor
      · rw [applyQueryFilter_eq_none_iff]
        exact droppedSegments_filtered_eq_nil_iff reparses valid pass
      · intro twice removed
        have again := filteredFrom_of_applyQueryFilter pass.valid removed
        obtain ⟨carries, exceptionGone⟩ :=
          (droppedSegments_filtered_ne_nil_iff reparses valid pass).mp again.dropped
        refine ⟨exceptionOccurs_of_carriesConditional pass carries,
          droppedSegments_filtered_eq reparses valid pass exceptionGone, ?_⟩
        intro removedThrice
        rw [applyQueryFilter_eq_none_iff]
        exact droppedSegments_thrice reparses valid pass again

theorem applyQueryFilter_again_example :
    exceptionOccurs
        (referenceUrl "https://example.com/?fbclid=unsubscribe&mkt_tok=1").spec = true ∧
      (applyQueryFilter referencePlatform (referenceUrl "https://example.com/") []).1 =
        none :=
  have second := (applyQueryFilter_again referencePlatform referencePlatform_reparses
    (referenceUrl "https://example.com/?fbclid=unsubscribe&mkt_tok=1")
    (referenceUrl "https://example.com/?mkt_tok=1") [] [] (by decide)).2
    (referenceUrl "https://example.com/") (by decide)
  ⟨second.1, second.2.2 []⟩

/-- The word that protects one segment may stand in another that is dropped. -/
theorem applyQueryFilter_not_idempotent :
    (applyQueryFilter referencePlatform
        (referenceUrl "https://example.com/?fbclid=unsubscribe&mkt_tok=1") []).1 =
      some (referenceUrl "https://example.com/?mkt_tok=1") ∧
    (applyQueryFilter referencePlatform
        (referenceUrl "https://example.com/?mkt_tok=1") []).1 ≠ none := by
  decide

end Whale
