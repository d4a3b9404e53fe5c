/-
What the query filter does to each segment and to the whole URL.

The code takes the pieces between the '=' signs of a segment and throws the empty
ones away.  So signs in front of the name do not count, the name ends at the next
one, and a value of '=' signs alone is no value.
-/
import Whale.QueryFilter
import Whale.ReferencePlatform

set_option autoImplicit false

namespace Whale

open Whale.Url (Text GURL)
open Whale.Foundation

/-! ### Names and values -/

def isTrackingName (platform : Platform) (spec name : Text) : Bool :=
  isSimpleTracker name || isScopedTracker platform spec name ||
    isConditionalTracker spec name

/-- The segment without the '=' signs in front. -/
def bareSegment (kvString : Text) : Text :=
  kvString.dropWhile (· == '=')

def segmentName (kvString : Text) : Text :=
  (Segments.cutFirst '=' (bareSegment kvString)).1

/-- The text after the name and its '=', when there is one. -/
def segmentValue (kvString : Text) : Option Text :=
  (Segments.cutFirst '=' (bareSegment kvString)).2

def saysSomething (value : Text) : Bool :=
  value.any (· != '=')

def isTrackingSegment (platform : Platform) (spec kvString : Text) : Bool :=
  isTrackingName platform spec (segmentName kvString) &&
    (segmentValue kvString).any saysSomething

theorem saysSomething_iff (value : Text) :
    saysSomething value = true ↔ Segments.nonemptyPieces '=' value ≠ [] := by
  rw [Ne, Segments.nonemptyPieces_eq_nil_iff]
  simp [saysSomething]

theorem pieces_bareSegment (kvString : Text) :
    splitStringPiece kvString '=' .wantNonempty =
      Segments.nonemptyPieces '=' (bareSegment kvString) :=
  (Segments.nonemptyPieces_dropWhile '=' kvString).symm

theorem bareSegment_head_ne {kvString : Text} {symbol : Char} {rest : Text}
    (bare : bareSegment kvString = symbol :: rest) : symbol ≠ '=' := by
  have stopped := List.head?_dropWhile_not (· == '=') kvString
  rw [← bareSegment, bare] at stopped
  simpa using stopped

/-- The code's key is the name, whatever the segment. -/
theorem segmentKey_eq (kvString : Text) : segmentKey kvString = segmentName kvString := by
  unfold segmentKey segmentName
  rw [pieces_bareSegment]
  cases bare : bareSegment kvString with
  | nil => rfl
  | cons symbol rest =>
      rw [Segments.nonemptyPieces_of_ne '=' symbol rest (bareSegment_head_ne bare)]
      rfl

theorem hasValue_eq (kvString : Text) :
    hasValue kvString = (segmentValue kvString).any saysSomething := by
  unfold hasValue segmentValue
  rw [pieces_bareSegment]
  cases bare : bareSegment kvString with
  | nil => rfl
  | cons symbol rest =>
      rw [Segments.nonemptyPieces_of_ne '=' symbol rest (bareSegment_head_ne bare)]
      cases (Segments.cutFirst '=' (symbol :: rest)).2 with
      | none => rfl
      | some value =>
          rw [Option.any_some, Bool.eq_iff_iff, saysSomething_iff, decide_eq_true_eq]
          cases pieces : Segments.nonemptyPieces '=' value with
          | nil => simp [pieces]
          | cons first others => simp [pieces]

theorem isDisallowed_eq (platform : Platform) (spec kvString : Text) :
    isDisallowed platform spec kvString = isTrackingSegment platform spec kvString := by
  unfold isDisallowed isTrackingSegment isTrackingName
  rw [segmentKey_eq, hasValue_eq, Bool.and_comm]

/-! ### The law at the first '=' -/

theorem bareSegment_of_head_ne {kvString : Text} (named : kvString.head? ≠ some '=') :
    bareSegment kvString = kvString := by
  cases kvString with
  | nil => rfl
  | cons symbol rest =>
      have different : symbol ≠ '=' := by simpa using named
      simp [bareSegment, different]

theorem isTrackingSegment_of_absent (platform : Platform) (spec kvString : Text)
    (absent : '=' ∉ kvString) : isTrackingSegment platform spec kvString = false := by
  have named : kvString.head? ≠ some '=' :=
    fun isHead => absent (List.mem_of_mem_head? isHead)
  unfold isTrackingSegment segmentValue
  rw [bareSegment_of_head_ne named, Segments.cutFirst_absent '=' kvString absent]
  exact Bool.and_false _

theorem isTrackingSegment_of_blank (platform : Platform) (spec kvString : Text)
    (blank : segmentName kvString = []) :
    isTrackingSegment platform spec kvString = false := by
  unfold isTrackingSegment segmentValue
  unfold segmentName at blank
  cases bare : bareSegment kvString with
  | nil => exact Bool.and_false _
  | cons symbol rest =>
      rw [bare, Segments.cutFirst, if_neg (bareSegment_head_ne bare)] at blank
      contradiction

/-- Where no '=' stands in front and the value is not made of '=' signs alone, the
first '=' is the one between name and value. -/
theorem isTrackingSegment_of_plain (platform : Platform) (spec kvString : Text)
    (named : kvString.head? ≠ some '=')
    (plain : ∀ value, (Segments.cutFirst '=' kvString).2 = some value → value ≠ [] →
      saysSomething value = true) :
    isTrackingSegment platform spec kvString =
      (isTrackingName platform spec (Segments.cutFirst '=' kvString).1 &&
        (Segments.cutFirst '=' kvString).2.any (fun value => !value.isEmpty)) := by
  unfold isTrackingSegment segmentName segmentValue
  rw [bareSegment_of_head_ne named]
  cases found : (Segments.cutFirst '=' kvString).2 with
  | none => rfl
  | some value =>
      cases value with
      | nil => rfl
      | cons symbol rest =>
          have speaks := plain (symbol :: rest) found (List.cons_ne_nil symbol rest)
          simp [speaks]

/-- A segment is dropped exactly when, after the '=' signs in front of it, it has a
tracking name and a value with another symbol than '='. -/
theorem stripQueryParameter_drops (platform : Platform) (query spec : Text)
    (removedTracker : List Text) :
    let dropped := (querySegments query).filter (isTrackingSegment platform spec)
    let kept := (querySegments query).filter
      (fun kvString => !isTrackingSegment platform spec kvString)
    stripQueryParameter platform query spec removedTracker =
        (if dropped = [] then none else some (joinString kept '&'),
          removedTracker ++ dropped.map segmentName) ∧
      ∀ kvString ∈ querySegments query,
        ('=' ∉ kvString → kvString ∉ dropped) ∧
        (segmentName kvString = [] → kvString ∉ dropped) ∧
        (kvString.head? ≠ some '=' →
          (∀ value, (Segments.cutFirst '=' kvString).2 = some value → value ≠ [] →
            saysSomething value = true) →
          (kvString ∈ dropped ↔
            isTrackingName platform spec (Segments.cutFirst '=' kvString).1 = true ∧
              ∃ value, (Segments.cutFirst '=' kvString).2 = some value ∧ value ≠ [])) := by
  intro dropped kept
  constructor
  · have sameKey : segmentKey = segmentName := funext segmentKey_eq
    have sameJudge : isDisallowed platform spec = isTrackingSegment platform spec :=
      funext (isDisallowed_eq platform spec)
    rw [stripQueryParameter_eq, sameKey]
    unfold droppedSegments keptSegments
    rw [sameJudge]
  · intro kvString inQuery
    have mem_dropped : kvString ∈ dropped ↔ isTrackingSegment platform spec kvString = true := by
      rw [List.mem_filter]
      exact and_iff_right inQuery
    rw [mem_dropped]
    refine ⟨?_, ?_, ?_⟩
    · intro absent
      simp [isTrackingSegment_of_absent platform spec kvString absent]
    · intro blank
      simp [isTrackingSegment_of_blank platform spec kvString blank]
    · intro named plain
      rw [isTrackingSegment_of_plain platform spec kvString named plain, Bool.and_eq_true,
        Option.any_eq_true]
      simp

/-- A '=' in front of the name does not protect a segment, and a '=' is no value. -/
theorem stripQueryParameter_equalsSigns :
    (stripQueryParameter referencePlatform "=fbclid=1".toList
        "https://example.com/?=fbclid=1".toList []).1 = some [] ∧
      Segments.cutFirst '=' "=fbclid=1".toList = ([], some "fbclid=1".toList) ∧
      (stripQueryParameter referencePlatform "fbclid==".toList
        "https://example.com/?fbclid==".toList []).1 = none ∧
      Segments.cutFirst '=' "fbclid==".toList = ("fbclid".toList, some ['=']) ∧
      isTrackingName referencePlatform "https://example.com/?fbclid==".toList
        "fbclid".toList = true := by
  decide

/-! ### The whole URL -/

/-- A URL comes back exactly when a segment is dropped, and then the query, and only
the query, is what the other segments leave of it. -/
theorem applyQueryFilter_result (platform : Platform) (url : GURL)
    (removedTracker : List Text) :
    let dropped := droppedSegments platform url.queryPiece url.spec
    let cleanQuery := joinString (keptSegments platform url.queryPiece url.spec) '&'
    let result := applyQueryFilter platform url removedTracker
    stripQueryParameter platform url.queryPiece url.spec removedTracker =
        (if dropped = [] then none else some cleanQuery,
          removedTracker ++ dropped.map segmentKey) ∧
      (result.1.isSome = true ↔ dropped ≠ []) ∧
      result.2 = removedTracker ++ dropped.map segmentKey ∧
      (result.1 = none → result.2 = removedTracker) ∧
      ∀ filtered, result.1 = some filtered → url.ReplacesQueryOnly →
        filtered.parsed = url.parsed.withQuery (writtenQuery cleanQuery) ∧
        filtered.queryPiece = cleanQuery ∧
        filtered.queryPiece.length < url.queryPiece.length := by
  intro dropped cleanQuery result
  have whole : result = _ := applyQueryFilter_eq platform url removedTracker
  refine ⟨stripQueryParameter_eq platform _ _ _, ?_, ?_, ?_, ?_⟩
  · rw [whole]
    by_cases untouched : droppedSegments platform url.queryPiece url.spec = []
    · simp [dropped, untouched]
    · simp [dropped, untouched]
  · rw [whole]
  · intro nothing
    have untouched : dropped = [] :=
      (applyQueryFilter_eq_none_iff platform url removedTracker).mp nothing
    rw [whole]
    change removedTracker ++ dropped.map segmentKey = removedTracker
    rw [untouched, List.map_nil, List.append_nil]
  · intro filtered removed replaces
    have removes : dropped ≠ [] := by
      intro untouched
      have nothing : result.1 = none :=
        (applyQueryFilter_eq_none_iff platform url removedTracker).mpr untouched
      rw [nothing] at removed
      contradiction
    have edited : url.replaceComponents (queryReplacements cleanQuery) = filtered := by
      rw [whole, if_neg removes] at removed
      exact Option.some.inj removed
    have components : filtered.parsed = url.parsed.withQuery (writtenQuery cleanQuery) := by
      rw [← edited, replaces, apply_queryReplacements]
    have query : filtered.queryPiece = cleanQuery := by
      rw [GURL.queryPiece, components]
      exact writtenQuery_getD cleanQuery
    refine ⟨components, query, ?_⟩
    rw [query]
    exact joinString_kept_length_lt removes

theorem applyQueryFilter_result_example :
    (referenceUrl "https://example.com/?a=1&&=").queryPiece.length <
      (referenceUrl "https://example.com/?a=1&&gclid=2&=").queryPiece.length :=
  ((applyQueryFilter_result referencePlatform
    (referenceUrl "https://example.com/?a=1&&gclid=2&=") ["utm".toList]).2.2.2.2
      (referenceUrl "https://example.com/?a=1&&=") (by decide)
      (GURL.replacesQueryOnly_of_valid _ (by decide))).2.2

end Whale
