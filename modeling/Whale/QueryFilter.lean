/-
`whale_query_filter.cc`: dropping tracking parameters from the query of a URL.

The definitions follow the loop of `StripQueryParameter` and the two guards of
`ApplyQueryFilter`.  The results say what one pass does for every URL: which
segments it keeps, what it records, and that it changes nothing but the query.
The histogram that counts the dropped trackers is not modelled.
-/
import Whale.Foundation.Segments
import Whale.Platform

set_option autoImplicit false

namespace Whale

open Whale.Url (Text GURL Replacements)
open Whale.Foundation

/-! ### The parts of `base/strings` and `re2` in use -/

inductive SplitResult where
  | wantAll
  | wantNonempty
  deriving DecidableEq, Repr

/-- `base::SplitStringPiece` with KEEP_WHITESPACE. -/
def splitStringPiece (input : Text) (separator : Char) (result : SplitResult) :
    List Text :=
  match result with
  | .wantAll => Segments.segments separator input
  | .wantNonempty =>
      (Segments.segments separator input).filter (fun piece => !piece.isEmpty)

def joinString (parts : List Text) (separator : Char) : Text :=
  Segments.join separator parts

/-- Alternatives, each a sequence of character classes. -/
abbrev Pattern := List (List Text)

def literal (text : Text) : List Text :=
  text.map (fun symbol => [symbol])

def startsWithClasses : List Text → Text → Bool
  | [], _ => true
  | _ :: _, [] => false
  | symbols :: classes, symbol :: rest =>
      symbols.contains symbol && startsWithClasses classes rest

/-- `re2::RE2::PartialMatch`: an occurrence anywhere in the text. -/
def partialMatch : Text → Pattern → Bool
  | [], pattern => pattern.any (fun classes => startsWithClasses classes [])
  | symbol :: rest, pattern =>
      pattern.any (fun classes => startsWithClasses classes (symbol :: rest)) ||
        partialMatch rest pattern

/-! ### The tables -/

def kSimpleQueryStringTrackers : List Text :=
  ["fbclid", "gclid", "msclkid", "mc_eid", "dclid", "oly_anon_id", "oly_enc_id",
    "_openstat", "vero_conv", "vero_id", "wickedid", "yclid", "__s", "rb_clickid",
    "s_cid", "ml_subscriber", "ml_subscriber_hash", "twclid", "gbraid", "wbraid",
    "_hsenc", "__hssc", "__hstc", "__hsfp", "hsCtaTracking", "oft_id", "oft_k",
    "oft_lk", "oft_d", "oft_c", "oft_ck", "oft_ids", "oft_sk", "ss_email_id",
    "bsft_uid", "bsft_clkid", "guce_referrer", "guce_referrer_sig",
    "vgo_ee"].map String.toList

def unsubscribePattern : Pattern :=
  ["uU".toList :: literal "nsubscribe".toList, literal "emailWebview".toList]

def kConditionalQueryStringTrackers : List (Text × Pattern) :=
  [("mkt_tok".toList, unsubscribePattern)]

def kScopedQueryStringTrackers : List (Text × Text) :=
  [("igshid".toList, "instagram.com".toList),
    ("ref_src".toList, "twitter.com".toList),
    ("ref_url".toList, "twitter.com".toList)]

/-! ### The filter -/

/-- `pieces[0]`, or the empty string when every piece is empty. -/
def segmentKey (kvString : Text) : Text :=
  (splitStringPiece kvString '=' .wantNonempty).headD []

def hasValue (kvString : Text) : Bool :=
  decide (2 ≤ (splitStringPiece kvString '=' .wantNonempty).length)

def isSimpleTracker (key : Text) : Bool :=
  kSimpleQueryStringTrackers.contains key

def isScopedTracker (platform : Platform) (spec key : Text) : Bool :=
  match kScopedQueryStringTrackers.lookup key with
  | some domain => (platform.parse spec).domainIs domain
  | none => false

def isConditionalTracker (spec key : Text) : Bool :=
  match kConditionalQueryStringTrackers.lookup key with
  | some pattern => !partialMatch spec pattern
  | none => false

def isDisallowed (platform : Platform) (spec kvString : Text) : Bool :=
  hasValue kvString &&
    (isSimpleTracker (segmentKey kvString) ||
      isScopedTracker platform spec (segmentKey kvString) ||
      isConditionalTracker spec (segmentKey kvString))

structure StripState where
  outputKvStrings : List Text
  disallowedCount : Nat
  removedTracker : List Text

def stripStep (platform : Platform) (spec : Text) (state : StripState)
    (kvString : Text) : StripState :=
  if isDisallowed platform spec kvString then
    { state with
      disallowedCount := state.disallowedCount + 1
      removedTracker := state.removedTracker ++ [segmentKey kvString] }
  else { state with outputKvStrings := state.outputKvStrings ++ [kvString] }

/-- The returned query, and `removed_tracker` after the call. -/
def stripQueryParameter (platform : Platform) (query spec : Text)
    (removedTracker : List Text) : Option Text × List Text :=
  let final := (splitStringPiece query '&' .wantAll).foldl (stripStep platform spec)
    { outputKvStrings := [], disallowedCount := 0, removedTracker := removedTracker }
  if 0 < final.disallowedCount then
    (some (joinString final.outputKvStrings '&'), final.removedTracker)
  else (none, final.removedTracker)

def queryReplacements (cleanQuery : Text) : Replacements :=
  if cleanQuery.isEmpty then .clearQuery else .setQueryStr cleanQuery

/-- The filtered URL, and `removed_tracker` after the call. -/
def applyQueryFilter (platform : Platform) (originalUrl : GURL)
    (removedTracker : List Text) : Option GURL × List Text :=
  let query := originalUrl.queryPiece
  let spec := originalUrl.spec
  let stripped := stripQueryParameter platform query spec removedTracker
  match stripped.1 with
  | none => (none, stripped.2)
  | some cleanQuery =>
      if cleanQuery.length < query.length then
        (some (originalUrl.replaceComponents (queryReplacements cleanQuery)),
          stripped.2)
      else (none, stripped.2)

/-! ### What the loop computes -/

def querySegments (query : Text) : List Text :=
  splitStringPiece query '&' .wantAll

def keptSegments (platform : Platform) (query spec : Text) : List Text :=
  (querySegments query).filter (fun kvString => !isDisallowed platform spec kvString)

def droppedSegments (platform : Platform) (query spec : Text) : List Text :=
  (querySegments query).filter (isDisallowed platform spec)

theorem foldl_stripStep (platform : Platform) (spec : Text)
    (kvStrings : List Text) (state : StripState) :
    kvStrings.foldl (stripStep platform spec) state =
      { outputKvStrings := state.outputKvStrings ++
          kvStrings.filter (fun kvString => !isDisallowed platform spec kvString)
        disallowedCount := state.disallowedCount +
          (kvStrings.filter (isDisallowed platform spec)).length
        removedTracker := state.removedTracker ++
          (kvStrings.filter (isDisallowed platform spec)).map segmentKey } := by
  induction kvStrings generalizing state with
  | nil => simp
  | cons kvString rest ih =>
      rw [List.foldl_cons, ih]
      cases dropped : isDisallowed platform spec kvString with
      | true => simp [stripStep, dropped]; omega
      | false => simp [stripStep, dropped]

/-- The query is rewritten exactly when a segment is dropped, and the keys of
the dropped segments are recorded in order. -/
theorem stripQueryParameter_eq (platform : Platform) (query spec : Text)
    (removedTracker : List Text) :
    stripQueryParameter platform query spec removedTracker =
      (if droppedSegments platform query spec = [] then none
        else some (joinString (keptSegments platform query spec) '&'),
        removedTracker ++ (droppedSegments platform query spec).map segmentKey) := by
  have loop := foldl_stripStep platform spec (querySegments query)
    { outputKvStrings := [], disallowedCount := 0, removedTracker := removedTracker }
  simp only [List.nil_append, Nat.zero_add] at loop
  change (querySegments query).foldl (stripStep platform spec) _ =
    { outputKvStrings := keptSegments platform query spec
      disallowedCount := (droppedSegments platform query spec).length
      removedTracker :=
        removedTracker ++ (droppedSegments platform query spec).map segmentKey } at loop
  rw [querySegments] at loop
  simp only [stripQueryParameter, loop]
  cases dropped : droppedSegments platform query spec with
  | nil => simp
  | cons first rest => simp

/-! ### One pass over a URL -/

theorem join_querySegments (query : Text) :
    joinString (querySegments query) '&' = query :=
  Segments.join_segments '&' query

theorem mem_droppedSegments {platform : Platform} {query spec kvString : Text} :
    kvString ∈ droppedSegments platform query spec ↔
      kvString ∈ querySegments query ∧ isDisallowed platform spec kvString = true :=
  List.mem_filter

theorem mem_keptSegments {platform : Platform} {query spec kvString : Text} :
    kvString ∈ keptSegments platform query spec ↔
      kvString ∈ querySegments query ∧ isDisallowed platform spec kvString = false := by
  rw [keptSegments, List.mem_filter, Bool.not_eq_true']

/-- The empty segment has no value, so it is never dropped. -/
theorem ne_nil_of_isDisallowed {platform : Platform} {spec kvString : Text}
    (dropped : isDisallowed platform spec kvString = true) : kvString ≠ [] := by
  intro blank
  subst kvString
  have valueless : hasValue [] = false := by decide
  rw [isDisallowed, valueless, Bool.false_and] at dropped
  contradiction

theorem joinString_kept_length_lt {platform : Platform} {query spec : Text}
    (dropped : droppedSegments platform query spec ≠ []) :
    (joinString (keptSegments platform query spec) '&').length < query.length := by
  obtain ⟨kvString, member⟩ := List.exists_mem_of_ne_nil _ dropped
  obtain ⟨inQuery, disallowed⟩ := mem_droppedSegments.mp member
  have shorter := Segments.join_filter_length_lt '&'
    (fun segment => !isDisallowed platform spec segment) (querySegments query)
    kvString inQuery (by simp [disallowed]) (ne_nil_of_isDisallowed disallowed)
  have whole := join_querySegments query
  unfold joinString at whole
  rw [whole] at shorter
  exact shorter

/-- The length guard of `ApplyQueryFilter` never discards a stripped query. -/
theorem applyQueryFilter_eq (platform : Platform) (url : GURL)
    (removedTracker : List Text) :
    applyQueryFilter platform url removedTracker =
      (if droppedSegments platform url.queryPiece url.spec = [] then none
        else some (url.replaceComponents (queryReplacements
          (joinString (keptSegments platform url.queryPiece url.spec) '&'))),
        removedTracker ++
          (droppedSegments platform url.queryPiece url.spec).map segmentKey) := by
  unfold applyQueryFilter
  simp only [stripQueryParameter_eq]
  by_cases untouched : droppedSegments platform url.queryPiece url.spec = []
  · simp only [if_pos untouched]
  · simp only [if_neg untouched, if_pos (joinString_kept_length_lt untouched)]

theorem applyQueryFilter_eq_none_iff (platform : Platform) (url : GURL)
    (removedTracker : List Text) :
    (applyQueryFilter platform url removedTracker).1 = none ↔
      droppedSegments platform url.queryPiece url.spec = [] := by
  rw [applyQueryFilter_eq]
  by_cases untouched : droppedSegments platform url.queryPiece url.spec = []
  · simp [untouched]
  · simp [untouched]

theorem applyQueryFilter_of_invalid (platform : Platform) (url filtered : GURL)
    (removedTracker : List Text) (invalid : url.isValid = false)
    (first : (applyQueryFilter platform url removedTracker).1 = some filtered) :
    filtered = GURL.empty := by
  rw [applyQueryFilter_eq] at first
  by_cases untouched : droppedSegments platform url.queryPiece url.spec = []
  · simp [untouched] at first
  · simp only [if_neg untouched, Option.some.injEq] at first
    rw [← first]
    exact url.replaceComponents_of_invalid _ invalid

theorem mem_joinString_kept (platform : Platform) {query : Text} (spec : Text) {symbol : Char}
    (member : symbol ∈ joinString (keptSegments platform query spec) '&') :
    symbol = '&' ∨ symbol ∈ query := by
  by_cases separates : symbol = '&'
  · exact Or.inl separates
  · right
    obtain ⟨kvString, isKept, inSegment⟩ :=
      Segments.mem_part_of_mem_join '&' symbol _ separates member
    have inQuery := (mem_keptSegments.mp isKept).1
    have inJoin := Segments.mem_join_of_mem_part '&' symbol _ kvString inQuery inSegment
    have whole := join_querySegments query
    unfold joinString at whole
    rw [whole] at inJoin
    exact inJoin

def writtenQuery (cleanQuery : Text) : Option Text :=
  if cleanQuery.isEmpty then none else some cleanQuery

theorem writtenQuery_getD (cleanQuery : Text) :
    (writtenQuery cleanQuery).getD [] = cleanQuery := by
  cases cleanQuery <;> rfl

theorem apply_queryReplacements (cleanQuery : Text) (parsed : Whale.Url.Parsed) :
    (queryReplacements cleanQuery).apply parsed =
      parsed.withQuery (writtenQuery cleanQuery) := by
  cases cleanQuery <;> rfl

theorem replaceComponents_queryReplacements (url : GURL) (cleanQuery : Text)
    (valid : url.isValid = true) (clean : url.parsed.admitsQuery cleanQuery = true) :
    (url.replaceComponents (queryReplacements cleanQuery)).isValid = true ∧
      (url.replaceComponents (queryReplacements cleanQuery)).parsed =
        url.parsed.withQuery (writtenQuery cleanQuery) := by
  have edited := url.replaceComponents_of_valid (queryReplacements cleanQuery) valid (by
    intro query same
    cases cleanQuery with
    | nil => cases same
    | cons symbol rest =>
        cases same
        exact clean)
  rw [apply_queryReplacements] at edited
  exact edited

/-- What a pass that removes something makes of a valid URL. -/
structure FilteredFrom (platform : Platform) (url filtered : GURL) : Prop where
  valid : filtered.isValid = true
  query : filtered.queryPiece =
    joinString (keptSegments platform url.queryPiece url.spec) '&'
  frame : filtered.parsed = url.parsed.withQuery filtered.parsed.query
  dropped : droppedSegments platform url.queryPiece url.spec ≠ []

theorem filteredFrom_of_applyQueryFilter {platform : Platform} {url filtered : GURL}
    {removedTracker : List Text} (valid : url.isValid = true)
    (removed : (applyQueryFilter platform url removedTracker).1 = some filtered) :
    FilteredFrom platform url filtered := by
  rw [applyQueryFilter_eq] at removed
  by_cases untouched : droppedSegments platform url.queryPiece url.spec = []
  · simp [untouched] at removed
  · simp only [if_neg untouched, Option.some.injEq] at removed
    subst filtered
    have clean := GURL.admitsQuery_of_subset (url.admitsQuery_queryPiece valid)
      fun _symbol member => mem_joinString_kept platform url.spec member
    obtain ⟨stillValid, components⟩ := replaceComponents_queryReplacements url _
      valid clean
    refine ⟨stillValid, ?_, ?_, untouched⟩
    · rw [GURL.queryPiece, components]
      exact writtenQuery_getD _
    · rw [components]
      rfl

namespace FilteredFrom

variable {platform : Platform} {url filtered : GURL}

theorem query_length_lt (result : FilteredFrom platform url filtered) :
    filtered.queryPiece.length < url.queryPiece.length := by
  rw [result.query]
  exact joinString_kept_length_lt result.dropped

theorem host_eq (result : FilteredFrom platform url filtered) :
    filtered.host = url.host := by
  have authority : filtered.parsed.authority = url.parsed.authority := by
    rw [result.frame]
    rfl
  unfold GURL.host
  rw [authority]

theorem domainIs_eq (result : FilteredFrom platform url filtered)
    (valid : url.isValid = true) (domain : Text) :
    filtered.domainIs domain = url.domainIs domain := by
  rw [GURL.domainIs, GURL.domainIs, result.valid, valid, result.host_eq]

theorem mem_kept (result : FilteredFrom platform url filtered) {kvString : Text}
    (member : kvString ∈ querySegments filtered.queryPiece) :
    kvString ∈ keptSegments platform url.queryPiece url.spec := by
  rw [result.query] at member
  apply Segments.mem_parts_of_mem_segments_join '&' _ _ kvString member
  intro part isKept
  exact Segments.delimiter_not_mem_segments '&' url.queryPiece part
    (mem_keptSegments.mp isKept).1

end FilteredFrom

end Whale
