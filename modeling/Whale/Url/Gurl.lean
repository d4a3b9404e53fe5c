/-
URLs as the browser holds them.

A `GURL` keeps the delimited components of its spec and whether it is valid.
The components of a valid URL are canonical: no component contains the
character that would end it, and each is written as the canonicalizer writes it.
The numbers of IP addresses are not looked at.  Only the operations this component
uses are here.
-/

set_option autoImplicit false

namespace Whale.Url

abbrev Text := List Char

def avoids (forbidden : Text) (text : Text) : Bool :=
  text.all (fun symbol => !forbidden.contains symbol)

/-- Absent parts are empty: canonical URLs have no empty user name with a
password separator and no empty port. -/
structure Authority where
  username : Text
  password : Text
  host : Text
  port : Text
  deriving DecidableEq, Repr

/-- `url::Parsed`, with the component texts in place of their offsets. -/
structure Parsed where
  scheme : Text
  authority : Option Authority
  path : Text
  query : Option Text
  ref : Option Text
  deriving DecidableEq, Repr

def standardSchemes : List Text :=
  ["https".toList, "http".toList, "file".toList, "ftp".toList, "wss".toList,
    "ws".toList, "chrome".toList, "chrome-untrusted".toList,
    "chrome-search".toList, "chrome-extension".toList, "devtools".toList]

def isStandard (scheme : Text) : Bool :=
  standardSchemes.contains scheme

/-- What a port may be left out for. -/
def defaultPort (scheme : Text) : Text :=
  if scheme = "https".toList ∨ scheme = "wss".toList then "443".toList
  else if scheme = "http".toList ∨ scheme = "ws".toList then "80".toList
  else if scheme = "ftp".toList then "21".toList
  else []

def portNumber (port : Text) : Nat :=
  port.foldl (fun number digit => 10 * number + (digit.toNat - '0'.toNat)) 0

/-- Printable ASCII without the space. -/
def isGraphic (symbol : Char) : Bool :=
  '!'.toNat ≤ symbol.toNat && symbol.toNat ≤ '~'.toNat

/-- The digits of an escape are upper case, all else is lower case. -/
def isLowerCase : Text → Bool
  | '%' :: _ :: _ :: rest => isLowerCase rest
  | symbol :: rest => !symbol.isUpper && isLowerCase rest
  | [] => true

/-- A segment of a path that would be resolved. -/
def hasDotSegment : Text → Bool
  | '/' :: '.' :: '.' :: '/' :: _ => true
  | ['/', '.', '.'] => true
  | '/' :: '.' :: '/' :: _ => true
  | ['/', '.'] => true
  | _ :: rest => hasDotSegment rest
  | [] => false

def isCanonicalScheme (scheme : Text) : Bool :=
  scheme.head?.any Char.isLower &&
    scheme.all fun symbol => symbol.isLower || symbol.isDigit || ['+', '-', '.'].contains symbol

namespace Authority

/-- A colon in a host is that of an IPv6 literal, which ends with a bracket. -/
def isDelimited (authority : Authority) : Bool :=
  avoids [':', '@', '/', '?', '#'] authority.username &&
    avoids ['@', '/', '?', '#'] authority.password &&
    avoids ['@', '/', '?', '#'] authority.host &&
    (avoids [':'] authority.host || authority.host.getLast? == some ']') &&
    authority.port.all Char.isDigit

/-- Only files have no host, and they have nothing else. -/
def isCanonical (scheme : Text) (authority : Authority) : Bool :=
  authority.username.all isGraphic && authority.password.all isGraphic &&
    authority.host.all isGraphic && isLowerCase authority.host &&
    (if scheme = "file".toList then
      authority.username.isEmpty && authority.password.isEmpty && authority.port.isEmpty
    else !authority.host.isEmpty) &&
    (authority.port.isEmpty ||
      authority.port != defaultPort scheme && portNumber authority.port ≤ 65535 &&
        (authority.port.head? != some '0' || authority.port.length == 1))

def userInfo (authority : Authority) : Text :=
  if authority.username = [] ∧ authority.password = [] then []
  else if authority.password = [] then authority.username ++ ['@']
  else authority.username ++ ':' :: authority.password ++ ['@']

def hostPort (authority : Authority) : Text :=
  if authority.port = [] then authority.host
  else authority.host ++ ':' :: authority.port

def text (authority : Authority) : Text :=
  authority.userInfo ++ authority.hostPort

end Authority

namespace Parsed

def empty : Parsed :=
  { scheme := [], authority := none, path := [], query := none, ref := none }

def isDelimited (parsed : Parsed) : Bool :=
  !parsed.scheme.isEmpty &&
    avoids [':', '/', '?', '#'] parsed.scheme &&
    avoids ['?', '#'] parsed.path &&
    (match parsed.authority with
      | some authority =>
          isStandard parsed.scheme && authority.isDelimited &&
            (parsed.path.isEmpty || parsed.path.head? == some '/')
      | none => !isStandard parsed.scheme) &&
    (match parsed.query with
      | some query => avoids ['#'] query
      | none => true)

/-- The text can stand as a query behind this scheme. -/
def admitsQuery (parsed : Parsed) (query : Text) : Bool :=
  query.all fun symbol =>
    symbol != '#' &&
      if isStandard parsed.scheme then
        isGraphic symbol && symbol != '"' && symbol != '<' && symbol != '>'
      else symbol == ' ' || isGraphic symbol

/-- A URL without an authority keeps its path almost as it is. -/
def hasCanonicalPath (parsed : Parsed) : Bool :=
  if isStandard parsed.scheme then
    parsed.path.head? == some '/' && parsed.path.all isGraphic &&
      avoids ['"', '<', '>', '\\'] parsed.path && !hasDotSegment parsed.path
  else parsed.path.all fun symbol => symbol == ' ' || isGraphic symbol

def isCanonical (parsed : Parsed) : Bool :=
  parsed.isDelimited && isCanonicalScheme parsed.scheme &&
    parsed.authority.all (Authority.isCanonical parsed.scheme) && parsed.hasCanonicalPath &&
    parsed.query.all parsed.admitsQuery

/-- The parts of `isDelimited`. -/
structure Delimited (parsed : Parsed) : Prop where
  named : parsed.scheme.isEmpty = false
  scheme : avoids [':', '/', '?', '#'] parsed.scheme = true
  path : avoids ['?', '#'] parsed.path = true
  authority : ∀ authority, parsed.authority = some authority →
    isStandard parsed.scheme = true ∧ authority.isDelimited = true
  nonstandard : parsed.authority = none → isStandard parsed.scheme = false

/-- The parts of `isCanonical`. -/
structure Canonical (parsed : Parsed) : Prop where
  delimited : parsed.isDelimited = true
  scheme : isCanonicalScheme parsed.scheme = true
  authority : parsed.authority.all (Authority.isCanonical parsed.scheme) = true
  path : parsed.hasCanonicalPath = true
  query : parsed.query.all parsed.admitsQuery = true

theorem isCanonical_iff {parsed : Parsed} : parsed.isCanonical = true ↔ parsed.Canonical := by
  simp only [isCanonical, Bool.and_eq_true]
  constructor
  · rintro ⟨⟨⟨⟨delimited, scheme⟩, authority⟩, path⟩, query⟩
    exact
      { delimited := delimited
        scheme := scheme
        authority := authority
        path := path
        query := query }
  · intro canonical
    exact ⟨⟨⟨⟨canonical.delimited, canonical.scheme⟩, canonical.authority⟩, canonical.path⟩,
      canonical.query⟩

theorem delimited_of_isDelimited {parsed : Parsed} (clean : parsed.isDelimited = true) :
    parsed.Delimited := by
  simp only [isDelimited, Bool.and_eq_true] at clean
  obtain ⟨⟨⟨⟨named, scheme⟩, path⟩, standing⟩, _query⟩ := clean
  refine ⟨by simpa using named, scheme, path, ?_, ?_⟩
  · intro authority present
    rw [present] at standing
    simp only [Bool.and_eq_true] at standing
    exact standing.1
  · intro absent
    rw [absent] at standing
    simpa using standing

def hierarchy (parsed : Parsed) : Text :=
  (match parsed.authority with
    | some authority => '/' :: '/' :: authority.text
    | none => []) ++ parsed.path

def front (parsed : Parsed) : Text :=
  (if parsed.scheme = [] then [] else parsed.scheme ++ [':']) ++ parsed.hierarchy

def queryText (parsed : Parsed) : Text :=
  match parsed.query with
  | some query => '?' :: query
  | none => []

def refText (parsed : Parsed) : Text :=
  match parsed.ref with
  | some ref => '#' :: ref
  | none => []

def withQuery (parsed : Parsed) (query : Option Text) : Parsed :=
  { parsed with query := query }

def serialize (parsed : Parsed) : Text :=
  parsed.front ++ parsed.queryText ++ parsed.refText

end Parsed

/-- A valid URL cannot be built from components that are not canonical. -/
structure GURL where
  parsed : Parsed
  isValid : Bool
  canonical : isValid = true → parsed.isCanonical = true
  deriving DecidableEq, Repr

/-- The changes this component asks `GURL::Replacements` for. -/
inductive Replacements where
  | clearQuery
  | setQueryStr (query : Text)
  deriving DecidableEq, Repr

def Replacements.apply (replacements : Replacements) (parsed : Parsed) : Parsed :=
  match replacements with
  | .clearQuery => parsed.withQuery none
  | .setQueryStr query => parsed.withQuery (some query)

namespace GURL

def empty : GURL :=
  { parsed := Parsed.empty, isValid := false, canonical := by decide }

/-- The URL with these components, valid when they are canonical. -/
def ofParsed (parsed : Parsed) : GURL :=
  { parsed := parsed
    isValid := parsed.isCanonical
    canonical := fun canonical => canonical }

def possiblyInvalidSpec (url : GURL) : Text :=
  url.parsed.serialize

/-- The spec of an invalid URL reads as the empty string. -/
def spec (url : GURL) : Text :=
  if url.isValid then url.possiblyInvalidSpec else []

def isEmpty (url : GURL) : Bool :=
  url.possiblyInvalidSpec.isEmpty

def schemeIs (url : GURL) (scheme : Text) : Bool :=
  url.parsed.scheme == scheme

def schemeIsHTTPOrHTTPS (url : GURL) : Bool :=
  url.schemeIs "https".toList || url.schemeIs "http".toList

def host (url : GURL) : Text :=
  match url.parsed.authority with
  | some authority => authority.host
  | none => []

def hasQuery (url : GURL) : Bool :=
  url.parsed.query.isSome

def queryPiece (url : GURL) : Text :=
  url.parsed.query.getD []

/-- `url::DomainIs`: `host` is `domain` or a subdomain of it.  A trailing dot
of the host is ignored unless the domain has one too. -/
def hostDomainIs (host domain : Text) : Bool :=
  if host.isEmpty || domain.isEmpty then false
  else
    let compared :=
      if host.getLast? == some '.' && domain.getLast? != some '.' then host.dropLast
      else host
    let before := compared.take (compared.length - domain.length)
    domain.isSuffixOf compared &&
      (domain.head? == some '.' || before.isEmpty || before.getLast? == some '.')

def domainIs (url : GURL) (domain : Text) : Bool :=
  url.isValid && hostDomainIs url.host domain

/-- Invalid URLs cannot be edited: the result is then `GURL()`. -/
def replaceComponents (url : GURL) (replacements : Replacements) : GURL :=
  if url.isValid then ofParsed (replacements.apply url.parsed) else empty

/-! ### What a replacement of the query keeps -/

@[simp] theorem spec_empty : empty.spec = [] := by
  rfl

theorem spec_of_valid (url : GURL) (valid : url.isValid = true) :
    url.spec = url.parsed.serialize := by
  rw [spec, if_pos valid, possiblyInvalidSpec]

theorem spec_ne_nil_of_valid (url : GURL) (valid : url.isValid = true) :
    url.spec ≠ [] := by
  have named := (Parsed.delimited_of_isDelimited
    (Parsed.isCanonical_iff.mp (url.canonical valid)).delimited).named
  rw [spec_of_valid url valid]
  intro blank
  have noScheme : url.parsed.scheme = [] := by
    simp only [Parsed.serialize, Parsed.front, List.append_eq_nil_iff] at blank
    by_cases unnamed : url.parsed.scheme = []
    · exact unnamed
    · rw [if_neg unnamed] at blank
      simp at blank
  rw [noScheme] at named
  cases named

theorem isEmpty_eq_false_of_valid (url : GURL) (valid : url.isValid = true) :
    url.isEmpty = false := by
  have nonempty := spec_ne_nil_of_valid url valid
  rw [spec_of_valid url valid] at nonempty
  simpa [isEmpty, possiblyInvalidSpec] using nonempty

theorem isDelimited_of_valid {url : GURL} (valid : url.isValid = true) :
    url.parsed.isDelimited = true :=
  (Parsed.isCanonical_iff.mp (url.canonical valid)).delimited

theorem avoids_hash_of_admitsQuery {parsed : Parsed} {query : Text}
    (admits : parsed.admitsQuery query = true) : avoids ['#'] query = true := by
  refine List.all_eq_true.mpr fun symbol member => ?_
  have different : symbol ≠ '#' := by
    rintro rfl
    have excluded := List.all_eq_true.mp admits '#' member
    simp at excluded
  simp [different]

/-- A query that is put together from the symbols of another one can stand in its
place. -/
theorem admitsQuery_of_subset {parsed : Parsed} {query other : Text}
    (admits : parsed.admitsQuery query = true)
    (within : ∀ symbol ∈ other, symbol = '&' ∨ symbol ∈ query) :
    parsed.admitsQuery other = true := by
  refine List.all_eq_true.mpr fun symbol member => ?_
  rcases within symbol member with rfl | known
  · cases isStandard parsed.scheme <;> decide
  · exact List.all_eq_true.mp admits symbol known

theorem isDelimited_apply (replacements : Replacements) {parsed : Parsed}
    (delimited : parsed.isDelimited = true)
    (clean : ∀ query, replacements = .setQueryStr query → avoids ['#'] query = true) :
    (replacements.apply parsed).isDelimited = true := by
  simp only [Parsed.isDelimited, Bool.and_eq_true] at delimited ⊢
  cases replacements with
  | clearQuery => exact ⟨delimited.1, rfl⟩
  | setQueryStr query => exact ⟨delimited.1, clean query rfl⟩

/-- The new components of a query replacement are canonical when the new query can
stand there. -/
theorem isCanonical_apply (replacements : Replacements) (parsed : Parsed)
    (canonical : parsed.isCanonical = true)
    (clean : ∀ query, replacements = .setQueryStr query → parsed.admitsQuery query = true) :
    (replacements.apply parsed).isCanonical = true := by
  have parts := Parsed.isCanonical_iff.mp canonical
  have delimited := isDelimited_apply replacements parts.delimited fun query set =>
    avoids_hash_of_admitsQuery (clean query set)
  refine Parsed.isCanonical_iff.mpr ?_
  cases replacements with
  | clearQuery =>
      exact
        { delimited := delimited
          scheme := parts.scheme
          authority := parts.authority
          path := parts.path
          query := rfl }
  | setQueryStr query =>
      exact
        { delimited := delimited
          scheme := parts.scheme
          authority := parts.authority
          path := parts.path
          query := clean query rfl }

/-- Replacing the query of a valid URL by a text that can stand there replaces the query
and nothing else. -/
theorem replaceComponents_of_valid (url : GURL) (replacements : Replacements)
    (valid : url.isValid = true)
    (clean : ∀ query, replacements = .setQueryStr query →
      url.parsed.admitsQuery query = true) :
    (url.replaceComponents replacements).isValid = true ∧
      (url.replaceComponents replacements).parsed =
        replacements.apply url.parsed := by
  rw [replaceComponents, if_pos valid]
  exact ⟨isCanonical_apply replacements url.parsed (url.canonical valid) clean, rfl⟩

/-- An edit of this URL changes its query and nothing else. -/
def ReplacesQueryOnly (url : GURL) : Prop :=
  ∀ replacements : Replacements,
    (url.replaceComponents replacements).parsed = replacements.apply url.parsed

theorem replacesQueryOnly_of_valid (url : GURL) (valid : url.isValid = true) :
    url.ReplacesQueryOnly := by
  intro replacements
  rw [replaceComponents, if_pos valid]
  rfl

theorem replaceComponents_of_invalid (url : GURL) (replacements : Replacements)
    (invalid : url.isValid = false) : url.replaceComponents replacements = empty := by
  rw [replaceComponents, if_neg (by simp [invalid])]

theorem admitsQuery_queryPiece (url : GURL) (valid : url.isValid = true) :
    url.parsed.admitsQuery url.queryPiece = true := by
  have clean := (Parsed.isCanonical_iff.mp (url.canonical valid)).query
  unfold queryPiece
  cases present : url.parsed.query with
  | none => rfl
  | some query =>
      rw [present] at clean
      exact clean

/-- A valid HTTP(S) URL names a host. -/
theorem host_ne_nil (url : GURL) (valid : url.isValid = true)
    (http : url.schemeIsHTTPOrHTTPS = true) : url.host ≠ [] := by
  have canonical := Parsed.isCanonical_iff.mp (url.canonical valid)
  have delimited := Parsed.delimited_of_isDelimited canonical.delimited
  simp only [schemeIsHTTPOrHTTPS, schemeIs, Bool.or_eq_true, beq_iff_eq] at http
  have notFile : url.parsed.scheme ≠ "file".toList := by
    intro file
    rw [file] at http
    exact absurd http (by decide)
  unfold host
  cases present : url.parsed.authority with
  | none =>
      have standing := delimited.nonstandard present
      rcases http with scheme | scheme
      · rw [scheme] at standing
        exact absurd standing (by decide)
      · rw [scheme] at standing
        exact absurd standing (by decide)
  | some authority =>
      have named := canonical.authority
      rw [present] at named
      simp only [Option.all_some, Authority.isCanonical, Bool.and_eq_true, if_neg notFile]
        at named
      simpa using named.1.2

theorem ext_of_valid {left right : GURL} (leftValid : left.isValid = true)
    (rightValid : right.isValid = true) (same : left.parsed = right.parsed) :
    left = right := by
  cases left
  cases right
  simp only at leftValid rightValid same
  subst leftValid
  subst rightValid
  subst same
  rfl

end GURL

end Whale.Url
