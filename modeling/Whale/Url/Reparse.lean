/-
Reading a canonical spec back.

`parseSpec` delimits the components of a text.  On the spec of a valid URL it
recovers the components, so that URLs with canonical components are determined
by their specs.  It does not canonicalize: on other texts it is no model of the
browser's parser.
-/
import Whale.Foundation.Segments
import Whale.Url.Gurl

set_option autoImplicit false

namespace Whale.Url

open Whale.Foundation.Segments

theorem not_mem_of_avoids {forbidden text : Text} {symbol : Char}
    (clean : avoids forbidden text = true) (listed : symbol ∈ forbidden) :
    symbol ∉ text := by
  intro member
  have excluded := List.all_eq_true.mp clean symbol member
  simp [listed] at excluded

/-! ### The authority -/

/-- A port is the digits after the last colon, unless that colon belongs to an
IPv6 literal. -/
def splitPort (text : Text) : Text × Text :=
  let digits := text.reverse.takeWhile Char.isDigit
  match text.reverse.dropWhile Char.isDigit with
  | ':' :: hostReversed =>
      if digits = [] then (text, []) else (hostReversed.reverse, digits.reverse)
  | _ => (text, [])

def parseUserInfo (text : Text) : Text × Text :=
  ((cutFirst ':' text).1, (cutFirst ':' text).2.getD [])

def parseAuthority (text : Text) : Authority :=
  let userInfo :=
    match cutFirst '@' text with
    | (before, some _) => parseUserInfo before
    | (_, none) => ([], [])
  let hostPort :=
    match cutFirst '@' text with
    | (_, some after) => splitPort after
    | (before, none) => splitPort before
  { username := userInfo.1
    password := userInfo.2
    host := hostPort.1
    port := hostPort.2 }

theorem splitPort_portless (host : Text)
    (literal : avoids [':'] host = true ∨ host.getLast? = some ']') :
    splitPort host = (host, []) := by
  unfold splitPort
  cases remaining : host.reverse.dropWhile Char.isDigit with
  | nil => rfl
  | cons symbol rest =>
      by_cases colon : symbol = ':'
      · subst symbol
        rcases literal with colonFree | bracketed
        · have inHost : ':' ∈ host := by
            have inReverse : ':' ∈ host.reverse :=
              (List.dropWhile_suffix Char.isDigit).subset
                (by rw [remaining]; exact List.mem_cons_self)
            exact List.mem_reverse.mp inReverse
          exact absurd inHost (not_mem_of_avoids colonFree (by simp))
        · -- The reversed host starts with the bracket, which is no digit.
          have firstSymbol : host.reverse.head? = some ']' := by
            rw [List.head?_reverse, bracketed]
          cases reversed : host.reverse with
          | nil => rw [reversed] at firstSymbol; contradiction
          | cons first others =>
              rw [reversed] at firstSymbol remaining
              simp only [List.head?_cons, Option.some.injEq] at firstSymbol
              subst first
              have noDigit : Char.isDigit ']' = false := by decide
              rw [List.dropWhile_cons_of_neg (by simp [noDigit])] at remaining
              cases remaining
      · simp only
        split
        · rename_i same
          cases same
          exact absurd rfl colon
        · rfl

theorem splitPort_port (host port : Text) (digits : port.all Char.isDigit = true)
    (nonempty : port ≠ []) : splitPort (host ++ ':' :: port) = (host, port) := by
  have allDigits : ∀ symbol ∈ port.reverse, Char.isDigit symbol = true := by
    intro symbol member
    exact List.all_eq_true.mp digits symbol (List.mem_reverse.mp member)
  have reversed : (host ++ ':' :: port).reverse =
      port.reverse ++ ':' :: host.reverse := by
    simp
  have noDigit : Char.isDigit ':' = false := by decide
  have taken : (host ++ ':' :: port).reverse.takeWhile Char.isDigit =
      port.reverse := by
    rw [reversed, List.takeWhile_append_of_pos allDigits,
      List.takeWhile_cons_of_neg (by simp [noDigit]), List.append_nil]
  have left : (host ++ ':' :: port).reverse.dropWhile Char.isDigit =
      ':' :: host.reverse := by
    rw [reversed, List.dropWhile_append_of_pos allDigits,
      List.dropWhile_cons_of_neg (by simp [noDigit])]
  have notBlank : port.reverse ≠ [] := by simpa using nonempty
  simp only [splitPort, taken, left, if_neg notBlank, List.reverse_reverse]

theorem splitPort_hostPort (authority : Authority)
    (delimited : authority.isDelimited = true) :
    splitPort authority.hostPort = (authority.host, authority.port) := by
  simp only [Authority.isDelimited, Bool.and_eq_true, Bool.or_eq_true,
    beq_iff_eq] at delimited
  obtain ⟨⟨_, literal⟩, digits⟩ := delimited
  unfold Authority.hostPort
  split
  · rename_i portless
    rw [splitPort_portless authority.host literal, portless]
  · rename_i hasPort
    exact splitPort_port authority.host authority.port digits hasPort

theorem at_not_mem_hostPort (authority : Authority)
    (delimited : authority.isDelimited = true) :
    '@' ∉ authority.hostPort := by
  simp only [Authority.isDelimited, Bool.and_eq_true] at delimited
  obtain ⟨⟨⟨_, hostClean⟩, _⟩, digits⟩ := delimited
  have notInHost : '@' ∉ authority.host := not_mem_of_avoids hostClean (by simp)
  have notInPort : '@' ∉ authority.port := by
    intro member
    have isDigit := List.all_eq_true.mp digits '@' member
    revert isDigit
    decide
  unfold Authority.hostPort
  split
  · exact notInHost
  · simp [notInHost, notInPort]

theorem parseAuthority_text (authority : Authority)
    (delimited : authority.isDelimited = true) :
    parseAuthority authority.text = authority := by
  have portRead := splitPort_hostPort authority delimited
  have hostPortClean := at_not_mem_hostPort authority delimited
  simp only [Authority.isDelimited, Bool.and_eq_true] at delimited
  obtain ⟨⟨⟨⟨userClean, passwordClean⟩, _⟩, _⟩, _⟩ := delimited
  have userNoAt : '@' ∉ authority.username := not_mem_of_avoids userClean (by simp)
  have userNoColon : ':' ∉ authority.username := not_mem_of_avoids userClean (by simp)
  have passwordNoAt : '@' ∉ authority.password :=
    not_mem_of_avoids passwordClean (by simp)
  unfold parseAuthority Authority.text Authority.userInfo
  by_cases anonymous : authority.username = [] ∧ authority.password = []
  · rw [if_pos anonymous, List.nil_append, cutFirst_absent '@' _ hostPortClean]
    simp only [portRead]
    cases authority
    simp only at anonymous
    obtain ⟨rfl, rfl⟩ := anonymous
    rfl
  · rw [if_neg anonymous]
    by_cases passwordless : authority.password = []
    · rw [if_pos passwordless, List.append_assoc, List.singleton_append,
        cutFirst_append '@' _ _ userNoAt]
      simp only [portRead, parseUserInfo, cutFirst_absent ':' _ userNoColon,
        Option.getD_none]
      cases authority
      simp only at passwordless
      subst passwordless
      rfl
    · have userInfoClean : '@' ∉ authority.username ++ ':' :: authority.password := by
        simp [userNoAt, passwordNoAt]
      rw [if_neg passwordless, List.append_assoc, List.singleton_append,
        cutFirst_append '@' _ _ userInfoClean]
      simp only [portRead, parseUserInfo, cutFirst_append ':' _ _ userNoColon,
        Option.getD_some]

/-! ### The whole spec -/

def parseSpec (text : Text) : Parsed :=
  match cutFirst ':' text with
  | (_, none) => { Parsed.empty with path := text }
  | (scheme, some rest) =>
      let beforeRef := (cutFirst '#' rest).1
      let hierarchy := (cutFirst '?' beforeRef).1
      let authority := cutFirst '/' (hierarchy.drop 2)
      { scheme := scheme
        authority :=
          if isStandard scheme then some (parseAuthority authority.1) else none
        path :=
          if isStandard scheme then
            match authority.2 with
            | none => []
            | some tail => '/' :: tail
          else hierarchy
        query := (cutFirst '?' beforeRef).2
        ref := (cutFirst '#' rest).2 }

theorem not_mem_authority_text {symbol : Char} (authority : Authority)
    (delimited : authority.isDelimited = true)
    (delimiter : symbol = '/' ∨ symbol = '?' ∨ symbol = '#') :
    symbol ∉ authority.text := by
  simp only [Authority.isDelimited, Bool.and_eq_true] at delimited
  obtain ⟨⟨⟨⟨userClean, passwordClean⟩, hostClean⟩, _⟩, digits⟩ := delimited
  have notUser : symbol ∉ authority.username :=
    not_mem_of_avoids userClean (by rcases delimiter with rfl | rfl | rfl <;> simp)
  have notPassword : symbol ∉ authority.password :=
    not_mem_of_avoids passwordClean (by rcases delimiter with rfl | rfl | rfl <;> simp)
  have notHost : symbol ∉ authority.host :=
    not_mem_of_avoids hostClean (by rcases delimiter with rfl | rfl | rfl <;> simp)
  have notPort : symbol ∉ authority.port := by
    intro member
    have isDigit := List.all_eq_true.mp digits symbol member
    rcases delimiter with rfl | rfl | rfl <;> revert isDigit <;> decide
  have notColon : symbol ≠ ':' := by
    rcases delimiter with rfl | rfl | rfl <;> decide
  have notAt : symbol ≠ '@' := by
    rcases delimiter with rfl | rfl | rfl <;> decide
  simp only [Authority.text, Authority.userInfo, Authority.hostPort, List.mem_append]
  split <;> split <;> (try split) <;>
    simp [notUser, notPassword, notHost, notPort, notColon, notAt]

theorem not_mem_hierarchy {symbol : Char} (parsed : Parsed)
    (delimited : parsed.isDelimited = true)
    (delimiter : symbol = '?' ∨ symbol = '#') : symbol ∉ parsed.hierarchy := by
  simp only [Parsed.isDelimited, Bool.and_eq_true] at delimited
  obtain ⟨⟨⟨_, pathClean⟩, authorityDelimited⟩, _⟩ := delimited
  have notPath : symbol ∉ parsed.path :=
    not_mem_of_avoids pathClean (by rcases delimiter with rfl | rfl <;> simp)
  unfold Parsed.hierarchy
  cases present : parsed.authority with
  | none => simpa using notPath
  | some authority =>
      rw [present] at authorityDelimited
      simp only [Bool.and_eq_true] at authorityDelimited
      have notAuthority : symbol ∉ authority.text :=
        not_mem_authority_text authority authorityDelimited.1.2 (Or.inr delimiter)
      have notSlash : symbol ≠ '/' := by
        rcases delimiter with rfl | rfl <;> decide
      simp [notPath, notAuthority, notSlash]

theorem cutFirst_queryText (parsed : Parsed)
    (delimited : parsed.isDelimited = true) :
    cutFirst '?' (parsed.hierarchy ++ parsed.queryText) =
      (parsed.hierarchy, parsed.query) := by
  have clean : '?' ∉ parsed.hierarchy :=
    not_mem_hierarchy parsed delimited (Or.inl rfl)
  unfold Parsed.queryText
  cases present : parsed.query with
  | none => simpa using cutFirst_absent '?' parsed.hierarchy clean
  | some query => exact cutFirst_append '?' parsed.hierarchy query clean

theorem cutFirst_refText (parsed : Parsed)
    (delimited : parsed.isDelimited = true) :
    cutFirst '#' (parsed.hierarchy ++ parsed.queryText ++ parsed.refText) =
      (parsed.hierarchy ++ parsed.queryText, parsed.ref) := by
  have hierarchyClean : '#' ∉ parsed.hierarchy :=
    not_mem_hierarchy parsed delimited (Or.inr rfl)
  have clean : '#' ∉ parsed.hierarchy ++ parsed.queryText := by
    simp only [Parsed.isDelimited, Bool.and_eq_true] at delimited
    have queryDelimited := delimited.2
    unfold Parsed.queryText
    cases present : parsed.query with
    | none => simpa using hierarchyClean
    | some query =>
        rw [present] at queryDelimited
        have notQuery : '#' ∉ query := not_mem_of_avoids queryDelimited (by simp)
        simp [hierarchyClean, notQuery]
  unfold Parsed.refText
  cases present : parsed.ref with
  | none => simpa using cutFirst_absent '#' _ clean
  | some ref => exact cutFirst_append '#' _ ref clean

theorem cutFirst_authority (parsed : Parsed) (authority : Authority)
    (delimited : parsed.isDelimited = true)
    (present : parsed.authority = some authority) :
    (match (cutFirst '/' (parsed.hierarchy.drop 2)).2 with
      | none => []
      | some tail => '/' :: tail) = parsed.path ∧
      (cutFirst '/' (parsed.hierarchy.drop 2)).1 = authority.text := by
  simp only [Parsed.isDelimited, Bool.and_eq_true] at delimited
  obtain ⟨⟨_, authorityDelimited⟩, _⟩ := delimited
  rw [present] at authorityDelimited
  simp only [Bool.and_eq_true, Bool.or_eq_true, beq_iff_eq] at authorityDelimited
  obtain ⟨⟨_, authorityClean⟩, rooted⟩ := authorityDelimited
  have clean : '/' ∉ authority.text :=
    not_mem_authority_text authority authorityClean (Or.inl rfl)
  have dropped : parsed.hierarchy.drop 2 = authority.text ++ parsed.path := by
    simp [Parsed.hierarchy, present]
  rw [dropped]
  cases path : parsed.path with
  | nil =>
      rw [List.append_nil, cutFirst_absent '/' _ clean]
      exact ⟨rfl, rfl⟩
  | cons first tail =>
      rw [path] at rooted
      simp only [List.isEmpty_cons, Bool.false_eq_true, List.head?_cons,
        Option.some.injEq, false_or] at rooted
      subst first
      rw [cutFirst_append '/' _ _ clean]
      exact ⟨rfl, rfl⟩

theorem parseSpec_serialize (parsed : Parsed)
    (delimited : parsed.isDelimited = true) :
    parseSpec parsed.serialize = parsed := by
  have refCut := cutFirst_refText parsed delimited
  have queryCut := cutFirst_queryText parsed delimited
  have authorityCut := cutFirst_authority parsed
  have parts := delimited
  simp only [Parsed.isDelimited, Bool.and_eq_true, Bool.not_eq_true',
    List.isEmpty_eq_false_iff] at parts
  obtain ⟨⟨⟨⟨named, schemeClean⟩, _⟩, authorityDelimited⟩, _⟩ := parts
  have colonFree : ':' ∉ parsed.scheme := not_mem_of_avoids schemeClean (by simp)
  have layout : parsed.serialize = parsed.scheme ++ ':' ::
      (parsed.hierarchy ++ parsed.queryText ++ parsed.refText) := by
    simp [Parsed.serialize, Parsed.front, if_neg named]
  rw [layout]
  unfold parseSpec
  rw [cutFirst_append ':' _ _ colonFree]
  simp only [refCut, queryCut]
  cases present : parsed.authority with
  | none =>
      rw [present] at authorityDelimited
      simp only [Bool.not_eq_true'] at authorityDelimited
      have plain : parsed.hierarchy = parsed.path := by
        simp [Parsed.hierarchy, present]
      simp only [authorityDelimited, Bool.false_eq_true, if_false, plain]
      rw [← present]
  | some authority =>
      rw [present] at authorityDelimited
      simp only [Bool.and_eq_true] at authorityDelimited
      obtain ⟨pathRead, textRead⟩ := authorityCut authority delimited present
      simp only [authorityDelimited.1.1, if_true, textRead, pathRead,
        parseAuthority_text authority authorityDelimited.1.2]
      rw [← present]

theorem ofParsed_parseSpec (url : GURL) (valid : url.isValid = true) :
    GURL.ofParsed (parseSpec url.spec) = url := by
  have canonical := url.canonical valid
  have components : parseSpec url.spec = url.parsed := by
    rw [GURL.spec_of_valid url valid,
      parseSpec_serialize url.parsed (GURL.isDelimited_of_valid valid)]
  apply GURL.ext_of_valid
  · change (parseSpec url.spec).isCanonical = true
    rw [components]
    exact canonical
  · exact valid
  · exact components

/-- A valid URL is determined by its spec. -/
theorem spec_injective (left right : GURL) (leftValid : left.isValid = true)
    (rightValid : right.isValid = true) (same : left.spec = right.spec) :
    left = right := by
  rw [← ofParsed_parseSpec left leftValid, ← ofParsed_parseSpec right rightValid, same]

end Whale.Url
