/-
A concrete platform.

It computes what the browser's libraries return on well-formed input with
ordinary two-label registrable domains, and satisfies the documented behaviours
that the results on abstract platforms name.
-/
import Whale.Platform
import Whale.Url.Reparse

set_option autoImplicit false

namespace Whale

open Whale.Url
open Whale.Net

namespace ReferencePlatform

def lastLabels (host : Text) : List Text :=
  ((host.splitOn '.').reverse.take 2)

def sameDomainOrHost (left right : GURL) : Bool :=
  left.isValid && right.isValid &&
    (left.host == right.host || lastLabels left.host == lastLabels right.host)

def createOrigin (url : GURL) : Origin :=
  match url.isValid, url.parsed.authority with
  | true, some authority => .tuple url.parsed.scheme authority.host authority.port
  | _, _ => .unique

def originParsed (scheme host port : Text) : Parsed :=
  { scheme := scheme
    authority := some { username := [], password := [], host := host, port := port }
    path := ['/']
    query := none
    ref := none }

def originURL : Origin → GURL
  | .tuple scheme host port => GURL.ofParsed (originParsed scheme host port)
  | .unique => GURL.empty

def isDowngrade (referrer target : GURL) : Bool :=
  referrer.schemeIs "https".toList && !target.schemeIs "https".toList

def sanitizeForRequest (target : GURL) (referrer : Referrer) : Referrer :=
  if !target.schemeIsHTTPOrHTTPS || !referrer.url.schemeIsHTTPOrHTTPS then
    { referrer with url := GURL.empty }
  else
    match referrer.policy with
    | .kStrictOriginWhenCrossOrigin =>
        if isDowngrade referrer.url target then { referrer with url := GURL.empty }
        else if (createOrigin referrer.url).isSameOriginWith (createOrigin target) then
          referrer
        else { referrer with url := originURL (createOrigin referrer.url) }
    | _ => referrer

def computeMethod (method : Text) (statusCode : Int) : Text :=
  if statusCode = 303 ∧ method ≠ "HEAD".toList then kGetMethod
  else if (statusCode = 301 ∨ statusCode = 302) ∧ method = "POST".toList then
    kGetMethod
  else method

def computeRedirectInfo (arguments : RedirectArguments) : RedirectInfo :=
  { statusCode := arguments.httpStatusCode
    newMethod := computeMethod arguments.originalMethod arguments.httpStatusCode
    newUrl := arguments.newLocation
    newSiteForCookies := arguments.originalSiteForCookies
    newReferrer := arguments.originalReferrer
    newReferrerPolicy := arguments.originalReferrerPolicy }

end ReferencePlatform

open ReferencePlatform

def referencePlatform : Platform :=
  { isAndroid := false
    enableExtensions := true
    parse := fun text => GURL.ofParsed (parseSpec text)
    sameDomainOrHost := sameDomainOrHost
    createOrigin := createOrigin
    originURL := originURL
    sanitizeForRequest := sanitizeForRequest
    computeRedirectInfo := computeRedirectInfo
    createForRedirect := fun isolationInfo _origin => isolationInfo }

def referenceUrl (spec : String) : GURL :=
  referencePlatform.parse spec.toList

theorem referencePlatform_reparses : referencePlatform.ReparsesCanonicalSpecs :=
  ofParsed_parseSpec

/-- No spec of a valid URL is a text that the canonicalizer would rewrite. -/
example : ["https://A.com/", "https://a.com:443/", "https://", "https://a.com/./"].all
    (fun spec => !(referenceUrl spec).isValid) = true := by
  decide

theorem referencePlatform_redirects : referencePlatform.RedirectsToLocation :=
  fun _arguments _whole => rfl

namespace ReferencePlatform

theorem originParsed_isCanonical (parsed : Parsed) (authority : Authority)
    (canonical : parsed.isCanonical = true)
    (present : parsed.authority = some authority) :
    (originParsed parsed.scheme authority.host authority.port).isCanonical = true := by
  have parts := Parsed.isCanonical_iff.mp canonical
  have delimited := Parsed.delimited_of_isDelimited parts.delimited
  obtain ⟨standard, standing⟩ := delimited.authority authority present
  have written := parts.authority
  rw [present] at written
  simp only [Authority.isDelimited, Bool.and_eq_true] at standing
  obtain ⟨⟨⟨_, hostClean⟩, literal⟩, digits⟩ := standing
  simp only [Option.all_some, Authority.isCanonical, Bool.and_eq_true] at written
  obtain ⟨⟨⟨⟨_, hostGraphic⟩, lowerCase⟩, file⟩, port⟩ := written
  have path : Parsed.hasCanonicalPath (originParsed parsed.scheme authority.host authority.port) =
      true := by
    unfold Parsed.hasCanonicalPath
    simp only [originParsed, standard, if_true]
    decide
  have stands : (if parsed.scheme = "file".toList then
      ([] : Text).isEmpty && ([] : Text).isEmpty && authority.port.isEmpty
      else !authority.host.isEmpty) = true := by
    by_cases isFile : parsed.scheme = "file".toList
    · rw [if_pos isFile] at file ⊢
      simp only [Bool.and_eq_true] at file
      simpa using file.2
    · rw [if_neg isFile] at file ⊢
      exact file
  unfold Parsed.isCanonical
  rw [path]
  simp only [originParsed, Parsed.isDelimited, Authority.isDelimited, Authority.isCanonical,
    delimited.named, delimited.scheme, standard, hostClean, literal, digits, parts.scheme,
    hostGraphic, lowerCase, stands, port, Option.all_some, Option.all_none]
  decide

theorem createOrigin_originURL (url : GURL) :
    originURL (createOrigin (originURL (createOrigin url))) =
      originURL (createOrigin url) := by
  cases valid : url.isValid with
  | false =>
      have isUnique : createOrigin url = .unique := by
        unfold createOrigin
        rw [valid]
      rw [isUnique]
      rfl
  | true =>
      cases present : url.parsed.authority with
      | none =>
          have isUnique : createOrigin url = .unique := by
            unfold createOrigin
            rw [valid, present]
          rw [isUnique]
          rfl
      | some authority =>
          have isTuple : createOrigin url =
              .tuple url.parsed.scheme authority.host authority.port := by
            unfold createOrigin
            rw [valid, present]
          have canonical := originParsed_isCanonical url.parsed authority
            (url.canonical valid) present
          have again : createOrigin (originURL
              (.tuple url.parsed.scheme authority.host authority.port)) =
              .tuple url.parsed.scheme authority.host authority.port := by
            have stillValid : (originURL (.tuple url.parsed.scheme authority.host
                authority.port)).isValid = true := canonical
            rw [createOrigin, stillValid]
            rfl
          rw [isTuple, again]

end ReferencePlatform

theorem referencePlatform_sanitizes : referencePlatform.SanitizesCrossOrigin := by
  intro target referrer _crossOrigin
  change (sanitizeForRequest target _).url = originURL (createOrigin referrer) ∨
    (sanitizeForRequest target _).url.isEmpty = true
  simp only [sanitizeForRequest]
  split
  · exact Or.inr rfl
  · split
    · exact Or.inr rfl
    · split
      · exact Or.inl rfl
      · exact Or.inl (createOrigin_originURL referrer)

end Whale
