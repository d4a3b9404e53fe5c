/-
`net::HttpRequestHeaders`: an ordered list of header lines whose names are
compared without regard to ASCII case, and the two-part update that a
`FollowRedirect` message carries.
-/
import Whale.Url.Gurl

set_option autoImplicit false

namespace Whale.Net

open Whale.Url (Text)

structure HeaderKeyValuePair where
  key : Text
  value : Text
  deriving DecidableEq, Repr

structure HttpRequestHeaders where
  headers : List HeaderKeyValuePair
  deriving DecidableEq, Repr

namespace HttpRequestHeaders

def empty : HttpRequestHeaders :=
  { headers := [] }

def equalsCaseInsensitiveASCII (left right : Text) : Bool :=
  left.map Char.toLower == right.map Char.toLower

def getHeader (headers : HttpRequestHeaders) (key : Text) : Option Text :=
  (headers.headers.find? (fun line => equalsCaseInsensitiveASCII line.key key)).map
    HeaderKeyValuePair.value

def setLine (key value : Text) : List HeaderKeyValuePair → List HeaderKeyValuePair
  | [] => [{ key := key, value := value }]
  | line :: rest =>
      if equalsCaseInsensitiveASCII line.key key then
        { line with value := value } :: rest
      else line :: setLine key value rest

def setHeader (headers : HttpRequestHeaders) (key value : Text) :
    HttpRequestHeaders :=
  { headers := setLine key value headers.headers }

def removeHeader (headers : HttpRequestHeaders) (key : Text) : HttpRequestHeaders :=
  { headers :=
      headers.headers.eraseP (fun line => equalsCaseInsensitiveASCII line.key key) }

def mergeFrom (headers other : HttpRequestHeaders) : HttpRequestHeaders :=
  other.headers.foldl (fun merged line => merged.setHeader line.key line.value) headers

end HttpRequestHeaders

/-- The header part of a `FollowRedirect` message. -/
structure HeaderUpdate where
  removedHeaders : List Text
  modifiedHeaders : HttpRequestHeaders
  modifiedCorsExemptHeaders : HttpRequestHeaders
  deriving DecidableEq, Repr

namespace HeaderUpdate

def applyTo (update : HeaderUpdate) (headers : HttpRequestHeaders) :
    HttpRequestHeaders :=
  (update.removedHeaders.foldl HttpRequestHeaders.removeHeader headers).mergeFrom
    update.modifiedHeaders

def applyToCorsExempt (update : HeaderUpdate) (headers : HttpRequestHeaders) :
    HttpRequestHeaders :=
  headers.mergeFrom update.modifiedCorsExemptHeaders

def applyAll (updates : List HeaderUpdate) (headers : HttpRequestHeaders) :
    HttpRequestHeaders :=
  updates.foldl (fun current update => update.applyTo current) headers

def applyAllCorsExempt (updates : List HeaderUpdate) (headers : HttpRequestHeaders) :
    HttpRequestHeaders :=
  updates.foldl (fun current update => update.applyToCorsExempt current) headers

theorem applyAll_concat (updates : List HeaderUpdate) (update : HeaderUpdate)
    (headers : HttpRequestHeaders) :
    applyAll (updates ++ [update]) headers =
      update.applyTo (applyAll updates headers) := by
  simp [applyAll]

theorem applyAllCorsExempt_concat (updates : List HeaderUpdate)
    (update : HeaderUpdate) (headers : HttpRequestHeaders) :
    applyAllCorsExempt (updates ++ [update]) headers =
      update.applyToCorsExempt (applyAllCorsExempt updates headers) := by
  simp [applyAllCorsExempt]

end HeaderUpdate

end Whale.Net
