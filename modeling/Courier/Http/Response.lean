import Courier.Http.Request
import Courier.Json.Decode
import Courier.Strategy

/-! # Responses

A response is the answer of one exchange with its whole body. A status that reports an error is an
answer like any other.
-/

namespace Courier

/-- A status code. -/
structure Status where
  code : Nat
  deriving DecidableEq, Repr

namespace Status

/-- A code whose first digit is two. -/
def isSuccess (status : Status) : Bool := 200 ≤ status.code && status.code < 300

/-- A code whose first digit is three. -/
def isRedirection (status : Status) : Bool := 300 ≤ status.code && status.code < 400

/-- A code whose first digit is four or five. -/
def isError (status : Status) : Bool := 400 ≤ status.code && status.code < 600

/-- A code that asks for the request to be sent elsewhere. -/
def isFollowed (status : Status) : Bool := [301, 302, 303, 307, 308].contains status.code

end Status

/-- A version of the protocol. -/
inductive Version
  | http10
  | http11
  deriving DecidableEq, Repr

/-- The name of a version. -/
def Version.name : Version → String
  | .http10 => "HTTP/1.0"
  | .http11 => "HTTP/1.1"

/-- The first lines of an answer. -/
structure Head where
  status : Status
  version : Version
  headers : Headers
  deriving DecidableEq, Repr

/-- The answer of one exchange. -/
structure Response where
  status : Status
  version : Version
  headers : Headers
  body : Bytes
  /-- The request that was answered. -/
  request : Request
  /-- How many redirects led to the request. -/
  redirects : UInt32
  /-- Who performed the exchange. -/
  strategy : Strategy
  deriving DecidableEq, Repr

namespace Response

/-- The URL that was asked for. -/
def url (response : Response) : Url := response.request.url

/-- The body as a text, repaired where it is none. -/
def text (response : Response) : String := Utf8.decodeLossy response.body

/-- The place in a chain of redirects of an exchange that follows a response. -/
def hopIndex (previous : Option Response) : UInt32 :=
  match previous with
  | none => 0
  | some response =>
    if response.redirects.toNat + 1 < UInt32.size then response.redirects + 1
    else response.redirects

theorem hopIndex_some_of_lt {response : Response} {limit : UInt32}
    (below : response.redirects < limit) :
    (hopIndex (some response)).toNat = response.redirects.toNat + 1 := by
  have bound := limit.toNat_lt
  have below' : response.redirects.toNat < limit.toNat := below
  have small : response.redirects.toNat + 1 < UInt32.size := by
    simp only [UInt32.size]
    omega
  simp only [hopIndex, small, ↓reduceIte, UInt32.toNat_add]
  exact Nat.mod_eq_of_lt small

/-- The body as a JSON value of a given shape. -/
def json (response : Response) (shape : Json.Shape) : Except Failure Json :=
  match Json.decode? shape response.body with
  | some value => .ok value
  | none => .error ((Failure.of .body (.reply .misshapen)).withUrl response.url)

/-- The URL that the first `location` header names, seen from the URL that was asked for. -/
def location? (response : Response) : Except Failure (Option Url) :=
  let failed := fun (cause : Cause) => (Failure.of .redirect cause).withUrl response.url
  match response.headers.first? .location with
  | none => .ok none
  | some value =>
    match value.visible? with
    | none => .error (failed .headerText)
    | some reference =>
      match response.url.join reference with
      | .ok target => .ok (some target)
      | .error fault => .error (failed (.url fault))

end Response

end Courier
