import Courier.Duration
import Courier.Failure.Basic
import Courier.Http.Headers
import Courier.Url.Parser
import Courier.Url.Query

/-! # Requests

A request says what one exchange asks for and within which limits. Its setters never fail: an invalid
argument leaves the request as it is but for a note of the first such fault, which is reported when
the request is to be used.
-/

namespace Courier

/-- A request method. -/
structure Method where
  name : String
  deriving DecidableEq, Repr

namespace Method

/-- Asks for a resource. -/
def get : Method := ⟨"GET"⟩
/-- Asks for the headers of a resource. -/
def head : Method := ⟨"HEAD"⟩
/-- Hands data to a resource. -/
def post : Method := ⟨"POST"⟩
/-- Replaces a resource. -/
def put : Method := ⟨"PUT"⟩
/-- Changes a resource. -/
def patch : Method := ⟨"PATCH"⟩
/-- Removes a resource. -/
def delete : Method := ⟨"DELETE"⟩
/-- Asks for a tunnel to a host. -/
def connect : Method := ⟨"CONNECT"⟩

end Method

/-- The deadlines of an exchange. -/
structure Timeouts where
  connect : Duration
  /-- For the head of the answer, and again for its body. -/
  read : Duration
  deriving DecidableEq, Repr

/-- Whether and how far redirects are followed. -/
inductive RedirectPolicy
  | never
  /-- No more than so many. -/
  | atMost (limit : UInt32)
  deriving DecidableEq, Repr

/-- What one exchange asks for. -/
structure Request where
  method : Method
  url : Url
  headers : Headers
  body : Option Bytes
  timeouts : Timeouts
  policy : RedirectPolicy
  /-- How many octets of an answer's body are kept; zero keeps all. -/
  bodyCap : Nat
  /-- The fault of the first setter that had one. -/
  deferred : Option String
  deriving DecidableEq, Repr

namespace Request

/-- Ten seconds to connect and thirty to read. -/
def standardTimeouts : Timeouts := ⟨Duration.ofSeconds 10, Duration.ofSeconds 30⟩

/-- Twenty redirects. -/
def standardPolicy : RedirectPolicy := .atMost 20

/-- Two mebibytes. -/
def standardBodyCap : Nat := 2 * 1024 * 1024

/-- A request with the standard limits, without headers and body. -/
def new (method : Method) (url : Url) : Request :=
  { method, url, headers := .empty, body := none, timeouts := standardTimeouts
    policy := standardPolicy, bodyCap := standardBodyCap, deferred := none }

/-- The URL of a text. -/
def parseUrl (text : String) : Except Failure Url :=
  match Url.parse text with
  | .ok url => .ok url
  | .error fault => .error (.of .builder (.url fault))

/-- A request with the standard limits for the URL of a text. -/
def parse (method : Method) (text : String) : Except Failure Request :=
  (parseUrl text).map (new method)

/-- Fails with the fault of the first setter that had one. -/
def check (request : Request) : Except Failure Unit :=
  match request.deferred with
  | none => .ok ()
  | some message => .error ((Failure.of .builder (.text message)).withUrl request.url)

/-! ## Setters -/

/-- Notes a fault, unless there is one already. -/
def deferFault (request : Request) (message : String) : Request :=
  { request with deferred := request.deferred.or (some message) }

/-- The fault of a setter that is given a name or a value that no header has. -/
def headerFault : String := "invalid header name or value"

/-- Changes the headers by a name and a value, if they are such. -/
def withHeader (request : Request) (change : Headers → HeaderName → HeaderValue → Headers)
    (name value : Bytes) : Request :=
  match HeaderName.ofBytes? name, HeaderValue.ofBytes? value with
  | some name, some value => { request with headers := change request.headers name value }
  | _, _ => request.deferFault headerFault

/-- One more value of a header. -/
def header (request : Request) (name value : Bytes) : Request :=
  request.withHeader Headers.append name value

/-- One value in place of all values of a header. -/
def setHeader (request : Request) (name value : Bytes) : Request :=
  request.withHeader Headers.insert name value

/-- The headers extended by others. -/
def withHeaders (request : Request) (headers : Headers) : Request :=
  { request with headers := request.headers.extend headers }

/-- Pairs appended to the query of the URL. -/
def query (request : Request) (pairs : List (String × String)) : Request :=
  { request with url := request.url.appendPairs pairs }

/-- A setter with its arguments. -/
inductive Step
  | header (name value : Bytes)
  | setHeader (name value : Bytes)
  | withHeaders (headers : Headers)
  | body (body : Option Bytes)
  | timeouts (timeouts : Timeouts)
  | connectTimeout (limit : Duration)
  | readTimeout (limit : Duration)
  | policy (policy : RedirectPolicy)
  | bodyCap (octets : Nat)
  | query (pairs : List (String × String))
  | method (method : Method)
  | url (text : String)
  | deferFault (message : String)
  /-- Nothing but the method and the URL is kept. -/
  | renew
  deriving Repr

/-- The request after a setter. Only a text that is no URL makes it fail. -/
def apply (request : Request) : Step → Except Failure Request
  | .header name value => .ok (request.header name value)
  | .setHeader name value => .ok (request.setHeader name value)
  | .withHeaders headers => .ok (request.withHeaders headers)
  | .body body => .ok { request with body }
  | .timeouts timeouts => .ok { request with timeouts }
  | .connectTimeout connect => .ok { request with timeouts := { request.timeouts with connect } }
  | .readTimeout read => .ok { request with timeouts := { request.timeouts with read } }
  | .policy policy => .ok { request with policy }
  | .bodyCap bodyCap => .ok { request with bodyCap }
  | .query pairs => .ok (request.query pairs)
  | .method method => .ok { request with method }
  | .url text => (parseUrl text).map fun url => { request with url }
  | .deferFault message => .ok (request.deferFault message)
  | .renew => .ok (new request.method request.url)

/-- The request after setters, up to the first that fails. -/
def applyAll (request : Request) (steps : List Step) : Except Failure Request :=
  steps.foldlM apply request

end Request

end Courier
