import Courier.Builder.ContentType
import Courier.Builder.Datum
import Courier.Client.Call
import Courier.Text.Base64

/-! # Building requests

A builder collects what a request consists of, before its method and URL are known. Its setters never
fail: the first fault is noted and reported instead of sending anything.
-/

namespace Courier

/-- A request in the making. -/
structure Builder where
  headers : Headers
  body : Option Bytes
  /-- Pairs for the query of the URL. -/
  query : List (String × String)
  timeouts : Timeouts
  policy : RedirectPolicy
  /-- How many octets of an answer's body are kept, if not as many as usual. -/
  bodyCap : Option Nat
  /-- The fault of the first setter that had one. -/
  deferred : Option String
  /-- A setter of the body has been called. -/
  bodySet : Bool
  /-- What is done is to be logged. -/
  debugging : Bool
  deriving DecidableEq, Repr

namespace Builder

/-- A builder on which no setter has been called. -/
def new : Builder :=
  { headers := .empty, body := none, query := [], timeouts := Request.standardTimeouts
    policy := Request.standardPolicy, bodyCap := none, deferred := none, bodySet := false
    debugging := false }

/-- Notes a fault, unless there is one already. -/
def deferFault (builder : Builder) (message : String) : Builder :=
  { builder with deferred := builder.deferred.or (some message) }

/-! ## Headers -/

/-- Changes the headers by a name and a value, if they are such. -/
def withHeader (builder : Builder) (change : Headers → HeaderName → HeaderValue → Headers)
    (name value : Bytes) : Builder :=
  match HeaderName.ofBytes? name, HeaderValue.ofBytes? value with
  | some name, some value => { builder with headers := change builder.headers name value }
  | _, _ => builder.deferFault Request.headerFault

/-- One more value of a header. -/
def header (builder : Builder) (name value : Bytes) : Builder :=
  builder.withHeader Headers.append name value

/-- One value in place of all values of a header. -/
def setHeader (builder : Builder) (name value : Bytes) : Builder :=
  builder.withHeader Headers.insert name value

/-- One text in place of all values of a header. -/
def setText (builder : Builder) (name : HeaderName) (value : String) : Builder :=
  builder.setHeader (Utf8.encode name.text) (Utf8.encode value)

/-- The type of the body. -/
def contentType (builder : Builder) (type : ContentType) : Builder :=
  builder.setText .contentType type.text

/-- The value of the header for a name and a password, an absent one being empty. -/
def basicCredentials (user : String) (password : Option String) : String :=
  "Basic " ++ Base64.encode (Utf8.encode (user ++ ":" ++ password.getD ""))

/-! ## Bodies -/

/-- The body, as it is sent. -/
def withBody (builder : Builder) (body : Bytes) : Builder :=
  { builder with body := some body, bodySet := true }

/-- The body that an encoding makes, if it makes one. -/
def encoded (builder : Builder) (text : Except FormFault String) : Builder :=
  match text with
  | .ok text => builder.withBody (Utf8.encode text)
  | .error fault =>
    { builder.deferFault ("failed to serialize request body: " ++ fault.message) with
      bodySet := true }

/-- Whether a sequence occurs in another. -/
def occursIn (part : List Char) : List Char → Bool
  | [] => part = []
  | c :: rest => part.isPrefixOf (c :: rest) || occursIn part rest

/-- Whether the first content type names the form encoding. -/
def saysForm (builder : Builder) : Bool :=
  match (builder.headers.first? .contentType).bind HeaderValue.visible? with
  | none => false
  | some text => occursIn ContentType.form.text.toList text.toList

/-- The body made from a datum as the content type says: form encoding or else JSON. -/
def datumBody (builder : Builder) (datum : Datum) : Builder :=
  builder.encoded (if builder.saysForm then datum.formText else .ok datum.jsonText)

/-- The body made from a datum in form encoding. -/
def form (builder : Builder) (datum : Datum) : Builder :=
  (builder.contentType .form).encoded datum.formText

/-- The body made from a datum as JSON. -/
def jsonBody (builder : Builder) (datum : Datum) : Builder :=
  (builder.contentType .json).encoded (.ok datum.jsonText)

/-- A text as body; it is plain text unless the content type says otherwise. -/
def textBody (builder : Builder) (text : String) : Builder :=
  let typed :=
    if builder.headers.contains .contentType then builder else builder.contentType .plainText
  typed.withBody (Utf8.encode text)

/-! ## Setters -/

/-- A setter with its arguments. -/
inductive Setter
  | header (name value : Bytes)
  | setHeader (name value : Bytes)
  /-- Several headers, one after another. -/
  | headers (pairs : List (Bytes × Bytes))
  | cacheControl (value : String)
  | userAgent (value : String)
  | accept (value : AcceptValue)
  | contentType (type : ContentType)
  | apiKey (key : String)
  | basicAuth (user : String) (password : Option String)
  | bearerAuth (token : String)
  | debug
  | connectTimeout (limit : Duration)
  | readTimeout (limit : Duration)
  /-- One limit for both deadlines, in seconds. -/
  | timeoutSeconds (seconds : Nat)
  | policy (policy : RedirectPolicy)
  | bodyCap (octets : Nat)
  | query (pairs : List (String × String))
  | body (datum : Datum)
  | jsonBody (datum : Datum)
  | form (datum : Datum)
  | rawBody (body : Bytes)
  | textBody (text : String)
  deriving Repr

/-- The builder after a setter. -/
def apply (builder : Builder) : Setter → Builder
  | .header name value => builder.header name value
  | .setHeader name value => builder.setHeader name value
  | .headers pairs => pairs.foldl (fun builder pair => builder.header pair.1 pair.2) builder
  | .cacheControl value => builder.setText .cacheControl value
  | .userAgent value => builder.setText .userAgent value
  | .accept value => builder.setText .accept value.text
  | .contentType type => builder.contentType type
  | .apiKey key => builder.setText .apiKey key
  | .basicAuth user password => builder.setText .authorization (basicCredentials user password)
  | .bearerAuth token => builder.setText .authorization ("Bearer " ++ token)
  | .debug => { builder with debugging := true }
  | .connectTimeout connect => { builder with timeouts := { builder.timeouts with connect } }
  | .readTimeout read => { builder with timeouts := { builder.timeouts with read } }
  | .timeoutSeconds seconds =>
    { builder with timeouts := ⟨.ofSeconds seconds, .ofSeconds seconds⟩ }
  | .policy policy => { builder with policy }
  | .bodyCap octets => { builder with bodyCap := some octets }
  | .query pairs => { builder with query := builder.query ++ pairs }
  | .body datum => builder.datumBody datum
  | .jsonBody datum => builder.jsonBody datum
  | .form datum => builder.form datum
  | .rawBody body => builder.withBody body
  | .textBody text => builder.textBody text

/-- The builder after setters. -/
def applyAll (builder : Builder) (setters : List Setter) : Builder := setters.foldl apply builder

/-! ## Sending -/

/-- The request for a method and the URL of a text. The fault of a setter comes before one of the
URL. -/
def build (builder : Builder) (method : Method) (url : String) : Except Failure Request :=
  match builder.deferred with
  | some message => .error (.of .builder (.text message))
  | none =>
    (Request.parse method url).map fun request =>
      let request := request.withHeaders builder.headers
      let request := if builder.query = [] then request else request.query builder.query
      { request with
        body := builder.body
        timeouts := builder.timeouts
        policy := builder.policy
        bodyCap := builder.bodyCap.getD request.bodyCap }

/-- Builds the request and lets a client perform what it leads to. -/
def send (network : Network) (caller : Caller) (world : World) (builder : Builder)
    (method : Method) (url : String) : Except Failure Response × World :=
  match builder.build method url with
  | .error failure => (.error failure, world)
  | .ok request => Client.execute network caller world request

/-! ## The diagnostic form -/

/-- The diagnostic form of a policy. -/
def policyText : RedirectPolicy → String
  | .never => "None"
  | .atMost limit => "Limited(" ++ Nat.repr limit.toNat ++ ")"

/-- The diagnostic form of deadlines. -/
def timeoutsText (timeouts : Timeouts) : String :=
  "Timeouts \x7b connect: " ++ timeouts.connect.describe ++ ", read: " ++
    timeouts.read.describe ++ " \x7d"

/-- The diagnostic form of a builder, after the headers. -/
def debug (builder : Builder) : String :=
  let size := match builder.body with
    | none => "None"
    | some body => "Some(" ++ Nat.repr body.length ++ ")"
  "body_bytes: " ++ size ++ ", timeouts: " ++ timeoutsText builder.timeouts ++
    ", redirect_policy: " ++ policyText builder.policy ++ ", state: " ++
    (if builder.bodySet then "BodySet" else "BodyNotSet") ++ ", debug_enabled: " ++
    toString builder.debugging ++ ", .. \x7d"

end Builder

end Courier
