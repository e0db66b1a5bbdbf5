import Courier.Proofs.Authentication
import Courier.Proofs.BuilderAgreement

/-! # The faults of setters

A setter of a builder fails when it is given what cannot stand in a header, or a value that has no
body in the encoding that is asked for. Only the first failure is noted, whatever comes after it. The
note is looked at before anything else is done, the URL included. Main statement: a builder reports
the fault of the first setter that failed and leaves the client alone, and it reports no such fault
when none has failed.
-/

namespace Courier

/-- A value for a body: its octets as JSON and in form encoding, or the reasons why it has none. -/
structure Encodings where
  json : Except String Bytes
  form : Except String Bytes

/-- A datum as such a value. -/
def Datum.encodings (datum : Datum) : Encodings where
  json := .ok (Utf8.encode datum.jsonText)
  form := (datum.formText.map Utf8.encode).mapError FormFault.message

namespace Builder

variable {builder : Builder}

/-! ## Setters of any value -/

/-- The body that the octets of a value make, if it has any. -/
def serialized (builder : Builder) (octets : Except String Bytes) : Builder :=
  match octets with
  | .ok octets => builder.withBody octets
  | .error reason =>
    { builder.deferFault ("failed to serialize request body: " ++ reason) with bodySet := true }

theorem encoded_eq (text : Except FormFault String) :
    builder.encoded text =
      builder.serialized ((text.map Utf8.encode).mapError FormFault.message) := by
  cases text with
  | ok text => rfl
  | error fault => rfl

/-- A call of a setter, which may be given any value for a body. -/
inductive Command
  | plain (setter : Setter)
  | body (value : Encodings)
  | jsonBody (value : Encodings)
  | form (value : Encodings)

/-- The builder after a call of a setter. -/
def Command.run (builder : Builder) : Command → Builder
  | .plain setter => builder.apply setter
  | .body value => builder.serialized (if builder.saysForm then value.form else value.json)
  | .jsonBody value => (builder.contentType .json).serialized value.json
  | .form value => (builder.contentType .form).serialized value.form

/-- The builder after calls of setters. -/
def runAll (builder : Builder) (commands : List Command) : Builder :=
  commands.foldl Command.run builder

theorem apply_body (datum : Datum) :
    builder.apply (.body datum) = Command.run builder (.body datum.encodings) := by
  change builder.encoded _ = builder.serialized _
  rw [encoded_eq]
  split <;> rfl

theorem apply_jsonBody (datum : Datum) :
    builder.apply (.jsonBody datum) = Command.run builder (.jsonBody datum.encodings) :=
  rfl

theorem apply_form (datum : Datum) :
    builder.apply (.form datum) = Command.run builder (.form datum.encodings) :=
  encoded_eq _

/-! ## What a setter fails for -/

/-- The fault of a name and a value that are not both fit for a header. -/
def headerFault? (name value : Bytes) : Option String :=
  match HeaderName.ofBytes? name, HeaderValue.ofBytes? value with
  | some _, some _ => none
  | _, _ => some Request.headerFault

/-- The fault of a text that is not fit for the value of a header. -/
def textFault? (name : HeaderName) (value : String) : Option String :=
  headerFault? (Utf8.encode name.text) (Utf8.encode value)

/-- The fault of a value that has no body. -/
def octetsFault? : Except String Bytes → Option String
  | .ok _ => none
  | .error reason => some ("failed to serialize request body: " ++ reason)

/-- The fault of a call of a setter with any value for a body, if it fails. Which encoding is asked
for is said by the content type that the builder has so far. -/
def valueFault? (builder : Builder) (value : Encodings) : Option String :=
  octetsFault? (if builder.saysForm then value.form else value.json)

/-- The fault of a setter, if it fails. -/
def Setter.fault? (builder : Builder) : Setter → Option String
  | .header name value | .setHeader name value => headerFault? name value
  | .headers pairs => pairs.findSome? fun pair => headerFault? pair.1 pair.2
  | .cacheControl value => textFault? .cacheControl value
  | .userAgent value => textFault? .userAgent value
  | .accept value => textFault? .accept value.text
  | .apiKey key => textFault? .apiKey key
  | .basicAuth user password => textFault? .authorization (basicCredentials user password)
  | .bearerAuth token => textFault? .authorization ("Bearer " ++ token)
  | .body datum => valueFault? builder datum.encodings
  | .jsonBody datum => octetsFault? datum.encodings.json
  | .form datum => octetsFault? datum.encodings.form
  | .contentType _ | .debug | .connectTimeout _ | .readTimeout _ | .timeoutSeconds _ | .policy _
  | .bodyCap _ | .query _ | .rawBody _ | .textBody _ => none

/-- The fault of a call of a setter, if it fails. -/
def Command.fault? (builder : Builder) : Command → Option String
  | .plain setter => setter.fault? builder
  | .body value => valueFault? builder value
  | .jsonBody value => octetsFault? value.json
  | .form value => octetsFault? value.form

/-- The faults of the setters that fail, in the order of the calls. -/
def faults (builder : Builder) : List Command → List String
  | [] => []
  | command :: rest => (command.fault? builder).toList ++ (command.run builder).faults rest

/-! ## What is noted -/

theorem deferred_withHeader (change : Headers → HeaderName → HeaderValue → Headers)
    (name value : Bytes) :
    (builder.withHeader change name value).deferred =
      builder.deferred.or (headerFault? name value) := by
  unfold withHeader headerFault?
  cases HeaderName.ofBytes? name with
  | none => rfl
  | some name =>
    cases HeaderValue.ofBytes? value with
    | none => rfl
    | some value => exact Option.or_none.symm

theorem deferred_headers (pairs : List (Bytes × Bytes)) :
    (pairs.foldl (fun builder pair => builder.header pair.1 pair.2) builder).deferred =
      builder.deferred.or (pairs.findSome? fun pair => headerFault? pair.1 pair.2) := by
  induction pairs generalizing builder with
  | nil => exact Option.or_none.symm
  | cons pair rest ih =>
    rw [List.foldl_cons, ih, header, deferred_withHeader, Option.or_assoc, List.findSome?_cons]
    cases headerFault? pair.1 pair.2 <;> rfl

theorem deferred_serialized (octets : Except String Bytes) :
    (builder.serialized octets).deferred = builder.deferred.or (octetsFault? octets) := by
  cases octets with
  | ok octets => exact Option.or_none.symm
  | error reason => rfl

/-- A content type that is known by name is fit for a header. -/
theorem deferred_contentType (type : ContentType) :
    (builder.contentType type).deferred = builder.deferred := by
  have fit : textFault? .contentType type.text = none := by cases type <;> cbv
  rw [textFault?] at fit
  rw [contentType, setText, setHeader, deferred_withHeader, fit, Option.or_none]

/-- A setter notes its fault, unless an earlier one has noted one. -/
theorem deferred_apply (setter : Setter) :
    (builder.apply setter).deferred = builder.deferred.or (setter.fault? builder) := by
  cases setter with
  | header | setHeader | cacheControl | userAgent | accept | apiKey | basicAuth | bearerAuth =>
    exact deferred_withHeader ..
  | headers pairs => exact deferred_headers pairs
  | body datum => exact apply_body datum ▸ deferred_serialized _
  | jsonBody datum =>
    rw [apply_jsonBody, Command.run, deferred_serialized, deferred_contentType]
    rfl
  | form datum =>
    rw [apply_form, Command.run, deferred_serialized, deferred_contentType]
    rfl
  | contentType type => exact (deferred_contentType type).trans Option.or_none.symm
  | textBody text =>
    refine Eq.trans ?_ Option.or_none.symm
    simp only [Builder.apply, Builder.textBody]
    split
    · rfl
    · exact deferred_contentType _
  | debug | connectTimeout | readTimeout | timeoutSeconds | policy | bodyCap | query | rawBody =>
    exact Option.or_none.symm

@[inherit_doc deferred_apply]
theorem deferred_run (command : Command) :
    (command.run builder).deferred = builder.deferred.or (command.fault? builder) := by
  cases command with
  | plain setter => exact deferred_apply setter
  | body value => exact deferred_serialized _
  | jsonBody value => rw [Command.run, deferred_serialized, deferred_contentType, Command.fault?]
  | form value => rw [Command.run, deferred_serialized, deferred_contentType, Command.fault?]

/-- What is noted in the end is the first fault. -/
theorem deferred_runAll (commands : List Command) :
    (builder.runAll commands).deferred = builder.deferred.or (builder.faults commands).head? := by
  unfold runAll
  induction commands generalizing builder with
  | nil => exact Option.or_none.symm
  | cons command rest ih =>
    rw [List.foldl_cons, ih, deferred_run, Option.or_assoc, faults, List.head?_append]
    cases command.fault? builder <;> rfl

/-! ## What is reported -/

section

variable (network : Network) (caller : Caller) (world : World) {method : Method} {url : String}

theorem send_of_build_eq_error {failure : Failure}
    (unbuilt : builder.build method url = .error failure) :
    send network caller world builder method url = (.error failure, world) := by
  unfold send
  rw [unbuilt]

theorem send_of_build_eq_ok {request : Request} (built : builder.build method url = .ok request) :
    send network caller world builder method url =
      Client.execute network caller world request := by
  unfold send
  rw [built]

end

/-- The first fault of a setter is what sending reports, without a URL and whatever the URL is. The
client, what it counts and what has arrived stay as they are, and no exchange is performed. When no
setter fails, what is sent is a request of which no fault is noted, unless the text is no URL. -/
theorem first_fault_reported (commands : List Command) :
    let builder := new.runAll commands
    (∀ message, (new.faults commands).head? = some message →
      ∀ (network : Network) (caller : Caller) (world : World) (method : Method) (url : String),
        send network caller world builder method url =
            (.error ⟨.builder, some (.text message), none⟩, world) ∧
          builder.hops network caller world method url = []) ∧
    (new.faults commands = [] → ∀ (method : Method) (url : String),
      (∃ fault, Url.parse url = .error fault ∧
        ∀ (network : Network) (caller : Caller) (world : World),
          send network caller world builder method url =
            (.error ⟨.builder, some (.url fault), none⟩, world)) ∨
      ∃ target request, Url.parse url = .ok target ∧ builder.build method url = .ok request ∧
        request.check = .ok () ∧
        ∀ (network : Network) (caller : Caller) (world : World),
          send network caller world builder method url =
            Client.execute network caller world request) := by
  intro builder
  have noted : builder.deferred = (new.faults commands).head? := deferred_runAll commands
  constructor
  · intro message first network caller world method url
    have unbuilt : builder.build method url = .error ⟨.builder, some (.text message), none⟩ := by
      rw [build_eq, noted, first]
      rfl
    refine ⟨send_of_build_eq_error network caller world unbuilt, ?_⟩
    unfold hops
    rw [unbuilt]
  · intro faultless method url
    have clean : builder.deferred = none := by rw [noted, faultless, List.head?_nil]
    have built := build_eq builder method url
    rw [clean] at built
    dsimp only [Request.parseUrl] at built
    cases parsed : Url.parse url with
    | error fault =>
      rw [parsed] at built
      exact .inl ⟨fault, rfl, fun network caller world =>
        send_of_build_eq_error network caller world built⟩
    | ok target =>
      rw [parsed] at built
      refine .inr ⟨target, _, rfl, built, Request.check_eq_ok_iff.mpr clean, ?_⟩
      exact fun network caller world => send_of_build_eq_ok network caller world built

end Builder

end Courier
