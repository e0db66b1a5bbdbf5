import Courier.Proofs.FormReading
import Courier.Proofs.SetterFaults

/-! # Bodies in form encoding

A builder has two ways to a body in form encoding: the setter that asks for it, and the setter that
looks for it in the content type, once this has been set. Setting the content type leaves one value of
it, whatever values there were, so the second way finds what it looks for and comes to the same as the
first. Main statement: by either way a list of pairs makes the same request, with one content type
and with a body that is read as these pairs and is what a query of them would be.
-/

namespace Courier

namespace Builder

/-! ## Content types -/

theorem occursIn_self (part : List Char) : occursIn part part = true := by
  cases part with
  | nil => rfl
  | cons c rest => simp [occursIn]

/-- A content type that is known by name becomes the only value of its header. -/
theorem headers_contentType (builder : Builder) (type : ContentType) :
    (builder.contentType type).headers =
      builder.headers.insert .contentType ⟨Utf8.encode type.text⟩ := by
  have named : HeaderName.ofBytes? (Utf8.encode HeaderName.contentType.text) =
      some .contentType := by cbv
  have valued : HeaderValue.ofBytes? (Utf8.encode type.text) = some ⟨Utf8.encode type.text⟩ := by
    cases type <;> cbv
  unfold contentType setText setHeader withHeader
  rw [named, valued]

theorem values_contentType (builder : Builder) (type : ContentType) :
    (builder.contentType type).headers.values .contentType = [⟨Utf8.encode type.text⟩] := by
  rw [headers_contentType, Headers.values_insert, if_pos rfl]

/-- The form encoding is asked for once it is set as content type, whatever was set before. -/
theorem saysForm_contentType (builder : Builder) : (builder.contentType .form).saysForm = true := by
  have first : (builder.contentType .form).headers.first? .contentType =
      some ⟨Utf8.encode ContentType.form.text⟩ := by
    rw [← Headers.head?_values, values_contentType, List.head?_cons]
  have shown : HeaderValue.visible? ⟨Utf8.encode ContentType.form.text⟩ =
      some ContentType.form.text := by cbv
  unfold saysForm
  rw [first, Option.bind_some, shown]
  exact occursIn_self _

/-- Any datum becomes the same body by either way. -/
theorem apply_body_contentType (builder : Builder) (datum : Datum) :
    (builder.apply (.contentType .form)).apply (.body datum) = builder.apply (.form datum) := by
  have asked : (builder.apply (.contentType .form)).saysForm = true := saysForm_contentType builder
  change (builder.contentType .form).encoded (if _ then _ else _) =
    (builder.contentType .form).encoded datum.formText
  rw [asked, if_pos rfl]

/-! ## What is built -/

/-- A request is built when no setter has failed and the text is a URL. -/
theorem exists_build_iff (builder : Builder) (method : Method) (text : String) :
    (∃ request, builder.build method text = .ok request) ↔
      builder.deferred = none ∧ ∃ url, Url.parse text = .ok url := by
  rw [build_eq, Request.parseUrl]
  cases builder.deferred with
  | some message => simp
  | none => cases Url.parse text <;> simp [Except.map]

theorem eq_standsFor_of_build {builder : Builder} {method : Method} {text : String}
    {request : Request} (built : builder.build method text = .ok request) :
    ∃ url, request = builder.standsFor method url := by
  rw [build_eq] at built
  split at built
  · cases built
  · cases parsed : Request.parseUrl text with
    | error failure =>
      rw [parsed] at built
      cases built
    | ok url =>
      rw [parsed] at built
      exact ⟨url, (Except.ok.inj built).symm⟩

/-- A list of pairs in form encoding. Whether it is asked for at once, or the content type is set and
the body follows it, the same is built, and a request as soon as no earlier setter has failed and the
text is a URL. The request has one content type. Its body is read as the pairs in order, and is the
query that the pairs make of a URL without one. -/
theorem forms_agree (builder : Builder) (pairs : List (String × String)) (method : Method)
    (text : String) :
    let formed := builder.apply (.form (.pairs pairs))
    let followed := (builder.apply (.contentType .form)).apply (.body (.pairs pairs))
    followed.build method text = formed.build method text ∧
    ((∃ request, formed.build method text = .ok request) ↔
      builder.deferred = none ∧ ∃ url, Url.parse text = .ok url) ∧
    ∀ request, formed.build method text = .ok request →
      request.headers.values .contentType =
        [⟨Utf8.encode "application/x-www-form-urlencoded"⟩] ∧
      ∃ body, request.body = some body ∧ Form.decodeBytes body = pairs ∧
        ∀ other : Request, other.url.query = none →
          (other.query pairs).url.query.map Utf8.encode = some body := by
  intro formed followed
  have unfailing : formed.deferred = builder.deferred :=
    (deferred_apply (.form (.pairs pairs))).trans Option.or_none
  have same : followed = formed := apply_body_contentType builder _
  refine ⟨?_, ?_, ?_⟩
  · rw [same]
  · rw [exists_build_iff, unfailing]
  · intro request built
    obtain ⟨url, rfl⟩ := eq_standsFor_of_build built
    refine ⟨values_contentType builder .form, Utf8.encode (Form.encode pairs), rfl,
      Form.decode_encode pairs, fun other unqueried => ?_⟩
    simp only [Request.query, Url.appendPairs, unqueried, Url.extendQuery, Option.map_some]

end Builder

end Courier
