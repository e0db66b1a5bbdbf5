import Courier.Builder.Basic
import Courier.Proofs.QueryPairs
import Courier.Proofs.WireRequests

/-! # Builders and requests

Many setters of a builder are setters of a request as well. A builder stands for a request at each
URL, the one that its headers, its query and its limits would make, and a setter of both does the
same to the builder and to the request that it stands for. So it makes no difference whether the
setters are called on a builder before the URL is known, or on the request afterwards, except that a
builder reports the fault of a setter without a URL, and before one of the URL.
-/

namespace Courier

/-- A setter that builders and requests have in common, with its arguments. -/
inductive CommonSetter
  | header (name value : Bytes)
  | setHeader (name value : Bytes)
  | connectTimeout (limit : Duration)
  | readTimeout (limit : Duration)
  | policy (redirects : RedirectPolicy)
  | bodyCap (octets : Nat)
  /-- At least one pair for the query. -/
  | query (pair : String × String) (more : List (String × String))
  | body (octets : Bytes)
  deriving Repr

namespace CommonSetter

/-- The setter of a builder. -/
def ofBuilder : CommonSetter → Builder.Setter
  | .header name value => .header name value
  | .setHeader name value => .setHeader name value
  | .connectTimeout limit => .connectTimeout limit
  | .readTimeout limit => .readTimeout limit
  | .policy redirects => .policy redirects
  | .bodyCap octets => .bodyCap octets
  | .query pair more => .query (pair :: more)
  | .body octets => .rawBody octets

/-- The setter of a request. -/
def ofRequest : CommonSetter → Request.Step
  | .header name value => .header name value
  | .setHeader name value => .setHeader name value
  | .connectTimeout limit => .connectTimeout limit
  | .readTimeout limit => .readTimeout limit
  | .policy redirects => .policy redirects
  | .bodyCap octets => .bodyCap octets
  | .query pair more => .query (pair :: more)
  | .body octets => .body (some octets)

end CommonSetter

namespace Builder

variable {builder : Builder} {method : Method} {url : Url}

/-- The URL with the pairs of the builder appended to its query, if there are any. -/
def target (builder : Builder) (url : Url) : Url :=
  if builder.query = [] then url else url.appendPairs builder.query

/-- The request that a builder stands for at a URL, with the fault of a setter if there is one. -/
def standsFor (builder : Builder) (method : Method) (url : Url) : Request :=
  { method, url := builder.target url, headers := builder.headers, body := builder.body
    timeouts := builder.timeouts, policy := builder.policy
    bodyCap := builder.bodyCap.getD Request.standardBodyCap, deferred := builder.deferred }

theorem standsFor_new (method : Method) (url : Url) :
    new.standsFor method url = Request.new method url := rfl

/-- What is built is the request that the builder stands for, unless a setter has a fault. -/
theorem build_eq (builder : Builder) (method : Method) (text : String) :
    builder.build method text =
      match builder.deferred with
      | some message => .error (.of .builder (.text message))
      | none => (Request.parseUrl text).map (builder.standsFor method) := by
  unfold build Request.parse
  cases faultless : builder.deferred with
  | some message => rfl
  | none =>
    cases Request.parseUrl text with
    | error failure => rfl
    | ok url =>
      simp only [Except.map, Request.withHeaders, Request.new, Headers.empty_extend, standsFor,
        target, faultless, Request.query]
      split <;> rfl

/-! ## One setter -/

theorem target_query (pairs : List (String × String)) (some : pairs ≠ []) :
    ({ builder with query := builder.query ++ pairs } : Builder).target url =
      (builder.target url).appendPairs pairs := by
  have goesOn : builder.query ++ pairs ≠ [] := List.append_ne_nil_of_right_ne_nil _ some
  unfold target
  dsimp only
  rw [if_neg goesOn]
  split
  · rename_i unqueried
    rw [unqueried, List.nil_append]
  · rw [Url.appendPairs_appendPairs]

/-- A setter of headers does the same to a builder and to the request that it stands for. -/
theorem withHeader_standsFor (change : Headers → HeaderName → HeaderValue → Headers)
    (name value : Bytes) :
    (builder.standsFor method url).withHeader change name value =
      (builder.withHeader change name value).standsFor method url := by
  unfold Request.withHeader withHeader
  cases HeaderName.ofBytes? name with
  | none => rfl
  | some name =>
    cases HeaderValue.ofBytes? value with
    | none => rfl
    | some value => rfl

/-- A common setter does the same to a builder and to the request that it stands for. -/
theorem apply_standsFor (setter : CommonSetter) :
    (builder.standsFor method url).apply setter.ofRequest =
      .ok ((builder.apply setter.ofBuilder).standsFor method url) := by
  cases setter with
  | header name value => exact congrArg Except.ok (withHeader_standsFor ..)
  | setHeader name value => exact congrArg Except.ok (withHeader_standsFor ..)
  | connectTimeout limit => rfl
  | readTimeout limit => rfl
  | policy redirects => rfl
  | bodyCap octets => rfl
  | query pair more =>
    have aimed : ({ builder with query := builder.query ++ pair :: more } : Builder).target url =
        (builder.target url).appendPairs (pair :: more) := target_query _ (List.cons_ne_nil _ _)
    change Except.ok ((builder.standsFor method url).query (pair :: more)) =
      .ok (({ builder with query := builder.query ++ pair :: more } : Builder).standsFor method url)
    unfold standsFor Request.query
    rw [aimed]
  | body octets => rfl

/-! ## All setters -/

theorem applyAll_standsFor (setters : List CommonSetter) :
    (builder.standsFor method url).applyAll (setters.map (·.ofRequest)) =
      .ok ((builder.applyAll (setters.map (·.ofBuilder))).standsFor method url) := by
  induction setters generalizing builder with
  | nil => rfl
  | cons setter rest ih =>
    unfold Request.applyAll applyAll at ih ⊢
    rw [List.map_cons, List.foldlM_cons, apply_standsFor]
    exact ih

/-- The setters of a request make of that for the URL of a text what those of a builder make a
builder stand for. -/
theorem bind_parse_eq (method : Method) (text : String) (setters : List CommonSetter) :
    (Request.parse method text).bind (·.applyAll (setters.map (·.ofRequest))) =
      (Request.parseUrl text).map
        ((new.applyAll (setters.map (·.ofBuilder))).standsFor method) := by
  unfold Request.parse
  cases Request.parseUrl text with
  | error failure => rfl
  | ok url =>
    change (Request.new method url).applyAll _ = _
    rw [← standsFor_new]
    exact applyAll_standsFor setters

/-- A text and common setters make the same request, whether they are called on a builder that builds
it or on the request for the URL of the text. The latter is there as soon as there is a URL, and is
without fault exactly when it is built. When the text has a URL and a setter has a fault, both
report the same one, the request with its URL and the builder without. -/
theorem interfaces_agree (method : Method) (text : String) (setters : List CommonSetter) :
    let built := (new.applyAll (setters.map (·.ofBuilder))).build method text
    let parsed := Request.parse method text
    let stepped := parsed.bind (·.applyAll (setters.map (·.ofRequest)))
    ((∃ request, stepped = .ok request) ↔ ∃ request, parsed = .ok request) ∧
    (∀ request, built = .ok request ↔ stepped = .ok request ∧ request.check = .ok ()) ∧
    (∀ request failure, stepped = .ok request → request.check = .error failure →
      ∃ message, built = .error (.of .builder (.text message)) ∧
        failure = (Failure.of .builder (.text message)).withUrl request.url) := by
  intro built parsed stepped
  have assembled : built = _ := build_eq ..
  have together : stepped = _ := bind_parse_eq ..
  have begun : parsed = (Request.parseUrl text).map (Request.new method) := rfl
  clear_value built parsed stepped
  subst assembled together begun
  generalize new.applyAll (setters.map (·.ofBuilder)) = builder
  cases Request.parseUrl text with
  | error failure =>
    simp only [Except.map, reduceCtorEq, exists_false, false_and, iff_false, false_implies,
      implies_true, and_true, true_and]
    intro request
    cases builder.deferred <;> exact nofun
  | ok url =>
    simp only [Except.map, Except.ok.injEq, exists_eq', true_and]
    cases noted : builder.deferred with
    | none =>
      have fine : (builder.standsFor method url).check = .ok () :=
        Request.check_eq_ok_iff.mpr noted
      constructor
      · intro request
        rw [Except.ok.injEq]
        exact (and_iff_left_of_imp fun same => same ▸ fine).symm
      · rintro request failure rfl fails
        cases fine.symm.trans fails
    | some message =>
      have faulty : (builder.standsFor method url).check =
          .error ((Failure.of .builder (.text message)).withUrl (builder.target url)) :=
        Request.check_of_deferred noted
      constructor
      · intro request
        refine iff_of_false nofun ?_
        rintro ⟨rfl, fine⟩
        cases faulty.symm.trans fine
      · rintro request failure rfl fails
        cases faulty.symm.trans fails
        exact ⟨message, rfl, rfl⟩

end Builder

end Courier
