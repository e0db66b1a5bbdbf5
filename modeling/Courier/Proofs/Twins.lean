import Courier.Exchange
import Courier.Http.Redirect

/-! # The local parts of a URL

The name and the password before the host of a URL, and its fragment, are for whoever holds the URL.
Two URLs that differ in no other part are twins, and so are requests, responses and failures that
differ in the local parts of their URLs at most. What is sent for a URL depends on none of these
parts, and what follows twins, by a redirect or at the end of an exchange, are twins again.
-/

namespace Courier

/-! ## Twins -/

/-- Two URLs that differ in their local parts at most. -/
def Url.Twin (url other : Url) : Prop :=
  ∃ username password fragment, other = { url with username, password, fragment }

/-- Two requests that differ in the local parts of their URLs at most. -/
def Request.Twin (request other : Request) : Prop :=
  ∃ url, request.url.Twin url ∧ other = { request with url }

/-- Two responses to twins, in everything else the same. -/
def Response.Twin (response other : Response) : Prop :=
  ∃ request, response.request.Twin request ∧ other = { response with request }

/-- Two failures of the same kind and cause that are tied to twins, or to no URL. -/
def Failure.Twin (failure other : Failure) : Prop :=
  ∃ url, Option.Rel Url.Twin failure.url url ∧ other = { failure with url }

/-- Two results that are alike: two failures, or two values. -/
inductive Likewise {ε α : Type} (errors : ε → ε → Prop) (values : α → α → Prop) :
    Except ε α → Except ε α → Prop
  | ok {value other : α} (alike : values value other) : Likewise errors values (.ok value) (.ok other)
  | error {failure other : ε} (alike : errors failure other) :
      Likewise errors values (.error failure) (.error other)

theorem Url.Twin.refl (url : Url) : url.Twin url := ⟨_, _, _, rfl⟩

theorem Failure.Twin.refl (failure : Failure) : failure.Twin failure := by
  refine ⟨failure.url, ?_, rfl⟩
  cases failure.url with
  | none => exact .none
  | some url => exact .some (.refl url)

theorem Failure.Twin.withUrl {failure other : Failure} (twins : failure.Twin other) {url url' : Url}
    (named : url.Twin url') : (failure.withUrl url).Twin (other.withUrl url') := by
  obtain ⟨_, -, rfl⟩ := twins
  exact ⟨some url', .some named, rfl⟩

theorem Failure.Twin.attach {failure other : Failure} (twins : failure.Twin other) {url url' : Url}
    (named : url.Twin url') : (failure.attach url).Twin (other.attach url') := by
  obtain ⟨_, tied, rfl⟩ := twins
  refine ⟨_, ?_, rfl⟩
  unfold Failure.attach
  cases failure with
  | mk kind cause about =>
    cases tied with
    | none => exact .some named
    | some same => exact .some same

namespace Likewise

variable {ε α β : Type} {errors : ε → ε → Prop} {values : α → α → Prop} {others : β → β → Prop}
  {result other : Except ε α}

theorem bind (first : Likewise errors values result other) {next next' : α → Except ε β}
    (later : ∀ value value', values value value' →
      Likewise errors others (next value) (next' value')) :
    Likewise errors others (result.bind next) (other.bind next') := by
  cases first with
  | ok alike => exact later _ _ alike
  | error alike => exact .error alike

theorem map (first : Likewise errors values result other) {change change' : α → β}
    (later : ∀ value value', values value value' → others (change value) (change' value')) :
    Likewise errors others (result.map change) (other.map change') := by
  cases first with
  | ok alike => exact .ok (later _ _ alike)
  | error alike => exact .error alike

theorem of_eq {same : Except ε α} (errorsRefl : ∀ failure, errors failure failure)
    (valuesRefl : ∀ value, values value value) : Likewise errors values same same := by
  cases same with
  | ok value => exact .ok (valuesRefl value)
  | error failure => exact .error (errorsRefl failure)

end Likewise

/-! ## What is read of a URL -/

namespace Url.Twin

variable {url other : Url}

theorem port (twins : url.Twin other) : other.port = url.port := by
  obtain ⟨_, _, _, rfl⟩ := twins
  rfl

theorem scheme (twins : url.Twin other) : other.scheme = url.scheme := by
  obtain ⟨_, _, _, rfl⟩ := twins
  rfl

theorem path (twins : url.Twin other) : other.path = url.path := by
  obtain ⟨_, _, _, rfl⟩ := twins
  rfl

theorem isSpecial (twins : url.Twin other) : other.isSpecial = url.isSpecial := by
  obtain ⟨_, _, _, rfl⟩ := twins
  rfl

theorem target (twins : url.Twin other) : other.target = url.target := by
  obtain ⟨_, _, _, rfl⟩ := twins
  rfl

theorem authorityText (twins : url.Twin other) : other.authorityText = url.authorityText := by
  obtain ⟨_, _, _, rfl⟩ := twins
  rfl

theorem effectivePort? (twins : url.Twin other) : other.effectivePort? = url.effectivePort? := by
  obtain ⟨_, _, _, rfl⟩ := twins
  rfl

theorem host? (twins : url.Twin other) : Exchange.host? other = Exchange.host? url := by
  obtain ⟨_, _, _, rfl⟩ := twins
  rfl

/-- Where a URL leads does not depend on its local parts. -/
theorem sameOrigin (twins : url.Twin other) {target target' : Url} (targets : target.Twin target') :
    other.sameOrigin target' = url.sameOrigin target := by
  obtain ⟨_, _, _, rfl⟩ := twins
  obtain ⟨_, _, _, rfl⟩ := targets
  rfl

/-! ## References -/

theorem withFragment (twins : url.Twin other) (fragment : Option String) :
    Url.Twin { url with fragment } { other with fragment } := by
  obtain ⟨username, password, _, rfl⟩ := twins
  exact ⟨username, password, fragment, rfl⟩

theorem withTail (twins : url.Twin other) (text : List Char) :
    (url.withTail text).Twin (other.withTail text) := by
  obtain ⟨username, password, fragment, rfl⟩ := twins
  exact ⟨username, password, _, rfl⟩

theorem readOnto (twins : url.Twin other) (start : List String) (text : List Char) :
    (Url.readOnto url start text).Twin (Url.readOnto other start text) := by
  obtain ⟨username, password, fragment, rfl⟩ := twins
  exact ⟨username, password, _, rfl⟩

theorem readRelative (twins : url.Twin other) (text : List Char) :
    Likewise Eq Url.Twin (Url.readRelative url text) (Url.readRelative other text) := by
  unfold Url.readRelative
  rw [twins.isSpecial]
  split
  · exact .ok (twins.withFragment none)
  · exact .ok (twins.withTail _)
  · exact .ok (twins.withFragment _)
  · split
    · split
      · split
        · rw [twins.scheme]
          split
          · exact .of_eq (fun _ => rfl) .refl
          · exact .of_eq (fun _ => rfl) .refl
        · exact .ok (twins.readOnto _ _)
      · exact .ok (twins.readOnto _ _)
    · rw [twins.path]
      exact .ok (twins.readOnto _ _)

theorem readAfterScheme (twins : url.Twin other) (scheme : String) (text : List Char) :
    Likewise Eq Url.Twin (Url.readAfterScheme (some url) scheme text)
      (Url.readAfterScheme (some other) scheme text) := by
  unfold Url.readAfterScheme
  split
  · exact .of_eq (fun _ => rfl) .refl
  · split
    · dsimp only
      rw [twins.scheme]
      split
      · exact twins.readRelative text
      · exact .of_eq (fun _ => rfl) .refl
    · exact .of_eq (fun _ => rfl) .refl

/-- A reference leads from twins to twins. -/
theorem join (twins : url.Twin other) (reference : String) :
    Likewise Eq Url.Twin (url.join reference) (other.join reference) := by
  unfold Url.join Url.read
  dsimp only
  cases Url.readScheme? (Url.cleaned reference) with
  | some found => exact twins.readAfterScheme found.1 found.2
  | none =>
    have relative := twins.readRelative (Url.cleaned reference)
    obtain ⟨username, password, fragment, rfl⟩ := twins
    dsimp only [Url.isSpecial]
    split
    · exact .ok ⟨username, password, _, rfl⟩
    · exact .error rfl
    · exact relative

end Url.Twin

/-! ## Redirects -/

/-- Twins are redirected to twins. -/
theorem Response.Twin.location? {response other : Response} (twins : response.Twin other) :
    Likewise Failure.Twin (Option.Rel Url.Twin) response.location? other.location? := by
  obtain ⟨request, asked, rfl⟩ := twins
  obtain ⟨url, named, rfl⟩ := asked
  unfold Response.location?
  dsimp only [Response.url]
  split
  · exact .ok .none
  · split
    · exact .error ((Failure.Twin.refl _).withUrl named)
    · rename_i reference _
      have joined := named.join reference
      generalize response.request.url.join reference = target at joined ⊢
      generalize url.join reference = target' at joined ⊢
      cases joined with
      | ok alike => exact .ok (.some alike)
      | error same =>
        cases same
        exact .error ((Failure.Twin.refl _).withUrl named)

/-- The requests that follow twins to twins are twins. -/
theorem Request.Twin.follow {request other : Request} (twins : request.Twin other)
    {target target' : Url} (targets : target.Twin target') (status : Status) :
    (Redirect.follow status request target).Twin (Redirect.follow status other target') := by
  obtain ⟨url, named, rfl⟩ := twins
  refine ⟨target', targets, ?_⟩
  unfold Redirect.follow Redirect.headersFor
  dsimp only [Redirect.becomesGet]
  rw [named.sameOrigin targets]
  rfl

/-- Twins ask for twins, or for nothing, or both fail. -/
theorem Response.Twin.next? {response other : Response} (twins : response.Twin other) :
    Likewise Failure.Twin (Option.Rel Request.Twin) (Redirect.next? response)
      (Redirect.next? other) := by
  have located := twins.location?
  obtain ⟨request, asked, rfl⟩ := twins
  have followed := fun {target target' : Url} (targets : target.Twin target') =>
    asked.follow targets response.status
  obtain ⟨url, named, rfl⟩ := asked
  unfold Redirect.next?
  dsimp only
  split
  · exact .ok .none
  · split
    · generalize response.location? = found at located ⊢
      generalize Response.location? _ = found' at located ⊢
      cases located with
      | error alike => exact .error alike
      | ok alike =>
        cases alike with
        | none => exact .ok .none
        | some targets =>
          dsimp only
          split
          · exact .error ((Failure.Twin.refl _).withUrl named)
          · exact .ok (.some (followed targets))
    · exact .ok .none

end Courier
