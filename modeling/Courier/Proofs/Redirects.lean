import Courier.Http.Redirect
import Courier.Proofs.HeaderValues

/-! # What a response asks for

Whether a response is followed depends on the policy, the status, the `location` header and the
place in the chain, looked at in this order. The request that follows has, for each name, the values
of the one before it, or none: a request without body has no headers that describe one, and another
origin is told no credentials.
-/

namespace Courier

/-- The scheme, the host or the effective port of two URLs differ. -/
def Url.OtherOrigin (a b : Url) : Prop :=
  a.scheme ≠ b.scheme ∨ a.hostText? ≠ b.hostText? ∨ a.effectivePort? ≠ b.effectivePort?

theorem Url.sameOrigin_eq_false_iff {a b : Url} : a.sameOrigin b = false ↔ a.OtherOrigin b := by
  simp only [Url.sameOrigin, Url.OtherOrigin, Bool.and_eq_false_iff, beq_eq_false_iff_ne, or_assoc]

instance (a b : Url) : Decidable (a.OtherOrigin b) :=
  decidable_of_iff _ Url.sameOrigin_eq_false_iff

namespace Redirect

/-- The status of a response asks for its request to be sent to the target that it names. -/
structure Asks (response : Response) (target : Url) : Prop where
  followed : response.status.isFollowed = true
  location : response.location? = .ok (some target)

/-- The failure of a response that asks for one redirect too many. -/
def limitReached (limit : UInt32) (response : Response) : Failure :=
  (Failure.of .redirect (.tooManyRedirects limit)).withUrl response.url

theorem next?_eq_some_iff {response : Response} {request : Request} :
    next? response = .ok (some request) ↔
      ∃ limit target, response.request.policy = .atMost limit ∧ Asks response target ∧
        response.redirects < limit ∧ request = follow response.status response.request target := by
  constructor
  · intro follows
    unfold next? at follows
    split at follows
    · cases follows
    · rename_i limit policy
      split at follows
      · rename_i followed
        split at follows
        · cases follows
        · cases follows
        · rename_i target location
          split at follows
          · cases follows
          · rename_i below
            cases follows
            exact ⟨limit, target, policy, ⟨followed, location⟩, UInt32.not_le.mp below, rfl⟩
      · cases follows
  · rintro ⟨limit, target, policy, asks, below, rfl⟩
    simp only [next?, policy, asks.followed, asks.location, UInt32.not_le.mpr below, ↓reduceIte]

theorem next?_eq_error_iff {response : Response} {failure : Failure} :
    next? response = .error failure ↔
      ∃ limit, response.request.policy = .atMost limit ∧
        ((response.status.isFollowed = true ∧ response.location? = .error failure) ∨
          ∃ target, Asks response target ∧ limit ≤ response.redirects ∧
            failure = limitReached limit response) := by
  constructor
  · intro fails
    unfold next? at fails
    split at fails
    · cases fails
    · rename_i limit policy
      refine ⟨limit, policy, ?_⟩
      split at fails
      · rename_i followed
        split at fails
        · rename_i location
          cases fails
          exact .inl ⟨followed, location⟩
        · cases fails
        · rename_i target location
          split at fails
          · rename_i above
            cases fails
            exact .inr ⟨target, ⟨followed, location⟩, above, rfl⟩
          · cases fails
      · cases fails
  · rintro ⟨limit, policy, ⟨followed, location⟩ | ⟨target, asks, above, rfl⟩⟩
    · simp only [next?, policy, followed, location, ↓reduceIte]
    · simp only [next?, policy, asks.followed, asks.location, above, ↓reduceIte, limitReached]

/-- A redirect that cannot be followed is reported as such, with the URL of the response that asks
for it. -/
theorem exists_cause_of_next? {response : Response} {failure : Failure}
    (lost : next? response = .error failure) :
    ∃ cause, failure = (Failure.of .redirect cause).withUrl response.url := by
  obtain ⟨limit, -, ⟨-, unusable⟩ | ⟨-, -, -, rfl⟩⟩ := next?_eq_error_iff.mp lost
  · unfold Response.location? at unusable
    split at unusable
    · cases unusable
    · split at unusable
      · cases unusable
        exact ⟨_, rfl⟩
      · split at unusable
        · cases unusable
        · cases unusable
          exact ⟨_, rfl⟩
  · exact ⟨_, rfl⟩

/-- A response that names no target has no `location` header. -/
theorem location?_eq_none_iff {response : Response} :
    response.location? = .ok none ↔ response.headers.contains .location = false := by
  unfold Response.location? Headers.contains Headers.first?
  cases response.headers.find? .location with
  | none => simp
  | some entry =>
    dsimp only [Option.map_some, Option.isSome_some]
    constructor
    · intro named
      split at named
      · cases named
      · split at named <;> cases named
    · exact fun absent => absurd absent (by decide)

theorem next?_eq_none_iff {response : Response} :
    next? response = .ok none ↔
      response.request.policy = .never ∨ response.status.isFollowed = false ∨
        response.headers.contains .location = false := by
  rw [← location?_eq_none_iff]
  unfold next?
  cases response.request.policy with
  | never => simp
  | atMost limit =>
    dsimp only
    cases response.status.isFollowed with
    | false => simp
    | true =>
      cases response.location? with
      | error failure => simp
      | ok target =>
        cases target with
        | none => simp
        | some target =>
          simp only [↓reduceIte, reduceCtorEq, Except.ok.injEq, or_self, iff_false]
          split <;> simp

/-! ## The request that follows -/

theorem values_headersFor (request : Request) (target : Url) (rewritten : Bool)
    (name : HeaderName) :
    (headersFor request target rewritten).values name =
      if (rewritten = true ∧ name ∈ bodyHeaders) ∨
          (request.url.OtherOrigin target ∧ name ∈ credentials) then []
      else request.headers.values name := by
  have kept : (if request.url.sameOrigin target then request.headers
      else request.headers.removeAll credentials).values name =
        if request.url.OtherOrigin target ∧ name ∈ credentials then []
        else request.headers.values name := by
    by_cases other : request.url.OtherOrigin target
    · simp only [Url.sameOrigin_eq_false_iff.mpr other, Bool.false_eq_true, ↓reduceIte,
        Headers.values_removeAll, other, true_and]
    · have same : request.url.sameOrigin target = true := by
        rw [← Bool.not_eq_false, Url.sameOrigin_eq_false_iff]
        exact other
      simp only [same, ↓reduceIte, other, false_and]
  unfold headersFor
  cases rewritten with
  | false => simpa only [Bool.false_eq_true, ↓reduceIte, false_and, false_or] using kept
  | true =>
    simp only [↓reduceIte, Headers.values_removeAll, kept, true_and]
    by_cases describes : name ∈ bodyHeaders
    · simp only [describes, ↓reduceIte, true_or]
    · simp only [describes, ↓reduceIte, false_or]

/-- A request that follows has the values of the one before it for each name, or none. -/
theorem values_follow (status : Status) (request : Request) (target : Url) (name : HeaderName) :
    (follow status request target).headers.values name =
      if (becomesGet status request = true ∧ name ∈ bodyHeaders) ∨
          (request.url.OtherOrigin target ∧ name ∈ credentials) then []
      else request.headers.values name := by
  simp only [follow, Headers.empty_extend, values_headersFor]

end Redirect

end Courier
