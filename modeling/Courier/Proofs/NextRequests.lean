import Courier.Proofs.Redirects

/-! # The rule of redirects

A response is let through, or its redirect fails, or a request follows. Which of these it is depends
on the policy of its request, its status, its first `location` value and its place in the chain, and
on nothing else. The rule is said here without the order in which these are looked at; it says of the
request that follows what each of its parts is.
-/

namespace Courier

theorem Status.isFollowed_iff {status : Status} :
    status.isFollowed = true ↔ status.code ∈ [301, 302, 303, 307, 308] :=
  List.contains_iff_mem

/-! ## Where a response points -/

/-- A value of `location`, seen from a URL, leads to another URL. -/
def HeaderValue.LeadsTo (value : HeaderValue) (url target : Url) : Prop :=
  ∃ reference, value.visible? = some reference ∧ url.join reference = .ok target

/-- A value of `location`, seen from a URL, leads nowhere, for a cause. -/
inductive HeaderValue.Misleads (value : HeaderValue) (url : Url) : Cause → Prop
  | hidden (unseen : value.visible? = none) : Misleads value url .headerText
  | apart (reference : String) (fault : Url.Fault) (seen : value.visible? = some reference)
      (unjoined : url.join reference = .error fault) : Misleads value url (.url fault)

namespace Redirect

/-- The failure of a redirect that a response asks for. -/
def lost (response : Response) (cause : Cause) : Failure := ⟨.redirect, some cause, some response.url⟩

theorem location?_eq_some_iff {response : Response} {target : Url} :
    response.location? = .ok (some target) ↔
      ∃ value, (response.headers.values .location).head? = some value ∧
        value.LeadsTo response.url target := by
  rw [Headers.head?_values]
  unfold Response.location? HeaderValue.LeadsTo
  cases response.headers.first? .location with
  | none => simp
  | some value =>
    simp only [Option.some.injEq, exists_eq_left']
    cases value.visible? with
    | none => simp
    | some reference =>
      simp only [Option.some.injEq, exists_eq_left']
      cases response.url.join reference <;> simp

theorem location?_eq_error_iff {response : Response} {failure : Failure} :
    response.location? = .error failure ↔
      ∃ value cause, (response.headers.values .location).head? = some value ∧
        value.Misleads response.url cause ∧ failure = lost response cause := by
  rw [Headers.head?_values]
  unfold Response.location?
  cases response.headers.first? .location with
  | none => simp
  | some value =>
    constructor
    · intro fails
      refine ⟨value, ?_⟩
      dsimp only at fails
      split at fails
      · rename_i unseen
        exact ⟨_, rfl, .hidden unseen, (Except.error.inj fails).symm⟩
      · rename_i reference seen
        split at fails
        · cases fails
        · rename_i fault unjoined
          exact ⟨_, rfl, .apart reference fault seen unjoined, (Except.error.inj fails).symm⟩
    · rintro ⟨value', cause, first, misleads, rfl⟩
      cases first
      cases misleads with
      | hidden unseen =>
        simp only [unseen]
        rfl
      | apart reference fault seen unjoined =>
        simp only [seen, unjoined]
        rfl

/-- A response asks for a redirect that its request lets be followed, up to a limit, to where a value
says. -/
structure Directs (response : Response) (limit : UInt32) (value : HeaderValue) : Prop where
  policy : response.request.policy = .atMost limit
  status : response.status.code ∈ [301, 302, 303, 307, 308]
  location : (response.headers.values .location).head? = some value

theorem exists_next?_iff {response : Response} :
    (∃ next, next? response = .ok (some next)) ↔
      ∃ limit value target, Directs response limit value ∧ value.LeadsTo response.url target ∧
        response.redirects < limit := by
  constructor
  · rintro ⟨next, follows⟩
    obtain ⟨limit, target, policy, asks, below, -⟩ := next?_eq_some_iff.mp follows
    obtain ⟨value, first, leads⟩ := location?_eq_some_iff.mp asks.location
    exact ⟨limit, value, target, ⟨policy, Status.isFollowed_iff.mp asks.followed, first⟩, leads,
      below⟩
  · rintro ⟨limit, value, target, directs, leads, below⟩
    have asks : Asks response target :=
      ⟨Status.isFollowed_iff.mpr directs.status,
        location?_eq_some_iff.mpr ⟨value, directs.location, leads⟩⟩
    exact ⟨_, next?_eq_some_iff.mpr ⟨limit, target, directs.policy, asks, below, rfl⟩⟩

/-- A redirect fails where its first value leads nowhere, and else where it is one too many. -/
theorem next?_fails_iff {response : Response} {failure : Failure} :
    next? response = .error failure ↔
      ∃ limit value cause, Directs response limit value ∧ failure = lost response cause ∧
        (value.Misleads response.url cause ∨
          (∃ target, value.LeadsTo response.url target) ∧ limit ≤ response.redirects ∧
            cause = .tooManyRedirects limit) := by
  rw [next?_eq_error_iff]
  constructor
  · rintro ⟨limit, policy, ⟨followed, unusable⟩ | ⟨target, asks, above, rfl⟩⟩
    · obtain ⟨value, cause, first, misleads, same⟩ := location?_eq_error_iff.mp unusable
      exact ⟨limit, value, cause, ⟨policy, Status.isFollowed_iff.mp followed, first⟩, same,
        .inl misleads⟩
    · obtain ⟨value, first, leads⟩ := location?_eq_some_iff.mp asks.location
      exact ⟨limit, value, _, ⟨policy, Status.isFollowed_iff.mp asks.followed, first⟩, rfl,
        .inr ⟨⟨target, leads⟩, above, rfl⟩⟩
  · rintro ⟨limit, value, cause, directs, rfl, misleads | ⟨⟨target, leads⟩, above, rfl⟩⟩
    · exact ⟨limit, directs.policy, .inl ⟨Status.isFollowed_iff.mpr directs.status,
        location?_eq_error_iff.mpr ⟨value, cause, directs.location, misleads, rfl⟩⟩⟩
    · refine ⟨limit, directs.policy, .inr ⟨target, ⟨Status.isFollowed_iff.mpr directs.status, ?_⟩,
        above, rfl⟩⟩
      exact location?_eq_some_iff.mpr ⟨value, directs.location, leads⟩

/-! ## The request that follows -/

/-- A status asks for a `GET` without body in place of a request with a method. -/
def Rewrites (status : Status) (method : Method) : Prop :=
  method ≠ .head ∧
    (status.code = 303 ∨ ((status.code = 301 ∨ status.code = 302) ∧ method = .post))

instance (status : Status) (method : Method) : Decidable (Rewrites status method) :=
  inferInstanceAs (Decidable (_ ∧ _))

theorem becomesGet_iff {status : Status} {request : Request} :
    becomesGet status request = true ↔ Rewrites status request.method := by
  simp [becomesGet, asksForGet, Rewrites, and_comm]

/-- A request is what becomes of another one, which was answered with a status, at its next URL. -/
structure Succeeds (status : Status) (previous : Request) (target : Url) (next : Request) :
    Prop where
  url : next.url = target
  method : next.method = if Rewrites status previous.method then .get else previous.method
  body : next.body = if Rewrites status previous.method then none else previous.body
  /-- Each name keeps its values, in order, or loses them all. -/
  values (name : HeaderName) : next.headers.values name =
    if (Rewrites status previous.method ∧ name ∈ [.contentType, .contentLength]) ∨
        (previous.url.OtherOrigin target ∧
          name ∈ [.authorization, .cookie, .cookie2, .proxyAuthorization, .wwwAuthenticate]) then []
    else previous.headers.values name
  timeouts : next.timeouts = previous.timeouts
  policy : next.policy = previous.policy
  bodyCap : next.bodyCap = previous.bodyCap
  deferred : next.deferred = none

theorem succeeds_follow (status : Status) (previous : Request) (target : Url) :
    Succeeds status previous target (follow status previous target) where
  url := rfl
  method := by simp only [follow, Request.new, becomesGet_iff]
  body := by simp only [follow, becomesGet_iff]
  values name := by
    rw [values_follow]
    simp only [becomesGet_iff, bodyHeaders, credentials]
  timeouts := rfl
  policy := rfl
  bodyCap := rfl
  deferred := rfl

/-- Redirects go by their rule. A response is let through exactly when its request does not let
redirects be followed, or its status asks for none, or it has no `location`. Otherwise the redirect
fails, with the URL of the response, exactly when the first `location` value is no visible text or
does not join to a URL, or else when it is one redirect too many; and it is followed in all other
cases, by the request that becomes of the previous one at the URL to which that value leads. -/
theorem followed_by_rule (response : Response) :
    (next? response = .ok none ↔
      response.request.policy = .never ∨ response.status.code ∉ [301, 302, 303, 307, 308] ∨
        response.headers.values .location = []) ∧
    (∀ failure, next? response = .error failure ↔
      ∃ limit value cause, Directs response limit value ∧
        failure = ⟨.redirect, some cause, some response.url⟩ ∧
        (value.Misleads response.url cause ∨
          (∃ target, value.LeadsTo response.url target) ∧ limit ≤ response.redirects ∧
            cause = .tooManyRedirects limit)) ∧
    ((∃ next, next? response = .ok (some next)) ↔
      ∃ limit value target, Directs response limit value ∧ value.LeadsTo response.url target ∧
        response.redirects < limit) ∧
    ∀ next, next? response = .ok (some next) →
      ∃ value target, (response.headers.values .location).head? = some value ∧
        value.LeadsTo response.url target ∧
        Succeeds response.status response.request target next := by
  refine ⟨?_, fun failure => next?_fails_iff, exists_next?_iff, ?_⟩
  · have ignored : response.status.isFollowed = false ↔
        response.status.code ∉ [301, 302, 303, 307, 308] := by
      rw [← Status.isFollowed_iff, Bool.not_eq_true]
    rw [next?_eq_none_iff, Headers.contains_eq_false_iff, ignored]
  · intro next follows
    obtain ⟨limit, target, -, asks, -, rfl⟩ := next?_eq_some_iff.mp follows
    obtain ⟨value, first, leads⟩ := location?_eq_some_iff.mp asks.location
    exact ⟨value, target, first, leads, succeeds_follow ..⟩

end Redirect

end Courier
