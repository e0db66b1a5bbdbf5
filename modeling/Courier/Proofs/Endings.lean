import Courier.Proofs.WireRequests

/-! # How an exchange ends

An exchange is refused, given up before it is begun, left without a connection, or answered. Each
way to end has kinds of failures of its own: only a request that cannot be made into an exchange is
refused, and only a caller that gives up makes an exchange end as given up, whatever its request and
whatever comes back.
-/

namespace Courier

/-! ## Results -/

/-- A result with its failure tied to a URL, unless it already is tied to one. -/
def Failure.attachTo {α : Type} (url : Url) (result : Except Failure α) : Except Failure α :=
  result.mapError (·.attach url)

theorem Failure.attachTo_eq_error {α : Type} {url : Url} {result : Except Failure α}
    {failure : Failure} (fails : attachTo url result = .error failure) :
    ∃ failure', result = .error failure' ∧ failure = failure'.attach url := by
  cases result with
  | ok value => cases fails
  | error failure' => exact ⟨failure', rfl, (Except.error.inj fails).symm⟩

theorem Exchange.attach_eq (outcome : Outcome) (url : Url) :
    outcome.attach url = ⟨Failure.attachTo url outcome.result, outcome.sent⟩ := by
  obtain ⟨result, sent⟩ := outcome
  cases result with
  | ok response => rfl
  | error failure => rfl

namespace Exchange

variable {network : Network} {log : Log} {caller : Caller} {strategy : Strategy}
  {request : Request} {redirects : UInt32}

/-! ## Before a connection -/

/-- A refusal of what was asked for at a URL. -/
def refusal (url : Url) (cause : Cause) : Failure := (Failure.of .builder cause).withUrl url

/-- An exchange is refused for the first fault of a setter, else for a caller that may not wait, else
for the scheme. -/
theorem preflight_eq_error_iff {failure : Failure} :
    preflight caller request = .error failure ↔
      (∃ message, request.deferred = some message ∧
        failure = refusal request.url (.text message)) ∨
      (request.deferred = none ∧ caller.inAsync = true ∧
        failure = refusal request.url .blockingInAsyncContext) ∨
      (request.deferred = none ∧ caller.inAsync = false ∧ request.url.scheme ≠ "http" ∧
        failure = refusal request.url (.unsupportedScheme request.url.scheme)) := by
  unfold preflight Request.check refusal
  cases request.deferred with
  | some message =>
    simp only [bind, Except.bind, Except.error.injEq, Option.some.injEq, exists_eq_left',
      reduceCtorEq, false_and, or_false]
    exact eq_comm
  | none =>
    cases caller.inAsync with
    | true =>
      simp only [bind, Except.bind, ↓reduceIte, throw, throwThe, MonadExceptOf.throw,
        Except.error.injEq, reduceCtorEq, false_and, exists_const, true_and, Bool.true_eq_false,
        and_false, or_false, false_or]
      exact eq_comm
    | false =>
      by_cases spoken : request.url.scheme = "http"
      · simp [bind, Except.bind, pure, Except.pure, spoken]
      · simp only [bind, Except.bind, Bool.false_eq_true, ↓reduceIte, ne_eq, spoken,
          not_false_eq_true, throw, throwThe, MonadExceptOf.throw, Except.error.injEq, reduceCtorEq,
          false_and, exists_const, and_false, true_and, false_or]
        exact eq_comm

/-- A refusal names the URL that was asked for. -/
theorem of_preflight_eq_error {failure : Failure}
    (refused : preflight caller request = .error failure) :
    failure.kind = .builder ∧ failure.url = some request.url := by
  rcases preflight_eq_error_iff.mp refused with
    ⟨message, -, rfl⟩ | ⟨-, -, rfl⟩ | ⟨-, -, -, rfl⟩ <;> exact ⟨rfl, rfl⟩

/-! ## Reading the answer -/

/-- The kinds of failures of an answer. -/
def answerKinds : List Failure.Kind := [.request, .body, .timeout .read]

theorem kind_bodyFailure (cause : Cause) : (Wire.bodyFailure cause).kind ∈ answerKinds := by
  unfold Wire.bodyFailure
  split <;> simp [Failure.of, answerKinds]

theorem kind_of_readFrames {cap : Nat} {finish : Wire.Finish} {buffer : Bytes}
    {frames : List Wire.Frame} {failure : Failure}
    (lacking : Wire.readFrames cap finish buffer frames = .error failure) :
    failure.kind ∈ answerKinds := by
  induction frames generalizing buffer with
  | nil =>
    cases finish with
    | complete => cases lacking
    | broken fault =>
      cases lacking
      exact kind_bodyFailure fault.cause
    | stalled =>
      cases lacking
      decide
  | cons frame rest ih =>
    cases frame with
    | trailers => exact ih lacking
    | data bytes =>
      unfold Wire.readFrames at lacking
      dsimp only at lacking
      split at lacking
      · cases lacking
      · exact ih lacking

/-- What is read from an answer ends as given up exactly when the caller gives up. -/
theorem of_receive_eq_error {answer : Answer} {failure : Failure}
    (lacking : receive strategy request redirects answer = .error failure) :
    (answer.cancels = true ∧ failure = .cancelled) ∨
      (answer.cancels = false ∧ failure.kind ∈ answerKinds) := by
  unfold receive at lacking
  split at lacking
  · rename_i cancels
    cases lacking
    exact .inl ⟨cancels, rfl⟩
  · rename_i goesOn
    refine .inr ⟨Bool.eq_false_iff.mpr goesOn, ?_⟩
    split at lacking
    · cases lacking
      cases strategy <;> exact List.mem_cons_self ..
    · cases lacking
      decide
    · rename_i body _
      cases read : Wire.readBody request.bodyCap body with
      | ok bytes =>
        rw [read] at lacking
        cases lacking
      | error failure' =>
        rw [read] at lacking
        cases lacking
        exact kind_of_readFrames read

/-! ## The whole -/

/-- How an exchange ends, and what it comes to then. -/
inductive Ending (network : Network) (log : Log) (caller : Caller) (strategy : Strategy)
    (request : Request) (redirects : UInt32) : Outcome → Prop
  | refused (failure : Failure) (reason : preflight caller request = .error failure) :
      Ending network log caller strategy request redirects (.unsent failure)
  | givenUp (passed : preflight caller request = .ok ()) (given : caller.cancelled = true) :
      Ending network log caller strategy request redirects
        (.unsent (Failure.cancelled.withUrl request.url))
  | unready (failure : Failure) (passed : preflight caller request = .ok ())
      (patient : caller.cancelled = false)
      (reason : prepare network strategy request = .error failure) :
      Ending network log caller strategy request redirects (.unsent (failure.attach request.url))
  | answered (sent : WireRequest) (passed : preflight caller request = .ok ())
      (patient : caller.cancelled = false) (prepared : prepare network strategy request = .ok sent) :
      Ending network log caller strategy request redirects
        ⟨Failure.attachTo request.url (receive strategy request redirects
          ((network.reply log sent).answer request.method)), some sent⟩

theorem ending (network : Network) (log : Log) (caller : Caller) (strategy : Strategy)
    (request : Request) (redirects : UInt32) :
    Ending network log caller strategy request redirects
      (conduct network log caller strategy request redirects) := by
  unfold conduct
  cases passed : preflight caller request with
  | error failure => exact .refused failure passed
  | ok _ =>
    cases given : caller.cancelled with
    | true => exact .givenUp passed given
    | false =>
      rw [if_neg Bool.false_ne_true, attach_eq]
      unfold start
      cases prepared : prepare network strategy request with
      | error failure => exact .unready failure passed given prepared
      | ok sent => exact .answered sent passed given prepared

end Exchange

end Courier
