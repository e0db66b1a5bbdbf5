import Courier.Exchange
import Courier.Proofs.HeaderValues

/-! # What is sent

An exchange sends a request only when it passes the checks that come first, its caller has not given
up, and its strategy has made a connection. Whatever the strategy, the request that arrives has the
headers of the one that was asked for: only the host and the length of the body may be added.
-/

namespace Courier

/-- The values of a name in a request that arrives, in order. -/
def WireRequest.values (sent : WireRequest) (name : HeaderName) : List HeaderValue :=
  (sent.headers.filter (·.1 = name)).map (·.2)

theorem Request.check_eq_ok_iff {request : Request} :
    request.check = .ok () ↔ request.deferred = none := by
  unfold check
  cases request.deferred <;> simp

theorem Request.check_of_deferred {request : Request} {message : String}
    (noted : request.deferred = some message) :
    request.check = .error ((Failure.of .builder (.text message)).withUrl request.url) := by
  unfold check
  rw [noted]

namespace Exchange

/-- An exchange is begun for a request whose setters had no fault, by a caller that may wait, over
the one scheme that is spoken. -/
theorem preflight_eq_ok_iff {caller : Caller} {request : Request} :
    preflight caller request = .ok () ↔
      request.deferred = none ∧ caller.inAsync = false ∧ request.url.scheme = "http" := by
  unfold preflight Request.check
  cases request.deferred with
  | some message => simp [bind, Except.bind]
  | none =>
    cases caller.inAsync with
    | true => simp [bind, Except.bind, throw, throwThe, MonadExceptOf.throw]
    | false =>
      by_cases spoken : request.url.scheme = "http"
      · simp [bind, Except.bind, pure, Except.pure, spoken]
      · simp [bind, Except.bind, throw, throwThe, MonadExceptOf.throw, spoken]

/-- The names of the headers that a request may gain on its way. -/
def gained : List HeaderName := [.host, .contentLength]

theorem values_withHost {headers : Headers} {host : Host} {port : Option UInt16}
    {name : HeaderName} (other : name ≠ .host) :
    (withHost headers host port).values name = headers.values name := by
  unfold withHost
  split
  · rfl
  · rw [Headers.values_append, if_neg other]

theorem Draft.values_sized {draft : Draft} {name : HeaderName} (other : name ≠ .contentLength) :
    draft.sized.values name = draft.headers.values name := by
  unfold Draft.sized
  split
  · rfl
  · rw [Headers.values_append, if_neg other]

theorem Draft.values_wire (draft : Draft) (host : Host) (port : UInt16) (name : HeaderName) :
    (draft.wire host port).values name = draft.sized.values name :=
  Headers.values_pairs draft.sized name

/-- A connection of one's own carries a draft of the request for the host of its URL. -/
theorem prepareOwn_ok {network : Network} {request : Request} {sent : WireRequest}
    (prepared : prepareOwn network request = .ok sent) :
    ∃ host draft, host? request.url = .ok host ∧ ownDraft request host = .ok draft ∧
      sent = draft.wire host (request.url.effectivePort?.getD standardPort) := by
  unfold prepareOwn at prepared
  cases named : host? request.url with
  | error failure => simp [named, Except.bind] at prepared
  | ok host =>
    simp only [named, Except.bind] at prepared
    split at prepared
    · cases prepared
    · cases prepared
    · cases drafted : ownDraft request host with
      | error failure => simp [drafted, Except.map] at prepared
      | ok draft =>
        simp only [drafted, Except.map, Except.ok.injEq] at prepared
        exact ⟨host, draft, rfl, drafted, prepared.symm⟩

/-- A pool carries a draft for the authority that it finds in the target. -/
theorem preparePooled_ok {network : Network} {request : Request} {sent : WireRequest}
    (prepared : preparePooled network request = .ok sent) :
    ∃ authority path, absoluteTarget request.url = .ok (authority, path) ∧
      sent = (poolDraft request authority path).wire authority.host
        (authority.port.getD standardPort) := by
  unfold preparePooled at prepared
  cases written : absoluteTarget request.url with
  | error failure => simp [written, Except.bind] at prepared
  | ok target =>
    obtain ⟨authority, path⟩ := target
    simp only [written, Except.bind] at prepared
    split at prepared
    · cases prepared
    · cases prepared
    · cases prepared
      exact ⟨authority, path, rfl, rfl⟩

theorem ownDraft_ok {request : Request} {host : Host} {draft : Draft}
    (drafted : ownDraft request host = .ok draft) :
    draft = ⟨request.method, request.url.target, withHost request.headers host request.url.port,
      request.body.getD []⟩ := by
  unfold ownDraft at drafted
  split at drafted
  · cases drafted
  · exact (Except.ok.inj drafted).symm

/-- Whatever the strategy, a header arrives as it was asked for, unless it is one of those that may
be gained. -/
theorem values_prepare {network : Network} {strategy : Strategy} {request : Request}
    {sent : WireRequest} {name : HeaderName}
    (prepared : prepare network strategy request = .ok sent) (kept : name ∉ gained) :
    sent.values name = request.headers.values name := by
  simp only [gained, List.mem_cons, List.not_mem_nil, or_false, not_or] at kept
  have own (prepared : prepareOwn network request = .ok sent) :
      sent.values name = request.headers.values name := by
    obtain ⟨host, draft, -, drafted, rfl⟩ := prepareOwn_ok prepared
    rw [Draft.values_wire, Draft.values_sized kept.2, ownDraft_ok drafted]
    exact values_withHost kept.1
  have pooled (prepared : preparePooled network request = .ok sent) :
      sent.values name = request.headers.values name := by
    obtain ⟨authority, path, -, rfl⟩ := preparePooled_ok prepared
    rw [Draft.values_wire, Draft.values_sized kept.2]
    exact values_withHost kept.1
  cases strategy with
  | blocking => exact own prepared
  | pooled => exact pooled prepared
  | task => exact pooled prepared

theorem Outcome.attach_sent (outcome : Outcome) (url : Url) :
    (outcome.attach url).sent = outcome.sent := by
  unfold Outcome.attach
  split <;> rfl

/-- What a started exchange sends is what its strategy prepares. -/
theorem start_sent {network : Network} {log : Log} {strategy : Strategy} {request : Request}
    {redirects : UInt32} {sent : WireRequest} :
    (start network log strategy request redirects).sent = some sent ↔
      prepare network strategy request = .ok sent := by
  unfold start
  cases prepare network strategy request with
  | error failure => simp [Outcome.unsent]
  | ok prepared => simp

/-- An exchange sends exactly what its strategy prepares, once nothing keeps it from being
started. -/
theorem conduct_sent {network : Network} {log : Log} {caller : Caller} {strategy : Strategy}
    {request : Request} {redirects : UInt32} {sent : WireRequest} :
    (conduct network log caller strategy request redirects).sent = some sent ↔
      preflight caller request = .ok () ∧ caller.cancelled = false ∧
        prepare network strategy request = .ok sent := by
  unfold conduct
  cases preflight caller request with
  | error failure => simp [Outcome.unsent]
  | ok passed =>
    dsimp only
    rw [Outcome.attach_sent]
    cases caller.cancelled with
    | true => simp [Outcome.unsent]
    | false => simp [start_sent]

end Exchange

end Courier
