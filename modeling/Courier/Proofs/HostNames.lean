import Courier.Proofs.Authentication
import Courier.Proofs.NextRequests

/-! # The host that a request names

A request that arrives names a host in a header. Whoever asks for the request may write this header;
otherwise the strategy writes it, from the URL to which the request goes. Redirection knows the header
as neither a credential nor a part of a body, so what the first request says of its host every request
of the call says. Main statement: each request of a call names the host of its own URL, once, unless
the first names hosts itself, which are then named throughout, also to other hosts.
-/

namespace Courier

/-- The value that names the host of a URL, with the port that it shows. -/
def Url.hostName (url : Url) : HeaderValue := ⟨Utf8.encode url.authorityText⟩

namespace Exchange

theorem hostText?_of_host? {url : Url} {host : Host} (named : host? url = .ok host) :
    url.hostText? = some host.text := by
  unfold host? at named
  unfold Url.hostText?
  cases found : url.host with
  | none => simp [found] at named
  | some other =>
    cases other with
    | empty => simp [found] at named
    | domain | ipv4 | ipv6 =>
      simp only [found, Except.ok.injEq] at named
      rw [← named]

theorem hostValue_of_host? {url : Url} {host : Host} (named : host? url = .ok host) :
    hostValue host url.port = url.hostName := by
  rw [hostValue, Url.hostName, Url.authorityText, hostText?_of_host? named, Option.getD_some]

/-- The target that a pool is given has the host and the port of the URL. -/
theorem absoluteTarget_ok {url : Url} {authority : Authority} {path : String}
    (written : absoluteTarget url = .ok (authority, path)) :
    host? url = .ok authority.host ∧ authority.port = url.port := by
  unfold absoluteTarget at written
  split at written
  · cases written
  · split at written
    · cases written
    · cases named : host? url with
      | error failure => simp [named, Except.map] at written
      | ok host =>
        simp only [named, Except.map, Except.ok.injEq, Prod.mk.injEq] at written
        obtain ⟨rfl, -⟩ := written
        exact ⟨rfl, rfl⟩

/-- A host is named where none is. -/
theorem values_host_withHost (headers : Headers) (host : Host) (port : Option UInt16) :
    (withHost headers host port).values .host =
      if headers.values .host = [] then [hostValue host port] else headers.values .host := by
  unfold withHost
  cases present : headers.contains .host with
  | false =>
    have absent := Headers.contains_eq_false_iff.mp present
    rw [if_neg Bool.false_ne_true, Headers.values_append, if_pos rfl, absent, if_pos rfl]
    rfl
  | true =>
    have named : headers.values .host ≠ [] := by
      intro absent
      rw [Headers.contains_eq_false_iff.mpr absent] at present
      cases present
    rw [if_pos rfl, if_neg named]

/-- Whatever the strategy, what arrives is a draft for the host of the URL, with the headers of the
request and this host among them. -/
theorem prepare_ok {network : Network} {strategy : Strategy} {request : Request}
    {sent : WireRequest} (prepared : prepare network strategy request = .ok sent) :
    ∃ (host : Host) (port : UInt16) (draft : Draft), host? request.url = .ok host ∧
      draft.headers = withHost request.headers host request.url.port ∧
      sent = draft.wire host port := by
  have pooled (prepared : preparePooled network request = .ok sent) :
      ∃ (host : Host) (port : UInt16) (draft : Draft), host? request.url = .ok host ∧
        draft.headers = withHost request.headers host request.url.port ∧
        sent = draft.wire host port := by
    obtain ⟨authority, path, written, same⟩ := preparePooled_ok prepared
    obtain ⟨named, port⟩ := absoluteTarget_ok written
    exact ⟨authority.host, _, poolDraft request authority path, named, by rw [← port]; rfl, same⟩
  cases strategy with
  | blocking =>
    obtain ⟨host, draft, named, drafted, same⟩ := prepareOwn_ok prepared
    exact ⟨host, _, draft, named, by rw [ownDraft_ok drafted], same⟩
  | pooled => exact pooled prepared
  | task => exact pooled prepared

/-- Whatever the strategy, a request arrives at the host of its URL and names this host, unless it
was made to name others. -/
theorem values_host_prepare {network : Network} {strategy : Strategy} {request : Request}
    {sent : WireRequest} (prepared : prepare network strategy request = .ok sent) :
    request.url.hostText? = some sent.host ∧
      sent.values .host =
        if request.headers.values .host = [] then [request.url.hostName]
        else request.headers.values .host := by
  obtain ⟨host, port, draft, named, drafted, rfl⟩ := prepare_ok prepared
  rw [Draft.values_wire, Draft.values_sized (by decide), drafted, values_host_withHost,
    hostValue_of_host? named]
  exact ⟨hostText?_of_host? named, rfl⟩

end Exchange

namespace Client

variable {network : Network} {caller : Caller} {world : World} {request : Request}

/-- Every request of a call was made to name the hosts that the first was made to name. -/
theorem values_host_hops {place : Nat} {hop : Hop}
    (here : (hops network caller world request)[place]? = some hop) :
    hop.request.headers.values .host = request.headers.values .host := by
  apply (linked_hops network caller world request).values_throughout (by decide) ?_ place hop here
  intro first start
  rw [(first_hop network caller world request start).1]
  exact Call.values_prepare _ _ (by decide)

theorem values_host_sent {place : Nat} {hop : Hop} {sent : WireRequest}
    (here : (hops network caller world request)[place]? = some hop)
    (arrived : hop.outcome.sent = some sent) :
    hop.request.url.hostText? = some sent.host ∧
      sent.values .host =
        if request.headers.values .host = [] then [hop.request.url.hostName]
        else request.headers.values .host := by
  obtain ⟨network', strategy, prepared⟩ :=
    ((linked_hops network caller world request).sound_at here).sent arrived
  rw [← values_host_hops here]
  exact Exchange.values_host_prepare prepared

/-- What the requests of a call say of their host. What the call sends is what its exchanges send.
Each request goes to the host of the URL of its exchange. If the first request does not name a host,
each names the one to which it goes, with the port that the URL shows, and no other; if it does, each
names the same hosts as the first, in the same order. -/
theorem host_named_throughout (network : Network) (caller : Caller) (world : World)
    (request : Request) :
    (execute network caller world request).2.log =
        world.log ++ (hops network caller world request).filterMap (·.outcome.sent) ∧
      ∀ (place : Nat) (hop : Hop) (sent : WireRequest),
        (hops network caller world request)[place]? = some hop → hop.outcome.sent = some sent →
        hop.request.url.hostText? = some sent.host ∧
        (request.headers.values .host = [] →
          sent.values .host = [⟨Utf8.encode hop.request.url.authorityText⟩]) ∧
        (request.headers.values .host ≠ [] →
          sent.values .host = request.headers.values .host) := by
  refine ⟨log_execute network caller world request, ?_⟩
  intro place hop sent here arrived
  obtain ⟨reached, values⟩ := values_host_sent here arrived
  refine ⟨reached, fun unnamed => ?_, fun named => ?_⟩
  · rw [values, if_pos unnamed]
    rfl
  · rw [values, if_neg named]

/-- A host that is named for the first request is named to the host to which a redirect leads. -/
theorem named_host_strays :
    ¬ ∀ (network : Network) (caller : Caller) (world : World) (request : Request)
      (place : Nat) (hop next : Hop) (sent : WireRequest),
        (hops network caller world request)[place]? = some hop →
        (hops network caller world request)[place + 1]? = some next →
        hop.request.url.hostText? ≠ next.request.url.hostText? ∨
          hop.request.url.effectivePort? ≠ next.request.url.effectivePort? →
        next.outcome.sent = some sent →
        sent.values .host = [⟨Utf8.encode next.request.url.authorityText⟩] := by
  intro named
  let given : Headers := Headers.empty.append .host ⟨Utf8.encode "virtual"⟩
  obtain ⟨headers, prepared⟩ := Builder.prepare_headRequest given
  obtain ⟨first, second, rest, goes, origin, elsewhere, arrives⟩ := Builder.hops_moving headers
  have exchanges : hops Builder.movingNetwork .patient Builder.freshWorld
      (Builder.headRequest given) = first :: second :: rest := by
    rw [← goes, hops, Call.begin]
    exact congrArg (fun request => (Call.mk _ (.dispatch request none)).hops _ _ _) prepared
  obtain ⟨sent, arrived⟩ := Option.isSome_iff_exists.mp arrives
  have there : (hops Builder.movingNetwork .patient Builder.freshWorld
      (Builder.headRequest given))[1]? = some second := by
    rw [exchanges]
    rfl
  have moved : first.request.url.hostText? ≠ second.request.url.hostText? := by
    rw [origin, elsewhere]
    decide
  have anew := named _ _ _ _ 0 first second sent (by rw [exchanges]; rfl) there (.inl moved) arrived
  have kept : sent.values .host = [⟨Utf8.encode "virtual"⟩] := (values_host_sent there arrived).2
  rw [elsewhere, kept] at anew
  exact absurd anew (by decide)

end Client

end Courier
