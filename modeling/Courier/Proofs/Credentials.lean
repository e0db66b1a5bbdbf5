import Mathlib
import Courier.Proofs.Hops

/-! # Credentials along redirects

Credentials belong to the origin of the request that they come with. Main statement: while a call
stays at this origin, each of its requests carries them as they were given, and once a redirect has
gone to another origin no later request carries any, even one that comes back.
-/

namespace Courier

theorem HeaderName.ofBytes?_userAgent : ofBytes? (Utf8.encode "user-agent") = some userAgent := by
  cbv

/-- The name of a client is the only header that a client adds. -/
theorem Call.values_prepare (settings : Settings) (request : Request) {name : HeaderName}
    (other : name ≠ .userAgent) :
    (prepare settings request).headers.values name = request.headers.values name := by
  unfold prepare
  split
  · rfl
  · unfold Request.setHeader Request.withHeader
    rw [HeaderName.ofBytes?_userAgent]
    cases HeaderValue.ofBytes? (Utf8.encode settings.userAgent) with
    | none => rfl
    | some value => exact (Headers.values_insert ..).trans (if_neg other)

namespace Hop

/-- From one exchange to the next credentials are kept at the same origin, and dropped otherwise. -/
theorem Leads.values_credential {hop next : Hop} (leads : hop.Leads next) (sound : hop.Sound)
    {name : HeaderName} (secret : name ∈ Redirect.credentials) :
    next.request.headers.values name =
      if hop.request.url.OtherOrigin next.request.url then []
      else hop.request.headers.values name := by
  obtain ⟨response, target, _, _, _, _, _, same, _⟩ := leads.follows sound
  have plain : name ∉ Redirect.bodyHeaders := by
    revert name
    decide
  have there : next.request.url = target := by rw [same]; rfl
  rw [there, same, Redirect.values_follow]
  simp only [plain, secret, and_false, and_true, false_or]

/-- A request that is sent has the headers of the one for which it is made. -/
theorem Sends.values_eq {hops : List Hop} {place : Nat} {sent : WireRequest} {name : HeaderName}
    (sends : Sends hops place sent) (linked : Linked hops) (kept : name ∉ Exchange.gained) :
    ∃ hop, hops[place]? = some hop ∧ sent.values name = hop.request.headers.values name := by
  obtain ⟨hop, here, arrived⟩ := sends
  obtain ⟨network, strategy, prepared⟩ := (linked.sound_at here).sent arrived
  exact ⟨hop, here, Exchange.values_prepare prepared kept⟩

namespace Linked

variable {hops : List Hop} {name : HeaderName}

/-- After a departure no request has a credential. -/
theorem values_after_departure (linked : Linked hops) (secret : name ∈ Redirect.credentials)
    {left : Nat} (departs : Departs hops left) :
    ∀ place hop, left + 1 ≤ place → hops[place]? = some hop →
      hop.request.headers.values name = [] := by
  apply linked.from_place (fun _ hop => hop.request.headers.values name = []) (left + 1)
  · intro next there
    obtain ⟨hop, next', here, there', other⟩ := departs
    obtain rfl : next' = next := Option.some.inj (there'.symm.trans there)
    rw [(linked.leads here there).values_credential (linked.sound_at here) secret, if_pos other]
  · intro place hop next _ _ _ leads sound gone
    rw [leads.values_credential sound secret, gone, ite_self]

/-- Before a departure every request has the credentials of the first. -/
theorem values_before_departure (linked : Linked hops) (secret : name ∈ Redirect.credentials)
    {given : List HeaderValue}
    (first : ∀ hop, hops[0]? = some hop → hop.request.headers.values name = given) :
    ∀ place hop, hops[place]? = some hop → (∀ left < place, ¬ Departs hops left) →
      hop.request.headers.values name = given := by
  intro place hop here
  refine linked.from_place (fun place hop => (∀ left < place, ¬ Departs hops left) →
    hop.request.headers.values name = given) 0 ?_ ?_ place hop (Nat.zero_le _) here
  · exact fun hop here _ => first hop here
  · intro place hop next _ here there leads sound kept home
    have same : ¬ hop.request.url.OtherOrigin next.request.url :=
      fun other => home place (Nat.lt_succ_self _) ⟨hop, next, here, there, other⟩
    rw [leads.values_credential sound secret, if_neg same]
    exact kept fun left before => home left (Nat.lt_succ_of_lt before)

end Linked

end Hop

namespace Client

variable {network : Network} {caller : Caller} {world : World} {request : Request}
  {place : Nat} {sent : WireRequest} {name : HeaderName}

private theorem ordinary_of_secret (secret : name ∈ Redirect.credentials) :
    name ∉ Exchange.gained ∧ name ≠ .userAgent := by
  revert name
  decide

theorem values_sent_after_departure
    (sends : Hop.Sends (hops network caller world request) place sent)
    (secret : name ∈ Redirect.credentials) {left : Nat} (before : left < place)
    (departs : Hop.Departs (hops network caller world request) left) : sent.values name = [] := by
  have linked := linked_hops network caller world request
  obtain ⟨hop, here, same⟩ := sends.values_eq linked (ordinary_of_secret secret).1
  rw [same]
  exact linked.values_after_departure secret departs place hop before here

theorem values_sent_before_departure
    (sends : Hop.Sends (hops network caller world request) place sent)
    (secret : name ∈ Redirect.credentials)
    (home : ∀ left < place, ¬ Hop.Departs (hops network caller world request) left) :
    sent.values name = request.headers.values name := by
  have linked := linked_hops network caller world request
  obtain ⟨hop, here, same⟩ := sends.values_eq linked (ordinary_of_secret secret).1
  rw [same]
  apply linked.values_before_departure secret ?_ place hop here home
  intro first start
  rw [(first_hop network caller world request start).1]
  exact Call.values_prepare _ _ (ordinary_of_secret secret).2

/-- Credentials leave their origin with no request of a call: what the call sends is what its
exchanges send; once one of them has gone to another scheme, host or port, no later one sends a
credential; and until then each sends those of the request, value for value. -/
theorem credentials_stay (network : Network) (caller : Caller) (world : World)
    (request : Request) :
    (execute network caller world request).2.log =
        world.log ++ (hops network caller world request).filterMap (·.outcome.sent) ∧
      ∀ name ∈ [HeaderName.authorization, .cookie, .cookie2, .proxyAuthorization, .wwwAuthenticate],
      ∀ place sent, Hop.Sends (hops network caller world request) place sent →
        ((∃ left < place, Hop.Departs (hops network caller world request) left) →
          sent.values name = []) ∧
        ((∀ left < place, ¬ Hop.Departs (hops network caller world request) left) →
          sent.values name = request.headers.values name) := by
  refine ⟨log_execute network caller world request, ?_⟩
  rintro name (secret : name ∈ Redirect.credentials) place sent sends
  constructor
  · rintro ⟨left, before, departs⟩
    exact values_sent_after_departure sends secret before departs
  · exact fun home => values_sent_before_departure sends secret home

end Client

end Courier
