import Courier.Proofs.HostNames

/-! # Bodies along redirects

A response with the status 303 points to another resource, and the request for that one is to have no
body. But a request loses its body together with its method: it becomes a `GET`, unless it is a
`HEAD`, which stays what it is and keeps its body and the headers that describe one. No redirect makes
a `HEAD` of another method, or another method of a `HEAD`, and a body that is gone does not come back.
Main statement: after a 303 a call sends no body, except that a call for a `HEAD` sends the body that
it was given with each of its requests.
-/

namespace Courier

/-- A request has no body and no header that describes one. -/
structure Request.Bodiless (request : Request) : Prop where
  body : request.body = none
  contentType : request.headers.values .contentType = []
  contentLength : request.headers.values .contentLength = []

namespace Redirect

variable {status : Status} {request : Request}

theorem method_follow_eq_head_iff (status : Status) (request : Request) (target : Url) :
    (follow status request target).method = .head ↔ request.method = .head := by
  rw [(succeeds_follow status request target).method]
  split
  · rename_i rewrites
    exact iff_of_false (by decide) rewrites.1
  · rfl

theorem body_follow_of_none (gone : request.body = none) (status : Status) (target : Url) :
    (follow status request target).body = none := by
  rw [(succeeds_follow status request target).body, gone, ite_self]

theorem not_rewrites_of_head (head : request.method = .head) (status : Status) :
    ¬ Rewrites status request.method :=
  fun rewrites => rewrites.1 head

theorem body_follow_of_head (head : request.method = .head) (status : Status) (target : Url) :
    (follow status request target).body = request.body := by
  rw [(succeeds_follow status request target).body, if_neg (not_rewrites_of_head head status)]

/-- A header that describes a body is lost where the body is. -/
theorem values_follow_of_bodyHeader {name : HeaderName} (describes : name ∈ bodyHeaders)
    (status : Status) (request : Request) (target : Url) :
    (follow status request target).headers.values name =
      if Rewrites status request.method then [] else request.headers.values name := by
  have common : name ∉ credentials := by
    revert name
    decide
  simp only [values_follow, becomesGet_iff, describes, common, and_true, and_false, or_false]

/-- What becomes of a body when the answer is a 303. -/
theorem bodiless_follow_iff (seeOther : status.code = 303) (request : Request) (target : Url) :
    (follow status request target).Bodiless ↔ request.method ≠ .head ∨ request.Bodiless := by
  have becomes := succeeds_follow status request target
  have ofType : HeaderName.contentType ∈ bodyHeaders := by decide
  have ofLength : HeaderName.contentLength ∈ bodyHeaders := by decide
  have contentType := values_follow_of_bodyHeader ofType status request target
  have contentLength := values_follow_of_bodyHeader ofLength status request target
  by_cases head : request.method = .head
  · have kept := not_rewrites_of_head head status
    rw [if_neg kept] at contentType contentLength
    have body := body_follow_of_head head status target
    constructor
    · exact fun bodiless => .inr ⟨body ▸ bodiless.body, contentType ▸ bodiless.contentType,
        contentLength ▸ bodiless.contentLength⟩
    · rintro (other | bodiless)
      · exact absurd head other
      · exact ⟨body ▸ bodiless.body, contentType ▸ bodiless.contentType,
          contentLength ▸ bodiless.contentLength⟩
  · have rewrites : Rewrites status request.method := ⟨head, .inl seeOther⟩
    rw [if_pos rewrites] at contentType contentLength
    refine iff_of_true ⟨?_, contentType, contentLength⟩ (.inl head)
    rw [becomes.body, if_pos rewrites]

end Redirect

/-! ## Along a call -/

namespace Hop

/-- The exchange at a place is answered with a 303, and the call goes on. -/
def SeesOther (hops : List Hop) (place : Nat) : Prop :=
  ∃ hop next response, hops[place]? = some hop ∧ hops[place + 1]? = some next ∧
    hop.outcome.result = .ok response ∧ response.status.code = 303

namespace Linked

variable {hops : List Hop} {first : Hop}

/-- All exchanges of a call are for a `HEAD`, or none. -/
theorem method_eq_head_iff (linked : Linked hops) (begun : hops[0]? = some first) {place : Nat}
    {hop : Hop} (here : hops[place]? = some hop) :
    hop.request.method = .head ↔ first.request.method = .head := by
  refine linked.from_first begun
    (fun hop => hop.request.method = .head ↔ first.request.method = .head) Iff.rfl ?_ here
  intro place hop next _ leads sound same
  obtain ⟨response, target, _, _, _, _, _, follows, _⟩ := leads.follows sound
  rw [follows, Redirect.method_follow_eq_head_iff]
  exact same

/-- The body of a `HEAD` goes wherever the call goes. -/
theorem body_of_head (linked : Linked hops) (begun : hops[0]? = some first)
    (head : first.request.method = .head) {place : Nat} {hop : Hop}
    (here : hops[place]? = some hop) : hop.request.body = first.request.body := by
  refine linked.from_first begun (fun hop => hop.request.body = first.request.body) rfl ?_ here
  intro place hop next here leads sound same
  obtain ⟨response, target, _, _, _, _, _, follows, _⟩ := leads.follows sound
  rw [follows, Redirect.body_follow_of_head ((linked.method_eq_head_iff begun here).mpr head)]
  exact same

/-- After a 303 no request of another method has a body. -/
theorem body_after_seeOther (linked : Linked hops) (begun : hops[0]? = some first)
    (other : first.request.method ≠ .head) {place : Nat} (sees : SeesOther hops place)
    {later : Nat} {hop : Hop} (after : place < later) (here : hops[later]? = some hop) :
    hop.request.body = none := by
  refine linked.from_place (fun _ hop => hop.request.body = none) (place + 1) ?_ ?_ later hop after
    here
  · intro next there
    obtain ⟨hop, next', response, here, there', obtained, seeOther⟩ := sees
    obtain ⟨response', target, _, obtained', _, _, _, follows, _⟩ :=
      (linked.leads here there).follows (linked.sound_at here)
    obtain rfl : response = response' := Except.ok.inj (obtained.symm.trans obtained')
    have away : hop.request.method ≠ .head := (linked.method_eq_head_iff begun here).not.mpr other
    rw [follows]
    exact ((Redirect.bodiless_follow_iff seeOther _ _).mpr (.inl away)).body
  · intro place hop next _ _ _ leads sound gone
    obtain ⟨response, target, _, _, _, _, _, follows, _⟩ := leads.follows sound
    rw [follows]
    exact Redirect.body_follow_of_none gone _ _

end Linked

end Hop

/-- Whatever the strategy, the body that arrives is that of the request. -/
theorem Exchange.body_prepare {network : Network} {strategy : Strategy} {request : Request}
    {sent : WireRequest} (prepared : prepare network strategy request = .ok sent) :
    sent.body = request.body.getD [] := by
  have pooled (prepared : preparePooled network request = .ok sent) :
      sent.body = request.body.getD [] := by
    obtain ⟨authority, path, -, rfl⟩ := preparePooled_ok prepared
    rfl
  cases strategy with
  | blocking =>
    obtain ⟨host, draft, -, drafted, rfl⟩ := prepareOwn_ok prepared
    rw [ownDraft_ok drafted]
    rfl
  | pooled => exact pooled prepared
  | task => exact pooled prepared

namespace Client

variable {network : Network} {caller : Caller} {world : World} {request : Request}

/-- The first exchange of a call is for the method and the body that the client is given. -/
theorem exists_first_hop (network : Network) (caller : Caller) (world : World) (request : Request) :
    ∃ first, (hops network caller world request)[0]? = some first ∧
      first.request.method = request.method ∧ first.request.body = request.body := by
  obtain ⟨headers, deferred, prepared⟩ := Call.exists_prepare world.client.settings request
  obtain ⟨first, begun⟩ := exists_first network caller world request
  refine ⟨first, begun, ?_⟩
  rw [(first_hop network caller world request begun).1, prepared]
  exact ⟨rfl, rfl⟩

/-- What a call sends once it has followed a 303. -/
theorem body_sent_after_seeOther {place : Nat}
    (sees : Hop.SeesOther (hops network caller world request) place) {later : Nat}
    {sent : WireRequest} (after : place < later)
    (sends : Hop.Sends (hops network caller world request) later sent) :
    sent.body = if request.method = .head then request.body.getD [] else [] := by
  have linked := linked_hops network caller world request
  obtain ⟨first, begun, method, body⟩ := exists_first_hop network caller world request
  obtain ⟨hop, here, arrived⟩ := sends
  obtain ⟨network', strategy, prepared⟩ := (linked.sound_at here).sent arrived
  rw [Exchange.body_prepare prepared]
  split
  · rename_i head
    rw [linked.body_of_head begun (method.trans head) here, body]
  · rename_i other
    have away : first.request.method ≠ .head := method ▸ other
    rw [linked.body_after_seeOther begun away sees after here]
    rfl

/-- What a 303 makes of bodies. The request that follows one has neither a body nor a header that
describes one exactly when the request before was no `HEAD` or had none of these itself. What a call
sends is what its exchanges send; after a 303 that is followed each of them sends no body, or, in a
call for a `HEAD`, the body that the client was given. -/
theorem bodies_after_seeOther (network : Network) (caller : Caller) (world : World)
    (request : Request) :
    let hops := hops network caller world request
    (∀ (response : Response) (next : Request), Redirect.next? response = .ok (some next) →
      response.status.code = 303 →
      (next.Bodiless ↔ response.request.method ≠ .head ∨ response.request.Bodiless)) ∧
    (execute network caller world request).2.log =
      world.log ++ hops.filterMap (·.outcome.sent) ∧
    ∀ place, Hop.SeesOther hops place → ∀ later > place, ∀ sent, Hop.Sends hops later sent →
      sent.body = if request.method = .head then request.body.getD [] else [] := by
  intro hops
  refine ⟨?_, log_execute network caller world request, ?_⟩
  · intro response next follows seeOther
    obtain ⟨limit, target, -, -, -, rfl⟩ := Redirect.next?_eq_some_iff.mp follows
    exact Redirect.bodiless_follow_iff seeOther _ _
  · intro place sees later after sent sends
    exact body_sent_after_seeOther sees after sends

/-- A `HEAD` with a body keeps it when the answer is a 303. -/
theorem body_kept_by_head :
    ¬ ∀ (response : Response) (next : Request), Redirect.next? response = .ok (some next) →
      response.status.code = 303 → next.Bodiless := by
  intro dropped
  let asked : Request := { Builder.headRequest .empty with body := some [0] }
  let response : Response := { Builder.movedResponse .empty with status := ⟨303⟩, request := asked }
  have follows : Redirect.next? response =
      .ok (some (Redirect.follow ⟨303⟩ asked (Builder.page "b"))) := by
    have leads : response.location? = .ok (some (Builder.page "b")) := by cbv
    have below : (0 : UInt32) < 20 := by decide
    exact Redirect.next?_eq_some_iff.mpr ⟨20, _, rfl, ⟨rfl, leads⟩, below, rfl⟩
  have kept : (Redirect.follow ⟨303⟩ asked (Builder.page "b")).body = some [0] :=
    Redirect.body_follow_of_head rfl ⟨303⟩ _
  exact Option.some_ne_none _ (kept.symm.trans (dropped _ _ follows rfl).body)

end Client

end Courier
