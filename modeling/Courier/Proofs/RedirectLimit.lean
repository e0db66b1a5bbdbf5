import Mathlib
import Courier.Proofs.Performing
import Courier.Proofs.Selecting
import Courier.Proofs.Steps

/-! # The limit of redirects

Only the place of an exchange in its chain bounds a call: it passes through the response, the
dispatcher and the unit to the next response, where it is compared with the limit. It counts the
redirects X-/

namespace Courier

/-! ## What an exchange fails for -/

/-- A failure for a limit of redirects. -/
def Failure.Exceeds (failure : Failure) (limit : UInt32) : Prop :=
  failure.cause = some (.tooManyRedirects limit)

/-- What does not fail for a limit of redirects. -/
def Unlimited {α : Type} (result : Except Failure α) : Prop :=
  ∀ failure limit, result = .error failure → ¬ failure.Exceeds limit

namespace Unlimited

variable {α β : Type}

theorem ok (value : α) : Unlimited (.ok value) := by
  intro failure limit fails
  cases fails

theorem error {failure : Failure} (other : ∀ limit, ¬ failure.Exceeds limit) :
    Unlimited (.error failure : Except Failure α) := by
  intro failure limit fails
  cases fails
  exact other limit

theorem bind {result : Except Failure α} {next : α → Except Failure β} (first : Unlimited result)
    (later : ∀ value, Unlimited (next value)) : Unlimited (result.bind next) := by
  cases result with
  | error failure => exact error fun limit => first failure limit rfl
  | ok value => exact later value

theorem map {result : Except Failure α} (change : α → β) (first : Unlimited result) :
    Unlimited (result.map change) := by
  cases result with
  | error failure => exact error fun limit => first failure limit rfl
  | ok value => exact ok _

end Unlimited

namespace Exchange

theorem unlimited_preflight (caller : Caller) (request : Request) :
    Unlimited (preflight caller request) := by
  unfold preflight
  refine Unlimited.bind ?_ fun _ => ?_
  · unfold Request.check
    split
    · exact .ok _
    · exact .error nofun
  · dsimp only [bind, Except.bind]
    split
    · exact .error nofun
    · split
      · exact .error nofun
      · exact .ok _

theorem unlimited_host? (url : Url) : Unlimited (host? url) := by
  unfold host?
  split
  · exact .error nofun
  · exact .error nofun
  · exact .ok _

theorem unlimited_prepareOwn (network : Network) (request : Request) :
    Unlimited (prepareOwn network request) := by
  unfold prepareOwn
  refine Unlimited.bind (unlimited_host? _) fun host => ?_
  split
  · exact .error nofun
  · exact .error nofun
  · apply Unlimited.map
    unfold ownDraft
    split
    · exact .error nofun
    · exact .ok _

theorem unlimited_preparePooled (network : Network) (request : Request) :
    Unlimited (preparePooled network request) := by
  unfold preparePooled
  refine Unlimited.bind ?_ fun target => ?_
  · unfold absoluteTarget
    split
    · exact .error nofun
    · split
      · exact .error nofun
      · exact Unlimited.map _ (unlimited_host? _)
  · dsimp only
    split
    · rename_i kind _
      cases kind <;> exact .error nofun
    · exact .error nofun
    · exact .ok _

theorem unlimited_prepare (network : Network) (strategy : Strategy) (request : Request) :
    Unlimited (prepare network strategy request) := by
  cases strategy with
  | blocking => exact unlimited_prepareOwn network request
  | pooled => exact unlimited_preparePooled network request
  | task => exact unlimited_preparePooled network request

theorem unlimited_readFrames (cap : Nat) (finish : Wire.Finish) (buffer : Bytes)
    (frames : List Wire.Frame) : Unlimited (Wire.readFrames cap finish buffer frames) := by
  induction frames generalizing buffer with
  | nil =>
    cases finish with
    | complete => exact .ok _
    | broken fault =>
      refine .error fun limit => ?_
      unfold Wire.bodyFailure
      cases fault <;> split <;> exact nofun
    | stalled => exact .error nofun
  | cons frame rest ih =>
    cases frame with
    | trailers => exact ih buffer
    | data bytes =>
      unfold Wire.readFrames
      dsimp only
      split
      · exact .ok _
      · exact ih _

theorem unlimited_receive (strategy : Strategy) (request : Request) (redirects : UInt32)
    (answer : Answer) : Unlimited (receive strategy request redirects answer) := by
  unfold receive
  split
  · exact .error nofun
  · split
    · cases strategy <;> exact .error nofun
    · exact .error nofun
    · exact Unlimited.map _ (unlimited_readFrames _ _ _ _)

theorem Outcome.unlimited_attach {outcome : Outcome} (url : Url)
    (first : Unlimited outcome.result) : Unlimited (outcome.attach url).result := by
  unfold Outcome.attach
  split
  · exact first
  · rename_i failure fails
    exact .error fun limit => first failure limit fails

/-- No exchange fails for a limit of redirects. -/
theorem unlimited_conduct (network : Network) (log : Log) (caller : Caller) (strategy : Strategy)
    (request : Request) (redirects : UInt32) :
    Unlimited (conduct network log caller strategy request redirects).result := by
  unfold conduct
  split
  · rename_i failure refused
    exact .error fun limit => unlimited_preflight caller request failure limit refused
  · apply Outcome.unlimited_attach
    split
    · exact .error nofun
    · unfold start
      split
      · rename_i failure unready
        exact .error fun limit => unlimited_prepare network strategy request failure limit unready
      · exact unlimited_receive _ _ _ _

end Exchange

theorem Response.unlimited_location? (response : Response) : Unlimited response.location? := by
  unfold Response.location?
  split
  · exact .ok _
  · split
    · exact .error nofun
    · split
      · exact .ok _
      · exact .error nofun

/-! ## Where a call stands -/

namespace Hop

/-- The unit of an exchange fails for a limit without exchanging anything. -/
def Feigns (hop : Hop) (limit : UInt32) : Prop :=
  ∃ failure, hop.unit.conduct = .fail failure ∧ failure.Exceeds limit

/-- The response of an exchange asks for another one. -/
def Asks (hop : Hop) : Prop :=
  ∃ response target, hop.outcome.result = .ok response ∧ Redirect.Asks response target

theorem not_feigns (hop : Hop) (performs : hop.unit.Performs) (limit : UInt32) :
    ¬ hop.Feigns limit := by
  rintro ⟨failure, fails, -⟩
  obtain ⟨strategy, performed⟩ := performs
  rw [performed] at fails
  cases fails

theorem Feigns.ends {hop : Hop} {limit : UInt32} (feigns : hop.Feigns limit)
    (sound : hop.Sound) : hop.next? = none ∧
      ∃ failure, hop.conclusion = .error failure ∧ failure.Exceeds limit := by
  obtain ⟨failure, planned, exceeds⟩ := feigns
  obtain ⟨network, log, caller, same⟩ := sound
  have fails : hop.outcome.result = .error failure := by
    rw [same]
    simp only [ExecutionUnit.execute, planned, Outcome.unsent]
  unfold next? conclusion
  rw [fails]
  exact ⟨rfl, failure, rfl, exceeds⟩

theorem conclusion_ok {hop : Hop} {response : Response} (ended : hop.next? = none)
    (returns : hop.conclusion = .ok response) :
    hop.outcome.result = .ok response ∧ Redirect.next? response = .ok none := by
  unfold conclusion at returns
  unfold next? at ended
  cases obtained : hop.outcome.result with
  | error failure =>
    rw [obtained] at returns
    cases returns
  | ok response' =>
    rw [obtained] at returns ended
    dsimp only at returns ended
    cases asked : Redirect.next? response' with
    | error failure =>
      rw [asked] at returns
      cases returns
    | ok next =>
      rw [asked] at returns
      cases returns
      cases next with
      | none => exact ⟨rfl, asked⟩
      | some request => simp only [asked, reduceCtorEq] at ended

/-- A call that ends with an exchange fails for a limit when the response of the exchange asks for
another one at a place that has reached the limit. -/
theorem exceeds_iff {hop : Hop} {limit : UInt32} (sound : hop.Sound)
    (policy : hop.request.policy = .atMost limit) :
    (∃ failure, hop.conclusion = .error failure ∧ failure.Exceeds limit) ↔
      (hop.Asks ∧ limit ≤ hop.unit.redirects) ∨ hop.Feigns limit := by
  constructor
  · rintro ⟨failure, fails, exceeds⟩
    unfold conclusion at fails
    cases obtained : hop.outcome.result with
    | error failure' =>
      rw [obtained] at fails
      obtain rfl := Except.error.inj fails
      right
      obtain ⟨network, log, caller, same⟩ := sound
      cases planned : hop.unit.conduct with
      | fail failure =>
        simp only [same, ExecutionUnit.execute, planned, Outcome.unsent, Except.error.injEq]
          at obtained
        exact ⟨failure, planned, obtained ▸ exceeds⟩
      | exchange strategy =>
        simp only [same, ExecutionUnit.execute, planned] at obtained
        exact absurd exceeds (Exchange.unlimited_conduct _ _ _ _ _ _ _ limit obtained)
    | ok response =>
      obtain ⟨answered, place⟩ := sound.response obtained
      simp only [obtained] at fails
      cases asked : Redirect.next? response with
      | ok next =>
        rw [asked] at fails
        cases fails
      | error failure' =>
        rw [asked] at fails
        obtain rfl := Except.error.inj fails
        obtain ⟨limit', policy', ⟨_, lost⟩ | ⟨target, asks, above, rfl⟩⟩ :=
          Redirect.next?_eq_error_iff.mp asked
        · exact absurd exceeds (response.unlimited_location? _ limit lost)
        · rw [answered, policy] at policy'
          cases policy'
          exact .inl ⟨⟨response, target, obtained, asks⟩, place ▸ above⟩
  · rintro (⟨⟨response, target, obtained, asks⟩, above⟩ | feigns)
    · obtain ⟨answered, place⟩ := sound.response obtained
      have asked : Redirect.next? response = .error (Redirect.limitReached limit response) :=
        Redirect.next?_eq_error_iff.mpr
          ⟨limit, answered ▸ policy, .inr ⟨target, asks, place ▸ above, rfl⟩⟩
      refine ⟨Redirect.limitReached limit response, ?_, rfl⟩
      simp only [conclusion, obtained, asked, Except.map]
    · exact (feigns.ends sound).2

namespace Linked

variable {hops : List Hop}

/-- Every request of a call has the policy of the first. -/
theorem policy_eq (linked : Linked hops) {policy : RedirectPolicy}
    (first : ∀ hop : Hop, hops[0]? = some hop → hop.request.policy = policy) :
    ∀ (place : Nat) (hop : Hop), hops[place]? = some hop → hop.request.policy = policy := by
  intro place hop here
  refine linked.from_place (fun _ hop => hop.request.policy = policy) 0 first ?_ place hop
    (Nat.zero_le _) here
  intro place hop next _ _ _ leads sound same
  obtain ⟨response, target, _, _, _, _, _, follows, _⟩ := leads.follows sound
  rw [follows]
  exact same

/-- The place of an exchange is the count of redirects that led to it. -/
theorem redirects_eq (linked : Linked hops)
    (first : ∀ hop : Hop, hops[0]? = some hop → hop.unit.redirects = 0) :
    ∀ (place : Nat) (hop : Hop), hops[place]? = some hop → hop.unit.redirects.toNat = place := by
  intro place hop here
  refine linked.from_place (fun place hop => hop.unit.redirects.toNat = place) 0 ?_ ?_ place hop
    (Nat.zero_le _) here
  · intro hop here
    rw [first hop here]
    rfl
  · intro place hop next _ _ _ leads sound counted
    obtain ⟨response, _, limit, obtained, _, _, below, _, more⟩ := leads.follows sound
    obtain ⟨-, same⟩ := sound.response obtained
    rw [more, Response.hopIndex_some_of_lt (same ▸ below), same, counted]

/-- An exchange that is not the last stands below the limit, and its response asks for the next. -/
theorem follows_at (linked : Linked hops)
    (first : ∀ hop : Hop, hops[0]? = some hop → hop.unit.redirects = 0) {place : Nat} {hop : Hop}
    (here : hops[place]? = some hop) (more : place + 1 < hops.length) :
    ∃ limit response, hop.request.policy = .atMost limit ∧ place < limit.toNat ∧
      hop.outcome.result = .ok response ∧ response.redirects.toNat = place ∧ hop.Asks := by
  have leads := linked.leads here (List.getElem?_eq_getElem more)
  obtain ⟨response, target, limit, obtained, asks, policy, below, _, _⟩ :=
    leads.follows (linked.sound_at here)
  obtain ⟨-, same⟩ := (linked.sound_at here).response obtained
  have counted := linked.redirects_eq first place hop here
  refine ⟨limit, response, policy, ?_, obtained, same ▸ counted, response, target, obtained, asks⟩
  rw [← counted]
  exact UInt32.lt_iff_toNat_lt.mp below

/-- An exchange after which a call does not go on is the last. -/
theorem eq_last (linked : Linked hops) {place : Nat} {hop : Hop} (here : hops[place]? = some hop)
    (ended : hop.next? = none) : place + 1 = hops.length := by
  obtain ⟨bound, -⟩ := List.getElem?_eq_some_iff.mp here
  rcases Nat.lt_or_ge (place + 1) hops.length with more | less
  · obtain ⟨response, goes, _⟩ := linked.leads here (List.getElem?_eq_getElem more)
    rw [ended] at goes
    cases goes
  · omega

end Linked

end Hop

/-! ## How far a call goes -/

namespace Client

variable (network : Network) (caller : Caller) (world : World) (request : Request)

theorem policy_at {place : Nat} {hop : Hop}
    (here : (hops network caller world request)[place]? = some hop) :
    hop.request.policy = request.policy := by
  apply (linked_hops network caller world request).policy_eq ?_ place hop here
  intro first start
  obtain ⟨headers, deferred, prepared⟩ := Call.exists_prepare world.client.settings request
  rw [(first_hop network caller world request start).1, prepared]

theorem redirects_at {place : Nat} {hop : Hop}
    (here : (hops network caller world request)[place]? = some hop) :
    hop.unit.redirects.toNat = place :=
  (linked_hops network caller world request).redirects_eq
    (fun _ start => (first_hop network caller world request start).2) place hop here

/-- At an exchange that is not the last the limit is still ahead, and the response asks for the
next. -/
theorem follows_at {place : Nat} {hop : Hop}
    (here : (hops network caller world request)[place]? = some hop)
    (more : place + 1 < (hops network caller world request).length) :
    ∃ limit response, request.policy = .atMost limit ∧ place < limit.toNat ∧
      hop.outcome.result = .ok response ∧ response.redirects.toNat = place ∧ hop.Asks := by
  rw [← policy_at network caller world request here]
  exact (linked_hops network caller world request).follows_at
    (fun _ start => (first_hop network caller world request start).2) here more

/-- The last exchange, and what the call returns. -/
theorem exists_last_place :
    ∃ place last, place + 1 = (hops network caller world request).length ∧
      (hops network caller world request)[place]? = some last ∧ last.next? = none ∧
      (execute network caller world request).1 = last.conclusion := by
  obtain ⟨last, final, ended, result⟩ := last_hop network caller world request
  rw [List.getLast?_eq_getElem?] at final
  have count := (linked_hops network caller world request).eq_last final ended
  exact ⟨_, last, count, final, ended, result⟩

theorem length_of_never (policy : request.policy = .never) :
    (hops network caller world request).length = 1 := by
  obtain ⟨place, last, count, -⟩ := exists_last_place network caller world request
  rcases Nat.eq_zero_or_pos place with rfl | later
  · exact count.symm
  · have more : 0 + 1 < (hops network caller world request).length := by omega
    obtain ⟨limit, _, policy', _⟩ := follows_at network caller world request
      (List.getElem?_eq_getElem (by omega)) more
    rw [policy] at policy'
    cases policy'

theorem length_le {limit : UInt32} (policy : request.policy = .atMost limit) :
    (hops network caller world request).length ≤ limit.toNat + 1 := by
  by_contra beyond
  have more : limit.toNat + 1 < (hops network caller world request).length := by omega
  obtain ⟨limit', _, policy', below, _⟩ := follows_at network caller world request
    (List.getElem?_eq_getElem (by omega)) more
  rw [policy] at policy'
  cases policy'
  exact Nat.lt_irrefl _ below

/-- A response that is returned is that of the last exchange, and asks for nothing. -/
theorem returned {response : Response}
    (returns : (execute network caller world request).1 = .ok response) :
    response.redirects.toNat + 1 = (hops network caller world request).length ∧
      response.request.policy = request.policy ∧ Redirect.next? response = .ok none := by
  obtain ⟨place, last, count, final, ended, result⟩ :=
    exists_last_place network caller world request
  obtain ⟨obtained, asked⟩ := Hop.conclusion_ok ended (result ▸ returns)
  have linked := linked_hops network caller world request
  obtain ⟨answered, same⟩ := (linked.sound_at final).response obtained
  rw [same, answered, redirects_at network caller world request final]
  exact ⟨count, policy_at network caller world request final, asked⟩

/-- A call fails for its limit exactly when each of its exchanges up to the limit asks for another
one, or when a unit pretends that they did. -/
theorem exceeds_iff {limit : UInt32} (policy : request.policy = .atMost limit) :
    (∃ failure, (execute network caller world request).1 = .error failure ∧
        failure.Exceeds limit) ↔
      (∀ place ≤ limit.toNat,
        ∃ hop, (hops network caller world request)[place]? = some hop ∧ hop.Asks) ∨
      ∃ hop ∈ hops network caller world request, hop.Feigns limit := by
  have linked := linked_hops network caller world request
  have few := length_le network caller world request policy
  obtain ⟨place, last, count, final, ended, result⟩ :=
    exists_last_place network caller world request
  have stands := redirects_at network caller world request final
  rw [result, Hop.exceeds_iff (linked.sound_at final)
    ((policy_at network caller world request final).trans policy)]
  constructor
  · rintro (⟨asks, above⟩ | feigns)
    · left
      have reached : limit.toNat ≤ place := stands ▸ UInt32.le_iff_toNat_le.mp above
      intro before within
      rcases Nat.lt_or_ge (before + 1) (hops network caller world request).length with more | less
      · obtain ⟨_, _, _, _, _, _, asks⟩ := follows_at network caller world request
          (List.getElem?_eq_getElem (Nat.lt_of_succ_lt more)) more
        exact ⟨_, List.getElem?_eq_getElem _, asks⟩
      · obtain rfl : before = place := by omega
        exact ⟨last, final, asks⟩
    · exact .inr ⟨last, List.mem_of_getElem? final, feigns⟩
  · rintro (all | ⟨hop, member, feigns⟩)
    · left
      obtain ⟨hop, here, asks⟩ := all limit.toNat (Nat.le_refl _)
      obtain ⟨bound, -⟩ := List.getElem?_eq_some_iff.mp here
      obtain rfl : place = limit.toNat := by omega
      obtain rfl := Option.some.inj (final.symm.trans here)
      exact ⟨asks, UInt32.le_iff_toNat_le.mpr stands.ge⟩
    · right
      obtain ⟨place', here⟩ := List.getElem?_of_mem member
      have same := linked.eq_last here (feigns.ends (linked.sound_at here)).1
      obtain rfl : place' = place := by omega
      obtain rfl := Option.some.inj (final.symm.trans here)
      exact feigns

/-- A call comes to an end, and its policy says how far it goes. It makes finitely many steps, which
perform its exchanges; the place of each exchange counts the redirects before it, without wrapping
or staying behind; a response that is returned tells how many there were. Under no policy but a
limit is there more than one exchange; under a limit there is at most one more than it allows, what
is returned asks for nothing, and the call fails for the limit exactly when that many responses ask
for another exchange, unless a unit that exchanges nothing fails so by itself. No unit does where the
factories of the registry only make units that exchange by a strategy. -/
theorem redirects_limited (network : Network) (caller : Caller) (world : World)
    (request : Request) :
    let hops := hops network caller world request
    let result := (execute network caller world request).1
    (∃ steps, (Call.advance network caller)^[steps]
          (Call.begin world.client.settings request, world) =
        (⟨[], .done result⟩, (execute network caller world request).2) ∧
      hops = (List.range steps).flatMap fun before => Call.performed network caller
        ((Call.advance network caller)^[before]
          (Call.begin world.client.settings request, world))) ∧
    (∀ place hop, hops[place]? = some hop → hop.unit.redirects.toNat = place ∧
      (place + 1 < hops.length → ∃ response, hop.outcome.result = .ok response ∧
        response.redirects.toNat + 1 < UInt32.size)) ∧
    (∀ response, result = .ok response → response.redirects.toNat + 1 = hops.length) ∧
    (request.policy = .never → hops.length = 1) ∧
    ∀ limit, request.policy = .atMost limit →
      hops.length ≤ limit.toNat + 1 ∧
      (∀ response, result = .ok response → response.redirects ≤ limit ∧
        ¬ (response.status.isFollowed = true ∧ response.headers.contains .location = true)) ∧
      ((∃ failure, result = .error failure ∧ failure.Exceeds limit) ↔
        (∀ place ≤ limit.toNat, ∃ hop, hops[place]? = some hop ∧ hop.Asks) ∨
          ∃ hop ∈ hops, hop.Feigns limit) ∧
      (world.client.dispatcher.registry.Performing → ∀ hop ∈ hops, ¬ hop.Feigns limit) := by
  refine ⟨Call.exists_steps _ world, ?_, ?_, length_of_never network caller world request, ?_⟩
  · intro place hop here
    refine ⟨redirects_at network caller world request here, fun more => ?_⟩
    obtain ⟨limit, response, _, below, obtained, counted, _⟩ :=
      follows_at network caller world request here more
    have bound := limit.toNat_lt
    refine ⟨response, obtained, ?_⟩
    rw [counted, UInt32.size]
    omega
  · exact fun response returns => (returned network caller world request returns).1
  · intro limit policy
    have few := length_le network caller world request policy
    refine ⟨few, ?_, exceeds_iff network caller world request policy, fun performing hop member =>
      hop.not_feigns (performs_hops performing hop member) limit⟩
    intro response returns
    obtain ⟨count, policy', asked⟩ := returned network caller world request returns
    refine ⟨UInt32.le_iff_toNat_le.mpr (by omega), ?_⟩
    rintro ⟨followed, located⟩
    rcases Redirect.next?_eq_none_iff.mp asked with never | plain | absent
    · rw [policy', policy] at never
      cases never
    · rw [followed] at plain
      cases plain
    · rw [located] at absent
      cases absent

/-! ### A limit that is reached, and one that is not -/

/-- A request for the head of the root of a host that allows some redirects. -/
def limited (limit : UInt32) : Request :=
  { Selecting.rootRequest with method := .head, policy := .atMost limit }

/-- A network in which every request is told to go on to the root of its host. -/
def circling : Network :=
  .scripted (fun _ => true) (fun _ _ => .accepted) []
    (.raw (Utf8.encode "HTTP/1.1 302 \nlocation: /\n\n") .closed)

/-- A call that allows one redirect and would go on for ever performs two exchanges, each of which
asks for another, and fails for its limit. -/
theorem redirects_limited_circling :
    let hops := hops circling .patient unused (limited 1)
    hops.length = 2 ∧ (∀ place ≤ 1, ∃ hop, hops[place]? = some hop ∧ hop.Asks) ∧
      ∃ failure, (execute circling .patient unused (limited 1)).1 = .error failure ∧
        failure.Exceeds 1 := by
  intro hops
  obtain ⟨-, -, -, -, bounded⟩ := redirects_limited circling .patient unused (limited 1)
  obtain ⟨few, -, reached, own⟩ := bounded 1 rfl
  have fails : ∃ failure, (execute circling .patient unused (limited 1)).1 = .error failure ∧
      failure.Exceeds 1 :=
    ⟨_, by cbv, by cbv⟩
  have asks : ∀ place ≤ 1, ∃ hop, hops[place]? = some hop ∧ hop.Asks := by
    rcases reached.mp fails with all | ⟨hop, member, feigns⟩
    · exact all
    · exact absurd feigns (own Registry.performing_probe hop member)
  obtain ⟨second, there, -⟩ := asks 1 (Nat.le_refl 1)
  obtain ⟨inside, -⟩ := List.getElem?_eq_some_iff.mp there
  exact ⟨Nat.le_antisymm few inside, asks, fails⟩

/-- What a unit may say that has exchanged nothing: that five redirects were too many. -/
def feigned : Failure :=
  (Failure.of .redirect (.tooManyRedirects 5)).withUrl Selecting.rootRequest.url

/-- A call may fail for its limit where there has been no redirect. -/
theorem limit_without_redirects :
    ¬ ∀ (network : Network) (caller : Caller) (world : World) (request : Request) (limit : UInt32),
      request.policy = .atMost limit →
      ((∃ failure, (execute network caller world request).1 = .error failure ∧
          failure.Exceeds limit) ↔
        ∀ place ≤ limit.toNat,
          ∃ hop, (hops network caller world request)[place]? = some hop ∧ hop.Asks) := by
  intro counted
  have fails : (execute .isolated .patient (.failing feigned) (limited 5)).1 = .error feigned := by
    cbv
  have alone : (hops .isolated .patient (.failing feigned) (limited 5)).length = 1 := by cbv
  obtain ⟨second, there, -⟩ := (counted _ _ _ _ 5 rfl).mp ⟨_, fails, rfl⟩ 1 (by decide)
  obtain ⟨inside, -⟩ := List.getElem?_eq_some_iff.mp there
  rw [alone] at inside
  exact Nat.lt_irrefl 1 inside

end Client

end Courier
