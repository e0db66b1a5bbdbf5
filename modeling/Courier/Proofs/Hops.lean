import Courier.Client.Call
import Courier.Proofs.Redirects
import Courier.Proofs.WireRequests
import Mathlib.Data.List.Chain
import Mathlib.Logic.Function.Iterate

/-! # The exchanges of a call

A call that runs by itself performs a list of exchanges. This list says everything about the call
that can be seen from outside: the requests that arrive are those that its exchanges send, and the
call returns what its last exchange comes to. Each exchange after the first is made for the request
that the response before it asks for, at the next place of the chain, so what holds of the first
request and passes from a request to the one that follows it holds of all of them.
-/

namespace Courier

theorem ExecutionUnit.execute_ok {network : Network} {log : Log} {caller : Caller}
    {unit : ExecutionUnit} {response : Response}
    (executed : (unit.execute network log caller).result = .ok response) :
    response.request = unit.request ∧ response.redirects = unit.redirects := by
  unfold ExecutionUnit.execute at executed
  split at executed
  · exact Exchange.conduct_ok executed
  · cases executed

theorem ExecutionUnit.execute_sent {network : Network} {log : Log} {caller : Caller}
    {unit : ExecutionUnit} {sent : WireRequest}
    (executed : (unit.execute network log caller).sent = some sent) :
    ∃ strategy, Exchange.prepare network strategy unit.request = .ok sent := by
  unfold ExecutionUnit.execute at executed
  split at executed
  · rename_i strategy _
    exact ⟨strategy, (Exchange.conduct_sent.mp executed).2.2⟩
  · cases executed

/-- One exchange of a call: the unit that was selected for it, and what came of it. -/
structure Hop where
  unit : ExecutionUnit
  outcome : Outcome

namespace Hop

/-- The request for which the exchange is made. -/
def request (hop : Hop) : Request := hop.unit.request

/-- The request that comes next, with the response that asks for it. -/
def next? (hop : Hop) : Option (Request × Response) :=
  match hop.outcome.result with
  | .error _ => none
  | .ok response =>
    match Redirect.next? response with
    | .ok (some request) => some (request, response)
    | _ => none

/-- What a call returns when this exchange is its last. -/
def conclusion (hop : Hop) : Except Failure Response :=
  match hop.outcome.result with
  | .error failure => .error failure
  | .ok response => (Redirect.next? response).map fun _ => response

/-- What a call still records when this exchange is its last. -/
def closing (hop : Hop) : List Increment :=
  match hop.outcome.result with
  | .error _ => []
  | .ok response =>
    match Redirect.next? response with
    | .error failure => Increment.ofFailure failure
    | .ok _ => []

/-- The next exchange is made for the request that the response of this one asks for. -/
def Leads (hop next : Hop) : Prop :=
  ∃ response, hop.next? = some (next.request, response) ∧
    next.unit.redirects = Response.hopIndex (some response)

theorem next?_eq_some {hop : Hop} {request : Request} {response : Response} :
    hop.next? = some (request, response) ↔
      hop.outcome.result = .ok response ∧ Redirect.next? response = .ok (some request) := by
  unfold next?
  constructor
  · intro follows
    split at follows
    · cases follows
    · rename_i obtained
      split at follows
      · rename_i asked
        cases follows
        exact ⟨obtained, asked⟩
      · cases follows
  · rintro ⟨obtained, asked⟩
    simp only [obtained, asked]

/-- What came of the exchange is what its unit makes of it. -/
def Sound (hop : Hop) : Prop :=
  ∃ network log caller, hop.outcome = hop.unit.execute network log caller

theorem Sound.response {hop : Hop} (sound : hop.Sound) {response : Response}
    (obtained : hop.outcome.result = .ok response) :
    response.request = hop.request ∧ response.redirects = hop.unit.redirects := by
  obtain ⟨network, log, caller, same⟩ := sound
  rw [same] at obtained
  exact ExecutionUnit.execute_ok obtained

theorem Sound.sent {hop : Hop} (sound : hop.Sound) {sent : WireRequest}
    (arrived : hop.outcome.sent = some sent) :
    ∃ network strategy, Exchange.prepare network strategy hop.request = .ok sent := by
  obtain ⟨network, log, caller, same⟩ := sound
  rw [same] at arrived
  exact ⟨network, ExecutionUnit.execute_sent arrived⟩

/-- What follows a sound exchange is what redirection makes of its request. -/
theorem Leads.follows {hop next : Hop} (leads : hop.Leads next) (sound : hop.Sound) :
    ∃ response target limit, hop.outcome.result = .ok response ∧ Redirect.Asks response target ∧
      hop.request.policy = .atMost limit ∧ hop.unit.redirects < limit ∧
      next.request = Redirect.follow response.status hop.request target ∧
      next.unit.redirects = Response.hopIndex (some response) := by
  obtain ⟨response, follows, place⟩ := leads
  obtain ⟨obtained, asked⟩ := next?_eq_some.mp follows
  obtain ⟨limit, target, policy, asks, below, same⟩ := Redirect.next?_eq_some_iff.mp asked
  obtain ⟨answered, redirects⟩ := sound.response obtained
  rw [answered] at policy same
  rw [redirects] at below
  exact ⟨response, target, limit, obtained, asks, policy, below, same, place⟩

/-- Sound exchanges of which each leads to the next. -/
structure Linked (hops : List Hop) : Prop where
  chain : hops.IsChain Leads
  sound : ∀ hop ∈ hops, hop.Sound

namespace Linked

variable {hops : List Hop}

theorem leads (linked : Linked hops) {place : Nat} {hop next : Hop} (here : hops[place]? = some hop)
    (there : hops[place + 1]? = some next) : hop.Leads next := by
  obtain ⟨bound, rfl⟩ := List.getElem?_eq_some_iff.mp there
  obtain ⟨_, rfl⟩ := List.getElem?_eq_some_iff.mp here
  exact List.isChain_iff_getElem.mp linked.chain place bound

theorem sound_at (linked : Linked hops) {place : Nat} {hop : Hop} (here : hops[place]? = some hop) :
    hop.Sound :=
  linked.sound hop (List.mem_of_getElem? here)

/-- What holds at one place, and passes from every later place to the next, holds from there on. -/
theorem from_place (linked : Linked hops) (holds : Nat → Hop → Prop) (first : Nat)
    (start : ∀ hop, hops[first]? = some hop → holds first hop)
    (step : ∀ place hop next, first ≤ place → hops[place]? = some hop →
      hops[place + 1]? = some next → hop.Leads next → hop.Sound → holds place hop →
      holds (place + 1) next) :
    ∀ place hop, first ≤ place → hops[place]? = some hop → holds place hop := by
  intro place
  induction place with
  | zero =>
    intro hop reached here
    obtain rfl := Nat.le_zero.mp reached
    exact start hop here
  | succ place ih =>
    intro next reached there
    rcases Nat.lt_or_ge place first with before | after
    · obtain rfl : first = place + 1 := by omega
      exact start next there
    · obtain ⟨bound, _⟩ := List.getElem?_eq_some_iff.mp there
      have here : hops[place]? = some hops[place] := List.getElem?_eq_getElem (by omega)
      exact step place _ next after here there (linked.leads here there) (linked.sound_at here)
        (ih _ after here)

/-- What holds of the first exchange, and passes from every one to the next, holds of all. -/
theorem from_first (linked : Linked hops) {first : Hop} (begun : hops[0]? = some first)
    (holds : Hop → Prop) (start : holds first)
    (step : ∀ (place : Nat) (hop next : Hop), hops[place]? = some hop → hop.Leads next →
      hop.Sound → holds hop → holds next)
    {place : Nat} {hop : Hop} (here : hops[place]? = some hop) : holds hop := by
  refine linked.from_place (fun _ hop => holds hop) 0 ?_ ?_ place hop (Nat.zero_le _) here
  · intro hop begun'
    obtain rfl : first = hop := Option.some.inj (begun.symm.trans begun')
    exact start
  · exact fun place hop next _ here _ => step place hop next here

end Linked

/-- The exchange at a place goes on to a URL of another origin. -/
def Departs (hops : List Hop) (place : Nat) : Prop :=
  ∃ hop next, hops[place]? = some hop ∧ hops[place + 1]? = some next ∧
    hop.request.url.OtherOrigin next.request.url

/-- The exchange at a place sends a request. -/
def Sends (hops : List Hop) (place : Nat) (sent : WireRequest) : Prop :=
  ∃ hop, hops[place]? = some hop ∧ hop.outcome.sent = some sent

end Hop

namespace Call

/-- The exchange that a call performs for a request that follows a response. -/
def hop (network : Network) (caller : Caller) (world : World) (request : Request)
    (previous : Option Response) : Hop :=
  let unit := (world.client.dispatcher.select request previous).1
  ⟨unit, unit.execute network world.log caller⟩

/-- The exchanges of a call that runs by itself. -/
def hops (network : Network) (caller : Caller) (call : Call) (world : World) : List Hop :=
  let world := record world call.pending
  match _shape : call.next with
  | .done _ => []
  | .dispatch request previous =>
    let after := act network caller world (.dispatch request previous)
    hop network caller world request previous :: hops network caller after.1 after.2
  | .follow response => hops network caller (afterResponse response) world
termination_by call.next.budget
decreasing_by
  · rw [_shape]
    exact act_dispatch_budget
  · rw [_shape]
    exact afterResponse_budget response

variable {network : Network} {caller : Caller}

theorem hop_request (world : World) (request : Request) (previous : Option Response) :
    (hop network caller world request previous).request = request :=
  (Dispatcher.selectFrom_bound _ _ request previous _ _).1

theorem hop_redirects (world : World) (request : Request) (previous : Option Response) :
    (hop network caller world request previous).unit.redirects = Response.hopIndex previous :=
  (Dispatcher.selectFrom_bound _ _ request previous _ _).2

theorem hop_sound (world : World) (request : Request) (previous : Option Response) :
    (hop network caller world request previous).Sound :=
  ⟨network, world.log, caller, rfl⟩

/-- The world after an exchange has been recorded. -/
def worldAfter (network : Network) (caller : Caller) (world : World) (request : Request)
    (previous : Option Response) : World :=
  let after := act network caller world (.dispatch request previous)
  record after.2 after.1.pending

/-- The increments with which a call goes on to another exchange. -/
def continuing : List Increment := [.one .redirects, .one .total]

/-- An exchange is the last one, or the call goes on with the request that comes next. -/
theorem after_dispatch (world : World) (request : Request) (previous : Option Response) :
    let after := act network caller world (.dispatch request previous)
    let last := hop network caller world request previous
    match last.next? with
    | none =>
      hops network caller after.1 after.2 = [] ∧
        run network caller after.1 after.2 = (last.conclusion,
          record (worldAfter network caller world request previous) last.closing)
    | some (next, response) =>
      hops network caller after.1 after.2 =
          hops network caller ⟨continuing, .dispatch next (some response)⟩
            (worldAfter network caller world request previous) ∧
        run network caller after.1 after.2 =
          run network caller ⟨continuing, .dispatch next (some response)⟩
            (worldAfter network caller world request previous) := by
  unfold Hop.next? Hop.conclusion Hop.closing worldAfter hop
  dsimp only [act, Dispatcher.execute]
  generalize (world.client.dispatcher.select request previous) = selected
  cases result : (selected.1.execute network world.log caller).result with
  | error failure =>
    dsimp only [afterExchange, failed]
    rw [hops, run]
    exact ⟨rfl, rfl⟩
  | ok response =>
    dsimp only [afterExchange]
    rw [hops, run]
    dsimp only [afterResponse]
    cases Redirect.next? response with
    | error failure =>
      dsimp only [failed]
      rw [hops, run]
      exact ⟨rfl, rfl⟩
    | ok asked =>
      cases asked with
      | none =>
        dsimp only
        rw [hops, run]
        exact ⟨rfl, rfl⟩
      | some next => exact ⟨rfl, rfl⟩

theorem hops_dispatch (pending : List Increment) (request : Request) (previous : Option Response)
    (world : World) :
    hops network caller ⟨pending, .dispatch request previous⟩ world =
      hop network caller (record world pending) request previous ::
        match (hop network caller (record world pending) request previous).next? with
        | none => []
        | some (next, response) =>
          hops network caller ⟨continuing, .dispatch next (some response)⟩
            (worldAfter network caller (record world pending) request previous) := by
  rw [hops]
  have after := @after_dispatch network caller (record world pending) request previous
  dsimp only at after ⊢
  cases follows : (hop network caller (record world pending) request previous).next? with
  | none =>
    rw [follows] at after
    rw [after.1]
  | some asked =>
    rw [follows] at after
    rw [after.1]

theorem run_dispatch (pending : List Increment) (request : Request) (previous : Option Response)
    (world : World) :
    run network caller ⟨pending, .dispatch request previous⟩ world =
      match (hop network caller (record world pending) request previous).next? with
      | none =>
        ((hop network caller (record world pending) request previous).conclusion,
          record (worldAfter network caller (record world pending) request previous)
            (hop network caller (record world pending) request previous).closing)
      | some (next, response) =>
        run network caller ⟨continuing, .dispatch next (some response)⟩
          (worldAfter network caller (record world pending) request previous) := by
  rw [run]
  have after := @after_dispatch network caller (record world pending) request previous
  dsimp only at after ⊢
  cases follows : (hop network caller (record world pending) request previous).next? with
  | none =>
    rw [follows] at after
    exact after.2
  | some asked =>
    rw [follows] at after
    exact after.2

/-- Going on leaves less to do, so what holds of a call when it holds of the one that goes on holds
of every call. -/
theorem dispatch_induction (network : Network) (caller : Caller)
    {motive : List Increment → Request → Option Response → World → Prop}
    (step : ∀ pending request previous world,
      (∀ next response,
        (hop network caller (record world pending) request previous).next? = some (next, response) →
          motive continuing next (some response)
            (worldAfter network caller (record world pending) request previous)) →
      motive pending request previous world)
    (pending : List Increment) (request : Request) (previous : Option Response) (world : World) :
    motive pending request previous world := by
  induction bound : (Next.dispatch request previous).budget using Nat.strong_induction_on
    generalizing pending request previous world with
  | _ budget ih =>
    apply step
    intro next response follows
    obtain ⟨obtained, asked⟩ := Hop.next?_eq_some.mp follows
    obtain ⟨answered, place⟩ := (hop_sound _ request previous).response obtained
    rw [hop_request] at answered
    rw [hop_redirects] at place
    have less := afterResponse_budget response
    simp only [afterResponse, asked] at less
    have more : (Next.follow response).budget < (Next.dispatch request previous).budget := by
      simp only [Next.budget, answered, place]
      omega
    exact ih _ (bound ▸ less.trans more) continuing next (some response) _ rfl

/-- A client changes nothing about a request but its headers, and may note a fault. -/
theorem exists_prepare (settings : Settings) (request : Request) :
    ∃ headers deferred, prepare settings request = { request with headers, deferred } := by
  unfold prepare Request.setHeader Request.withHeader
  split
  · exact ⟨_, _, rfl⟩
  · split
    · exact ⟨_, _, rfl⟩
    · exact ⟨_, _, rfl⟩

/-- The first exchange is made for the request of the call. -/
theorem head?_hops (pending : List Increment) (request : Request) (previous : Option Response)
    (world : World) :
    (hops network caller ⟨pending, .dispatch request previous⟩ world).head? =
      some (hop network caller (record world pending) request previous) := by
  rw [hops_dispatch, List.head?_cons]

/-- Every exchange is sound, and made for the request that the response before it asks for. -/
theorem linked_hops (pending : List Increment) (request : Request) (previous : Option Response)
    (world : World) :
    Hop.Linked (hops network caller ⟨pending, .dispatch request previous⟩ world) := by
  induction pending, request, previous, world
    using dispatch_induction network caller with
  | step pending request previous world ih =>
    have sound : (hop network caller (record world pending) request previous).Sound := hop_sound ..
    rw [hops_dispatch]
    cases follows : (hop network caller (record world pending) request previous).next? with
    | none => exact ⟨List.isChain_singleton _, by simpa [follows] using sound⟩
    | some asked =>
      obtain ⟨next, response⟩ := asked
      have linked := ih next response follows
      refine ⟨List.isChain_cons.mpr ⟨?_, linked.chain⟩,
        List.forall_mem_cons.mpr ⟨sound, linked.sound⟩⟩
      intro later first
      rw [head?_hops, Option.mem_some_iff] at first
      subst first
      exact ⟨response, by rw [hop_request]; exact follows, hop_redirects ..⟩

/-- The requests that arrive during a call are those that its exchanges send. -/
theorem log_run (pending : List Increment) (request : Request) (previous : Option Response)
    (world : World) :
    (run network caller ⟨pending, .dispatch request previous⟩ world).2.log =
      world.log ++ (hops network caller ⟨pending, .dispatch request previous⟩ world).filterMap
        (·.outcome.sent) := by
  induction pending, request, previous, world
    using dispatch_induction network caller with
  | step pending request previous world ih =>
    have arrived : (worldAfter network caller (record world pending) request previous).log =
        world.log ++
          (hop network caller (record world pending) request previous).outcome.sent.toList := rfl
    rw [run_dispatch, hops_dispatch, List.filterMap_cons]
    cases follows : (hop network caller (record world pending) request previous).next? with
    | none =>
      change (worldAfter network caller (record world pending) request previous).log = _
      rw [arrived]
      cases (hop network caller (record world pending) request previous).outcome.sent <;> rfl
    | some asked =>
      rw [ih asked.1 asked.2 follows, arrived]
      cases (hop network caller (record world pending) request previous).outcome.sent <;> simp

/-- A call returns what its last exchange comes to. -/
theorem exists_last (pending : List Increment) (request : Request) (previous : Option Response)
    (world : World) :
    ∃ last, (hops network caller ⟨pending, .dispatch request previous⟩ world).getLast? = some last ∧
      last.next? = none ∧
      (run network caller ⟨pending, .dispatch request previous⟩ world).1 = last.conclusion := by
  induction pending, request, previous, world
    using dispatch_induction network caller with
  | step pending request previous world ih =>
    rw [run_dispatch, hops_dispatch]
    cases follows : (hop network caller (record world pending) request previous).next? with
    | none => exact ⟨_, rfl, follows, rfl⟩
    | some asked =>
      obtain ⟨last, final, ended, result⟩ := ih asked.1 asked.2 follows
      refine ⟨last, ?_, ended, result⟩
      rw [List.getLast?_cons, final]
      rfl

end Call

namespace Client

variable (network : Network) (caller : Caller) (world : World) (request : Request)

/-- The exchanges of a call of a client that runs by itself. -/
def hops : List Hop := (Call.begin world.client.settings request).hops network caller world

theorem linked_hops : Hop.Linked (hops network caller world request) := Call.linked_hops ..

/-- A call performs an exchange. -/
theorem exists_first : ∃ first, (hops network caller world request)[0]? = some first :=
  ⟨_, List.head?_eq_getElem?.symm.trans (Call.head?_hops ..)⟩

/-- The first exchange is made for the request that is given to the client. -/
theorem first_hop {hop : Hop} (here : (hops network caller world request)[0]? = some hop) :
    hop.request = Call.prepare world.client.settings request ∧ hop.unit.redirects = 0 := by
  rw [← List.head?_eq_getElem?, hops, Call.begin, Call.head?_hops, Option.some.injEq] at here
  subst here
  exact ⟨Call.hop_request .., Call.hop_redirects ..⟩

theorem log_execute :
    (execute network caller world request).2.log =
      world.log ++ (hops network caller world request).filterMap (·.outcome.sent) :=
  Call.log_run ..

theorem last_hop :
    ∃ last, (hops network caller world request).getLast? = some last ∧ last.next? = none ∧
      (execute network caller world request).1 = last.conclusion :=
  Call.exists_last ..

/-- A client with the standard settings that has not been used. -/
def unused : World := ⟨.new .standard .probe .off, []⟩

end Client

end Courier
