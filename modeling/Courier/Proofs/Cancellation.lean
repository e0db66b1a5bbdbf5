import Courier.Proofs.Accounts
import Courier.Proofs.Approaches
import Courier.Proofs.Endings
import Courier.Proofs.RedirectLimit

/-! # Giving up

A caller may have given up before its call begins, or it gives up when one of the requests of the
call arrives. Either way the exchange in progress is the last, nothing is sent after that, and the
call fails as given up, which is counted once and never as a passed deadline; only an exchange that
is refused before it is begun is reported as that. No other call fails as given up.
-/

namespace Courier

/-- Only one reply makes the caller give up. -/
theorem Reply.cancels_answer {method : Method} {reply : Reply} :
    (reply.answer method).cancels = true ↔ reply = .cancel := by
  cases reply <;> simp [answer]

/-! ## One exchange -/

namespace Exchange

variable {network : Network} {log : Log} {caller : Caller} {strategy : Strategy}
  {request : Request} {redirects : UInt32}

/-- An exchange whose caller has given up before is refused, or given up at once. -/
theorem conduct_of_cancelled (given : caller.cancelled = true) :
    conduct network log caller strategy request redirects =
      match preflight caller request with
      | .error failure => .unsent failure
      | .ok () => .unsent (Failure.cancelled.withUrl request.url) := by
  unfold conduct
  rw [if_pos given]
  rfl

/-- An exchange whose request makes the caller give up when it arrives is given up. -/
theorem conduct_of_cancel {sent : WireRequest}
    (arrived : (conduct network log caller strategy request redirects).sent = some sent)
    (cancels : network.reply log sent = .cancel) :
    (conduct network log caller strategy request redirects).result =
      .error (Failure.cancelled.withUrl request.url) := by
  have ends := ending network log caller strategy request redirects
  generalize conduct network log caller strategy request redirects = outcome at ends arrived ⊢
  cases ends with
  | refused failure reason => cases arrived
  | givenUp passed given => cases arrived
  | unready failure passed patient reason => cases arrived
  | answered sent' passed patient prepared =>
    obtain rfl : sent' = sent := Option.some.inj arrived
    have cancels' : ((network.reply log sent').answer request.method).cancels = true :=
      Reply.cancels_answer.mpr cancels
    dsimp only
    unfold receive
    rw [if_pos cancels']
    rfl

/-- An exchange is not given up by a caller that goes on. -/
theorem cancel_of_isCancelled (patient : caller.cancelled = false) {failure : Failure}
    (fails : (conduct network log caller strategy request redirects).result = .error failure)
    (given : failure.isCancelled = true) :
    ∃ sent, (conduct network log caller strategy request redirects).sent = some sent ∧
      network.reply log sent = .cancel := by
  have kind : failure.kind = .cancelled := of_decide_eq_true given
  have ends := ending network log caller strategy request redirects
  generalize conduct network log caller strategy request redirects = outcome at ends fails ⊢
  cases ends with
  | refused failure' reason =>
    cases fails
    rw [(of_preflight_eq_error reason).1] at kind
    cases kind
  | givenUp passed given' =>
    rw [patient] at given'
    cases given'
  | unready failure' passed _ reason =>
    cases fails
    have kind' : failure'.kind = .cancelled := kind
    rcases kind_of_prepare reason with other | other
    · rw [kind'] at other
      cases other
    · rw [kind'] at other
      exact absurd other (by decide)
  | answered sent passed _ prepared =>
    obtain ⟨failure', lacking, rfl⟩ := Failure.attachTo_eq_error fails
    have kind' : failure'.kind = .cancelled := kind
    rcases of_receive_eq_error lacking with ⟨cancels, -⟩ | ⟨-, other⟩
    · exact ⟨sent, rfl, Reply.cancels_answer.mp cancels⟩
    · rw [kind'] at other
      exact absurd other (by decide)

/-- What is answered was sent. -/
theorem sent_of_conduct_eq_ok {response : Response}
    (answered : (conduct network log caller strategy request redirects).result = .ok response) :
    ∃ sent, (conduct network log caller strategy request redirects).sent = some sent := by
  have ends := ending network log caller strategy request redirects
  generalize conduct network log caller strategy request redirects = outcome at ends answered ⊢
  cases ends with
  | refused failure reason => cases answered
  | givenUp passed given => cases answered
  | unready failure passed patient reason => cases answered
  | answered sent passed patient prepared => exact ⟨sent, rfl⟩

end Exchange

namespace ExecutionUnit

variable {network : Network} {log : Log} {caller : Caller} {unit : ExecutionUnit}

theorem execute_of_cancelled (performs : unit.Performs) (given : caller.cancelled = true) :
    unit.execute network log caller =
      match Exchange.preflight caller unit.request with
      | .error failure => .unsent failure
      | .ok () => .unsent (Failure.cancelled.withUrl unit.request.url) := by
  obtain ⟨strategy, planned⟩ := performs
  unfold execute
  rw [planned]
  exact Exchange.conduct_of_cancelled given

/-- Nothing is sent for a caller that has given up. -/
theorem sent_of_cancelled (given : caller.cancelled = true) :
    (unit.execute network log caller).sent = none := by
  rw [Option.eq_none_iff_forall_ne_some]
  intro sent arrived
  unfold execute at arrived
  split at arrived
  · rw [(Exchange.conduct_sent.mp arrived).2.1] at given
    cases given
  · cases arrived

theorem execute_of_cancel {sent : WireRequest}
    (arrived : (unit.execute network log caller).sent = some sent)
    (cancels : network.reply log sent = .cancel) :
    (unit.execute network log caller).result =
      .error (Failure.cancelled.withUrl unit.request.url) := by
  unfold execute at arrived ⊢
  split at arrived
  · exact Exchange.conduct_of_cancel arrived cancels
  · cases arrived

theorem cancel_of_isCancelled (performs : unit.Performs) (patient : caller.cancelled = false)
    {failure : Failure} (fails : (unit.execute network log caller).result = .error failure)
    (given : failure.isCancelled = true) :
    ∃ sent, (unit.execute network log caller).sent = some sent ∧
      network.reply log sent = .cancel := by
  obtain ⟨strategy, planned⟩ := performs
  unfold execute at fails ⊢
  rw [planned] at fails ⊢
  exact Exchange.cancel_of_isCancelled patient fails given

theorem sent_of_execute_eq_ok {response : Response}
    (answered : (unit.execute network log caller).result = .ok response) :
    ∃ sent, (unit.execute network log caller).sent = some sent := by
  unfold execute at answered ⊢
  split at answered
  · exact Exchange.sent_of_conduct_eq_ok answered
  · cases answered

end ExecutionUnit

/-! ## The requests of a call -/

namespace Hop

/-- The requests that exchanges send, in order. -/
def sent (hops : List Hop) : Log := hops.filterMap (·.outcome.sent)

theorem sent_cons (hop : Hop) (rest : List Hop) :
    sent (hop :: rest) = hop.outcome.sent.toList ++ sent rest := by
  unfold sent
  rw [List.filterMap_cons]
  cases hop.outcome.sent <;> rfl

end Hop

namespace Call

variable {network : Network} {caller : Caller}

/-- Each exchange of a call is performed when the requests of those before it have arrived, and its
request has the place of the exchange, since the call goes on only from exchanges that are
answered. -/
theorem exchange_at (pending : List Increment) (request : Request) (previous : Option Response)
    (world : World) :
    let hops := hops network caller ⟨pending, .dispatch request previous⟩ world
    ∀ (place : Nat) (hop : Hop), hops[place]? = some hop →
      hop.outcome = hop.unit.execute network (world.log ++ (Hop.sent hops).take place) caller ∧
        (Hop.sent hops)[place]? = hop.outcome.sent := by
  induction pending, request, previous, world
    using dispatch_induction network caller with
  | step pending request previous world ih =>
    dsimp only at ih ⊢
    have here : (hop network caller (record world pending) request previous).outcome =
        (hop network caller (record world pending) request previous).unit.execute network world.log
          caller := rfl
    have arrived : (worldAfter network caller (record world pending) request previous).log =
        world.log ++
          (hop network caller (record world pending) request previous).outcome.sent.toList := rfl
    rw [hops_dispatch]
    generalize hop network caller (record world pending) request previous = first at *
    cases follows : first.next? with
    | none =>
      intro place later found
      cases place with
      | succ place => cases found
      | zero =>
        obtain rfl := Option.some.inj found
        rw [List.take_zero, List.append_nil, Hop.sent_cons]
        refine ⟨here, ?_⟩
        cases first.outcome.sent <;> rfl
    | some asked =>
      obtain ⟨next, response⟩ := asked
      obtain ⟨sent, sends⟩ : ∃ sent, first.outcome.sent = some sent := by
        have obtained := (Hop.next?_eq_some.mp follows).1
        rw [here] at obtained ⊢
        exact ExecutionUnit.sent_of_execute_eq_ok obtained
      intro place later found
      dsimp only
      rw [Hop.sent_cons, sends, Option.toList_some, List.singleton_append]
      cases place with
      | zero =>
        obtain rfl := Option.some.inj found
        exact ⟨by rw [List.take_zero, List.append_nil]; exact here, sends.symm⟩
      | succ place =>
        have rest := ih next response follows place later found
        rw [arrived, sends, Option.toList_some, List.append_assoc, List.singleton_append] at rest
        exact rest

end Call

/-! ## The books of a call by itself -/

theorem Stats.addAll_append (stats : Stats) (first second : List Increment) :
    stats.addAll (first ++ second) = (stats.addAll first).addAll second :=
  List.foldl_append

namespace Thread

/-- A thread by itself keeps its books in order, and the counters get what it notes. -/
theorem booked_iterate (network : Network) (world : World) {thread : Thread}
    (booked : thread.Booked) (steps : Nat) :
    let after := (advance network)^[steps] (thread, world)
    after.1.Booked ∧ ∃ increments, after.1.made = thread.made ++ increments ∧
      after.2.client.stats = world.client.stats.addAll increments := by
  induction steps with
  | zero => exact ⟨booked, [], (List.append_nil _).symm, rfl⟩
  | succ steps ih =>
    obtain ⟨booked', increments, noted, added⟩ := ih
    rw [Function.iterate_succ_apply']
    generalize (advance network)^[steps] (thread, world) = state at *
    obtain ⟨increments', noted', added'⟩ := state.1.step_made network state.2
    refine ⟨booked'.step network state.2, increments ++ increments', ?_, ?_⟩
    · exact noted'.trans (by rw [noted, List.append_assoc])
    · exact added'.trans (by rw [added, Stats.addAll_append])

end Thread

namespace Client

variable {network : Network} {caller : Caller} {world : World} {request : Request}

/-- The counters get what the books of a call show when it returns. -/
theorem exists_books (network : Network) (caller : Caller) (world : World) (request : Request) :
    ∃ made, Thread.Books (hops network caller world request)
        (.done (execute network caller world request).1) made ∧
      (execute network caller world request).2.client.stats = world.client.stats.addAll made := by
  obtain ⟨steps, made, ends⟩ := Thread.exists_steps_execute network caller world request
  obtain ⟨booked, increments, noted, added⟩ := Thread.booked_iterate network world
    (Thread.booked_begin world.client.settings caller request) steps
  rw [ends] at booked noted added
  obtain rfl : made = increments := noted
  exact ⟨made, booked.of_result? rfl, added⟩

/-- Deadlines and callers that give up are counted when a call fails, and at no other time. -/
theorem get_stats_of_error {failure : Failure}
    (fails : (execute network caller world request).1 = .error failure) {counter : Counter}
    (ends : counter = .timeouts ∨ counter = .cancellations) :
    (execute network caller world request).2.client.stats.get counter =
      world.client.stats.get counter +
        UInt64.ofNat (if counter.countsFailure failure then 1 else 0) := by
  obtain ⟨made, books, shown⟩ := exists_books network caller world request
  have balance := books.tally_done counter
  have plain : counter ≠ .bytes := by
    rcases ends with rfl | rfl <;> decide
  rw [fails, Increment.ofResult, Increment.tally_ofFailure, Crowd.responses_entries,
    Increment.tally_flatMap (Increment.tally_ofResponse plain)] at balance
  have own : Increment.tally counter made = if counter.countsFailure failure then 1 else 0 := by
    rcases ends with rfl | rfl <;> simpa [Call.continuing, Increment.one] using balance
  rw [shown, Stats.get_addAll, own]

/-! ## The end of a call -/

theorem exchange_at {place : Nat} {hop : Hop}
    (here : (hops network caller world request)[place]? = some hop) :
    hop.outcome = hop.unit.execute network
        (world.log ++ (Hop.sent (hops network caller world request)).take place) caller ∧
      (Hop.sent (hops network caller world request))[place]? = hop.outcome.sent :=
  Call.exchange_at _ _ _ _ place hop here

/-- An exchange that fails is the last of a call, which fails as it does. -/
theorem fails_at {place : Nat} {hop : Hop}
    (here : (hops network caller world request)[place]? = some hop) {failure : Failure}
    (fails : hop.outcome.result = .error failure) :
    (hops network caller world request).getLast? = some hop ∧
      place + 1 = (hops network caller world request).length ∧
      (execute network caller world request).1 = .error failure := by
  have ended : hop.next? = none := by
    unfold Hop.next?
    rw [fails]
  have final := (linked_hops network caller world request).eq_last here ended
  have last : (hops network caller world request).getLast? = some hop := by
    rw [List.getLast?_eq_getElem?, ← final]
    exact here
  obtain ⟨hop', last', -, result⟩ := last_hop network caller world request
  obtain rfl : hop' = hop := Option.some.inj (last'.symm.trans last)
  refine ⟨last, final, ?_⟩
  rw [result, Hop.conclusion, fails]

/-- A call fails as given up at a URL, which is counted once, and no deadline is counted. -/
structure GivenUp (world : World) (ended : Except Failure Response × World) (url : Url) : Prop where
  result : ended.1 = .error (Failure.cancelled.withUrl url)
  cancellations :
    ended.2.client.stats.cancellations = world.client.stats.cancellations + 1
  timeouts : ended.2.client.stats.timeouts = world.client.stats.timeouts

theorem givenUp_of_result {url : Url}
    (fails : (execute network caller world request).1 = .error (Failure.cancelled.withUrl url)) :
    GivenUp world (execute network caller world request) url where
  result := fails
  cancellations := get_stats_of_error fails (.inr rfl)
  timeouts := (get_stats_of_error fails (.inl rfl)).trans (UInt64.add_zero _)

/-- A redirect that cannot be followed is no reason to give up. -/
theorem kind_of_next? {response : Response} {failure : Failure}
    (lost : Redirect.next? response = .error failure) : failure.kind = .redirect := by
  obtain ⟨cause, rfl⟩ := Redirect.exists_cause_of_next? lost
  rfl

/-- A call of a caller that has given up before performs one exchange, which sends nothing and
fails. -/
theorem exists_only_of_cancelled (network : Network) (world : World) (request : Request)
    (given : caller.cancelled = true) :
    ∃ only, hops network caller world request = [only] ∧
      only.outcome = only.unit.execute network world.log caller ∧ only.outcome.sent = none ∧
      ∃ failure, only.outcome.result = .error failure ∧
        (execute network caller world request).1 = .error failure := by
  obtain ⟨first, begun⟩ := exists_first network caller world request
  have executed : first.outcome = first.unit.execute network world.log caller := by
    rw [(exchange_at begun).1, List.take_zero, List.append_nil]
  have silent : first.outcome.sent = none := by
    rw [executed]
    exact ExecutionUnit.sent_of_cancelled given
  cases fails : first.outcome.result with
  | ok response =>
    rw [executed] at fails silent
    obtain ⟨sent, arrived⟩ := ExecutionUnit.sent_of_execute_eq_ok fails
    rw [silent] at arrived
    cases arrived
  | error failure =>
    obtain ⟨-, count, result⟩ := fails_at begun fails
    obtain ⟨only, alone⟩ := List.length_eq_one_iff.mp count.symm
    rw [alone] at begun
    obtain rfl : only = first := Option.some.inj begun
    exact ⟨only, alone, executed, silent, failure, fails, result⟩

/-- The request at whose arrival the caller gives up is the last, and the call fails as given up at
the URL of the exchange that has sent it. -/
theorem exists_last_of_cancel {place : Nat} {arrived : WireRequest}
    (found : (Hop.sent (hops network caller world request))[place]? = some arrived)
    (cancels : network.reply
      (world.log ++ (Hop.sent (hops network caller world request)).take place) arrived = .cancel) :
    place + 1 = (Hop.sent (hops network caller world request)).length ∧
      ∃ last, (hops network caller world request).getLast? = some last ∧
        last.outcome.sent = some arrived ∧
        (execute network caller world request).1 =
          .error (Failure.cancelled.withUrl last.request.url) := by
  obtain ⟨inside, -⟩ := List.getElem?_eq_some_iff.mp found
  have few : (Hop.sent (hops network caller world request)).length ≤
      (hops network caller world request).length := List.length_filterMap_le ..
  obtain ⟨hop, here⟩ : ∃ hop, (hops network caller world request)[place]? = some hop :=
    ⟨_, List.getElem?_eq_getElem (Nat.lt_of_lt_of_le inside few)⟩
  obtain ⟨executed, sends⟩ := exchange_at here
  rw [found] at sends
  have fails : hop.outcome.result = .error (Failure.cancelled.withUrl hop.request.url) := by
    rw [executed] at sends ⊢
    exact ExecutionUnit.execute_of_cancel sends.symm cancels
  obtain ⟨last, count, result⟩ := fails_at here fails
  exact ⟨by omega, hop, last, sends.symm, result⟩

/-- A call that is performed by strategies and fails as given up for a caller that had not given up
before has sent a request at whose arrival it did. -/
theorem exists_cancel_of_isCancelled (patient : caller.cancelled = false)
    (performs : ∀ hop ∈ hops network caller world request, hop.unit.Performs) {failure : Failure}
    (fails : (execute network caller world request).1 = .error failure)
    (given : failure.isCancelled = true) :
    ∃ (place : Nat) (arrived : WireRequest),
      (Hop.sent (hops network caller world request))[place]? = some arrived ∧
      network.reply (world.log ++ (Hop.sent (hops network caller world request)).take place)
        arrived = .cancel := by
  obtain ⟨place, last, -, here, -, result⟩ := exists_last_place network caller world request
  have concluded : last.conclusion = .error failure := result.symm.trans fails
  unfold Hop.conclusion at concluded
  cases obtained : last.outcome.result with
  | ok response =>
    rw [obtained] at concluded
    have kind := kind_of_next? (Exchange.map_eq_error_iff.mp concluded)
    rw [Failure.isCancelled, kind] at given
    exact absurd given (by decide)
  | error failure' =>
    rw [obtained] at concluded
    obtain rfl : failure' = failure := Except.error.inj concluded
    obtain ⟨executed, sends⟩ := exchange_at here
    rw [executed] at obtained
    obtain ⟨arrived, arrives, cancels⟩ := ExecutionUnit.cancel_of_isCancelled
      (performs last (List.mem_of_getElem? here)) patient obtained given
    rw [executed, arrives] at sends
    exact ⟨place, arrived, sends, cancels⟩

/-- What follows from it that a caller gives up. If it has done so before its call, nothing is sent,
and the call fails as given up unless its first exchange is refused, which it reports then. If it
does so when a request of the call arrives, that request is the last, and the call fails as given up
at the URL of the exchange that has sent it. A call whose caller does neither does not fail as given
up, as long as its exchanges are performed by strategies. -/
theorem giving_up_ends (network : Network) (caller : Caller) (world : World) (request : Request) :
    let hops := hops network caller world request
    let sent := Hop.sent hops
    let ended := execute network caller world request
    ended.2.log = world.log ++ sent ∧
    (caller.cancelled = true → sent = [] ∧
      ∃ only, hops = [only] ∧ (only.unit.Performs →
        (∀ failure, Exchange.preflight caller only.request = .error failure →
          ended.1 = .error failure ∧ failure.kind = .builder) ∧
        (Exchange.preflight caller only.request = .ok () →
          GivenUp world ended only.request.url))) ∧
    (∀ place arrived, sent[place]? = some arrived →
      network.reply (world.log ++ sent.take place) arrived = .cancel →
      place + 1 = sent.length ∧ ∃ last, hops.getLast? = some last ∧
        last.outcome.sent = some arrived ∧ GivenUp world ended last.request.url) ∧
    (caller.cancelled = false →
      (∀ place arrived, sent[place]? = some arrived →
        network.reply (world.log ++ sent.take place) arrived ≠ .cancel) →
      (∀ hop ∈ hops, hop.unit.Performs) →
      ∀ failure, ended.1 = .error failure → failure.isCancelled = false) := by
  intro hops sent ended
  refine ⟨log_execute network caller world request, ?_, ?_, ?_⟩
  · intro given
    obtain ⟨only, alone, executed, silent, failure', fails, result⟩ :=
      exists_only_of_cancelled network world request given
    refine ⟨?_, only, alone, fun performs => ?_⟩
    · change Hop.sent (Client.hops network caller world request) = []
      rw [alone, Hop.sent_cons, silent]
      rfl
    · rw [executed, ExecutionUnit.execute_of_cancelled performs given] at fails
      change (∀ failure, Exchange.preflight caller only.unit.request = _ → _) ∧
        (Exchange.preflight caller only.unit.request = _ → _)
      constructor
      · intro failure refused
        rw [refused] at fails
        cases fails
        exact ⟨result, (Exchange.of_preflight_eq_error refused).1⟩
      · intro passed
        rw [passed] at fails
        cases fails
        exact givenUp_of_result result
  · intro place arrived found cancels
    obtain ⟨count, last, final, arrives, result⟩ := exists_last_of_cancel found cancels
    exact ⟨count, last, final, arrives, givenUp_of_result result⟩
  · intro patient goesOn performs failure fails
    by_contra given
    obtain ⟨place, arrived, found, cancels⟩ := exists_cancel_of_isCancelled patient performs fails
      (Bool.eq_true_of_not_eq_false given)
    exact goesOn place arrived found cancels

/-! ### A caller that gives up, and one that does not -/

/-- A network in which nobody waits for an answer. -/
def abandoned : Network := .scripted (fun _ => true) (fun _ _ => .accepted) [] .cancel

/-- A caller that has given up before its call. -/
def gone : Caller := ⟨false, true⟩

/-- The exchange with which a call for the root begins. -/
def atRoot (network : Network) (caller : Caller) : Hop :=
  Call.hop network caller (Call.record unused [.one .total])
    (Call.prepare .standard Selecting.rootRequest) none

theorem performs_atRoot (network : Network) (caller : Caller) :
    (atRoot network caller).unit.Performs :=
  Call.performs_hop _ _ _ Registry.performing_probe

theorem url_atRoot (network : Network) (caller : Caller) :
    (atRoot network caller).request.url = Selecting.rootRequest.url := by
  cbv

theorem hops_atRoot (network : Network) (caller : Caller)
    (ends : (atRoot network caller).next? = none) :
    hops network caller unused Selecting.rootRequest = [atRoot network caller] := by
  unfold atRoot at ends ⊢
  change Call.hops _ _ ⟨_, .dispatch (Call.prepare .standard Selecting.rootRequest) none⟩ _ = _
  rw [Call.hops_dispatch, ends]

/-- A caller that gives up when its request arrives gets to know that, and so does one that has given
up before, which sends nothing. One that lacks a connection has not given up. -/
theorem giving_up_ends_at_root :
    (GivenUp unused (execute abandoned .patient unused Selecting.rootRequest)
        Selecting.rootRequest.url ∧
      (execute abandoned .patient unused Selecting.rootRequest).2.log.length = 1) ∧
    (GivenUp unused (execute abandoned gone unused Selecting.rootRequest)
        Selecting.rootRequest.url ∧
      (execute abandoned gone unused Selecting.rootRequest).2.log = []) ∧
    (∃ failure, (execute .isolated .patient unused Selecting.rootRequest).1 = .error failure ∧
      failure.isCancelled = false) := by
  refine ⟨?_, ?_, ?_⟩
  · obtain ⟨log, -, fires, -⟩ := giving_up_ends abandoned .patient unused Selecting.rootRequest
    have alone := hops_atRoot abandoned .patient (by cbv)
    obtain ⟨arrived, sends⟩ : ∃ arrived, (atRoot abandoned .patient).outcome.sent = some arrived := by
      rw [← Option.isSome_iff_exists]
      cbv
    rw [alone, Hop.sent_cons, sends] at log fires
    obtain ⟨-, last, final, -, given⟩ := fires 0 arrived rfl rfl
    obtain rfl : atRoot abandoned .patient = last := Option.some.inj final
    rw [url_atRoot] at given
    exact ⟨given, congrArg List.length log⟩
  · obtain ⟨log, before, -, -⟩ := giving_up_ends abandoned gone unused Selecting.rootRequest
    have alone := hops_atRoot abandoned gone (by cbv)
    obtain ⟨silent, only, alone', ends⟩ := before rfl
    obtain rfl : atRoot abandoned gone = only := List.head_eq_of_cons_eq (alone.symm.trans alone')
    have given := (ends (performs_atRoot ..)).2 (by cbv)
    rw [url_atRoot] at given
    exact ⟨given, log.trans silent⟩
  · obtain ⟨-, -, -, goesOn⟩ := giving_up_ends .isolated .patient unused Selecting.rootRequest
    have alone := hops_atRoot .isolated .patient (by cbv)
    have silent : (atRoot .isolated .patient).outcome.sent = none := by cbv
    obtain ⟨failure, fails⟩ : ∃ failure, (atRoot .isolated .patient).outcome.result =
        .error failure := ⟨_, by cbv⟩
    have begun : (hops .isolated .patient unused Selecting.rootRequest)[0]? = some _ :=
      congrArg (·[0]?) alone
    refine ⟨failure, (fails_at begun fails).2.2, goesOn rfl ?_ ?_ failure (fails_at begun fails).2.2⟩
    · intro place arrived found
      rw [alone, Hop.sent_cons, silent] at found
      cases found
    · rw [alone, List.forall_mem_singleton]
      exact performs_atRoot ..

end Client

end Courier
