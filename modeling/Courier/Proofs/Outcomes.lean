import Courier.Proofs.Accounts

/-! # Outcomes that are counted

The counters of outcomes are meant to sort the exchanges: those answered without error, those
answered with an error, those not answered. A response counts as one without error whenever its
status is not of the classes that report one, and a failure counts for an exchange whenever a call
ends with it. The counters therefore show what they are meant to just when every response had a
status of the classes that are meant, and no call failed because of a response.
-/

namespace Courier

namespace Status

/-- A code whose first digit is two or three. -/
def isFine (status : Status) : Bool := status.isSuccess || status.isRedirection

/-- A code of no class that is counted. -/
def isOther (status : Status) : Bool := !status.isFine && !status.isError

theorem isError_eq_false_of_isFine {status : Status} (fine : status.isFine = true) :
    status.isError = false := by
  simp only [isFine, isSuccess, isRedirection, isError, Bool.or_eq_true, Bool.and_eq_true,
    decide_eq_true_eq, Bool.and_eq_false_iff, decide_eq_false_iff_not] at fine ⊢
  omega

end Status

/-- No response was obtained. -/
def Hop.isUnanswered (hop : Hop) : Bool := hop.response?.isNone

namespace Thread

/-- The call failed, although its last exchange had been answered. -/
def refused (thread : Thread) : Bool :=
  match thread.result?, thread.exchanges.getLast? with
  | some (.error _), some last => !last.isUnanswered
  | _, _ => false

/-- A call that has returned failed once for an exchange that was not answered, or once because of a
response, or not at all. -/
theorem Booked.countP_unanswered {thread : Thread} {result : Except Failure Response}
    (booked : thread.Booked) (returned : thread.result? = some result) :
    thread.exchanges.countP Hop.isUnanswered + (if thread.refused then 1 else 0) =
      (Crowd.failure? result).toList.length := by
  have books := booked.of_result? returned
  unfold refused
  rw [returned]
  generalize thread.exchanges = exchanges, thread.made = increments at books ⊢
  cases books with
  | done before last _ answered concluded =>
    have none_before : before.countP Hop.isUnanswered = 0 := by
      rw [List.countP_eq_zero]
      intro hop member
      simp [Hop.isUnanswered, Option.isSome_iff_ne_none.mp (answered hop member)]
    rw [List.countP_append, none_before, List.countP_singleton, List.getLast?_concat]
    unfold Hop.conclusion at concluded
    cases obtained : last.outcome.result with
    | error failure =>
      rw [obtained] at concluded
      subst concluded
      simp [Hop.isUnanswered, Hop.response?, obtained, Except.toOption, Crowd.failure?]
    | ok response =>
      -- The last exchange was answered, so a failure here is one because of the response.
      have answered : last.isUnanswered = false := by
        simp [Hop.isUnanswered, Hop.response?, obtained, Except.toOption]
      cases result with
      | ok response => simp [Crowd.failure?, answered]
      | error failure => simp [Crowd.failure?, answered]

end Thread

namespace Crowd

/-- Each failure that was returned stands for an exchange that was not answered, or for a response
because of which a call failed. -/
theorem countP_unanswered {threads : List Thread} (booked : ∀ thread ∈ threads, thread.Booked)
    (quiet : ∀ thread ∈ threads, thread.result?.isSome = true) :
    (threads.flatMap (·.exchanges)).countP Hop.isUnanswered + threads.countP Thread.refused =
      ((threads.filterMap Thread.result?).filterMap failure?).length := by
  induction threads with
  | nil => rfl
  | cons thread rest ih =>
    rw [List.forall_mem_cons] at booked quiet
    have others := ih booked.2 quiet.2
    obtain ⟨result, returned⟩ := Option.isSome_iff_exists.mp quiet.1
    have own := booked.1.countP_unanswered returned
    rw [List.flatMap_cons, List.countP_append, List.countP_cons, List.filterMap_cons, returned]
    cases result with
    | ok response =>
      simp only [failure?, Option.toList_none, List.length_nil] at own
      rw [List.filterMap_cons_none (by rfl)]
      omega
    | error failure =>
      simp only [failure?, Option.toList_some, List.length_singleton] at own
      rw [List.filterMap_cons_some (by rfl), List.length_cons]
      omega

/-- An exchange was answered or was not. -/
theorem length_responses (crowd : Crowd) :
    crowd.responses.length + crowd.exchanges.countP Hop.isUnanswered = crowd.exchanges.length := by
  rw [responses, List.length_filterMap_eq_countP,
    List.length_eq_countP_add_countP fun hop : Hop => hop.response?.isSome]
  congr 1
  refine List.countP_congr fun hop _ => ?_
  simp [Hop.isUnanswered]

/-- A response that reports no error has a status of a class without errors, or of no class. -/
theorem countP_isFine (responses : List Response) :
    responses.countP (!·.status.isError) =
      responses.countP (·.status.isFine) + responses.countP (·.status.isOther) := by
  induction responses with
  | nil => rfl
  | cons response rest ih =>
    simp only [List.countP_cons, ih, Status.isOther]
    cases fine : response.status.isFine with
    | true =>
      simp [Status.isError_eq_false_of_isFine fine]
      omega
    | false =>
      simp
      omega

/-- What the counters of outcomes show when all calls have returned. -/
theorem shown_outcomes (network : Network) (settings : Settings) (registry : Registry)
    (toggles : Toggles) (log : Log) (events : List Event)
    (quiet : ((start settings registry toggles log).run network events).Quiet) :
    let crowd := (start settings registry toggles log).run network events
    let stats := crowd.world.client.stats
    stats.successful = UInt64.ofNat (crowd.responses.countP (·.status.isFine)) +
      UInt64.ofNat (crowd.responses.countP (·.status.isOther)) ∧
    stats.errorStatus = UInt64.ofNat (crowd.responses.countP (·.status.isError)) ∧
    stats.failed = UInt64.ofNat (crowd.exchanges.countP Hop.isUnanswered) +
      UInt64.ofNat (crowd.threads.countP Thread.refused) ∧
    stats.total = stats.successful + stats.errorStatus +
      UInt64.ofNat (crowd.exchanges.countP Hop.isUnanswered) := by
  intro crowd stats
  have shown : ∀ counter, stats.get counter = UInt64.ofNat (crowd.tally counter) :=
    get_stats network settings registry toggles log events
  have booked := booked_run network settings registry toggles log events
  have books : crowd.Settled := settled booked quiet
  have successful : stats.successful = UInt64.ofNat (crowd.responses.countP (!·.status.isError)) :=
    books.successful ▸ shown .successful
  have errorStatus : stats.errorStatus = UInt64.ofNat (crowd.responses.countP (·.status.isError)) :=
    books.errorStatus ▸ shown .errorStatus
  have failed : stats.failed = UInt64.ofNat crowd.failures.length := books.failed ▸ shown .failed
  have total : stats.total = UInt64.ofNat crowd.exchanges.length := books.total ▸ shown .total
  refine ⟨?_, errorStatus, ?_, ?_⟩
  · rw [successful, countP_isFine, UInt64.ofNat_add]
  · rw [failed, ← UInt64.ofNat_add]
    exact congrArg UInt64.ofNat (countP_unanswered booked quiet).symm
  · rw [total, successful, errorStatus, ← UInt64.ofNat_add, ← UInt64.ofNat_add, countP_statuses,
      length_responses]

/-- The counters of outcomes show what they are meant to. -/
structure Sorted (crowd : Crowd) (stats : Stats) : Prop where
  successful : stats.successful = UInt64.ofNat (crowd.responses.countP (·.status.isFine))
  errorStatus : stats.errorStatus = UInt64.ofNat (crowd.responses.countP (·.status.isError))
  failed : stats.failed = UInt64.ofNat (crowd.exchanges.countP Hop.isUnanswered)
  total : stats.successful + stats.errorStatus + stats.failed = stats.total

/-- When all calls have returned, the counters of outcomes show what they are meant to just when they
show no response with a status of no class, and no call that failed because of a response. -/
theorem sorted_iff (network : Network) (settings : Settings) (registry : Registry)
    (toggles : Toggles) (log : Log) (events : List Event)
    (quiet : ((start settings registry toggles log).run network events).Quiet) :
    let crowd := (start settings registry toggles log).run network events
    crowd.Sorted crowd.world.client.stats ↔
      UInt64.ofNat (crowd.responses.countP (·.status.isOther)) = 0 ∧
        UInt64.ofNat (crowd.threads.countP Thread.refused) = 0 := by
  intro crowd
  obtain ⟨successful, errorStatus, failed, total⟩ :=
    shown_outcomes network settings registry toggles log events quiet
  constructor
  · intro sorted
    have other := successful.symm.trans sorted.successful
    have refused := failed.symm.trans sorted.failed
    exact ⟨UInt64.add_eq_left.mp other, UInt64.add_eq_left.mp refused⟩
  · rintro ⟨other, refused⟩
    rw [refused, UInt64.add_zero] at failed
    rw [other, UInt64.add_zero] at successful
    exact ⟨successful, errorStatus, failed, by rw [failed]; exact total.symm⟩

/-- Of two calls that make their steps by turns one is answered and one is not, and the counters
show it. -/
theorem sorted_byTurns :
    let crowd := (start .standard .probe .off []).run answeringOnce byTurns
    crowd.Sorted crowd.world.client.stats := by
  apply (sorted_iff answeringOnce .standard .probe .off [] byTurns quiet_byTurns).mpr
  constructor
  · cbv
  · cbv

/-! ### A redirect that leads nowhere -/

/-- A network in which requests are sent elsewhere, but nobody can read to where. -/
def misleading : Network :=
  .scripted (fun _ => true) (fun _ _ => .accepted) []
    (.raw (Utf8.encode "HTTP/1.1 302 \nlocation: /é\n\n") .closed)

/-- A call for the head of a page begins and makes its steps. -/
def alone : List Event :=
  .call .patient { Selecting.rootRequest with method := .head } :: List.replicate 12 (.step 0)

/-- A call that fails because of a response is counted for a response and for a failure, and then the
counters show more outcomes than exchanges. -/
theorem miscounts_misleading :
    ¬ ∀ (network : Network) (settings : Settings) (registry : Registry) (toggles : Toggles)
      (log : Log) (events : List Event),
      ((start settings registry toggles log).run network events).Quiet →
      let crowd := (start settings registry toggles log).run network events
      crowd.Sorted crowd.world.client.stats := by
  intro sorts
  have returned : ((start .standard .probe .off []).run misleading alone).threads.all
      (·.result?.isSome) = true := by
    cbv
  have sorted := sorts misleading .standard .probe .off [] alone (List.all_eq_true.mp returned)
  have outcomes :
      let stats := ((start .standard .probe .off []).run misleading alone).world.client.stats
      (stats.successful, stats.errorStatus, stats.failed, stats.total) = (1, 0, 1, 1) := by
    cbv
  simp only [Prod.mk.injEq] at outcomes
  obtain ⟨successful, errorStatus, failed, total⟩ := outcomes
  have sum := sorted.total
  rw [successful, errorStatus, failed, total] at sum
  exact absurd sum (by decide)

end Crowd

end Courier
