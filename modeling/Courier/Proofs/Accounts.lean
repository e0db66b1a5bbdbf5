import Courier.Proofs.Crowd
import Mathlib

/-! # Accounts of a client

However the steps of its calls fall between each other, each call keeps books of its own: it begins,
records every response that it obtains, goes on to another exchange or ends, and records the failure
if it ends with one. The counters are the books of all calls together. Main statements: when all
calls have returned, the counters give the exchanges, the responses and the failures of the calls
exactly; and they give them as they are documented just when no response had a status outside the
classes that are counted, and no call failed after its last exchange had been answered.
-/

namespace Courier

namespace Hop

/-- The response that was obtained. -/
def response? (hop : Hop) : Option Response := hop.outcome.result.toOption

/-- What is recorded of the response. -/
def entries (hop : Hop) : List Increment := hop.response?.elim [] Increment.ofResponse

end Hop

/-- What is recorded of a call that returns. -/
def Increment.ofResult : Except Failure Response → List Increment
  | .ok _ => []
  | .error failure => ofFailure failure

/-! ## The books of one call -/

namespace Thread

/-- What is recorded of exchanges from which a call went on. -/
def passed (exchanges : List Hop) : List Increment :=
  exchanges.flatMap fun hop => hop.entries ++ Call.continuing

theorem passed_append_singleton (exchanges : List Hop) (hop : Hop) :
    passed (exchanges ++ [hop]) = passed exchanges ++ hop.entries ++ Call.continuing := by
  simp only [passed, List.flatMap_append, List.flatMap_singleton, List.append_assoc]

/-- What a call has recorded, or is about to record, when it has performed exchanges and a step is
next. -/
inductive Books : List Hop → Call.Next → List Increment → Prop
  | dispatch (exchanges : List Hop) (request : Request) (previous : Option Response)
      (answered : ∀ hop ∈ exchanges, hop.response?.isSome = true) :
      Books exchanges (.dispatch request previous) (.one .total :: passed exchanges)
  | follow (exchanges : List Hop) (last : Hop) (response : Response)
      (answered : ∀ hop ∈ exchanges, hop.response?.isSome = true)
      (obtained : last.outcome.result = .ok response) :
      Books (exchanges ++ [last]) (.follow response)
        (.one .total :: passed exchanges ++ last.entries)
  | done (exchanges : List Hop) (last : Hop) (result : Except Failure Response)
      (answered : ∀ hop ∈ exchanges, hop.response?.isSome = true)
      (concluded : last.conclusion = result) :
      Books (exchanges ++ [last]) (.done result)
        (.one .total :: passed exchanges ++ last.entries ++ Increment.ofResult result)

theorem Books.of_dispatch {exchanges : List Hop} {request : Request} {previous : Option Response}
    {increments : List Increment} (books : Books exchanges (.dispatch request previous) increments) :
    (∀ hop ∈ exchanges, hop.response?.isSome = true) ∧
      increments = .one .total :: passed exchanges := by
  cases books with
  | dispatch _ _ _ answered => exact ⟨answered, rfl⟩

theorem Books.of_follow {exchanges : List Hop} {response : Response} {increments : List Increment}
    (books : Books exchanges (.follow response) increments) :
    ∃ before last, exchanges = before ++ [last] ∧
      (∀ hop ∈ before, hop.response?.isSome = true) ∧ last.outcome.result = .ok response ∧
      increments = .one .total :: passed before ++ last.entries := by
  cases books with
  | follow before last _ answered obtained => exact ⟨before, last, rfl, answered, obtained, rfl⟩

/-- The books after an exchange. -/
theorem Books.afterExchange {exchanges : List Hop} {request : Request} {previous : Option Response}
    {increments : List Increment} (books : Books exchanges (.dispatch request previous) increments)
    (hop : Hop) :
    Books (exchanges ++ [hop]) (Call.afterExchange hop.outcome.result).next
      (increments ++ (Call.afterExchange hop.outcome.result).pending) := by
  obtain ⟨answered, rfl⟩ := books.of_dispatch
  cases obtained : hop.outcome.result with
  | ok response =>
    have entries : hop.entries = Increment.ofResponse response := by
      simp [Hop.entries, Hop.response?, obtained, Except.toOption]
    have after := Books.follow exchanges hop response answered obtained
    rw [entries] at after
    exact after
  | error failure =>
    have entries : hop.entries = [] := by
      simp [Hop.entries, Hop.response?, obtained, Except.toOption]
    have concluded : hop.conclusion = .error failure := by
      simp [Hop.conclusion, obtained]
    have after := Books.done exchanges hop _ answered concluded
    rw [entries, List.append_nil] at after
    exact after

/-- The books after a look at a response. -/
theorem Books.afterResponse {exchanges : List Hop} {response : Response}
    {increments : List Increment} (books : Books exchanges (.follow response) increments) :
    Books exchanges (Call.afterResponse response).next
      (increments ++ (Call.afterResponse response).pending) := by
  obtain ⟨before, last, rfl, answered, obtained, rfl⟩ := books.of_follow
  have concluded : last.conclusion = (Redirect.next? response).map fun _ => response := by
    simp [Hop.conclusion, obtained]
  unfold Call.afterResponse
  cases asked : Redirect.next? response with
  | error failure =>
    rw [asked] at concluded
    exact .done before last _ answered concluded
  | ok next =>
    rw [asked] at concluded
    cases next with
    | none => exact .done before last _ answered concluded
    | some request =>
      have all : ∀ hop ∈ before ++ [last], hop.response?.isSome = true := by
        rw [List.forall_mem_append, List.forall_mem_singleton]
        exact ⟨answered, by simp [Hop.response?, obtained, Except.toOption]⟩
      have after := Books.dispatch (before ++ [last]) request (some response) all
      rw [passed_append_singleton] at after
      exact after

/-- What a call has recorded and still has to record is what its exchanges come to. -/
def Booked (thread : Thread) : Prop :=
  Books thread.exchanges thread.call.next (thread.made ++ thread.call.pending)

theorem booked_begin (settings : Settings) (caller : Caller) (request : Request) :
    (begin settings caller request).Booked := by
  unfold Booked begin Call.begin
  exact .dispatch [] _ none (List.forall_mem_nil _)

/-- A step leaves the books in order. -/
theorem Booked.step (network : Network) {thread : Thread} (booked : thread.Booked) (world : World) :
    (thread.step network world).1.Booked := by
  obtain ⟨caller, ⟨pending, next⟩, selecting, exchanges, made⟩ := thread
  unfold Booked at booked ⊢
  dsimp only at booked
  cases pending with
  | cons increment rest =>
    -- What is made is no longer pending, so the books as a whole stay as they are.
    rw [← List.singleton_append, ← List.append_assoc] at booked
    exact booked
  | nil =>
    cases next with
    | dispatch request previous =>
      unfold Thread.step
      dsimp only
      split
      · rename_i unit
        rw [List.append_nil] at booked
        exact booked.afterExchange ⟨unit, unit.execute network world.log caller⟩
      · exact booked
    | follow response =>
      rw [List.append_nil] at booked
      exact booked.afterResponse
    | done result => exact booked

theorem Booked.of_result? {thread : Thread} {result : Except Failure Response}
    (booked : thread.Booked) (returned : thread.result? = some result) :
    Books thread.exchanges (.done result) thread.made := by
  obtain ⟨caller, ⟨pending, next⟩, selecting, exchanges, made⟩ := thread
  unfold result? at returned
  split at returned
  · rename_i final shape
    cases shape
    cases returned
    unfold Booked at booked
    rw [List.append_nil] at booked
    exact booked
  · cases returned

variable {counter : Counter}

theorem tally_passed (exchanges : List Hop) :
    Increment.tally counter (passed exchanges) =
      Increment.tally counter (exchanges.flatMap Hop.entries) +
        exchanges.length * Increment.tally counter Call.continuing := by
  induction exchanges with
  | nil => simp [passed]
  | cons hop rest ih =>
    rw [passed] at ih ⊢
    simp only [List.flatMap_cons, Increment.tally_append, ih, List.length_cons, Nat.add_mul]
    omega

/-- The books of a call that has returned: it began once, went on from all exchanges but one, and
recorded all responses and the failure that it returned, if it did. -/
theorem Books.tally_done (counter : Counter) {exchanges : List Hop} {result : Except Failure Response}
    {increments : List Increment} (books : Books exchanges (.done result) increments) :
    Increment.tally counter increments + Increment.tally counter Call.continuing =
      Increment.tally counter [.one .total] +
        exchanges.length * Increment.tally counter Call.continuing +
        Increment.tally counter (exchanges.flatMap Hop.entries) +
        Increment.tally counter (Increment.ofResult result) := by
  cases books with
  | done before last _ answered concluded =>
    rw [← List.singleton_append, Increment.tally_append, Increment.tally_append,
      Increment.tally_append, tally_passed, List.flatMap_append, List.flatMap_singleton,
      Increment.tally_append, List.length_append, List.length_singleton, Nat.add_mul]
    omega

end Thread

/-! ## The books of all calls -/

namespace Crowd

/-- The exchanges of all calls. -/
def exchanges (crowd : Crowd) : List Hop := crowd.threads.flatMap (·.exchanges)

/-- The responses that were obtained. -/
def responses (crowd : Crowd) : List Response := crowd.exchanges.filterMap Hop.response?

/-- What the calls that have returned came to. -/
def results (crowd : Crowd) : List (Except Failure Response) :=
  crowd.threads.filterMap Thread.result?

/-- The failure of a call that fails. -/
def failure? : Except Failure Response → Option Failure
  | .ok _ => none
  | .error failure => some failure

/-- The failures that were returned. -/
def failures (crowd : Crowd) : List Failure := crowd.results.filterMap failure?

/-- Every call has returned. -/
def Quiet (crowd : Crowd) : Prop := ∀ thread ∈ crowd.threads, thread.result?.isSome = true

theorem responses_entries (exchanges : List Hop) :
    exchanges.flatMap Hop.entries =
      (exchanges.filterMap Hop.response?).flatMap Increment.ofResponse := by
  induction exchanges with
  | nil => rfl
  | cons hop rest ih =>
    rw [List.flatMap_cons, List.filterMap_cons, ih]
    cases obtained : hop.response? with
    | none => simp [Hop.entries, obtained]
    | some response => simp [Hop.entries, obtained]

theorem failures_entries (results : List (Except Failure Response)) :
    results.flatMap Increment.ofResult =
      (results.filterMap failure?).flatMap Increment.ofFailure := by
  induction results with
  | nil => rfl
  | cons result rest ih =>
    rw [List.flatMap_cons, List.filterMap_cons, ih]
    cases result with
    | ok response => rfl
    | error failure => rfl

variable {counter : Counter}

theorem tally_threads {threads : List Thread} (booked : ∀ thread ∈ threads, thread.Booked)
    (quiet : ∀ thread ∈ threads, thread.result?.isSome = true) :
    (threads.map fun thread => Increment.tally counter thread.made).sum +
        threads.length * Increment.tally counter Call.continuing =
      threads.length * Increment.tally counter [.one .total] +
        (threads.flatMap (·.exchanges)).length * Increment.tally counter Call.continuing +
        Increment.tally counter ((threads.flatMap (·.exchanges)).flatMap Hop.entries) +
        Increment.tally counter ((threads.filterMap Thread.result?).flatMap Increment.ofResult) := by
  induction threads with
  | nil => simp
  | cons thread rest ih =>
    rw [List.forall_mem_cons] at booked quiet
    have others := ih booked.2 quiet.2
    obtain ⟨result, returned⟩ := Option.isSome_iff_exists.mp quiet.1
    have own := Thread.Books.tally_done counter (booked.1.of_result? returned)
    rw [List.map_cons, List.sum_cons, List.length_cons, List.flatMap_cons, List.flatMap_append,
      List.length_append, List.filterMap_cons, returned, List.flatMap_cons,
      Increment.tally_append, Increment.tally_append, Nat.add_mul, Nat.add_mul, Nat.add_mul]
    omega

/-- When all calls have returned, the books show that each began once and went on from all its
exchanges but one, and they show all responses and all failures. -/
theorem tally_quiet (counter : Counter) {crowd : Crowd}
    (booked : ∀ thread ∈ crowd.threads, thread.Booked) (quiet : crowd.Quiet) :
    crowd.tally counter + crowd.threads.length * Increment.tally counter Call.continuing =
      crowd.threads.length * Increment.tally counter [.one .total] +
        crowd.exchanges.length * Increment.tally counter Call.continuing +
        Increment.tally counter (crowd.responses.flatMap Increment.ofResponse) +
        Increment.tally counter (crowd.failures.flatMap Increment.ofFailure) := by
  rw [responses, failures, ← responses_entries, ← failures_entries]
  exact tally_threads booked quiet

end Crowd

/-! ## What the counters count -/

namespace Counter

/-- The responses that a counter counts; the octets of bodies are not counted one by one. -/
@[simp]
def countsResponse : Counter → Response → Bool
  | .successful => fun response => !response.status.isError
  | .errorStatus => fun response => response.status.isError
  | .served strategy => fun response => response.strategy = strategy
  | _ => fun _ => false

/-- The failures that a counter counts. -/
@[simp]
def countsFailure : Counter → Failure → Bool
  | .failed => fun _ => true
  | .timeouts => Failure.isTimeout
  | .cancellations => Failure.isCancelled
  | _ => fun _ => false

end Counter

theorem Failure.isCancelled_of_isTimeout {failure : Failure} (late : failure.isTimeout = true) :
    failure.isCancelled = false := by
  unfold isTimeout phase? at late
  unfold isCancelled
  cases kind : failure.kind <;> simp_all

namespace Increment

theorem tally_ofResponse {counter : Counter} (plain : counter ≠ .bytes) (response : Response) :
    tally counter (ofResponse response) = if counter.countsResponse response then 1 else 0 := by
  cases status : response.status.isError <;> cases counter <;>
    simp_all [ofResponse, one]

theorem tally_ofFailure (counter : Counter) (failure : Failure) :
    tally counter (ofFailure failure) = if counter.countsFailure failure then 1 else 0 := by
  unfold ofFailure
  cases late : failure.isTimeout with
  | true =>
    have kept := Failure.isCancelled_of_isTimeout late
    cases counter <;> simp [one, late, kept]
  | false =>
    cases given : failure.isCancelled <;> cases counter <;>
      simp [one, late, given]

/-- What adds one just for some members of a list adds as many as these are. -/
theorem tally_flatMap {α : Type} {counter : Counter} {entries : α → List Increment}
    {counted : α → Bool}
    (each : ∀ x, tally counter (entries x) = if counted x then 1 else 0) (xs : List α) :
    tally counter (xs.flatMap entries) = xs.countP counted := by
  induction xs with
  | nil => rfl
  | cons x rest ih =>
    rw [List.flatMap_cons, tally_append, each, ih, List.countP_cons]
    omega

/-- The octets of bodies are added up, but for the width of a counter. -/
theorem ofNat_tally_bytes (responses : List Response) :
    UInt64.ofNat (tally .bytes (responses.flatMap ofResponse)) =
      UInt64.ofNat (responses.map (·.body.length)).sum := by
  induction responses with
  | nil => rfl
  | cons response rest ih =>
    have own : tally .bytes (ofResponse response) = response.body.length.toUInt64.toNat := by
      cases status : response.status.isError <;> simp [ofResponse, one, status]
    rw [List.flatMap_cons, tally_append, UInt64.ofNat_add, ih, own, UInt64.ofNat_toNat,
      List.map_cons, List.sum_cons, UInt64.ofNat_add]

end Increment

namespace Crowd

variable {crowd : Crowd}

/-- When all calls have returned, a counter that counts some responses and some failures shows how
many these are, and how many exchanges there were if it counts the exchanges. -/
theorem tally_eq_countP {counter : Counter} (plain : counter ≠ .bytes)
    (booked : ∀ thread ∈ crowd.threads, thread.Booked) (quiet : crowd.Quiet) :
    crowd.tally counter + crowd.threads.length * Increment.tally counter Call.continuing =
      crowd.threads.length * Increment.tally counter [.one .total] +
        crowd.exchanges.length * Increment.tally counter Call.continuing +
        crowd.responses.countP counter.countsResponse +
        crowd.failures.countP counter.countsFailure := by
  rw [tally_quiet counter booked quiet, Increment.tally_flatMap (Increment.tally_ofResponse plain),
    Increment.tally_flatMap (Increment.tally_ofFailure counter)]

/-- What the books of calls show that have all returned. -/
structure Settled (crowd : Crowd) : Prop where
  total : crowd.tally .total = crowd.exchanges.length
  redirects : crowd.tally .redirects + crowd.threads.length = crowd.exchanges.length
  successful : crowd.tally .successful = crowd.responses.countP (!·.status.isError)
  errorStatus : crowd.tally .errorStatus = crowd.responses.countP (·.status.isError)
  served (strategy : Strategy) :
    crowd.tally (.served strategy) = crowd.responses.countP (·.strategy = strategy)
  failed : crowd.tally .failed = crowd.failures.length
  timeouts : crowd.tally .timeouts = crowd.failures.countP (·.isTimeout)
  cancellations : crowd.tally .cancellations = crowd.failures.countP (·.isCancelled)
  /-- A counter shows no more than its width. -/
  bytes : UInt64.ofNat (crowd.tally .bytes) =
    UInt64.ofNat (crowd.responses.map (·.body.length)).sum

theorem settled (booked : ∀ thread ∈ crowd.threads, thread.Booked) (quiet : crowd.Quiet) :
    crowd.Settled := by
  have books (counter : Counter) (plain : counter ≠ .bytes) := tally_eq_countP plain booked quiet
  simp only [Call.continuing, Increment.one] at books
  constructor
  case total =>
    have shown := books .total nofun
    simp at shown
    omega
  case redirects => simpa using books .redirects nofun
  case successful => simpa using books .successful nofun
  case errorStatus => simpa using books .errorStatus nofun
  case served => exact fun strategy => by simpa using books (.served strategy) nofun
  case failed => simpa using books .failed nofun
  case timeouts => simpa using books .timeouts nofun
  case cancellations => simpa using books .cancellations nofun
  case bytes =>
    have octets := tally_quiet .bytes booked quiet
    rw [Increment.tally_flatMap (Increment.tally_ofFailure .bytes)] at octets
    simp [Call.continuing, Increment.one] at octets
    rw [octets, Increment.ofNat_tally_bytes]

/-- Each response is the work of one strategy. -/
theorem countP_strategies (responses : List Response) :
    responses.countP (·.strategy = .blocking) + responses.countP (·.strategy = .pooled) +
      responses.countP (·.strategy = .task) = responses.length := by
  induction responses with
  | nil => rfl
  | cons response rest ih =>
    cases strategy : response.strategy <;> simp [strategy] <;> omega

/-- Each response reports an error or does not. -/
theorem countP_statuses (responses : List Response) :
    responses.countP (!·.status.isError) + responses.countP (·.status.isError) =
      responses.length := by
  rw [List.length_eq_countP_add_countP (fun response : Response => !response.status.isError)]
  simp

/-! ## The counters of a client -/

section

variable (network : Network) (settings : Settings) (registry : Registry) (toggles : Toggles)
  (log : Log) (events : List Event)

theorem get_stats (counter : Counter) :
    ((start settings registry toggles log).run network events).world.client.stats.get counter =
      UInt64.ofNat (((start settings registry toggles log).run network events).tally counter) := by
  apply get_stats_run
  rintro (_ | _ | _ | _ | _ | _ | _ | _ | (_ | _ | _)) <;> rfl

theorem booked_run :
    ∀ thread ∈ ((start settings registry toggles log).run network events).threads,
      thread.Booked :=
  forall_threads Thread.Booked Thread.booked_begin (fun _ world booked => booked.step network world)
    (fun _ booked => booked) events (List.forall_mem_nil _)

end

/-- When all calls have returned, whatever the order of their steps, the counters account for all
their work: for the exchanges, of which each call began one and followed a redirect to each other;
for the responses, by their status, by the strategy that they report and by their octets; and for
the failures that were returned. -/
theorem accounts_exact (network : Network) (settings : Settings) (registry : Registry)
    (toggles : Toggles) (log : Log) (events : List Event)
    (quiet : ((start settings registry toggles log).run network events).Quiet) :
    let crowd := (start settings registry toggles log).run network events
    let stats := crowd.world.client.stats
    (stats.total = UInt64.ofNat crowd.threads.length + stats.redirects ∧
      stats.total = UInt64.ofNat crowd.exchanges.length) ∧
    (stats.blocking + stats.pooled + stats.task = stats.successful + stats.errorStatus ∧
      stats.successful + stats.errorStatus = UInt64.ofNat crowd.responses.length ∧
      ∀ strategy, stats.get (.served strategy) =
        UInt64.ofNat (crowd.responses.countP (·.strategy = strategy))) ∧
    stats.bytes = UInt64.ofNat (crowd.responses.map (·.body.length)).sum ∧
    stats.failed = UInt64.ofNat crowd.failures.length ∧
    stats.timeouts = UInt64.ofNat (crowd.failures.countP (·.isTimeout)) ∧
    stats.cancellations = UInt64.ofNat (crowd.failures.countP (·.isCancelled)) := by
  intro crowd stats
  have shown : ∀ counter, stats.get counter = UInt64.ofNat (crowd.tally counter) :=
    get_stats network settings registry toggles log events
  have booked := booked_run network settings registry toggles log events
  have books : crowd.Settled := settled booked quiet
  have total : stats.total = UInt64.ofNat crowd.exchanges.length := books.total ▸ shown .total
  have redirects : stats.redirects = UInt64.ofNat (crowd.tally .redirects) := shown .redirects
  have served (strategy : Strategy) : stats.get (.served strategy) =
      UInt64.ofNat (crowd.responses.countP (·.strategy = strategy)) :=
    books.served strategy ▸ shown (.served strategy)
  have answered : stats.successful + stats.errorStatus = UInt64.ofNat crowd.responses.length := by
    have successful : stats.successful = UInt64.ofNat _ := shown .successful
    have errorStatus : stats.errorStatus = UInt64.ofNat _ := shown .errorStatus
    rw [successful, errorStatus, books.successful, books.errorStatus, ← UInt64.ofNat_add,
      countP_statuses]
  have shared : stats.blocking + stats.pooled + stats.task =
      UInt64.ofNat crowd.responses.length := by
    rw [← countP_strategies, UInt64.ofNat_add, UInt64.ofNat_add, ← served, ← served, ← served]
    rfl
  refine ⟨⟨?_, total⟩, ⟨shared.trans answered.symm, answered, served⟩,
    (shown .bytes).trans books.bytes, books.failed ▸ shown .failed, books.timeouts ▸ shown .timeouts,
    books.cancellations ▸ shown .cancellations⟩
  rw [total, redirects, ← UInt64.ofNat_add, Nat.add_comm, books.redirects]

/-! ### Two calls by turns -/

/-- A network in which only the first request is answered. -/
def answeringOnce : Network :=
  .scripted (fun _ => true) (fun _ _ => .accepted)
    [.raw (Utf8.encode "HTTP/1.1 200 \n\n") .closed] (.raw [] .closed)

/-- Two calls begin, and then each makes a step when the other has made one. -/
def byTurns : List Event :=
  [.call .patient Selecting.rootRequest, .call .patient Selecting.rootRequest] ++
    (List.replicate 12 [.step 0, .step 1]).flatten

theorem quiet_byTurns : ((start .standard .probe .off []).run answeringOnce byTurns).Quiet := by
  have returned : ((start .standard .probe .off []).run answeringOnce byTurns).threads.all
      (·.result?.isSome) = true := by
    cbv
  exact List.all_eq_true.mp returned

/-- Of two calls that make their steps by turns one is answered and one fails, and so it is
counted. -/
theorem accounts_exact_byTurns :
    let stats := ((start .standard .probe .off []).run answeringOnce byTurns).world.client.stats
    stats.total = 2 ∧ stats.successful + stats.errorStatus = 1 ∧ stats.failed = 1 := by
  intro stats
  obtain ⟨⟨-, total⟩, ⟨-, answered, -⟩, -, failed, -, -⟩ :=
    accounts_exact answeringOnce .standard .probe .off [] byTurns quiet_byTurns
  have exchanges :
      ((start .standard .probe .off []).run answeringOnce byTurns).exchanges.length = 2 := by
    cbv
  have responses :
      ((start .standard .probe .off []).run answeringOnce byTurns).responses.length = 1 := by
    cbv
  have failures :
      ((start .standard .probe .off []).run answeringOnce byTurns).failures.length = 1 := by
    cbv
  rw [exchanges] at total
  rw [responses] at answered
  rw [failures] at failed
  exact ⟨total, answered, failed⟩

end Crowd

end Courier
