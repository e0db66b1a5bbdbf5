import Courier.Bench.Run
import Courier.Proofs.Accounts
import Courier.Proofs.BodyReading
import Courier.Proofs.Independence
import Courier.Proofs.StrategyAgreement
import Courier.Proofs.Workers

/-! # The record of a run

The calls of a run note which exchanges they perform and what they return, in the order in which this
happens. While the switches of a client ask for one strategy, and every strategy can be had, each
exchange of the run is made by this strategy, so its response is counted for it and for no other. When
all workers have stopped, nothing is left to be counted: the counters show the responses of the record.
-/

namespace Courier

/-- What the call has returned, if it has ended. -/
def Call.result? : Call → Option (Except Failure Response)
  | ⟨[], .done result⟩ => some result
  | _ => none

theorem Hop.response?_eq_some_iff {hop : Hop} {response : Response} :
    hop.response? = some response ↔ hop.outcome.result = .ok response := by
  unfold response?
  cases hop.outcome.result <;> simp [Except.toOption]

/-- A response is the work of the strategy that obtains it. -/
theorem ExecutionUnit.strategy_of_execute {network : Network} {log : Log} {caller : Caller}
    {strategy : Strategy} {request : Request} {previous : Option Response} {response : Response}
    (obtained : ((ofStrategy strategy request previous).execute network log caller).result =
      .ok response) : response.strategy = strategy := by
  obtain ⟨answer, received⟩ := Exchange.exists_receive obtained
  obtain ⟨head, body, kept, -, rfl⟩ := Exchange.receive_eq_ok received
  rfl

namespace Bench

/-- The switches by which a strategy is wanted select it. -/
theorem select_of_forcing {dispatcher : Dispatcher} {strategy : Strategy}
    (probed : dispatcher.registry = .probe) (forced : dispatcher.toggles = forcing strategy)
    (request : Request) (previous : Option Response) :
    (dispatcher.select request previous).1 = .ofStrategy strategy request previous := by
  obtain ⟨registry, toggles, tallies, started⟩ := dispatcher
  obtain rfl : registry = .probe := probed
  obtain rfl : toggles = forcing strategy := forced
  cases strategy <;> rfl

/-! ## Notes -/

/-- What a call of a run notes. -/
inductive Note
  | exchanged (hop : Hop)
  | returned (result : Except Failure Response)

namespace Note

/-- The exchange that is noted. -/
def hop? : Note → Option Hop
  | exchanged hop => some hop
  | returned _ => none

/-- The result that is noted. -/
def result? : Note → Option (Except Failure Response)
  | exchanged _ => none
  | returned result => some result

/-- The exchanges of notes. -/
def exchanges (notes : List Note) : List Hop := notes.filterMap hop?

/-- The responses that were obtained. -/
def responses (notes : List Note) : List Response := (exchanges notes).filterMap Hop.response?

/-- What calls have returned. -/
def results (notes : List Note) : List (Except Failure Response) := notes.filterMap result?

/-- A call has returned a response. -/
def isAnswer (result : Except Failure Response) : Bool := result.toOption.isSome

/-- A call has returned a response that reports success. -/
def isSuccess (result : Except Failure Response) : Bool :=
  result.toOption.any (·.status.isSuccess)

theorem exchanges_append_exchanged (notes : List Note) (hop : Hop) :
    exchanges (notes ++ [exchanged hop]) = exchanges notes ++ [hop] := List.filterMap_append

theorem responses_append_exchanged (notes : List Note) (hop : Hop) :
    responses (notes ++ [exchanged hop]) = responses notes ++ hop.response?.toList := by
  rw [responses, exchanges_append_exchanged, List.filterMap_append]
  cases found : hop.response? <;> simp [responses, found]

theorem results_append_exchanged (notes : List Note) (hops : List Hop) :
    results (notes ++ hops.map exchanged) = results notes := by
  have nothing : results (hops.map exchanged) = [] := by
    induction hops with
    | nil => rfl
    | cons hop rest ih => exact ih
  rw [results, List.filterMap_append, ← results, ← results, nothing, List.append_nil]

theorem exchanges_append_returned (notes : List Note) (ended : List (Except Failure Response)) :
    exchanges (notes ++ ended.map returned) = exchanges notes := by
  have nothing : exchanges (ended.map returned) = [] := by
    induction ended with
    | nil => rfl
    | cons result rest ih => exact ih
  rw [exchanges, List.filterMap_append, ← exchanges, ← exchanges, nothing, List.append_nil]

theorem results_append_returned (notes : List Note) (ended : List (Except Failure Response)) :
    results (notes ++ ended.map returned) = results notes ++ ended := by
  have same : results (ended.map returned) = ended := by
    induction ended with
    | nil => rfl
    | cons result rest ih => exact congrArg (result :: ·) ih
  rw [results, List.filterMap_append, ← results, ← results, same]

theorem countP_isSuccess_le (results : List (Except Failure Response)) :
    results.countP isSuccess ≤ results.countP isAnswer := by
  apply List.countP_mono_left
  intro result _ successful
  cases result with
  | ok response => rfl
  | error failure => cases successful

end Note

namespace Run

/-- What a step of a timed call notes. -/
def note (network : Network) (call : Option Call) (shared : Shared) : List Note :=
  match call with
  | none => []
  | some call =>
    (Call.performed network .patient (call, shared.world)).map .exchanged ++
      call.result?.toList.map .returned

/-- One iteration, with the notes of its calls after those before it. -/
def iterateNoting (network : Network) (conditions : Conditions) (strategy : Strategy)
    (workload : Workload) (state : Tally × List Note) (iteration : Nat) : Tally × List Note :=
  let settings := state.1.shared.world.client.settings
  let job := (job network settings workload (conditions.exchange iteration)).noting (note network)
  let workers := workerCount strategy workload.concurrency
  let pool := (Pool.start workers.toNat (state.1.shared, state.2)).run job workload.concurrency
    (conditions.pick iteration) 0
  (⟨pool.shared.1, pool.samples ++ state.1.samples⟩, pool.shared.2)

/-- The iterations from one on, with the notes of their calls. -/
def iterateFromNoting (network : Network) (conditions : Conditions) (strategy : Strategy)
    (workload : Workload) (first : Nat) : (count : Nat) → Tally × List Note → Tally × List Note
  | 0, state => state
  | count + 1, state =>
    iterateFromNoting network conditions strategy workload (first + 1) count
      (iterateNoting network conditions strategy workload state first)

/-- A run that has not begun its first iteration. -/
def opening (strategy : Strategy) (world : World) : Tally :=
  ⟨⟨setToggles world (forcing strategy), 0⟩, []⟩

/-- What the calls of a run note. -/
def record (network : Network) (conditions : Conditions) (strategy : Strategy) (workload : Workload)
    (world : World) : List Note :=
  (iterateFromNoting network conditions strategy workload 0 workload.iterations.toNat
    (opening strategy world, [])).2

section

variable (network : Network) (conditions : Conditions) (strategy : Strategy) (workload : Workload)

/-- Notes change nothing about an iteration. -/
theorem fst_iterateNoting (state : Tally × List Note) (iteration : Nat) :
    (iterateNoting network conditions strategy workload state iteration).1 =
      iterate network conditions strategy workload state.1 iteration := by
  have same := Pool.plain_run
    (job network state.1.shared.world.client.settings workload (conditions.exchange iteration))
    (note network) workload.concurrency (conditions.pick iteration) 0
    (Pool.start (workerCount strategy workload.concurrency).toNat (state.1.shared, state.2))
  have begins : (Pool.start (workerCount strategy workload.concurrency).toNat
      (state.1.shared, state.2) : Pool _ (Option Call) Double).plain =
        Pool.start (workerCount strategy workload.concurrency).toNat state.1.shared := rfl
  rw [begins] at same
  unfold iterate iterateNoting
  dsimp only
  rw [← same]
  rfl

theorem fst_iterateFromNoting (first count : Nat) (state : Tally × List Note) :
    (iterateFromNoting network conditions strategy workload first count state).1 =
      iterateFrom network conditions strategy workload first count state.1 := by
  induction count generalizing first state with
  | zero => rfl
  | succ count ih => rw [iterateFromNoting, ih, fst_iterateNoting, iterateFrom]

end

/-! ## What the counters show -/

open Note

/-- What calls have left behind in a world since it was as at first, when there is still so much to be
counted for each strategy. -/
structure Kept (base : World) (strategy : Strategy) (owed : Strategy → Nat) (world : World)
    (notes : List Note) : Prop where
  alike : world.Alike base
  log : world.log = base.log ++ (exchanges notes).filterMap (·.outcome.sent)
  strategies : ∀ response ∈ responses notes, response.strategy = strategy
  counted : ∃ made, world.client.stats = base.client.stats.addAll made ∧ ∀ other,
    Increment.tally (.served other) made + owed other =
      (responses notes).countP (·.strategy = other)

/-- What a call is still to count for a strategy. -/
def owes (call : Call) (strategy : Strategy) : Nat :=
  Increment.tally (.served strategy) call.pending

theorem owes_failed (failure : Failure) (strategy : Strategy) :
    owes (Call.failed failure) strategy = 0 := by
  rw [owes, Call.failed, Increment.tally_ofFailure]
  rfl

theorem owes_afterResponse (response : Response) (strategy : Strategy) :
    owes (Call.afterResponse response) strategy = 0 := by
  unfold Call.afterResponse
  split
  · exact owes_failed ..
  · rfl
  · rfl

theorem owes_afterExchange (hop : Hop) (strategy : Strategy) :
    owes (Call.afterExchange hop.outcome.result) strategy =
      hop.response?.toList.countP (·.strategy = strategy) := by
  unfold Hop.response?
  cases hop.outcome.result with
  | error failure => exact owes_failed ..
  | ok response =>
    have plain : Counter.served strategy ≠ .bytes := by simp
    rw [owes, Call.afterExchange, Increment.tally_ofResponse plain]
    simp [Except.toOption, List.countP_cons]

variable {network : Network} {base world : World} {strategy : Strategy} {notes : List Note}

/-- An addition to a counter is no longer owed. -/
theorem Kept.record (others : Strategy → Nat) {increment : Increment} {rest : List Increment}
    {next : Call.Next}
    (kept : Kept base strategy (fun other => owes ⟨increment :: rest, next⟩ other + others other)
      world notes) :
    Kept base strategy (fun other => owes ⟨rest, next⟩ other + others other)
      (Call.record world [increment]) notes := by
  obtain ⟨alike, log, strategies, made, stats, counted⟩ := kept
  refine ⟨⟨alike.settings, alike.registry, alike.toggles⟩, log, strategies, made ++ [increment], ?_,
    fun other => ?_⟩
  · have added : base.client.stats.addAll (made ++ [increment]) =
        (base.client.stats.addAll made).addAll [increment] := List.foldl_append
    rw [added, ← stats]
    rfl
  · have before := counted other
    simp only [owes, Increment.tally_append, Increment.tally_cons, Increment.tally_nil] at before ⊢
    omega

/-- While the switches ask for a strategy, an exchange is made by it, and its response is owed to it. -/
theorem Kept.exchange (network : Network) (probed : base.client.dispatcher.registry = .probe)
    (forced : base.client.dispatcher.toggles = forcing strategy) {others : Strategy → Nat}
    (kept : Kept base strategy others world notes) (request : Request)
    (previous : Option Response) :
    let after := Call.act network .patient world (.dispatch request previous)
    Kept base strategy (fun other => owes after.1 other + others other) after.2
      (notes ++ [.exchanged (Call.hop network .patient world request previous)]) := by
  intro after
  let hop := Call.hop network .patient world request previous
  obtain ⟨alike, log, strategies, made, stats, counted⟩ := kept
  have selected : hop.unit = .ofStrategy strategy request previous :=
    select_of_forcing (alike.registry.trans probed) (alike.toggles.trans forced) ..
  have obtained : ∀ response ∈ hop.response?.toList, response.strategy = strategy := by
    intro response member
    have executed : (hop.unit.execute network world.log .patient).result = .ok response :=
      Hop.response?_eq_some_iff.mp (Option.mem_toList.mp member)
    rw [selected] at executed
    exact ExecutionUnit.strategy_of_execute executed
  refine ⟨⟨alike.settings, alike.registry, alike.toggles⟩, ?_, ?_, made, stats, fun other => ?_⟩
  · have logged : after.2.log = world.log ++ hop.outcome.sent.toList := rfl
    rw [logged, exchanges_append_exchanged, List.filterMap_append, ← List.append_assoc, ← log]
    cases sent : hop.outcome.sent <;> simp [hop, sent]
  · rw [responses_append_exchanged, List.forall_mem_append]
    exact ⟨strategies, obtained⟩
  · have more : owes after.1 other = hop.response?.toList.countP (·.strategy = other) :=
      owes_afterExchange hop other
    rw [responses_append_exchanged, List.countP_append, ← counted other, more]
    dsimp only [hop]
    omega

/-- A step of a call counts what it takes off what the call owes, and a response makes the call owe
one for its strategy. -/
theorem Kept.step (network : Network) (probed : base.client.dispatcher.registry = .probe)
    (forced : base.client.dispatcher.toggles = forcing strategy) (others : Strategy → Nat)
    (call : Call)
    (kept : Kept base strategy (fun other => owes call other + others other) world notes) :
    Kept base strategy
      (fun other => owes (call.step network .patient world).1 other + others other)
      (call.step network .patient world).2
      (notes ++ (Call.performed network .patient (call, world)).map .exchanged) := by
  obtain ⟨pending, next⟩ := call
  cases pending with
  | cons increment rest =>
    simp only [Call.performed, List.map_nil, List.append_nil]
    exact kept.record others
  | nil =>
    have nothing : (fun other => owes ⟨[], next⟩ other + others other) = others :=
      funext fun other => Nat.zero_add _
    rw [nothing] at kept
    cases next with
    | dispatch request previous => exact kept.exchange network probed forced request previous
    | follow response =>
      simp only [Call.performed, List.map_nil, List.append_nil]
      change Kept base strategy (fun other => owes (Call.afterResponse response) other + _) world notes
      simpa only [owes_afterResponse, Nat.zero_add] using kept
    | done result =>
      simp only [Call.performed, List.map_nil, List.append_nil]
      change Kept base strategy (fun other => owes ⟨[], .done result⟩ other + _) world notes
      rwa [nothing]

/-- What calls return is nothing that is counted for a strategy. -/
theorem Kept.returned {owed : Strategy → Nat} (ended : List (Except Failure Response))
    (kept : Kept base strategy owed world notes) :
    Kept base strategy owed world (notes ++ ended.map .returned) := by
  obtain ⟨alike, log, strategies, counted⟩ := kept
  have same := exchanges_append_returned notes ended
  have same' : responses (notes ++ ended.map .returned) = responses notes := by
    rw [responses, same, responses]
  exact ⟨alike, by rwa [same], by rwa [same'], by rwa [same']⟩

/-! ## One iteration -/

/-- What a worker is still to count for a strategy. -/
def owedBy (strategy : Strategy) : Worker (Option Call) Double → Nat
  | .working _ (some call) => owes call strategy
  | .working _ none | .claiming | .storing _ => 0

/-- What workers are still to count for a strategy. -/
def owed (workers : List (Worker (Option Call) Double)) (strategy : Strategy) : Nat :=
  (workers.map (owedBy strategy)).sum

theorem owed_around (before after : List (Worker (Option Call) Double))
    (worker : Worker (Option Call) Double) :
    owed (before ++ worker :: after) =
      fun strategy => owedBy strategy worker + owed (before ++ after) strategy := by
  funext strategy
  simp only [owed, List.map_append, List.map_cons, List.sum_append, List.sum_cons]
  omega

/-- How many calls are made for so many jobs: none where the text of the workload is no URL. -/
def calls (workload : Workload) (jobs : Nat) : Nat :=
  if (request? workload).isSome then jobs else 0

/-- The job of a worker is a call where the text of the workload is a URL. -/
def Suits (workload : Workload) : Worker (Option Call) Double → Prop
  | .working _ call => call.isSome = (request? workload).isSome
  | .claiming | .storing _ => True

/-- A timed exchange that has ended: its ticket, and what its call has returned. Where the text of the
workload is no URL there is no call. -/
structure Timed where
  ticket : UInt64
  returned : Option (Except Failure Response)

/-- The sample of a timed exchange: how long it took, if it returned a response. -/
def Timed.sample? (elapsed : UInt64 → Double) (timed : Timed) : Option Double :=
  match timed.returned with
  | some (.ok _) => some (elapsed timed.ticket)
  | some (.error _) | none => none

/-- What is true of an iteration, before which so many calls have returned. -/
structure Recorded (base : World) (strategy : Strategy) (workload : Workload) (earlier : Nat)
    (pool : Pool (Shared × List Note) (Option Call) Double) : Prop where
  kept : Kept base strategy (owed pool.workers) pool.shared.1.world pool.shared.2
  successful : pool.shared.1.successful = UInt64.ofNat ((results pool.shared.2).countP isSuccess)
  suited : ∀ worker ∈ pool.workers, Suits workload worker
  called : (results pool.shared.2).length = earlier + calls workload pool.ended.length

theorem owedBy_start (settings : Settings) (workload : Workload) (ticket : UInt64) :
    owedBy strategy (.working ticket ((request? workload).map (Call.begin settings))) = 0 := by
  cases request? workload <;> rfl

theorem calls_succ {workload : Workload} {current : Option Call}
    (suited : current.isSome = (request? workload).isSome) (jobs : Nat) :
    calls workload (jobs + 1) = calls workload jobs + current.toList.length := by
  unfold calls
  rw [← suited]
  cases current <;> rfl

variable {elapsed : UInt64 → Double} {ticket : UInt64} {current : Option Call}
  {shared after : Shared}

/-- A timed call that goes on makes a step, and notes the exchange that it performs. -/
theorem advance_running {further : Option Call}
    (running : advance network elapsed ticket current shared = (.running further, after)) :
    ∃ call, current = some call ∧ further = some (call.step network .patient shared.world).1 ∧
      after = { shared with world := (call.step network .patient shared.world).2 } ∧
      note network current shared =
        (Call.performed network .patient (call, shared.world)).map .exchanged := by
  unfold advance at running
  split at running
  · cases running
  · cases running
  · cases running
  · rename_i call unanswered unfailed
    have unended : call.result? = none := by
      unfold Call.result?
      split
      · rename_i result
        cases result with
        | ok response => exact absurd rfl (unanswered response)
        | error failure => exact absurd rfl (unfailed failure)
      · rfl
    cases running
    exact ⟨call, rfl, rfl, rfl, by simp [note, unended]⟩

/-- A timed call that has ended owes nothing; it notes what it returns, of which it has the sample, and
what reports success is counted. -/
theorem advance_ended {sample : Option Double}
    (done : advance network elapsed ticket current shared = (.ended sample, after)) :
    (∀ other, owedBy other (.working ticket current) = 0) ∧
      ∃ returned : Option (Except Failure Response), returned.isSome = current.isSome ∧
        note network current shared = returned.toList.map .returned ∧
        sample = (Timed.mk ticket returned).sample? elapsed ∧
        after = { shared with
          successful := shared.successful + UInt64.ofNat (returned.toList.countP isSuccess) } := by
  unfold advance at done
  split at done
  · cases done
    exact ⟨fun _ => rfl, none, rfl, rfl, rfl, by simp⟩
  · rename_i response
    cases done
    refine ⟨fun _ => rfl, some (.ok response), rfl, rfl, rfl, ?_⟩
    cases success : response.status.isSuccess <;> simp [isSuccess, Except.toOption, success]
  · rename_i failure
    cases done
    exact ⟨fun _ => rfl, some (.error failure), rfl, rfl, rfl, by simp [isSuccess, Except.toOption]⟩
  · cases done

section

variable {workload : Workload} {earlier : Nat}
  {pool next : Pool (Shared × List Note) (Option Call) Double}
  {before later : List (Worker (Option Call) Double)} {worker : Worker (Option Call) Double}

/-- All workers suit the workload, when one of them is looked at. -/
theorem forall_suits_around : (∀ other ∈ before ++ worker :: later, Suits workload other) ↔
    Suits workload worker ∧ ∀ other ∈ before ++ later, Suits workload other := by
  simp only [List.forall_mem_append, List.forall_mem_cons, and_left_comm]

/-- What is true of an iteration, when one of its workers is looked at. -/
theorem Recorded.around (recorded : Recorded base strategy workload earlier pool)
    (workers : pool.workers = before ++ worker :: later) :
    Kept base strategy (fun other => owedBy other worker + owed (before ++ later) other)
        pool.shared.1.world pool.shared.2 ∧
      Suits workload worker ∧ ∀ other ∈ before ++ later, Suits workload other := by
  have kept := recorded.kept
  have suited := recorded.suited
  rw [workers, owed_around] at kept
  rw [workers, forall_suits_around] at suited
  exact ⟨kept, suited⟩

/-- A step of an iteration leaves the record in order. -/
theorem Recorded.step (probed : base.client.dispatcher.registry = .probe)
    (forced : base.client.dispatcher.toggles = forcing strategy) {settings : Settings}
    {jobs : UInt64} (stepped : Pool.Stepped
      ((job network settings workload elapsed).noting (note network)) jobs pool next)
    (recorded : Recorded base strategy workload earlier pool) :
    Recorded base strategy workload earlier next := by
  cases stepped with
  | begun workers below =>
    obtain ⟨kept, -, others⟩ := recorded.around workers
    refine ⟨?_, recorded.successful, forall_suits_around.mpr ⟨Option.isSome_map, others⟩,
      recorded.called⟩
    have paid : ∀ other, owedBy other (.working pool.next
        ((job network settings workload elapsed).noting (note network)).start) = 0 :=
      fun other => owedBy_start settings workload pool.next
    rw [owed_around]
    simp only [paid]
    exact kept
  | stopped workers beyond =>
    obtain ⟨kept, -, others⟩ := recorded.around workers
    refine ⟨?_, recorded.successful, others, recorded.called⟩
    simpa only [owedBy, Nat.zero_add] using kept
  | advanced workers running =>
    obtain ⟨kept, suits, others⟩ := recorded.around workers
    obtain ⟨moved, noted⟩ := Job.of_noting_advance running
    obtain ⟨call, rfl, rfl, world, performed⟩ := advance_running moved
    rw [performed] at noted
    refine ⟨?_, ?_, forall_suits_around.mpr ⟨suits, others⟩, ?_⟩
    · dsimp only
      rw [owed_around, world, noted]
      exact kept.step network probed forced _ call
    · dsimp only
      rw [world, noted, results_append_exchanged]
      exact recorded.successful
    · dsimp only
      rw [noted, results_append_exchanged]
      exact recorded.called
  | @ended before later ticket current sample shared workers done =>
    obtain ⟨kept, suits, others⟩ := recorded.around workers
    obtain ⟨moved, noted⟩ := Job.of_noting_advance done
    obtain ⟨paid, returned, called, told, -, counted⟩ := advance_ended moved
    have idle (other : Strategy) : owedBy other (sample.elim .claiming .storing) = 0 := by
      cases sample <;> rfl
    have suits' : Suits workload (sample.elim .claiming .storing) := by cases sample <;> trivial
    have length : returned.toList.length = current.toList.length := by
      rw [Option.length_toList, Option.length_toList, called]
    rw [told] at noted
    refine ⟨?_, ?_, forall_suits_around.mpr ⟨suits', others⟩, ?_⟩
    · simp only [paid, Nat.zero_add] at kept
      simp only [owed_around, idle, Nat.zero_add, counted, noted]
      exact kept.returned returned.toList
    · dsimp only
      rw [counted, noted, results_append_returned, List.countP_append, UInt64.ofNat_add,
        ← recorded.successful]
    · dsimp only
      rw [noted, results_append_returned, List.length_append, recorded.called, length,
        List.length_cons, calls_succ suits, Nat.add_assoc]
  | stored workers =>
    obtain ⟨kept, -, others⟩ := recorded.around workers
    refine ⟨?_, recorded.successful, forall_suits_around.mpr ⟨trivial, others⟩, recorded.called⟩
    rw [owed_around]
    exact kept

end

end Run

end Bench

end Courier
