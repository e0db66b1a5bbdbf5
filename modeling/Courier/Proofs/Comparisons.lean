import Courier.Proofs.RunRecords

/-! # Comparing strategies

A comparison performs a workload by one strategy after another and reports each run. Main statement:
where memory can hold the samples, every run comes to its end, its responses are counted for its
strategy alone, its report agrees with what its calls returned, and the switches are as it found them;
so a comparison reports every strategy, in order. Where memory cannot, the first run breaks off before
its first exchange, nothing is reported, and the switches stay as this run has set them.
-/

namespace Courier.Bench

open Note

/-! ## The size of a workload -/

/-- There is at least one worker, and not many more than exchanges. -/
theorem workerCount_bounds (strategy : Strategy) (concurrency : UInt64) :
    0 < (workerCount strategy concurrency).toNat ∧
      (workerCount strategy concurrency).toNat ≤ concurrency.toNat + 16 := by
  have sixteen : maxWorkers.toNat = 16 := rfl
  have one : (1 : UInt64).toNat = 1 := rfl
  unfold workerCount
  cases strategy <;> simp only [UInt64.toNat_max, UInt64.toNat_min] <;> omega

/-- A count of exchanges that fits its word is exact. -/
theorem toNat_total {workload : Workload}
    (bounded : workload.iterations.toNat * workload.concurrency.toNat < UInt64.size) :
    workload.total.toNat = workload.iterations.toNat * workload.concurrency.toNat := by
  rw [Workload.total, UInt64.toNat_mul]
  exact Nat.mod_eq_of_lt bounded

theorem fits_iff {workload : Workload}
    (bounded : workload.iterations.toNat * workload.concurrency.toNat < UInt64.size) :
    workload.fits = true ↔ workload.iterations.toNat * workload.concurrency.toNat < 2 ^ 60 := by
  rw [← toNat_total bounded]
  exact decide_eq_true_iff

/-- Where memory can hold the samples of an iteration, its counter of tickets does not come around. -/
theorem roomy_of_fits {workload : Workload}
    (bounded : workload.iterations.toNat * workload.concurrency.toNat < UInt64.size)
    (fits : workload.fits = true) (busy : workload.iterations.toNat ≠ 0) (strategy : Strategy) :
    workload.concurrency.toNat + (workerCount strategy workload.concurrency).toNat <
      UInt64.size := by
  have small : workload.total.toNat < Workload.sampleLimit := of_decide_eq_true fits
  have least : workload.concurrency.toNat ≤ workload.total.toNat := by
    rw [toNat_total bounded]
    exact Nat.le_mul_of_pos_left _ (Nat.pos_of_ne_zero busy)
  have workers := (workerCount_bounds strategy workload.concurrency).2
  have size : Workload.sampleLimit + Workload.sampleLimit + 16 < UInt64.size := by decide
  omega

/-! ## Iterations -/

namespace Run

/-- What is true between two iterations, when workers have done so many jobs. -/
structure Logged (base : World) (strategy : Strategy) (workload : Workload) (jobs : Nat)
    (state : Tally × List Note) : Prop where
  kept : Kept base strategy (fun _ => 0) state.1.shared.world state.2
  successful : state.1.shared.successful = UInt64.ofNat ((results state.2).countP isSuccess)
  called : (results state.2).length = calls workload jobs

theorem calls_add (workload : Workload) (first second : Nat) :
    calls workload (first + second) = calls workload first + calls workload second := by
  unfold calls
  split <;> rfl

theorem calls_le (workload : Workload) (jobs : Nat) : calls workload jobs ≤ jobs := by
  unfold calls
  split
  · exact Nat.le_refl jobs
  · exact Nat.zero_le jobs

theorem owed_replicate (crew : Nat) : owed (List.replicate crew .claiming) = fun _ => 0 := by
  funext strategy
  rw [owed, List.map_replicate, List.sum_replicate]
  exact Nat.mul_zero crew

variable {strategy : Strategy} {workload : Workload} {base : World}

/-- An iteration does a job for each of its exchanges. -/
theorem Logged.iterate (probed : base.client.dispatcher.registry = .probe)
    (forced : base.client.dispatcher.toggles = forcing strategy)
    (roomy : workload.concurrency.toNat + (workerCount strategy workload.concurrency).toNat <
      UInt64.size) {jobs : Nat} {state : Tally × List Note}
    (logged : Logged base strategy workload jobs state) (network : Network)
    (conditions : Conditions) (iteration : Nat) :
    Logged base strategy workload (jobs + workload.concurrency.toNat)
      (iterateNoting network conditions strategy workload state iteration) := by
  let plain := job network state.1.shared.world.client.settings workload
    (conditions.exchange iteration)
  let workers := (workerCount strategy workload.concurrency).toNat
  let start : Pool (Shared × List Note) (Option Call) Double :=
    .start workers (state.1.shared, state.2)
  let pool := start.run (plain.noting (note network)) workload.concurrency
    (conditions.pick iteration) 0
  have begins : Recorded base strategy workload (calls workload jobs) start := by
    refine ⟨?_, logged.successful, ?_, ?_⟩
    · have nothing : owed start.workers = fun _ => 0 := owed_replicate workers
      rw [nothing]
      exact logged.kept
    · intro worker member
      rw [List.eq_of_mem_replicate member]
      trivial
    · exact logged.called.trans (calls_add workload jobs 0)
  obtain ⟨ends, idle⟩ : Recorded base strategy workload (calls workload jobs) pool ∧
      pool.workers = [] :=
    Pool.run_induction (Recorded.step probed forced) (conditions.pick iteration) 0 begins
  have done : pool.ended.length = workload.concurrency.toNat :=
    Pool.length_ended_run _ (workerCount_bounds strategy workload.concurrency).1 roomy _ _
  have called := ends.called
  have kept := ends.kept
  rw [done, ← calls_add] at called
  rw [idle] at kept
  exact ⟨kept, ends.successful, called⟩

/-- Iterations do a job for each of their exchanges. -/
theorem Logged.iterateFrom (probed : base.client.dispatcher.registry = .probe)
    (forced : base.client.dispatcher.toggles = forcing strategy)
    (roomy : workload.concurrency.toNat + (workerCount strategy workload.concurrency).toNat <
      UInt64.size) {jobs : Nat} {state : Tally × List Note}
    (logged : Logged base strategy workload jobs state) (network : Network)
    (conditions : Conditions) (first count : Nat) :
    Logged base strategy workload (jobs + count * workload.concurrency.toNat)
      (iterateFromNoting network conditions strategy workload first count state) := by
  induction count generalizing jobs state first with
  | zero =>
    rw [Nat.zero_mul]
    exact logged
  | succ count ih =>
    have later := ih (logged.iterate probed forced roomy network conditions first) (first + 1)
    rw [Nat.succ_mul, Nat.add_comm (count * _), ← Nat.add_assoc]
    exact later

theorem logged_opening (strategy : Strategy) (workload : Workload) (world : World) :
    Logged (setToggles world (forcing strategy)) strategy workload 0
      (opening strategy world, []) := by
  refine ⟨⟨⟨rfl, rfl, rfl⟩, (List.append_nil _).symm, List.forall_mem_nil _, [], rfl, ?_⟩, rfl, ?_⟩
  · exact fun other => rfl
  · unfold calls
    split <;> rfl

/-- A run for whose samples there is room does a job for each of its exchanges. -/
theorem logged_record {world : World} (probed : world.client.dispatcher.registry = .probe)
    (bounded : workload.iterations.toNat * workload.concurrency.toNat < UInt64.size)
    (fits : workload.fits = true) (network : Network) (conditions : Conditions) :
    Logged (setToggles world (forcing strategy)) strategy workload workload.total.toNat
      (iterateFromNoting network conditions strategy workload 0 workload.iterations.toNat
        (opening strategy world, [])) := by
  have opened := logged_opening strategy workload world
  rw [toNat_total bounded]
  by_cases idle : workload.iterations.toNat = 0
  · rw [idle, Nat.zero_mul]
    exact opened
  · have probed' : (setToggles world (forcing strategy)).client.dispatcher.registry = .probe := probed
    have done := opened.iterateFrom probed' rfl (roomy_of_fits bounded fits idle strategy) network
      conditions 0 workload.iterations.toNat
    rwa [Nat.zero_add] at done

end Run

/-- Where all responses are the work of one strategy, none is that of another. -/
theorem countP_of_strategy {responses : List Response} {strategy : Strategy}
    (all : ∀ response ∈ responses, response.strategy = strategy) (other : Strategy) :
    responses.countP (·.strategy = other) = if other = strategy then responses.length else 0 := by
  split
  · rename_i own
    apply List.countP_eq_length.mpr
    intro response member
    rw [own, all response member, decide_eq_true_eq]
  · rename_i apart
    apply List.countP_eq_zero.mpr
    intro response member
    rw [all response member, decide_eq_true_eq]
    exact Ne.symm apart

/-! ## One run -/

/-- What a run of a strategy that comes to its end leaves behind, and how its report agrees with what
its calls note. -/
structure Reported (network : Network) (conditions : Conditions) (strategy : Strategy)
    (workload : Workload) (before : World) (result : Result) (after : World) : Prop where
  named : result.strategy = strategy.name
  toggles : after.client.dispatcher.toggles = before.client.dispatcher.toggles
  registry : after.client.dispatcher.registry = before.client.dispatcher.registry
  /-- All that arrived was sent by the exchanges of the record. -/
  arrived : after.log = before.log ++
    (exchanges (Run.record network conditions strategy workload before)).filterMap (·.outcome.sent)
  strategies : ∀ response ∈ responses (Run.record network conditions strategy workload before),
    response.strategy = strategy
  /-- All that was counted in the run, all together, counts each response once, for its strategy. -/
  counted : ∃ increments, after.client.stats = before.client.stats.addAll increments ∧
    ∀ other, Increment.tally (.served other) increments = if other = strategy then
      (responses (Run.record network conditions strategy workload before)).length else 0
  total : result.total.toNat = workload.iterations.toNat * workload.concurrency.toNat
  called : (results (Run.record network conditions strategy workload before)).length =
    Run.calls workload result.total.toNat
  successful : result.successful.toNat =
    (results (Run.record network conditions strategy workload before)).countP isSuccess
  successful_le : result.successful.toNat ≤
    (results (Run.record network conditions strategy workload before)).countP isAnswer
  answered_le : (results (Run.record network conditions strategy workload before)).countP isAnswer ≤
    result.total.toNat

section

variable (network : Network) (conditions : Conditions) (strategy : Strategy) (workload : Workload)
  (world : World)

/-- A run for whose samples there is room reports what its iterations come to, and leaves the world as
they leave it but for the switches. -/
theorem run_of_fits (fits : workload.fits = true) :
    let tally := Run.iterateFrom network conditions strategy workload 0 workload.iterations.toNat
      (Run.opening strategy world)
    run network conditions strategy workload world =
      (some ⟨strategy.name, conditions.run, tally.shared.successful, workload.total,
          .ofSamples tally.samples, Result.rate tally.shared.successful conditions.run⟩,
        setToggles tally.shared.world world.client.dispatcher.toggles) :=
  if_pos fits

/-- A run for whose samples there is room comes to its end. -/
theorem exists_reported (probed : world.client.dispatcher.registry = .probe)
    (bounded : workload.iterations.toNat * workload.concurrency.toNat < UInt64.size)
    (fits : workload.fits = true) :
    ∃ result after, run network conditions strategy workload world = (some result, after) ∧
      Reported network conditions strategy workload world result after := by
  let state := Run.iterateFromNoting network conditions strategy workload 0
    workload.iterations.toNat (Run.opening strategy world, [])
  obtain ⟨⟨alike, arrived, strategies, increments, stats, counted⟩, successful, called⟩ :
      Run.Logged (setToggles world (forcing strategy)) strategy workload workload.total.toNat state :=
    Run.logged_record probed bounded fits network conditions
  have few : (results state.2).length ≤ workload.total.toNat := called ▸ Run.calls_le ..
  have agrees : state.1.shared.successful.toNat = (results state.2).countP isSuccess := by
    rw [successful]
    exact UInt64.toNat_ofNat_of_lt'
      ((List.countP_le_length.trans few).trans_lt workload.total.toNat_lt_size)
  have same : state.1 = Run.iterateFrom network conditions strategy workload 0
      workload.iterations.toNat (Run.opening strategy world) :=
    Run.fst_iterateFromNoting ..
  refine ⟨⟨strategy.name, conditions.run, state.1.shared.successful, workload.total,
    .ofSamples state.1.samples, Result.rate state.1.shared.successful conditions.run⟩,
    setToggles state.1.shared.world world.client.dispatcher.toggles, ?_, rfl, rfl,
    alike.registry, arrived, strategies, ⟨increments, stats, fun other => ?_⟩, toNat_total bounded,
    called, agrees, agrees.trans_le (countP_isSuccess_le _), List.countP_le_length.trans few⟩
  · rw [same]
    exact run_of_fits network conditions strategy workload world fits
  · have shown := counted other
    rwa [Nat.add_zero, countP_of_strategy strategies] at shown

/-- A run for whose samples there is no room breaks off. -/
theorem run_of_not_fits (lacks : workload.fits = false) :
    run network conditions strategy workload world = (none, setToggles world (forcing strategy)) := by
  unfold run
  rw [lacks]
  exact if_neg Bool.false_ne_true

end

/-! ## Runs one after the other -/

/-- Runs of strategies in order, each in the world that the one before it leaves, with their
reports. -/
inductive Runs (network : Network) (conditions : Strategy → Conditions) (workload : Workload) :
    List Strategy → World → List Result → World → Prop
  | nil (world : World) : Runs network conditions workload [] world [] world
  | cons {strategy : Strategy} {rest : List Strategy} {before between after : World}
      {result : Result} {results : List Result}
      (reported : Reported network (conditions strategy) strategy workload before result between)
      (later : Runs network conditions workload rest between results after) :
      Runs network conditions workload (strategy :: rest) before (result :: results) after

namespace Runs

variable {network : Network} {conditions : Strategy → Conditions} {workload : Workload}
  {strategies : List Strategy} {before after : World} {results : List Result}

/-- Runs leave the switches as the first of them finds them. -/
theorem toggles (runs : Runs network conditions workload strategies before results after) :
    after.client.dispatcher.toggles = before.client.dispatcher.toggles := by
  induction runs with
  | nil world => rfl
  | cons reported later ih => exact ih.trans reported.toggles

/-- Every run is reported, in order. -/
theorem names (runs : Runs network conditions workload strategies before results after) :
    results.map (·.strategy) = strategies.map Strategy.name := by
  induction runs with
  | nil world => rfl
  | cons reported later ih => rw [List.map_cons, List.map_cons, reported.named, ih]

end Runs

section

variable (network : Network) (conditions : Strategy → Conditions) (workload : Workload)

theorem exists_runs (bounded : workload.iterations.toNat * workload.concurrency.toNat < UInt64.size)
    (fits : workload.fits = true) (strategies : List Strategy) {world : World}
    (probed : world.client.dispatcher.registry = .probe) :
    ∃ results after, runAll network conditions workload strategies world = (some results, after) ∧
      Runs network conditions workload strategies world results after := by
  induction strategies generalizing world with
  | nil => exact ⟨[], world, rfl, .nil world⟩
  | cons strategy rest ih =>
    obtain ⟨result, between, ran, reported⟩ :=
      exists_reported network (conditions strategy) strategy workload world probed bounded fits
    obtain ⟨results, after, others, later⟩ := ih (reported.registry.trans probed)
    refine ⟨result :: results, after, ?_, .cons reported later⟩
    rw [runAll, ran]
    dsimp only
    rw [others]
    rfl

/-- Every strategy can be had from this library. -/
theorem compare_of_probe {world : World} (probed : world.client.dispatcher.registry = .probe) :
    compare network conditions workload world =
      runAll network conditions workload Strategy.all world := by
  rw [compare, probed]
  rfl

/-- A comparison for whose samples there is no room breaks off in its first run. -/
theorem compare_of_not_fits {world : World} (probed : world.client.dispatcher.registry = .probe)
    (lacks : workload.fits = false) :
    compare network conditions workload world = (none, setToggles world (forcing .blocking)) := by
  rw [compare_of_probe network conditions workload probed, Strategy.all, runAll,
    run_of_not_fits _ _ _ _ _ lacks]

/-- When strategies are compared as they should be. For a client to which every strategy is available,
and whatever the text of the URL, the network and the order of the workers' steps: exactly when memory
can hold the samples, a run comes to its end and leaves the switches as it found them, its responses
counted for its strategy alone and its report in agreement with what its calls returned; a comparison
then reports a run of each strategy, in ascending order, and leaves the switches as it found them. -/
theorem compared_iff (world : World) (probed : world.client.dispatcher.registry = .probe)
    (bounded : workload.iterations.toNat * workload.concurrency.toNat < UInt64.size) :
    (∀ strategy, (∃ result after,
        run network (conditions strategy) strategy workload world = (some result, after) ∧
        Reported network (conditions strategy) strategy workload world result after) ↔
      workload.iterations.toNat * workload.concurrency.toNat < 2 ^ 60) ∧
    ((∃ reports after, compare network conditions workload world = (some reports, after) ∧
        Runs network conditions workload Strategy.all world reports after ∧
        reports.map (·.strategy) = ["blocking", "pooled", "task"] ∧
        after.client.dispatcher.toggles = world.client.dispatcher.toggles) ↔
      workload.iterations.toNat * workload.concurrency.toNat < 2 ^ 60) := by
  rw [← fits_iff bounded]
  refine ⟨fun strategy => ⟨?_, ?_⟩, ?_, ?_⟩
  · rintro ⟨result, after, ran, -⟩
    by_contra lacks
    rw [run_of_not_fits _ _ _ _ _ (Bool.eq_false_iff.mpr lacks)] at ran
    cases ran
  · exact exists_reported network (conditions strategy) strategy workload world probed bounded
  · rintro ⟨reports, after, compared, -⟩
    by_contra lacks
    rw [compare_of_not_fits network conditions workload probed (Bool.eq_false_iff.mpr lacks)]
      at compared
    cases compared
  · intro fits
    obtain ⟨reports, after, compared, runs⟩ :=
      exists_runs network conditions workload bounded fits Strategy.all probed
    rw [← compare_of_probe network conditions workload probed] at compared
    exact ⟨reports, after, compared, runs, runs.names, runs.toggles⟩

end

/-- A client whose user wants tasks. -/
def wanting : World := ⟨.new .standard .probe ⟨true, false⟩, []⟩

/-- Where no host can be reached, a workload of the standard size is still compared as it should be,
and the client goes on to want tasks. -/
theorem compared_iff_isolated :
    wanting.client.dispatcher.registry = .probe ∧
      (Workload.standard "http://a/").iterations.toNat *
        (Workload.standard "http://a/").concurrency.toNat < UInt64.size ∧
      ∃ reports after, compare .isolated (fun _ => .steady .zero .zero) (.standard "http://a/")
          wanting = (some reports, after) ∧
        Runs .isolated (fun _ => .steady .zero .zero) (.standard "http://a/") Strategy.all wanting
          reports after ∧
        reports.map (·.strategy) = ["blocking", "pooled", "task"] ∧
        after.client.dispatcher.toggles = ⟨true, false⟩ := by
  have probed : wanting.client.dispatcher.registry = .probe := rfl
  have bounded : (Workload.standard "http://a/").iterations.toNat *
      (Workload.standard "http://a/").concurrency.toNat < UInt64.size := by decide
  refine ⟨probed, bounded, ?_⟩
  exact (compared_iff .isolated (fun _ => .steady .zero .zero) (.standard "http://a/") wanting probed
    bounded).2.mpr (by decide)

/-! ## A comparison that breaks off -/

/-- A workload of one iteration with more exchanges at once than memory can hold samples. -/
def crowded : Workload := ⟨"nowhere", 1, 0x1000000000000000, .ofSeconds 30⟩

/-- A comparison that breaks off reports nothing, and the client no longer wants tasks. -/
theorem comparison_breaks_off :
    wanting.client.dispatcher.registry = .probe ∧
      crowded.iterations.toNat * crowded.concurrency.toNat < UInt64.size ∧
      (compare .isolated (fun _ => .steady .zero .zero) crowded wanting).1 = none ∧
      (compare .isolated (fun _ => .steady .zero .zero) crowded
        wanting).2.client.dispatcher.toggles ≠ wanting.client.dispatcher.toggles := by
  have probed : wanting.client.dispatcher.registry = .probe := rfl
  have lacks : crowded.fits = false := by decide
  have breaks := compare_of_not_fits .isolated (fun _ => .steady .zero .zero) crowded probed lacks
  refine ⟨probed, by decide, ?_, ?_⟩
  · rw [breaks]
  · rw [breaks]
    decide

end Courier.Bench
