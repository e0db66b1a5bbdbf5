import Courier.Proofs.Comparisons

/-! # Iterations of a run

The workers of an iteration share its exchanges by taking tickets. No schedule keeps them from coming
to an end, for every step of a worker leaves less to do. The samples that are stored or about to be
stored are those of the jobs that have ended, so when all workers have stopped none is lost and none
is there twice. Main statement: under every schedule an iteration performs one exchange for each
ticket, and keeps one sample for each exchange that has returned a response.
-/

namespace Courier.Bench

namespace Pool

variable {σ κ α : Type} {job : Job σ κ α} {jobs : UInt64}

/-- Steps of workers cannot go on for ever, whichever worker makes each of them. -/
theorem wellFounded_step (job : Job σ κ α) (jobs : UInt64) :
    WellFounded fun after before : Pool σ κ α =>
      ∃ k < before.workers.length, after = before.step job jobs k := by
  let measure (pool : Pool σ κ α) : Nat × Nat × Nat :=
    (pool.workers.length, jobs.toNat - pool.next.toNat, load job pool.workers)
  have ends := (Prod.lex Nat.lt_wfRel (Prod.lex Nat.lt_wfRel Nat.lt_wfRel)).wf
  refine Subrelation.wf ?_ (InvImage.wf measure ends)
  rintro after before ⟨k, live, rfl⟩
  exact step_decreases job jobs live

/-- When all workers have stopped, each has taken one ticket beyond the jobs. -/
theorem toNat_next_run (job : Job σ κ α) {crew : Nat} (manned : 0 < crew)
    (fits : jobs.toNat + crew < UInt64.size) (schedule : Nat → Nat) (shared : σ) :
    ((start crew shared).run job jobs schedule 0).next.toNat = jobs.toNat + crew := by
  let pool := (start crew shared).run job jobs schedule 0
  obtain ⟨ticketed, idle⟩ : Ticketed jobs crew pool ∧ pool.workers = [] :=
    run_induction (Ticketed.step fits) schedule 0 (ticketed_start shared)
  have next := ticketed.next
  have exhausted := ticketed.exhausted
  rw [idle, List.length_nil] at next exhausted
  have all := exhausted manned
  change pool.next.toNat = _
  omega

/-! ## Samples -/

/-- The sample that a worker is about to store. -/
def held? : Worker κ α → Option α
  | .storing sample => some sample
  | .claiming | .working _ _ => none

/-- The samples of the jobs that have ended are those that are stored or about to be. -/
def Delivered (pool : Pool σ κ α) : Prop :=
  (pool.workers.filterMap held? ++ pool.samples).Perm (pool.ended.filterMap (·.2))

theorem delivered_start (crew : Nat) (shared : σ) : Delivered (start crew shared : Pool σ κ α) := by
  simp [Delivered, start, List.filterMap_replicate, held?]

theorem Delivered.step {pool after : Pool σ κ α} (stepped : Stepped job jobs pool after)
    (delivered : Delivered pool) : Delivered after := by
  unfold Delivered at delivered ⊢
  cases stepped with
  | begun workers below =>
    rw [workers, filterMap_around] at delivered
    rw [filterMap_around]
    exact delivered
  | stopped workers beyond =>
    rw [workers, filterMap_around] at delivered
    rw [List.filterMap_append]
    exact delivered
  | advanced workers running =>
    rw [workers, filterMap_around] at delivered
    rw [filterMap_around]
    exact delivered
  | @ended before later ticket current sample shared workers done =>
    rw [workers, filterMap_around] at delivered
    rw [filterMap_around]
    cases sample with
    | none => exact delivered
    | some sample =>
      rw [List.append_assoc, List.append_assoc] at delivered ⊢
      exact List.perm_middle.trans (delivered.cons sample)
  | @stored before later sample workers =>
    rw [workers, filterMap_around, List.append_assoc, List.append_assoc] at delivered
    rw [filterMap_around, List.append_assoc, List.append_assoc]
    refine (List.Perm.append_left _ ?_).trans delivered
    exact List.perm_middle

/-- When all workers have stopped, the samples are those of the jobs that have ended. -/
theorem samples_perm_run (job : Job σ κ α) (jobs : UInt64) (crew : Nat) (schedule : Nat → Nat)
    (shared : σ) :
    let pool := (start crew shared).run job jobs schedule 0
    pool.samples.Perm (pool.ended.filterMap (·.2)) := by
  intro pool
  obtain ⟨delivered, idle⟩ : Delivered pool ∧ pool.workers = [] :=
    run_induction Delivered.step schedule 0 (delivered_start crew shared)
  rw [Delivered, idle] at delivered
  exact delivered

end Pool

namespace Run

open Note

/-! ## One iteration -/

theorem Timed.isSome_sample? (elapsed : UInt64 → Double) (timed : Timed) :
    (timed.sample? elapsed).isSome = (timed.returned.map isAnswer).getD false := by
  obtain ⟨ticket, returned⟩ := timed
  rcases returned with _ | (failure | response) <;> rfl

variable {network : Network} {workload : Workload} {elapsed : UInt64 → Double}
  {earlier : List (Except Failure Response)}

/-- What is true of an iteration, before which calls had returned these results: the jobs that have
ended are timed exchanges, and what has been returned since is what these returned. -/
structure Listed (workload : Workload) (elapsed : UInt64 → Double)
    (earlier : List (Except Failure Response))
    (pool : Pool (Shared × List Note) (Option Call) Double) : Prop where
  suited : ∀ worker ∈ pool.workers, Suits workload worker
  timed : ∃ all : List Timed,
    pool.ended.reverse = all.map (fun timed => (timed.ticket, timed.sample? elapsed)) ∧
    results pool.shared.2 = earlier ++ all.filterMap (·.returned) ∧
    ∀ timed ∈ all, timed.returned.isSome = (request? workload).isSome

section

variable {pool next : Pool (Shared × List Note) (Option Call) Double}
  {before later : List (Worker (Option Call) Double)} {worker : Worker (Option Call) Double}

/-- What suits the workload, when one of the workers is looked at. -/
theorem Listed.around (listed : Listed workload elapsed earlier pool)
    (workers : pool.workers = before ++ worker :: later) :
    Suits workload worker ∧ ∀ other ∈ before ++ later, Suits workload other :=
  forall_suits_around.mp (workers ▸ listed.suited)

theorem Listed.step {settings : Settings} {jobs : UInt64} (stepped : Pool.Stepped
      ((job network settings workload elapsed).noting (note network)) jobs pool next)
    (listed : Listed workload elapsed earlier pool) : Listed workload elapsed earlier next := by
  cases stepped with
  | begun workers below =>
    obtain ⟨-, others⟩ := listed.around workers
    exact ⟨forall_suits_around.mpr ⟨Option.isSome_map, others⟩, listed.timed⟩
  | stopped workers beyond =>
    obtain ⟨-, others⟩ := listed.around workers
    exact ⟨others, listed.timed⟩
  | advanced workers running =>
    obtain ⟨suits, others⟩ := listed.around workers
    obtain ⟨moved, noted⟩ := Job.of_noting_advance running
    obtain ⟨call, rfl, rfl, world, performed⟩ := advance_running moved
    refine ⟨forall_suits_around.mpr ⟨suits, others⟩, ?_⟩
    dsimp only
    rw [noted, performed, results_append_exchanged]
    exact listed.timed
  | @ended before later ticket current sample shared workers done =>
    obtain ⟨suits, others⟩ := listed.around workers
    obtain ⟨moved, noted⟩ := Job.of_noting_advance done
    obtain ⟨-, returned, called, told, rfl, -⟩ := advance_ended moved
    obtain ⟨all, ended, results, answered⟩ := listed.timed
    have idle : Suits workload (((Timed.mk ticket returned).sample? elapsed).elim .claiming
        .storing) := by
      cases (Timed.mk ticket returned).sample? elapsed <;> trivial
    refine ⟨forall_suits_around.mpr ⟨idle, others⟩, all ++ [⟨ticket, returned⟩], ?_, ?_, ?_⟩
    · rw [List.reverse_cons, ended, List.map_append, List.map_singleton]
    · dsimp only
      rw [noted, told, results_append_returned, results, List.filterMap_append, List.append_assoc]
      cases returned <;> rfl
    · rw [List.forall_mem_append, List.forall_mem_singleton]
      exact ⟨answered, called.trans suits⟩
  | stored workers =>
    obtain ⟨-, others⟩ := listed.around workers
    exact ⟨forall_suits_around.mpr ⟨trivial, others⟩, listed.timed⟩

end

/-- The workers of an iteration, with the notes of their calls, when all have stopped. -/
def crew (network : Network) (conditions : Conditions) (strategy : Strategy) (workload : Workload)
    (state : Tally × List Note) (iteration : Nat) :
    Pool (Shared × List Note) (Option Call) Double :=
  (Pool.start (workerCount strategy workload.concurrency).toNat (state.1.shared, state.2)).run
    ((job network state.1.shared.world.client.settings workload
      (conditions.exchange iteration)).noting (note network))
    workload.concurrency (conditions.pick iteration) 0

/-- What the workers of an iteration have done when it is over. -/
structure Exact (workload : Workload) (workers : Nat) (elapsed : UInt64 → Double)
    (earlier : List (Except Failure Response))
    (pool : Pool (Shared × List Note) (Option Call) Double) : Prop where
  /-- All have stopped. -/
  idle : pool.workers = []
  /-- They took the tickets of all exchanges, each once and in order. -/
  issued : pool.issued.reverse.map UInt64.toNat = List.range workload.concurrency.toNat
  /-- Each took one more when it stopped. -/
  next : pool.next.toNat = workload.concurrency.toNat + workers
  /-- They performed a timed exchange for each ticket, and kept the sample of each that returned a
  response. The exchanges are listed here as they ended. -/
  timed : ∃ all : List Timed,
    pool.ended.reverse = all.map (fun timed => (timed.ticket, timed.sample? elapsed)) ∧
    results pool.shared.2 = earlier ++ all.filterMap (·.returned) ∧
    (∀ timed ∈ all, timed.returned.isSome = (request? workload).isSome) ∧
    (all.map (·.ticket)).Perm pool.issued ∧
    pool.samples.Perm (all.filterMap (·.sample? elapsed))

section

variable {workers : Nat} {pool : Pool (Shared × List Note) (Option Call) Double}

/-- There is a call for each exchange where the text of the workload is a URL, and none where it is
not. -/
theorem Exact.length_results (exact : Exact workload workers elapsed earlier pool) :
    (results pool.shared.2).length =
      earlier.length + calls workload workload.concurrency.toNat := by
  obtain ⟨all, -, returned, called, tickets, -⟩ := exact.timed
  have many : all.length = workload.concurrency.toNat := by
    have issued := congrArg List.length exact.issued
    have performed := tickets.length_eq
    rw [List.length_map, List.length_reverse, List.length_range] at issued
    rw [List.length_map] at performed
    rw [performed, issued]
  rw [returned, List.length_append, calls, ← many]
  split
  · rename_i present
    rw [List.filterMap_length_eq_length.mpr fun timed member => (called timed member).trans present]
  · rename_i absent
    have nothing : all.filterMap (·.returned) = [] := by
      rw [List.filterMap_eq_nil_iff]
      intro timed member
      rw [← Option.not_isSome_iff_eq_none, called timed member]
      exact absent
    rw [nothing, List.length_nil]

/-- There is a sample for each response. -/
theorem Exact.length_samples (exact : Exact workload workers elapsed earlier pool) :
    (results pool.shared.2).countP isAnswer = earlier.countP isAnswer + pool.samples.length := by
  obtain ⟨all, -, returned, -, -, samples⟩ := exact.timed
  rw [returned, List.countP_append, samples.length_eq, List.countP_filterMap,
    List.length_filterMap_eq_countP]
  simp only [Timed.isSome_sample?]

end

section

variable (network : Network) (conditions : Conditions) {strategy : Strategy} {workload : Workload}

theorem exact_crew (roomy : workload.concurrency.toNat +
      (workerCount strategy workload.concurrency).toNat < UInt64.size)
    (state : Tally × List Note) (iteration : Nat) :
    Exact workload (workerCount strategy workload.concurrency).toNat
      (conditions.exchange iteration) (results state.2)
      (crew network conditions strategy workload state iteration) := by
  let pool := crew network conditions strategy workload state iteration
  let plain := job network state.1.shared.world.client.settings workload
    (conditions.exchange iteration)
  let workers := (workerCount strategy workload.concurrency).toNat
  obtain ⟨issued, assigned⟩ := Pool.run_tickets (plain.noting (note network))
    (workerCount_bounds strategy workload.concurrency).1 roomy (conditions.pick iteration)
    (state.1.shared, state.2)
  have next : pool.next.toNat = workload.concurrency.toNat + workers :=
    Pool.toNat_next_run _ (workerCount_bounds strategy workload.concurrency).1 roomy _ _
  have stored : pool.samples.Perm (pool.ended.filterMap (·.2)) := Pool.samples_perm_run ..
  have begins : Listed workload (conditions.exchange iteration) (results state.2)
      (Pool.start workers (state.1.shared, state.2)) := by
    refine ⟨?_, [], rfl, (List.append_nil _).symm, List.forall_mem_nil _⟩
    intro worker member
    rw [List.eq_of_mem_replicate member]
    trivial
  obtain ⟨⟨-, all, ended, returned, called⟩, idle⟩ :
      Listed workload (conditions.exchange iteration) (results state.2) pool ∧ pool.workers = [] :=
    Pool.run_induction Listed.step (conditions.pick iteration) 0 begins
  refine ⟨idle, issued, next, all, ended, returned, called, ?_, ?_⟩
  · have tickets : (pool.ended.map (·.1)).reverse = all.map (·.ticket) := by
      rw [← List.map_reverse, ended, List.map_map]
      rfl
    rw [← tickets]
    exact (List.reverse_perm _).trans assigned
  · have samples : (pool.ended.filterMap (·.2)).reverse =
        all.filterMap (·.sample? (conditions.exchange iteration)) := by
      rw [← List.filterMap_reverse, ended, List.filterMap_map]
      rfl
    rw [← samples]
    exact stored.trans (List.reverse_perm _).symm

/-! ## All iterations -/

/-- Iterations have a call for each of their exchanges and a sample for each response, whatever they
begin with. -/
theorem counted_iterateFromNoting (roomy : workload.concurrency.toNat +
      (workerCount strategy workload.concurrency).toNat < UInt64.size)
    (first count : Nat) (state : Tally × List Note) :
    let after := iterateFromNoting network conditions strategy workload first count state
    (results after.2).length = (results state.2).length +
      calls workload (count * workload.concurrency.toNat) ∧
    (results after.2).countP isAnswer + state.1.samples.length =
      (results state.2).countP isAnswer + after.1.samples.length := by
  induction count generalizing first state with
  | zero =>
    rw [Nat.zero_mul, iterateFromNoting]
    unfold calls
    simp
  | succ count ih =>
    have exact := exact_crew network conditions roomy state first
    have called := exact.length_results
    have answered := exact.length_samples
    obtain ⟨calledLater, answeredLater⟩ := ih (first + 1)
      (iterateNoting network conditions strategy workload state first)
    have samples : (iterateNoting network conditions strategy workload state first).1.samples =
      (crew network conditions strategy workload state first).samples ++ state.1.samples := rfl
    have noted : (iterateNoting network conditions strategy workload state first).2 =
      (crew network conditions strategy workload state first).shared.2 := rfl
    rw [iterateFromNoting, Nat.succ_mul, calls_add]
    rw [noted, called] at calledLater
    rw [noted, answered, samples, List.length_append] at answeredLater
    constructor
    · omega
    · omega

/-- What the iterations of a workload come to, as long as the counter of tickets does not come around.
Under every schedule the steps of the workers come to an end; then all workers have stopped, each
ticket was taken once, there was one timed exchange for each of them, and there is one sample for each
that returned a response. An iteration leaves the samples of its workers with those before it. So the
iterations of a run, however many, have a call for each exchange and a sample for each response of a
call. A run gives a result where there is room for its samples; the latencies in the result are those
of the samples of these iterations, and the run leaves the world as they leave it, but for the
switches, which it sets back. -/
theorem iterations_exact (roomy : workload.concurrency.toNat +
      (workerCount strategy workload.concurrency).toNat < UInt64.size) :
    (∀ (state : Tally × List Note) (iteration : Nat),
      WellFounded (fun after before : Pool Shared (Option Call) Double =>
        ∃ k < before.workers.length, after = before.step
          (job network state.1.shared.world.client.settings workload (conditions.exchange iteration))
          workload.concurrency k) ∧
      Exact workload (workerCount strategy workload.concurrency).toNat
        (conditions.exchange iteration) (results state.2)
        (crew network conditions strategy workload state iteration) ∧
      iterate network conditions strategy workload state.1 iteration =
        ⟨(crew network conditions strategy workload state iteration).shared.1,
          (crew network conditions strategy workload state iteration).samples ++
            state.1.samples⟩) ∧
    ∀ world : World,
      let notes := record network conditions strategy workload world
      let tally := iterateFrom network conditions strategy workload 0 workload.iterations.toNat
        (opening strategy world)
      (results notes).length =
        calls workload (workload.iterations.toNat * workload.concurrency.toNat) ∧
      tally.samples.length = (results notes).countP isAnswer ∧
      (workload.fits = true → ∃ result after,
        Bench.run network conditions strategy workload world = (some result, after)) ∧
      ∀ result after, Bench.run network conditions strategy workload world = (some result, after) →
        result.latency = .ofSamples tally.samples ∧
        after = setToggles tally.shared.world world.client.dispatcher.toggles := by
  refine ⟨fun state iteration => ⟨Pool.wellFounded_step _ _,
    exact_crew network conditions roomy state iteration, ?_⟩, ?_⟩
  · rw [← fst_iterateNoting]
    rfl
  · intro world notes tally
    obtain ⟨called, answered⟩ := counted_iterateFromNoting network conditions roomy 0
      workload.iterations.toNat (opening strategy world, [])
    rw [fst_iterateFromNoting] at answered
    refine ⟨called.trans (Nat.zero_add _), (Nat.zero_add _).symm.trans answered.symm, ?_, ?_⟩
    · intro fits
      exact ⟨_, _, run_of_fits network conditions strategy workload world fits⟩
    · intro result after ran
      cases fits : workload.fits with
      | false =>
        rw [run_of_not_fits _ _ _ _ _ fits] at ran
        cases ran
      | true =>
        rw [run_of_fits _ _ _ _ _ fits] at ran
        cases ran
        exact ⟨rfl, rfl⟩

end

/-! ### Two exchanges by turns -/

/-- A workload of two exchanges at once. -/
def pair : Workload := ⟨"http://a/", 1, 2, .ofSeconds 30⟩

/-- Workers that make their steps by turns, and exchanges that take no time. -/
def turning : Conditions := ⟨fun _ turn => turn, fun _ _ => .zero, .zero⟩

/-- Where only the first request is answered, two calls have returned and there is one sample. -/
theorem iterations_exact_turning :
    pair.concurrency.toNat + (workerCount .pooled pair.concurrency).toNat < UInt64.size ∧
      (crew Crowd.answeringOnce turning .pooled pair
        (opening .pooled wanting, []) 0).issued.reverse.map UInt64.toNat = [0, 1] ∧
      (results (record Crowd.answeringOnce turning .pooled pair wanting)).length = 2 ∧
      (iterateFrom Crowd.answeringOnce turning .pooled pair 0 1
        (opening .pooled wanting)).samples.length = 1 := by
  have roomy : pair.concurrency.toNat + (workerCount .pooled pair.concurrency).toNat <
      UInt64.size := by decide
  obtain ⟨each, all⟩ := iterations_exact Crowd.answeringOnce turning roomy
  obtain ⟨-, exact, -⟩ := each (opening .pooled wanting, []) 0
  obtain ⟨called, answered, -⟩ := all wanting
  have asked : calls pair (pair.iterations.toNat * pair.concurrency.toNat) = 2 := by cbv
  have answers : (results (record Crowd.answeringOnce turning .pooled pair wanting)).countP
      isAnswer = 1 := by
    cbv
  exact ⟨roomy, exact.issued, called.trans asked, answered.trans answers⟩

end Run

end Courier.Bench
