import Courier.Bench.Pool
import Mathlib.Data.List.Basic

/-! # What a pool of workers does

A step of a pool is one of five things that a worker may do, and a run is such steps until no worker
is left, so what each of the five keeps holds of a run. Main statement: if the counter of tickets does
not come around, a run takes every ticket that there is, once and in order, and ends a job for each.
A job may note what it does; its notes change nothing about the run.
-/

namespace Courier.Bench

namespace Pool

variable {σ κ α : Type} {job : Job σ κ α} {jobs : UInt64}

/-- What a step of a worker comes to. -/
inductive Stepped (job : Job σ κ α) (jobs : UInt64) (pool : Pool σ κ α) : Pool σ κ α → Prop
  /-- A worker takes a ticket and begins the job for it. -/
  | begun {before after : List (Worker κ α)} (workers : pool.workers = before ++ .claiming :: after)
      (below : pool.next < jobs) :
      Stepped job jobs pool { pool with
        workers := before ++ .working pool.next job.start :: after
        next := pool.next + 1, issued := pool.next :: pool.issued }
  /-- A worker takes a ticket that is beyond the jobs. -/
  | stopped {before after : List (Worker κ α)}
      (workers : pool.workers = before ++ .claiming :: after) (beyond : ¬ pool.next < jobs) :
      Stepped job jobs pool { pool with workers := before ++ after, next := pool.next + 1 }
  | advanced {before after : List (Worker κ α)} {ticket : UInt64} {current further : κ} {shared : σ}
      (workers : pool.workers = before ++ .working ticket current :: after)
      (running : job.advance ticket current pool.shared = (.running further, shared)) :
      Stepped job jobs pool { pool with
        workers := before ++ .working ticket further :: after, shared }
  | ended {before after : List (Worker κ α)} {ticket : UInt64} {current : κ} {sample : Option α}
      {shared : σ} (workers : pool.workers = before ++ .working ticket current :: after)
      (done : job.advance ticket current pool.shared = (.ended sample, shared)) :
      Stepped job jobs pool { pool with
        workers := before ++ sample.elim .claiming .storing :: after
        ended := (ticket, sample) :: pool.ended, shared }
  | stored {before after : List (Worker κ α)} {sample : α}
      (workers : pool.workers = before ++ .storing sample :: after) :
      Stepped job jobs pool { pool with
        workers := before ++ .claiming :: after, samples := sample :: pool.samples }

/-- A list around one of its places, where the member may be replaced or taken out. -/
private theorem exists_around {β : Type} {members : List β} {k : Nat} {member : β}
    (found : members[k]? = some member) :
    ∃ before after, members = before ++ member :: after ∧
      (∀ other, members.set k other = before ++ other :: after) ∧
      members.eraseIdx k = before ++ after := by
  obtain ⟨bound, same⟩ := List.getElem?_eq_some_iff.mp found
  refine ⟨members.take k, members.drop (k + 1), ?_, fun other => ?_, ?_⟩
  · rw [← same, ← List.drop_eq_getElem_cons bound, List.take_append_drop]
  · exact List.set_eq_take_append_cons_drop.trans (if_pos bound)
  · exact List.eraseIdx_eq_take_drop_succ members k

theorem stepped_step (job : Job σ κ α) (jobs : UInt64) {pool : Pool σ κ α} {k : Nat}
    (live : k < pool.workers.length) : Stepped job jobs pool (pool.step job jobs k) := by
  have found : pool.workers[k]? = some pool.workers[k] := List.getElem?_eq_getElem live
  obtain ⟨before, after, workers, replaced, erased⟩ := exists_around found
  unfold step
  rw [found]
  cases worker : pool.workers[k] with
  | claiming =>
    rw [worker] at workers
    dsimp only [move]
    split
    · rename_i below
      rw [replaced]
      exact .begun workers below
    · rename_i beyond
      rw [erased]
      exact .stopped workers beyond
  | working ticket current =>
    rw [worker] at workers
    dsimp only [move]
    split
    · rename_i further shared running
      rw [replaced]
      exact .advanced workers running
    · rename_i sample shared done
      rw [replaced]
      cases sample with
      | none => exact .ended workers done
      | some sample => exact .ended workers done
  | storing sample =>
    rw [worker] at workers
    dsimp only [move]
    rw [replaced]
    exact .stored workers

/-- What every step keeps holds at the end of a run, when no worker is left. -/
theorem run_induction {holds : Pool σ κ α → Prop}
    (kept : ∀ {pool after : Pool σ κ α}, Stepped job jobs pool after → holds pool → holds after)
    (schedule : Nat → Nat) (turn : Nat) {pool : Pool σ κ α} (begins : holds pool) :
    holds (pool.run job jobs schedule turn) ∧ (pool.run job jobs schedule turn).workers = [] := by
  induction turn, pool using run.induct job jobs schedule with
  | case1 turn pool live ih =>
    rw [run, dif_pos live]
    exact ih (kept (stepped_step job jobs (Nat.mod_lt _ live)) begins)
  | case2 turn pool idle =>
    rw [run, dif_neg idle]
    exact ⟨begins, List.eq_nil_of_length_eq_zero (Nat.eq_zero_of_not_pos idle)⟩

/-! ## Tickets -/

/-- The ticket for which a worker does a job. -/
def ticket? : Worker κ α → Option UInt64
  | .working ticket _ => some ticket
  | .claiming | .storing _ => none

/-- The tickets of workers, when one of them is looked at. -/
theorem filterMap_around {β γ : Type} (f : β → Option γ) (before after : List β)
    (member : β) :
    (before ++ member :: after).filterMap f =
      before.filterMap f ++ ((f member).toList ++ after.filterMap f) := by
  cases found : f member <;> simp [found]

/-- What is true of the tickets when there were so many workers at first. -/
structure Ticketed (jobs : UInt64) (crew : Nat) (pool : Pool σ κ α) : Prop where
  /-- Each worker that has stopped took one ticket without a job. -/
  next : pool.next.toNat + pool.workers.length = pool.issued.length + crew
  manned : pool.workers.length ≤ crew
  within : pool.issued.length ≤ jobs.toNat
  /-- No worker stops before all tickets with jobs are taken. -/
  exhausted : pool.workers.length < crew → pool.issued.length = jobs.toNat
  /-- The tickets with jobs were taken in order. -/
  ordered : pool.issued.reverse.map UInt64.toNat = List.range pool.issued.length
  /-- The job of a ticket is being done or has ended. -/
  assigned : (pool.workers.filterMap ticket? ++ pool.ended.map (·.1)).Perm pool.issued

variable {crew : Nat}

theorem ticketed_start (shared : σ) : Ticketed jobs crew (start crew shared : Pool σ κ α) where
  next := by simp [start]
  manned := by simp [start]
  within := by simp [start]
  exhausted := by simp [start]
  ordered := rfl
  assigned := by simp [start, List.filterMap_replicate, ticket?]

/-- The counter does not come around while a worker is left. -/
theorem Ticketed.toNat_next_succ {pool : Pool σ κ α} (ticketed : Ticketed jobs crew pool)
    (fits : jobs.toNat + crew < UInt64.size) (live : 0 < pool.workers.length) :
    (pool.next + 1).toNat = pool.next.toNat + 1 := by
  have limit : UInt64.size = 2 ^ 64 := rfl
  have next := ticketed.next
  have within := ticketed.within
  rw [UInt64.toNat_add, UInt64.toNat_one]
  omega

/-- Where no ticket is taken and no worker stops, only the jobs have to be looked at. -/
theorem Ticketed.of_assigned {pool after : Pool σ κ α} (ticketed : Ticketed jobs crew pool)
    (next : after.next = pool.next) (issued : after.issued = pool.issued)
    (length : after.workers.length = pool.workers.length)
    (assigned : (after.workers.filterMap ticket? ++ after.ended.map (·.1)).Perm pool.issued) :
    Ticketed jobs crew after where
  next := by
    rw [next, issued, length]
    exact ticketed.next
  manned := by
    rw [length]
    exact ticketed.manned
  within := by
    rw [issued]
    exact ticketed.within
  exhausted := by
    rw [issued, length]
    exact ticketed.exhausted
  ordered := by
    rw [issued]
    exact ticketed.ordered
  assigned := by
    rw [issued]
    exact assigned

theorem Ticketed.step (fits : jobs.toNat + crew < UInt64.size) {pool after : Pool σ κ α}
    (stepped : Stepped job jobs pool after) (ticketed : Ticketed jobs crew pool) :
    Ticketed jobs crew after := by
  have counted := ticketed.toNat_next_succ fits
  have assigned := ticketed.assigned
  cases stepped with
  | begun workers below =>
    obtain ⟨next, manned, within, exhausted, ordered, -⟩ := ticketed
    rw [workers] at next manned exhausted counted assigned
    simp only [List.length_append, List.length_cons] at next manned exhausted counted
    have bound : pool.next.toNat < jobs.toNat := below
    -- Had a worker stopped, the next ticket would be beyond the jobs.
    have latest : pool.next.toNat = pool.issued.length := by omega
    constructor
    · simp only [List.length_append, List.length_cons]
      omega
    · simpa using manned
    · simp only [List.length_cons]
      omega
    · simp only [List.length_append, List.length_cons]
      omega
    · rw [List.reverse_cons, List.map_append, ordered, List.length_cons, List.range_succ,
        List.map_singleton, latest]
    · rw [filterMap_around, List.append_assoc] at assigned ⊢
      exact List.perm_middle.trans (assigned.cons pool.next)
  | stopped workers beyond =>
    obtain ⟨next, manned, within, exhausted, ordered, -⟩ := ticketed
    rw [workers] at next manned exhausted counted assigned
    simp only [List.length_append, List.length_cons] at next manned exhausted counted
    have bound : jobs.toNat ≤ pool.next.toNat := UInt64.not_lt.mp beyond
    constructor
    · simp only [List.length_append]
      omega
    · simp only [List.length_append]
      omega
    · exact within
    · intro fewer
      dsimp only
      omega
    · exact ordered
    · rw [filterMap_around] at assigned
      rw [List.filterMap_append]
      exact assigned
  | advanced workers running =>
    refine ticketed.of_assigned rfl rfl (by simp [workers]) ?_
    rw [workers, filterMap_around] at assigned
    rw [filterMap_around]
    exact assigned
  | @ended before after ticket current sample shared workers done =>
    have idle : ticket? (sample.elim (.claiming : Worker κ α) .storing) = none := by
      cases sample <;> rfl
    refine ticketed.of_assigned rfl rfl (by simp [workers]) ?_
    rw [workers, filterMap_around, List.append_assoc] at assigned
    rw [filterMap_around, List.append_assoc, idle]
    have moved : (before.filterMap ticket? ++ (after.filterMap ticket? ++
        ticket :: pool.ended.map (·.1))).Perm
          (before.filterMap ticket? ++ ticket :: (after.filterMap ticket? ++ pool.ended.map (·.1))) :=
      List.perm_middle.append_left _
    exact moved.trans assigned
  | stored workers =>
    refine ticketed.of_assigned rfl rfl (by simp [workers]) ?_
    rw [workers, filterMap_around] at assigned
    rw [filterMap_around]
    exact assigned

/-- A run takes every ticket that there is, once and in order, and ends a job for each. -/
theorem run_tickets (job : Job σ κ α) (manned : 0 < crew)
    (fits : jobs.toNat + crew < UInt64.size) (schedule : Nat → Nat) (shared : σ) :
    let pool := (start crew shared).run job jobs schedule 0
    pool.issued.reverse.map UInt64.toNat = List.range jobs.toNat ∧
      (pool.ended.map (·.1)).Perm pool.issued := by
  intro pool
  obtain ⟨ticketed, idle⟩ : Ticketed jobs crew pool ∧ pool.workers = [] :=
    run_induction (Ticketed.step fits) schedule 0 (ticketed_start shared)
  have all : pool.issued.length = jobs.toNat := by
    apply ticketed.exhausted
    rw [idle]
    exact manned
  have ordered := ticketed.ordered
  have assigned := ticketed.assigned
  rw [all] at ordered
  rw [idle] at assigned
  exact ⟨ordered, assigned⟩

theorem length_ended_run (job : Job σ κ α) (manned : 0 < crew)
    (fits : jobs.toNat + crew < UInt64.size) (schedule : Nat → Nat) (shared : σ) :
    ((start crew shared).run job jobs schedule 0).ended.length = jobs.toNat := by
  obtain ⟨ordered, assigned⟩ := run_tickets job manned fits schedule shared
  have ended := assigned.length_eq
  have issued := congrArg List.length ordered
  rw [List.length_map] at ended
  rw [List.length_map, List.length_reverse, List.length_range] at issued
  rw [ended, issued]

end Pool

/-! ## Notes -/

/-- A job that notes what it does. -/
def Job.noting {σ κ α β : Type} (job : Job σ κ α) (note : κ → σ → List β) :
    Job (σ × List β) κ α where
  start := job.start
  advance ticket current state :=
    let (progress, shared) := job.advance ticket current state.1
    (progress, shared, state.2 ++ note current state.1)
  remaining := job.remaining
  advance_remaining advanced := by
    simp only [Prod.mk.injEq] at advanced
    exact job.advance_remaining (Prod.ext advanced.1 rfl)

theorem Job.noting_advance {σ κ α β : Type} (job : Job σ κ α) (note : κ → σ → List β)
    (ticket : UInt64) (current : κ) (state : σ × List β) :
    (job.noting note).advance ticket current state =
      ((job.advance ticket current state.1).1, (job.advance ticket current state.1).2,
        state.2 ++ note current state.1) := rfl

theorem Job.of_noting_advance {σ κ α β : Type} {job : Job σ κ α} {note : κ → σ → List β}
    {ticket : UInt64} {current : κ} {state after : σ × List β} {progress : Progress κ α}
    (advanced : (job.noting note).advance ticket current state = (progress, after)) :
    job.advance ticket current state.1 = (progress, after.1) ∧
      after.2 = state.2 ++ note current state.1 := by
  rw [noting_advance] at advanced
  obtain ⟨rfl, rfl⟩ := Prod.mk.inj advanced
  exact ⟨rfl, rfl⟩

namespace Pool

variable {σ κ α β : Type}

/-- A pool without its notes. -/
def plain (pool : Pool (σ × List β) κ α) : Pool σ κ α :=
  ⟨pool.workers, pool.next, pool.issued, pool.ended, pool.samples, pool.shared.1⟩

variable (job : Job σ κ α) (note : κ → σ → List β) (jobs : UInt64)

theorem plain_step (pool : Pool (σ × List β) κ α) (k : Nat) :
    (pool.step (job.noting note) jobs k).plain = pool.plain.step job jobs k := by
  unfold step
  dsimp only [plain]
  cases pool.workers[k]? with
  | none => rfl
  | some worker =>
    cases worker with
    | claiming =>
      by_cases below : pool.next < jobs
      · simp only [below, ↓reduceIte]
        rfl
      · simp only [below, ↓reduceIte]
    | storing sample => rfl
    | working ticket current =>
      dsimp only
      rw [Job.noting_advance]
      rcases job.advance ticket current pool.shared.1 with ⟨progress, shared⟩
      cases progress <;> rfl

/-- Notes change nothing about a run. -/
theorem plain_run (schedule : Nat → Nat) (turn : Nat) (pool : Pool (σ × List β) κ α) :
    (pool.run (job.noting note) jobs schedule turn).plain =
      pool.plain.run job jobs schedule turn := by
  induction turn, pool using run.induct (job.noting note) jobs schedule with
  | case1 turn pool live ih =>
    have live' : 0 < pool.plain.workers.length := live
    rw [run, dif_pos live, ih, plain_step, run.eq_def job jobs schedule turn, dif_pos live']
    rfl
  | case2 turn pool idle =>
    have idle' : ¬ 0 < pool.plain.workers.length := idle
    rw [run, dif_neg idle, run.eq_def job jobs schedule turn, dif_neg idle']

end Pool

end Courier.Bench
