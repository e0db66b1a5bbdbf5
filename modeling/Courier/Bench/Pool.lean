/-! # Pools of workers

Workers share a counter of tickets. A worker takes a ticket, does a job for it, stores the sample of
the job if it has one, and takes another ticket, until it takes one that is beyond the number of jobs.
Nothing decides which worker makes the next step, so a run follows a schedule; under every schedule it
comes to an end.
-/

namespace Courier.Bench

/-- What is left of a job after a step. -/
inductive Progress (κ α : Type)
  | running (job : κ)
  /-- The job has ended, with or without a sample. -/
  | ended (sample : Option α)
  deriving DecidableEq, Repr

/-- A kind of job, done in steps that change a state which all jobs share. -/
structure Job (σ κ α : Type) where
  /-- A job that has done nothing yet. -/
  start : κ
  /-- One step of the job for a ticket. -/
  advance : UInt64 → κ → σ → Progress κ α × σ
  /-- How many steps a job may still make. -/
  remaining : κ → Nat
  /-- A step leaves less to do. -/
  advance_remaining : ∀ {ticket : UInt64} {job next : κ} {shared after : σ},
    advance ticket job shared = (.running next, after) → remaining next < remaining job

/-- Where a worker stands. -/
inductive Worker (κ α : Type)
  /-- About to take a ticket. -/
  | claiming
  | working (ticket : UInt64) (job : κ)
  /-- About to store a sample. -/
  | storing (sample : α)
  deriving DecidableEq, Repr

/-- A pool of workers at a moment. -/
structure Pool (σ κ α : Type) where
  /-- The workers that have not stopped. -/
  workers : List (Worker κ α)
  /-- The next ticket. -/
  next : UInt64
  /-- The tickets for which a job was begun, the latest first. -/
  issued : List UInt64
  /-- The jobs that have ended, the latest first, with their samples. -/
  ended : List (UInt64 × Option α)
  /-- The samples that were stored, the latest first. -/
  samples : List α
  shared : σ

namespace Pool

variable {σ κ α : Type}

/-- A pool of so many workers that have done nothing yet. -/
def start (workers : Nat) (shared : σ) : Pool σ κ α :=
  ⟨List.replicate workers .claiming, 0, [], [], [], shared⟩

/-- The pool with a worker elsewhere. -/
def move (pool : Pool σ κ α) (k : Nat) (worker : Worker κ α) : Pool σ κ α :=
  { pool with workers := pool.workers.set k worker }

/-- One step of the worker at a place, when there are so many jobs. -/
def step (job : Job σ κ α) (jobs : UInt64) (pool : Pool σ κ α) (k : Nat) : Pool σ κ α :=
  match pool.workers[k]? with
  | none => pool
  | some .claiming =>
    let taken := { pool with next := pool.next + 1 }
    if pool.next < jobs then
      { taken.move k (.working pool.next job.start) with issued := pool.next :: pool.issued }
    else { taken with workers := pool.workers.eraseIdx k }
  | some (.working ticket current) =>
    match job.advance ticket current pool.shared with
    | (.running after, shared) => { pool.move k (.working ticket after) with shared }
    | (.ended sample, shared) =>
      let worker := match sample with
        | some sample => .storing sample
        | none => .claiming
      { pool.move k worker with shared, ended := (ticket, sample) :: pool.ended }
  | some (.storing sample) => { pool.move k .claiming with samples := sample :: pool.samples }

/-! ## Running a pool -/

/-- How much a worker still has to do before it takes another ticket. -/
def remaining (job : Job σ κ α) : Worker κ α → Nat
  | .claiming => 0
  | .working _ current => job.remaining current + 2
  | .storing _ => 1

/-- How much all workers still have to do before they take another ticket. -/
def load (job : Job σ κ α) : List (Worker κ α) → Nat
  | [] => 0
  | worker :: rest => remaining job worker + load job rest

theorem load_set_lt (job : Job σ κ α) {workers : List (Worker κ α)} {k : Nat}
    {old new : Worker κ α} (found : workers[k]? = some old)
    (less : remaining job new < remaining job old) :
    load job (workers.set k new) < load job workers := by
  induction workers generalizing k with
  | nil => simp at found
  | cons worker rest ih =>
    cases k with
    | zero =>
      obtain rfl : worker = old := by simpa using found
      simpa [load] using less
    | succ k =>
      have rest_less := ih (k := k) (by simpa using found)
      simpa [load] using rest_less

/-- Every step of a worker that has not stopped brings the pool nearer to its end: a worker stops, or
a ticket is taken, or a job gets on. -/
theorem step_decreases (job : Job σ κ α) (jobs : UInt64) {pool : Pool σ κ α} {k : Nat}
    (live : k < pool.workers.length) :
    Prod.Lex (· < ·) (Prod.Lex (· < ·) (· < ·))
      ((pool.step job jobs k).workers.length,
        (jobs.toNat - (pool.step job jobs k).next.toNat, load job (pool.step job jobs k).workers))
      (pool.workers.length, (jobs.toNat - pool.next.toNat, load job pool.workers)) := by
  have found : pool.workers[k]? = some pool.workers[k] := List.getElem?_eq_getElem live
  unfold step
  rw [found]
  split
  · rename_i absent
    cases absent
  · by_cases below : pool.next < jobs
    · simp only [below, ↓reduceIte, move, List.length_set]
      refine .right _ (.left _ _ ?_)
      have bound : pool.next.toNat < jobs.toNat := below
      have limit := jobs.toNat_lt
      rw [UInt64.toNat_add, UInt64.toNat_one]
      omega
    · simp only [below, ↓reduceIte, List.length_eraseIdx_of_lt live]
      exact .left _ _ (by omega)
  · rename_i ticket current same
    have here : pool.workers[k]? = some (.working ticket current) := found.trans same
    split
    · rename_i after shared advanced
      simp only [move, List.length_set]
      refine .right _ (.right _ (load_set_lt job here ?_))
      have less := job.advance_remaining advanced
      simp only [remaining]
      omega
    · rename_i sample shared advanced
      simp only [move, List.length_set]
      refine .right _ (.right _ (load_set_lt job here ?_))
      cases sample <;> simp [remaining]
  · rename_i sample same
    have here : pool.workers[k]? = some (.storing sample) := found.trans same
    simp only [move, List.length_set]
    exact .right _ (.right _ (load_set_lt job here (by simp [remaining])))

/-- Lets workers make steps until all have stopped; the schedule says for each turn which of the
workers that have not stopped makes a step, counted around. -/
def run (job : Job σ κ α) (jobs : UInt64) (schedule : Nat → Nat) (turn : Nat)
    (pool : Pool σ κ α) : Pool σ κ α :=
  if _live : 0 < pool.workers.length then
    run job jobs schedule (turn + 1) (pool.step job jobs (schedule turn % pool.workers.length))
  else pool
termination_by
  (pool.workers.length, (jobs.toNat - pool.next.toNat, load job pool.workers))
decreasing_by exact step_decreases job jobs (Nat.mod_lt _ _live)

end Pool

end Courier.Bench
