import Courier.Bench.Pool
import Courier.Bench.Result
import Courier.Bench.Workload
import Courier.Client.Call

/-! # Runs

A run performs a workload by one strategy: it sets the switches of the client so that only that
strategy is wanted, lets a pool of workers perform each iteration, and sets the switches back. Which
worker makes the next step and how long things take are not decided here; a run is given both.
-/

namespace Courier.Bench

/-- What a run does not decide. -/
structure Conditions where
  /-- Which worker makes a step, for each iteration and each turn in it. -/
  pick : Nat → Nat → Nat
  /-- Milliseconds that an exchange takes, for each iteration and each ticket in it. -/
  exchange : Nat → UInt64 → Double
  /-- Milliseconds that the run takes. -/
  run : Double

/-- Workers that take their turns one after the other, and exchanges that all take as long. -/
def Conditions.steady (exchange run : Double) : Conditions :=
  ⟨fun _ _ => 0, fun _ _ => exchange, run⟩

/-- What the workers of a run share. -/
structure Shared where
  world : World
  /-- Responses that report success. -/
  successful : UInt64

namespace Run

/-- The request that a workload asks for, unless its text is no URL. -/
def request? (workload : Workload) : Option Request :=
  (Request.parse .get workload.url).toOption.map fun request =>
    { request with timeouts := ⟨workload.timeout, workload.timeout⟩ }

/-- One step of a timed call. A response gives a sample, and so does one that reports an error; a
failure gives none. -/
def advance (network : Network) (elapsed : UInt64 → Double) (ticket : UInt64) (call : Option Call)
    (shared : Shared) : Progress (Option Call) Double × Shared :=
  match call with
  | none => (.ended none, shared)
  | some ⟨[], .done (.ok response)⟩ =>
    let successful :=
      if response.status.isSuccess then shared.successful + 1 else shared.successful
    (.ended (some (elapsed ticket)), { shared with successful })
  | some ⟨[], .done (.error _)⟩ => (.ended none, shared)
  | some call =>
    let (call, world) := call.step network .patient shared.world
    (.running (some call), { shared with world })

/-- How many steps a timed call may still make. -/
def remaining (call : Option Call) : Nat := call.elim 0 Call.remaining

theorem advance_remaining {network : Network} {elapsed : UInt64 → Double} {ticket : UInt64}
    {call next : Option Call} {shared after : Shared}
    (advanced : advance network elapsed ticket call shared = (.running next, after)) :
    remaining next < remaining call := by
  unfold advance at advanced
  split at advanced
  · cases advanced
  · cases advanced
  · cases advanced
  · rename_i call unanswered unfailed
    cases advanced
    refine Call.step_remaining fun result ended => ?_
    cases result with
    | ok response => exact unanswered response ended
    | error failure => exact unfailed failure ended

/-- The job of a worker: a call that asks for the workload's URL, timed. -/
def job (network : Network) (settings : Settings) (workload : Workload)
    (elapsed : UInt64 → Double) : Job Shared (Option Call) Double :=
  { start := (request? workload).map (Call.begin settings)
    advance := advance network elapsed
    remaining, advance_remaining }

/-- What the iterations of a run come to. -/
structure Tally where
  shared : Shared
  samples : List Double

/-- One iteration, numbered from zero. -/
def iterate (network : Network) (conditions : Conditions) (strategy : Strategy)
    (workload : Workload) (tally : Tally) (iteration : Nat) : Tally :=
  let settings := tally.shared.world.client.settings
  let job := job network settings workload (conditions.exchange iteration)
  let workers := workerCount strategy workload.concurrency
  let pool := (Pool.start workers.toNat tally.shared).run job workload.concurrency
    (conditions.pick iteration) 0
  ⟨pool.shared, pool.samples ++ tally.samples⟩

/-- The iterations from one on. -/
def iterateFrom (network : Network) (conditions : Conditions) (strategy : Strategy)
    (workload : Workload) (first : Nat) : (count : Nat) → Tally → Tally
  | 0, tally => tally
  | count + 1, tally =>
    iterateFrom network conditions strategy workload (first + 1) count
      (iterate network conditions strategy workload tally first)

end Run

/-- The world with other switches. -/
def setToggles (world : World) (toggles : Toggles) : World :=
  { world with client := { world.client with
      dispatcher := { world.client.dispatcher with toggles } } }

/-- The switches by which a strategy is wanted and no greater one is. -/
def forcing (strategy : Strategy) : Toggles := ⟨strategy = .task, strategy = .pooled⟩

/-- Performs a workload by one strategy. Room for the samples is made before the first exchange; where
there cannot be so much, the run breaks off, and the switches are left as the run has set them. -/
def run (network : Network) (conditions : Conditions) (strategy : Strategy) (workload : Workload)
    (world : World) : Option Result × World :=
  let saved := world.client.dispatcher.toggles
  let forced := setToggles world (forcing strategy)
  if workload.fits then
    let tally := Run.iterateFrom network conditions strategy workload 0 workload.iterations.toNat
      ⟨⟨forced, 0⟩, []⟩
    let successful := tally.shared.successful
    (some
      { strategy := strategy.name, totalMs := conditions.run, successful, total := workload.total
        latency := .ofSamples tally.samples, perSecond := Result.rate successful conditions.run },
      setToggles tally.shared.world saved)
  else (none, forced)

/-- Performs a workload by strategies, one after the other, up to a run that breaks off. -/
def runAll (network : Network) (conditions : Strategy → Conditions) (workload : Workload) :
    List Strategy → World → Option (List Result) × World
  | [], world => (some [], world)
  | strategy :: rest, world =>
    match run network (conditions strategy) strategy workload world with
    | (none, world) => (none, world)
    | (some result, world) =>
      let (results, world) := runAll network conditions workload rest world
      (results.map (result :: ·), world)

/-- Performs a workload by every strategy that is available. -/
def compare (network : Network) (conditions : Strategy → Conditions) (workload : Workload)
    (world : World) : Option (List Result) × World :=
  runAll network conditions workload
    (Strategy.all.filter world.client.dispatcher.registry.isAvailable) world

end Courier.Bench
