import Courier.Http.Response
import Courier.Number.Double

/-! # Counters of a client

A client counts what its exchanges come to. Counters are words of sixty-four bits that wrap around;
each is changed by additions that do not look at the others, so what is recorded of an exchange is a
list of increments, made one after another.
-/

namespace Courier

/-- What is counted. -/
inductive Counter
  /-- Exchanges begun. -/
  | total
  /-- Responses that report no error. -/
  | successful
  /-- Responses that report an error. -/
  | errorStatus
  /-- Failures. -/
  | failed
  | timeouts
  | cancellations
  | redirects
  /-- Octets of bodies. -/
  | bytes
  /-- Responses that a strategy obtained. -/
  | served (strategy : Strategy)
  deriving DecidableEq, Repr

/-- An addition to a counter. -/
structure Increment where
  counter : Counter
  amount : UInt64
  deriving DecidableEq, Repr

namespace Increment

/-- Adds one. -/
def one (counter : Counter) : Increment := ⟨counter, 1⟩

/-- What is recorded of a response. -/
def ofResponse (response : Response) : List Increment :=
  [one (if response.status.isError then .errorStatus else .successful),
    one (.served response.strategy), ⟨.bytes, response.body.length.toUInt64⟩]

/-- What is recorded of a failure. -/
def ofFailure (failure : Failure) : List Increment :=
  one .failed ::
    if failure.isTimeout then [one .timeouts]
    else if failure.isCancelled then [one .cancellations]
    else []

end Increment

/-- The counters of a client. -/
structure Stats where
  total : UInt64
  successful : UInt64
  errorStatus : UInt64
  failed : UInt64
  timeouts : UInt64
  cancellations : UInt64
  redirects : UInt64
  bytes : UInt64
  blocking : UInt64
  pooled : UInt64
  task : UInt64
  deriving DecidableEq, Repr

namespace Stats

/-- Nothing counted. -/
def zero : Stats := ⟨0, 0, 0, 0, 0, 0, 0, 0, 0, 0, 0⟩

/-- The value of a counter. -/
def get (stats : Stats) : Counter → UInt64
  | .total => stats.total
  | .successful => stats.successful
  | .errorStatus => stats.errorStatus
  | .failed => stats.failed
  | .timeouts => stats.timeouts
  | .cancellations => stats.cancellations
  | .redirects => stats.redirects
  | .bytes => stats.bytes
  | .served .blocking => stats.blocking
  | .served .pooled => stats.pooled
  | .served .task => stats.task

/-- The counters after an addition. -/
def add (stats : Stats) (increment : Increment) : Stats :=
  let amount := increment.amount
  match increment.counter with
  | .total => { stats with total := stats.total + amount }
  | .successful => { stats with successful := stats.successful + amount }
  | .errorStatus => { stats with errorStatus := stats.errorStatus + amount }
  | .failed => { stats with failed := stats.failed + amount }
  | .timeouts => { stats with timeouts := stats.timeouts + amount }
  | .cancellations => { stats with cancellations := stats.cancellations + amount }
  | .redirects => { stats with redirects := stats.redirects + amount }
  | .bytes => { stats with bytes := stats.bytes + amount }
  | .served .blocking => { stats with blocking := stats.blocking + amount }
  | .served .pooled => { stats with pooled := stats.pooled + amount }
  | .served .task => { stats with task := stats.task + amount }

/-- An addition changes the counter that it names and no other. -/
theorem get_add (stats : Stats) (increment : Increment) (counter : Counter) :
    (stats.add increment).get counter =
      if increment.counter = counter then stats.get counter + increment.amount
      else stats.get counter := by
  obtain ⟨changed, amount⟩ := increment
  rcases changed with _ | _ | _ | _ | _ | _ | _ | _ | (_ | _ | _) <;>
    rcases counter with _ | _ | _ | _ | _ | _ | _ | _ | (_ | _ | _) <;> simp [add, get]

/-- The counters after additions. -/
def addAll (stats : Stats) (increments : List Increment) : Stats := increments.foldl add stats

/-- The share of one count in another, zero of nothing. -/
def share (successful total : UInt64) : Double :=
  if total = 0 then Double.zero else Double.ofCount successful / Double.ofCount total

/-- A copy of the counters with the share of exchanges begun that ended in a response without
error. -/
structure Snapshot where
  counters : Stats
  ratio : Double
  deriving DecidableEq, Repr

/-- A copy made while the counters change: `seen` gives them at each of the loads, which are made in
the order of the fields, the two for the share last. -/
def snapshotSeeing (seen : Nat → Stats) : Snapshot :=
  { counters :=
      { total := (seen 0).total, successful := (seen 1).successful
        errorStatus := (seen 2).errorStatus, failed := (seen 3).failed
        timeouts := (seen 4).timeouts, cancellations := (seen 5).cancellations
        redirects := (seen 6).redirects, bytes := (seen 7).bytes
        blocking := (seen 8).blocking, pooled := (seen 9).pooled, task := (seen 10).task }
    ratio := share (seen 12).successful (seen 11).total }

/-- A copy of the counters. -/
def snapshot (stats : Stats) : Snapshot := snapshotSeeing fun _ => stats

end Stats

end Courier
