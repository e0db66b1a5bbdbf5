import Courier.Duration
import Courier.Strategy

/-! # Workloads

A workload asks for one URL again and again: in each of its iterations so many times at once.
-/

namespace Courier.Bench

/-- What is asked for in a run, and how often. -/
structure Workload where
  url : String
  iterations : UInt64
  /-- Exchanges in an iteration. -/
  concurrency : UInt64
  /-- Deadline to connect, and again to read. -/
  timeout : Duration
  deriving DecidableEq, Repr

namespace Workload

/-- A workload of the standard size. -/
def standard (url : String) : Workload := ⟨url, 30, 20, .ofSeconds 30⟩

/-- How many exchanges a workload asks for. -/
def total (workload : Workload) : UInt64 := workload.iterations * workload.concurrency

/-- How many samples memory can hold. -/
def sampleLimit : Nat := 0x1000000000000000

/-- Memory can hold a sample of each exchange. -/
def fits (workload : Workload) : Bool := workload.total.toNat < sampleLimit

end Workload

/-- The most workers of a strategy that keeps the caller's thread. -/
def maxWorkers : UInt64 := 16

/-- How many workers an iteration of so many exchanges has. A task costs no thread, so there is one
for each exchange. -/
def workerCount (strategy : Strategy) (concurrency : UInt64) : UInt64 :=
  match strategy with
  | .task => max concurrency 1
  | .blocking | .pooled => max (min concurrency maxWorkers) 1

end Courier.Bench
