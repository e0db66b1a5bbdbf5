import Courier.Bench.Latency
import Courier.Json.Value

/-! # Results

What a run of one strategy came to.
-/

namespace Courier.Bench

/-- Outcome of a run of one strategy. -/
structure Result where
  strategy : String
  /-- How long the run took, in milliseconds. -/
  totalMs : Double
  successful : UInt64
  total : UInt64
  latency : Latency
  /-- Successful requests in a second. -/
  perSecond : Double
  deriving DecidableEq, Repr

namespace Result

/-- How many requests a second a count of them in a length of time comes to. -/
def rate (successful : UInt64) (totalMs : Double) : Double :=
  if totalMs.isPositive then .ofCount successful * .ofCount 1000 / totalMs else .zero

/-- The members of a result in a JSON text. -/
def members (result : Result) : List (String × Json) :=
  let count := fun (n : UInt64) => Json.number (.natural n.toNat)
  let time := fun (x : Double) => Json.number (.float x)
  [("strategy", .string result.strategy), ("total_time_ms", time result.totalMs),
    ("successful_requests", count result.successful), ("total_requests", count result.total),
    ("avg_ms", time result.latency.avg), ("median_ms", time result.latency.median),
    ("p95_ms", time result.latency.p95), ("min_ms", time result.latency.min),
    ("max_ms", time result.latency.max), ("requests_per_second", time result.perSecond)]

/-- A result as JSON. -/
def toJson (result : Result) : Json := .object result.members

end Result

end Courier.Bench
