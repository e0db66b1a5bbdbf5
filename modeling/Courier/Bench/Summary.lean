import Courier.Bench.Result
import Courier.Number.Fixed

/-! # Summaries

A summary of results is a table with a row for each, in their order, followed by the results that
lead: the last of those with the greatest throughput and the first of those with the least percentile
of latency. Every other strategy with any throughput is compared with the one of the greatest.
-/

namespace Courier.Bench.Summary

/-- A line of a summary. -/
inductive Line
  | heading
  | rule
  | row (result : Result)
  | blank
  /-- The result of the greatest throughput. -/
  | throughput (leader : Result)
  /-- The result of the least percentile of latency. -/
  | latency (leader : Result)
  /-- A result beside the one of the greatest throughput. -/
  | comparison (result leader : Result)
  deriving DecidableEq, Repr

/-- The last result of the greatest throughput. -/
def fastest? (results : List Result) : Option Result :=
  results.foldl (fun best result =>
    match best with
    | some leader =>
      if leader.perSecond.orderKey ≤ result.perSecond.orderKey then some result else best
    | none => some result) none

/-- The first result of the least percentile of latency. -/
def lowest? (results : List Result) : Option Result :=
  results.foldl (fun best result =>
    match best with
    | some leader =>
      if result.latency.p95.orderKey < leader.latency.p95.orderKey then some result else best
    | none => some result) none

/-- Whether a result is compared with that of the greatest throughput. -/
def isCompared (leader result : Result) : Bool :=
  result.strategy ≠ leader.strategy && result.perSecond.isPositive

/-- The lines of a summary. -/
def lines (results : List Result) : List Line :=
  [.heading, .rule] ++ results.map .row ++
    match fastest? results, lowest? results with
    | some fastest, some lowest =>
      [.blank, .throughput fastest, .latency lowest] ++
        (results.filter (isCompared fastest)).map (.comparison · fastest)
    | _, _ => []

/-- Blanks that a text lacks to a width. -/
def padding (width : Nat) (text : String) : String :=
  String.ofList (List.replicate (width - text.length) ' ')

/-- A text at the left end of a column. -/
def left (width : Nat) (text : String) : String := text ++ padding width text

/-- A text at the right end of a column. -/
def right (width : Nat) (text : String) : String := padding width text ++ text

/-- The columns of a line of the table. -/
def columns (strategy avg median p95 min max perSecond : String) : String :=
  " | ".intercalate
    [left 10 strategy, right 9 avg, right 10 median, right 9 p95, right 9 min, right 9 max,
      right 9 perSecond]

/-- A number with two places. -/
def amount (x : Double) : String := x.fixed 2

/-- The percentage by which one number exceeds another. -/
def excess (greater less : Double) : Double :=
  (greater / less - .ofCount 1) * .ofCount 100

/-- The text of a line. -/
def Line.text : Line → String
  | .heading => columns "Strategy" "Avg(ms)" "Median(ms)" "P95(ms)" "Min(ms)" "Max(ms)" "Req/sec"
  | .rule => String.ofList (List.replicate 86 '-')
  | .row result =>
    let latency := result.latency
    columns result.strategy (amount latency.avg) (amount latency.median) (amount latency.p95)
      (amount latency.min) (amount latency.max) (amount result.perSecond) ++ "  " ++
      Nat.repr result.successful.toNat ++ "/" ++ Nat.repr result.total.toNat
  | .blank => ""
  | .throughput leader =>
    "Highest throughput: " ++ leader.strategy ++ " (" ++ amount leader.perSecond ++ " req/sec)"
  | .latency leader =>
    "Lowest 95th percentile latency: " ++ leader.strategy ++ " (" ++ amount leader.latency.p95 ++
      " ms)"
  | .comparison result leader =>
    result.strategy ++ " throughput is " ++ amount (excess leader.perSecond result.perSecond) ++
      "% lower than " ++ leader.strategy

/-- The summary of results, every line of which is ended. -/
def render (results : List Result) : String :=
  String.join ((lines results).map fun line => line.text ++ "\n")

end Courier.Bench.Summary
