import Courier.Exchange
import Courier.Failure.Report
import Courier.Text.Quoted

/-! # Capabilities

A greater strategy is available when there is a factory for it. A factory prepares a unit that
performs one exchange, and it may fail to do so. A registry records for each of the greater
strategies a factory or the reason why there is none; the least strategy is not recorded, because it
is always available.
-/

namespace Courier

/-- Why a unit could not be prepared. -/
inductive ConstructionFailure
  /-- The shared part did not start. -/
  | start (fault : SocketFault)
  | rejected (strategy : Strategy) (reason : String)
  deriving DecidableEq, Repr

/-- Why a strategy is not available. -/
inductive Unavailable
  | notCompiled (feature : String)
  | unsupported (reason : String)
  | notRegistered
  deriving DecidableEq, Repr

/-- How a unit performs its exchange. -/
inductive Conduct
  /-- By a strategy. -/
  | exchange (strategy : Strategy)
  /-- Not at all. -/
  | fail (failure : Failure)
  deriving Repr

/-- What a factory hands out: a unit but for the request that it is bound to. -/
structure Plan where
  /-- The strategy to which the unit says it belongs. -/
  kind : Strategy
  conduct : Conduct
  deriving Repr

/-- Prepares units. Whether it succeeds may depend on how often it was called before, on the request
and on the response that the request follows. -/
structure Factory where
  construct : Nat → Request → Option Response → Except ConstructionFailure Plan
  /-- A unit needs the shared transport, which is started for the first of them. -/
  startsTransport : Bool

/-- A factory, or the reason why there is none. -/
inductive Availability
  | available (factory : Factory)
  | unavailable (reason : Unavailable)

/-- What is recorded of the greater strategies. -/
structure Registry where
  pooled : Availability
  task : Availability

namespace Registry

/-- Nothing recorded. -/
def empty : Registry :=
  ⟨.unavailable .notRegistered, .unavailable .notRegistered⟩

/-- The registry with another record of a strategy; there is none of the least. -/
def record (registry : Registry) (strategy : Strategy) (availability : Availability) : Registry :=
  match strategy with
  | .blocking => registry
  | .pooled => { registry with pooled := availability }
  | .task => { registry with task := availability }

/-- The registry that records make, the later of two for one strategy taking its place. -/
def ofRecords (records : List (Strategy × Availability)) : Registry :=
  records.foldl (fun registry record => registry.record record.1 record.2) empty

/-- The record of a strategy. -/
def availability? (registry : Registry) : Strategy → Option Availability
  | .blocking => none
  | .pooled => some registry.pooled
  | .task => some registry.task

/-- The factory of a strategy. -/
def factory? (registry : Registry) (strategy : Strategy) : Option Factory :=
  match registry.availability? strategy with
  | some (.available factory) => some factory
  | _ => none

/-- Whether a strategy can be used. -/
def isAvailable (registry : Registry) (strategy : Strategy) : Bool :=
  match registry.availability? strategy with
  | some (.unavailable _) => false
  | _ => true

/-- A factory of units that exchange by a strategy over the shared transport. -/
def sharedFactory (strategy : Strategy) : Factory :=
  { construct := fun _ _ _ => .ok ⟨strategy, .exchange strategy⟩, startsTransport := true }

/-- What this library is able to do: everything. -/
def probe : Registry :=
  ⟨.available (sharedFactory .pooled), .available (sharedFactory .task)⟩

/-- The names of the strategies that can be used, in diagnostics. -/
def debug (registry : Registry) : String :=
  "AvailabilitySnapshot \x7b blocking: " ++ toString (registry.isAvailable .blocking) ++
    ", pooled: " ++ toString (registry.isAvailable .pooled) ++ ", task: " ++
    toString (registry.isAvailable .task) ++ " \x7d"

end Registry

/-! ## Reports -/

namespace ConstructionFailure

/-- The wording of a failure. -/
def message : ConstructionFailure → String
  | .start fault => "failed to start shared runtime: " ++ fault.message
  | .rejected strategy reason => strategy.name ++ " strategy rejected construction: " ++ reason

/-- The diagnostic form. -/
def debug : ConstructionFailure → String
  | .start fault => "Runtime(" ++ fault.debug ++ ")"
  | .rejected strategy reason =>
    "Rejected \x7b kind: " ++ strategy.label ++ ", reason: " ++ Text.quote reason ++ " \x7d"

/-- The wording of the cause, if it is another fault. -/
def cause? : ConstructionFailure → Option String
  | .start fault => some fault.message
  | .rejected _ _ => none

end ConstructionFailure

namespace Unavailable

/-- The wording of a reason. -/
def message : Unavailable → String
  | .notCompiled feature => "compiled without the `" ++ feature ++ "` feature"
  | .unsupported reason => "host cannot schedule lightweight tasks: " ++ reason
  | .notRegistered => "no factory registered"

/-- The diagnostic form. -/
def debug : Unavailable → String
  | .notCompiled feature => "NotCompiled \x7b feature: " ++ Text.quote feature ++ " \x7d"
  | .unsupported reason => "Unsupported(" ++ Text.quote reason ++ ")"
  | .notRegistered => "NotRegistered"

end Unavailable

/-- The diagnostic form of a record. -/
def Availability.debug : Availability → String
  | .available _ => "Available"
  | .unavailable reason => "Unavailable(" ++ reason.debug ++ ")"

end Courier
