import Courier.Capability
import Courier.Config.Toggles

/-! # Dispatching

For every request a dispatcher picks a unit: of the greatest strategy that is wanted, available and
able to prepare one, and otherwise of the least strategy, which never fails to. It looks at each
switch anew, at the moment when the turn of the strategy comes.
-/

namespace Courier

/-- Performs one exchange for the request that it is bound to. -/
structure ExecutionUnit where
  kind : Strategy
  conduct : Conduct
  request : Request
  redirects : UInt32
  deriving Repr

namespace ExecutionUnit

/-- A unit that follows a plan, bound to a request that follows a response. -/
def bind (plan : Plan) (request : Request) (previous : Option Response) : ExecutionUnit :=
  ⟨plan.kind, plan.conduct, request, Response.hopIndex previous⟩

/-- The unit that is always available. -/
def fallback (request : Request) (previous : Option Response) : ExecutionUnit :=
  bind ⟨.blocking, .exchange .blocking⟩ request previous

/-- Performs the exchange. -/
def execute (network : Network) (log : Log) (caller : Caller) (unit : ExecutionUnit) : Outcome :=
  match unit.conduct with
  | .exchange strategy =>
    Exchange.conduct network log caller strategy unit.request unit.redirects
  | .fail failure => .unsent failure

end ExecutionUnit

/-- How often each factory was called. -/
structure Tallies where
  pooled : Nat
  task : Nat
  deriving DecidableEq, Repr

namespace Tallies

/-- No calls. -/
def zero : Tallies := ⟨0, 0⟩

/-- The calls of a strategy's factory; the least strategy has none. -/
def of (tallies : Tallies) : Strategy → Nat
  | .blocking => 0
  | .pooled => tallies.pooled
  | .task => tallies.task

/-- One more call. -/
def add (tallies : Tallies) : Strategy → Tallies
  | .blocking => tallies
  | .pooled => { tallies with pooled := tallies.pooled + 1 }
  | .task => { tallies with task := tallies.task + 1 }

end Tallies

/-- What comes of selecting a unit. -/
structure Selection where
  unit : ExecutionUnit
  tallies : Tallies
  /-- The shared transport was needed. -/
  starts : Bool

/-- Picks units by a registry and two switches. -/
structure Dispatcher where
  registry : Registry
  toggles : Toggles
  tallies : Tallies
  /-- The shared transport has been started. -/
  started : Bool

namespace Dispatcher

/-- A dispatcher that has not been used. -/
def new (registry : Registry) (toggles : Toggles) : Dispatcher :=
  ⟨registry, toggles, .zero, false⟩

/-- Selects a unit of one of some strategies or of the least; `seen` gives the switches at the moment
when the turn of a strategy comes. -/
def selectFrom (registry : Registry) (seen : Strategy → Toggles) (request : Request)
    (previous : Option Response) : List Strategy → Tallies → Selection
  | [], tallies => ⟨.fallback request previous, tallies, false⟩
  | tier :: rest, tallies =>
    match if (seen tier).prefers tier then registry.factory? tier else none with
    | none => selectFrom registry seen request previous rest tallies
    | some factory =>
      match factory.construct (tallies.of tier) request previous with
      | .ok plan => ⟨.bind plan request previous, tallies.add tier, factory.startsTransport⟩
      | .error _ => selectFrom registry seen request previous rest (tallies.add tier)

/-- Selects a unit while the switches may change. -/
def selectSeeing (dispatcher : Dispatcher) (seen : Strategy → Toggles) (request : Request)
    (previous : Option Response) : ExecutionUnit × Dispatcher :=
  let selection :=
    selectFrom dispatcher.registry seen request previous Strategy.preferred dispatcher.tallies
  (selection.unit, { dispatcher with
    tallies := selection.tallies, started := dispatcher.started || selection.starts })

/-- Selects a unit. -/
def select (dispatcher : Dispatcher) (request : Request) (previous : Option Response) :
    ExecutionUnit × Dispatcher :=
  dispatcher.selectSeeing (fun _ => dispatcher.toggles) request previous

/-- Selects a unit and performs its exchange. -/
def execute (dispatcher : Dispatcher) (network : Network) (log : Log) (caller : Caller)
    (request : Request) (previous : Option Response) : Outcome × Dispatcher :=
  let (unit, dispatcher) := dispatcher.select request previous
  (unit.execute network log caller, dispatcher)

theorem selectFrom_bound (registry : Registry) (seen : Strategy → Toggles) (request : Request)
    (previous : Option Response) (tiers : List Strategy) (tallies : Tallies) :
    (selectFrom registry seen request previous tiers tallies).unit.request = request ∧
      (selectFrom registry seen request previous tiers tallies).unit.redirects =
        Response.hopIndex previous := by
  induction tiers generalizing tallies with
  | nil => exact ⟨rfl, rfl⟩
  | cons tier rest ih =>
    unfold selectFrom
    split
    · exact ih tallies
    · split
      · exact ⟨rfl, rfl⟩
      · exact ih (tallies.add tier)

/-- A response answers the request that was dispatched, at the place of its hop. -/
theorem execute_ok {network : Network} {log : Log} {caller : Caller} {dispatcher : Dispatcher}
    {request : Request} {previous : Option Response} {response : Response}
    (obtained : (dispatcher.execute network log caller request previous).1.result = .ok response) :
    response.request = request ∧ response.redirects = Response.hopIndex previous := by
  obtain ⟨bound, hop⟩ := selectFrom_bound dispatcher.registry (fun _ => dispatcher.toggles) request
    previous Strategy.preferred dispatcher.tallies
  simp only [execute, select, selectSeeing, ExecutionUnit.execute] at obtained
  split at obtained
  · rw [bound, hop] at obtained
    exact Exchange.conduct_ok obtained
  · cases obtained

/-- The dispatcher with a switch set. -/
def set (dispatcher : Dispatcher) (strategy : Strategy) (enabled : Bool) : Dispatcher :=
  { dispatcher with toggles := dispatcher.toggles.set strategy enabled }

/-- The diagnostic form. -/
def debug (dispatcher : Dispatcher) : String :=
  "Dispatcher \x7b registry: " ++ dispatcher.registry.debug ++ ", toggles: " ++
    dispatcher.toggles.debug ++ ", .. \x7d"

end Dispatcher

end Courier
