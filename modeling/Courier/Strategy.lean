/-! # Strategies

There are three ways to perform an exchange, in ascending order of capability. The greater one takes
precedence whenever it is both preferred and available; the least is always available.
-/

namespace Courier

/-- A way to perform one exchange. -/
inductive Strategy
  /-- On the caller's thread, over a connection of its own. -/
  | blocking
  /-- On the caller's thread, over a shared pool of connections. -/
  | pooled
  /-- As a task of its own, over the shared pool. -/
  | task
  deriving DecidableEq, Repr

/-- Where the waiting part of an exchange runs. -/
inductive Scheduling
  | callerThread
  | sharedReactor
  | lightweightTask
  deriving DecidableEq, Repr

namespace Strategy

/-- Every strategy, in ascending order. -/
def all : List Strategy := [.blocking, .pooled, .task]

/-- Place in the ascending order. -/
def rank : Strategy → Nat
  | .blocking => 0
  | .pooled => 1
  | .task => 2

/-- The name by which users know a strategy. -/
def name : Strategy → String
  | .blocking => "blocking"
  | .pooled => "pooled"
  | .task => "task"

/-- The name in diagnostics. -/
def label : Strategy → String
  | .blocking => "Blocking"
  | .pooled => "Pooled"
  | .task => "Task"

/-- The strategy of a name. -/
def ofName? (name : String) : Option Strategy := all.find? (·.name = name)

/-- Where an exchange of this strategy waits. -/
def scheduling : Strategy → Scheduling
  | .blocking => .callerThread
  | .pooled => .sharedReactor
  | .task => .lightweightTask

/-- The strategies that are tried before the one that is always available, the greatest first. -/
def preferred : List Strategy := [.task, .pooled]

theorem mem_all (strategy : Strategy) : strategy ∈ all := by cases strategy <;> simp [all]

end Strategy

/-- The name of a scheduling in diagnostics. -/
def Scheduling.label : Scheduling → String
  | .callerThread => "CallerThread"
  | .sharedReactor => "SharedReactor"
  | .lightweightTask => "LightweightTask"

end Courier
