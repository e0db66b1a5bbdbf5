import Courier.Strategy
import Courier.Text.Blank

/-! # Preferences

Two switches say which of the greater strategies the operator wants. They may be set in the
environment and may change at any time.
-/

namespace Courier

/-- Which strategies are preferred to the one that is always available. -/
structure Toggles where
  task : Bool
  pooled : Bool
  deriving DecidableEq, Repr

namespace Toggles

/-- No preference. -/
def off : Toggles := ⟨false, false⟩

/-- Whether a strategy is wanted; the least one needs no switch. -/
def prefers (toggles : Toggles) : Strategy → Bool
  | .task => toggles.task
  | .pooled => toggles.pooled
  | .blocking => true

/-- The switches after one of them is set; the least strategy has none. -/
def set (toggles : Toggles) (strategy : Strategy) (enabled : Bool) : Toggles :=
  match strategy with
  | .task => { toggles with task := enabled }
  | .pooled => { toggles with pooled := enabled }
  | .blocking => toggles

/-- The name in the environment of the switch for tasks. -/
def taskKey : String := "STRATA_PREFER_TASK"

/-- The name in the environment of the switch for the pool. -/
def pooledKey : String := "STRATA_PREFER_POOLED"

/-- A text that turns a switch on: `true` in any case or `1`, with blanks around it. -/
def isOn (text : String) : Bool :=
  let word := Text.trim text
  Text.lowerAscii word = "true" || word = "1"

/-- The switches that an environment sets. -/
def ofLookup (lookup : String → Option String) : Toggles :=
  ⟨(lookup taskKey).any isOn, (lookup pooledKey).any isOn⟩

/-- The diagnostic form. -/
def debug (toggles : Toggles) : String :=
  "DispatchConfig \x7b prefer_task: " ++ toString toggles.task ++ ", prefer_pooled: " ++
    toString toggles.pooled ++ " \x7d"

end Toggles

end Courier
