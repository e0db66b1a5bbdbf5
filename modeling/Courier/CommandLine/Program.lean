import Courier.Bench.Run
import Courier.Bench.Summary
import Courier.CommandLine.Arguments
import Courier.Json.Pretty

/-! # The command line

A program that compares the strategies by a workload and prints the results. Its exit code tells
whether any exchange succeeded.
-/

namespace Courier.CommandLine

/-- What is printed. -/
inductive Output
  | text (text : String)
  | results (results : List Bench.Result)

/-- The text of what is printed. -/
def Output.render : Output → String
  | .text lines => lines
  | .results list => Json.pretty 0 (.array (list.map Bench.Result.toJson)) ++ "\n"

/-- How the program ends. -/
structure Ending where
  exit : UInt8
  output : Output
  /-- What is wrong, if the arguments are. -/
  fault : Option Fault

namespace Ending

/-- The program does what was asked. -/
def success (output : Output) : Ending := ⟨0, output, none⟩

/-- The program ends without output. -/
def silent (exit : UInt8) : Ending := ⟨exit, .text "", none⟩

end Ending

/-- The settings of the client of a run, which keeps a connection for each exchange that may be under
way at once. -/
def settings (options : Options) : Settings :=
  { Settings.standard with maxIdle := (max options.concurrency 1).toNat }

/-- The workload of a run. -/
def workload (options : Options) : Bench.Workload :=
  ⟨options.url, options.iterations, options.concurrency, .ofSeconds options.timeoutSeconds.toNat⟩

/-- The results of what a run is asked to do. If there is no client that could do it, or the run breaks
off, there is an exit code instead. -/
def results (network : Network) (conditions : Strategy → Bench.Conditions) (options : Options) :
    Except UInt8 (List Bench.Result) :=
  let performed := fun (results : Option (List Bench.Result)) => results.elim (.error 101) .ok
  match (settings options).validate with
  | .error _ => .error 1
  | .ok () =>
    let client := Client.new (settings options) .probe .off
    let world : World := ⟨client, []⟩
    match options.strategy with
    | none => performed (Bench.compare network conditions (workload options) world).1
    | some strategy =>
      if client.dispatcher.registry.isAvailable strategy then
        performed <| (Bench.run network (conditions strategy) strategy (workload options) world).1.map
          fun result => [result]
      else .error 1

/-- What a run is asked to do. -/
def perform (network : Network) (conditions : Strategy → Bench.Conditions) (options : Options) :
    Ending :=
  match results network conditions options with
  | .error exit => .silent exit
  | .ok results =>
    let output := if options.json then .results results else .text (Bench.Summary.render results)
    if results.all (·.successful = 0) then ⟨1, output, none⟩ else .success output

/-- What the program does for its arguments. -/
def program (network : Network) (conditions : Strategy → Bench.Conditions)
    (arguments : List Bytes) : Ending :=
  match parse arguments with
  | .error .help => .success (.text helpText)
  | .error .version => .success (.text versionText)
  | .error (.fault fault) => ⟨2, .text "", some fault⟩
  | .ok options => perform network conditions options

end Courier.CommandLine
