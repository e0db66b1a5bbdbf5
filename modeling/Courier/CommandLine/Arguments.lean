import Courier.Strategy
import Courier.Text.Percent
import Courier.Text.Utf8

/-! # Arguments of the command line

Arguments are read from the left, and the first that decides the outcome does so whatever follows it:
a fault, or a wish for the help text or the version. An option that takes a value takes it after an
equals sign or from the next argument, which must not look like an option. After `--` every argument
is a URL, of which there is one.
-/

namespace Courier.CommandLine

/-- An option that takes a value. -/
inductive Setting
  | iterations
  | concurrency
  | timeout
  | strategy
  | logLevel
  deriving DecidableEq, Repr

/-- How an option is written. -/
def Setting.name : Setting → String
  | .iterations => "--iterations"
  | .concurrency => "--concurrency"
  | .timeout => "--timeout-secs"
  | .strategy => "--strategy"
  | .logLevel => "--log-level"

/-- Every option that takes a value. -/
def Setting.all : List Setting := [.iterations, .concurrency, .timeout, .strategy, .logLevel]

/-- What a run is asked to do. -/
structure Options where
  url : String
  iterations : UInt64
  concurrency : UInt64
  timeoutSeconds : UInt64
  /-- The one strategy to run, instead of all. -/
  strategy : Option Strategy
  /-- Results are printed as JSON. -/
  json : Bool
  logLevel : String
  deriving DecidableEq, Repr

/-- What is wrong with arguments. -/
inductive Fault
  | unknown (argument : Bytes)
  | missingValue (option : String)
  | invalidValue (option : String) (value : Bytes)
  | unwantedValue (option : String)
  | repeated (option : String)
  | surplus (argument : Bytes)
  | invalidUrl
  | missingUrl
  deriving DecidableEq, Repr

/-- What ends the reading of arguments before their end. -/
inductive Stop
  | help
  | version
  | fault (fault : Fault)
  deriving DecidableEq, Repr

/-- What has been read. -/
structure Given where
  url : Option String
  iterations : Option UInt64
  concurrency : Option UInt64
  timeoutSeconds : Option UInt64
  strategy : Option Strategy
  json : Bool
  logLevel : Option String
  /-- The option whose value comes next. -/
  pending : Option Setting
  /-- Every argument that follows is a URL. -/
  escaped : Bool
  deriving DecidableEq, Repr

namespace Given

/-- Nothing has been read. -/
def nothing : Given := ⟨none, none, none, none, none, false, none, none, false⟩

/-- Whether an option has been given a value. -/
def has (given : Given) : Setting → Bool
  | .iterations => given.iterations.isSome
  | .concurrency => given.concurrency.isSome
  | .timeout => given.timeoutSeconds.isSome
  | .strategy => given.strategy.isSome
  | .logLevel => given.logLevel.isSome

end Given

/-- The count of a text: digits, after a plus sign or none, that spell a word. -/
def count? (text : String) : Option UInt64 :=
  let digits := match text.toList with
    | '+' :: digits => digits
    | digits => digits
  if digits = [] ∨ !digits.all Char.isDigit then none
  else
    let value := digits.foldl (fun value c => value * 10 + (c.toNat - '0'.toNat)) 0
    if value < UInt64.size then some value.toUInt64 else none

/-- What has been read when an option is given a text, unless the text is no value of it. -/
def Given.assign? (given : Given) (setting : Setting) (text : String) : Option Given :=
  match setting with
  | .iterations => (count? text).map fun n => { given with iterations := some n }
  | .concurrency => (count? text).map fun n => { given with concurrency := some n }
  | .timeout => (count? text).map fun n => { given with timeoutSeconds := some n }
  | .strategy => (Strategy.ofName? text).map fun s => { given with strategy := some s }
  | .logLevel => some { given with logLevel := some text }

/-- An option is given a value, for the first time. -/
def Given.assign (given : Given) (setting : Setting) (value : Bytes) : Except Stop Given :=
  if given.has setting then .error (.fault (.repeated setting.name))
  else
    match (Utf8.decode? value).bind (given.assign? setting) with
    | some given => .ok given
    | none => .error (.fault (.invalidValue setting.name value))

/-- An argument that is a URL. -/
def Given.assignUrl (given : Given) (argument : Bytes) : Except Stop Given :=
  match given.url, Utf8.decode? argument with
  | some _, _ => .error (.fault (.surplus argument))
  | none, some url => .ok { given with url := some url }
  | none, none => .error (.fault .invalidUrl)

/-- Whether an argument looks like an option: it begins with a hyphen and does not end there. -/
def looksLikeOption : Bytes → Bool
  | 0x2D :: _ :: _ => true
  | _ => false

/-- An argument that begins with two hyphens and does not end there. -/
def readLong (given : Given) (argument : Bytes) : Except Stop Given :=
  let name := argument.takeWhile (· ≠ 0x3D)
  let value := (argument.dropWhile (· ≠ 0x3D)).tail?
  let flag := fun (name : String) (effect : Except Stop Given) =>
    match value with
    | none => effect
    | some _ => .error (.fault (.unwantedValue name))
  match Setting.all.find? (Utf8.encode ·.name = name), Utf8.decode? name with
  | some setting, _ =>
    match value with
    | some value => given.assign setting value
    | none => .ok { given with pending := some setting }
  | none, some "--json" =>
    flag "--json" (if given.json then .error (.fault (.repeated "--json"))
      else .ok { given with json := true })
  | none, some "--help" => flag "--help" (.error .help)
  | none, some "--version" => flag "--version" (.error .version)
  | none, _ => .error (.fault (.unknown argument))

/-- An argument that begins with one hyphen and does not end there; its first letter decides. -/
def readShort (argument : Bytes) : Stop :=
  match argument with
  | _ :: 0x68 :: _ => .help
  | _ :: 0x56 :: _ => .version
  | _ => .fault (.unknown argument)

/-- One more argument. -/
def read (given : Given) (argument : Bytes) : Except Stop Given :=
  match given.escaped, given.pending, argument with
  | true, _, _ => given.assignUrl argument
  | false, some setting, _ =>
    if looksLikeOption argument then .error (.fault (.missingValue setting.name))
    else { given with pending := none }.assign setting argument
  | false, none, [0x2D, 0x2D] => .ok { given with escaped := true }
  | false, none, 0x2D :: 0x2D :: _ => readLong given argument
  | false, none, 0x2D :: _ :: _ => .error (readShort argument)
  | false, none, _ => given.assignUrl argument

/-- What a run is asked to do when all arguments have been read. -/
def finish (given : Given) : Except Stop Options :=
  match given.pending, given.url with
  | some setting, _ => .error (.fault (.missingValue setting.name))
  | none, none => .error (.fault .missingUrl)
  | none, some url =>
    .ok
      { url, iterations := given.iterations.getD 30, concurrency := given.concurrency.getD 20
        timeoutSeconds := given.timeoutSeconds.getD 30, strategy := given.strategy
        json := given.json, logLevel := given.logLevel.getD "info" }

/-- What arguments ask for. -/
def parse (arguments : List Bytes) : Except Stop Options := do
  finish (← arguments.foldlM read .nothing)

/-- The wording of a fault. -/
def Fault.message : Fault → String
  | .unknown argument => "unexpected argument '" ++ Utf8.decodeLossy argument ++ "'"
  | .missingValue option => "a value is required for '" ++ option ++ "'"
  | .invalidValue option value =>
    "invalid value '" ++ Utf8.decodeLossy value ++ "' for '" ++ option ++ "'"
  | .unwantedValue option => "'" ++ option ++ "' takes no value"
  | .repeated option => "'" ++ option ++ "' cannot be used multiple times"
  | .surplus argument => "unexpected argument '" ++ Utf8.decodeLossy argument ++ "'"
  | .invalidUrl => "the URL is not UTF-8"
  | .missingUrl => "a URL is required"

/-- The help text. -/
def helpText : String :=
  "Compare blocking, pooled and task execution\n\n" ++
  "Usage: strata-bench [OPTIONS] <URL>\n\n" ++
  "Arguments:\n" ++
  "  <URL>  URL fetched by every request\n\n" ++
  "Options:\n" ++
  "      --iterations <ITERATIONS>\n" ++
  "          Iterations per strategy [default: 30]\n" ++
  "      --concurrency <CONCURRENCY>\n" ++
  "          Concurrent requests per iteration [default: 20]\n" ++
  "      --timeout-secs <TIMEOUT_SECS>\n" ++
  "          Connect and read deadline per request, in seconds [default: 30]\n" ++
  "      --strategy <STRATEGY>\n" ++
  "          Run only this strategy [possible values: blocking, pooled, task]\n" ++
  "      --json\n" ++
  "          Print results as JSON instead of a table\n" ++
  "      --log-level <LOG_LEVEL>\n" ++
  "          Log filter used when RUST_LOG is unset [default: info]\n" ++
  "  -h, --help\n" ++
  "          Print help\n" ++
  "  -V, --version\n" ++
  "          Print version\n"

/-- The text that tells the version. -/
def versionText : String := "strata-bench 0.1.0\n"

end Courier.CommandLine
