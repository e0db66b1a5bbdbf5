import Courier.Duration

/-! # Settings of a client

Settings hold for all exchanges of a client. They are checked before a client is made: deadlines and
counts lie between zero and a limit, and the name that the client gives itself is neither empty nor
long. The first fault in the order of the fields is reported.
-/

namespace Courier

/-- The settings of a client. -/
structure Settings where
  connectTimeout : Duration
  /-- How long a connection may lie unused in the pool. -/
  idleTimeout : Duration
  /-- How many unused connections to one host the pool keeps. -/
  maxIdle : Nat
  workers : Nat
  noDelay : Bool
  /-- The name that the client gives itself. -/
  userAgent : String
  deriving DecidableEq, Repr

/-- What is wrong with settings. -/
inductive Settings.Fault
  | zeroTimeout (name : String)
  | longTimeout (name : String) (limit : Duration)
  | zeroCount (name : String)
  | largeCount (name : String) (limit : Nat)
  | emptyUserAgent
  | longUserAgent
  deriving DecidableEq, Repr

namespace Settings

/-- The settings of a client that is given none. -/
def standard : Settings :=
  { connectTimeout := .ofSeconds 10, idleTimeout := .ofSeconds 90, maxIdle := 32, workers := 2
    noDelay := true, userAgent := "strata/0.1.0" }

/-- Fails unless a deadline lies above zero and within a limit. -/
def checkTimeout (timeout limit : Duration) (name : String) : Except Fault Unit :=
  if timeout.nanos = 0 then .error (.zeroTimeout name)
  else if limit.nanos < timeout.nanos then .error (.longTimeout name limit)
  else .ok ()

/-- Fails unless a count lies above zero and within a limit. -/
def checkCount (value limit : Nat) (name : String) : Except Fault Unit :=
  if value = 0 then .error (.zeroCount name)
  else if limit < value then .error (.largeCount name limit)
  else .ok ()

/-- How many octets the name of a client may have. -/
def userAgentLimit : Nat := 1000

/-- Fails unless the name of a client is neither empty nor long. -/
def checkUserAgent (userAgent : String) : Except Fault Unit :=
  if userAgent = "" then .error .emptyUserAgent
  else if userAgentLimit < userAgent.utf8ByteSize then .error .longUserAgent
  else .ok ()

/-- Fails with the first fault of the settings. -/
def validate (settings : Settings) : Except Fault Unit := do
  checkTimeout settings.connectTimeout (.ofSeconds 300) "Connect timeout"
  checkTimeout settings.idleTimeout (.ofSeconds 3600) "Pool idle timeout"
  checkCount settings.maxIdle 1000 "Pool max idle per host"
  checkCount settings.workers 512 "Worker threads"
  checkUserAgent settings.userAgent

/-- The wording of a fault. -/
def Fault.message : Fault → String
  | .zeroTimeout name => "Invalid timeout value: " ++ name ++ " cannot be zero"
  | .longTimeout name limit =>
    "Invalid timeout value: " ++ name ++ " cannot exceed " ++ Nat.repr limit.seconds ++ "s"
  | .zeroCount name => "Invalid pool setting: " ++ name ++ " must be greater than zero"
  | .largeCount name limit =>
    "Invalid pool setting: " ++ name ++ " must not exceed " ++ Nat.repr limit
  | .emptyUserAgent => "Invalid configuration parameter: User agent cannot be empty"
  | .longUserAgent =>
    "Invalid configuration parameter: User agent must not exceed 1000 characters"

end Settings

end Courier
