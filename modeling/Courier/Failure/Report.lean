import Courier.Failure.Basic
import Courier.Text.Quoted

/-! # The report of a failure

A failure is reported in one line that names the kind and the URL; behind it stands a chain of
causes, each with a line of its own. The diagnostic form shows how a failure is built, and leaves out
nothing but is only given where no URL is involved.
-/

namespace Courier

/-- The name of a phase. -/
def Phase.name : Phase → String
  | .connect => "connect"
  | .read => "read"

/-- The name of a phase in diagnostics. -/
def Phase.label : Phase → String
  | .connect => "Connect"
  | .read => "Read"

/-- The line that names a kind. -/
def Failure.Kind.message : Failure.Kind → String
  | .builder => "builder error"
  | .connect => "error connecting to host"
  | .request => "error sending request"
  | .body => "error reading response body"
  | .timeout phase => phase.name ++ " timeout"
  | .cancelled => "exchange cancelled"
  | .redirect => "error following redirect"

/-- The name of a kind in diagnostics. -/
def Failure.Kind.label : Failure.Kind → String
  | .builder => "Builder"
  | .connect => "Connect"
  | .request => "Request"
  | .body => "Body"
  | .timeout phase => "Timeout(" ++ phase.label ++ ")"
  | .cancelled => "Cancelled"
  | .redirect => "Redirect"

/-- The line of a failure of a kind, with the URL if it is tied to one. -/
def Failure.line (kind : Failure.Kind) (url : Option Url) : String :=
  match url with
  | none => kind.message
  | some url => kind.message ++ " for url (" ++ url.text ++ ")"

/-- The line of a failure. -/
def Failure.message (failure : Failure) : String := line failure.kind failure.url

/-- What is wrong with a target. -/
def TargetFault.message : TargetFault → String
  | .tooLong => "uri too long"
  | .invalidCharacter => "invalid uri character"

/-- What is wrong with an answer. -/
def ReplyFault.message : ReplyFault → String
  | .closedEarly => "connection closed before message completed"
  | .malformed => "invalid HTTP message"
  | .misshapen => "unexpected JSON value"

/-- The line of a cause. -/
def Cause.message : Cause → String
  | .text message => message
  | .socket fault => fault.message
  | .timedOut => "timed out"
  | .operationCanceled => "operation canceled"
  | .tooManyRedirects limit => "too many redirects (limit " ++ Nat.repr limit.toNat ++ ")"
  | .blockingInAsyncContext =>
    "blocking execute called from within an async runtime; use spawn_blocking"
  | .unsupportedScheme scheme => "unsupported URL scheme '" ++ scheme ++ "'"
  | .url fault => fault.message
  | .target fault => fault.message
  | .headerText => "failed to convert header to a str"
  | .reply fault => fault.message
  | .bare kind about => Failure.line kind about
  | .nested kind about _ => Failure.line kind about

/-- The lines of a cause and of those behind it, outermost first. -/
def Cause.chain : Cause → List String
  | .nested kind about cause => Failure.line kind about :: cause.chain
  | cause => [cause.message]

/-- The lines of the causes of a failure, outermost first. -/
def Failure.chain (failure : Failure) : List String := (failure.cause.map Cause.chain).getD []

/-- The name of a system's report in diagnostics. -/
def SocketFault.Kind.label : SocketFault.Kind → String
  | .timedOut => "TimedOut"
  | .refused => "ConnectionRefused"
  | .unreachable => "HostUnreachable"
  | .unresolved => "Uncategorized"
  | .other => "Other"

/-- The diagnostic form of a system's report. -/
def SocketFault.debug (fault : SocketFault) : String :=
  "Custom \x7b kind: " ++ fault.kind.label ++ ", error: " ++ Text.quote fault.message ++ " \x7d"

/-- The diagnostic form of a failure, from those of its parts. -/
def Failure.debugWith (kind : Failure.Kind) (cause : Option String) : String :=
  "strata_client::Error \x7b kind: " ++ kind.label ++
    ((cause.map (", source: " ++ ·)).getD "") ++ " \x7d"

/-- The diagnostic form of a cause, unless a URL or a fault of another format is involved. -/
def Cause.debug? : Cause → Option String
  | .text message => some (Text.quote message)
  | .socket fault => some fault.debug
  | .timedOut => some "TimedOut"
  | .operationCanceled => some "OperationCanceled"
  | .tooManyRedirects limit =>
    some ("TooManyRedirects \x7b limit: " ++ Nat.repr limit.toNat ++ " \x7d")
  | .blockingInAsyncContext => some "BlockingInAsyncContext"
  | .unsupportedScheme scheme => some ("UnsupportedScheme(" ++ Text.quote scheme ++ ")")
  | .bare kind none => some (Failure.debugWith kind none)
  | .nested kind none cause => cause.debug?.map fun text => Failure.debugWith kind (some text)
  | _ => none

/-- The diagnostic form of a failure, unless a URL or a fault of another format is involved. -/
def Failure.debug? (failure : Failure) : Option String :=
  match failure.url, failure.cause with
  | some _, _ => none
  | none, none => some (debugWith failure.kind none)
  | none, some cause => cause.debug?.map fun text => debugWith failure.kind (some text)

end Courier
