import Courier.Url.Basic

/-! # Failures

A failure says what part of an exchange went wrong, what caused it, and which URL was asked for. The
kind alone decides how a failure is counted and whether it is a timeout or a cancellation; the cause
is kept for the report.
-/

namespace Courier

/-- A part of an exchange that has a deadline. -/
inductive Phase
  | connect
  | read
  deriving DecidableEq, Repr

/-- What went wrong. -/
inductive Failure.Kind
  /-- The request could not be made into an exchange. -/
  | builder
  /-- No connection was made. -/
  | connect
  /-- The request could not be sent or its answer could not be read. -/
  | request
  /-- The body of the answer could not be read. -/
  | body
  /-- A deadline passed. -/
  | timeout (phase : Phase)
  /-- The caller gave up. -/
  | cancelled
  /-- A redirect could not be followed. -/
  | redirect
  deriving DecidableEq, Repr

/-- What a system reports when an operation on a connection fails. -/
inductive SocketFault.Kind
  | timedOut
  | refused
  | unreachable
  | unresolved
  | other
  deriving DecidableEq, Repr

/-- A failed operation on a connection. -/
structure SocketFault where
  kind : SocketFault.Kind
  message : String
  deriving DecidableEq, Repr

/-- Why a target cannot be written into a request. -/
inductive TargetFault
  | tooLong
  | invalidCharacter
  deriving DecidableEq, Repr

/-- What is wrong with an answer. -/
inductive ReplyFault
  /-- The connection ended before the answer was complete. -/
  | closedEarly
  /-- The head or the framing of the body is not well formed. -/
  | malformed
  /-- The body is no text of the expected shape. -/
  | misshapen
  deriving DecidableEq, Repr

/-- The cause of a failure. -/
inductive Cause
  | text (message : String)
  | socket (fault : SocketFault)
  /-- A deadline passed. -/
  | timedOut
  | operationCanceled
  | tooManyRedirects (limit : UInt32)
  /-- A call that waits was made where nothing may wait. -/
  | blockingInAsyncContext
  | unsupportedScheme (scheme : String)
  | url (fault : Url.Fault)
  | target (fault : TargetFault)
  /-- A header value is not visible text. -/
  | headerText
  | reply (fault : ReplyFault)
  /-- A failure without a cause of its own. -/
  | bare (kind : Failure.Kind) (url : Option Url)
  /-- A failure with its cause. -/
  | nested (kind : Failure.Kind) (url : Option Url) (cause : Cause)
  deriving Repr

/-- A failed exchange, or a request that cannot be one. -/
structure Failure where
  kind : Failure.Kind
  cause : Option Cause
  url : Option Url
  deriving Repr

namespace Failure

/-- A failure of a kind with a cause, not yet tied to a URL. -/
def of (kind : Kind) (cause : Cause) : Failure := ⟨kind, some cause, none⟩

/-- A passed deadline. -/
def timeout (phase : Phase) : Failure := of (.timeout phase) .timedOut

/-- An exchange that its caller gave up. -/
def cancelled : Failure := of .cancelled .operationCanceled

/-- The failure with another cause. -/
def withCause (failure : Failure) (cause : Cause) : Failure := { failure with cause := some cause }

/-- The failure tied to a URL. -/
def withUrl (failure : Failure) (url : Url) : Failure := { failure with url := some url }

/-- The failure tied to a URL unless it already is tied to one. -/
def attach (failure : Failure) (url : Url) : Failure :=
  { failure with url := failure.url.or (some url) }

/-- The failure as the cause of another. -/
def toCause (failure : Failure) : Cause :=
  match failure.cause with
  | none => .bare failure.kind failure.url
  | some cause => .nested failure.kind failure.url cause

/-- The deadline that passed, if one did. -/
def phase? (failure : Failure) : Option Phase :=
  match failure.kind with
  | .timeout phase => some phase
  | _ => none

/-- A deadline passed. -/
def isTimeout (failure : Failure) : Bool := failure.phase?.isSome

/-- The caller gave up. -/
def isCancelled (failure : Failure) : Bool := failure.kind = .cancelled

/-- No connection was made. -/
def isConnect (failure : Failure) : Bool := failure.kind = .connect

/-- The request could not be made into an exchange. -/
def isBuilder (failure : Failure) : Bool := failure.kind = .builder

/-- A redirect could not be followed. -/
def isRedirect (failure : Failure) : Bool := failure.kind = .redirect

/-- The connection or what came over it failed. -/
def isTransport (failure : Failure) : Bool :=
  match failure.kind with
  | .connect | .request | .body => true
  | _ => false

end Failure

/-- A cause, or one behind it, is a connection's report that time ran out. -/
def Cause.hasTimedOut : Cause → Bool
  | .socket fault => fault.kind = .timedOut
  | .nested _ _ cause => cause.hasTimedOut
  | _ => false

end Courier
