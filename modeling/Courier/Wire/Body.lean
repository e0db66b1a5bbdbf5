import Courier.Text.Percent
import Courier.Wire.Head

/-! # The body of an answer

The head of an answer says where its body ends: after so many octets, after a last chunk, or with the
connection. The body arrives in frames, and it may break off or stall before its end. Reading stops
as soon as the cap is reached, whatever would have come after.
-/

namespace Courier.Wire

/-- How a connection goes on after the last octet that comes over it. -/
inductive Ending
  | closed
  /-- Nothing more comes, but the connection stays open. -/
  | held
  deriving DecidableEq, Repr

/-- Where a body ends. -/
inductive Framing
  | sized (length : Nat)
  | chunked
  | untilClose
  deriving DecidableEq, Repr

/-! ## Framing -/

/-- A text without blanks at its ends, in small letters. -/
def token (text : String) : String := Text.lowerAscii (Text.trim text)

/-- Whether the last transfer coding of a list is `chunked`. -/
def endsInChunked (values : List HeaderValue) : Bool :=
  match values.getLast?.bind HeaderValue.visible? with
  | none => false
  | some text => ((text.splitOn ",").getLast?.map token) = some "chunked"

/-- A length: decimal digits that fit a machine word. -/
def length? (text : String) : Option Nat :=
  let digits := (Text.trim text).toList
  if digits ≠ [] ∧ digits.all Char.isDigit then
    let value := digits.foldl (fun value c => value * 10 + (c.toNat - 0x30)) 0
    if value < UInt64.size then some value else none
  else none

/-- The length on which all values agree; a value may be a list of lengths. -/
def agreedLength? (values : List HeaderValue) : Option Nat := do
  let texts ← values.mapM HeaderValue.visible?
  let lengths ← (texts.flatMap (·.splitOn ",")).mapM length?
  match lengths with
  | [] => none
  | first :: rest => if rest.all (· = first) then some first else none

/-- Where the body of an answer to a request with a method ends. -/
def framing? (method : Method) (head : Head) : Option Framing :=
  let code := head.status.code
  if code = 101 ∨ code = 204 ∨ code = 304 ∨ method = .head then some (.sized 0)
  else if method.name = "CONNECT" ∧ head.status.isSuccess then some (.sized 0)
  else if head.headers.contains .transferEncoding then
    if head.version = .http10 then none
    else if endsInChunked (head.headers.values .transferEncoding) then some .chunked
    else some .untilClose
  else if head.headers.contains .contentLength then
    (agreedLength? (head.headers.values .contentLength)).bind fun length =>
      if length ≤ UInt64.size - 3 then some (.sized length) else none
  else some .untilClose

/-! ## Frames -/

/-- A part of a body as it arrives. -/
inductive Frame
  | data (bytes : Bytes)
  /-- Header lines after the last chunk. -/
  | trailers
  deriving DecidableEq, Repr

/-- What breaks off a body that arrives. -/
inductive BodyFault
  /-- What came is no body, or no whole one. -/
  | reply (fault : ReplyFault)
  /-- The system reports that the connection failed. -/
  | socket (fault : SocketFault)
  deriving DecidableEq, Repr

/-- The fault as a cause. -/
def BodyFault.cause : BodyFault → Cause
  | .reply fault => .reply fault
  | .socket fault => .socket fault

/-- How a body ends. -/
inductive Finish
  | complete
  | broken (fault : BodyFault)
  | stalled
  deriving DecidableEq, Repr

/-- A body that arrives. -/
structure Incoming where
  frames : List Frame
  finish : Finish
  deriving DecidableEq, Repr

/-- What becomes of a body that lacks something when no more comes. -/
def Ending.cutOff : Ending → Finish
  | .closed => .broken (.reply .closedEarly)
  | .held => .stalled

/-! ## Chunks -/

/-- Where in a chunked body the reader is. -/
inductive ChunkPlace
  /-- Before the first digit of a size. -/
  | start
  | digits (size : Nat)
  | sizeBlank (size : Nat)
  | extension (size read : Nat)
  | sizeFeed (size : Nat)
  /-- In a chunk of which so many octets are still to come. -/
  | data (missing : Nat) (reversed : Bytes)
  | dataReturn
  | dataFeed
  | lastLine
  | trailer
  | trailerFeed
  | endFeed
  | done
  | malformed
  deriving DecidableEq, Repr

/-- How many octets the extensions of a chunk may have. -/
def extensionLimit : Nat := 16384

/-- After the size of a chunk: a blank, an extension or the end of the line. -/
def afterSize (size : Nat) (octet : UInt8) : ChunkPlace :=
  if octet = 0x20 ∨ octet = 0x09 then .sizeBlank size
  else if octet = 0x3B then .extension size 0
  else if octet = 0x0D then .sizeFeed size
  else .malformed

/-- One more octet outside the data of a chunk. -/
def ChunkPlace.step (place : ChunkPlace) (octet : UInt8) : ChunkPlace :=
  match place with
  | .start =>
    match Percent.digitValue? octet with
    | some digit => .digits digit
    | none => .malformed
  | .digits size =>
    match Percent.digitValue? octet with
    | some digit => if size * 16 + digit < UInt64.size then .digits (size * 16 + digit) else .malformed
    | none => afterSize size octet
  | .sizeBlank size => afterSize size octet
  | .extension size read =>
    if octet = 0x0D then .sizeFeed size
    else if octet = 0x0A ∨ extensionLimit ≤ read then .malformed
    else .extension size (read + 1)
  | .sizeFeed size =>
    if octet ≠ 0x0A then .malformed else if size = 0 then .lastLine else .data size []
  | .data missing reversed => .data missing reversed
  | .dataReturn => if octet = 0x0D then .dataFeed else .malformed
  | .dataFeed => if octet = 0x0A then .start else .malformed
  | .lastLine => if octet = 0x0D then .endFeed else .trailer
  | .trailer => if octet = 0x0D then .trailerFeed else .trailer
  | .trailerFeed => if octet = 0x0A then .lastLine else .malformed
  | .endFeed => if octet = 0x0A then .done else .malformed
  | .done => .done
  | .malformed => .malformed

/-- The data of a chunk that has not come to its end. -/
def ChunkPlace.pending : ChunkPlace → List Frame
  | .data _ reversed => if reversed = [] then [] else [.data reversed.reverse]
  | _ => []

/-- The frames of a chunked body, of which some have been read, last first. -/
def readChunks (ending : Ending) (place : ChunkPlace) (reversed : List Frame) : Bytes → Incoming
  | [] =>
    match place with
    | .done => ⟨reversed.reverse, .complete⟩
    | .malformed => ⟨reversed.reverse, .broken (.reply .malformed)⟩
    | place => ⟨(place.pending ++ reversed).reverse, ending.cutOff⟩
  | octet :: rest =>
    match place with
    | .done => ⟨reversed.reverse, .complete⟩
    | .malformed => ⟨reversed.reverse, .broken (.reply .malformed)⟩
    | .data missing read =>
      if missing = 1 then
        readChunks ending .dataReturn (.data (octet :: read).reverse :: reversed) rest
      else readChunks ending (.data (missing - 1) (octet :: read)) reversed rest
    | .trailer => readChunks ending (place.step octet) reversed rest
    | .trailerFeed => readChunks ending (place.step octet) (.trailers :: reversed) rest
    | place => readChunks ending (place.step octet) reversed rest

/-- The body that octets after a head bring. -/
def incoming (framing : Framing) (ending : Ending) (bytes : Bytes) : Incoming :=
  match framing with
  | .sized length =>
    let data := bytes.take length
    ⟨if data = [] then [] else [.data data],
      if data.length = length then .complete else ending.cutOff⟩
  | .untilClose =>
    ⟨if bytes = [] then [] else [.data bytes],
      if ending = .closed then .complete else .stalled⟩
  | .chunked => readChunks ending .start [] bytes

/-! ## Reading with a cap -/

/-- What goes wrong while a body is read, which may be that time ran out. -/
def bodyFailure (cause : Cause) : Failure :=
  if cause.hasTimedOut then .of (.timeout .read) cause else .of .body cause

/-- What becomes of reading a body that ends before the cap is reached. -/
def Finish.result (finish : Finish) (buffer : Bytes) : Except Failure Bytes :=
  match finish with
  | .complete => .ok buffer
  | .broken fault => .error (bodyFailure fault.cause)
  | .stalled => .error (.timeout .read)

/-- Reads frames into a buffer that holds fewer octets than the cap. -/
def readFrames (cap : Nat) (finish : Finish) (buffer : Bytes) : List Frame → Except Failure Bytes
  | [] => finish.result buffer
  | .trailers :: rest => readFrames cap finish buffer rest
  | .data bytes :: rest =>
    let room := cap - buffer.length
    if room ≤ bytes.length then .ok (buffer ++ bytes.take room)
    else readFrames cap finish (buffer ++ bytes) rest

/-- The greatest count of octets that is ever kept. -/
def noCap : Nat := UInt64.size - 1

/-- Reads a body of which at most so many octets are kept; zero keeps all. -/
def readBody (cap : Nat) (body : Incoming) : Except Failure Bytes :=
  readFrames (if cap = 0 then noCap else cap) body.finish [] body.frames

end Courier.Wire
