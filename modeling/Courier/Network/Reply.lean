import Courier.Wire.Body

/-! # Replies

When a request has arrived, the other side sends octets and then closes the connection or leaves it
open. A reply gives these octets as they are, or as a message with a status, headers and a body.
-/

namespace Courier

/-- What comes back after a request has arrived. -/
structure Answer where
  bytes : Bytes
  ending : Wire.Ending
  /-- The arrival of the request makes the caller give up. -/
  cancels : Bool
  deriving DecidableEq, Repr

/-- The body of a message and how its end is marked. -/
inductive Payload
  /-- By its length. -/
  | sized (body : Bytes)
  /-- By the end of the connection. -/
  | untilClose (body : Bytes)
  /-- By a chunk of size zero. -/
  | chunked (chunks : List Bytes)
  deriving DecidableEq, Repr

/-- A message that is sent as an answer. -/
structure Message where
  status : Nat
  version : String
  reason : Bytes
  headers : List (Bytes × Bytes)
  payload : Payload
  /-- How many octets of the body are sent, if not all. -/
  sent : Option Nat
  /-- What follows the body, if it is not what the payload asks for. -/
  ending : Option Wire.Ending
  deriving DecidableEq, Repr

/-- What happens when a request has arrived. -/
inductive Reply
  | message (content : Message)
  | raw (bytes : Bytes) (ending : Wire.Ending)
  /-- The caller gives up, and nothing is sent. -/
  | cancel
  deriving DecidableEq, Repr

namespace Message

/-- The end of a line. -/
def newline : Bytes := [0x0D, 0x0A]

/-- A header line. -/
def line (name value : Bytes) : Bytes := name ++ [0x3A, 0x20] ++ value ++ newline

/-- A header line of texts. -/
def textLine (name value : String) : Bytes := line (Utf8.encode name) (Utf8.encode value)

/-- The header line that tells where a payload ends. -/
def framingLine : Payload → Bytes
  | .sized body => textLine "content-length" (Nat.repr body.length)
  | .untilClose _ => textLine "connection" "close"
  | .chunked _ => textLine "transfer-encoding" "chunked"

/-- A chunk with its size; an empty one is left out, because its size would end the body. -/
def chunk (data : Bytes) : Bytes :=
  if data = [] then []
  else Utf8.encode (String.ofList (Nat.toDigits 16 data.length)) ++ newline ++ data ++ newline

/-- The chunk that ends a body. -/
def lastChunk : Bytes := Utf8.encode "0" ++ newline ++ newline

/-- The octets of a payload that are sent. -/
def body (message : Message) : Bytes :=
  let cut := fun (body : Bytes) => (message.sent.map body.take).getD body
  match message.payload with
  | .sized body => cut body
  | .untilClose body => cut body
  | .chunked chunks => chunks.flatMap chunk ++ (if message.ending.isSome then [] else lastChunk)

/-- Whether a message of this status never has a body. -/
def isBare (message : Message) : Bool := message.status = 204 || message.status = 304

/-- The head of a message. -/
def head (message : Message) : Bytes :=
  Utf8.encode ("HTTP/" ++ message.version ++ " " ++ Nat.repr message.status ++ " ") ++
    message.reason ++ newline ++
    (message.headers.flatMap fun header => line header.1 header.2) ++
    (if message.isBare then [] else framingLine message.payload) ++ newline

/-- What follows the octets of a message. -/
def after (message : Message) : Wire.Ending :=
  message.ending.getD <|
    match message.payload with
    | .untilClose _ => .closed
    | _ => .held

end Message

/-- The answer to a request with a method; to some a message is sent without its body. -/
def Reply.answer (method : Method) : Reply → Answer
  | .message content =>
    let body := if content.isBare ∨ method = .head then [] else content.body
    ⟨content.head ++ body, content.after, false⟩
  | .raw bytes ending => ⟨bytes, ending, false⟩
  | .cancel => ⟨[], .held, true⟩

end Courier
