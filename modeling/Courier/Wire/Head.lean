import Courier.Http.Response

/-! # Reading the head of an answer

The head of an answer is a status line and header lines up to an empty line; a line ends with a line
feed that a carriage return may precede. The head is read octet by octet, so that an octet that
cannot stand where it is found spoils the head even when the rest never comes.
-/

namespace Courier.Wire

/-- Where in a head the reader is. -/
inductive Place
  /-- Before the status line, where empty lines may stand. -/
  | start
  | startFeed
  /-- In the name of the protocol, of which this is still to come. -/
  | protocol (rest : Bytes)
  | version
  | gap
  /-- In the status code, of which so many digits are still to come. -/
  | code (missing : Nat)
  | afterCode
  | reason
  | statusFeed
  | line
  | name (reversed : Bytes)
  | beforeValue (name : HeaderName)
  | value (name : HeaderName) (reversed : Bytes)
  | valueFeed
  | endFeed
  | done
  | malformed
  deriving DecidableEq, Repr

/-- A head in the course of being read. -/
structure HeadReading where
  place : Place
  version : Version
  code : Nat
  /-- The header lines, last first. -/
  lines : List (HeaderName × HeaderValue)
  deriving DecidableEq, Repr

/-- How many header lines a head may have. -/
def lineLimit : Nat := 100

namespace HeadReading

/-- Nothing read yet. -/
def begin : HeadReading := ⟨.start, .http11, 0, []⟩

/-- The reading at another place. -/
def movedTo (reading : HeadReading) (place : Place) : HeadReading := { reading with place }

/-- The head is none. -/
def fail (reading : HeadReading) : HeadReading := reading.movedTo .malformed

/-- The reading after one more header line, whose blanks at the end are no part of its value. -/
def addLine (reading : HeadReading) (name : HeaderName) (reversed : Bytes) (place : Place) :
    HeadReading :=
  let value := (reversed.dropWhile fun octet => octet = 0x20 || octet = 0x09).reverse
  { reading with place, lines := (name, ⟨value⟩) :: reading.lines }

/-- The end of a line that begins at an octet, if it is one. -/
def lineEnd? (octet : UInt8) (feed next : Place) : Option Place :=
  if octet = 0x0D then some feed else if octet = 0x0A then some next else none

/-- The place after a line feed that has to come. -/
def expectFeed (reading : HeadReading) (octet : UInt8) (next : Place) : HeadReading :=
  if octet = 0x0A then reading.movedTo next else reading.fail

/-- One more octet. -/
def step (reading : HeadReading) (octet : UInt8) : HeadReading :=
  match reading.place with
  | .start =>
    match lineEnd? octet .startFeed .start with
    | some next => reading.movedTo next
    | none => if octet = 0x48 then reading.movedTo (.protocol [0x54, 0x54, 0x50, 0x2F, 0x31, 0x2E])
        else reading.fail
  | .startFeed => reading.expectFeed octet .start
  | .protocol [] => reading.fail
  | .protocol [last] => if octet = last then reading.movedTo .version else reading.fail
  | .protocol (next :: rest) =>
    if octet = next then reading.movedTo (.protocol rest) else reading.fail
  | .version =>
    if octet = 0x31 then { reading with place := .gap, version := .http11 }
    else if octet = 0x30 then { reading with place := .gap, version := .http10 }
    else reading.fail
  | .gap => if octet = 0x20 then reading.movedTo (.code 3) else reading.fail
  | .code missing =>
    if 0x30 ≤ octet ∧ octet ≤ 0x39 then
      { reading with
        place := if missing = 1 then .afterCode else .code (missing - 1)
        code := reading.code * 10 + (octet.toNat - 0x30) }
    else reading.fail
  | .afterCode =>
    match lineEnd? octet .statusFeed .line with
    | some next => reading.movedTo next
    | none => if octet = 0x20 then reading.movedTo .reason else reading.fail
  | .reason =>
    match lineEnd? octet .statusFeed .line with
    | some next => reading.movedTo next
    | none => if HeaderValue.isAllowed octet then reading else reading.fail
  | .statusFeed => reading.expectFeed octet .line
  | .line =>
    match lineEnd? octet .endFeed .done with
    | some next => reading.movedTo next
    | none =>
      if reading.lines.length < lineLimit ∧ (HeaderName.character? octet).isSome then
        reading.movedTo (.name [octet])
      else reading.fail
  | .name reversed =>
    if octet = 0x3A then
      match HeaderName.ofBytes? reversed.reverse with
      | some name => reading.movedTo (.beforeValue name)
      | none => reading.fail
    else if (HeaderName.character? octet).isSome then reading.movedTo (.name (octet :: reversed))
    else reading.fail
  | .beforeValue name =>
    if octet = 0x20 ∨ octet = 0x09 then reading
    else if octet = 0x0D then reading.addLine name [] .valueFeed
    else if octet = 0x0A then reading.addLine name [] .line
    else if HeaderValue.isAllowed octet then reading.movedTo (.value name [octet])
    else reading.fail
  | .value name reversed =>
    if octet = 0x0D then reading.addLine name reversed .valueFeed
    else if octet = 0x0A then reading.addLine name reversed .line
    else if HeaderValue.isAllowed octet then reading.movedTo (.value name (octet :: reversed))
    else reading.fail
  | .valueFeed => reading.expectFeed octet .line
  | .endFeed => reading.expectFeed octet .done
  | .done => reading
  | .malformed => reading

/-- The head that has been read; a code below one hundred makes none. -/
def head? (reading : HeadReading) : Option Head :=
  if reading.code < 100 then none
  else some ⟨⟨reading.code⟩, reading.version, Headers.ofPairs reading.lines.reverse⟩

end HeadReading

/-- What octets hold at their beginning. -/
inductive HeadResult
  /-- A head, and what follows it. -/
  | complete (head : Head) (rest : Bytes)
  /-- The beginning of a head. -/
  | incomplete
  | malformed
  deriving DecidableEq, Repr

/-- Reads a head from where a reading stands. -/
def continueHead (reading : HeadReading) : Bytes → HeadResult
  | [] => .incomplete
  | octet :: rest =>
    let next := reading.step octet
    match next.place with
    | .done =>
      match next.head? with
      | some head => .complete head rest
      | none => .malformed
    | .malformed => .malformed
    | _ => continueHead next rest

/-- Reads the head at the beginning of octets. -/
def readHead (bytes : Bytes) : HeadResult := continueHead .begin bytes

/-- A status that only announces the head that follows. -/
def isInterim (status : Status) : Bool :=
  100 ≤ status.code && status.code < 200 && status.code ≠ 101

/-- Reads the first head that is not an announcement. The fuel is the count of octets, of which
every head takes some. -/
def readFinalHead : (fuel : Nat) → Bytes → HeadResult
  | 0, _ => .incomplete
  | fuel + 1, bytes =>
    match readHead bytes with
    | .complete head rest =>
      if isInterim head.status then readFinalHead fuel rest else .complete head rest
    | result => result

end Courier.Wire
