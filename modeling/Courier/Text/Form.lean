import Courier.Text.Percent

/-! # Form encoding

The encoding `application/x-www-form-urlencoded` of a list of names and values. Letters, digits and
`*-._` stand for themselves, a space is written as a plus sign, and every other octet is escaped, so
the separators `&` and `=` never occur inside a name or a value.
-/

namespace Courier.Form

/-- The octets that stand for themselves. -/
def isPlain (octet : UInt8) : Bool :=
  let value := octet.toNat
  (0x30 ≤ value && value ≤ 0x39) || (0x41 ≤ value && value ≤ 0x5A) ||
    (0x61 ≤ value && value ≤ 0x7A) || value == 0x2A || value == 0x2D || value == 0x2E ||
    value == 0x5F

/-- One octet of a name or value. -/
def encodeOctet (octet : UInt8) : List Char :=
  if octet = 0x20 then ['+']
  else if isPlain octet then [Char.ofNat octet.toNat]
  else Percent.escape octet

/-- A name or a value. -/
def encodePart (text : String) : List Char := (Utf8.encode text).flatMap encodeOctet

/-- A name and its value. -/
def encodePair (pair : String × String) : List Char :=
  encodePart pair.1 ++ '=' :: encodePart pair.2

/-- The pairs, in order, between ampersands. -/
def encodePairs : List (String × String) → List Char
  | [] => []
  | [pair] => encodePair pair
  | pair :: rest => encodePair pair ++ '&' :: encodePairs rest

/-- The encoded form of a list of pairs. -/
def encode (pairs : List (String × String)) : String := String.ofList (encodePairs pairs)

/-- The text meant by an encoded name or value: a plus sign means a space, escapes are undone, and
the octets are read as UTF-8. -/
def decodePart (part : Bytes) : String :=
  Utf8.decodeLossy (Percent.decode (part.map fun octet => if octet = 0x2B then 0x20 else octet))

/-- The octets before the first separator, and those after it if there is one. -/
def cut (separator : UInt8) (bytes : Bytes) : Bytes × Option Bytes :=
  match bytes.dropWhile (· ≠ separator) with
  | [] => (bytes, none)
  | _ :: rest => (bytes.takeWhile (· ≠ separator), some rest)

/-- The sequences between separators. -/
def pieces (separator : UInt8) : Bytes → List Bytes
  | [] => [[]]
  | octet :: rest =>
    match pieces separator rest with
    | [] => [[octet]]
    | piece :: more =>
      if octet = separator then [] :: piece :: more else (octet :: piece) :: more

/-- The pair meant by the octets between two ampersands; without an equals sign the value is
empty. -/
def decodePair (piece : Bytes) : String × String :=
  let (name, value) := cut 0x3D piece
  (decodePart name, decodePart (value.getD []))

/-- The pairs of an encoded form; nothing stands between two ampersands that follow each other. -/
def decodeBytes (bytes : Bytes) : List (String × String) :=
  ((pieces 0x26 bytes).filter (· ≠ [])).map decodePair

/-- The pairs of an encoded form given as a text. -/
def decode (text : String) : List (String × String) := decodeBytes (Utf8.encode text)

end Courier.Form
