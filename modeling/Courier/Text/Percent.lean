import Courier.Text.Utf8

/-! # Percent-encoding

An octet outside the plain ones of its place is written as a percent sign and two hexadecimal
digits. Which ASCII characters are plain depends on the place; a character beyond ASCII never is.
-/

namespace Courier.Percent

/-- A hexadecimal digit, with capital letters. -/
def digit (value : Nat) : Char :=
  if value < 10 then Char.ofNat (0x30 + value) else Char.ofNat (0x41 + value - 10)

/-- The value of a hexadecimal digit in either case. -/
def digitValue? (octet : UInt8) : Option Nat :=
  let value := octet.toNat
  if 0x30 ≤ value ∧ value ≤ 0x39 then some (value - 0x30)
  else if 0x41 ≤ value ∧ value ≤ 0x46 then some (value - 0x41 + 10)
  else if 0x61 ≤ value ∧ value ≤ 0x66 then some (value - 0x61 + 10)
  else none

/-- The three characters that stand for an octet. -/
def escape (octet : UInt8) : List Char := ['%', digit (octet.toNat / 16), digit (octet.toNat % 16)]

/-- Octets with those that are plain kept and the others escaped. -/
def encodeBytes (plain : UInt8 → Bool) (bytes : Bytes) : List Char :=
  bytes.flatMap fun octet => if plain octet then [Char.ofNat octet.toNat] else escape octet

/-- A text with its plain ASCII characters kept and the octets of the others escaped. -/
def encode (plain : UInt8 → Bool) (text : List Char) : List Char :=
  text.flatMap fun c =>
    if c.toNat < 0x80 then encodeBytes plain [c.toNat.toUInt8]
    else (String.utf8EncodeChar c).flatMap escape

/-- The octets meant by a percent-encoded sequence; a percent sign that is not followed by two
hexadecimal digits means itself. -/
def decode : Bytes → Bytes
  | 0x25 :: high :: low :: rest =>
    match digitValue? high, digitValue? low with
    | some h, some l => (h * 16 + l).toUInt8 :: decode rest
    | _, _ => 0x25 :: decode (high :: low :: rest)
  | octet :: rest => octet :: decode rest
  | [] => []

end Courier.Percent
