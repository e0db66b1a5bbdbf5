import Courier.Text.Utf8

/-! # Base64

Three octets are written as four letters of an alphabet of sixty-four; the end is filled up with
equals signs to a multiple of four letters.
-/

namespace Courier.Base64

/-- The letter for a value below sixty-four. -/
def letter (value : Nat) : Char :=
  if value < 26 then Char.ofNat (0x41 + value)
  else if value < 52 then Char.ofNat (0x61 + value - 26)
  else if value < 62 then Char.ofNat (0x30 + value - 52)
  else if value = 62 then '+' else '/'

/-- The value of a letter. -/
def letterValue? (c : Char) : Option Nat :=
  let value := c.toNat
  if 0x41 ≤ value ∧ value ≤ 0x5A then some (value - 0x41)
  else if 0x61 ≤ value ∧ value ≤ 0x7A then some (value - 0x61 + 26)
  else if 0x30 ≤ value ∧ value ≤ 0x39 then some (value - 0x30 + 52)
  else if c = '+' then some 62 else if c = '/' then some 63 else none

/-- The letters for a sequence of octets. -/
def encodeChars : Bytes → List Char
  | a :: b :: c :: rest =>
    let word := a.toNat * 65536 + b.toNat * 256 + c.toNat
    letter (word / 262144) :: letter (word / 4096 % 64) :: letter (word / 64 % 64) ::
      letter (word % 64) :: encodeChars rest
  | [a, b] =>
    let word := a.toNat * 1024 + b.toNat * 4
    [letter (word / 4096), letter (word / 64 % 64), letter (word % 64), '=']
  | [a] => [letter (a.toNat / 4), letter (a.toNat % 4 * 16), '=', '=']
  | [] => []

/-- The padded base64 text of a sequence of octets. -/
def encode (bytes : Bytes) : String := String.ofList (encodeChars bytes)

/-- The octets that padded letters stand for; padding stands only at the end, and the bits that it
leaves over are zero. -/
def decodeChars? : List Char → Option Bytes
  | [] => some []
  | [a, b, '=', '='] => do
    let x ← letterValue? a
    let y ← letterValue? b
    if y % 16 = 0 then some [(x * 4 + y / 16).toUInt8] else none
  | [a, b, c, '='] => do
    let x ← letterValue? a
    let y ← letterValue? b
    let z ← letterValue? c
    let word := x * 4096 + y * 64 + z
    if z % 4 = 0 then some [(word / 1024).toUInt8, (word / 4 % 256).toUInt8] else none
  | a :: b :: c :: d :: rest => do
    let x ← letterValue? a
    let y ← letterValue? b
    let z ← letterValue? c
    let w ← letterValue? d
    let word := x * 262144 + y * 4096 + z * 64 + w
    let more ← decodeChars? rest
    some ((word / 65536).toUInt8 :: (word / 256 % 256).toUInt8 :: (word % 256).toUInt8 :: more)
  | _ => none

/-- The octets that a padded base64 text stands for. -/
def decode? (text : String) : Option Bytes := decodeChars? text.toList

end Courier.Base64
