/-! # Octets and the texts they spell

A message body, a header value and a form component are sequences of octets; a text is read out of
them by UTF-8. Reading is either strict, and then partial, or it repairs what is not UTF-8 by writing
the replacement character once for every maximal run of octets that could have begun a character.
-/

namespace Courier

/-- Octets in the order in which they are sent. -/
abbrev Bytes := List UInt8

namespace Utf8

/-- The octets of a text. -/
def encode (text : String) : Bytes := text.toUTF8.data.toList

/-- The text that octets spell, when they are UTF-8. -/
def decode? (bytes : Bytes) : Option String := String.fromUTF8? ⟨bytes.toArray⟩

theorem decode?_encode (text : String) : decode? (encode text) = some text := by
  have valid : (⟨(encode text).toArray⟩ : ByteArray).IsValidUTF8 := by
    simpa [encode] using text.isValidUTF8
  simp only [decode?, String.fromUTF8?, valid, ↓reduceDIte, Option.some.injEq]
  rfl

/-- The replacement character, which stands for octets that spell nothing. -/
def replacement : Char := '\uFFFD'

/-- A character of which the first octets have been read. -/
structure Partial where
  /-- Continuation octets still to come. -/
  missing : Nat
  /-- Least octet that may come next. -/
  least : UInt8
  /-- Greatest octet that may come next. -/
  greatest : UInt8
  /-- The value of the bits read so far. -/
  value : Nat
  deriving DecidableEq, Repr

/-- A repair in progress: the characters read, last first, and the character begun. -/
structure Repair where
  read : List Char
  begun : Option Partial
  deriving DecidableEq, Repr

/-- An octet at which a character begins; the narrower ranges keep out overlong forms, surrogates
and values beyond the last character. -/
def Repair.lead (read : List Char) (octet : UInt8) : Repair :=
  let value := octet.toNat
  if value < 0x80 then ⟨Char.ofNat value :: read, none⟩
  else if value < 0xC2 then ⟨replacement :: read, none⟩
  else if value < 0xE0 then ⟨read, some ⟨1, 0x80, 0xBF, value - 0xC0⟩⟩
  else if value < 0xF0 then
    let least := if value = 0xE0 then 0xA0 else 0x80
    let greatest := if value = 0xED then 0x9F else 0xBF
    ⟨read, some ⟨2, least, greatest, value - 0xE0⟩⟩
  else if value < 0xF5 then
    let least := if value = 0xF0 then 0x90 else 0x80
    let greatest := if value = 0xF4 then 0x8F else 0xBF
    ⟨read, some ⟨3, least, greatest, value - 0xF0⟩⟩
  else ⟨replacement :: read, none⟩

/-- One more octet: it continues the character begun, or ends it with a replacement character and
begins another. -/
def Repair.step (state : Repair) (octet : UInt8) : Repair :=
  match state.begun with
  | none => Repair.lead state.read octet
  | some begun =>
    if begun.least ≤ octet ∧ octet ≤ begun.greatest then
      let value := begun.value * 64 + (octet.toNat - 0x80)
      if begun.missing = 1 then ⟨Char.ofNat value :: state.read, none⟩
      else ⟨state.read, some ⟨begun.missing - 1, 0x80, 0xBF, value⟩⟩
    else Repair.lead (replacement :: state.read) octet

/-- The text read, with a replacement character for a character that was only begun. -/
def Repair.finish (state : Repair) : String :=
  let read := if state.begun.isSome then replacement :: state.read else state.read
  String.ofList read.reverse

/-- The text of any octets: the one they spell, and a repaired one when they are not UTF-8. -/
def decodeLossy (bytes : Bytes) : String :=
  match decode? bytes with
  | some text => text
  | none => (bytes.foldl Repair.step ⟨[], none⟩).finish

theorem decodeLossy_encode (text : String) : decodeLossy (encode text) = text := by
  simp [decodeLossy, decode?_encode]

end Utf8

end Courier
