import Courier.Number.Shortest
import Courier.Text.Quoted

/-! # JSON values and their text

A value is written without blanks. An object's members stand in the order of its list. A whole
number that fits a machine word is kept apart from a floating-point number, which is always written
so that it reads back as one: with a point or an exponent.
-/

namespace Courier

/-- A number of a JSON text. -/
inductive Json.Number
  /-- A whole number from zero to `2 ^ 64 - 1`. -/
  | natural (value : Nat)
  /-- A whole number below zero, not below `-2 ^ 63`, by its magnitude. -/
  | negative (magnitude : Nat)
  | float (value : Double)
  deriving DecidableEq, Repr

/-- A JSON value. -/
inductive Json
  | null
  | bool (value : Bool)
  | number (value : Json.Number)
  | string (value : String)
  | array (items : List Json)
  | object (members : List (String × Json))
  deriving Repr, BEq, Inhabited

namespace Json

/-- One character inside a string: a quote, a backslash and controls are escaped. -/
def escapeChar (c : Char) : List Char :=
  if c = '"' then ['\\', '"']
  else if c = '\\' then ['\\', '\\']
  else if c = '\x08' then ['\\', 'b']
  else if c = '\x0c' then ['\\', 'f']
  else if c = '\n' then ['\\', 'n']
  else if c = '\r' then ['\\', 'r']
  else if c = '\t' then ['\\', 't']
  else if c.toNat < 0x20 then
    ['\\', 'u', '0', '0'] ++ (if c.toNat < 0x10 then ['0'] else []) ++ Text.hexDigits c.toNat
  else [c]

/-- A string between its quotes. -/
def writeString (text : String) : String :=
  String.ofList (['"'] ++ text.toList.flatMap escapeChar ++ ['"'])

/-- So many zeros. -/
def zeros (count : Nat) : String := String.ofList (List.replicate count '0')

/-- An exponent after its mark; `plus` stands before one that is not below zero. -/
def writeExponent (plus : String) (exponent : Int) : String :=
  "e" ++ (if exponent < 0 then "-" else plus) ++ Nat.repr exponent.natAbs

/-- A decimal above zero: positional from `1e-5` to below `1e16`, with an exponent otherwise. -/
def writeDecimal (plus : String) (d : Double.Decimal) : String :=
  let digits := Nat.repr d.digits
  let count := digits.length
  let point := (count : Int) + d.exponent
  if 0 ≤ d.exponent ∧ point ≤ 16 then digits ++ zeros d.exponent.toNat ++ ".0"
  else if 0 < point ∧ point ≤ 16 then
    String.ofList (digits.toList.take point.toNat) ++ "." ++
      String.ofList (digits.toList.drop point.toNat)
  else if -5 < point ∧ point ≤ 0 then "0." ++ zeros (-point).toNat ++ digits
  else
    let fraction := digits.toList.drop 1
    String.ofList (digits.toList.take 1) ++
      (if fraction = [] then "" else "." ++ String.ofList fraction) ++
      writeExponent plus (point - 1)

/-- A floating-point number; what is not finite has no text of its own and becomes `null`. -/
def writeFloat (plus : String) (x : Double) : String :=
  if !x.isFinite then "null"
  else
    let sign := if x.isNegative then "-" else ""
    sign ++ (if x.significand = 0 then "0.0" else writeDecimal plus x.shortest)

/-- A number, with a given mark before an exponent that is not below zero. -/
def Number.writeWith (plus : String) : Number → String
  | .natural value => Nat.repr value
  | .negative magnitude => "-" ++ Nat.repr magnitude
  | .float value => writeFloat plus value

/-- A number in a JSON text. -/
def Number.write (number : Number) : String := number.writeWith "+"

mutual

/-- The text of a value. -/
def write : Json → String
  | .null => "null"
  | .bool true => "true"
  | .bool false => "false"
  | .number value => value.write
  | .string value => writeString value
  | .array items => "[" ++ ",".intercalate (writeItems items) ++ "]"
  | .object members => "\x7b" ++ ",".intercalate (writeMembers members) ++ "\x7d"

/-- The texts of the items of an array. -/
def writeItems : List Json → List String
  | [] => []
  | item :: rest => item.write :: writeItems rest

/-- The texts of the members of an object. -/
def writeMembers : List (String × Json) → List String
  | [] => []
  | (name, value) :: rest => (writeString name ++ ":" ++ value.write) :: writeMembers rest

end

end Json

end Courier
