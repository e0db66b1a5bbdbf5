import Courier.Json.Value
import Courier.Text.Form

/-! # Data for a body

A datum becomes a body as JSON text or in form encoding. Every datum has a JSON text, but only a
record of plain values and a list of pairs have a form encoding.
-/

namespace Courier

/-- What a body is made from. -/
inductive Datum
  | json (value : Json)
  | pairs (list : List (String × String))
  deriving Repr

/-- Why a datum has no form encoding. -/
inductive FormFault
  | topLevel
  | pair
  | value
  deriving DecidableEq, Repr

/-- The wording of a fault. -/
def FormFault.message : FormFault → String
  | .topLevel => "top-level serializer supports only maps and structs"
  | .pair => "unsupported pair"
  | .value => "unsupported value"

namespace Datum

/-- The datum as a JSON value; a pair is an array of two. -/
def toJson : Datum → Json
  | .json value => value
  | .pairs list => .array (list.map fun pair => .array [.string pair.1, .string pair.2])

/-- The JSON text. -/
def jsonText (datum : Datum) : String := datum.toJson.write

/-- The text of a plain value: a string, a number or a truth value. An exponent has no plus sign, which
would have to be escaped. -/
def plainText? : Json → Option String
  | .string text => some text
  | .number number => some (number.writeWith "")
  | .bool true => some "true"
  | .bool false => some "false"
  | _ => none

/-- A member of a record as a pair. -/
def member (member : String × Json) : Except FormFault (String × String) :=
  match plainText? member.2 with
  | some text => .ok (member.1, text)
  | none => .error .value

/-- The pairs of a datum. -/
def formPairs : Datum → Except FormFault (List (String × String))
  | .pairs list => .ok list
  | .json (.object members) => members.mapM member
  | .json (.array []) => .ok []
  | .json (.array (_ :: _)) => .error .pair
  | .json .null => .ok []
  | .json _ => .error .topLevel

/-- The form encoding. -/
def formText (datum : Datum) : Except FormFault String := datum.formPairs.map Form.encode

end Datum

end Courier
