import Courier.Json.Reader

/-! # Values of an expected shape

A text can be read as a value of any shape, or as one of a given shape; then everything that does
not fit the shape is refused. Of a record, members that are not asked for are passed over.
-/

namespace Courier.Json

/-- A record with an optional member, as a text may describe it by its members or by position. -/
structure Item where
  name : String
  count : Nat
  note : Option String
  deriving DecidableEq, Repr

/-- A shape that a text can be asked for. -/
inductive Shape
  | value
  /-- A whole number of sixty-four bits without sign. -/
  | word
  /-- A whole number of eight bits with sign. -/
  | octet
  | bool
  | string
  | strings
  | item
  deriving DecidableEq, Repr

/-- The text of a string. -/
def Raw.string? : Raw → Option String
  | .string value => value
  | _ => none

/-- A whole number from zero to a bound. -/
def Raw.natural? (bound : Nat) : Raw → Option Nat
  | .number (some (.natural value)) => if value ≤ bound then some value else none
  | _ => none

/-- A text that may be absent. -/
def Raw.optional? : Raw → Option (Option String)
  | .null => some none
  | raw => raw.string?.map some

/-- The members of a record that have been found. -/
structure Found where
  name : Option String
  count : Option Nat
  note : Option (Option String)
  deriving DecidableEq, Repr

/-- One more member: it must be the first of its name, and one without a place is passed over. -/
def Found.add (found : Found) (member : Option String × Raw) : Option Found := do
  let name ← member.1
  if name = "name" then
    if found.name.isSome then none
    else (member.2.string?).map fun text => { found with name := some text }
  else if name = "count" then
    if found.count.isSome then none
    else (member.2.natural? (UInt32.size - 1)).map fun count => { found with count := some count }
  else if name = "note" then
    if found.note.isSome then none
    else (member.2.optional?).map fun note => { found with note := some note }
  else some found

/-- A record by its members, or by position with all three given. -/
def Raw.item? : Raw → Option Item
  | .object members => do
    let found ← members.foldlM Found.add ⟨none, none, none⟩
    let name ← found.name
    let count ← found.count
    some ⟨name, count, found.note.getD none⟩
  | .array [name, count, note] => do
    let name ← name.string?
    let count ← count.natural? (UInt32.size - 1)
    let note ← note.optional?
    some ⟨name, count, note⟩
  | _ => none

/-- A record as a value. -/
def Item.toJson (item : Item) : Json :=
  .object [("count", .number (.natural item.count)), ("name", .string item.name),
    ("note", (item.note.map Json.string).getD .null)]

/-- The value of a text as read, when it has a given shape. -/
def Raw.shaped? : Shape → Raw → Option Json
  | .value, raw => raw.value?
  | .word, raw => (raw.natural? maxWord).map fun value => .number (.natural value)
  | .octet, .number (some (.negative magnitude)) =>
    if magnitude ≤ 128 then some (.number (.negative magnitude)) else none
  | .octet, raw => (raw.natural? 127).map fun value => .number (.natural value)
  | .bool, .bool value => some (.bool value)
  | .bool, _ => none
  | .string, raw => raw.string?.map .string
  | .strings, .array items => (items.mapM Raw.string?).map fun texts => .array (texts.map .string)
  | .strings, _ => none
  | .item, raw => raw.item?.map Item.toJson

/-- The value of a JSON text of a given shape. What a record passes over may be nested to any
depth. -/
def decode? (shape : Shape) (bytes : Bytes) : Option Json :=
  let limit := if shape = .item then bytes.length else depthLimit
  (Raw.parse? limit bytes).bind (Raw.shaped? shape)

end Courier.Json
