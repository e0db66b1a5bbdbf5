import Courier.Json.Value
import Courier.Text.Percent

/-! # Reading JSON texts

A text is first read into a tree that keeps every member of an object and remembers which numbers
and strings have no value (a number beyond the greatest float, a string that is not UTF-8 or holds
half of a surrogate pair). Such a leaf spoils only a reader that looks at it. Arrays and objects may
be nested to a limit.

A decimal is scaled in binary: its digits make a machine word, digits that no longer fit are
dropped, and the word, as a float, is multiplied or divided by a power of ten.
-/

namespace Courier.Json

/-- A JSON text as read, before its leaves are asked for their values. -/
inductive Raw
  | null
  | bool (value : Bool)
  | number (value : Option Number)
  | string (value : Option String)
  | array (items : List Raw)
  | object (members : List (Option String × Raw))
  deriving Repr, Inhabited

/-- A blank between tokens. -/
def isBlank (octet : UInt8) : Bool :=
  octet == 0x20 || octet == 0x09 || octet == 0x0A || octet == 0x0D

/-- A text without the blanks at its beginning. -/
def skipBlanks (bytes : Bytes) : Bytes := bytes.dropWhile isBlank

/-- What follows a given word, when the text begins with it. -/
def afterWord? : (word bytes : Bytes) → Option Bytes
  | [], bytes => some bytes
  | w :: word, b :: bytes => if w = b then afterWord? word bytes else none
  | _ :: _, [] => none

/-! ## Strings -/

/-- The four hexadecimal digits of an escape. -/
def codeUnit? (a b c d : UInt8) : Option Nat := do
  let x ← Percent.digitValue? a
  let y ← Percent.digitValue? b
  let z ← Percent.digitValue? c
  let w ← Percent.digitValue? d
  some (((x * 16 + y) * 16 + z) * 16 + w)

/-- The octet that a short escape stands for. -/
def shortEscape? (octet : UInt8) : Option UInt8 :=
  match octet.toNat with
  | 0x22 => some 0x22
  | 0x5C => some 0x5C
  | 0x2F => some 0x2F
  | 0x62 => some 0x08
  | 0x66 => some 0x0C
  | 0x6E => some 0x0A
  | 0x72 => some 0x0D
  | 0x74 => some 0x09
  | _ => none

/-- Octets put in front of a reversed sequence, last first. -/
def pushChar (c : Char) (reversed : Bytes) : Bytes := (String.utf8EncodeChar c).reverseAux reversed

/-- The rest of a string after its opening quote: the text, if it has one, and what follows the
closing quote. `whole` is false once an escape has named half of a surrogate pair. -/
def readString (reversed : Bytes) (whole : Bool) : Bytes → Option (Option String × Bytes)
  | 0x22 :: rest => some (if whole then Utf8.decode? reversed.reverse else none, rest)
  | 0x5C :: 0x75 :: a :: b :: c :: d :: rest =>
    match codeUnit? a b c d with
    | none => none
    | some unit =>
      if unit < 0xD800 ∨ 0xDFFF < unit then
        readString (pushChar (Char.ofNat unit) reversed) whole rest
      else
        match _shape : rest with
        | 0x5C :: 0x75 :: e :: f :: g :: h :: more =>
          match codeUnit? e f g h with
          | none => none
          | some low =>
            if unit < 0xDC00 ∧ 0xDC00 ≤ low ∧ low ≤ 0xDFFF then
              let value := 0x10000 + (unit - 0xD800) * 0x400 + (low - 0xDC00)
              readString (pushChar (Char.ofNat value) reversed) whole more
            else readString reversed false (0x5C :: 0x75 :: e :: f :: g :: h :: more)
        | _ => readString reversed false rest
  | 0x5C :: octet :: rest =>
    match shortEscape? octet with
    | none => none
    | some meant => readString (meant :: reversed) whole rest
  | octet :: rest => if octet < 0x20 then none else readString (octet :: reversed) whole rest
  | [] => none
termination_by bytes => bytes.length
decreasing_by all_goals (simp_all only [List.length_cons]; omega)

/-! ## Numbers -/

/-- A decimal digit. -/
def isDigit (octet : UInt8) : Bool := 0x30 ≤ octet && octet ≤ 0x39

/-- The greatest machine word. -/
def maxWord : Nat := UInt64.size - 1

/-- Digits appended to a word while they fit, how many were appended, and how many were not. -/
def gather : (word taken : Nat) → Bytes → Nat × Nat × Nat
  | word, taken, [] => (word, taken, 0)
  | word, taken, octet :: rest =>
    let next := word * 10 + (octet.toNat - 0x30)
    if next ≤ maxWord then gather next (taken + 1) rest else (word, taken, rest.length + 1)

/-- A word scaled by a power of ten, each step rounded to a float; nothing when the result is
beyond the greatest float. The fuel bounds the steps for exponents below `-308`. -/
def scale? : (fuel : Nat) → Double → Int → Option Double
  | 0, x, _ => some x
  | fuel + 1, x, exponent =>
    if exponent.natAbs ≤ 308 then
      if 0 ≤ exponent then
        let product := x * Double.tenTo exponent.natAbs
        if product.isFinite then some product else none
      else some (x / Double.tenTo exponent.natAbs)
    else if x = Double.zero then some x
    else if 0 ≤ exponent then none
    else scale? fuel (x / Double.tenTo 308) (exponent + 308)

/-- The float with a sign, a word of digits and a decimal exponent. -/
def float? (negative : Bool) (word : Nat) (exponent : Int) : Option Number :=
  let magnitude := Double.ofCount word.toUInt64
  let x? := if word = 0 then some Double.zero else scale? 8 magnitude exponent
  x?.map fun x => .float (if negative then -x else x)

/-- The parts of a number as written. -/
structure Numeral where
  negative : Bool
  whole : Bytes
  fraction : Option Bytes
  /-- The sign (true for minus) and the digits of the exponent. -/
  exponent : Option (Bool × Bytes)
  deriving DecidableEq, Repr

/-- The value of digits. -/
def digitsValue (digits : Bytes) : Nat :=
  digits.foldl (fun value octet => value * 10 + (octet.toNat - 0x30)) 0

/-- The value of a number: a whole number that fits its word, and a float otherwise. -/
def Numeral.value? (n : Numeral) : Option Number :=
  let (word, _, dropped) := gather 0 0 n.whole
  match n.fraction, n.exponent with
  | none, none =>
    if dropped ≠ 0 then float? n.negative word dropped
    else if !n.negative then some (.natural word)
    else if word = 0 ∨ 0x8000000000000000 < word then float? true word 0
    else some (.negative word)
  | fraction, exponent =>
    let (word, taken, _) := gather word 0 (fraction.getD [])
    let start : Int := (dropped : Int) - (taken : Int)
    match exponent with
    | none => float? n.negative word start
    | some (below, digits) =>
      let size := digitsValue digits
      if 2147483647 < size then
        if word ≠ 0 ∧ !below then none
        else some (.float (if n.negative then Double.negativeZero else Double.zero))
      else float? n.negative word (if below then start - size else start + size)

/-- The digits at the beginning of a text, at least one, and what follows them. -/
def digits? (bytes : Bytes) : Option (Bytes × Bytes) :=
  match bytes.takeWhile isDigit with
  | [] => none
  | digits => some (digits, bytes.dropWhile isDigit)

/-- The number at the beginning of a text, and what follows it. -/
def readNumber (bytes : Bytes) : Option (Numeral × Bytes) := do
  let negative := bytes.head? = some 0x2D
  let (whole, rest) ← digits? (if negative then bytes.drop 1 else bytes)
  if whole.head? = some 0x30 ∧ 1 < whole.length then none
  else
    let (fraction, rest) ← match rest with
      | 0x2E :: more => (digits? more).map fun (digits, rest) => (some digits, rest)
      | _ => some (none, rest)
    let (exponent, rest) ← match rest with
      | octet :: more =>
        if octet = 0x65 ∨ octet = 0x45 then
          let below := more.head? = some 0x2D
          let signed := below ∨ more.head? = some 0x2B
          (digits? (if signed then more.drop 1 else more)).map fun (digits, rest) =>
            (some (decide below, digits), rest)
        else some (none, rest)
      | [] => some (none, rest)
    some (⟨negative, whole, fraction, exponent⟩, rest)

/-! ## Values -/

/-- A reader of one value. -/
abbrev Reader := Bytes → Option (Raw × Bytes)

/-- The items of an array after the first bracket or comma, last first. The fuel is the length of
the whole text, of which every item takes a part. -/
def readItems (item : Reader) : (fuel : Nat) → List Raw → Bytes → Option (Raw × Bytes)
  | 0, _, _ => none
  | fuel + 1, reversed, bytes => do
    let (value, rest) ← item (skipBlanks bytes)
    match skipBlanks rest with
    | 0x2C :: more => readItems item fuel (value :: reversed) more
    | 0x5D :: more => some (.array (value :: reversed).reverse, more)
    | _ => none

/-- The members of an object after the first brace or comma, last first. -/
def readMembers (item : Reader) :
    (fuel : Nat) → List (Option String × Raw) → Bytes → Option (Raw × Bytes)
  | 0, _, _ => none
  | fuel + 1, reversed, bytes =>
    match skipBlanks bytes with
    | 0x22 :: more => do
      let (name, rest) ← readString [] true more
      match skipBlanks rest with
      | 0x3A :: more => do
        let (value, rest) ← item (skipBlanks more)
        match skipBlanks rest with
        | 0x2C :: more => readMembers item fuel ((name, value) :: reversed) more
        | 0x7D :: more => some (.object ((name, value) :: reversed).reverse, more)
        | _ => none
      | _ => none
    | _ => none

/-- A value that begins a text without blanks in front; `nested?` reads the values inside it, if it
may hold any. The fuel is the length of the whole text. -/
def readValueWith (fuel : Nat) (nested? : Option Reader) (bytes : Bytes) : Option (Raw × Bytes) :=
  match bytes with
  | 0x22 :: rest => (readString [] true rest).map fun (text, rest) => (.string text, rest)
  | 0x5B :: rest => do
    let item ← nested?
    match skipBlanks rest with
    | 0x5D :: more => some (.array [], more)
    | _ => readItems item fuel [] rest
  | 0x7B :: rest => do
    let item ← nested?
    match skipBlanks rest with
    | 0x7D :: more => some (.object [], more)
    | _ => readMembers item fuel [] rest
  | 0x6E :: rest => (afterWord? [0x75, 0x6C, 0x6C] rest).map fun rest => (.null, rest)
  | 0x74 :: rest => (afterWord? [0x72, 0x75, 0x65] rest).map fun rest => (.bool true, rest)
  | 0x66 :: rest => (afterWord? [0x61, 0x6C, 0x73, 0x65] rest).map fun rest => (.bool false, rest)
  | _ => (readNumber bytes).map fun (numeral, rest) => (.number numeral.value?, rest)

/-- A value in which arrays and objects are nested no deeper than a limit. -/
def readValue (fuel : Nat) : (limit : Nat) → Reader
  | 0 => readValueWith fuel none
  | limit + 1 => readValueWith fuel (some (readValue fuel limit))

/-- The value that makes up a whole text, blanks aside. -/
def Raw.parse? (limit : Nat) (bytes : Bytes) : Option Raw :=
  match readValue bytes.length limit (skipBlanks bytes) with
  | some (raw, rest) => if skipBlanks rest = [] then some raw else none
  | none => none

/-- The depth to which values may be nested. -/
def depthLimit : Nat := 127

/-- A member put into a sorted list of members; it replaces one of the same name. -/
def insertMember (name : String) (value : Json) : List (String × Json) → List (String × Json)
  | [] => [(name, value)]
  | (other, old) :: rest =>
    if name < other then (name, value) :: (other, old) :: rest
    else if name = other then (name, value) :: rest
    else (other, old) :: insertMember name value rest

mutual

/-- The value of a text as read, unless one of its leaves has none. The members of an object are
sorted by name, and of several with one name the last counts. -/
def Raw.value? : Raw → Option Json
  | .null => some .null
  | .bool value => some (.bool value)
  | .number value => value.map .number
  | .string value => value.map .string
  | .array items => (Raw.items? items).map .array
  | .object members => (Raw.members? [] members).map .object

/-- The values of the items of an array. -/
def Raw.items? : List Raw → Option (List Json)
  | [] => some []
  | item :: rest => do
    let value ← item.value?
    let more ← Raw.items? rest
    some (value :: more)

/-- The members of an object, added to a sorted list of members. -/
def Raw.members? (sorted : List (String × Json)) :
    List (Option String × Raw) → Option (List (String × Json))
  | [] => some sorted
  | (name, raw) :: rest => do
    let name ← name
    let value ← raw.value?
    Raw.members? (insertMember name value sorted) rest

end

/-- The value of a JSON text. -/
def parse? (bytes : Bytes) : Option Json := (Raw.parse? depthLimit bytes).bind Raw.value?

end Courier.Json
