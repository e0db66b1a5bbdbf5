import Courier.Url.Domain

/-! # Hosts

A host is a domain name or an address. A name that ends in a number is an address of four octets,
which may be written with fewer parts and in octal or hexadecimal; an address of eight pieces is
written between brackets. In a URL of a scheme without these rules any text without separators is a
host.
-/

namespace Courier

/-- The host of a URL. -/
inductive Host
  /-- An authority without a host. -/
  | empty
  | domain (name : String)
  | ipv4 (address : UInt32)
  /-- Eight pieces of sixteen bits. -/
  | ipv6 (pieces : List UInt16)
  deriving DecidableEq, Repr

/-- Why a text is not a URL. -/
inductive Url.Fault
  | emptyHost
  | invalidDomain
  | invalidPort
  | invalidIpv4
  | invalidIpv6
  | forbiddenCharacter
  | relativeWithoutBase
  | relativeToRootless
  deriving DecidableEq, Repr

namespace Host

/-! ## Addresses of four octets -/

/-- The value of the digits of a base, if all are digits of it. -/
def digitsValue? (base : Nat) (digits : List Char) : Option Nat :=
  let step := fun (value : Nat) (c : Char) => do
    let d ← Percent.digitValue? c.toNat.toUInt8
    if c.toNat < 0x80 ∧ d < base then some (value * base + d) else none
  digits.foldlM step 0

/-- A part of an address: decimal, octal after a zero, hexadecimal after `0x`. -/
def number? : List Char → Option Nat
  | [] => none
  | '0' :: 'x' :: digits => digitsValue? 16 digits
  | '0' :: 'X' :: digits => digitsValue? 16 digits
  | '0' :: d :: digits => digitsValue? 8 (d :: digits)
  | digits => digitsValue? 10 digits

/-- The parts of a name, without the empty one after a full stop at its end. -/
def parts (name : List Char) : List (List Char) :=
  match (Domain.labels name).reverse with
  | [] :: rest@(_ :: _) => rest.reverse
  | parts => parts.reverse

/-- Whether the last part of a name is a number, which makes the name an address. -/
def endsInNumber (name : List Char) : Bool :=
  match (parts name).getLast? with
  | none => false
  | some last => (last ≠ [] && last.all Char.isDigit) || (number? last).isSome

/-- The address that a name stands for: the last part fills the octets that the others leave. -/
def ipv4? (name : List Char) : Option UInt32 := do
  let parts := parts name
  if 4 < parts.length then none
  else
    let numbers ← parts.mapM number?
    let last ← numbers.getLast?
    let leading := numbers.dropLast
    if Nat.pow 256 (4 - leading.length) ≤ last ∨ leading.any (255 < ·) then none
    else
      let high := leading.foldl (fun value n => value * 256 + n) 0
      some (high * Nat.pow 256 (4 - leading.length) + last).toUInt32

/-- The text of an address. -/
def ipv4Text (address : UInt32) : String :=
  let value := address.toNat
  ".".intercalate ([value / 16777216, value / 65536 % 256, value / 256 % 256, value % 256].map Nat.repr)

/-! ## Addresses of eight pieces -/

/-- The sequences between occurrences of a character. -/
def splitAt (separator : Char) (text : List Char) : List (List Char) :=
  let step := fun (done : List (List Char) × List Char) (c : Char) =>
    if c = separator then (done.2.reverse :: done.1, []) else (done.1, c :: done.2)
  let (before, last) := text.foldl step ([], [])
  (last.reverse :: before).reverse

/-- One piece: one to four hexadecimal digits. -/
def piece? (digits : List Char) : Option UInt16 :=
  if digits = [] ∨ 4 < digits.length then none else (digitsValue? 16 digits).map Nat.toUInt16

/-- One octet of an address in decimal, without a zero in front. -/
def octet? (digits : List Char) : Option Nat :=
  if digits = [] ∨ 3 < digits.length ∨ (digits.head? = some '0' ∧ 1 < digits.length) then none
  else (digitsValue? 10 digits).filter (· ≤ 255)

/-- Four octets in decimal as two pieces. -/
def dotted? (text : List Char) : Option (List UInt16) := do
  match ← (splitAt '.' text).mapM octet? with
  | [a, b, c, d] => some [(a * 256 + b).toUInt16, (c * 256 + d).toUInt16]
  | _ => none

/-- The pieces between colons; the last may be four octets in decimal, where the address ends. -/
def pieces? (atEnd : Bool) : List (List Char) → Option (List UInt16)
  | [] => some []
  | [last] =>
    if atEnd ∧ last.contains '.' then dotted? last else (piece? last).map ([·])
  | group :: rest => do
    let piece ← piece? group
    let more ← pieces? atEnd rest
    some (piece :: more)

/-- The texts before and after the first double colon. -/
def atGap? : List Char → Option (List Char × List Char)
  | ':' :: ':' :: rest => some ([], rest)
  | c :: rest => (atGap? rest).map fun (before, after) => (c :: before, after)
  | [] => none

/-- The groups of a part of an address; an empty part has none. -/
def groups (text : List Char) : List (List Char) := if text = [] then [] else splitAt ':' text

/-- The pieces of an address; a double colon stands for one or more zero pieces. -/
def ipv6? (text : List Char) : Option (List UInt16) :=
  match atGap? text with
  | none => (pieces? true (groups text)).filter (·.length = 8)
  | some (before, after) => do
    let left ← pieces? false (groups before)
    let right ← pieces? true (groups after)
    if 7 < left.length + right.length then none
    else some (left ++ List.replicate (8 - left.length - right.length) 0 ++ right)

/-- How many zero pieces begin a sequence. -/
def zerosAhead (pieces : List UInt16) : Nat := (pieces.takeWhile (· = 0)).length

/-- Where the longest run of zero pieces begins, the first of the longest. -/
def gapStart (pieces : List UInt16) : Nat :=
  (List.range pieces.length).foldl (fun best k =>
    if zerosAhead (pieces.drop best) < zerosAhead (pieces.drop k) then k else best) 0

/-- Pieces between colons. -/
def joinPieces (pieces : List UInt16) : String :=
  ":".intercalate (pieces.map fun piece => String.ofList (Nat.toDigits 16 piece.toNat))

/-- The text of an address: the longest run of at least two zero pieces is left out. -/
def ipv6Text (pieces : List UInt16) : String :=
  let start := gapStart pieces
  let run := zerosAhead (pieces.drop start)
  if run < 2 then joinPieces pieces
  else joinPieces (pieces.take start) ++ "::" ++ joinPieces (pieces.drop (start + run))

/-! ## Reading and writing -/

/-- The text of a host. -/
def text : Host → String
  | .empty => ""
  | .domain name => name
  | .ipv4 address => ipv4Text address
  | .ipv6 pieces => "[" ++ ipv6Text pieces ++ "]"

/-- The host between brackets, the opening one already passed. -/
def bracketed? (inside : List Char) : Except Url.Fault Host :=
  if inside.getLast? = some ']' then
    match ipv6? inside.dropLast with
    | some pieces => .ok (.ipv6 pieces)
    | none => .error .invalidIpv6
  else .error .invalidIpv6

/-- A host of a scheme whose hosts are names and addresses. -/
def parse (text : List Char) : Except Url.Fault Host :=
  match text with
  | '[' :: inside => bracketed? inside
  | _ =>
    match Domain.toAscii? (Utf8.encode (String.ofList text)) with
    | none => .error .invalidDomain
    | some name =>
      if name = "" then .error .emptyHost
      else if endsInNumber name.toList then
        match ipv4? name.toList with
        | some address => .ok (.ipv4 address)
        | none => .error .invalidIpv4
      else .ok (.domain name)

/-- A character that cannot stand in any host. -/
def isSeparator (c : Char) : Bool := "\x00\t\n\r #/:<>?@[\\]^|".contains c

/-- A host of a scheme without rules for hosts. -/
def parseAny (text : List Char) : Except Url.Fault Host :=
  match text with
  | '[' :: inside => bracketed? inside
  | [] => .ok .empty
  | _ =>
    if text.any isSeparator then .error .forbiddenCharacter
    else
      let plain := fun octet : UInt8 => 0x20 ≤ octet.toNat && octet.toNat < 0x7F
      .ok (.domain (String.ofList (Percent.encode plain text)))

end Host

end Courier
