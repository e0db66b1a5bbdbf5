/-! # Punycode

The bootstring encoding of a label with characters beyond ASCII: its ASCII characters first, then,
for the others in ascending order, how far each lies from the one before, in digits of base
thirty-six with thresholds that adapt to the distances seen.
-/

namespace Courier.Punycode

/-- A digit: twenty-six letters, then ten figures. -/
def digit (value : Nat) : Char :=
  if value < 26 then Char.ofNat (0x61 + value) else Char.ofNat (0x30 + value - 26)

/-- The value of a digit in either case. -/
def digitValue? (c : Char) : Option Nat :=
  let value := c.toNat
  if 0x61 ≤ value ∧ value ≤ 0x7A then some (value - 0x61)
  else if 0x41 ≤ value ∧ value ≤ 0x5A then some (value - 0x41)
  else if 0x30 ≤ value ∧ value ≤ 0x39 then some (value - 0x30 + 26)
  else none

/-- The threshold of the digit at a position. -/
def threshold (position bias : Nat) : Nat :=
  if position ≤ bias then 1 else if bias + 26 ≤ position then 26 else position - bias

/-- Divides by thirty-five until the value is at most 455, counting thirty-six for each division. -/
def reduce (value counted : Nat) : Nat × Nat :=
  if 455 < value then reduce (value / 35) (counted + 36) else (value, counted)
termination_by value

/-- The bias after a distance, when so many characters have been placed. -/
def adapt (distance placed : Nat) (first : Bool) : Nat :=
  let halved := if first then distance / 700 else distance / 2
  let (value, counted) := reduce (halved + halved / placed) 0
  counted + 36 * value / (value + 38)

/-- The digits of a distance. -/
def digits (bias position distance : Nat) : List Char :=
  let t := threshold position bias
  if distance < t then [digit distance]
  else digit (t + (distance - t) % (36 - t)) :: digits bias (position + 36) ((distance - t) / (36 - t))
termination_by distance
decreasing_by
  have positive : 1 ≤ threshold position bias := by
    unfold threshold
    split
    · omega
    · split <;> omega
  have small : threshold position bias ≤ 26 := by
    unfold threshold
    split
    · omega
    · split <;> omega
  have := Nat.div_le_self (distance - threshold position bias) (36 - threshold position bias)
  omega

/-- An encoding in progress. -/
structure Encoding where
  output : List Char
  distance : Nat
  bias : Nat
  placed : Nat
  deriving DecidableEq, Repr

/-- Goes past one character of the label while the characters with a given value are placed. -/
def Encoding.pass (basic value : Nat) (state : Encoding) (c : Char) : Encoding :=
  if c.toNat < value then { state with distance := state.distance + 1 }
  else if c.toNat = value then
    { output := state.output ++ digits state.bias 36 state.distance, distance := 0
      bias := adapt state.distance (state.placed + 1) (state.placed = basic)
      placed := state.placed + 1 }
  else state

/-- Places the characters with one value after another; `next` is the least value not yet tried. -/
def Encoding.run (label : List Char) (basic : Nat) : List Nat → Nat → Encoding → Encoding
  | [], _, state => state
  | value :: rest, next, state =>
    let begun := { state with
      distance := state.distance + (value - next) * (state.placed + 1) }
    let passed := label.foldl (Encoding.pass basic value) begun
    Encoding.run label basic rest (value + 1) { passed with distance := passed.distance + 1 }

/-- The encoded form of a label, without the mark that tells it from a plain one. -/
def encode (label : List Char) : List Char :=
  let basic := label.filter fun c => c.toNat < 0x80
  let values := ((label.map Char.toNat).filter (0x80 ≤ ·)).mergeSort.eraseDups
  let start : Encoding := ⟨[], 0, 72, basic.length⟩
  basic ++ (if basic = [] then [] else ['-']) ++
    (Encoding.run label basic.length values 0x80 start).output

/-- The distance at the beginning of a sequence of digits, and the digits that follow. -/
def distance? (bias : Nat) :
    (position weight distance : Nat) → List Char → Option (Nat × List Char)
  | _, _, _, [] => none
  | position, weight, distance, c :: rest =>
    match digitValue? c with
    | none => none
    | some value =>
      let total := distance + value * weight
      let t := threshold position bias
      if value < t then some (total, rest)
      else distance? bias (position + 36) (weight * (36 - t)) total rest

/-- Puts characters at the places that the digits give. The fuel is the count of digits. -/
def place : (fuel next index bias : Nat) → List Char → List Char → Option (List Char)
  | _, _, _, _, label, [] => some label
  | 0, _, _, _, _, _ :: _ => none
  | fuel + 1, next, index, bias, label, coded =>
    match distance? bias 36 1 0 coded with
    | none => none
    | some (distance, rest) =>
      let total := index + distance
      let size := label.length + 1
      let value := next + total / size
      let position := total % size
      if 0x10FFFF < value ∨ (0xD800 ≤ value ∧ value ≤ 0xDFFF) then none
      else
        place fuel value (position + 1) (adapt distance size (index = 0 ∧ next = 0x80))
          (label.take position ++ Char.ofNat value :: label.drop position) rest

/-- The label that an encoded form stands for: the ASCII characters before its last hyphen, and the
others at their places. -/
def decode? (coded : List Char) : Option (List Char) :=
  let tail := (coded.reverse.takeWhile (· ≠ '-')).reverse
  let basic := coded.take (coded.length - tail.length - 1)
  place tail.length 0x80 0 72 basic tail

end Courier.Punycode
