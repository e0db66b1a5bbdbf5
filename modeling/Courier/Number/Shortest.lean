import Courier.Number.Double

/-! # The shortest decimal of a number

Of all decimals that a reader rounds to a given number, the shortest is the one with the fewest
digits, and among those the nearest. For each count of digits only the two neighbours of the number
on that decimal grid need a look: if any point of the grid reads back, one of them does.
-/

namespace Courier.Double

/-- A decimal, `digits * 10 ^ exponent`. -/
structure Decimal where
  digits : Nat
  exponent : Int
  deriving DecidableEq, Repr

/-- A magnitude and the interval of magnitudes that are rounded to it, over one denominator. -/
structure Neighbourhood where
  least : Nat
  value : Nat
  greatest : Nat
  denominator : Nat
  /-- The ends belong to the interval. -/
  closed : Bool
  deriving DecidableEq, Repr

/-- The interval around a finite number: half-way to its two neighbours, the lower one being nearer
at a power of two. The ends belong to it when the significand is even. -/
def neighbourhood (x : Double) : Neighbourhood :=
  let unit := Nat.pow 2 x.scale
  let m := x.significand
  let below := if m = Double.fractionSize ∧ 1 < x.exponentField then 1 else 2
  { least := (4 * m - below) * unit, value := 4 * m * unit, greatest := (4 * m + 2) * unit
    denominator := 4 * Nat.pow 2 1074, closed := m % 2 = 0 }

/-- Whether a decimal lies in the interval. -/
def Neighbourhood.holds (n : Neighbourhood) (d : Decimal) : Bool :=
  let up := Nat.pow 10 d.exponent.toNat
  let down := Nat.pow 10 (-d.exponent).toNat
  let point := d.digits * up * n.denominator
  if n.closed then n.least * down ≤ point && point ≤ n.greatest * down
  else n.least * down < point && point < n.greatest * down

/-- The exponent of the leading digit of a magnitude above zero. -/
def Neighbourhood.leading (n : Neighbourhood) : Int :=
  (Nat.repr (n.value * Nat.pow 10 400 / n.denominator)).length - 401

/-- The decimal of so many digits that reads back, if there is one; of two the nearer, and the even
one when they are equally near. -/
def Neighbourhood.decimal? (n : Neighbourhood) (count : Nat) : Option Decimal :=
  let exponent := n.leading - (count : Int) + 1
  let numerator := n.value * Nat.pow 10 (-exponent).toNat
  let denominator := n.denominator * Nat.pow 10 exponent.toNat
  let low : Decimal := ⟨numerator / denominator, exponent⟩
  let high : Decimal := ⟨numerator / denominator + 1, exponent⟩
  let rest := 2 * (numerator % denominator)
  match n.holds low, n.holds high with
  | true, true =>
    some (if rest < denominator then low
      else if denominator < rest then high
      else if low.digits % 2 = 0 then low else high)
  | true, false => some low
  | false, true => some high
  | false, false => none

/-- The same decimal without a zero at the end of its digits, which the upper neighbour has when it is
a power of ten. -/
def Decimal.trimmed (d : Decimal) : Decimal :=
  if d.digits % 10 = 0 then ⟨d.digits / 10, d.exponent + 1⟩ else d

/-- The shortest decimal of the magnitude of a finite number other than zero. -/
def shortest (x : Double) : Decimal :=
  let n := x.neighbourhood
  (((List.range 17).findSome? fun k => n.decimal? (k + 1)).getD ⟨0, 0⟩).trimmed

end Courier.Double
