import Courier.Number.Double

/-! # Numbers with a fixed count of places

A number is rounded exactly to a count of decimal places, a half going to the even neighbour, and is
written without an exponent. A rounding to zero keeps its sign.
-/

namespace Courier.Double

/-- The quotient of two counts, rounded to the nearest count, a half to the even one. -/
def roundDiv (numerator denominator : Nat) : Nat :=
  let floor := numerator / denominator
  let rest := 2 * (numerator % denominator)
  if rest < denominator then floor
  else if denominator < rest then floor + 1
  else if floor % 2 = 0 then floor else floor + 1

/-- The magnitude of a finite number in units of the last of so many decimal places. -/
def inUnits (places : Nat) (x : Double) : Nat :=
  roundDiv (x.significand * Nat.pow 2 x.scale * Nat.pow 10 places) (Nat.pow 2 1074)

/-- A number with so many decimal places; what is not finite is named. -/
def fixed (places : Nat) (x : Double) : String :=
  if x.isNaN then "NaN"
  else
    let sign := if x.isNegative then "-" else ""
    if x.isFinite then
      let units := x.inUnits places
      let low := Nat.repr (units % Nat.pow 10 places)
      let zeros := String.ofList (List.replicate (places - low.length) '0')
      sign ++ Nat.repr (units / Nat.pow 10 places) ++ "." ++ zeros ++ low
    else sign ++ "inf"

end Courier.Double
