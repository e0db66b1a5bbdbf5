/-! # Binary floating-point numbers of sixty-four bits

A number is kept as its bits, so two numbers are equal exactly when they are the same datum, NaN
payloads and the sign of zero included. The order is total: negative NaN, negative numbers, the two
zeros, positive numbers, positive NaN.
-/

namespace Courier

/-- A binary floating-point number of sixty-four bits, given by its bits. -/
structure Double where
  bits : UInt64
  deriving DecidableEq, Repr, Inhabited

namespace Double

/-- Positive zero. -/
def zero : Double := ⟨0⟩

/-- Negative zero, the neutral element of addition. -/
def negativeZero : Double := ⟨0x8000000000000000⟩

/-- The bits of a number without its sign bit are fewer than this. -/
def signSize : Nat := 0x8000000000000000

/-- How many fractions there are to an exponent. -/
def fractionSize : Nat := 0x10000000000000

/-- How many exponents there are. -/
def exponentCount : Nat := 0x800

/-- Whether the sign bit is set. -/
def isNegative (x : Double) : Bool := signSize ≤ x.bits.toNat

/-- The eleven bits of the exponent. -/
def exponentField (x : Double) : Nat := x.bits.toNat / fractionSize % exponentCount

/-- The fifty-two bits of the fraction. -/
def fraction (x : Double) : Nat := x.bits.toNat % fractionSize

/-- Whether the bits are no number. -/
def isNaN (x : Double) : Bool := x.exponentField == 2047 && x.fraction != 0

/-- Whether the number is neither infinite nor a NaN. -/
def isFinite (x : Double) : Bool := x.exponentField < 2047

/-- Whether the number lies above zero. -/
def isPositive (x : Double) : Bool := !x.isNaN && !x.isNegative && x.bits != 0

/-- Position in the total order. -/
def orderKey (x : Double) : Nat :=
  if x.isNegative then UInt64.size - 1 - x.bits.toNat else signSize + x.bits.toNat

theorem orderKey_injective {x y : Double} (same : x.orderKey = y.orderKey) : x = y := by
  have hx := x.bits.toNat_lt
  have hy := y.bits.toNat_lt
  have bits : x.bits.toNat = y.bits.toNat := by
    simp only [orderKey, isNegative, decide_eq_true_eq] at same
    split at same <;> split at same <;> simp only [signSize, UInt64.size] at * <;> omega
  cases x; cases y
  exact congrArg Double.mk (UInt64.toNat.inj bits)

/-- The number of a machine operation's result. -/
def ofFloat (x : Float) : Double := ⟨x.toBits⟩

/-- The machine operand of a number. -/
def toFloat (x : Double) : Float := Float.ofBits x.bits

instance : Add Double := ⟨fun x y => ofFloat (x.toFloat + y.toFloat)⟩
instance : Sub Double := ⟨fun x y => ofFloat (x.toFloat - y.toFloat)⟩
instance : Mul Double := ⟨fun x y => ofFloat (x.toFloat * y.toFloat)⟩
instance : Div Double := ⟨fun x y => ofFloat (x.toFloat / y.toFloat)⟩
instance : Neg Double := ⟨fun x => ⟨x.bits ^^^ 0x8000000000000000⟩⟩

/-- The number nearest to a count. -/
def ofCount (count : UInt64) : Double := ofFloat count.toFloat

/-- The number nearest to a power of ten. -/
def tenTo (exponent : Nat) : Double := ofFloat (Float.ofScientific 1 false exponent)

/-- The magnitude of a finite number is `significand * 2 ^ (scale - 1074)`. -/
def significand (x : Double) : Nat :=
  if x.exponentField = 0 then x.fraction else fractionSize + x.fraction

/-- See `significand`. -/
def scale (x : Double) : Nat := x.exponentField - 1

end Double

end Courier
