/-!
# Double-precision numbers

A double-precision number is its 64 bits.  Every finite one is a whole number of quanta, the
smallest positive double, with a sign; `quanta` counts them, and `nearest` is the double closest
to a positive fraction, of two equally close ones the one whose last bit is zero.
-/

namespace StakingGateway

/-- A number in double precision. -/
structure Double where
  bits : UInt64
  deriving DecidableEq, Repr

namespace Double

/-- How many quanta make one: two to the power 1074. -/
def one : Nat := Nat.shiftLeft 1 1074

def magnitudeBits (x : Double) : Nat :=
  x.bits.toNat % 0x8000000000000000

/-- Whether the sign bit is set; zero has a sign as well. -/
def isNegative (x : Double) : Bool :=
  0x8000000000000000 ≤ x.bits.toNat

def isFinite (x : Double) : Bool :=
  x.magnitudeBits < 0x7ff0000000000000

/-- The binary exponent, such that two to its power is the number of quanta between neighbours. -/
def exponent (x : Double) : Nat :=
  x.magnitudeBits / 0x10000000000000 - 1

def significand (x : Double) : Nat :=
  if x.magnitudeBits < 0x10000000000000 then x.magnitudeBits
  else x.magnitudeBits % 0x10000000000000 + 0x10000000000000

/-- The magnitude of a finite number in quanta. -/
def quanta (x : Double) : Nat :=
  x.significand.shiftLeft x.exponent

def withSign (negative : Bool) (x : Double) : Double :=
  ⟨UInt64.ofNat (if negative then x.magnitudeBits + 0x8000000000000000 else x.magnitudeBits)⟩

/-- The whole number closest to a fraction, of two equally close ones the even one. -/
def roundToEven (numerator denominator : Nat) : Nat :=
  let whole := numerator / denominator
  let rest := numerator % denominator
  if 2 * rest < denominator then whole
  else if denominator < 2 * rest then whole + 1
  else whole + whole % 2

/-- The double closest to a fraction, infinite if the fraction is too large. -/
def nearest (numerator denominator : Nat) : Double :=
  let numerator := numerator.shiftLeft 1074
  let exponent := (numerator / denominator).log2 - 52
  let bits := exponent * 0x10000000000000 + roundToEven numerator (denominator.shiftLeft exponent)
  ⟨if bits < 0x7ff0000000000000 then UInt64.ofNat bits else 0x7ff0000000000000⟩

def ofNat (n : Nat) : Double :=
  nearest n 1

def mul (x y : Double) : Double :=
  nearest (x.quanta * y.quanta) (one * one)

def div (x y : Double) : Double :=
  nearest x.quanta y.quanta

def isIntegral (x : Double) : Bool :=
  x.quanta % one = 0

end Double

end StakingGateway
