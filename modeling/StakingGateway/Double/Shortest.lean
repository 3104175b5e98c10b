import StakingGateway.Double.Basic

/-!
# Shortest decimals

The decimal that stands for a double: of all decimals that are closer to it than to any other
double, one of those with the fewest digits, and of these the closest one; of two equally close
ones the one with the even last digit.  A decimal halfway between two doubles belongs to the one
whose last bit is zero.
-/

namespace StakingGateway.Double

/-- The digits of a decimal, as a whole number, and the power of ten they are multiplied by. -/
structure Decimal where
  digits : Nat
  exponent : Int
  deriving DecidableEq, Repr

/-- The decimals that stand for a finite positive double, in quarters of a quantum. -/
structure Interval where
  low : Nat
  value : Nat
  high : Nat
  closed : Bool

/-- The interval of a double.  Below a power of two the doubles lie twice as close. -/
def interval (x : Double) : Interval :=
  let step := Nat.shiftLeft 1 x.exponent
  let value := 4 * x.quanta
  let narrow := x.significand = 0x10000000000000 ∧ x.exponent ≠ 0
  ⟨value - (if narrow then step else 2 * step), value, value + 2 * step, x.significand % 2 = 0⟩

def Interval.decimal? (i : Interval) (exponent : Int) : Option Decimal :=
  let up := Nat.pow 10 (-exponent).toNat
  let unit := 4 * one * Nat.pow 10 exponent.toNat
  let inside (digits : Nat) : Bool :=
    if i.closed then i.low * up ≤ digits * unit ∧ digits * unit ≤ i.high * up
    else i.low * up < digits * unit ∧ digits * unit < i.high * up
  let below := i.value * up / unit
  let rest := i.value * up % unit
  let closer :=
    if 2 * rest < unit then below
    else if unit < 2 * rest then below + 1
    else below + below % 2
  if inside below && inside (below + 1) then some ⟨closer, exponent⟩
  else if inside below then some ⟨below, exponent⟩
  else if inside (below + 1) then some ⟨below + 1, exponent⟩
  else none

/-- Tries exponents downwards, each of which allows one digit more. -/
def Interval.search (i : Interval) : Nat → Int → Decimal
  | 0, exponent => ⟨0, exponent⟩
  | fuel + 1, exponent =>
    match i.decimal? exponent with
    | some decimal => decimal
    | none => i.search fuel (exponent - 1)

/-- The shortest decimal of the magnitude of a finite double.  The search starts above the number
and goes down by more than the seventeen digits that always suffice. -/
def shortest (x : Double) : Decimal :=
  if x.quanta = 0 then ⟨0, 0⟩
  else x.interval.search 24 (((x.quanta.log2 : Int) - 1073) * 30103 / 100000 + 2)

end StakingGateway.Double
