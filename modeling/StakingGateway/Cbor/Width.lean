/-!
# Floating-point widths

A number in half, single or double precision, given by its bits.  Widening is exact; a number
has a narrower form if some narrower number widens to it, and that is how narrowing is defined,
so it is exact as well.
-/

namespace StakingGateway.Cbor

def halfIsNaN (bits : UInt16) : Bool :=
  0x7c00 < bits.toNat % 0x8000

def singleIsNaN (bits : UInt32) : Bool :=
  0x7f800000 < bits.toNat % 0x80000000

def doubleIsNaN (bits : UInt64) : Bool :=
  0x7ff0000000000000 < bits.toNat % 0x8000000000000000

def singleOfHalf (bits : UInt16) : UInt32 :=
  let n := bits.toNat
  let sign := n / 0x8000 * 0x80000000
  let exponent := n / 1024 % 32
  let fraction := n % 1024
  let magnitude :=
    if exponent = 31 then 0x7f800000 + fraction * 0x2000
    else if exponent = 0 then
      if fraction = 0 then 0
      else
        let top := fraction.log2
        (top + 103) * 0x800000 + (fraction <<< (23 - top)) % 0x800000
    else (exponent + 112) * 0x800000 + fraction * 0x2000
  UInt32.ofNat (sign + magnitude)

def doubleOfSingle (bits : UInt32) : UInt64 :=
  let n := bits.toNat
  let sign := n / 0x80000000 * 0x8000000000000000
  let exponent := n / 0x800000 % 256
  let fraction := n % 0x800000
  let magnitude :=
    if exponent = 255 then 0x7ff0000000000000 + fraction * 0x20000000
    else if exponent = 0 then
      if fraction = 0 then 0
      else
        let top := fraction.log2
        (top + 874) * 0x10000000000000 + (fraction <<< (52 - top)) % 0x10000000000000
    else (exponent + 896) * 0x10000000000000 + fraction * 0x20000000
  UInt64.ofNat (sign + magnitude)

def cutToHalf (bits : UInt32) : UInt16 :=
  let n := bits.toNat
  let sign := n / 0x80000000 * 0x8000
  let exponent := n / 0x800000 % 256
  let fraction := n % 0x800000
  let magnitude :=
    if exponent = 255 then 0x7c00
    else if 113 ≤ exponent then (exponent - 112) % 32 * 1024 + fraction / 0x2000
    else (fraction + 0x800000) >>> (126 - exponent)
  UInt16.ofNat (sign + magnitude)

def cutToSingle (bits : UInt64) : UInt32 :=
  let n := bits.toNat
  let sign := n / 0x8000000000000000 * 0x80000000
  let exponent := n / 0x10000000000000 % 2048
  let fraction := n % 0x10000000000000
  let magnitude :=
    if exponent = 2047 then 0x7f800000
    else if 897 ≤ exponent then (exponent - 896) % 256 * 0x800000 + fraction / 0x20000000
    else (fraction + 0x10000000000000) >>> (926 - exponent)
  UInt32.ofNat (sign + magnitude)

/-- The number in half precision that widens to a number in single precision. -/
def halfOfSingle? (bits : UInt32) : Option UInt16 :=
  let half := cutToHalf bits
  if halfIsNaN half = false ∧ singleOfHalf half = bits then some half else none

def singleOfDouble? (bits : UInt64) : Option UInt32 :=
  let single := cutToSingle bits
  if singleIsNaN single = false ∧ doubleOfSingle single = bits then some single else none

theorem singleOfHalf_of_halfOfSingle? {bits : UInt32} {half : UInt16}
    (h : halfOfSingle? bits = some half) : halfIsNaN half = false ∧ singleOfHalf half = bits := by
  simp only [halfOfSingle?] at h
  split at h
  next hc => rw [← Option.some.inj h]; exact hc
  next => simp at h

end StakingGateway.Cbor
