import StakingGateway.Crypto.Sha512
import StakingGateway.Crypto.Suite

/-!
# Ed25519 verification

The curve is `-x² + y² = 1 + d x² y²` over the integers modulo `2²⁵⁵ - 19`.  Points are kept in
extended coordinates, `x = X / Z`, `y = Y / Z` and `x y = T / Z`.

A key is read leniently: its `y` may be given unreduced, and a zero `x` may carry a sign.  Keys
of small order are admitted.  A signature is the encoding of a point and a scalar; the scalar
must be reduced, and the point that the equation gives is compared with the signature byte by
byte.
-/

namespace StakingGateway.Ed25519

def fieldOrder : Nat :=
  0x7fffffffffffffffffffffffffffffffffffffffffffffffffffffffffffffed

/-- The order of the base point. -/
def groupOrder : Nat :=
  0x1000000000000000000000000000000014def9dea2f79cd65812631a5cf5d3ed

def curveConstant : Nat :=
  0x52036cee2b6ffe738cc740797779e89800700a4d4141d8ab75eb4dca135978a3

def rootOfMinusOne : Nat :=
  0x2b8324804fc1df0b2b4d00993dfbd7a72f431806ad2fe478c4ee1b274a0ea0b0

def mul (a b : Nat) : Nat :=
  a * b % fieldOrder

def add (a b : Nat) : Nat :=
  (a + b) % fieldOrder

def sub (a b : Nat) : Nat :=
  (a + fieldOrder - b) % fieldOrder

/-- The binary digits of a number, the highest first, on `places` places. -/
def bits (places n : Nat) : List Bool :=
  (Positional.digits 2 places n).map (· = 1)

def power (base exponent : Nat) : Nat :=
  (bits 256 exponent).foldl
    (fun acc bit => let square := mul acc acc; if bit then mul square base else square) 1

/-- The inverse of a field element; that of zero is zero. -/
def invert (a : Nat) : Nat :=
  power a (fieldOrder - 2)

/-- A curve point in extended coordinates. -/
structure Point where
  x : Nat
  y : Nat
  z : Nat
  t : Nat

def Point.neutral : Point :=
  ⟨0, 1, 1, 0⟩

def Point.add (p q : Point) : Point :=
  let a := mul (sub p.y p.x) (sub q.y q.x)
  let b := mul (Ed25519.add p.y p.x) (Ed25519.add q.y q.x)
  let c := mul (mul 2 curveConstant) (mul p.t q.t)
  let d := mul 2 (mul p.z q.z)
  let e := sub b a
  let f := sub d c
  let g := Ed25519.add d c
  let h := Ed25519.add b a
  ⟨mul e f, mul g h, mul f g, mul e h⟩

def Point.neg (p : Point) : Point :=
  ⟨sub 0 p.x, p.y, p.z, sub 0 p.t⟩

/-- A multiple of a point by a number below `2²⁵⁶`. -/
def Point.multiple (scalar : Nat) (p : Point) : Point :=
  (bits 256 scalar).foldl
    (fun acc bit => let double := acc.add acc; if bit then double.add p else double)
    Point.neutral

def littleEndian (length n : Nat) : List UInt8 :=
  (BigEndian.bytesOfLength length n).reverse

def ofLittleEndian (bytes : List UInt8) : Nat :=
  BigEndian.toNat bytes.reverse

def topBit : Nat :=
  0x8000000000000000000000000000000000000000000000000000000000000000

/-- The bytes of a point: `y`, with the parity of `x` in the top bit. -/
def Point.compress (p : Point) : List UInt8 :=
  let inverse := invert p.z
  let x := mul p.x inverse
  let y := mul p.y inverse
  littleEndian 32 (y + if x % 2 = 1 then topBit else 0)

/-- An even-or-zero root of `u / v`, if there is one. -/
def rootOfRatio? (u v : Nat) : Option Nat :=
  let v3 := mul (mul v v) v
  let v7 := mul (mul v3 v3) v
  let candidate := mul (mul u v3) (power (mul u v7) ((fieldOrder - 5) / 8))
  let check := mul v (mul candidate candidate)
  let root? :=
    if check = u % fieldOrder then some candidate
    else if check = sub 0 (u % fieldOrder) then some (mul candidate rootOfMinusOne)
    else none
  root?.map fun root => if root % 2 = 1 then sub 0 root else root

def decompress? (bytes : List UInt8) : Option Point :=
  let n := ofLittleEndian bytes
  let y := n % topBit % fieldOrder
  let square := mul y y
  let u := sub square 1
  let v := add (mul curveConstant square) 1
  (rootOfRatio? u v).map fun root =>
    let x := if topBit ≤ n then sub 0 root else root
    ⟨x, y, 1, mul x y⟩

def basePoint : Point :=
  let x := 0x216936d3cd6e53fec0a4e231fdd6dc5c692cc7609525a7b2c9562d608f25d51a
  let y := 0x6666666666666666666666666666666666666666666666666666666666666658
  ⟨x, y, 1, mul x y⟩

def verify (publicKey message signature : List UInt8) : Verdict :=
  if publicKey.length ≠ 32 then .malformedKey
  else
    match decompress? publicKey with
    | none => .malformedKey
    | some key =>
      if signature.length ≠ 64 ∨ 32 ≤ (signature.getD 63 0).toNat then .malformedSignature
      else
        let commitment := signature.take 32
        let scalar := ofLittleEndian (signature.drop 32)
        if groupOrder ≤ scalar then .rejected
        else
          let challenge :=
            ofLittleEndian (Sha512.digest512 (commitment ++ publicKey ++ message)) % groupOrder
          let expected :=
            (basePoint.multiple scalar).add (key.neg.multiple challenge)
          if expected.compress = commitment then .accepted else .rejected

end StakingGateway.Ed25519
