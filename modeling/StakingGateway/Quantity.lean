import StakingGateway.Cbor.Record

/-!
# Quantities

An amount of tokens in base units, or a number of shares: a natural number of any size.  Its text
is decimal, its bytes are big-endian without a leading zero byte, and on the wire it is a byte
string.  Texts and byte strings with leading zeros are read as well.
-/

namespace StakingGateway

/-- An amount of tokens in base units, or a number of shares. -/
structure Quantity where
  units : Nat
  deriving DecidableEq, Repr

namespace Quantity

inductive Error
  | empty
  | invalidDigit (text : String)
  deriving DecidableEq, Repr

def Error.message : Error → String
  | .empty => "empty quantity"
  | .invalidDigit text => "invalid digit in quantity '" ++ text ++ "'"

def zero : Quantity :=
  ⟨0⟩

def ofText (text : String) : Except Error Quantity :=
  if text.isEmpty then .error .empty
  else if text.toList.all Char.isDigit then .ok ⟨Nat.ofDigitChars 10 text.toList 0⟩
  else .error (.invalidDigit text)

def text (q : Quantity) : String :=
  toString q.units

def debug (q : Quantity) : String :=
  "Quantity(" ++ q.text ++ ")"

def ofBytes (bytes : List UInt8) : Quantity :=
  ⟨BigEndian.toNat bytes⟩

/-- The big-endian bytes of a quantity, without a leading zero; there are none for zero. -/
def bytes (q : Quantity) : List UInt8 :=
  BigEndian.ofNat q.units

def add (a b : Quantity) : Quantity :=
  ⟨a.units + b.units⟩

def toItem (q : Quantity) : Cbor.Item :=
  .bytes q.bytes

def ofItem? (item : Cbor.Item) : Option Quantity :=
  item.asBytes?.map ofBytes

end Quantity

end StakingGateway
