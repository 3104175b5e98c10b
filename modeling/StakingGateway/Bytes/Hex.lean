import StakingGateway.Bytes.Utf8

/-!
# Hexadecimal text

Two digits for each byte, the high half first.  Bytes are written in lower case and read in
either case.  A text of odd length is refused before its characters are looked at, and of
several characters that are no digit the first one is reported, with its position in bytes.
-/

namespace StakingGateway.Hex

inductive Error
  | oddLength
  | invalidCharacter (byte : UInt8) (position : Nat)
  deriving DecidableEq, Repr

def digit (value : Nat) : Char :=
  Nat.digitChar value

def digitValue? (byte : UInt8) : Option Nat :=
  let n := byte.toNat
  if 48 ≤ n ∧ n ≤ 57 then some (n - 48)
  else if 97 ≤ n ∧ n ≤ 102 then some (n - 87)
  else if 65 ≤ n ∧ n ≤ 70 then some (n - 55)
  else none

def pair (byte : UInt8) : List Char :=
  [digit (byte.toNat / 16), digit (byte.toNat % 16)]

def encode (bytes : List UInt8) : String :=
  String.ofList (bytes.flatMap pair)

/-- Reads digit pairs, the first of them at the given position. -/
def decodePairs (position : Nat) : List UInt8 → Except Error (List UInt8)
  | [] => .ok []
  | [_] => .error .oddLength
  | high :: low :: rest =>
    match digitValue? high, digitValue? low with
    | some h, some l => do
      let bytes ← decodePairs (position + 2) rest
      return UInt8.ofNat (16 * h + l) :: bytes
    | none, _ => .error (.invalidCharacter high position)
    | some _, none => .error (.invalidCharacter low (position + 1))

def decodeBytes (text : List UInt8) : Except Error (List UInt8) :=
  if text.length % 2 = 1 then .error .oddLength else decodePairs 0 text

def decode (text : String) : Except Error (List UInt8) :=
  decodeBytes (Utf8.encode text)

/-- Reads hexadecimal text, without the reason of a refusal. -/
def decode? (text : String) : Option (List UInt8) :=
  (decode text).toOption

/-- A byte as a quoted character literal, by its code point.  A quote, a backslash and the
common control characters are escaped by a letter, other characters that do not print by their
code. -/
def quoted (byte : UInt8) : String :=
  let n := byte.toNat
  let inner :=
    if n = 0 then "\\0"
    else if n = 9 then "\\t"
    else if n = 10 then "\\n"
    else if n = 13 then "\\r"
    else if n = 39 then "\\'"
    else if n = 92 then "\\\\"
    else if n < 32 ∨ (127 ≤ n ∧ n ≤ 160) ∨ n = 173 then
      "\\u\x7b" ++ String.ofList (Nat.toDigits 16 n) ++ "\x7d"
    else String.singleton (Char.ofNat n)
  "'" ++ inner ++ "'"

def Error.message : Error → String
  | .oddLength => "Odd number of digits"
  | .invalidCharacter byte position =>
    "Invalid character " ++ quoted byte ++ " at position " ++ toString position

end StakingGateway.Hex
