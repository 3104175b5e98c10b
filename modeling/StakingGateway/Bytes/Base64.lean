import StakingGateway.Bytes.Utf8

/-!
# Base64 text

Six bits a symbol, in the standard alphabet.  Encoding pads to whole groups of four symbols.
Decoding accepts a text with all, some or none of its padding; it refuses a lone symbol after
the whole groups, any byte outside the alphabet, padding anywhere but at the end of a group that
holds two or three symbols, and a last symbol with bits that belong to no byte.
-/

namespace StakingGateway.Base64

inductive Error
  | invalidByte (position : Nat) (byte : UInt8)
  | invalidLength
  | invalidLastSymbol (position : Nat) (byte : UInt8)
  deriving DecidableEq, Repr

def Error.message : Error → String
  | .invalidByte position byte =>
    "Invalid byte " ++ toString byte.toNat ++ ", offset " ++ toString position ++ "."
  | .invalidLength => "Encoded text cannot have a 6-bit remainder."
  | .invalidLastSymbol position byte =>
    "Invalid last symbol " ++ toString byte.toNat ++ ", offset " ++ toString position ++ "."

def pad : UInt8 := 61

def symbol (value : Nat) : UInt8 :=
  if value < 26 then UInt8.ofNat (value + 65)
  else if value < 52 then UInt8.ofNat (value + 71)
  else if value < 62 then UInt8.ofNat (value - 4)
  else if value = 62 then 43
  else 47

def symbolValue? (byte : UInt8) : Option Nat :=
  let n := byte.toNat
  if 65 ≤ n ∧ n ≤ 90 then some (n - 65)
  else if 97 ≤ n ∧ n ≤ 122 then some (n - 71)
  else if 48 ≤ n ∧ n ≤ 57 then some (n + 4)
  else if n = 43 then some 62
  else if n = 47 then some 63
  else none

def encodeBytes : List UInt8 → List UInt8
  | [] => []
  | [a] =>
    let n := a.toNat
    [symbol (n / 4), symbol (n % 4 * 16), pad, pad]
  | [a, b] =>
    let n := a.toNat * 256 + b.toNat
    [symbol (n / 1024), symbol (n / 16 % 64), symbol (n % 16 * 4), pad]
  | a :: b :: c :: rest =>
    let n := a.toNat * 65536 + b.toNat * 256 + c.toNat
    symbol (n / 262144) :: symbol (n / 4096 % 64) :: symbol (n / 64 % 64) :: symbol (n % 64) ::
      encodeBytes rest

def encode (bytes : List UInt8) : String :=
  String.ofList ((encodeBytes bytes).map fun b => Char.ofNat b.toNat)

/-- The bytes that symbol values stand for, or `none` if bits are left over that are not zero. -/
def unpack : List Nat → Option (List UInt8)
  | [] => some []
  | [_] => none
  | [a, b] => if b % 16 = 0 then some [UInt8.ofNat (a * 4 + b / 16)] else none
  | [a, b, c] =>
    if c % 4 = 0 then
      let n := a * 1024 + b * 16 + c / 4
      some [UInt8.ofNat (n / 256), UInt8.ofNat n]
    else none
  | a :: b :: c :: d :: rest =>
    let n := a * 262144 + b * 4096 + c * 64 + d
    (unpack rest).map fun bytes =>
      UInt8.ofNat (n / 65536) :: UInt8.ofNat (n / 256) :: UInt8.ofNat n :: bytes

/-- The longest run of symbols at the start of a text, as values, and what follows it. -/
def symbols : List UInt8 → List Nat × List UInt8
  | [] => ([], [])
  | byte :: rest =>
    match symbolValue? byte with
    | some value =>
      let (values, tail) := symbols rest
      (value :: values, tail)
    | none => ([], byte :: rest)

/-- What is wrong with the text after `count` symbols: nothing if it is empty, or if it is padding
that stands in a group of two or three symbols and does not leave it. -/
def tailError? (count : Nat) : List UInt8 → Option Error
  | [] => none
  | byte :: rest =>
    if byte = pad ∧ 2 ≤ count % 4 ∧ rest.all (· = pad) ∧ count % 4 + rest.length < 4 then none
    else some (.invalidByte count byte)

def decodeBytes (text : List UInt8) : Except Error (List UInt8) :=
  let (values, tail) := symbols text
  let last := text.getLast?
  if text.length % 4 = 1 then
    match last with
    | some byte =>
      if byte ≠ pad ∧ (symbolValue? byte).isNone then .error (.invalidByte (text.length - 1) byte)
      else .error .invalidLength
    | none => .error .invalidLength
  else
    match tailError? values.length tail with
    | some error => .error error
    | none =>
      match unpack values with
      | some bytes => .ok bytes
      | none =>
        .error (.invalidLastSymbol (values.length - 1) (text.getD (values.length - 1) pad))

def decode (text : String) : Except Error (List UInt8) :=
  decodeBytes (Utf8.encode text)

end StakingGateway.Base64
