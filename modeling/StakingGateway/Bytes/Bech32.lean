import StakingGateway.Bytes.Positional

/-!
# Bech32 text

A prefix, the separator `1`, data symbols of five bits and six checksum symbols.  Two checksums
are in use, told apart by the constant the whole text must reduce to.  A text is of one case; it
is read to its lower-case prefix and written in lower case.  There is no limit on the length of a
text but the one on its prefix.
-/

namespace StakingGateway.Bech32

inductive Variant
  | bech32
  | bech32m
  deriving DecidableEq, Repr

/-- Why a text is not bech32, or its data no byte string. -/
inductive Error
  | missingSeparator
  | invalidLength
  | invalidChar (c : Char)
  | mixedCase
  | invalidChecksum
  | invalidPadding
  deriving DecidableEq, Repr

def Error.message : Error → String
  | .missingSeparator => "missing human-readable separator, \"1\""
  | .invalidLength => "invalid length"
  | .invalidChar c => "invalid character (code=" ++ String.singleton c ++ ")"
  | .mixedCase => "mixed-case strings not allowed"
  | .invalidChecksum => "invalid checksum"
  | .invalidPadding => "invalid padding"

def alphabet : List Char :=
  "qpzry9x8gf2tvdw0s3jn54khce6mua7l".toList

def symbol (value : Nat) : Char :=
  alphabet.getD value 'q'

def symbolValue? (c : Char) : Option Nat :=
  alphabet.idxOf? c

def checksumLength : Nat := 6

/-- The number that the symbols of a text reduce to. -/
def Variant.residue : Variant → BitVec 30
  | .bech32 => 1
  | .bech32m => 0x2bc830a3

/-- The part of a checksum step that depends on the five bits shifted out. -/
def feedback (top : BitVec 30) : BitVec 30 :=
  (if top.getLsbD 0 then 0x3b6a57b2#30 else 0#30) ^^^
  (if top.getLsbD 1 then 0x26508e6d#30 else 0#30) ^^^
  (if top.getLsbD 2 then 0x1ea119fa#30 else 0#30) ^^^
  (if top.getLsbD 3 then 0x3d4233dd#30 else 0#30) ^^^
  (if top.getLsbD 4 then 0x2a1462b3#30 else 0#30)

def step (state : BitVec 30) (value : Nat) : BitVec 30 :=
  (state <<< 5) ^^^ BitVec.ofNat 30 value ^^^ feedback (state >>> 25)

def reduce (values : List Nat) : BitVec 30 :=
  values.foldl step 1

/-- The symbols a prefix counts as: the high bits of its characters, a zero, the low bits. -/
def expandPrefix (hrp : List Char) : List Nat :=
  hrp.map (fun c => c.toNat / 32) ++ 0 :: hrp.map (fun c => c.toNat % 32)

def checksum (variant : Variant) (hrp : List Char) (data : List Nat) : List Nat :=
  let state := reduce (expandPrefix hrp ++ data ++ List.replicate checksumLength 0)
  Positional.digits 32 checksumLength (state ^^^ variant.residue).toNat

def encode (variant : Variant) (hrp : String) (data : List Nat) : String :=
  String.ofList (hrp.toList ++ '1' :: (data ++ checksum variant hrp.toList data).map symbol)

/-- The letters seen so far are all lower, all upper, or there were none. -/
inductive Case
  | unseen
  | lower
  | upper
  deriving DecidableEq, Repr

/-- Takes a character into the case of its text; both cases do not mix. -/
def Case.join? (seen : Case) (c : Char) : Option Case :=
  if c.isLower then
    if seen = .upper then none else some .lower
  else if c.isUpper then
    if seen = .lower then none else some .upper
  else some seen

/-- Checks the characters of a prefix.  They are taken as bytes, so a character outside ASCII is
reported by its first byte. -/
def checkPrefix (seen : Case) : List Char → Except Error Case
  | [] => .ok seen
  | c :: rest =>
    if 33 ≤ c.toNat ∧ c.toNat ≤ 126 then
      match seen.join? c with
      | some seen => checkPrefix seen rest
      | none => .error .mixedCase
    else
      let first := (String.singleton c).toUTF8.data.toList.headD 0
      .error (.invalidChar (Char.ofNat first.toNat))

def readData (seen : Case) : List Char → Except Error (List Nat)
  | [] => .ok []
  | c :: rest =>
    if 127 < c.toNat then .error (.invalidChar c)
    else
      match seen.join? c with
      | none => .error .mixedCase
      | some seen =>
        match symbolValue? c.toLower with
        | none => .error (.invalidChar c)
        | some value => do
          let values ← readData seen rest
          return value :: values

def splitLast (separator : Char) (text : List Char) : Option (List Char × List Char) :=
  let reversed := text.reverse
  let after := reversed.takeWhile (· ≠ separator)
  match reversed.dropWhile (· ≠ separator) with
  | [] => none
  | _ :: before => some (before.reverse, after.reverse)

def variantOf? (hrp : List Char) (values : List Nat) : Option Variant :=
  let state := reduce (expandPrefix hrp ++ values)
  if state = Variant.residue .bech32 then some .bech32
  else if state = Variant.residue .bech32m then some .bech32m
  else none

/-- Reads a text into its prefix in lower case, its data symbols and its variant. -/
def decode (text : String) : Except Error (String × List Nat × Variant) := do
  let some (hrp, data) := splitLast '1' text.toList | .error .missingSeparator
  if hrp.isEmpty ∨ 83 < (String.ofList hrp).utf8ByteSize then
    .error .invalidLength
  else do
    let seen ← checkPrefix .unseen hrp
    let hrp := hrp.map Char.toLower
    let values ← readData seen data
    if values.length < checksumLength then .error .invalidLength
    else
      match variantOf? hrp values with
      | none => .error .invalidChecksum
      | some variant =>
        .ok (String.ofList hrp, values.take (values.length - checksumLength), variant)

/-- The data symbols of a byte string, filled up with zero bits. -/
def ofBytes (bytes : List UInt8) : List Nat :=
  let bits := 8 * bytes.length
  let count := (bits + 4) / 5
  Positional.digits 32 count (BigEndian.toNat bytes <<< (5 * count - bits))

/-- The byte string of data symbols.  The bits that fill up the last symbol are fewer than five
and all zero. -/
def toBytes (values : List Nat) : Except Error (List UInt8) :=
  let bits := 5 * values.length
  let fill := bits % 8
  let number := Positional.value 32 values
  if 5 ≤ fill ∨ number % Nat.shiftLeft 1 fill ≠ 0 then .error .invalidPadding
  else .ok (BigEndian.bytesOfLength (bits / 8) (number >>> fill))

end StakingGateway.Bech32
