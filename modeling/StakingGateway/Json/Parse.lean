import StakingGateway.Json.Document

/-!
# Reading JSON text

The text is given as bytes.  Everything in it has to be well-formed; of what is, three things
stand for no value: strings with a lone surrogate or with bytes that are not UTF-8, numbers beyond
the range of doubles, and arrays and objects inside 127 others.

A number without fraction and exponent is whole if it lies between -2⁶³ and 2⁶⁴ - 1 and is not a
negative zero.  Any other number is a double: its leading digits, as many as 64 bits hold, scaled
by a power of ten.
-/

namespace StakingGateway.Json

/-- A reader takes what it reads off the front of a byte list. -/
abbrev Reader (α : Type) := List UInt8 → Option (α × List UInt8)

/-- How many arrays and objects may stand inside one another. -/
def nestingLimit : Nat := 127

def skipBlanks : List UInt8 → List UInt8
  | [] => []
  | byte :: rest =>
    if byte = 0x20 || byte = 0x09 || byte = 0x0a || byte = 0x0d then skipBlanks rest
    else byte :: rest

def takeWord : List UInt8 → List UInt8 → Option (List UInt8)
  | [], bytes => some bytes
  | _ :: _, [] => none
  | letter :: word, byte :: rest => if letter = byte then takeWord word rest else none

/-! ## Numbers -/

def digit? (byte : UInt8) : Option Nat :=
  if 0x30 ≤ byte && byte ≤ 0x39 then some (byte.toNat - 0x30) else none

/-- Splits leading decimal digits off, after those already found in reverse. -/
def splitDigits (found : List Nat) : List UInt8 → List Nat × List UInt8
  | [] => (found.reverse, [])
  | byte :: rest =>
    match digit? byte with
    | some digit => splitDigits (digit :: found) rest
    | none => (found.reverse, byte :: rest)

def takeDigits : Reader (List Nat) := fun bytes =>
  match splitDigits [] bytes with
  | ([], _) => none
  | (digits, rest) => some (digits, rest)

/-- Takes the digits of a whole number, which has no leading zero unless it is zero. -/
def takeWhole : Reader (List Nat) := fun bytes => do
  let (digits, rest) ← takeDigits bytes
  match digits with
  | 0 :: _ :: _ => none
  | _ => return (digits, rest)

def takeFraction : Reader (Option (List Nat))
  | 0x2e :: rest => do
    let (digits, rest) ← takeDigits rest
    return (some digits, rest)
  | bytes => some (none, bytes)

def takeExponent : Reader (Option Int)
  | letter :: rest =>
    if letter = 0x65 || letter = 0x45 then
      let (negative, rest) :=
        match rest with
        | 0x2d :: rest => (true, rest)
        | 0x2b :: rest => (false, rest)
        | rest => (false, rest)
      do
        let (digits, rest) ← takeDigits rest
        let size : Nat := digits.foldl (fun n d => n * 10 + d) 0
        return (some (if negative then -(size : Int) else size), rest)
    else some (none, letter :: rest)
  | [] => some (none, [])

/-- Appends digits to a significand as long as it stays below 2⁶⁴, and returns those left over. -/
def extend (significand : Nat) : List Nat → Nat × List Nat
  | [] => (significand, [])
  | digit :: digits =>
    if significand * 10 + digit < 0x10000000000000000 then
      extend (significand * 10 + digit) digits
    else (significand, digit :: digits)

/-- Divides a double by a power of ten, in steps of at most 308 places. -/
def scaleDown (x : Double) (places : Nat) : Double :=
  if places ≤ 308 then x.div (.ofNat (Nat.pow 10 places))
  else if x.quanta = 0 then x
  else scaleDown (x.div (.ofNat (Nat.pow 10 308))) (places - 308)
termination_by places

/-- A significand scaled by a power of ten, if that is finite. -/
def scale? (significand : Nat) (exponent : Int) : Option Double :=
  if significand = 0 then some ⟨0⟩
  else if exponent < 0 then some (scaleDown (.ofNat significand) exponent.natAbs)
  else if exponent ≤ 308 then
    let x := (Double.ofNat significand).mul (.ofNat (Nat.pow 10 exponent.natAbs))
    if x.isFinite then some x else none
  else none

def number? (negative : Bool) (whole : List Nat) (fraction : Option (List Nat))
    (exponent : Option Int) : Option Number :=
  let (integral, dropped) := extend 0 whole
  if fraction.isNone && exponent.isNone && dropped.isEmpty then
    if !negative then some (.integer integral)
    else if integral = 0 || 0x8000000000000000 < integral then
      some (.float ((Double.ofNat integral).withSign true))
    else some (.integer (-integral))
  else
    let fraction := fraction.getD []
    let (significand, unread) := extend integral fraction
    let places : Int := (dropped.length : Int) - (fraction.length - unread.length : Nat)
    (scale? significand (places + exponent.getD 0)).map fun x => .float (x.withSign negative)

def readNumber (negative : Bool) : Reader Document := fun bytes => do
  let (whole, rest) ← takeWhole bytes
  let (fraction, rest) ← takeFraction rest
  let (exponent, rest) ← takeExponent rest
  match number? negative whole fraction exponent with
  | some value => return (.number value, rest)
  | none => return (.valueless, rest)

/-! ## Strings -/

/-- A part of a string: a byte of its UTF-8 form or an escaped UTF-16 code unit. -/
inductive Piece
  | byte (value : UInt8)
  | unit (value : Nat)
  deriving DecidableEq, Repr

def hexDigit? (byte : UInt8) : Option Nat :=
  if 0x30 ≤ byte && byte ≤ 0x39 then some (byte.toNat - 0x30)
  else if 0x61 ≤ byte && byte ≤ 0x66 then some (byte.toNat - 0x57)
  else if 0x41 ≤ byte && byte ≤ 0x46 then some (byte.toNat - 0x37)
  else none

def escape? (letter : UInt8) : Option UInt8 :=
  if letter = 0x22 || letter = 0x5c || letter = 0x2f then some letter
  else if letter = 0x62 then some 0x08
  else if letter = 0x66 then some 0x0c
  else if letter = 0x6e then some 0x0a
  else if letter = 0x72 then some 0x0d
  else if letter = 0x74 then some 0x09
  else none

/-- Takes the pieces of a string up to its closing quote, after those already found in reverse.
Control characters have to be escaped. -/
def takePieces (found : List Piece) : Reader (List Piece)
  | [] => none
  | 0x22 :: rest => some (found.reverse, rest)
  | 0x5c :: 0x75 :: a :: b :: c :: d :: rest =>
    match hexDigit? a, hexDigit? b, hexDigit? c, hexDigit? d with
    | some a, some b, some c, some d =>
      takePieces (.unit (((a * 16 + b) * 16 + c) * 16 + d) :: found) rest
    | _, _, _, _ => none
  | 0x5c :: letter :: rest =>
    match escape? letter with
    | some byte => takePieces (.byte byte :: found) rest
    | none => none
  | byte :: rest =>
    if byte < 0x20 || byte = 0x5c then none else takePieces (.byte byte :: found) rest

def isHighSurrogate (unit : Nat) : Bool :=
  0xd800 ≤ unit && unit < 0xdc00

def isLowSurrogate (unit : Nat) : Bool :=
  0xdc00 ≤ unit && unit < 0xe000

/-- The bytes that pieces stand for, after those already found in reverse.  Surrogates have to
come in pairs. -/
def assemble (found : List UInt8) : List Piece → Option (List UInt8)
  | [] => some found.reverse
  | .byte value :: pieces => assemble (value :: found) pieces
  | .unit high :: .unit low :: pieces =>
    if isHighSurrogate high then
      if isLowSurrogate low then
        let point := 0x10000 + (high - 0xd800) * 0x400 + (low - 0xdc00)
        assemble ((Utf8.encode (String.singleton (Char.ofNat point))).reverse ++ found) pieces
      else none
    else if isLowSurrogate high then none
    else
      assemble ((Utf8.encode (String.singleton (Char.ofNat high))).reverse ++ found)
        (.unit low :: pieces)
  | .unit value :: pieces =>
    if isHighSurrogate value || isLowSurrogate value then none
    else assemble ((Utf8.encode (String.singleton (Char.ofNat value))).reverse ++ found) pieces

/-- Reads what follows an opening quote.  The string is `none` if it stands for no text. -/
def readString : Reader (Option String) := fun bytes => do
  let (pieces, rest) ← takePieces [] bytes
  return ((assemble [] pieces).bind Utf8.decode?, rest)

/-! ## Arrays, objects and whole texts -/

/-- Reads things with commas between them up to a closing byte, after those already found in
reverse.  Each takes a byte at least, so there are no more of them than `fuel` if that is the
number of bytes. -/
def readRow {α : Type} (close : UInt8) (read : Reader α) :
    (fuel : Nat) → (found : List α) → Reader (List α)
  | 0, _, _ => none
  | fuel + 1, found, bytes =>
    match read bytes with
    | none => none
    | some (value, rest) =>
      match skipBlanks rest with
      | [] => none
      | byte :: rest =>
        if byte = 0x2c then readRow close read fuel (value :: found) rest
        else if byte = close then some ((value :: found).reverse, rest)
        else none

def readMany {α : Type} (close : UInt8) (read : Reader α) : Reader (List α) := fun bytes =>
  match skipBlanks bytes with
  | [] => none
  | byte :: rest =>
    if byte = close then some ([], rest) else readRow close read bytes.length [] (byte :: rest)

def readMember (read : Reader Document) : Reader (Option String × Document) := fun bytes =>
  match skipBlanks bytes with
  | 0x22 :: rest => do
    let (name, rest) ← readString rest
    match skipBlanks rest with
    | 0x3a :: rest =>
      let (value, rest) ← read rest
      return ((name, value), rest)
    | _ => none
  | _ => none

/-- The object with the members; a name that stands for no text leaves it without value. -/
def Document.ofMembers (members : List (Option String × Document)) : Document :=
  match members.mapM fun (name, value) => name.map fun name => (name, value) with
  | some members => .object members
  | none => .valueless

/-- Reads a document, given how to read the documents inside it and whether a container still has
a value here. -/
def readWith (nested : Reader Document) (room : Bool) : Reader Document := fun bytes =>
  match skipBlanks bytes with
  | 0x5b :: rest => do
    let (items, rest) ← readMany 0x5d nested rest
    return (if room then .array items else .valueless, rest)
  | 0x7b :: rest => do
    let (members, rest) ← readMany 0x7d (readMember nested) rest
    return (if room then .ofMembers members else .valueless, rest)
  | 0x22 :: rest => do
    let (text, rest) ← readString rest
    return (match text with | some text => .string text | none => .valueless, rest)
  | 0x2d :: rest => readNumber true rest
  | 0x6e :: rest => (takeWord [0x75, 0x6c, 0x6c] rest).map fun rest => (.null, rest)
  | 0x74 :: rest => (takeWord [0x72, 0x75, 0x65] rest).map fun rest => (.bool true, rest)
  | 0x66 :: rest => (takeWord [0x61, 0x6c, 0x73, 0x65] rest).map fun rest => (.bool false, rest)
  | rest => readNumber false rest

/-- Reads a document, of which `room` containers inside one another have a value.  Each container
takes a byte at least, so `fuel` suffices if it is the number of bytes. -/
def readDocument : (fuel : Nat) → (room : Nat) → Reader Document
  | 0, _ => fun _ => none
  | fuel + 1, room => readWith (readDocument fuel (room - 1)) (0 < room)

def parse? (text : List UInt8) : Option Document :=
  match readDocument text.length nestingLimit text with
  | some (document, rest) => if (skipBlanks rest).isEmpty then some document else none
  | none => none

end StakingGateway.Json
