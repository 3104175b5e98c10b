import StakingGateway.Cbor.Item

/-!
# Reading CBOR

Heads may be longer than need be and lengths may be left open and closed by a break.  At most
127 arrays, maps and tags stand inside one another.  Reserved heads, simple values other than
the booleans, null and undefined, and text that is not UTF-8 are refused, and a text in open
chunks is judged as a whole.
-/

namespace StakingGateway.Cbor

/-- A reader takes what it reads off the front of a byte list. -/
abbrev Reader (α : Type) := List UInt8 → Option (α × List UInt8)

/-- How many arrays, maps and tags may stand inside one another. -/
def nestingLimit : Nat := 127

def take (count : Nat) : Reader (List UInt8) :=
  match count with
  | 0 => fun bytes => some ([], bytes)
  | count + 1 => fun
    | [] => none
    | byte :: rest =>
      match take count rest with
      | some (taken, rest) => some (byte :: taken, rest)
      | none => none

def takeNumber (length : Nat) : Reader Nat := fun bytes =>
  match take length bytes with
  | some (taken, rest) => some (BigEndian.toNat taken, rest)
  | none => none

/-- The argument of a head whose low five bits are `info`, of the definite kinds. -/
def takeArgument (info : Nat) : Reader Nat := fun bytes =>
  if info < 24 then some (info, bytes)
  else if info = 24 then takeNumber 1 bytes
  else if info = 25 then takeNumber 2 bytes
  else if info = 26 then takeNumber 4 bytes
  else if info = 27 then takeNumber 8 bytes
  else none

def readCount {α : Type} (read : Reader α) : Nat → Reader (List α)
  | 0, bytes => some ([], bytes)
  | count + 1, bytes => do
    let (value, rest) ← read bytes
    let (values, rest) ← readCount read count rest
    return (value :: values, rest)

/-- Reads things in a row up to a break.  Each takes a byte at least, so there are no more of them
than `fuel` if that is the number of bytes. -/
def readUntilBreak {α : Type} (read : Reader α) (fuel : Nat) (bytes : List UInt8) :
    Option (List α × List UInt8) :=
  match bytes with
  | [] => none
  | byte :: rest =>
    if byte = 0xff then some ([], rest)
    else
      match fuel with
      | 0 => none
      | fuel + 1 => do
        let (value, rest) ← read (byte :: rest)
        let (values, rest) ← readUntilBreak read fuel rest
        return (value :: values, rest)

def readEntry {α : Type} (read : Reader α) : Reader (α × α) := fun bytes => do
  let (key, rest) ← read bytes
  let (value, rest) ← read rest
  return ((key, value), rest)

def readChunk (major : Nat) : Reader (List UInt8)
  | [] => none
  | initial :: rest =>
    if initial.toNat / 32 = major then do
      let (length, rest) ← takeArgument (initial.toNat % 32) rest
      take length rest
    else none

def readString (major info : Nat) : Reader (List UInt8) := fun bytes =>
  if info = 31 then do
    let (chunks, rest) ← readUntilBreak (readChunk major) bytes.length bytes
    return (chunks.flatten, rest)
  else do
    let (length, rest) ← takeArgument info bytes
    take length rest

def readMany {α : Type} (read : Reader α) (info : Nat) : Reader (List α) := fun bytes =>
  if info = 31 then readUntilBreak read bytes.length bytes
  else do
    let (count, rest) ← takeArgument info bytes
    readCount read count rest

def readSimple (info : Nat) : Reader Item := fun bytes =>
  if info = 20 then some (.bool false, bytes)
  else if info = 21 then some (.bool true, bytes)
  else if info = 22 then some (.null, bytes)
  else if info = 23 then some (.undefined, bytes)
  else if info = 25 then do
    let (bits, rest) ← takeNumber 2 bytes
    return (.half (UInt16.ofNat bits), rest)
  else if info = 26 then do
    let (bits, rest) ← takeNumber 4 bytes
    return (.single (UInt32.ofNat bits), rest)
  else if info = 27 then do
    let (bits, rest) ← takeNumber 8 bytes
    return (.double (UInt64.ofNat bits), rest)
  else none

/-- Reads an item, given how to read the items inside it, if it may hold any. -/
def readWith (nested : Option (Reader Item)) : Reader Item
  | [] => none
  | initial :: rest =>
    let info := initial.toNat % 32
    match initial.toNat / 32 with
    | 0 => do
      let (n, rest) ← takeArgument info rest
      return (.unsigned (UInt64.ofNat n), rest)
    | 1 => do
      let (n, rest) ← takeArgument info rest
      return (.negative (UInt64.ofNat n), rest)
    | 2 => do
      let (content, rest) ← readString 2 info rest
      return (.bytes content, rest)
    | 3 => do
      let (content, rest) ← readString 3 info rest
      let text ← Utf8.decode? content
      return (.text text, rest)
    | 4 => do
      let read ← nested
      let (items, rest) ← readMany read info rest
      return (.array items, rest)
    | 5 => do
      let read ← nested
      let (entries, rest) ← readMany (readEntry read) info rest
      return (.map entries, rest)
    | 6 => do
      let read ← nested
      let (number, rest) ← takeArgument info rest
      let (content, rest) ← read rest
      return (.tag (UInt64.ofNat number) content, rest)
    | _ => readSimple info rest

/-- Reads an item with at most `depth` containers and tags inside one another. -/
def readItem : Nat → Reader Item
  | 0 => readWith none
  | depth + 1 => readWith (some (readItem depth))

def decode (bytes : List UInt8) : Option Item :=
  match readItem nestingLimit bytes with
  | some (item, []) => some item
  | _ => none

end StakingGateway.Cbor
