import StakingGateway.Bytes.Positional
import StakingGateway.Bytes.Utf8
import StakingGateway.Cbor.Width

/-!
# CBOR data items

A data item as it is written: the entries of a map in their order, with whatever keys they have,
tags, and floating-point numbers in the width they were given.  `encode` writes every head in its
shortest form and every length in front of what it counts; only a length that no head can hold is
left open.
-/

namespace StakingGateway.Cbor

/-- A data item.  `negative n` stands for the integer `-1 - n`. -/
inductive Item
  | unsigned (n : UInt64)
  | negative (n : UInt64)
  | bytes (content : List UInt8)
  | text (content : String)
  | array (items : List Item)
  | map (entries : List (Item × Item))
  | tag (number : UInt64) (content : Item)
  | bool (value : Bool)
  | null
  | undefined
  | half (bits : UInt16)
  | single (bits : UInt32)
  | double (bits : UInt64)
  deriving Inhabited, Repr

/-- A head: the major type in three bits, then the argument in as few bytes as hold it. -/
def head (major n : Nat) : List UInt8 :=
  if n < 24 then [UInt8.ofNat (major * 32 + n)]
  else if n < 0x100 then UInt8.ofNat (major * 32 + 24) :: BigEndian.bytesOfLength 1 n
  else if n < 0x10000 then UInt8.ofNat (major * 32 + 25) :: BigEndian.bytesOfLength 2 n
  else if n < 0x100000000 then UInt8.ofNat (major * 32 + 26) :: BigEndian.bytesOfLength 4 n
  else UInt8.ofNat (major * 32 + 27) :: BigEndian.bytesOfLength 8 n

/-- What a length counts, behind the length; or between an open head and a break, if the length
takes more than eight bytes. -/
def counted (major length : Nat) (content chunks : List UInt8) : List UInt8 :=
  if length < 0x10000000000000000 then head major length ++ content
  else UInt8.ofNat (major * 32 + 31) :: (chunks ++ [0xff])

/-- A string of the major type.  In an open one each byte is a chunk. -/
def string (major : Nat) (content : List UInt8) : List UInt8 :=
  counted major content.length content (content.flatMap fun byte => head major 1 ++ [byte])

namespace Item

mutual

def encode : Item → List UInt8
  | .unsigned n => head 0 n.toNat
  | .negative n => head 1 n.toNat
  | .bytes content => string 2 content
  | .text content => string 3 (Utf8.encode content)
  | .array items => counted 4 items.length (encodeItems items) (encodeItems items)
  | .map entries => counted 5 entries.length (encodeEntries entries) (encodeEntries entries)
  | .tag number content => head 6 number.toNat ++ encode content
  | .bool false => [0xf4]
  | .bool true => [0xf5]
  | .null => [0xf6]
  | .undefined => [0xf7]
  | .half bits => 0xf9 :: BigEndian.bytesOfLength 2 bits.toNat
  | .single bits => 0xfa :: BigEndian.bytesOfLength 4 bits.toNat
  | .double bits => 0xfb :: BigEndian.bytesOfLength 8 bits.toNat

def encodeItems : List Item → List UInt8
  | [] => []
  | item :: items => encode item ++ encodeItems items

def encodeEntries : List (Item × Item) → List UInt8
  | [] => []
  | (key, value) :: entries => encode key ++ (encode value ++ encodeEntries entries)

end

theorem encode_unsigned (n : UInt64) : encode (.unsigned n) = head 0 n.toNat :=
  rfl

theorem encode_negative (n : UInt64) : encode (.negative n) = head 1 n.toNat :=
  rfl

theorem encode_bytes (content : List UInt8) : encode (.bytes content) = string 2 content :=
  rfl

theorem encode_text (content : String) :
    encode (.text content) = string 3 (Utf8.encode content) :=
  rfl

theorem encode_array (items : List Item) :
    encode (.array items) = counted 4 items.length (encodeItems items) (encodeItems items) :=
  rfl

theorem encode_map (entries : List (Item × Item)) :
    encode (.map entries)
      = counted 5 entries.length (encodeEntries entries) (encodeEntries entries) :=
  rfl

theorem encode_tag (number : UInt64) (content : Item) :
    encode (.tag number content) = head 6 number.toNat ++ encode content :=
  rfl

theorem encode_half (bits : UInt16) :
    encode (.half bits) = 0xf9 :: BigEndian.bytesOfLength 2 bits.toNat :=
  rfl

theorem encode_single (bits : UInt32) :
    encode (.single bits) = 0xfa :: BigEndian.bytesOfLength 4 bits.toNat :=
  rfl

theorem encode_double (bits : UInt64) :
    encode (.double bits) = 0xfb :: BigEndian.bytesOfLength 8 bits.toNat :=
  rfl

def ofInt (value : Int) : Item :=
  if 0 ≤ value then .unsigned (UInt64.ofNat value.toNat)
  else .negative (UInt64.ofNat (-1 - value).toNat)

/-- A record: the fields that are given, each under its name, in the order of the list. -/
def record (fields : List (String × Option Item)) : Item :=
  .map (fields.filterMap fun (name, item) => item.map fun item => (.text name, item))

def untag : Item → Item
  | .tag _ content => untag content
  | item => item

end Item

end StakingGateway.Cbor
