import StakingGateway.Bytes.Hex
import StakingGateway.Cbor.Record
import StakingGateway.Crypto.Suite

/-!
# Hashes

A hash names a transaction or a block.  Its text is hexadecimal, on the wire it is a byte string,
and a byte string of length zero stands for no hash.
-/

namespace StakingGateway

namespace Hash

def digest [Suite] (message : List UInt8) : Hash :=
  Suite.digest message

def digestParts [Suite] (parts : List (List UInt8)) : Hash :=
  digest parts.flatten

def empty [Suite] : Hash :=
  digest []

def zero : Hash :=
  ⟨List.replicate 32 0, List.length_replicate⟩

/-- A hash that stands for no hash: all zero, or the digest of no bytes. -/
def isEmpty [Suite] (hash : Hash) : Bool :=
  hash = empty || hash = zero

def ofBytes? (bytes : List UInt8) : Option Hash :=
  if h : bytes.length = 32 then some ⟨bytes, h⟩ else none

def ofHex? (text : String) : Option Hash :=
  (Hex.decode? text).bind ofBytes?

def text (hash : Hash) : String :=
  Hex.encode hash.bytes

def debug (hash : Hash) : String :=
  "Hash(" ++ hash.text ++ ")"

theorem ext_bytes {a b : Hash} (h : a.bytes = b.bytes) : a = b := by
  cases a
  cases b
  simp_all

theorem ofBytes?_bytes (hash : Hash) : ofBytes? hash.bytes = some hash := by
  simp [ofBytes?, hash.length_eq]

def toItem (hash : Hash) : Cbor.Item :=
  .bytes hash.bytes

/-- A hash, or no bytes for no hash. -/
def ofItem? (item : Cbor.Item) : Option Hash :=
  item.asBytes?.bind fun bytes => if bytes.isEmpty then some zero else ofBytes? bytes

theorem ofItem?_toItem (hash : Hash) : ofItem? hash.toItem = some hash := by
  have hlength : hash.bytes ≠ [] := List.ne_nil_of_length_pos (by simp [hash.length_eq])
  simp [ofItem?, toItem, Cbor.Item.asBytes?, Cbor.Item.untag, hlength, ofBytes?_bytes]

end Hash

end StakingGateway
