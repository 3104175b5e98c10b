import StakingGateway.Bytes.Bech32
import StakingGateway.Hash

/-!
# Staking addresses

An address is a version byte, of which there is only zero, and twenty bytes of the digest of a
public key.  Its text is bech32 with the prefix `oasis`; it is read in either case.  Two addresses
are reserved: one account holds the common pool, the other collects fees.
-/

namespace StakingGateway

/-- A staking account address: the bytes after its version. -/
structure Address where
  payload : List UInt8
  length_eq : payload.length = 20
  deriving DecidableEq

namespace Address

inductive Error
  | malformed (reason : Bech32.Error)
  | wrongVariant
  | wrongPrefix (hrp : String)
  | invalidLength (length : Nat)
  | unsupportedVersion (version : UInt8)
  deriving DecidableEq, Repr

def Error.message : Error → String
  | .malformed reason => "malformed address: " ++ reason.message
  | .wrongVariant => "malformed address: not a bech32 string"
  | .wrongPrefix hrp => "unexpected address prefix '" ++ hrp ++ "'"
  | .invalidLength length => "invalid address length " ++ toString length
  | .unsupportedVersion version => "unsupported address version " ++ toString version.toNat

/-- The prefix of an address text. -/
def hrp : String := "oasis"

def publicKeyLength : Nat := 32

def bytes (address : Address) : List UInt8 :=
  0 :: address.payload

def ofBytes : List UInt8 → Except Error Address
  | [] => .error (.invalidLength 0)
  | version :: payload =>
    if h : payload.length = 20 then
      if version = 0 then .ok ⟨payload, h⟩ else .error (.unsupportedVersion version)
    else .error (.invalidLength (payload.length + 1))

def text (address : Address) : String :=
  Bech32.encode .bech32 hrp (Bech32.ofBytes address.bytes)

def debug (address : Address) : String :=
  "Address(" ++ address.text ++ ")"

def ofText (text : String) : Except Error Address :=
  match Bech32.decode text with
  | .error reason => .error (.malformed reason)
  | .ok (found, data, variant) =>
    if found ≠ hrp then .error (.wrongPrefix found)
    else if variant ≠ .bech32 then .error .wrongVariant
    else
      match Bech32.toBytes data with
      | .error reason => .error (.malformed reason)
      | .ok bytes => ofBytes bytes

/-- The context that separates address digests from all others. -/
def context : String := "oasis-core/address: staking"

def ofPublicKey [Suite] (publicKey : List UInt8) : Address :=
  let digest := Hash.digestParts [Utf8.encode context, [0], publicKey]
  ⟨digest.bytes.take 20, by simp [digest.length_eq]⟩

/-- The key of the account of undistributed rewards and slashed stake. -/
def commonPoolKey : List UInt8 :=
  [0x1a, 0xbe, 0x11, 0xed, 0xc0, 0x01] ++ List.replicate 26 0xff

/-- The key of the account that collects fees until they are paid out. -/
def feeAccumulatorKey : List UInt8 :=
  [0x1a, 0xbe, 0x11, 0xed, 0xfe, 0xea, 0xcc] ++ List.replicate 25 0xff

def commonPool [Suite] : Address :=
  ofPublicKey commonPoolKey

def feeAccumulator [Suite] : Address :=
  ofPublicKey feeAccumulatorKey

def toItem (address : Address) : Cbor.Item :=
  .bytes address.bytes

def ofItem? (item : Cbor.Item) : Option Address :=
  item.asBytes?.bind fun bytes => (ofBytes bytes).toOption

theorem ofBytes_bytes (address : Address) : ofBytes address.bytes = .ok address := by
  simp [ofBytes, bytes, address.length_eq]

end Address

end StakingGateway
