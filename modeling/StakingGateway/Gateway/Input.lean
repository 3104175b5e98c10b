import StakingGateway.Api.Construction
import StakingGateway.Api.Error
import StakingGateway.Operation.Amount

/-!
# Values in requests

How addresses, keys and heights are read from what a client sends, and which failure is reported
when they cannot be.
-/

namespace StakingGateway

open Api

namespace Api.Failure

def malformedValue (reason : String) : Failure :=
  ⟨.malformedValue, some reason⟩

def invalidAccountAddress (reason : String) : Failure :=
  ⟨.invalidAccountAddress, some reason⟩

end Api.Failure

def Api.CurveType.label : CurveType → String
  | .secp256k1 => "SECP256K1"
  | .secp256r1 => "SECP256R1"
  | .edwards25519 => "EDWARDS25519"
  | .tweedle => "TWEEDLE"

namespace Input

def bytes (hex : String) : Except Failure (List UInt8) :=
  match Hex.decode hex with
  | .ok bytes => .ok bytes
  | .error reason => .error (.malformedValue ("Hex could not be decoded " ++ reason.message))

def address (text : String) : Except Failure Address :=
  if text.isEmpty then .error (.invalidAccountAddress "empty address")
  else
    match Address.ofText text with
    | .ok address => .ok address
    | .error reason => .error (.invalidAccountAddress reason.message)

/-- Reads a public key of the one curve that is supported. -/
def publicKey (key : PublicKey) : Except Failure (List UInt8) := do
  if key.curveType ≠ .edwards25519 then
    throw (.malformedValue ("unsupported curve type " ++ key.curveType.label))
  let bytes ← bytes key.hexBytes
  if bytes.length ≠ Address.publicKeyLength then
    throw (.malformedValue ("public key must be " ++ toString Address.publicKeyLength
      ++ " bytes, got " ++ toString bytes.length))
  return bytes

end Input

end StakingGateway
