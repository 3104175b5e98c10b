/-!
# The digest and the signature check

Everything the gateway hashes or verifies goes through a `Suite`: a digest of 32 bytes and a
verdict on a signature.  Nothing else in the gateway looks inside the two.
-/

namespace StakingGateway

/-- A digest of 32 bytes. -/
structure Hash where
  bytes : List UInt8
  length_eq : bytes.length = 32
  deriving DecidableEq

/-- What a signature check finds. -/
inductive Verdict
  | accepted
  | malformedKey
  | malformedSignature
  | rejected
  deriving DecidableEq, Repr

/-- A digest function and a signature check. -/
class Suite where
  digest : List UInt8 → Hash
  verify : (publicKey message signature : List UInt8) → Verdict

end StakingGateway
