import StakingGateway.Crypto.Ed25519

/-!
# The suite in use

SHA-512/256 for digests and Ed25519 for signatures.
-/

namespace StakingGateway

/-- SHA-512/256 and Ed25519. -/
instance Suite.standard : Suite where
  digest message := ⟨Sha512.digest256 message, Sha512.length_digest256 message⟩
  verify := Ed25519.verify

end StakingGateway
