import StakingGateway.Api.Operation

/-!
# Construction messages

The requests and answers that lead from operations to a transaction on its way to the node.
-/

namespace StakingGateway.Api

open Json Model

inductive CurveType
  | secp256k1
  | secp256r1
  | edwards25519
  | tweedle
  deriving DecidableEq, Repr

namespace CurveType

def name : CurveType → String
  | .secp256k1 => "secp256k1"
  | .secp256r1 => "secp256r1"
  | .edwards25519 => "edwards25519"
  | .tweedle => "tweedle"

def ofName? (name : String) : Option CurveType :=
  if name = "secp256k1" then some .secp256k1
  else if name = "secp256r1" then some .secp256r1
  else if name = "edwards25519" then some .edwards25519
  else if name = "tweedle" then some .tweedle
  else none

end CurveType

instance : Model CurveType where
  toJson value := .string value.name
  ofDocument? document := document.caseName?.bind CurveType.ofName?

inductive SignatureType
  | ecdsa
  | ecdsaRecovery
  | ed25519
  | schnorr1
  | schnorrPoseidon
  deriving DecidableEq, Repr

namespace SignatureType

def name : SignatureType → String
  | .ecdsa => "ecdsa"
  | .ecdsaRecovery => "ecdsa_recovery"
  | .ed25519 => "ed25519"
  | .schnorr1 => "schnorr_1"
  | .schnorrPoseidon => "schnorr_poseidon"

def ofName? (name : String) : Option SignatureType :=
  if name = "ecdsa" then some .ecdsa
  else if name = "ecdsa_recovery" then some .ecdsaRecovery
  else if name = "ed25519" then some .ed25519
  else if name = "schnorr_1" then some .schnorr1
  else if name = "schnorr_poseidon" then some .schnorrPoseidon
  else none

end SignatureType

instance : Model SignatureType where
  toJson value := .string value.name
  ofDocument? document := document.caseName?.bind SignatureType.ofName?

/-- A public key on a curve, in hexadecimal. -/
structure PublicKey where
  hexBytes : String
  curveType : CurveType

instance : Model PublicKey where
  toJson value :=
    .record [field "hex_bytes" value.hexBytes, field "curve_type" value.curveType]
  ofDocument? document := do
    let members ← document.members? ["hex_bytes", "curve_type"]
    let hexBytes ← required members "hex_bytes"
    let curveType ← required members "curve_type"
    return ⟨hexBytes, curveType⟩

/-- Bytes that the key of an account has to sign, in hexadecimal. -/
structure SigningPayload where
  address : Option String := none
  accountIdentifier : Option AccountIdentifier := none
  hexBytes : String
  signatureType : Option SignatureType := none

instance : Model SigningPayload where
  toJson value :=
    .record [optionalField "address" value.address,
      optionalField "account_identifier" value.accountIdentifier, field "hex_bytes" value.hexBytes,
      optionalField "signature_type" value.signatureType]
  ofDocument? document := do
    let members ← document.members? ["address", "account_identifier", "hex_bytes",
      "signature_type"]
    let address ← optional members "address"
    let accountIdentifier ← optional members "account_identifier"
    let hexBytes ← required members "hex_bytes"
    let signatureType ← optional members "signature_type"
    return ⟨address, accountIdentifier, hexBytes, signatureType⟩

/-- A signature in hexadecimal, with what was signed and the key. -/
structure Signature where
  signingPayload : SigningPayload
  publicKey : PublicKey
  signatureType : SignatureType
  hexBytes : String

instance : Model Signature where
  toJson value :=
    .record [field "signing_payload" value.signingPayload, field "public_key" value.publicKey,
      field "signature_type" value.signatureType, field "hex_bytes" value.hexBytes]
  ofDocument? document := do
    let members ← document.members? ["signing_payload", "public_key", "signature_type",
      "hex_bytes"]
    let signingPayload ← required members "signing_payload"
    let publicKey ← required members "public_key"
    let signatureType ← required members "signature_type"
    let hexBytes ← required members "hex_bytes"
    return ⟨signingPayload, publicKey, signatureType, hexBytes⟩

structure ConstructionDeriveRequest where
  networkIdentifier : Option NetworkIdentifier := none
  publicKey : PublicKey
  metadata : Option Object := none

instance : Model ConstructionDeriveRequest where
  toJson value :=
    .record [optionalField "network_identifier" value.networkIdentifier,
      field "public_key" value.publicKey, optionalField "metadata" value.metadata]
  ofDocument? document := do
    let members ← document.members? ["network_identifier", "public_key", "metadata"]
    let networkIdentifier ← optional members "network_identifier"
    let publicKey ← required members "public_key"
    let metadata ← optional members "metadata"
    return ⟨networkIdentifier, publicKey, metadata⟩

def ConstructionDeriveRequest.of (networkIdentifier : NetworkIdentifier)
    (publicKey : PublicKey) : ConstructionDeriveRequest :=
  { networkIdentifier := some networkIdentifier, publicKey }

structure ConstructionDeriveResponse where
  address : Option String := none
  accountIdentifier : Option AccountIdentifier := none
  metadata : Option Object := none

instance : Model ConstructionDeriveResponse where
  toJson value :=
    .record [optionalField "address" value.address,
      optionalField "account_identifier" value.accountIdentifier,
      optionalField "metadata" value.metadata]
  ofDocument? document := do
    let members ← document.members? ["address", "account_identifier", "metadata"]
    let address ← optional members "address"
    let accountIdentifier ← optional members "account_identifier"
    let metadata ← optional members "metadata"
    return ⟨address, accountIdentifier, metadata⟩

structure ConstructionPreprocessRequest where
  networkIdentifier : Option NetworkIdentifier := none
  operations : List Operation
  metadata : Option Object := none

instance : Model ConstructionPreprocessRequest where
  toJson value :=
    .record [optionalField "network_identifier" value.networkIdentifier,
      field "operations" value.operations, optionalField "metadata" value.metadata]
  ofDocument? document := do
    let members ← document.members? ["network_identifier", "operations", "metadata"]
    let networkIdentifier ← optional members "network_identifier"
    let operations ← required members "operations"
    let metadata ← optional members "metadata"
    return ⟨networkIdentifier, operations, metadata⟩

def ConstructionPreprocessRequest.of (networkIdentifier : NetworkIdentifier)
    (operations : List Operation) : ConstructionPreprocessRequest :=
  { networkIdentifier := some networkIdentifier, operations }

/-- What to hand over in the request for metadata. -/
structure ConstructionPreprocessResponse where
  options : Option Object := none

instance : Model ConstructionPreprocessResponse where
  toJson value :=
    .record [optionalField "options" value.options]
  ofDocument? document := do
    let members ← document.members? ["options"]
    let options ← optional members "options"
    return ⟨options⟩

structure ConstructionMetadataRequest where
  networkIdentifier : Option NetworkIdentifier := none
  options : Option Object := none
  publicKeys : Option (List PublicKey) := none

instance : Model ConstructionMetadataRequest where
  toJson value :=
    .record [optionalField "network_identifier" value.networkIdentifier,
      optionalField "options" value.options, optionalField "public_keys" value.publicKeys]
  ofDocument? document := do
    let members ← document.members? ["network_identifier", "options", "public_keys"]
    let networkIdentifier ← optional members "network_identifier"
    let options ← optional members "options"
    let publicKeys ← optional members "public_keys"
    return ⟨networkIdentifier, options, publicKeys⟩

def ConstructionMetadataRequest.of
    (networkIdentifier : NetworkIdentifier) : ConstructionMetadataRequest :=
  { networkIdentifier := some networkIdentifier }

structure ConstructionMetadataResponse where
  metadata : Object
  suggestedFee : Option (List Amount) := none

instance : Model ConstructionMetadataResponse where
  toJson value :=
    .record [field "metadata" value.metadata, optionalField "suggested_fee" value.suggestedFee]
  ofDocument? document := do
    let members ← document.members? ["metadata", "suggested_fee"]
    let metadata ← required members "metadata"
    let suggestedFee ← optional members "suggested_fee"
    return ⟨metadata, suggestedFee⟩

def ConstructionMetadataResponse.of (metadata : Object) : ConstructionMetadataResponse :=
  { metadata }

structure ConstructionPayloadsRequest where
  networkIdentifier : Option NetworkIdentifier := none
  operations : List Operation
  metadata : Option Object := none
  publicKeys : Option (List PublicKey) := none

instance : Model ConstructionPayloadsRequest where
  toJson value :=
    .record [optionalField "network_identifier" value.networkIdentifier,
      field "operations" value.operations, optionalField "metadata" value.metadata,
      optionalField "public_keys" value.publicKeys]
  ofDocument? document := do
    let members ← document.members? ["network_identifier", "operations", "metadata", "public_keys"]
    let networkIdentifier ← optional members "network_identifier"
    let operations ← required members "operations"
    let metadata ← optional members "metadata"
    let publicKeys ← optional members "public_keys"
    return ⟨networkIdentifier, operations, metadata, publicKeys⟩

def ConstructionPayloadsRequest.of (networkIdentifier : NetworkIdentifier)
    (operations : List Operation) : ConstructionPayloadsRequest :=
  { networkIdentifier := some networkIdentifier, operations }

structure ConstructionPayloadsResponse where
  unsignedTransaction : String
  payloads : List SigningPayload

instance : Model ConstructionPayloadsResponse where
  toJson value :=
    .record [field "unsigned_transaction" value.unsignedTransaction,
      field "payloads" value.payloads]
  ofDocument? document := do
    let members ← document.members? ["unsigned_transaction", "payloads"]
    let unsignedTransaction ← required members "unsigned_transaction"
    let payloads ← required members "payloads"
    return ⟨unsignedTransaction, payloads⟩

structure ConstructionCombineRequest where
  networkIdentifier : Option NetworkIdentifier := none
  unsignedTransaction : String
  signatures : List Signature

instance : Model ConstructionCombineRequest where
  toJson value :=
    .record [optionalField "network_identifier" value.networkIdentifier,
      field "unsigned_transaction" value.unsignedTransaction, field "signatures" value.signatures]
  ofDocument? document := do
    let members ← document.members? ["network_identifier", "unsigned_transaction", "signatures"]
    let networkIdentifier ← optional members "network_identifier"
    let unsignedTransaction ← required members "unsigned_transaction"
    let signatures ← required members "signatures"
    return ⟨networkIdentifier, unsignedTransaction, signatures⟩

def ConstructionCombineRequest.of (networkIdentifier : NetworkIdentifier)
    (unsignedTransaction : String) (signatures : List Signature) : ConstructionCombineRequest :=
  { networkIdentifier := some networkIdentifier, unsignedTransaction, signatures }

structure ConstructionCombineResponse where
  signedTransaction : String

instance : Model ConstructionCombineResponse where
  toJson value :=
    .record [field "signed_transaction" value.signedTransaction]
  ofDocument? document := do
    let members ← document.members? ["signed_transaction"]
    let signedTransaction ← required members "signed_transaction"
    return ⟨signedTransaction⟩

structure ConstructionParseRequest where
  networkIdentifier : Option NetworkIdentifier := none
  signed : Bool
  transaction : String

instance : Model ConstructionParseRequest where
  toJson value :=
    .record [optionalField "network_identifier" value.networkIdentifier,
      field "signed" value.signed, field "transaction" value.transaction]
  ofDocument? document := do
    let members ← document.members? ["network_identifier", "signed", "transaction"]
    let networkIdentifier ← optional members "network_identifier"
    let signed ← required members "signed"
    let transaction ← required members "transaction"
    return ⟨networkIdentifier, signed, transaction⟩

def ConstructionParseRequest.of (networkIdentifier : NetworkIdentifier) (signed : Bool)
    (transaction : String) : ConstructionParseRequest :=
  { networkIdentifier := some networkIdentifier, signed, transaction }

structure ConstructionParseResponse where
  operations : List Operation
  signers : Option (List String) := none
  accountIdentifierSigners : Option (List AccountIdentifier) := none
  metadata : Option Object := none

instance : Model ConstructionParseResponse where
  toJson value :=
    .record [field "operations" value.operations, optionalField "signers" value.signers,
      optionalField "account_identifier_signers" value.accountIdentifierSigners,
      optionalField "metadata" value.metadata]
  ofDocument? document := do
    let members ← document.members? ["operations", "signers", "account_identifier_signers",
      "metadata"]
    let operations ← required members "operations"
    let signers ← optional members "signers"
    let accountIdentifierSigners ← optional members "account_identifier_signers"
    let metadata ← optional members "metadata"
    return ⟨operations, signers, accountIdentifierSigners, metadata⟩

structure ConstructionHashRequest where
  networkIdentifier : Option NetworkIdentifier := none
  signedTransaction : String

instance : Model ConstructionHashRequest where
  toJson value :=
    .record [optionalField "network_identifier" value.networkIdentifier,
      field "signed_transaction" value.signedTransaction]
  ofDocument? document := do
    let members ← document.members? ["network_identifier", "signed_transaction"]
    let networkIdentifier ← optional members "network_identifier"
    let signedTransaction ← required members "signed_transaction"
    return ⟨networkIdentifier, signedTransaction⟩

def ConstructionHashRequest.of (networkIdentifier : NetworkIdentifier)
    (signedTransaction : String) : ConstructionHashRequest :=
  { networkIdentifier := some networkIdentifier, signedTransaction }

structure ConstructionSubmitRequest where
  networkIdentifier : Option NetworkIdentifier := none
  signedTransaction : String

instance : Model ConstructionSubmitRequest where
  toJson value :=
    .record [optionalField "network_identifier" value.networkIdentifier,
      field "signed_transaction" value.signedTransaction]
  ofDocument? document := do
    let members ← document.members? ["network_identifier", "signed_transaction"]
    let networkIdentifier ← optional members "network_identifier"
    let signedTransaction ← required members "signed_transaction"
    return ⟨networkIdentifier, signedTransaction⟩

def ConstructionSubmitRequest.of (networkIdentifier : NetworkIdentifier)
    (signedTransaction : String) : ConstructionSubmitRequest :=
  { networkIdentifier := some networkIdentifier, signedTransaction }

structure TransactionIdentifierResponse where
  transactionIdentifier : TransactionIdentifier
  metadata : Option Object := none

instance : Model TransactionIdentifierResponse where
  toJson value :=
    .record [field "transaction_identifier" value.transactionIdentifier,
      optionalField "metadata" value.metadata]
  ofDocument? document := do
    let members ← document.members? ["transaction_identifier", "metadata"]
    let transactionIdentifier ← required members "transaction_identifier"
    let metadata ← optional members "metadata"
    return ⟨transactionIdentifier, metadata⟩

def TransactionIdentifierResponse.of
    (transactionIdentifier : TransactionIdentifier) : TransactionIdentifierResponse :=
  { transactionIdentifier }

end StakingGateway.Api
