import StakingGateway.Gateway.Basic
import StakingGateway.Operation.Emission
import StakingGateway.Transaction.Envelope

/-!
# Constructing transactions

From operations to a transaction on its way to the node: `preprocess` and `metadata` find out the
nonce of the signer, `payloads` makes the unsigned transaction and tells what to sign, `combine`
joins it with the signature, `parse` shows what a transaction does, `hash` names it and `submit`
hands it over.
-/

namespace StakingGateway

open Api

def accountOptionKey : String := "id"

def readSigned (text : String) : Except Failure SignedTransaction :=
  match SignedTransaction.ofBase64 text with
  | .ok signed => .ok signed
  | .error reason => .error (.malformedValue ("signed transaction: " ++ reason.message))

def orMalformed {α : Type} (result : Except TransactionError α) : Except Failure α :=
  result.mapError fun reason => .malformedValue reason.message

def readOperations [Suite] (ops : List Operation) : Except Failure (Address × Transaction) :=
  (Transaction.ofOperations ops).mapError fun reason => .malformedValue reason.message

def readNonce (metadata : Option Json.Object) : Except Failure UInt64 :=
  let malformed := .error (.malformedValue "nonce metadata missing or malformed")
  match metadata.bind (·.find? nonceKey) with
  | some (.number (.integer nonce)) =>
    if 0 ≤ nonce ∧ nonce < 0x10000000000000000 then .ok (UInt64.ofNat nonce.toNat) else malformed
  | _ => malformed

def readAccountOption (options : Option Json.Object) : Except Failure Address :=
  match options.bind (·.find? accountOptionKey) with
  | some (.string text) => Input.address text
  | some _ => .error (.invalidAccountAddress "malformed account ID option")
  | none => .error (.invalidAccountAddress "account ID option not given")

def readSignature : List Api.Signature → Except Failure StakingGateway.Signature
  | [signature] => do
    let publicKey ← Input.bytes signature.publicKey.hexBytes
    let bytes ← Input.bytes signature.hexBytes
    orMalformed (Signature.create publicKey bytes)
  | signatures =>
    .error (.malformedValue ("need exactly one signature, got " ++ toString signatures.length))

def combine (text : String) (signatures : List Api.Signature) :
    Except Failure SignedTransaction := do
  let unsigned ← (UnsignedTransaction.ofBase64 text).mapError fun reason =>
    .malformedValue ("unsigned transaction: " ++ reason.message)
  let signature ← readSignature signatures
  return ⟨signature, unsigned.txBytes⟩

/-- A transaction as it is shown: its signer, itself, and the signers whose signature it has. -/
structure ParsedTransaction where
  signer : Address
  tx : Transaction
  signers : List Address

def parseSigned [Suite] (chainId text : String) : Except Failure ParsedTransaction := do
  let signed ← readSigned text
  let (signer, tx) ← orMalformed (signed.openFor chainId)
  return ⟨signer, tx, [signer]⟩

def parseUnsigned (text : String) : Except Failure ParsedTransaction := do
  let unsigned ← orMalformed (UnsignedTransaction.ofBase64 text)
  let tx ← orMalformed unsigned.transaction
  let signer ← Input.address unsigned.signer
  return ⟨signer, tx, []⟩

def ParsedTransaction.response [Suite] (parsed : ParsedTransaction) :
    Except Failure ConstructionParseResponse := do
  let operations ← orMalformed (parsed.tx.operations parsed.signer none)
  return {
    operations
    signers := some (parsed.signers.map Address.text)
    accountIdentifierSigners := some (parsed.signers.map Address.account)
    metadata := some (nonceMetadata parsed.tx.nonce)
  }

def parse [Suite] (chainId : String) (signed : Bool) (text : String) :
    Except Failure ConstructionParseResponse := do
  let parsed ← if signed then parseSigned chainId text else parseUnsigned text
  parsed.response

def payloads [Suite] (chainId : String) (metadata : Option Json.Object) (ops : List Operation) :
    Except Failure ConstructionPayloadsResponse := do
  let nonce ← readNonce metadata
  let (signer, tx) ← readOperations ops
  let unsigned := UnsignedTransaction.create { tx with nonce } signer
  let payload : SigningPayload := {
    address := some signer.text
    accountIdentifier := some signer.account
    hexBytes := Hex.encode (signerMessage chainId unsigned.txBytes)
    signatureType := some .ed25519
  }
  return ⟨unsigned.toBase64, [payload]⟩

def derive [Suite] (key : PublicKey) : Except Failure ConstructionDeriveResponse := do
  let address := Address.ofPublicKey (← Input.publicKey key)
  return { address := some address.text, accountIdentifier := some address.account }

def preprocess [Suite] (ops : List Operation) : Except Failure ConstructionPreprocessResponse := do
  let (signer, _) ← readOperations ops
  return ⟨some (.ofMembers [(accountOptionKey, .string signer.text)])⟩

def SignedTransaction.identifier [Suite] (signed : SignedTransaction) :
    TransactionIdentifierResponse :=
  .of ⟨signed.hash.text⟩

namespace Gateway

variable {m : Type → Type} [Monad m]

def constructionCombine (gateway : Gateway m) (request : ConstructionCombineRequest) :
    Handler m ConstructionCombineResponse := do
  let _ ← gateway.checkNetwork request.networkIdentifier
  let signed ← Handler.of (combine request.unsignedTransaction request.signatures)
  return ⟨signed.toBase64⟩

def constructionDerive [Suite] (gateway : Gateway m) (request : ConstructionDeriveRequest) :
    Handler m ConstructionDeriveResponse := do
  let _ ← gateway.checkNetwork request.networkIdentifier
  Handler.of (derive request.publicKey)

def constructionHash [Suite] (gateway : Gateway m) (request : ConstructionHashRequest) :
    Handler m TransactionIdentifierResponse := do
  let _ ← gateway.checkNetwork request.networkIdentifier
  let signed ← Handler.of (readSigned request.signedTransaction)
  return signed.identifier

def constructionMetadata (gateway : Gateway m) (request : ConstructionMetadataRequest) :
    Handler m ConstructionMetadataResponse := do
  let node ← gateway.node
  let _ ← gateway.checkNetwork request.networkIdentifier
  let owner ← Handler.of (readAccountOption request.options)
  let nonce ← Handler.ask .unableToGetNextNonce (node.nextNonce latestHeight owner)
  return .of (nonceMetadata nonce)

def constructionParse [Suite] (gateway : Gateway m) (request : ConstructionParseRequest) :
    Handler m ConstructionParseResponse := do
  let chainId ← gateway.checkNetwork request.networkIdentifier
  Handler.of (parse chainId request.signed request.transaction)

def constructionPayloads [Suite] (gateway : Gateway m) (request : ConstructionPayloadsRequest) :
    Handler m ConstructionPayloadsResponse := do
  let chainId ← gateway.checkNetwork request.networkIdentifier
  Handler.of (payloads chainId request.metadata request.operations)

def constructionPreprocess [Suite] (gateway : Gateway m)
    (request : ConstructionPreprocessRequest) : Handler m ConstructionPreprocessResponse := do
  let _ ← gateway.checkNetwork request.networkIdentifier
  Handler.of (preprocess request.operations)

/-- Hands a transaction over; one that the node has already counts as handed over. -/
def constructionSubmit [Suite] (gateway : Gateway m) (request : ConstructionSubmitRequest) :
    Handler m TransactionIdentifierResponse := do
  let node ← gateway.node
  let _ ← gateway.checkNetwork request.networkIdentifier
  let signed ← Handler.of (readSigned request.signedTransaction)
  match ← (node.submit signed).run with
  | .ok () => return signed.identifier
  | .error .duplicateTransaction => return signed.identifier
  | .error reason => throw ⟨.unableToSubmitTransaction, some reason.message⟩

end Gateway

end StakingGateway
