import StakingGateway.Transaction.Basic

/-!
# Transaction envelopes

A signed transaction is a blob and a signature over it; the blob is only looked into once the
signature has been verified for a chain.  An unsigned transaction is a transaction, as a free
value, and the text of the address that is expected to sign it.  Both are passed around as base64
text.
-/

namespace StakingGateway

open Cbor

variable [Suite]

/-- The context of transaction signatures; the chain is appended to it. -/
def signatureContext : String := "oasis-core/consensus: tx"

def signerMessage (chain : String) (blob : List UInt8) : List UInt8 :=
  (Hash.digestParts [Utf8.encode (signatureContext ++ " for chain " ++ chain), blob]).bytes

structure Signature where
  signature : List UInt8
  publicKey : List UInt8
  deriving DecidableEq

structure SignedTransaction where
  signature : Signature
  blob : List UInt8
  deriving DecidableEq

/-- A transaction paired with the text of the address expected to sign it. -/
structure UnsignedTransaction where
  tx : Value
  signer : String

namespace Signature

def length : Nat := 64

/-- A signature of the right lengths. -/
def create (publicKey signature : List UInt8) : Except TransactionError Signature :=
  if publicKey.length ≠ Address.publicKeyLength then
    .error (.malformedPublicKey publicKey.length)
  else if signature.length ≠ length then
    .error (.malformedSignature signature.length)
  else .ok ⟨signature, publicKey⟩

def signerAddress (signature : Signature) : Except TransactionError Address :=
  if signature.publicKey.length ≠ Address.publicKeyLength then
    .error (.malformedPublicKey signature.publicKey.length)
  else .ok (Address.ofPublicKey signature.publicKey)

def verify (signature : Signature) (message : List UInt8) : Except TransactionError Unit :=
  match Suite.verify signature.publicKey message signature.signature with
  | .accepted => .ok ()
  | .malformedKey => .error (.malformedPublicKey signature.publicKey.length)
  | .malformedSignature => .error (.malformedSignature signature.signature.length)
  | .rejected => .error .badSignature

def toItem (signature : Signature) : Item :=
  .record [("signature", some (.bytes signature.signature)),
    ("public_key", some (.bytes signature.publicKey))]

def ofItem? (item : Item) : Option Signature := do
  let members ← item.members? ["signature", "public_key"]
  let signature ← required members "signature" Item.asOctets?
  let publicKey ← required members "public_key" Item.asOctets?
  return ⟨signature, publicKey⟩

end Signature

namespace SignedTransaction

def toItem (signed : SignedTransaction) : Item :=
  .record [("signature", some signed.signature.toItem),
    ("untrusted_raw_value", some (.bytes signed.blob))]

def ofItem? (item : Item) : Option SignedTransaction := do
  let members ← item.members? ["signature", "untrusted_raw_value"]
  let signature ← required members "signature" Signature.ofItem?
  let blob ← required members "untrusted_raw_value" Item.asOctets?
  return ⟨signature, blob⟩

def encode (signed : SignedTransaction) : List UInt8 :=
  signed.toItem.encode

def decode (bytes : List UInt8) : Except TransactionError SignedTransaction :=
  (decodeAs ofItem? bytes).mapError .cbor

def toBase64 (signed : SignedTransaction) : String :=
  Base64.encode signed.encode

def ofBase64 (text : String) : Except TransactionError SignedTransaction :=
  match Base64.decode text with
  | .error reason => .error (.base64 reason)
  | .ok bytes => decode bytes

def hash (signed : SignedTransaction) : Hash :=
  Hash.digest signed.encode

/-- Verifies the signature for a chain, and reads the signer and the transaction. -/
def openFor (signed : SignedTransaction) (chain : String) :
    Except TransactionError (Address × Transaction) := do
  signed.signature.verify (signerMessage chain signed.blob)
  let signer ← signed.signature.signerAddress
  let tx ← Transaction.decode signed.blob
  return (signer, tx)

end SignedTransaction

namespace UnsignedTransaction

def create (tx : Transaction) (signer : Address) : UnsignedTransaction :=
  ⟨Value.ofItem tx.toItem, signer.text⟩

/-- The bytes that are signed and later submitted. -/
def txBytes (unsigned : UnsignedTransaction) : List UInt8 :=
  unsigned.tx.encode

def transaction (unsigned : UnsignedTransaction) : Except TransactionError Transaction :=
  match Transaction.ofItem? unsigned.tx.item with
  | some tx => .ok tx
  | none => .error (.cbor .unexpected)

def toItem (unsigned : UnsignedTransaction) : Item :=
  .record [("tx", some unsigned.tx.item), ("signer", some (.text unsigned.signer))]

def ofItem? (item : Item) : Option UnsignedTransaction := do
  let members ← item.members? ["tx", "signer"]
  let tx ← required members "tx" fun item => some (Value.ofItem item)
  let signer ← required members "signer" Item.asText?
  return ⟨tx, signer⟩

def toBase64 (unsigned : UnsignedTransaction) : String :=
  Base64.encode unsigned.toItem.encode

def ofBase64 (text : String) : Except TransactionError UnsignedTransaction :=
  match Base64.decode text with
  | .error reason => .error (.base64 reason)
  | .ok bytes => (decodeAs ofItem? bytes).mapError .cbor

end UnsignedTransaction

end StakingGateway
