import StakingGateway.Proofs.Bytes.Text
import StakingGateway.Proofs.Transaction.Basic
import StakingGateway.Transaction.Envelope

/-!
# Envelopes read back

Signed and unsigned transactions read back from their texts.  The bytes in the envelope of a
transaction are those of the transaction itself (`UnsignedTransaction.txBytes_create`): what is
hashed for the signer is what a signed transaction carries.
-/

namespace StakingGateway

open Cbor Item

/-! ## Signed transactions -/

namespace Signature

theorem ofItem?_toItem (signature : Signature) : ofItem? signature.toItem = some signature := by
  have hmembers : signature.toItem.members? ["signature", "public_key"]
      = some [("signature", .bytes signature.signature),
        ("public_key", .bytes signature.publicKey)] :=
    members?_record rfl (by decide)
  simp [ofItem?, hmembers, required, asOctets?, untag, List.lookup]

theorem plain_toItem (signature : Signature) : signature.toItem.Plain 1 := by
  refine plain_record ["signature", "public_key"] rfl (by decide) ?_
  simp [plain_bytes]

theorem create_eq_ok {publicKey signature : List UInt8}
    (hkey : publicKey.length = Address.publicKeyLength)
    (hlength : signature.length = Signature.length) :
    create publicKey signature = .ok ⟨signature, publicKey⟩ := by
  rw [create, if_neg (not_not_intro hkey), if_neg (not_not_intro hlength)]

end Signature

namespace SignedTransaction

theorem ofItem?_toItem (signed : SignedTransaction) : ofItem? signed.toItem = some signed := by
  have hmembers : signed.toItem.members? ["signature", "untrusted_raw_value"]
      = some [("signature", signed.signature.toItem),
        ("untrusted_raw_value", .bytes signed.blob)] :=
    members?_record rfl (by decide)
  have hsignature : Cbor.required [("signature", signed.signature.toItem),
      ("untrusted_raw_value", .bytes signed.blob)] "signature" Signature.ofItem?
        = some signed.signature :=
    signed.signature.ofItem?_toItem
  simp only [ofItem?, hmembers, Option.bind_eq_bind, Option.bind_some, hsignature]
  rfl

theorem plain_toItem (signed : SignedTransaction) : signed.toItem.Plain 2 := by
  refine plain_record ["signature", "untrusted_raw_value"] rfl (by decide) ?_
  simp [signed.signature.plain_toItem, (plain_bytes signed.blob).mono]

theorem decode_encode (signed : SignedTransaction) : decode signed.encode = .ok signed := by
  have hdecode : decodeAs ofItem? signed.encode = .ok signed :=
    decodeAs_encode signed.plain_toItem (by decide) signed.ofItem?_toItem
  rw [decode, hdecode]
  rfl

theorem ofBase64_toBase64 (signed : SignedTransaction) : ofBase64 signed.toBase64 = .ok signed := by
  rw [ofBase64, toBase64, Base64.decode_encode]
  exact signed.decode_encode

theorem openFor_eq_ok [Suite] {chain : String} {signed : SignedTransaction} {tx : Transaction}
    (hkey : signed.signature.publicKey.length = Address.publicKeyLength)
    (hverify : Suite.verify signed.signature.publicKey (signerMessage chain signed.blob)
      signed.signature.signature = .accepted)
    (htx : Transaction.decode signed.blob = .ok tx) :
    signed.openFor chain = .ok (Address.ofPublicKey signed.signature.publicKey, tx) := by
  have haccepted : signed.signature.verify (signerMessage chain signed.blob) = .ok () := by
    rw [Signature.verify, hverify]
  have hsigner : signed.signature.signerAddress
      = .ok (Address.ofPublicKey signed.signature.publicKey) := by
    rw [Signature.signerAddress, if_neg (not_not_intro hkey)]
  rw [openFor, haccepted, hsigner, htx]
  rfl

/-- If the key is of the right length, a signed transaction opens exactly if its signature is
accepted for the chain and its blob holds a transaction. -/
theorem openFor_eq_ok_iff [Suite] {chain : String} {signed : SignedTransaction}
    (hkey : signed.signature.publicKey.length = Address.publicKeyLength) {owner : Address}
    {tx : Transaction} :
    signed.openFor chain = .ok (owner, tx) ↔
      Suite.verify signed.signature.publicKey (signerMessage chain signed.blob)
          signed.signature.signature = .accepted ∧
        owner = Address.ofPublicKey signed.signature.publicKey ∧
        Transaction.decode signed.blob = .ok tx := by
  constructor
  · intro h
    obtain ⟨_, hverify, h⟩ := bind_eq_ok_iff.mp h
    obtain ⟨signer, hsigner, h⟩ := bind_eq_ok_iff.mp h
    obtain ⟨found, hdecode, ⟨⟩⟩ := bind_eq_ok_iff.mp h
    rw [Signature.signerAddress, if_neg (not_not_intro hkey)] at hsigner
    cases hsigner
    rw [Signature.verify] at hverify
    split at hverify
    next haccepted => exact ⟨haccepted, rfl, hdecode⟩
    all_goals cases hverify
  · rintro ⟨haccepted, rfl, hdecode⟩
    exact openFor_eq_ok hkey haccepted hdecode

end SignedTransaction

/-! ## Unsigned transactions -/

namespace UnsignedTransaction

theorem ofItem?_toItem (unsigned : UnsignedTransaction) :
    ofItem? unsigned.toItem = some unsigned := by
  have hmembers : unsigned.toItem.members? ["tx", "signer"]
      = some [("tx", unsigned.tx.item), ("signer", .text unsigned.signer)] :=
    members?_record rfl (by decide)
  simp [ofItem?, hmembers, required, asText?, untag, Value.ofItem_item, List.lookup]

theorem plain_toItem {unsigned : UnsignedTransaction} {limit : Nat}
    (h : unsigned.tx.item.Plain limit) : unsigned.toItem.Plain (limit + 1) := by
  refine plain_record ["tx", "signer"] rfl (by decide) ?_
  simp [h, (plain_text unsigned.signer).mono]

theorem ofBase64_toBase64 {unsigned : UnsignedTransaction} {limit : Nat}
    (h : unsigned.tx.item.Plain limit) (hlimit : limit < nestingLimit) :
    ofBase64 unsigned.toBase64 = .ok unsigned := by
  have hdecode : decodeAs ofItem? unsigned.toItem.encode = .ok unsigned :=
    decodeAs_encode (plain_toItem h) hlimit unsigned.ofItem?_toItem
  rw [ofBase64, toBase64, Base64.decode_encode]
  simp only [hdecode]
  rfl

theorem item_create (tx : Transaction) (signer : Address) :
    (create tx signer).tx.item = tx.toItem := by
  obtain ⟨_, hplain⟩ := tx.exists_plain_toItem
  exact Value.item_ofItem hplain

section

variable (nonce : UInt64) (fee : Fee) (kind : TransactionKind) (signer : Address)

theorem tx_create :
    (create (.ofKind nonce fee kind) signer).tx.item = (Transaction.ofKind nonce fee kind).toItem :=
  item_create _ signer

theorem ofBase64_create :
    ofBase64 (create (.ofKind nonce fee kind) signer).toBase64
      = .ok (create (.ofKind nonce fee kind) signer) := by
  have hplain : (create (.ofKind nonce fee kind) signer).tx.item.Plain 2 := by
    rw [tx_create]
    exact Transaction.plain_toItem_ofKind nonce fee kind
  exact ofBase64_toBase64 hplain (by decide)

theorem txBytes_create :
    (create (.ofKind nonce fee kind) signer).txBytes
      = (Transaction.ofKind nonce fee kind).encode := by
  rw [txBytes, Value.encode, tx_create, Transaction.encode]

theorem transaction_create :
    (create (.ofKind nonce fee kind) signer).transaction = .ok (.ofKind nonce fee kind) := by
  rw [transaction, tx_create,
    Transaction.ofItem?_toItem (Transaction.body_ne_null_ofKind nonce fee kind)]

end

end UnsignedTransaction

end StakingGateway
