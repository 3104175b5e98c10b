import StakingGateway.Node.Client
import StakingGateway.Proofs.Cbor.Nesting
import StakingGateway.Proofs.Transaction.Envelope

/-!
# Transactions on the wire

Records are written field by field in the order of their declaration, and free values with the keys
of their maps in order.  For what is signed and sent, the two ways give the same bytes
(`writtenCanonically_toItem`), so it does not matter which of them made the bytes that a signature
covers.  What is written is read back (`survives_ofKind`).

An envelope may be sent in any encoding.  It is the same envelope when it is sent again in the
canonical one, and the transaction in it is the one in the bytes to sign.
-/

namespace StakingGateway

open Cbor Item

/-- Values are written directly as they are through a free value, with their keys in order. -/
structure WrittenCanonically {α : Type} (write : α → Item) : Prop where
  encode_eq : ∀ value, (write value).encode = (Value.ofItem (write value)).encode
  keysAscend : ∀ value, (write value).KeysAscend

theorem writtenCanonically_of_plain {α : Type} {write : α → Item}
    (h : ∀ value, ∃ limit, (write value).Plain limit) : WrittenCanonically write where
  encode_eq value := by
    obtain ⟨_, hplain⟩ := h value
    rw [Value.encode, Value.item_ofItem hplain]
  keysAscend value := by
    obtain ⟨_, hplain⟩ := h value
    exact hplain.keysAscend

theorem OwnerQuery.plain_toItem (query : OwnerQuery) : query.toItem.Plain 1 := by
  refine plain_record ["owner", "height"] rfl (by decide) ?_
  simp [Address.plain_toItem, heightItem, plain_ofInt]

theorem SignerNonceQuery.plain_toItem (query : SignerNonceQuery) : query.toItem.Plain 1 := by
  refine plain_record ["height", "account_address"] rfl (by decide) ?_
  simp [Address.plain_toItem, heightItem, plain_ofInt]

/-- Transactions, their parts and envelopes, and the questions about accounts are written
canonically; in particular the bytes to sign are those of the transaction, whatever its body is. -/
theorem writtenCanonically_toItem :
    WrittenCanonically Transaction.toItem ∧
    WrittenCanonically Fee.toItem ∧
    WrittenCanonically Staking.Transfer.toItem ∧
    WrittenCanonically Staking.Burn.toItem ∧
    WrittenCanonically Staking.AddEscrow.toItem ∧
    WrittenCanonically Staking.ReclaimEscrow.toItem ∧
    WrittenCanonically Signature.toItem ∧
    WrittenCanonically SignedTransaction.toItem ∧
    WrittenCanonically UnsignedTransaction.toItem ∧
    WrittenCanonically OwnerQuery.toItem ∧
    WrittenCanonically SignerNonceQuery.toItem ∧
    ∀ (tx : Transaction) (signer : Address),
      (UnsignedTransaction.create tx signer).txBytes = tx.encode := by
  refine ⟨writtenCanonically_of_plain Transaction.exists_plain_toItem,
    writtenCanonically_of_plain fun fee => ⟨1, fee.plain_toItem⟩,
    writtenCanonically_of_plain fun body => ⟨1, body.plain_toItem⟩,
    writtenCanonically_of_plain fun body => ⟨1, body.plain_toItem⟩,
    writtenCanonically_of_plain fun body => ⟨1, body.plain_toItem⟩,
    writtenCanonically_of_plain fun body => ⟨1, body.plain_toItem⟩,
    writtenCanonically_of_plain fun signature => ⟨1, signature.plain_toItem⟩,
    writtenCanonically_of_plain fun signed => ⟨2, signed.plain_toItem⟩,
    writtenCanonically_of_plain fun unsigned => ⟨_, unsigned.plain_toItem unsigned.tx.plain⟩,
    writtenCanonically_of_plain fun query => ⟨1, query.plain_toItem⟩,
    writtenCanonically_of_plain fun query => ⟨1, query.plain_toItem⟩, ?_⟩
  intro tx signer
  rw [UnsignedTransaction.txBytes, Value.encode, UnsignedTransaction.item_create, Transaction.encode]

/-- A transaction of a kind and every signed transaction read back from what is sent of them, and the
transaction is still of that kind, unless the kind is unknown and claims the method of a known
one. -/
theorem survives_ofKind (nonce : UInt64) (fee : Fee) (kind : TransactionKind)
    (signed : SignedTransaction) :
    Transaction.decode (Transaction.ofKind nonce fee kind).encode
      = .ok (.ofKind nonce fee kind) ∧
    ((Transaction.ofKind nonce fee kind).kind = .ok kind ↔
      kind.isKnown ∨ kind.method ∉ Transaction.knownMethods) ∧
    SignedTransaction.ofBase64 signed.toBase64 = .ok signed :=
  ⟨Transaction.decode_encode_ofKind nonce fee kind, Transaction.kind_ofKind_iff nonce fee kind,
    signed.ofBase64_toBase64⟩

/-! ## Envelopes in any encoding -/

namespace UnsignedTransaction

variable {text : String} {unsigned : UnsignedTransaction}

/-- An envelope is read from one item, and its transaction is a member of that. -/
theorem depth_lt_of_ofItem? {item : Item} (h : ofItem? item = some unsigned) :
    unsigned.tx.item.depth < item.depth := by
  obtain ⟨members, hmembers, h⟩ := Option.bind_eq_some_iff.mp h
  obtain ⟨tx, htx, h⟩ := Option.bind_eq_some_iff.mp h
  obtain ⟨signer, _, ⟨⟩⟩ := Option.bind_eq_some_iff.mp h
  obtain ⟨member, hmember, ⟨⟩⟩ := mem_of_required htx
  exact Nat.lt_of_le_of_lt member.depth_canonical_le (depth_lt_of_mem_members? hmembers hmember)

theorem depth_lt_of_ofBase64 (h : ofBase64 text = .ok unsigned) :
    unsigned.tx.item.depth < nestingLimit := by
  rw [ofBase64] at h
  split at h
  next => cases h
  next bytes _ =>
    obtain ⟨item, hdecode, hread⟩ := decodeAs_eq_ok_iff.mp (mapError_eq_ok_iff.mp h)
    exact Nat.lt_of_lt_of_le (depth_lt_of_ofItem? hread) (depth_le_of_decode hdecode)

theorem ofBase64_toBase64_of_ofBase64 (h : ofBase64 text = .ok unsigned) :
    ofBase64 unsigned.toBase64 = .ok unsigned :=
  ofBase64_toBase64 unsigned.tx.plain (depth_lt_of_ofBase64 h)

theorem transaction_eq_decode (h : ofBase64 text = .ok unsigned) :
    unsigned.transaction = Transaction.decode unsigned.txBytes := by
  have hdecode : decode unsigned.tx.item.encode = some unsigned.tx.item :=
    unsigned.tx.plain.decode_encode (Nat.le_of_lt (depth_lt_of_ofBase64 h))
  rw [transaction, Transaction.decode, txBytes, Value.encode, decodeAs, hdecode]
  dsimp only
  cases Transaction.ofItem? unsigned.tx.item <;> rfl

end UnsignedTransaction

end StakingGateway
