import StakingGateway.Crypto.Standard
import StakingGateway.Proofs.Gateway.Construction

/-!
# Transactions rebuilt from what is shown of them

A client may take an unsigned transaction apart and have it built again from the operations and the
metadata that it was shown.  The gas of a fee of zero is not shown and gets lost, but the result is
shown as the transaction was.

There is one exception.  A fee pair is told by its place and by the account that it credits, so a
body that credits the account that collects fees is taken for one if nothing stands in front of it
(`Transaction.ShownAsFee`).  What is left are no operations, and they describe no transaction.
-/

namespace StakingGateway

open Api

section

variable [Suite]

/-- A transaction that offers no fee, and whose body credits the account that collects fees. -/
def Transaction.ShownAsFee (tx : Transaction) : Prop :=
  (∀ fee ∈ tx.fee, fee.amount.isZero) ∧ ∃ kind, tx.kind = .ok kind ∧ kind.creditsFees

theorem shownAsFee_iff {tx : Transaction} {kind : TransactionKind} (hkind : tx.kind = .ok kind) :
    tx.ShownAsFee ↔ tx.shownFee.amount.isZero ∧ kind.creditsFees := by
  rw [Transaction.ShownAsFee, isZero_shownFee_iff]
  constructor
  · rintro ⟨hzero, found, hfound, hcredits⟩
    cases hkind.symm.trans hfound
    exact ⟨hzero, hcredits⟩
  · rintro ⟨hzero, hcredits⟩
    exact ⟨hzero, kind, hkind, hcredits⟩

/-- What is rebuilt from the operations of a transaction is shown as the transaction was. -/
theorem payloads_operations {chainId : String} {tx : Transaction} {kind : TransactionKind}
    {signer : Address} {ops : List Operation} (hkind : tx.kind = .ok kind) (hknown : kind.isKnown)
    (hops : tx.operations signer none = .ok ops) (h : ¬ tx.ShownAsFee) :
    ∃ rebuilt, payloads chainId (some (nonceMetadata tx.nonce)) ops = .ok rebuilt ∧
      parse chainId false rebuilt.unsignedTransaction = .ok (parseResponse ops [] tx.nonce) := by
  have hfree : tx.shownFee.amount.isZero = true → kind.creditsFees = false := by
    intro hzero
    rw [shownAsFee_iff hkind] at h
    exact Bool.eq_false_iff.mpr fun hcredits => h ⟨hzero, hcredits⟩
  have hread := ofOperations_of_operations hkind hknown hfree hops
  have hagain : (Transaction.ofKind tx.nonce tx.shownFee kind).operations signer none = .ok ops :=
    (operations_ofKind_shownFee hkind hknown tx.nonce signer none).trans hops
  exact ⟨_, payloads_eq_ok_iff.mpr ⟨tx.nonce, signer, _, kind, readNonce_nonceMetadata tx.nonce,
    hknown, hread, rfl⟩, parse_create hagain chainId⟩

theorem payloads_operations_ne_ok {chainId : String} {metadata : Option Json.Object}
    {tx : Transaction} {signer : Address} {ops : List Operation}
    (hops : tx.operations signer none = .ok ops) (h : tx.ShownAsFee)
    (rebuilt : ConstructionPayloadsResponse) : payloads chainId metadata ops ≠ .ok rebuilt := by
  intro hrebuilt
  obtain ⟨kind, hkind, _⟩ := operations_eq_ok_iff.mp hops
  obtain ⟨hzero, hcredits⟩ := (shownAsFee_iff hkind).mp h
  obtain ⟨_, _, _, _, _, _, hread, _⟩ := payloads_eq_ok_iff.mp hrebuilt
  exact ofOperations_ne_ok_of_creditsFees hkind hzero hcredits hops _ hread

/-- A transaction of a known method is rebuilt from what is shown of it, and shown in the same way
again, except if its body is taken for a fee pair: then no operations are left, and it is
refused. -/
theorem constructionPayloads_constructionParse {gateway : Gateway Id}
    {network : Option NetworkIdentifier} {text : String} {view : ConstructionParseResponse}
    {unsigned : UnsignedTransaction} {tx : Transaction}
    (hview : gateway.constructionParse ⟨network, false, text⟩ = pure view)
    (hunsigned : UnsignedTransaction.ofBase64 text = .ok unsigned)
    (htx : unsigned.transaction = .ok tx) (hmethod : tx.method ∈ Transaction.knownMethods)
    (publicKeys : Option (List PublicKey)) :
    view.metadata = some (nonceMetadata tx.nonce) ∧
    (¬ tx.ShownAsFee → ∃ rebuilt,
      gateway.constructionPayloads ⟨network, view.operations, view.metadata, publicKeys⟩
        = pure rebuilt ∧
      gateway.constructionParse ⟨network, false, rebuilt.unsignedTransaction⟩ = pure view) ∧
    (tx.ShownAsFee → hasFee view.operations ∧ (splitFee view.operations).2 = [] ∧ ∀ rebuilt,
      gateway.constructionPayloads ⟨network, view.operations, view.metadata, publicKeys⟩
        ≠ pure rebuilt) := by
  obtain ⟨chainId, hnetwork, hparse⟩ := Gateway.constructionParse_eq_pure_iff.mp hview
  obtain ⟨_, hread, hresponse⟩ := parse_unsigned_eq_ok_iff.mp hparse
  obtain ⟨_, _, signer, hfound, hcontent, _, rfl⟩ := parseUnsigned_eq_ok_iff.mp hread
  cases hunsigned.symm.trans hfound
  cases htx.symm.trans hcontent
  obtain ⟨ops, hops, rfl⟩ := response_eq_ok_iff.mp hresponse
  obtain ⟨kind, hkind, _⟩ := operations_eq_ok_iff.mp hops
  have hknown := Transaction.isKnown_of_kind hkind hmethod
  refine ⟨rfl, ?_, ?_⟩
  · intro h
    obtain ⟨rebuilt, hrebuilt, hagain⟩ := payloads_operations hkind hknown hops h
    exact ⟨rebuilt,
      Gateway.constructionPayloads_eq_pure_iff.mpr ⟨chainId, hnetwork, hrebuilt⟩,
      Gateway.constructionParse_eq_pure_iff.mpr ⟨chainId, hnetwork, hagain⟩⟩
  · intro h
    obtain ⟨hzero, hcredits⟩ := (shownAsFee_iff hkind).mp h
    obtain ⟨htaken, hrest⟩ := splitFee_of_creditsFees hkind hzero hcredits hops
    refine ⟨htaken, hrest, fun rebuilt hrebuilt => ?_⟩
    obtain ⟨_, _, hrebuilt⟩ := Gateway.constructionPayloads_eq_pure_iff.mp hrebuilt
    exact payloads_operations_ne_ok hops h rebuilt hrebuilt

end

/-- A reclaim from the escrow of the account that collects fees, with a fee of no tokens. -/
def freeReclaim : Transaction :=
  .ofKind 0x20000000000001 ⟨55, .zero⟩ (.reclaimEscrow ⟨⟨9⟩, Address.feeAccumulator⟩)

theorem constructionPayloads_constructionParse_freeReclaim :
    let gateway : Gateway Id := .offline "chain"
    let network := some (.of blockchain "chain")
    let text := (UnsignedTransaction.create freeReclaim Address.commonPool).toBase64
    ∃ view rebuilt, gateway.constructionParse ⟨network, false, text⟩ = pure view ∧
      view.metadata = some (nonceMetadata 0x20000000000001) ∧
      gateway.constructionPayloads ⟨network, view.operations, view.metadata, none⟩ = pure rebuilt ∧
      gateway.constructionParse ⟨network, false, rebuilt.unsignedTransaction⟩ = pure view := by
  intro gateway network text
  have hkind : freeReclaim.kind = .ok (.reclaimEscrow ⟨⟨9⟩, Address.feeAccumulator⟩) :=
    Transaction.kind_ofKind _ _ rfl
  have hparse := parse_create (operations_eq hkind Address.commonPool none) "chain"
  have hview : gateway.constructionParse ⟨network, false, text⟩ = pure _ :=
    Gateway.constructionParse_eq_pure_iff.mpr ⟨"chain", rfl, hparse⟩
  have hfree : ¬ freeReclaim.ShownAsFee := by
    rw [shownAsFee_iff hkind]
    exact fun h => nomatch h.2
  obtain ⟨hnonce, hrebuilt, _⟩ := constructionPayloads_constructionParse hview
    (UnsignedTransaction.ofBase64_create ..) (UnsignedTransaction.transaction_create ..)
    (by decide) none
  obtain ⟨rebuilt, hmade, hagain⟩ := hrebuilt hfree
  exact ⟨_, rebuilt, hview, hnonce, hmade, hagain⟩

/-- A transfer to the account that collects fees, with a fee of no tokens. -/
def freeTransfer : Transaction :=
  .ofKind 3 ⟨10000, .zero⟩ (.transfer ⟨Address.feeAccumulator, ⟨5⟩⟩)

/-- What is shown of the transfer is refused. -/
theorem constructionPayloads_freeTransfer :
    let gateway : Gateway Id := .offline "chain"
    let network := some (.of blockchain "chain")
    let text := (UnsignedTransaction.create freeTransfer Address.commonPool).toBase64
    ∃ view unsigned, gateway.constructionParse ⟨network, false, text⟩ = pure view ∧
      UnsignedTransaction.ofBase64 text = .ok unsigned ∧ unsigned.transaction = .ok freeTransfer ∧
      freeTransfer.method ∈ Transaction.knownMethods ∧
      ∀ rebuilt, gateway.constructionPayloads ⟨network, view.operations, view.metadata, none⟩
        ≠ pure rebuilt := by
  intro gateway network text
  have hkind : freeTransfer.kind = .ok (.transfer ⟨Address.feeAccumulator, ⟨5⟩⟩) :=
    Transaction.kind_ofKind _ _ rfl
  have hops := operations_eq hkind Address.commonPool none
  have hview : gateway.constructionParse ⟨network, false, text⟩ = pure _ :=
    Gateway.constructionParse_eq_pure_iff.mpr ⟨"chain", rfl, parse_create hops "chain"⟩
  have htaken : freeTransfer.ShownAsFee :=
    (shownAsFee_iff hkind).mpr ⟨rfl, by simp [TransactionKind.creditsFees]⟩
  refine ⟨_, _, hview, UnsignedTransaction.ofBase64_create ..,
    UnsignedTransaction.transaction_create .., by decide, ?_⟩
  intro rebuilt hrebuilt
  obtain ⟨_, _, hrebuilt⟩ := Gateway.constructionPayloads_eq_pure_iff.mp hrebuilt
  exact payloads_operations_ne_ok hops htaken rebuilt hrebuilt

end StakingGateway
