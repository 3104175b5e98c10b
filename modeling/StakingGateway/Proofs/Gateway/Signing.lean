import StakingGateway.Crypto.Standard
import StakingGateway.Proofs.Gateway.Construction

/-!
# What is signed, submitted and shown

A client signs the bytes of a payload and hands the signature back.  The main statement is
`constructionCombine_opens`: whatever the digest and the signature check are, the signed
transaction that is made opens as the transaction of the operations, with the nonce of the request,
and its signer is the address of the key.  It is shown as the unsigned one was, if that address is
the one that was asked to sign.
-/

namespace StakingGateway

open Api

section

variable [Suite]

/-- What was signed is what is submitted and what is shown. -/
theorem constructionCombine_opens {gateway : Gateway Id} {request : ConstructionPayloadsRequest}
    {response : ConstructionPayloadsResponse}
    (h : gateway.constructionPayloads request = pure response) :
    ∃ chainId payload nonce signer tx unsignedView,
      gateway.chainId = pure chainId ∧
      response.payloads = [payload] ∧ payload.accountIdentifier = some signer.account ∧
      readNonce request.metadata = .ok nonce ∧
      Transaction.ofOperations request.operations = .ok (signer, tx) ∧
      gateway.constructionParse
        ⟨request.networkIdentifier, false, response.unsignedTransaction⟩ = pure unsignedView ∧
      unsignedView.metadata = some (nonceMetadata nonce) ∧
      ∀ signature key, signature.Accepted payload key →
        ∃ text signed owner derived signedView,
          gateway.constructionCombine
            ⟨request.networkIdentifier, response.unsignedTransaction, [signature]⟩ = pure ⟨text⟩ ∧
          SignedTransaction.ofBase64 text = .ok signed ∧
          signed.openFor chainId = .ok (owner, { tx with nonce }) ∧
          gateway.constructionDerive ⟨request.networkIdentifier,
            ⟨signature.publicKey.hexBytes, .edwards25519⟩, none⟩ = pure derived ∧
          derived.address = some owner.text ∧ derived.accountIdentifier = some owner.account ∧
          gateway.constructionParse ⟨request.networkIdentifier, true, text⟩ = pure signedView ∧
          (derived.accountIdentifier = payload.accountIdentifier →
            signedView.operations = unsignedView.operations ∧
              signedView.metadata = unsignedView.metadata) ∧
          (derived.accountIdentifier ≠ payload.accountIdentifier →
            signedView.operations ≠ unsignedView.operations) := by
  obtain ⟨chainId, hnetwork, hpayloads⟩ := Gateway.constructionPayloads_eq_pure_iff.mp h
  obtain ⟨nonce, signer, fee, kind, hnonce, hknown, hread, rfl⟩ := payloads_eq_ok_iff.mp hpayloads
  have hkind : (Transaction.ofKind nonce fee kind).kind = .ok kind :=
    Transaction.kind_ofKind nonce fee hknown
  have hunsigned := operations_eq hkind signer none
  have hparse := parse_create hunsigned chainId
  refine ⟨chainId, _, nonce, signer, _, _, Gateway.chainId_eq_of_checkNetwork hnetwork, rfl, rfl,
    hnonce, hread, Gateway.constructionParse_eq_pure_iff.mpr ⟨chainId, hnetwork, hparse⟩, rfl, ?_⟩
  intro signature key haccepted
  have hpayload := congrArg (fun bytes => Hex.encode (signerMessage chainId bytes))
    (UnsignedTransaction.txBytes_create nonce fee kind signer)
  obtain ⟨signed, hcombine, hopen⟩ := combine_opens signer hpayload haccepted
  have hsigned := operations_eq hkind (Address.ofPublicKey key) none
  have hshown : parse chainId true signed.toBase64 = .ok _ :=
    parse_signed_eq_ok_iff.mpr ⟨_, parseSigned_toBase64 hopen,
      response_eq_ok_iff.mpr ⟨_, hsigned, rfl⟩⟩
  refine ⟨signed.toBase64, signed, Address.ofPublicKey key, _, _,
    Gateway.constructionCombine_eq_pure_iff.mpr ⟨chainId, hnetwork, signed, hcombine, rfl⟩,
    signed.ofBase64_toBase64, hopen,
    Gateway.constructionDerive_eq_pure_iff.mpr
      ⟨chainId, hnetwork, derive_eq_ok haccepted.key_eq haccepted.length_key⟩, rfl, rfl,
    Gateway.constructionParse_eq_pure_iff.mpr ⟨chainId, hnetwork, hshown⟩, ?_, ?_⟩
  · intro hsame
    have howner := account_inj.mp (Option.some.inj hsame)
    rw [howner]
    exact ⟨rfl, rfl⟩
  · intro hother hops
    have hagain := hunsigned.trans (congrArg Except.ok hops.symm)
    have howner := signer_eq_of_operations hkind hknown hsigned hagain
    exact hother (congrArg (fun address => some address.account) howner)

end

/-- A burn that pays a fee, with a nonce that no double tells from the next. -/
def paidBurn : Transaction :=
  .ofKind 0x20000000000001 ⟨10000, ⟨7⟩⟩ (.burn ⟨⟨12⟩⟩)

def paidBurnKey : List UInt8 :=
  [0xea, 0x4a, 0x6c, 0x63, 0xe2, 0x9c, 0x52, 0x0a, 0xbe, 0xf5, 0x50, 0x7b, 0x13, 0x2e, 0xc5, 0xf9,
   0x95, 0x47, 0x76, 0xae, 0xbe, 0xbe, 0x7b, 0x92, 0x42, 0x1e, 0xea, 0x69, 0x14, 0x46, 0xd2, 0x2c]

def paidBurnSignature : List UInt8 :=
  [0x95, 0x96, 0xaa, 0xa1, 0x4f, 0x0e, 0x30, 0xb1, 0x2c, 0x80, 0x65, 0xa0, 0xc3, 0x2d, 0xe0, 0xfc,
   0x10, 0xe6, 0x9c, 0x91, 0x8b, 0x0f, 0x87, 0xef, 0xb2, 0x8e, 0x2c, 0x33, 0x3b, 0x6a, 0xa3, 0x70,
   0x6b, 0x3f, 0x6c, 0x6f, 0x57, 0x39, 0x1a, 0x0e, 0xa6, 0xdb, 0x1a, 0x8b, 0xec, 0x73, 0x23, 0xd9,
   0xca, 0x36, 0x99, 0xaf, 0x31, 0x6d, 0xb0, 0xbb, 0x9c, 0x7b, 0xb5, 0x52, 0xc2, 0xf2, 0xe9, 0x01]

/-- The suite in use, its signature check cut down to one signature. -/
@[reducible]
def paidBurnSuite : Suite where
  digest := Suite.standard.digest
  verify publicKey _ signature :=
    if publicKey = paidBurnKey ∧ signature = paidBurnSignature then .accepted else .rejected

theorem constructionCombine_opens_paidBurn :
    let _ := paidBurnSuite
    let gateway : Gateway Id := .offline "chain"
    let network := some (.of blockchain "chain")
    let owner := Address.ofPublicKey paidBurnKey
    let signature : Api.Signature := ⟨⟨none, none, "", none⟩,
      ⟨Hex.encode paidBurnKey, .edwards25519⟩, .ed25519, Hex.encode paidBurnSignature⟩
    ∃ ops response text signed,
      paidBurn.operations owner none = .ok ops ∧
      gateway.constructionPayloads
        ⟨network, ops, some (nonceMetadata paidBurn.nonce), none⟩ = pure response ∧
      gateway.constructionCombine ⟨network, response.unsignedTransaction, [signature]⟩
        = pure ⟨text⟩ ∧
      SignedTransaction.ofBase64 text = .ok signed ∧
      signed.openFor "chain" = .ok (owner, paidBurn) := by
  intro _ gateway network owner signature
  have hkind : paidBurn.kind = .ok (.burn ⟨⟨12⟩⟩) := Transaction.kind_ofKind _ _ rfl
  have hops := operations_eq hkind owner none
  have hread := ofOperations_of_operations hkind rfl (fun _ => rfl) hops
  have hpayloads : payloads "chain" (some (nonceMetadata paidBurn.nonce)) _ = .ok _ :=
    payloads_eq_ok_iff.mpr ⟨_, owner, _, _, readNonce_nonceMetadata _, rfl, hread, rfl⟩
  have hmade : gateway.constructionPayloads ⟨network, _, _, none⟩ = pure _ :=
    Gateway.constructionPayloads_eq_pure_iff.mpr ⟨"chain", rfl, hpayloads⟩
  obtain ⟨chainId, payload, nonce, signer, tx, _, hchain, hpayload, _, hnonce, htx, _, _, hopens⟩ :=
    constructionCombine_opens hmade
  cases hchain
  cases hpayload
  cases (readNonce_nonceMetadata paidBurn.nonce).symm.trans hnonce
  cases hread.symm.trans htx
  obtain ⟨text, signed, found, derived, _, hcombine, hsigned, hopen, hderive, haddress, _⟩ :=
    hopens signature paidBurnKey ⟨Hex.decode_encode _, rfl, _, _, Hex.decode_encode _,
      Hex.decode_encode _, rfl, if_pos ⟨rfl, rfl⟩⟩
  have howner : derive ⟨signature.publicKey.hexBytes, .edwards25519⟩ = .ok _ :=
    derive_eq_ok (Hex.decode_encode paidBurnKey) rfl
  cases howner.symm.trans (Handler.of_eq_pure_iff.mp hderive)
  cases Address.text_inj.mp (Option.some.inj haddress)
  exact ⟨_, _, text, signed, hops, hmade, hcombine, hsigned, hopen⟩

end StakingGateway
