import StakingGateway.Proofs.Gateway.Signing
import StakingGateway.Proofs.Gateway.Submission
import StakingGateway.Proofs.Transaction.Wire

/-!
# Envelopes from clients

A client may send an unsigned transaction in any encoding: with tags, with lengths that are left
open, with keys in any order or twice, with fields that are not known.  It is parsed as it is sent,
but what is signed is its canonical encoding.  The main statement is `opensAsShown_of_ofBase64`: the
transaction that is shown before it is signed is the one that the signed transaction is opened as.
-/

namespace StakingGateway

open Api Cbor

section

variable {m : Type → Type} [Monad m] {τ : Type} [Stateful m τ] {gateway : Gateway m} {t t' : τ}

theorem succeeds_constructionParse_iff [Suite] {request : ConstructionParseRequest}
    {view : ConstructionParseResponse} :
    Succeeds (gateway.constructionParse request) t view t' ↔
      ∃ chainId, Succeeds (gateway.checkNetwork request.networkIdentifier) t chainId t' ∧
        parse chainId request.signed request.transaction = .ok view := by
  simp only [Gateway.constructionParse, succeeds_bind_iff, Handler.succeeds_of_iff]
  constructor
  · rintro ⟨chainId, _, hnetwork, hparse, rfl⟩
    exact ⟨chainId, hnetwork, hparse⟩
  · rintro ⟨chainId, hnetwork, hparse⟩
    exact ⟨chainId, t', hnetwork, hparse, rfl⟩

end

theorem length_publicKey_of_readSignature {signatures : List Api.Signature}
    {signature : StakingGateway.Signature} (h : readSignature signatures = .ok signature) :
    signature.publicKey.length = Address.publicKeyLength := by
  unfold readSignature at h
  split at h
  next =>
    obtain ⟨key, _, h⟩ := bind_eq_ok_iff.mp h
    obtain ⟨content, _, h⟩ := bind_eq_ok_iff.mp h
    have hcreate := mapError_eq_ok_iff.mp h
    rw [StakingGateway.Signature.create] at hcreate
    split at hcreate
    next => cases hcreate
    next hkey =>
      split at hcreate
      next => cases hcreate
      next =>
        cases hcreate
        exact Decidable.not_not.mp hkey
  next => cases h

theorem combine_eq_ok_iff {text : String} {signatures : List Api.Signature}
    {signed : SignedTransaction} :
    combine text signatures = .ok signed ↔
      ∃ unsigned signature, UnsignedTransaction.ofBase64 text = .ok unsigned ∧
        readSignature signatures = .ok signature ∧ signed = ⟨signature, unsigned.txBytes⟩ := by
  simp only [combine, bind_eq_ok_iff, mapError_eq_ok_iff]
  constructor
  · rintro ⟨unsigned, hunsigned, signature, hsignature, h⟩
    exact ⟨unsigned, signature, hunsigned, hsignature, (pure_eq_ok_iff.mp h).symm⟩
  · rintro ⟨unsigned, signature, hunsigned, hsignature, rfl⟩
    exact ⟨unsigned, hunsigned, signature, hsignature, rfl⟩

section

variable [Suite]

/-- The transaction of an envelope is shown, and the signed transaction that is made of the envelope
is opened as nothing else: on every chain that its signature is accepted for, and only there. -/
structure OpensAsShown (unsigned : UnsignedTransaction) (view : ConstructionParseResponse)
    (signed : SignedTransaction) (signer : Address) (tx : Transaction) : Prop where
  signer_eq : Input.address unsigned.signer = .ok signer
  transaction_eq : unsigned.transaction = .ok tx
  operations_eq : tx.operations signer none = .ok view.operations
  metadata_eq : view.metadata = some (nonceMetadata tx.nonce)
  openFor_iff : ∀ chainId owner opened,
    signed.openFor chainId = .ok (owner, opened) ↔
      Suite.verify signed.signature.publicKey (signerMessage chainId unsigned.txBytes)
          signed.signature.signature = .accepted ∧
        owner = Address.ofPublicKey signed.signature.publicKey ∧ opened = tx

theorem opensAsShown_of_combine {chainId text : String} {signatures : List Api.Signature}
    {unsigned : UnsignedTransaction} {view : ConstructionParseResponse} {signed : SignedTransaction}
    (hunsigned : UnsignedTransaction.ofBase64 text = .ok unsigned)
    (hparse : parse chainId false text = .ok view) (hcombine : combine text signatures = .ok signed) :
    ∃ signer tx, OpensAsShown unsigned view signed signer tx := by
  obtain ⟨_, hparsed, hview⟩ := parse_unsigned_eq_ok_iff.mp hparse
  obtain ⟨shown, tx, signer, hshown, htx, hsigner, rfl⟩ := parseUnsigned_eq_ok_iff.mp hparsed
  obtain ⟨ops, hops, rfl⟩ := response_eq_ok_iff.mp hview
  obtain ⟨joined, signature, hjoined, hsignature, rfl⟩ := combine_eq_ok_iff.mp hcombine
  cases hunsigned.symm.trans hshown
  cases hunsigned.symm.trans hjoined
  have hdecode := unsigned.transaction_eq_decode hunsigned
  refine ⟨signer, tx, hsigner, htx, hops, rfl, fun chain owner opened => ?_⟩
  have hkey := length_publicKey_of_readSignature hsignature
  rw [SignedTransaction.openFor_eq_ok_iff hkey, ← hdecode, htx, Except.ok.injEq, eq_comm (a := tx)]

/-- An envelope in any encoding is read again from its canonical encoding, and its transaction is
the one in the bytes to sign, or neither can be read.  So what a gateway shows of the text, in any
state and on any network that it accepts, is what a signed transaction that a gateway makes of the
text is opened as. -/
theorem opensAsShown_of_ofBase64 {text : String} {unsigned : UnsignedTransaction}
    (h : UnsignedTransaction.ofBase64 text = .ok unsigned) :
    UnsignedTransaction.ofBase64 unsigned.toBase64 = .ok unsigned ∧
    unsigned.transaction = Transaction.decode unsigned.txBytes ∧
    ∀ {m : Type → Type} [Monad m] {τ : Type} [Stateful m τ] (gateway : Gateway m)
      (network network' : Option NetworkIdentifier) (signatures : List Api.Signature)
      (view : ConstructionParseResponse) (response : ConstructionCombineResponse) (t t' s s' : τ),
      Succeeds (gateway.constructionParse ⟨network, false, text⟩) t view t' →
      Succeeds (gateway.constructionCombine ⟨network', text, signatures⟩) s response s' →
      ∃ signed signer tx, SignedTransaction.ofBase64 response.signedTransaction = .ok signed ∧
        OpensAsShown unsigned view signed signer tx := by
  refine ⟨unsigned.ofBase64_toBase64_of_ofBase64 h, unsigned.transaction_eq_decode h, ?_⟩
  intro m _ τ _ gateway network network' signatures view response t t' s s' hparse hcombine
  obtain ⟨chainId, _, hshown⟩ := succeeds_constructionParse_iff.mp hparse
  obtain ⟨_, signed, _, hjoined, rfl⟩ := succeeds_constructionCombine_iff.mp hcombine
  obtain ⟨signer, tx, hopens⟩ := opensAsShown_of_combine h hshown hjoined
  exact ⟨signed, signer, tx, signed.ofBase64_toBase64, hopens⟩

end

/-- The envelope of the burn as a client may send it: tagged, with its keys as bytes and out of
order, a nonce that is overwritten, and a field that is not known. -/
def loosePaidBurn (owner : Address) : Item :=
  let amount (content : List UInt8) : Item × Item := (.text "amount", .bytes content)
  let body : Item := .tag 24 (.map [amount [12]])
  let fee : Item := .map [amount [7], (.text "gas", .tag 0 (.unsigned 10000))]
  let tx : Item := .map [(.text "nonce", .unsigned 3), (.text "method", .text "staking.Burn"),
    (.text "body", body), (.text "fee", fee), (.text "nonce", .unsigned paidBurn.nonce)]
  .tag 55799 (.map [(.bytes (Utf8.encode "signer"), .text owner.text), (.text "note", .undefined),
    (.text "tx", tx)])

theorem ofItem?_loosePaidBurn (owner : Address) :
    UnsignedTransaction.ofItem? (loosePaidBurn owner)
      = some (UnsignedTransaction.create paidBurn owner) := by
  rfl

theorem ofBase64_loosePaidBurn (owner : Address) :
    UnsignedTransaction.ofBase64 (Base64.encode (loosePaidBurn owner).encode)
      = .ok (UnsignedTransaction.create paidBurn owner) := by
  have hdepth : (loosePaidBurn owner).depth = 5 := rfl
  have hdecode : decode (loosePaidBurn owner).encode = some (loosePaidBurn owner) :=
    decode_encode (hdepth.trans_le (by decide))
  have hread := decodeAs_eq_ok_iff.mpr ⟨_, hdecode, ofItem?_loosePaidBurn owner⟩
  rw [UnsignedTransaction.ofBase64, Base64.decode_encode]
  simp only [hread]
  rfl

/-- The text is not the canonical one: it begins with a tag. -/
theorem loosePaidBurn_ne (owner : Address) :
    Base64.encode (loosePaidBurn owner).encode
      ≠ (UnsignedTransaction.create paidBurn owner).toBase64 := by
  intro h
  have hbytes := congrArg Base64.decode h
  rw [UnsignedTransaction.toBase64, Base64.decode_encode, Base64.decode_encode] at hbytes
  have hfirst := congrArg List.head? (Except.ok.inj hbytes)
  cases hfirst

theorem opensAsShown_loosePaidBurn :
    let _ := paidBurnSuite
    let gateway : Gateway (StateM Unit) := .offline "chain"
    let network := some (.of blockchain "chain")
    let owner := Address.ofPublicKey paidBurnKey
    let text := Base64.encode (loosePaidBurn owner).encode
    let unsigned := UnsignedTransaction.create paidBurn owner
    let signature : Api.Signature := ⟨⟨none, none, "", none⟩,
      ⟨Hex.encode paidBurnKey, .edwards25519⟩, .ed25519, Hex.encode paidBurnSignature⟩
    text ≠ unsigned.toBase64 ∧ UnsignedTransaction.ofBase64 text = .ok unsigned ∧
    UnsignedTransaction.ofBase64 unsigned.toBase64 = .ok unsigned ∧
    ∃ view response signed,
      Succeeds (gateway.constructionParse ⟨network, false, text⟩) () view () ∧
      Succeeds (gateway.constructionCombine ⟨network, text, [signature]⟩) () response () ∧
      SignedTransaction.ofBase64 response.signedTransaction = .ok signed ∧
      OpensAsShown unsigned view signed owner paidBurn ∧
      signed.openFor "chain" = .ok (owner, paidBurn) := by
  intro _ gateway network owner text unsigned signature
  have hunsigned : UnsignedTransaction.ofBase64 text = .ok unsigned := ofBase64_loosePaidBurn owner
  obtain ⟨hagain, _, hopens⟩ := opensAsShown_of_ofBase64 hunsigned
  have hkind : paidBurn.kind = .ok (.burn ⟨⟨12⟩⟩) := Transaction.kind_ofKind _ _ rfl
  have hops := operations_eq hkind owner none
  have htx : unsigned.transaction = .ok paidBurn :=
    UnsignedTransaction.transaction_create paidBurn.nonce ⟨10000, ⟨7⟩⟩ (.burn ⟨⟨12⟩⟩) owner
  have hnetwork : Succeeds (gateway.checkNetwork network) () "chain" () := rfl
  have hparse : parse "chain" false text = .ok _ :=
    parse_unsigned_eq_ok_iff.mpr ⟨_, parseUnsigned_eq_ok_iff.mpr
      ⟨unsigned, paidBurn, owner, hunsigned, htx, address_text owner, rfl⟩,
      response_eq_ok_iff.mpr ⟨_, hops, rfl⟩⟩
  have hshown : Succeeds (gateway.constructionParse ⟨network, false, text⟩) () _ () :=
    succeeds_constructionParse_iff.mpr ⟨"chain", hnetwork, hparse⟩
  have hsignature : readSignature [signature] = .ok ⟨paidBurnSignature, paidBurnKey⟩ :=
    bind_eq_ok_iff.mpr ⟨_, bytes_eq_ok (Hex.decode_encode _), bind_eq_ok_iff.mpr
      ⟨_, bytes_eq_ok (Hex.decode_encode _), rfl⟩⟩
  have hcombine : combine text [signature] = .ok _ :=
    combine_eq_ok_iff.mpr ⟨unsigned, _, hunsigned, hsignature, rfl⟩
  have hjoined : Succeeds (gateway.constructionCombine ⟨network, text, [signature]⟩) () _ () :=
    succeeds_constructionCombine_iff.mpr ⟨"chain", _, hnetwork, hcombine, rfl⟩
  obtain ⟨signed, signer, tx, hsigned, hopen⟩ :=
    hopens gateway network network [signature] _ _ () () () () hshown hjoined
  cases (SignedTransaction.ofBase64_toBase64 _).symm.trans hsigned
  cases htx.symm.trans hopen.transaction_eq
  cases (address_text owner).symm.trans hopen.signer_eq
  exact ⟨loosePaidBurn_ne owner, hunsigned, hagain, _, _, _, hshown, hjoined, hsigned, hopen,
    (hopen.openFor_iff ..).mpr ⟨if_pos ⟨rfl, rfl⟩, rfl, rfl⟩⟩

end StakingGateway
