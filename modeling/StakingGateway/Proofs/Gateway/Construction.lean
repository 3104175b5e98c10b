import StakingGateway.Proofs.Gateway.Basic
import StakingGateway.Proofs.Operation.RoundTrip
import StakingGateway.Proofs.Transaction.Envelope

/-!
# Steps of a construction

What each step makes of the unsigned transaction that `payloads` returns: it is parsed as the
transaction of the operations, and joined with a signature it is opened as that transaction.
-/

namespace StakingGateway

open Api

theorem readNonce_nonceMetadata (nonce : UInt64) :
    readNonce (some (nonceMetadata nonce)) = .ok nonce := by
  have hfind : (nonceMetadata nonce).find? nonceKey = some (.number (.integer nonce.toNat)) :=
    Json.Object.find?_ofMembers_singleton nonceKey (.integer nonce.toNat)
  have hrange : (0 : Int) ≤ nonce.toNat ∧ (nonce.toNat : Int) < 0x10000000000000000 := by
    have hlt := nonce.toNat_lt
    omega
  simp only [readNonce, Option.bind_some, hfind]
  rw [if_pos hrange, Int.toNat_natCast, UInt64.ofNat_toNat]

theorem bytes_eq_ok {hex : String} {content : List UInt8} (h : Hex.decode hex = .ok content) :
    Input.bytes hex = .ok content := by
  rw [Input.bytes, h]

theorem address_text (address : Address) : Input.address address.text = .ok address := by
  simp only [Input.address, address.isEmpty_text, address.ofText_text]
  rfl

/-! ## Parsing -/

theorem parseUnsigned_eq_ok_iff {text : String} {parsed : ParsedTransaction} :
    parseUnsigned text = .ok parsed ↔
      ∃ unsigned tx signer, UnsignedTransaction.ofBase64 text = .ok unsigned ∧
        unsigned.transaction = .ok tx ∧ Input.address unsigned.signer = .ok signer ∧
        parsed = ⟨signer, tx, []⟩ := by
  simp only [parseUnsigned, bind_eq_ok_iff, orMalformed, mapError_eq_ok_iff]
  constructor
  · rintro ⟨unsigned, hunsigned, tx, htx, signer, hsigner, h⟩
    exact ⟨unsigned, tx, signer, hunsigned, htx, hsigner, (pure_eq_ok_iff.mp h).symm⟩
  · rintro ⟨unsigned, tx, signer, hunsigned, htx, hsigner, rfl⟩
    exact ⟨unsigned, hunsigned, tx, htx, signer, hsigner, rfl⟩

theorem parseUnsigned_create (nonce : UInt64) (fee : Fee) (kind : TransactionKind)
    (signer : Address) :
    parseUnsigned (UnsignedTransaction.create (.ofKind nonce fee kind) signer).toBase64
      = .ok ⟨signer, .ofKind nonce fee kind, []⟩ :=
  parseUnsigned_eq_ok_iff.mpr ⟨_, _, signer,
    UnsignedTransaction.ofBase64_create nonce fee kind signer,
    UnsignedTransaction.transaction_create nonce fee kind signer, address_text signer, rfl⟩

section

variable [Suite]

def parseResponse (operations : List Operation) (signers : List Address) (nonce : UInt64) :
    ConstructionParseResponse where
  operations
  signers := some (signers.map Address.text)
  accountIdentifierSigners := some (signers.map Address.account)
  metadata := some (nonceMetadata nonce)

theorem response_eq_ok_iff {parsed : ParsedTransaction} {view : ConstructionParseResponse} :
    parsed.response = .ok view ↔
      ∃ ops, parsed.tx.operations parsed.signer none = .ok ops ∧
        view = parseResponse ops parsed.signers parsed.tx.nonce := by
  simp only [ParsedTransaction.response, bind_eq_ok_iff, orMalformed, mapError_eq_ok_iff]
  constructor
  · rintro ⟨ops, hops, h⟩
    exact ⟨ops, hops, (pure_eq_ok_iff.mp h).symm⟩
  · rintro ⟨ops, hops, rfl⟩
    exact ⟨ops, hops, rfl⟩

theorem parse_unsigned_eq_ok_iff {chainId text : String} {view : ConstructionParseResponse} :
    parse chainId false text = .ok view ↔
      ∃ parsed, parseUnsigned text = .ok parsed ∧ parsed.response = .ok view :=
  bind_eq_ok_iff

theorem parse_create {nonce : UInt64} {fee : Fee} {kind : TransactionKind} {signer : Address}
    {ops : List Operation}
    (hops : (Transaction.ofKind nonce fee kind).operations signer none = .ok ops)
    (chainId : String) :
    parse chainId false (UnsignedTransaction.create (.ofKind nonce fee kind) signer).toBase64
      = .ok (parseResponse ops [] nonce) :=
  parse_unsigned_eq_ok_iff.mpr ⟨_, parseUnsigned_create nonce fee kind signer,
    response_eq_ok_iff.mpr ⟨ops, hops, rfl⟩⟩

theorem parse_signed_eq_ok_iff {chainId text : String} {view : ConstructionParseResponse} :
    parse chainId true text = .ok view ↔
      ∃ parsed, parseSigned chainId text = .ok parsed ∧ parsed.response = .ok view :=
  bind_eq_ok_iff

theorem parseSigned_toBase64 {chainId : String} {signed : SignedTransaction} {signer : Address}
    {tx : Transaction} (hopen : signed.openFor chainId = .ok (signer, tx)) :
    parseSigned chainId signed.toBase64 = .ok ⟨signer, tx, [signer]⟩ := by
  have hread : readSigned signed.toBase64 = .ok signed := by
    rw [readSigned, signed.ofBase64_toBase64]
  exact bind_eq_ok_iff.mpr
    ⟨signed, hread, bind_eq_ok_iff.mpr ⟨_, mapError_eq_ok_iff.mpr hopen, rfl⟩⟩

/-! ## Payloads -/

def payloadsResponse (chainId : String) (signer : Address) (unsigned : UnsignedTransaction) :
    ConstructionPayloadsResponse :=
  ⟨unsigned.toBase64, [{
    address := some signer.text
    accountIdentifier := some signer.account
    hexBytes := Hex.encode (signerMessage chainId unsigned.txBytes)
    signatureType := some .ed25519 }]⟩

theorem payloads_eq_ok_iff {chainId : String} {metadata : Option Json.Object}
    {ops : List Operation} {response : ConstructionPayloadsResponse} :
    payloads chainId metadata ops = .ok response ↔
      ∃ nonce signer fee kind, readNonce metadata = .ok nonce ∧ kind.isKnown ∧
        Transaction.ofOperations ops = .ok (signer, .ofKind 0 fee kind) ∧
        response = payloadsResponse chainId signer (.create (.ofKind nonce fee kind) signer) := by
  simp only [payloads, bind_eq_ok_iff]
  constructor
  · rintro ⟨nonce, hnonce, ⟨signer, tx⟩, hread, h⟩
    cases pure_eq_ok_iff.mp h
    have hops := mapError_eq_ok_iff.mp hread
    obtain ⟨_, fee, kind, hdescribes, rfl⟩ := ofOperations_eq_ok_iff.mp hops
    exact ⟨nonce, signer, fee, kind, hnonce, hdescribes.isKnown, hops, rfl⟩
  · rintro ⟨nonce, signer, fee, kind, hnonce, _, hops, rfl⟩
    exact ⟨nonce, hnonce, _, mapError_eq_ok_iff.mpr hops, rfl⟩

/-! ## Signatures -/

/-- A signature is accepted under a key for the bytes of a payload. -/
structure Api.Signature.Accepted (signature : Api.Signature) (payload : SigningPayload)
    (key : List UInt8) : Prop where
  key_eq : Hex.decode signature.publicKey.hexBytes = .ok key
  length_key : key.length = Address.publicKeyLength
  verified : ∃ message content, Hex.decode payload.hexBytes = .ok message ∧
    Hex.decode signature.hexBytes = .ok content ∧
    content.length = StakingGateway.Signature.length ∧
    Suite.verify key message content = .accepted

theorem derive_eq_ok {hex : String} {key : List UInt8} (hkey : Hex.decode hex = .ok key)
    (hlength : key.length = Address.publicKeyLength) :
    derive ⟨hex, .edwards25519⟩ = .ok {
      address := some (Address.ofPublicKey key).text
      accountIdentifier := some (Address.ofPublicKey key).account } := by
  have hread : Input.publicKey ⟨hex, .edwards25519⟩ = .ok key := by
    simp only [Input.publicKey]
    rw [if_neg (not_not_intro rfl)]
    refine bind_eq_ok_iff.mpr ⟨key, bytes_eq_ok hkey, ?_⟩
    rw [if_neg (not_not_intro hlength)]
    rfl
  rw [derive, hread]
  rfl

/-- Joined with an accepted signature, the unsigned transaction opens as the transaction, signed by
the address of the key. -/
theorem combine_opens {chainId : String} {nonce : UInt64} {fee : Fee} {kind : TransactionKind}
    {payload : SigningPayload} {signature : Api.Signature} {key : List UInt8} (signer : Address)
    (hpayload : payload.hexBytes
      = Hex.encode (signerMessage chainId (Transaction.ofKind nonce fee kind).encode))
    (haccepted : signature.Accepted payload key) :
    ∃ signed, combine (UnsignedTransaction.create (.ofKind nonce fee kind) signer).toBase64
        [signature] = .ok signed ∧
      signed.openFor chainId = .ok (Address.ofPublicKey key, .ofKind nonce fee kind) := by
  obtain ⟨hkey, hlength, message, content, hmessage, hcontent, hsize, hverify⟩ := haccepted
  rw [hpayload, Hex.decode_encode] at hmessage
  cases hmessage
  have hcreate : orMalformed (StakingGateway.Signature.create key content) = .ok ⟨content, key⟩ :=
    mapError_eq_ok_iff.mpr (StakingGateway.Signature.create_eq_ok hlength hsize)
  have hread : readSignature [signature] = .ok ⟨content, key⟩ :=
    bind_eq_ok_iff.mpr ⟨key, bytes_eq_ok hkey,
      bind_eq_ok_iff.mpr ⟨content, bytes_eq_ok hcontent, hcreate⟩⟩
  refine ⟨⟨⟨content, key⟩, (Transaction.ofKind nonce fee kind).encode⟩, ?_, ?_⟩
  · have hunsigned := UnsignedTransaction.ofBase64_create nonce fee kind signer
    refine bind_eq_ok_iff.mpr ⟨_, mapError_eq_ok_iff.mpr hunsigned, ?_⟩
    refine bind_eq_ok_iff.mpr ⟨_, hread, ?_⟩
    rw [UnsignedTransaction.txBytes_create]
    rfl
  · exact SignedTransaction.openFor_eq_ok hlength hverify
      (Transaction.decode_encode_ofKind nonce fee kind)

end

end StakingGateway
