import StakingGateway.Crypto.Standard
import StakingGateway.Gateway.Block
import StakingGateway.Gateway.Construction
import StakingGateway.Proofs.Node.Exchange
import StakingGateway.Proofs.Replay.Outcome
import StakingGateway.Proofs.Transaction.Envelope

/-!
# Handing transactions over

A transaction is named by the digest of the bytes that the node receives.  They are not the bytes
of the text that was handed in, which may be encoded in other ways, but those of the envelope in it;
for the text of `construction/combine` they are the same.
-/

namespace StakingGateway

open Api Cbor

/-! ## The answer to a submission -/

theorem occursIn_iff {word text : List Char} : occursIn word text = true ↔ word <:+: text := by
  induction text with
  | nil => simp [occursIn]
  | cons c rest ih => rw [occursIn, Bool.or_eq_true, ih, List.isPrefixOf_iff_prefix,
      List.infix_cons_iff]

theorem ofStatus_eq_duplicateTransaction_iff {status : Status} :
    NodeError.ofStatus status = .duplicateTransaction ↔
      duplicateTransactionPhrase.toList <:+: status.message.toList := by
  rw [NodeError.ofStatus, ← occursIn_iff]
  split
  next hoccurs => simp [hoccurs]
  next hoccurs => simp [hoccurs]

/-- An answer of a node that has the transaction: one that can be decoded, or its word that it had
the transaction before. -/
def HasTransaction : Except Status (List UInt8) → Prop
  | .ok answer => ∃ item, decode answer = some item
  | .error status => duplicateTransactionPhrase.toList <:+: status.message.toList

/-- Only the words of the node count, not the reason why its answer cannot be decoded. -/
theorem hasTransaction_iff {answer : Except Status (List UInt8)} :
    HasTransaction answer ↔
      (Client.readAnswer (fun _ => some ()) answer).mapError NodeError.ofStatus = .ok () ∨
      (Client.readAnswer (fun _ => some ()) answer).mapError NodeError.ofStatus
        = .error .duplicateTransaction := by
  cases answer with
  | error status =>
      simp [HasTransaction, Client.readAnswer, Except.mapError,
        ← ofStatus_eq_duplicateTransaction_iff]
  | ok bytes =>
      cases hdecode : decode bytes with
      | some item => simp [HasTransaction, Client.readAnswer, decodeAs, hdecode, Except.mapError]
      | none =>
          have hreason : NodeError.ofStatus
              ⟨.internal, "CBOR decode failed: " ++ DecodeError.malformed.message⟩
                ≠ .duplicateTransaction := by decide
          simp [HasTransaction, Client.readAnswer, decodeAs, hdecode, Except.mapError, hreason]

/-! ## The name of a transaction -/

theorem readSigned_eq_ok_iff {text : String} {signed : SignedTransaction} :
    readSigned text = .ok signed ↔ SignedTransaction.ofBase64 text = .ok signed := by
  rw [readSigned]
  cases SignedTransaction.ofBase64 text <;> simp

section

variable [Suite]

/-- A transaction is known under a name as soon as its bytes are: `mempool` tells the name wherever
they wait, and a replay that lists them lists their operations under it and under no other. -/
structure Names (identifier : TransactionIdentifier) (raw : List UInt8) : Prop where
  eq_digest : identifier = ⟨(Hash.digest raw).text⟩
  mempool : ∀ {m : Type → Type} [Monad m] {τ : Type} [Stateful m τ] {node : Node m}
    {request : NetworkRequest} {response : MempoolResponse} {t t' : τ},
    Succeeds ((Gateway.online node).mempool request) t response t' →
      ∃ asked raws, Succeeds node.unconfirmedTransactions asked raws t' ∧
        response.transactionIdentifiers.length = raws.length ∧
        ∀ place : Nat, raws[place]? = some raw →
          response.transactionIdentifiers[place]? = some identifier
  replay : ∀ {chain : String} {opened : Address × Transaction},
    Replay.openTransaction chain raw = .ok opened →
      ∀ (calls : List Replay.Call) (result : Option TransactionResult), ∃ hash ops,
        identifier = ⟨hash.text⟩ ∧ (Replay.afterCalls chain calls).Revises hash ops
          ((Replay.afterCalls chain calls).addTransaction chain raw result).1

theorem succeeds_mempool_iff {m : Type → Type} [Monad m] {τ : Type} [Stateful m τ] {node : Node m}
    {request : NetworkRequest} {response : MempoolResponse} {t t' : τ} :
    Succeeds ((Gateway.online node).mempool request) t response t' ↔
      ∃ chainId asked raws,
        Succeeds ((Gateway.online node).checkNetwork request.networkIdentifier) t chainId asked ∧
        Succeeds node.unconfirmedTransactions asked raws t' ∧
        response = ⟨raws.map fun raw => ⟨(Hash.digest raw).text⟩⟩ := by
  simp only [Gateway.mempool, Gateway.node, succeeds_bind_iff, succeeds_pure_iff,
    Handler.succeeds_ask_iff]
  constructor
  · rintro ⟨_, _, ⟨rfl, rfl⟩, chainId, asked, hnetwork, raws, _, hraws, rfl, rfl⟩
    exact ⟨chainId, asked, raws, hnetwork, hraws, rfl⟩
  · rintro ⟨chainId, asked, raws, hnetwork, hraws, rfl⟩
    exact ⟨_, _, ⟨rfl, rfl⟩, chainId, asked, hnetwork, raws, _, hraws, rfl, rfl⟩

theorem names_digest (raw : List UInt8) : Names ⟨(Hash.digest raw).text⟩ raw where
  eq_digest := rfl
  mempool := by
    intro m _ τ _ node request response t t' h
    obtain ⟨_, asked, raws, _, hraws, rfl⟩ := succeeds_mempool_iff.mp h
    refine ⟨asked, raws, hraws, List.length_map .., fun place hplace => ?_⟩
    rw [List.getElem?_map, hplace]
    rfl
  replay := by
    intro chain opened hopen calls result
    obtain ⟨signer, tx⟩ := opened
    rw [Replay.addTransaction_of_ok hopen]
    exact ⟨Hash.digest raw, _, rfl, (Replay.keyed_afterCalls chain calls).revises_put ..⟩

section

variable {m : Type → Type} [Monad m] {τ : Type} [Stateful m τ] {gateway : Gateway m} {t t' : τ}

theorem succeeds_constructionHash_iff {request : ConstructionHashRequest}
    {signed : SignedTransaction} (hsigned : readSigned request.signedTransaction = .ok signed)
    {response : TransactionIdentifierResponse} :
    Succeeds (gateway.constructionHash request) t response t' ↔
      response = signed.identifier ∧
        ∃ chainId, Succeeds (gateway.checkNetwork request.networkIdentifier) t chainId t' := by
  simp only [Gateway.constructionHash, succeeds_bind_iff, succeeds_pure_iff,
    Handler.succeeds_of_iff, hsigned]
  constructor
  · rintro ⟨chainId, _, hnetwork, _, _, ⟨⟨⟩, rfl⟩, rfl, rfl⟩
    exact ⟨rfl, chainId, hnetwork⟩
  · rintro ⟨rfl, chainId, hnetwork⟩
    exact ⟨chainId, _, hnetwork, _, _, ⟨rfl, rfl⟩, rfl, rfl⟩

omit [Suite] in
theorem succeeds_constructionCombine_iff {request : ConstructionCombineRequest}
    {response : ConstructionCombineResponse} :
    Succeeds (gateway.constructionCombine request) t response t' ↔
      ∃ chainId signed, Succeeds (gateway.checkNetwork request.networkIdentifier) t chainId t' ∧
        combine request.unsignedTransaction request.signatures = .ok signed ∧
        response = ⟨signed.toBase64⟩ := by
  simp only [Gateway.constructionCombine, succeeds_bind_iff, succeeds_pure_iff,
    Handler.succeeds_of_iff]
  constructor
  · rintro ⟨chainId, _, hnetwork, signed, _, ⟨hcombine, rfl⟩, rfl, rfl⟩
    exact ⟨chainId, signed, hnetwork, hcombine, rfl⟩
  · rintro ⟨chainId, signed, hnetwork, hcombine, rfl⟩
    exact ⟨chainId, t', hnetwork, signed, t', ⟨hcombine, rfl⟩, rfl, rfl⟩

omit [Suite] in
theorem eq_toBase64_of_constructionCombine {request : ConstructionCombineRequest}
    {response : ConstructionCombineResponse}
    (h : Succeeds (gateway.constructionCombine request) t response t') :
    ∃ signed : SignedTransaction, response.signedTransaction = signed.toBase64 := by
  obtain ⟨_, signed, _, _, rfl⟩ := succeeds_constructionCombine_iff.mp h
  exact ⟨signed, rfl⟩

/-- Only if the node has the transaction does its submission succeed. -/
theorem outcome_of_constructionSubmit {node : Node m} {request : ConstructionSubmitRequest}
    {response : TransactionIdentifierResponse}
    (h : Succeeds ((Gateway.online node).constructionSubmit request) t response t') :
    ∃ chainId asked signed outcome, Succeeds node.chainId t chainId asked ∧
      readSigned request.signedTransaction = .ok signed ∧ response = signed.identifier ∧
      Stateful.act (node.submit signed).run asked = (some outcome, t') ∧
      (outcome = .ok () ∨ outcome = .error .duplicateTransaction) := by
  simp only [Gateway.constructionSubmit, Gateway.node, succeeds_bind_iff, succeeds_pure_iff,
    Handler.succeeds_of_iff] at h
  obtain ⟨_, _, ⟨rfl, rfl⟩, chainId, asked, hnetwork, signed, _, ⟨hsigned, rfl⟩, outcome, _,
    houtcome, h⟩ := h
  have hchain := Handler.succeeds_ask_iff.mp (Gateway.succeeds_chainId hnetwork)
  rw [succeeds_lift_iff] at houtcome
  split at h
  next =>
    obtain ⟨rfl, rfl⟩ := succeeds_pure_iff.mp h
    exact ⟨chainId, asked, signed, _, hchain, hsigned, rfl, houtcome, .inl rfl⟩
  next =>
    obtain ⟨rfl, rfl⟩ := succeeds_pure_iff.mp h
    exact ⟨chainId, asked, signed, _, hchain, hsigned, rfl, houtcome, .inr rfl⟩
  next => exact (not_succeeds_throw h).elim

end

/-- What a submission of a text has done that succeeds.  Behind the requests that a connection takes
there is one more, of the bytes of the envelope in the text, and the node that answered it has the
transaction.  The name that is told is that of these bytes, and `construction/hash` tells it on
every network that is accepted.  If the text is from `construction/combine` then it holds these
bytes. -/
structure Submits (text : String) (response : TransactionIdentifierResponse)
    (log log' : List Exchange) (signed : SignedTransaction) (asked : List Exchange)
    (answer : Except Status (List UInt8)) : Prop where
  ofBase64_eq : SignedTransaction.ofBase64 text = .ok signed
  log_eq : log' = log ++ asked ++ [⟨.submitTxNoWait, signed.encode, answer⟩]
  method_ne : ∀ exchange ∈ asked, exchange.method ≠ .submitTxNoWait
  hasTransaction : HasTransaction answer
  response_eq : response = .of ⟨(Hash.digest signed.encode).text⟩
  names : Names response.transactionIdentifier signed.encode
  constructionHash_iff : ∀ {m : Type → Type} [Monad m] {τ : Type} [Stateful m τ]
    (gateway : Gateway m) (network : Option NetworkIdentifier)
    (named : TransactionIdentifierResponse) (t t' : τ),
    Succeeds (gateway.constructionHash ⟨network, text⟩) t named t' ↔
      named = response ∧ ∃ chainId, Succeeds (gateway.checkNetwork network) t chainId t'
  decode_eq : ∀ {m : Type → Type} [Monad m] {τ : Type} [Stateful m τ] (gateway : Gateway m)
    (combined : ConstructionCombineRequest) (t t' : τ),
    Succeeds (gateway.constructionCombine combined) t ⟨text⟩ t' →
      Base64.decode text = .ok signed.encode

/-- Whatever the node answers. -/
theorem submits_of_constructionSubmit {σ : Type} (transport : Transport (StateM σ))
    (address : String) {request : ConstructionSubmitRequest}
    {response : TransactionIdentifierResponse} {client client' : ClientState} {node node' : σ}
    {log log' : List Exchange}
    (h : Succeeds (Gateway.constructionSubmit (.online (Client.node transport.recorded address))
      request) (client, node, log) response (client', node', log')) :
    ∃ signed asked answer,
      Submits request.signedTransaction response log log' signed asked answer := by
  obtain ⟨chainId, ⟨client₁, node₁, log₁⟩, signed, outcome, hchain, hsigned, rfl, hsubmit,
    houtcome⟩ := outcome_of_constructionSubmit h
  obtain ⟨connection, _, hconnection, hpure⟩ := succeeds_bind_iff.mp hchain
  obtain ⟨_, rfl⟩ := succeeds_pure_iff.mp hpure
  -- The name of the chain was asked for first, so the submission finds a connection.
  obtain ⟨told, asked, htold, rfl, hconnects⟩ :=
    Client.connects_of_connection transport address hconnection
  cases htold
  obtain ⟨answer, rfl, hanswer⟩ :=
    Client.exchange_of_call transport address hconnects.connection_eq_some hsubmit
  refine ⟨signed, asked, answer, readSigned_eq_ok_iff.mp hsigned, rfl, ?_,
    hasTransaction_iff.mpr (Option.some.inj hanswer ▸ houtcome), rfl, names_digest _, ?_, ?_⟩
  · intro exchange hexchange
    rcases hconnects.eq_getStatus_or_eq_getChainContext _ (List.mem_map_of_mem hexchange) with
      hmethod | hmethod <;> simp [hmethod]
  · intro m _ τ _ gateway network named t t'
    exact succeeds_constructionHash_iff hsigned
  · intro m _ τ _ gateway combined t t' hcombine
    obtain ⟨made, htext⟩ := eq_toBase64_of_constructionCombine hcombine
    have hread := readSigned_eq_ok_iff.mp hsigned
    rw [show request.signedTransaction = made.toBase64 from htext] at hread ⊢
    cases made.ofBase64_toBase64.symm.trans hread
    exact Base64.decode_encode _

end

def takingNode : Transport (StateM Unit) where
  dial := pure (.ok ())
  send method _ := pure (.ok (
    match method with
    | .getChainContext => (Item.text "chain").encode
    | .getStatus => (Item.map []).encode
    | _ => Item.null.encode))

/-- An envelope whose members are not in their order: the bytes of the text are not those that are
handed over. -/
def disorderedText : String :=
  "onN1bnRydXN0ZWRfcmF3X3ZhbHVlQQdpc2lnbmF0dXJlompwdWJsaWNfa2V5QGlzaWduYXR1cmVA"

theorem submits_of_constructionSubmit_disorderedText :
    ∃ response client' log',
      Succeeds (Gateway.constructionSubmit (.online (Client.node takingNode.recorded "node:1"))
        ⟨some (.of blockchain "chain"), disorderedText⟩) (.initial, (), []) response
        (client', (), log') ∧
      Base64.decode disorderedText ≠ .ok (SignedTransaction.encode ⟨⟨[], []⟩, [7]⟩) ∧
      ∃ signed asked answer, Submits disorderedText response [] log' signed asked answer := by
  have h : Succeeds (Gateway.constructionSubmit (.online (Client.node takingNode.recorded "node:1"))
        ⟨some (.of blockchain "chain"), disorderedText⟩) (.initial, (), [])
        (SignedTransaction.identifier ⟨⟨[], []⟩, [7]⟩) (_, (), _) := rfl
  exact ⟨_, _, _, h, by decide, submits_of_constructionSubmit takingNode "node:1" h⟩

end StakingGateway
