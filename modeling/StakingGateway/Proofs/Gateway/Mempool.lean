import StakingGateway.Proofs.Gateway.Admission
import StakingGateway.Proofs.Gateway.Reencoding
import StakingGateway.Proofs.Gateway.Snapshot
import StakingGateway.Proofs.Replay.Origin

/-!
# Waiting transactions

`mempool` lists the names of the transactions that wait for a block, and `mempool/transaction` shows
one of them by its name.  It goes through a replay that has no result to go by, where
`construction/parse` goes to the operations at once.  The main statement is
`showsWaiting_of_succeeds`: the name has to be listed, and then the first transaction of that name
is shown as it is parsed, with every operation taken for done.

Nothing is assumed of what waits: it may be listed twice, or be no transaction at all.
-/

namespace StakingGateway

open Api (Operation)

/-! ## Operations and their status -/

def Api.Operation.inState (op : Operation) (state : OperationState) : Operation :=
  { op with status := some state.name }

theorem TransactionKind.operations_inState (kind : TransactionKind) (index : Nat) (signer : Address)
    (state : OperationState) :
    kind.operations index signer (some state.name)
      = (kind.operations index signer none).map fun op => op.inState state := by
  cases kind <;> rfl

section

variable [Suite]

theorem Fee.operations_inState (fee : Fee) (index : Nat) (signer : Address)
    (state : OperationState) :
    fee.operations index signer (some state.name)
      = (fee.operations index signer none).map fun op => op.inState state := by
  unfold Fee.operations
  cases fee.amount.isZero <;> rfl

theorem emitFee_inState (tx : Transaction) (signer : Address) (state : OperationState) :
    tx.emitFee signer (some state.name) []
      = (tx.emitFee signer none []).map fun op => op.inState state := by
  unfold Transaction.emitFee
  cases tx.fee with
  | none => rfl
  | some fee => exact fee.operations_inState 0 signer state

theorem operations_inState (tx : Transaction) (signer : Address) (state : OperationState) :
    tx.operations signer (some state.name)
      = (tx.operations signer none).map (List.map fun op => op.inState state) := by
  cases hkind : tx.kind with
  | error reason => simp [Transaction.operations, Transaction.emitBody, hkind, Except.map]
  | ok kind =>
      rw [operations_eq hkind, operations_eq hkind, Except.map, emitFee_inState, List.length_map,
        kind.operations_inState, List.map_append]

/-! ## Two ways to look at a signed transaction -/

theorem parseSigned_eq_ok_iff {chainId text : String} {parsed : ParsedTransaction} :
    parseSigned chainId text = .ok parsed ↔
      ∃ signed signer tx, SignedTransaction.ofBase64 text = .ok signed ∧
        signed.openFor chainId = .ok (signer, tx) ∧ parsed = ⟨signer, tx, [signer]⟩ := by
  simp only [parseSigned, bind_eq_ok_iff, orMalformed, mapError_eq_ok_iff, readSigned_eq_ok_iff]
  constructor
  · rintro ⟨signed, hsigned, ⟨signer, tx⟩, hopen, h⟩
    exact ⟨signed, signer, tx, hsigned, hopen, (pure_eq_ok_iff.mp h).symm⟩
  · rintro ⟨signed, signer, tx, hsigned, hopen, rfl⟩
    exact ⟨signed, hsigned, ⟨signer, tx⟩, hopen, rfl⟩

theorem Replay.openTransaction_eq_ok_iff {chain : String} {raw : List UInt8}
    {opened : Address × Transaction} :
    openTransaction chain raw = .ok opened ↔
      ∃ signed, SignedTransaction.ofBase64 (Base64.encode raw) = .ok signed ∧
        signed.openFor chain = .ok opened := by
  simp only [openTransaction, bind_eq_ok_iff, mapError_eq_ok_iff, SignedTransaction.ofBase64,
    Base64.decode_encode]

theorem parse_signed_encode_eq_ok_iff {chainId : String} {raw : List UInt8}
    {view : Api.ConstructionParseResponse} :
    parse chainId true (Base64.encode raw) = .ok view ↔
      ∃ signer tx ops, Replay.openTransaction chainId raw = .ok (signer, tx) ∧
        tx.operations signer none = .ok ops ∧ view = parseResponse ops [signer] tx.nonce := by
  simp only [parse_signed_eq_ok_iff, parseSigned_eq_ok_iff, response_eq_ok_iff,
    Replay.openTransaction_eq_ok_iff]
  constructor
  · rintro ⟨_, ⟨signed, signer, tx, hsigned, hopen, rfl⟩, ops, hops, rfl⟩
    exact ⟨signer, tx, ops, ⟨signed, hsigned, hopen⟩, hops, rfl⟩
  · rintro ⟨signer, tx, ops, ⟨signed, hsigned, hopen⟩, hops, rfl⟩
    exact ⟨_, ⟨signed, signer, tx, hsigned, hopen, rfl⟩, ops, hops, rfl⟩

namespace Replay

/-- Without a result, and with nothing listed yet, all that is listed is what was meant to be
done. -/
theorem transactionOperations_none_nil (tx : Transaction) (signer : Address) :
    transactionOperations tx signer none []
      = match tx.operations signer (some OperationState.ok.name) with
        | .ok ops => (ops, .ok ())
        | .error reason => ([], .error (.badTransaction reason)) :=
  rfl

theorem addTransaction_empty_none {chain : String} {raw : List UInt8} {signer : Address}
    {tx : Transaction} (hopen : openTransaction chain raw = .ok (signer, tx)) :
    Replay.empty.addTransaction chain raw none
      = (⟨[.of ⟨(Hash.digest raw).text⟩ (transactionOperations tx signer none []).1],
          [(Hash.digest raw, 0)]⟩, (transactionOperations tx signer none []).2) := by
  rw [addTransaction_of_ok hopen, put_of_place_none rfl]
  rfl

end Replay

def pending (chainId : String) (raw : List UInt8) :
    Except Api.Failure Api.MempoolTransactionResponse :=
  let (replay, outcome) := Replay.empty.addTransaction chainId raw none
  match outcome with
  | .error reason => .error ⟨.unableToGetTransactions, some reason.message⟩
  | .ok () =>
    match replay.transactions with
    | transaction :: _ => .ok (.of transaction)
    | [] => .error ⟨.unableToGetTransactions, none⟩

def pendingResponse (raw : List UInt8) (view : Api.ConstructionParseResponse) :
    Api.MempoolTransactionResponse :=
  .of (.of ⟨(Hash.digest raw).text⟩ (view.operations.map fun op => op.inState .ok))

theorem pending_eq_ok_iff {chainId : String} {raw : List UInt8}
    {response : Api.MempoolTransactionResponse} :
    pending chainId raw = .ok response ↔
      ∃ view, parse chainId true (Base64.encode raw) = .ok view ∧
        response = pendingResponse raw view := by
  simp only [parse_signed_encode_eq_ok_iff]
  cases hopen : Replay.openTransaction chainId raw with
  | error reason => simp [pending, Replay.addTransaction_of_error hopen]
  | ok opened =>
      obtain ⟨signer, tx⟩ := opened
      have hstate := operations_inState tx signer .ok
      rw [pending, Replay.addTransaction_empty_none hopen, Replay.transactionOperations_none_nil]
      cases hops : tx.operations signer none with
      | error reason =>
          rw [hops] at hstate
          simp [hstate, hops, Except.map]
      | ok ops =>
          rw [hops] at hstate
          simp [hstate, hops, Except.map, pendingResponse, parseResponse, eq_comm]

/-! ## Looking up names -/

def wanted (name : String) : Api.TransactionIdentifier :=
  ⟨String.ofList (name.toList.map Char.toLower)⟩

def findWaiting (raws : List (List UInt8)) (identifier : Api.TransactionIdentifier) :
    Option (List UInt8) :=
  raws.find? fun raw => (Hash.digest raw).text = identifier.hash

def listing (raws : List (List UInt8)) : Api.MempoolResponse :=
  ⟨raws.map fun raw => ⟨(Hash.digest raw).text⟩⟩

theorem digest_of_findWaiting {raws : List (List UInt8)} {identifier : Api.TransactionIdentifier}
    {raw : List UInt8} (h : findWaiting raws identifier = some raw) :
    identifier = ⟨(Hash.digest raw).text⟩ := by
  have hname := List.find?_some h
  rw [of_decide_eq_true hname]

theorem findWaiting_eq_none_iff {raws : List (List UInt8)}
    {identifier : Api.TransactionIdentifier} :
    findWaiting raws identifier = none ↔
      identifier ∉ (listing raws).transactionIdentifiers := by
  simp only [findWaiting, listing, List.find?_eq_none, List.mem_map, not_exists, not_and,
    decide_eq_true_eq]
  refine forall₂_congr fun raw _ => not_congr ?_
  cases identifier
  rw [Api.TransactionIdentifier.mk.injEq]

section

variable {m : Type → Type} [Monad m] {τ : Type} [Stateful m τ] {node : Node m} {t asked t' : τ}
  {network : Option Api.NetworkIdentifier} {chainId : String} {raws : List (List UInt8)}

theorem act_mempoolTransaction
    (hnetwork : Succeeds ((Gateway.online node).checkNetwork network) t chainId asked)
    (hraws : Succeeds node.unconfirmedTransactions asked raws t') (name : String) :
    Stateful.act ((Gateway.online node).mempoolTransaction ⟨network, ⟨name⟩⟩).run t
      = (some (match findWaiting raws (wanted name) with
          | none => .error ⟨.transactionNotFound, none⟩
          | some raw => pending chainId raw), t') := by
  rw [Gateway.mempoolTransaction, Gateway.act_node_bind_online, act_run_bind_of_ok hnetwork,
    act_run_bind_of_ok (Handler.succeeds_ask_iff.mpr hraws)]
  -- The search for the name, which the handler has in place.
  change Stateful.act (ExceptT.run (match findWaiting raws (wanted name) with
    | none => _
    | some raw => _)) t' = _
  cases findWaiting raws (wanted name) with
  | none => exact Stateful.act_pure _ t'
  | some raw =>
      dsimp only [pending]
      rcases Replay.empty.addTransaction chainId raw none with ⟨⟨transactions, index⟩, reason | _⟩
      · exact Handler.act_of _ t'
      · cases transactions with
        | nil => exact Handler.act_of _ t'
        | cons transaction rest => exact Handler.act_of _ t'

/-- The mempool is asked for the name of a transaction: no transaction is found exactly if the name,
in lower case, is not listed.  If it is, then the first transaction of that name is shown exactly if
it is parsed, under that name and with its operations taken for done. -/
structure ShowsWaiting (node : Node m) (network : Option Api.NetworkIdentifier) (name : String)
    (raws : List (List UInt8)) (t asked t' : τ) : Prop where
  notFound_iff :
    (∃ reason, Stateful.act ((Gateway.online node).mempoolTransaction ⟨network, ⟨name⟩⟩).run t
        = (some (.error ⟨.transactionNotFound, reason⟩), t')) ↔
      wanted name ∉ (listing raws).transactionIdentifiers
  succeeds_iff : wanted name ∈ (listing raws).transactionIdentifiers →
    ∃ raw, findWaiting raws (wanted name) = some raw ∧
      ∀ response,
        Succeeds ((Gateway.online node).mempoolTransaction ⟨network, ⟨name⟩⟩) t response t' ↔
          ∃ view, Succeeds ((Gateway.online node).constructionParse
              ⟨network, true, Base64.encode raw⟩) t view asked ∧
            response = .of (.of (wanted name) (view.operations.map fun op => op.inState .ok))

theorem pending_ne_notFound {chainId : String} {raw : List UInt8} {reason : Option String} :
    pending chainId raw ≠ .error ⟨.transactionNotFound, reason⟩ := by
  unfold pending
  rcases Replay.empty.addTransaction chainId raw none with ⟨⟨transactions, index⟩, _ | _⟩
  · nofun
  · cases transactions <;> nofun

/-- What the node told is what is listed, and what is looked up by any name. -/
theorem showsWaiting_of_succeeds
    (hnetwork : Succeeds ((Gateway.online node).checkNetwork network) t chainId asked)
    (hraws : Succeeds node.unconfirmedTransactions asked raws t') :
    (∀ metadata, Succeeds ((Gateway.online node).mempool ⟨network, metadata⟩) t (listing raws) t') ∧
      ∀ name, ShowsWaiting node network name raws t asked t' := by
  refine ⟨fun metadata => succeeds_mempool_iff.mpr ⟨chainId, asked, raws, hnetwork, hraws, rfl⟩, ?_⟩
  intro name
  have hact := act_mempoolTransaction hnetwork hraws name
  constructor
  · rw [← findWaiting_eq_none_iff, hact]
    cases findWaiting raws (wanted name) with
    | none => simp
    | some raw => simp [pending_ne_notFound]
  · intro hlisted
    cases hfound : findWaiting raws (wanted name) with
    | none => exact absurd hlisted (findWaiting_eq_none_iff.mp hfound)
    | some raw =>
        refine ⟨raw, rfl, fun response => ?_⟩
        rw [hfound] at hact
        rw [Succeeds, hact, Prod.mk.injEq, and_iff_left rfl, Option.some.injEq,
          pending_eq_ok_iff, digest_of_findWaiting hfound]
        refine exists_congr fun view => and_congr_left fun _ => ?_
        rw [succeeds_constructionParse_iff]
        constructor
        · exact fun hparse => ⟨chainId, hnetwork, hparse⟩
        · rintro ⟨found, hfound, hparse⟩
          cases hnetwork.symm.trans hfound
          exact hparse

end

end

/-! ## The burn, named in upper case -/

theorem Hex.toLower_toUpper_digit {n : Nat} (h : n < 16) :
    (digit n).toUpper.toLower = digit n := by
  revert n
  decide

theorem Hex.map_toLower_map_toUpper (bytes : List UInt8) :
    ((encode bytes).toList.map Char.toUpper).map Char.toLower = (encode bytes).toList := by
  rw [encode, String.toList_ofList, List.map_map]
  refine (List.map_congr_left fun c hc => ?_).trans (List.map_id _)
  obtain ⟨byte, _, hc⟩ := List.mem_flatMap.mp hc
  have hbyte := byte.toNat_lt
  simp only [pair, List.mem_cons, List.not_mem_nil, or_false] at hc
  rcases hc with rfl | rfl
  · exact toLower_toUpper_digit (by omega)
  · exact toLower_toUpper_digit (by omega)

theorem wanted_upper_text (hash : Hash) :
    wanted (String.ofList (hash.text.toList.map Char.toUpper)) = ⟨hash.text⟩ := by
  rw [wanted, String.toList_ofList, Hash.text, Hex.map_toLower_map_toUpper, String.ofList_toList]

/-- The burn waits twice, and between the two something that is no transaction. -/
theorem showsWaiting_signedPaidBurn :
    let _ := paidBurnSuite
    let raw := signedPaidBurn.encode
    let raws := [raw, Utf8.encode "garbage", raw]
    let node : Node (StateM Nat) :=
      { Node.nameOnly "chain" with unconfirmedTransactions := pure raws }
    let network := some (.of blockchain "chain")
    let hash := Hash.digest raw
    let name := String.ofList (hash.text.toList.map Char.toUpper)
    Succeeds ((Gateway.online node).mempool ⟨network, none⟩) 0 (listing raws) 0 ∧
    (∀ name, ShowsWaiting node network name raws 0 0 0) ∧
    ∃ view,
      Succeeds ((Gateway.online node).constructionParse ⟨network, true, Base64.encode raw⟩) 0 view 0 ∧
      view.operations ≠ [] ∧
      Succeeds ((Gateway.online node).mempoolTransaction ⟨network, ⟨name⟩⟩) 0
        (.of (.of ⟨hash.text⟩ (view.operations.map fun op => op.inState .ok))) 0 := by
  intro _ raw raws node network hash name
  have hnetwork : Succeeds ((Gateway.online node).checkNetwork network) 0 "chain" 0 := rfl
  have hraws : Succeeds node.unconfirmedTransactions 0 raws 0 := rfl
  obtain ⟨hlisted, hshows⟩ := showsWaiting_of_succeeds hnetwork hraws
  have hname : wanted name = ⟨hash.text⟩ := wanted_upper_text hash
  have hfirst : findWaiting raws (wanted name) = some raw := by
    rw [hname]
    exact List.find?_cons_of_pos (decide_eq_true rfl)
  have hmem : wanted name ∈ (listing raws).transactionIdentifiers := by
    rw [hname]
    exact List.mem_cons_self
  have hkind : paidBurn.kind = .ok (.burn ⟨⟨12⟩⟩) := Transaction.kind_ofKind _ _ rfl
  have hops := operations_eq hkind (Address.ofPublicKey paidBurnKey) none
  have hparse : parse "chain" true (Base64.encode raw) = .ok _ :=
    parse_signed_encode_eq_ok_iff.mpr ⟨_, _, _, openTransaction_signedPaidBurn, hops, rfl⟩
  have hparsed : Succeeds ((Gateway.online node).constructionParse
      ⟨network, true, Base64.encode raw⟩) 0 _ 0 :=
    succeeds_constructionParse_iff.mpr ⟨"chain", hnetwork, hparse⟩
  obtain ⟨found, hfound, hsucceeds⟩ := (hshows name).succeeds_iff hmem
  cases hfirst.symm.trans hfound
  have hshown := (hsucceeds _).mpr ⟨_, hparsed, rfl⟩
  rw [hname] at hshown
  exact ⟨hlisted none, hshows, _, hparsed, nofun, hshown⟩

end StakingGateway
