import StakingGateway.Proofs.Operation.Grammar
import StakingGateway.Proofs.Operation.RoundTrip
import StakingGateway.Proofs.Replay.Rows
import StakingGateway.Proofs.Replay.Run

/-!
# What becomes of one transaction

Listing a transaction ends in one of five ways, and each keeps a part of the state of its own:
nothing changes if the transaction does not open; its effects stay if it succeeded, whatever its
body; they stay alone if the body cannot be read; and else its fee and its body follow them.  The
main statement is `addTransaction_outcome`, for every state that a replay can be in.
-/

namespace StakingGateway

open Api (Operation)

namespace Replay

/-- Two replays differ in the operations under one hash.  If the hash is new, it comes last. -/
structure Revises (before : Replay) (hash : Hash) (ops : List Operation) (after : Replay) :
    Prop where
  operations?_self : after.operations? hash = some ops
  operations?_of_ne : ∀ other ≠ hash, after.operations? other = before.operations? other
  identifiers_eq : after.transactions.map (·.transactionIdentifier)
    = before.transactions.map (·.transactionIdentifier)
      ++ if (before.operations? hash).isSome then [] else [⟨hash.text⟩]

theorem Keyed.isSome_operations?_iff {replay : Replay} {hashes : List Hash}
    (h : replay.Keyed hashes) (hash : Hash) :
    (replay.operations? hash).isSome = true ↔ hash ∈ hashes := by
  cases hplace : replay.place? hash with
  | none => simp [operations?, hplace, h.not_mem_of_place_none hplace]
  | some place => simp [operations?, hplace, h.place_lt hplace, h.mem_of_place hplace]

theorem Keyed.revises_put {replay : Replay} {hashes : List Hash} (h : replay.Keyed hashes)
    (hash : Hash) (ops : List Operation) : replay.Revises hash ops (replay.put hash ops) where
  operations?_self := by rw [h.operations?_put, if_pos rfl]
  operations?_of_ne := by
    intro other hother
    rw [h.operations?_put, if_neg hother]
  identifiers_eq := by
    rw [(h.put hash ops).identifiers_eq, h.identifiers_eq, note]
    simp only [h.isSome_operations?_iff]
    split
    next => exact (List.append_nil _).symm
    next => exact List.map_append

theorem isSuccess_iff {result : TransactionResult} :
    result.isSuccess = true ↔ result.error.code = 0 :=
  decide_eq_true_iff

theorem mem_knownMethods_of_kind {tx : Transaction} {reason : TransactionError}
    (h : tx.kind = .error reason) : tx.method ∈ Transaction.knownMethods := by
  by_contra hunknown
  have hkind : tx.kind = .ok (.unknown tx.method) :=
    Transaction.kind_eq_ok_iff.mpr ⟨rfl, hunknown⟩
  rw [h] at hkind
  cases hkind

variable [Suite]

/-- What is listed of the fee of a transaction behind operations: the fee pair, if there is a fee
to pay and the operations do not begin with a fee pair. -/
structure Owes (tx : Transaction) (signer : Address) (status : String)
    (done paid : List Operation) : Prop where
  ne_nil_iff : paid ≠ [] ↔ ¬ BeginsWithFee done ∧ ∃ fee ∈ tx.fee, fee.amount.units ≠ 0
  eq_operations : paid ≠ [] →
    ∃ fee ∈ tx.fee, paid = operationsOfRows (some status) none done.length (fee.rows signer)

theorem owes_nil {tx : Transaction} {signer : Address} {status : String} {done : List Operation}
    (h : ¬ BeginsWithFee done → ∀ fee ∈ tx.fee, fee.amount.isZero = true) :
    Owes tx signer status done [] := by
  refine ⟨⟨fun hne => absurd rfl hne, ?_⟩, fun hne => absurd rfl hne⟩
  rintro ⟨hbegins, fee, hfee, hunits⟩
  exact absurd ((Quantity.isZero_iff _).mp (h hbegins fee hfee)) hunits

theorem owes_owedFee (tx : Transaction) (signer : Address) (state : OperationState)
    (done : List Operation) : Owes tx signer state.name done (owedFee tx signer state done) := by
  cases hfee : hasFee done with
  | true =>
      have hnil : owedFee tx signer state done = [] := if_pos hfee
      rw [hnil]
      exact owes_nil fun hbegins => absurd hfee (by simp [not_beginsWithFee_iff.mp hbegins])
  | false =>
      have hbegins := not_beginsWithFee_iff.mpr hfee
      have howed : owedFee tx signer state done
          = tx.fee.elim [] fun fee => fee.operations done.length signer (some state.name) :=
        if_neg (by simp [hfee])
      rw [howed]
      cases hgiven : tx.fee with
      | none => exact owes_nil fun _ fee hmem => by simp [hgiven] at hmem
      | some fee =>
          cases hzero : fee.amount.isZero with
          | true =>
              rw [Option.elim_some, Fee.operations_eq_nil hzero]
              exact owes_nil fun _ other hother => by simp_all
          | false =>
              have hunits : fee.amount.units ≠ 0 := by simp [← Quantity.isZero_iff, hzero]
              rw [Option.elim_some, feeOperations_eq_rows hzero]
              refine ⟨⟨fun _ => ⟨hbegins, fee, hgiven, hunits⟩, ?_⟩, ?_⟩
              · exact fun _ => List.cons_ne_nil _ _
              · exact fun _ => ⟨fee, hgiven, rfl⟩

theorem openTransaction_of_decode_error {raw : List UInt8} {reason : TransactionError}
    (hdecode : SignedTransaction.decode raw = .error reason) (chain : String) :
    openTransaction chain raw = .error (.malformed reason) := by
  rw [openTransaction, hdecode]
  rfl

theorem openTransaction_of_decode {raw : List UInt8} {signed : SignedTransaction}
    (hdecode : SignedTransaction.decode raw = .ok signed) (chain : String) :
    openTransaction chain raw = (signed.openFor chain).mapError .badSignature := by
  rw [openTransaction, hdecode]
  rfl

theorem appendEvents_eq_rows (events : List Staking.Event) (ops : List Operation) :
    appendEvents events ops = ops ++ operationsOfRows (some "OK") (before? ops.length) ops.length
      (events.flatMap Staking.Event.rows) := by
  rw [appendEvents_eq, effects_eq_rows (fits_events events)]

/-- Listing a transaction, in every case.  What is no signed transaction, or does not open for the
chain, is refused and changes nothing.  Otherwise only the operations under its hash change: the
rows of its events follow what stands there, and if it did not succeed, the rows of its fee and of
its body follow them, unless the body cannot be read; then the transaction is refused. -/
theorem addTransaction_outcome (chain : String) (calls : List Call) (raw : List UInt8)
    (result : Option TransactionResult) :
    let replay := afterCalls chain calls
    let hash := Hash.digest raw
    let listed := replay.operations hash
    let events := result.elim [] fun result => result.events.filterMap (·.staking)
    let effected := operationsOfRows (some "OK") (before? listed.length) listed.length
      (events.flatMap Staking.Event.rows)
    let done := listed ++ effected
    (∀ reason, SignedTransaction.decode raw = .error reason →
      replay.addTransaction chain raw result = (replay, .error (.malformed reason))) ∧
    (∀ signed reason, SignedTransaction.decode raw = .ok signed →
      signed.openFor chain = .error reason →
      replay.addTransaction chain raw result = (replay, .error (.badSignature reason))) ∧
    (∀ op ∈ effected, op.status = some "OK") ∧
    ∀ signed signer tx, SignedTransaction.decode raw = .ok signed →
      signed.openFor chain = .ok (signer, tx) →
      (∀ success, result = some success → success.error.code = 0 →
        ∃ after, replay.addTransaction chain raw result = (after, .ok ()) ∧
          replay.Revises hash done after) ∧
      ∀ status, (result = none ∧ status = "OK" ∨
          ∃ failure, result = some failure ∧ failure.error.code ≠ 0 ∧ status = "Failed") →
        (∀ reason, tx.kind = .error reason →
          tx.method ∈ Transaction.knownMethods ∧
          ∃ after, replay.addTransaction chain raw result
              = (after, .error (.badTransaction reason)) ∧
            replay.Revises hash done after) ∧
        ∀ kind, tx.kind = .ok kind →
          ∃ after paid body, replay.addTransaction chain raw result = (after, .ok ()) ∧
            replay.Revises hash (done ++ paid ++ body) after ∧
            Owes tx signer status done paid ∧
            body = operationsOfRows (some status) none (done.length + paid.length)
              (kind.rows signer) ∧
            ∀ op ∈ paid ++ body, op.status = some status := by
  intro replay hash listed events effected done
  have hkeyed := keyed_afterCalls chain calls
  refine ⟨?_, ?_, fun op => status_of_mem_operationsOfRows, ?_⟩
  · intro reason hdecode
    exact addTransaction_of_error (openTransaction_of_decode_error hdecode chain) result replay
  · intro signed reason hdecode hopen
    refine addTransaction_of_error ?_ result replay
    rw [openTransaction_of_decode hdecode, hopen]
    rfl
  · intro signed signer tx hdecode hopen
    have hopened : openTransaction chain raw = .ok (signer, tx) := by
      rw [openTransaction_of_decode hdecode, hopen]
      rfl
    have hadd := addTransaction_of_ok hopened result replay
    rw [transactionOperations_fst, transactionOperations_snd, appendEvents_eq_rows] at hadd
    constructor
    · rintro success rfl hsuccess
      have hstate : intendedState (some success) = none := if_pos (isSuccess_iff.mpr hsuccess)
      simp only [hstate, intent, List.append_nil] at hadd
      exact ⟨_, hadd, hkeyed.revises_put hash done⟩
    · intro status hresult
      obtain ⟨state, hstate, rfl⟩ : ∃ state, intendedState result = some state ∧
          status = state.name := by
        rcases hresult with ⟨rfl, rfl⟩ | ⟨failure, rfl, hfailure, rfl⟩
        · exact ⟨.ok, rfl, rfl⟩
        · exact ⟨.failed, if_neg (mt isSuccess_iff.mp hfailure), rfl⟩
      constructor
      · intro reason hkind
        simp only [hstate, hkind, intent, List.append_nil] at hadd
        exact ⟨mem_knownMethods_of_kind hkind, _, hadd, hkeyed.revises_put hash done⟩
      · intro kind hkind
        simp only [hstate, hkind, intent] at hadd
        refine ⟨_, _, _, hadd, ?_, owes_owedFee tx signer state done,
          kindOperations_eq_rows kind _ signer _, ?_⟩
        · rw [List.append_assoc]
          exact hkeyed.revises_put hash _
        · intro op hop
          rcases List.mem_append.mp hop with hpaid | hbody
          · exact status_of_mem_owedFee hpaid
          · exact status_of_mem_kindOperations hbody

end Replay

end StakingGateway
