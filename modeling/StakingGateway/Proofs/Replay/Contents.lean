import StakingGateway.Operation.Replay
import StakingGateway.Proofs.Outcome

/-!
# What is listed under a hash

Whatever is listed under a hash is appended to what stands there.  `effects` are the operations of
changes that took effect (`appendEvents_eq`), and `intent` is what a transaction was meant to do and
did not.  The main statements are `transactionOperations_fst` and `transactionOperations_snd`: the
operations of a transaction are its effects and behind them its intent, and whether it is refused
hangs on its body and its result alone.
-/

namespace StakingGateway

open Api (Operation)

/-- The operations of changes that took effect, numbered from `index`. -/
def effects (index : Nat) : List Change → List Operation
  | [] => []
  | (kind, account, amount) :: rest => effect index kind account amount :: effects (index + 1) rest

theorem appendChanges_eq (changes : List Change) (ops : List Operation) :
    appendChanges changes ops = ops ++ effects ops.length changes := by
  induction changes generalizing ops with
  | nil => exact (List.append_nil ops).symm
  | cons change rest ih =>
      obtain ⟨kind, account, amount⟩ := change
      have hstep := ih (ops ++ [effect ops.length kind account amount])
      rw [List.length_append, List.length_singleton, List.append_assoc] at hstep
      exact hstep

theorem status_of_mem_effects {index : Nat} {changes : List Change} {op : Operation}
    (h : op ∈ effects index changes) : op.status = some OperationState.ok.name := by
  induction changes generalizing index with
  | nil => cases h
  | cons change rest ih =>
      rcases List.mem_cons.mp h with rfl | h
      · unfold effect
        split <;> rfl
      · exact ih h

section

variable [Suite]

theorem appendEvents_eq (events : List Staking.Event) (ops : List Operation) :
    appendEvents events ops = ops ++ effects ops.length (events.flatMap fun e => e.changes) :=
  appendChanges_eq _ ops

theorem appendEvents_append (events rest : List Staking.Event) (ops : List Operation) :
    appendEvents (events ++ rest) ops = appendEvents rest (appendEvents events ops) := by
  rw [appendEvents, appendEvents, appendEvents, List.flatMap_append, appendChanges,
    List.foldl_append]
  rfl

theorem status_of_mem_feeOperations {fee : Fee} {index : Nat} {signer : Address}
    {status : Option String} {op : Operation} (h : op ∈ fee.operations index signer status) :
    op.status = status := by
  unfold Fee.operations at h
  split at h
  next => cases h
  next =>
    simp only [List.mem_cons, List.not_mem_nil, or_false] at h
    rcases h with rfl | rfl <;> rfl

end

theorem status_of_mem_kindOperations {kind : TransactionKind} {index : Nat} {signer : Address}
    {status : Option String} {op : Operation} (h : op ∈ kind.operations index signer status) :
    op.status = status := by
  cases kind with
  | transfer body =>
      simp only [TransactionKind.operations, moveOperations, List.mem_cons, List.not_mem_nil,
        or_false] at h
      rcases h with rfl | rfl <;> rfl
  | burn body =>
      rw [List.mem_singleton.mp h]
      rfl
  | addEscrow body =>
      simp only [TransactionKind.operations, moveOperations, List.mem_cons, List.not_mem_nil,
        or_false] at h
      rcases h with rfl | rfl <;> rfl
  | reclaimEscrow body =>
      simp only [TransactionKind.operations, List.mem_cons, List.not_mem_nil, or_false] at h
      rcases h with rfl | rfl <;> rfl
  | unknown method => cases h

namespace Replay

variable [Suite]

/-- The fee of a transaction as it is listed behind operations: not at all, if they begin with a
fee pair. -/
def owedFee (tx : Transaction) (signer : Address) (state : OperationState)
    (ops : List Operation) : List Operation :=
  if hasFee ops then []
  else tx.fee.elim [] fun fee => fee.operations ops.length signer (some state.name)

/-- What a transaction was meant to do, as it is listed behind operations: nothing, if it did it
or if its body cannot be read. -/
def intent (tx : Transaction) (signer : Address) (result : Option TransactionResult)
    (ops : List Operation) : List Operation :=
  match intendedState result, tx.kind with
  | some state, .ok kind =>
    owedFee tx signer state ops
      ++ kind.operations (ops.length + (owedFee tx signer state ops).length) signer
        (some state.name)
  | _, _ => []

theorem status_of_mem_owedFee {tx : Transaction} {signer : Address} {state : OperationState}
    {ops : List Operation} {op : Operation} (h : op ∈ owedFee tx signer state ops) :
    op.status = some state.name := by
  unfold owedFee at h
  split at h
  next => cases h
  next =>
    cases hfee : tx.fee with
    | none =>
        rw [hfee] at h
        cases h
    | some fee =>
        rw [hfee] at h
        exact status_of_mem_feeOperations h

theorem status_of_mem_intent {tx : Transaction} {signer : Address}
    {result : Option TransactionResult} {ops : List Operation} {op : Operation}
    (h : op ∈ intent tx signer result ops) :
    ∃ state, intendedState result = some state ∧ op.status = some state.name := by
  unfold intent at h
  split at h
  next state kind hstate hkind =>
    refine ⟨state, hstate, ?_⟩
    rcases List.mem_append.mp h with hfee | hbody
    · exact status_of_mem_owedFee hfee
    · exact status_of_mem_kindOperations hbody
  next => cases h

theorem appendIntent_eq (tx : Transaction) (signer : Address) (state : OperationState)
    (ops : List Operation) :
    appendIntent tx signer state ops = tx.kind.map fun kind =>
      ops ++ (owedFee tx signer state ops
        ++ kind.operations (ops.length + (owedFee tx signer state ops).length) signer
          (some state.name)) := by
  have hpaid : (if hasFee ops then ops else tx.emitFee signer (some state.name) ops)
      = ops ++ owedFee tx signer state ops := by
    unfold owedFee Transaction.emitFee
    cases hasFee ops <;> cases tx.fee <;> simp
  rw [appendIntent, hpaid, Transaction.emitBody]
  simp only [List.append_assoc, List.length_append]

/-- The operations of a transaction: those that stand there, what it did, what it was meant to
do. -/
theorem transactionOperations_fst (tx : Transaction) (signer : Address)
    (result : Option TransactionResult) (ops : List Operation) :
    (transactionOperations tx signer result ops).1
      = let done := appendEvents (result.elim [] TransactionResult.stakingEvents) ops
        done ++ intent tx signer result done := by
  unfold transactionOperations intent
  cases hstate : intendedState result with
  | none => simp
  | some state =>
      simp only [appendIntent_eq]
      cases hkind : tx.kind with
      | error reason => simp [Except.map]
      | ok kind => simp [Except.map]

/-- A transaction is refused if what it was meant to do is to be listed and cannot be read. -/
theorem transactionOperations_snd (tx : Transaction) (signer : Address)
    (result : Option TransactionResult) (ops : List Operation) :
    (transactionOperations tx signer result ops).2
      = match intendedState result, tx.kind with
        | some _, .error reason => .error (.badTransaction reason)
        | _, _ => .ok () := by
  unfold transactionOperations
  cases hstate : intendedState result with
  | none => rfl
  | some state =>
      simp only [appendIntent_eq]
      cases hkind : tx.kind with
      | error reason => rfl
      | ok kind => rfl

end Replay

end StakingGateway
