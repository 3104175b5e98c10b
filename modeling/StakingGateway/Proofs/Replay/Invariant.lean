import StakingGateway.Proofs.Operation.Numbering
import StakingGateway.Proofs.Replay.Run

/-!
# What every run keeps

After any calls, refused or not, a replay is consistent: its index is right and the operations of
every transaction are numbered by their places.  Three writers work on the same lists, for events,
fees and bodies, and each goes on where the list ends.  The main statement is
`consistent_afterCalls`, which also says that a call only adds to what was there before.
-/

namespace StakingGateway

open Api (Operation)

/-! ## Numbers -/

theorem numberedFrom_effects (index : Nat) (changes : List Change) :
    NumberedFrom index (effects index changes) := by
  induction changes generalizing index with
  | nil => exact .nil index
  | cons change rest ih =>
      obtain ⟨kind, account, amount⟩ := change
      refine .cons ?_ ?_ (ih (index + 1))
      · unfold effect
        split <;> rfl
      · unfold effect
        split
        next => exact fun _ hmem => nomatch hmem
        next hpositive =>
          intro related hmem
          rw [List.mem_singleton.mp hmem]
          exact ⟨index - 1, by omega, rfl⟩

namespace Replay

/-! ## Consistency -/

def Numbered (replay : Replay) : Prop :=
  ∀ tx ∈ replay.transactions, NumberedFrom 0 tx.operations

theorem numbered_empty : Replay.empty.Numbered := by
  intro tx htx
  exact absurd htx List.not_mem_nil

/-- The transactions have different identifiers, the index tells the places of their hashes and of
no others, and operations have the numbers of their places and relate only to operations before
them.  Numbers are 64 bits wide: if they do not run out, `checkIndices` accepts the operations. -/
structure Consistent (replay : Replay) : Prop where
  nodup : (replay.transactions.map (·.transactionIdentifier)).Nodup
  hashed : ∀ tx ∈ replay.transactions, ∃ hash : Hash, tx.transactionIdentifier = ⟨hash.text⟩
  place?_iff : ∀ hash place, replay.place? hash = some place ↔
    ∃ tx, replay.transactions[place]? = some tx ∧ tx.transactionIdentifier = ⟨hash.text⟩
  numbered : ∀ tx ∈ replay.transactions, ∀ (place : Nat) (op : Operation),
    tx.operations[place]? = some op →
      op.operationIdentifier.index = Int64.ofNat place ∧
        ∀ related ∈ op.relatedOperations.getD [],
          ∃ earlier < place, related.index = Int64.ofNat earlier
  accepted : ∀ tx ∈ replay.transactions, tx.operations.length ≤ 2 ^ 63 →
    checkIndices 0 tx.operations = .ok ()

theorem consistent_of_keyed {replay : Replay} {hashes : List Hash} (h : replay.Keyed hashes)
    (hnumbered : replay.Numbered) : replay.Consistent where
  nodup := h.nodup_identifiers
  hashed := fun _ htx => h.exists_hash htx
  place?_iff := fun _ _ => h.place?_eq_some_iff
  numbered := by
    intro tx htx place op hop
    have hplace := (hnumbered tx htx).at_place hop
    rwa [Nat.zero_add] at hplace
  accepted := by
    intro tx htx hroom
    exact (hnumbered tx htx).checkIndices_eq_ok (by rwa [Nat.zero_add])

/-! ## Steps and runs -/

variable [Suite]

theorem numberedFrom_owedFee (tx : Transaction) (signer : Address) (state : OperationState)
    (ops : List Operation) : NumberedFrom ops.length (owedFee tx signer state ops) := by
  unfold owedFee
  split
  next => exact .nil _
  next =>
    cases tx.fee with
    | none => exact .nil _
    | some fee => exact numberedFrom_fee fee ops.length signer _

theorem numberedFrom_intent (tx : Transaction) (signer : Address)
    (result : Option TransactionResult) (ops : List Operation) :
    NumberedFrom ops.length (intent tx signer result ops) := by
  unfold intent
  split
  next => exact (numberedFrom_owedFee tx signer _ ops).append (numberedFrom_kind _ _ signer _)
  next => exact .nil _

theorem numberedFrom_step_intent (chain : String) (step : Step) (ops : List Operation) :
    NumberedFrom ops.length (step.intent chain ops) := by
  cases step with
  | transaction raw result =>
      cases hopen : openTransaction chain raw with
      | error reason =>
          simp only [Step.intent, hopen]
          exact .nil _
      | ok opened =>
          simp only [Step.intent, hopen]
          exact numberedFrom_intent opened.2 opened.1 result ops
  | block hash events => exact .nil _

theorem numberedFrom_appended (chain : String) (step : Step) (ops : List Operation) :
    NumberedFrom ops.length (step.appended chain ops) := by
  refine (numberedFrom_effects ops.length _).append ?_
  rw [← List.length_append]
  exact numberedFrom_step_intent chain step _

theorem Numbered.step {replay : Replay} {hashes : List Hash} (h : replay.Numbered)
    (hkeyed : replay.Keyed hashes) (chain : String) (step : Step) :
    (step.run chain replay).Numbered := by
  cases hlists : step.lists chain with
  | false =>
      rw [Step.run_of_not_lists hlists]
      exact h
  | true =>
      rw [Step.run_of_lists hlists hkeyed]
      intro tx htx
      rcases mem_transactions_put htx with hold | hnew
      · exact h tx hold
      · rw [hnew]
        have happended := numberedFrom_appended chain step (replay.operations step.key)
        refine NumberedFrom.append ?_ (by rwa [Nat.zero_add])
        rcases replay.operations_eq_nil_or_mem step.key with hnil | ⟨old, hold, heq⟩
        · rw [hnil]
          exact .nil 0
        · rw [heq]
          exact h old hold

theorem Numbered.run {replay : Replay} {hashes : List Hash} (h : replay.Numbered)
    (hkeyed : replay.Keyed hashes) (chain : String) (steps : List Step) :
    (run chain steps replay).Numbered := by
  induction steps generalizing replay hashes with
  | nil => exact h
  | cons first rest ih => exact ih (h.step hkeyed chain first) (hkeyed.step chain first)

/-- After every call, whether it is refused or not, the replay is consistent and extends what it
was before the call. -/
theorem consistent_afterCalls (chain : String) (calls : List Call) (call : Call) :
    (afterCalls chain (calls ++ [call])).Consistent ∧
      (afterCalls chain calls).ExtendedBy (afterCalls chain (calls ++ [call])) := by
  constructor
  · have hnumbered : (afterCalls chain (calls ++ [call])).Numbered := by
      rw [afterCalls_eq]
      exact numbered_empty.run keyed_empty chain _
    exact consistent_of_keyed (keyed_afterCalls chain _) hnumbered
  · have hcall : afterCalls chain (calls ++ [call])
        = run chain call.steps (afterCalls chain calls) := by
      rw [← Call.run_eq, afterCalls, afterCalls, List.foldl_append]
      rfl
    rw [hcall]
    exact extendedBy_run (keyed_afterCalls chain calls) chain call.steps

end Replay

end StakingGateway
