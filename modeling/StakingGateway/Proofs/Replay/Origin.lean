import StakingGateway.Proofs.Gateway.Signing
import StakingGateway.Proofs.Replay.Outcome

/-!
# Where operations come from

Every operation that a replay lists has a source: an event tells it, or it is made up from the fee
or the body of a transaction.  A step gives sources to all that it appends, and a run gives no others
(`Sourced.run`).

What is made up for a transaction is marked as failed if there is a result, and as done if there is
none.  The main statement is `origin_of_addTransactions`: with a result for every transaction of a
block, only what events tell is marked as done.  Without one the transaction counts as not executed
yet, and what it was meant to do is marked as done (`madeUp_of_missing_result`).
-/

namespace StakingGateway

open Api (Operation)

def Staking.Event.Tells [Suite] (event : Staking.Event) (place : Nat) (op : Operation) : Prop :=
  ∃ kind account amount, (kind, account, amount) ∈ event.changes ∧
    op = StakingGateway.effect place kind account amount

inductive Transaction.MakesUp [Suite] (tx : Transaction) (signer : Address)
    (state : OperationState) (op : Operation) : Prop
  | fee {fee : Fee} {index : Nat} (hfee : tx.fee = some fee)
      (hop : op ∈ fee.operations index signer (some state.name))
  | body {kind : TransactionKind} {index : Nat} (hkind : tx.kind = .ok kind)
      (hop : op ∈ kind.operations index signer (some state.name))

theorem getElem?_effects {index offset : Nat} {changes : List Change} {op : Operation}
    (h : (effects index changes)[offset]? = some op) :
    ∃ kind account amount, changes[offset]? = some (kind, account, amount) ∧
      op = effect (index + offset) kind account amount := by
  induction changes generalizing index offset with
  | nil => cases h
  | cons change rest ih =>
      obtain ⟨kind, account, amount⟩ := change
      cases offset with
      | zero =>
          cases h
          exact ⟨kind, account, amount, rfl, rfl⟩
      | succ offset =>
          obtain ⟨kind, account, amount, hchange, hop⟩ := ih h
          rw [Nat.add_assoc, Nat.add_comm 1] at hop
          exact ⟨kind, account, amount, hchange, hop⟩

section

variable [Suite]

theorem Staking.Event.Tells.status_eq {event : Staking.Event} {place : Nat} {op : Operation}
    (h : event.Tells place op) : op.status = some OperationState.ok.name := by
  obtain ⟨kind, account, amount, _, rfl⟩ := h
  unfold StakingGateway.effect
  split <;> rfl

theorem Transaction.MakesUp.status_eq {tx : Transaction} {signer : Address}
    {state : OperationState} {op : Operation} (h : tx.MakesUp signer state op) :
    op.status = some state.name := by
  cases h with
  | fee _ hop => exact status_of_mem_feeOperations hop
  | body _ hop => exact status_of_mem_kindOperations hop

end

namespace Replay

variable [Suite] {chain : String}

/-! ## Steps -/

inductive Step.Sources (chain : String) : Step → Nat → Operation → Prop
  | told {step : Step} {event : Staking.Event} {place : Nat} {op : Operation}
      (hevent : event ∈ step.events chain) (htells : event.Tells place op) :
      Step.Sources chain step place op
  | madeUp {raw : List UInt8} {result : Option TransactionResult} {signer : Address}
      {tx : Transaction} {state : OperationState} {place : Nat} {op : Operation}
      (hopen : openTransaction chain raw = .ok (signer, tx))
      (hstate : intendedState result = some state) (hmade : tx.MakesUp signer state op) :
      Step.Sources chain (.transaction raw result) place op

theorem makesUp_of_mem_intent {tx : Transaction} {signer : Address}
    {result : Option TransactionResult} {ops : List Operation} {op : Operation}
    (h : op ∈ intent tx signer result ops) :
    ∃ state, intendedState result = some state ∧ tx.MakesUp signer state op := by
  unfold intent at h
  split at h
  next state kind hstate hkind =>
    refine ⟨state, hstate, ?_⟩
    rcases List.mem_append.mp h with howed | hbody
    · unfold owedFee at howed
      split at howed
      next => cases howed
      next =>
        cases hfee : tx.fee with
        | none =>
            rw [hfee] at howed
            cases howed
        | some fee =>
            rw [hfee] at howed
            exact .fee hfee howed
    · exact .body hkind hbody
  next => cases h

theorem Step.sources_of_mem_intent {step : Step} {ops : List Operation} {op : Operation}
    (h : op ∈ step.intent chain ops) (place : Nat) : step.Sources chain place op := by
  cases step with
  | transaction raw result =>
      cases hopen : openTransaction chain raw with
      | error reason =>
          simp only [Step.intent, hopen] at h
          cases h
      | ok opened =>
          simp only [Step.intent, hopen] at h
          obtain ⟨state, hstate, hmade⟩ := makesUp_of_mem_intent h
          exact .madeUp hopen hstate hmade
  | block hash events => cases h

theorem Step.sources_of_appended {step : Step} {ops : List Operation} {offset : Nat}
    {op : Operation} (h : (step.appended chain ops)[offset]? = some op) :
    step.Sources chain (ops.length + offset) op := by
  unfold Step.appended at h
  rw [List.getElem?_append] at h
  split at h
  next =>
    obtain ⟨kind, account, amount, hchange, hop⟩ := getElem?_effects h
    obtain ⟨event, hevent, hmem⟩ := List.mem_flatMap.mp (List.mem_of_getElem? hchange)
    exact .told hevent ⟨kind, account, amount, hmem, hop⟩
  next => exact Step.sources_of_mem_intent (List.mem_of_getElem? h) _

/-! ## Runs -/

/-- All that is listed under a hash comes from steps with that key. -/
def Sourced (chain : String) (steps : List Step) (replay : Replay) : Prop :=
  ∀ (hash : Hash) (place : Nat) (op : Operation), (replay.operations hash)[place]? = some op →
    ∃ step ∈ steps, step.key = hash ∧ step.Sources chain place op

variable {replay : Replay} {hashes : List Hash} {steps : List Step}

theorem sourced_empty : Replay.empty.Sourced chain steps := by
  intro hash place op hop
  cases hop

theorem Sourced.step (h : replay.Sourced chain steps) (hkeyed : replay.Keyed hashes) {step : Step}
    (hstep : step ∈ steps) : (step.run chain replay).Sourced chain steps := by
  cases hlists : step.lists chain with
  | false =>
      rw [Step.run_of_not_lists hlists]
      exact h
  | true =>
      rw [Step.run_of_lists hlists hkeyed]
      intro hash place op hop
      by_cases hkey : hash = step.key
      · subst hkey
        rw [hkeyed.operations_put_self, List.getElem?_append] at hop
        split at hop
        next => exact h step.key place op hop
        next hnew =>
          have hsources := Step.sources_of_appended hop
          rw [Nat.add_sub_cancel' (Nat.le_of_not_lt hnew)] at hsources
          exact ⟨step, hstep, rfl, hsources⟩
      · rw [operations, hkeyed.operations?_put, if_neg hkey] at hop
        exact h hash place op hop

theorem Sourced.run (h : replay.Sourced chain steps) (hkeyed : replay.Keyed hashes)
    {more : List Step} (hmore : more ⊆ steps) : (run chain more replay).Sourced chain steps := by
  induction more generalizing replay hashes with
  | nil => exact h
  | cons first rest ih =>
      rw [List.cons_subset] at hmore
      exact ih (h.step hkeyed hmore.1) (hkeyed.step chain first) hmore.2

omit [Suite] in
/-- A listed transaction is named by a hash, and its operations are those under it. -/
theorem Keyed.exists_operations_eq (h : replay.Keyed hashes) {tx : Api.Transaction}
    (htx : tx ∈ replay.transactions) :
    ∃ hash : Hash, tx.transactionIdentifier = ⟨hash.text⟩ ∧
      replay.operations hash = tx.operations := by
  obtain ⟨hash, htext⟩ := h.exists_hash htx
  obtain ⟨place, hplace⟩ := List.mem_iff_getElem?.mp htx
  have hfound := h.place?_eq_some_iff.mpr ⟨tx, hplace, htext⟩
  exact ⟨hash, htext, operations_of_place hfound hplace⟩

/-! ## Blocks -/

/-- An event of the result at some position tells the operation, under the hash of the transaction
at that position, which opens on the chain. -/
def Told (chain : String) (raws : List (List UInt8)) (results : List TransactionResult)
    (tx : Api.Transaction) (place : Nat) (op : Operation) : Prop :=
  ∃ (position : Nat) (raw : List UInt8) (result : TransactionResult) (event : Staking.Event),
    raws[position]? = some raw ∧ (openTransaction chain raw).isOk ∧
    tx.transactionIdentifier = ⟨(Hash.digest raw).text⟩ ∧
    results[position]? = some result ∧ event ∈ result.stakingEvents ∧ event.Tells place op

/-- The operation is made up for the transaction at a position, under its hash. -/
def MadeUpAt (chain : String) (raws : List (List UInt8)) (tx : Api.Transaction) (op : Operation)
    (position : Nat) (state : OperationState) : Prop :=
  ∃ raw signer body, raws[position]? = some raw ∧ openTransaction chain raw = .ok (signer, body) ∧
    tx.transactionIdentifier = ⟨(Hash.digest raw).text⟩ ∧ body.MakesUp signer state op

theorem Step.mem_events_transaction_iff {raw : List UInt8} {result : Option TransactionResult}
    {event : Staking.Event} :
    event ∈ Step.events chain (.transaction raw result) ↔
      (openTransaction chain raw).isOk ∧ ∃ found ∈ result, event ∈ found.stakingEvents := by
  simp only [Step.events]
  split
  next hopens => cases result <;> simp [hopens]
  next hopens => simp [hopens]

omit [Suite] in
theorem mem_paired_iff {raws : List (List UInt8)} {results : List TransactionResult} {step : Step} :
    step ∈ paired raws results ↔
      ∃ (position : Nat) (raw : List UInt8), raws[position]? = some raw ∧
        .transaction raw results[position]? = step := by
  simp only [paired, List.mem_iff_getElem?, List.getElem?_mapIdx, Option.map_eq_some_iff]

omit [Suite] in
theorem eq_ok_iff_of_intendedState {result : Option TransactionResult} {state : OperationState}
    (h : intendedState result = some state) : state = .ok ↔ result = none := by
  cases result with
  | none =>
      cases h
      simp
  | some result =>
      simp only [intendedState] at h
      split at h
      next => cases h
      next =>
        cases h
        simp

/-- Where the operations of a block come from.  An operation is told by an event of the result at
the position of its transaction, and then it is marked as done, or it is made up for its
transaction, and then it is marked as done only if there is no result at that position. -/
theorem origin_of_mem (chain : String) (raws : List (List UInt8)) (results : List TransactionResult)
    {tx : Api.Transaction}
    (htx : tx ∈ (Replay.empty.addTransactions chain raws results).1.transactions) {place : Nat}
    {op : Operation} (hop : tx.operations[place]? = some op) :
    (Told chain raws results tx place op ∧ op.status = some OperationState.ok.name) ∨
      ∃ position state, MadeUpAt chain raws tx op position state ∧
        op.status = some state.name ∧ (state = .ok ↔ results[position]? = none) := by
  rw [addTransactions, addTransactionsFrom_fst] at htx
  have hkeyed := keyed_empty.run chain (paired raws results)
  obtain ⟨hash, htext, hops⟩ := hkeyed.exists_operations_eq htx
  rw [← hops] at hop
  have hsourced : (run chain (paired raws results) .empty).Sourced chain (paired raws results) :=
    sourced_empty.run keyed_empty (List.Subset.refl _)
  obtain ⟨step, hstep, rfl, hsources⟩ := hsourced hash place op hop
  obtain ⟨position, raw, hraw, rfl⟩ := mem_paired_iff.mp hstep
  cases hsources with
  | told hevent htells =>
      refine .inl ⟨?_, htells.status_eq⟩
      obtain ⟨hopens, result, hresult, hevent⟩ := Step.mem_events_transaction_iff.mp hevent
      exact ⟨position, raw, result, _, hraw, hopens, htext, hresult, hevent, htells⟩
  | madeUp hopen hstate hmade =>
      exact .inr ⟨position, _, ⟨raw, _, _, hraw, hopen, htext, hmade⟩, hmade.status_eq,
        eq_ok_iff_of_intendedState hstate⟩

/-- With a result for every transaction of a block, only what events tell is marked as done. -/
theorem origin_of_addTransactions (chain : String) (raws : List (List UInt8))
    (results : List TransactionResult) :
    let listed := (Replay.empty.addTransactions chain raws results).1.transactions
    (∀ tx ∈ listed, ∀ (place : Nat) (op : Operation), tx.operations[place]? = some op →
      (Told chain raws results tx place op ∧ op.status = some OperationState.ok.name) ∨
        ∃ position state, MadeUpAt chain raws tx op position state ∧
          op.status = some state.name ∧ (state = .ok ↔ results[position]? = none)) ∧
    (raws.length ≤ results.length →
      ∀ tx ∈ listed, ∀ (place : Nat) (op : Operation), tx.operations[place]? = some op →
        (Told chain raws results tx place op ∧ op.status = some OperationState.ok.name) ∨
          ∃ position, MadeUpAt chain raws tx op position .failed ∧
            op.status = some OperationState.failed.name) := by
  intro listed
  refine ⟨fun tx htx place op hop => origin_of_mem chain raws results htx hop, ?_⟩
  intro hlength tx htx place op hop
  refine (origin_of_mem chain raws results htx hop).imp id ?_
  rintro ⟨position, state, hmade, hstatus, hstate⟩
  obtain ⟨raw, _, _, hraw, _⟩ := id hmade
  have hresult : results[position]? ≠ none := by
    rw [ne_eq, List.getElem?_eq_none_iff, Nat.not_le]
    exact Nat.lt_of_lt_of_le (List.getElem?_eq_some_iff.mp hraw).1 hlength
  cases state with
  | ok => exact (hresult (hstate.mp rfl)).elim
  | failed => exact ⟨position, hmade, hstatus⟩

end Replay

def signedPaidBurn : SignedTransaction :=
  ⟨⟨paidBurnSignature, paidBurnKey⟩, paidBurn.encode⟩

theorem openTransaction_signedPaidBurn :
    let _ := paidBurnSuite
    Replay.openTransaction "chain" signedPaidBurn.encode
      = .ok (Address.ofPublicKey paidBurnKey, paidBurn) := by
  intro _
  have hdecode : Transaction.decode signedPaidBurn.blob = .ok paidBurn :=
    Transaction.decode_encode_ofKind paidBurn.nonce ⟨10000, ⟨7⟩⟩ (.burn ⟨⟨12⟩⟩)
  rw [Replay.openTransaction_of_decode signedPaidBurn.decode_encode,
    SignedTransaction.openFor_eq_ok rfl (if_pos ⟨rfl, rfl⟩) hdecode]
  rfl

/-- A transaction without a result is listed as done, though no event tells it. -/
theorem madeUp_of_missing_result :
    let _ := paidBurnSuite
    let raws := [signedPaidBurn.encode]
    ∃ tx ∈ (Replay.empty.addTransactions "chain" raws []).1.transactions,
      ∃ place op, tx.operations[place]? = some op ∧ op.status = some OperationState.ok.name ∧
        ¬ Replay.Told "chain" raws [] tx place op := by
  intro _ raws
  have hopen := openTransaction_signedPaidBurn
  have hkind : paidBurn.kind = .ok (.burn ⟨⟨12⟩⟩) := Transaction.kind_ofKind _ _ rfl
  have hlisted : (Replay.empty.addTransactions "chain" raws []).1
      = (Replay.empty.addTransaction "chain" signedPaidBurn.encode none).1 :=
    Replay.addTransactionsFrom_fst ..
  rw [hlisted, Replay.addTransaction_of_ok hopen, Replay.put_of_place_none rfl,
    Replay.transactionOperations_fst]
  refine ⟨_, List.mem_singleton_self _, ?_⟩
  simp only [Replay.intent, Replay.intendedState, hkind]
  refine ⟨2, _, rfl, rfl, ?_⟩
  rintro ⟨_, _, _, _, _, _, _, hresult, _⟩
  cases hresult

end StakingGateway
