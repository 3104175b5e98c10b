import StakingGateway.Proofs.Replay.Contents
import StakingGateway.Proofs.Replay.Index

/-!
# Runs of a replay

A run lists transactions and events of blocks one after another.  Every step has a key: the hash of
its transaction, or of its block.  What a step can do is said once, by `Step.run_of_lists` and
`Step.run_of_not_lists`: it appends to the operations under its key, or it does nothing at all, and
which of the two does not hang on the replay.
-/

namespace StakingGateway

open Api (Operation)

namespace Replay

/-- What is listed by a step: a transaction with its result, or the events of a block. -/
inductive Step
  | transaction (raw : List UInt8) (result : Option TransactionResult)
  | block (hash : Hash) (events : List Staking.Event)

/-- What a replay is asked to list: a step, or the transactions of a block with their results. -/
inductive Call
  | transaction (raw : List UInt8) (result : Option TransactionResult)
  | transactions (raws : List (List UInt8)) (results : List TransactionResult)
  | block (hash : Hash) (events : List Staking.Event)

def paired (raws : List (List UInt8)) (results : List TransactionResult) : List Step :=
  raws.mapIdx fun place raw => .transaction raw results[place]?

theorem paired_cons (raw : List UInt8) (raws : List (List UInt8))
    (results : List TransactionResult) :
    paired (raw :: raws) results = .transaction raw results.head? :: paired raws results.tail := by
  simp [paired, List.mapIdx_cons, List.head?_eq_getElem?]

variable [Suite] {replay : Replay} {hashes : List Hash}

namespace Step

def key : Step → Hash
  | .transaction raw _ => Hash.digest raw
  | .block hash _ => hash

def run (chain : String) (replay : Replay) : Step → Replay
  | .transaction raw result => (replay.addTransaction chain raw result).1
  | .block hash events => replay.addBlockEvents hash events

def lists (chain : String) : Step → Bool
  | .transaction raw _ => (openTransaction chain raw).isOk
  | .block _ events => events.any (·.txHash.isEmpty)

def events (chain : String) : Step → List Staking.Event
  | .transaction raw result =>
    if (openTransaction chain raw).isOk then result.elim [] TransactionResult.stakingEvents else []
  | .block _ events => events.filter (·.txHash.isEmpty)

def intent (chain : String) (step : Step) (ops : List Operation) : List Operation :=
  match step with
  | .transaction raw result =>
    match openTransaction chain raw with
    | .ok (signer, tx) => Replay.intent tx signer result ops
    | .error _ => []
  | .block _ _ => []

/-- What a step appends to operations: the effects of its events, and behind them what was meant to
be done. -/
def appended (chain : String) (step : Step) (ops : List Operation) : List Operation :=
  let effected := effects ops.length ((step.events chain).flatMap fun event => event.changes)
  effected ++ step.intent chain (ops ++ effected)

end Step

def run (chain : String) (steps : List Step) (replay : Replay) : Replay :=
  steps.foldl (Step.run chain) replay

namespace Call

def run (chain : String) (replay : Replay) : Call → Replay
  | .transaction raw result => (replay.addTransaction chain raw result).1
  | .transactions raws results => (replay.addTransactions chain raws results).1
  | .block hash events => replay.addBlockEvents hash events

def steps : Call → List Step
  | .transaction raw result => [.transaction raw result]
  | .transactions raws results => paired raws results
  | .block hash events => [.block hash events]

end Call

def afterCalls (chain : String) (calls : List Call) : Replay :=
  calls.foldl (Call.run chain) .empty

/-! ## One step -/

theorem addTransaction_of_error {chain : String} {raw : List UInt8} {reason : ReplayError}
    (hopen : openTransaction chain raw = .error reason) (result : Option TransactionResult)
    (replay : Replay) : replay.addTransaction chain raw result = (replay, .error reason) := by
  simp only [addTransaction, hopen]

theorem addTransaction_of_ok {chain : String} {raw : List UInt8} {signer : Address}
    {tx : Transaction} (hopen : openTransaction chain raw = .ok (signer, tx))
    (result : Option TransactionResult) (replay : Replay) :
    replay.addTransaction chain raw result
      = (replay.put (Hash.digest raw)
          (transactionOperations tx signer result (replay.operations (Hash.digest raw))).1,
        (transactionOperations tx signer result (replay.operations (Hash.digest raw))).2) := by
  simp only [addTransaction, hopen]

/-- Events of a block that are listed one by one are listed as if at once. -/
theorem foldl_addBlockEvent (h : replay.Keyed hashes) (block : Hash) (event : Staking.Event)
    (events : List Staking.Event) :
    (event :: events).foldl (addBlockEvent block) replay
      = replay.put block (appendEvents (event :: events) (replay.operations block)) := by
  induction events generalizing replay hashes event with
  | nil => rfl
  | cons next rest ih =>
      rw [List.foldl_cons, addBlockEvent, ih (h.put ..), h.operations_put_self, put_put,
        ← appendEvents_append]
      rfl

theorem addBlockEvents_of_any (h : replay.Keyed hashes) (block : Hash)
    {events : List Staking.Event} (hany : events.any (·.txHash.isEmpty)) :
    replay.addBlockEvents block events = replay.put block
      (appendEvents (events.filter (·.txHash.isEmpty)) (replay.operations block)) := by
  rw [addBlockEvents]
  cases howned : events.filter (·.txHash.isEmpty) with
  | nil =>
      rw [List.filter_eq_nil_iff] at howned
      obtain ⟨event, hmem, hempty⟩ := List.any_eq_true.mp hany
      exact (howned event hmem hempty).elim
  | cons event rest => exact foldl_addBlockEvent h block event rest

theorem addBlockEvents_of_not_any (replay : Replay) (block : Hash) {events : List Staking.Event}
    (hany : events.any (·.txHash.isEmpty) = false) :
    replay.addBlockEvents block events = replay := by
  have hnone : events.filter (·.txHash.isEmpty) = [] := by
    rw [List.filter_eq_nil_iff]
    intro event hmem hempty
    rw [List.any_eq_false] at hany
    exact hany event hmem hempty
  rw [addBlockEvents, hnone, List.foldl_nil]

namespace Step

theorem run_of_lists {chain : String} {step : Step} (hlists : step.lists chain = true)
    (h : replay.Keyed hashes) :
    step.run chain replay = replay.put step.key
      (replay.operations step.key ++ step.appended chain (replay.operations step.key)) := by
  cases step with
  | transaction raw result =>
      cases hopen : openTransaction chain raw with
      | error reason =>
          simp [lists, hopen, Except.isOk, Except.toBool] at hlists
      | ok opened =>
          have hevents : events chain (.transaction raw result)
              = result.elim [] TransactionResult.stakingEvents := if_pos hlists
          simp only [run, key, addTransaction_of_ok hopen, transactionOperations_fst,
            appendEvents_eq, appended, hevents, intent, hopen, List.append_assoc]
  | block hash events =>
      simp only [appended, intent, List.append_nil]
      rw [← appendEvents_eq]
      exact addBlockEvents_of_any h hash hlists

theorem run_of_not_lists {chain : String} {step : Step} (hlists : step.lists chain = false)
    (replay : Replay) : step.run chain replay = replay := by
  cases step with
  | transaction raw result =>
      cases hopen : openTransaction chain raw with
      | error reason => simp only [run, addTransaction_of_error hopen]
      | ok opened => simp [lists, hopen, Except.isOk, Except.toBool] at hlists
  | block hash events => exact addBlockEvents_of_not_any replay hash hlists

end Step

/-! ## Runs -/

theorem run_append (chain : String) (steps rest : List Step) (replay : Replay) :
    run chain (steps ++ rest) replay = run chain rest (run chain steps replay) :=
  List.foldl_append

def noted (chain : String) (steps : List Step) (hashes : List Hash) : List Hash :=
  ((steps.filter (·.lists chain)).map Step.key).foldl note hashes

theorem Keyed.step (h : replay.Keyed hashes) (chain : String) (step : Step) :
    (step.run chain replay).Keyed (noted chain [step] hashes) := by
  cases hlists : step.lists chain with
  | false =>
      rw [Step.run_of_not_lists hlists]
      simpa [noted, hlists] using h
  | true =>
      rw [Step.run_of_lists hlists h]
      simpa [noted, hlists] using h.put step.key _

theorem Keyed.run (h : replay.Keyed hashes) (chain : String) (steps : List Step) :
    (run chain steps replay).Keyed (noted chain steps hashes) := by
  induction steps generalizing replay hashes with
  | nil => exact h
  | cons first rest ih =>
      have hrest := ih (h.step chain first)
      have hnoted : noted chain (first :: rest) hashes
          = noted chain rest (noted chain [first] hashes) := by
        rw [noted, noted, noted, ← List.singleton_append, List.filter_append, List.map_append,
          List.foldl_append]
      rw [hnoted]
      exact hrest

theorem extendedBy_step (h : replay.Keyed hashes) (chain : String) (step : Step) :
    replay.ExtendedBy (step.run chain replay) := by
  cases hlists : step.lists chain with
  | false =>
      rw [Step.run_of_not_lists hlists]
      exact .refl replay
  | true =>
      rw [Step.run_of_lists hlists h]
      exact extendedBy_put replay step.key _

theorem extendedBy_run (h : replay.Keyed hashes) (chain : String) (steps : List Step) :
    replay.ExtendedBy (run chain steps replay) := by
  induction steps generalizing replay hashes with
  | nil => exact .refl replay
  | cons first rest ih => exact (extendedBy_step h chain first).trans (ih (h.step chain first))

/-! ## Calls -/

theorem addTransactionsFrom_cons_fst (chain : String) (index : Nat) (raw : List UInt8)
    (raws : List (List UInt8)) (results : List TransactionResult) (replay : Replay) :
    (addTransactionsFrom chain index (raw :: raws) results replay).1
      = (addTransactionsFrom chain (index + 1) raws results.tail
          (replay.addTransaction chain raw results.head?).1).1 := by
  simp only [addTransactionsFrom]
  cases (replay.addTransaction chain raw results.head?).2 <;> rfl

/-- The transactions of a block are listed one after another, each with the result at its place. -/
theorem addTransactionsFrom_fst (chain : String) (index : Nat) (raws : List (List UInt8))
    (results : List TransactionResult) (replay : Replay) :
    (addTransactionsFrom chain index raws results replay).1
      = run chain (paired raws results) replay := by
  induction raws generalizing index results replay with
  | nil => rfl
  | cons raw rest ih =>
      rw [addTransactionsFrom_cons_fst, paired_cons, run, List.foldl_cons]
      exact ih ..

theorem Call.run_eq (chain : String) (replay : Replay) (call : Call) :
    call.run chain replay = Replay.run chain call.steps replay := by
  cases call with
  | transaction raw result => rfl
  | transactions raws results => exact addTransactionsFrom_fst chain 0 raws results replay
  | block hash events => rfl

theorem afterCalls_eq (chain : String) (calls : List Call) :
    afterCalls chain calls = run chain (calls.flatMap Call.steps) .empty := by
  have general : ∀ replay : Replay,
      calls.foldl (Call.run chain) replay = run chain (calls.flatMap Call.steps) replay := by
    induction calls with
    | nil => exact fun _ => rfl
    | cons call rest ih =>
        intro replay
        rw [List.foldl_cons, ih, List.flatMap_cons, run_append, Call.run_eq]
  exact general .empty

theorem keyed_afterCalls (chain : String) (calls : List Call) :
    (afterCalls chain calls).Keyed (noted chain (calls.flatMap Call.steps) []) := by
  rw [afterCalls_eq]
  exact keyed_empty.run chain _

end Replay

end StakingGateway
