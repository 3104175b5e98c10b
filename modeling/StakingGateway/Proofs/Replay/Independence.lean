import StakingGateway.Crypto.Standard
import StakingGateway.Proofs.Replay.Run

/-!
# Transactions do not influence each other

What stands under a hash after a run hangs only on the steps whose key is that hash: all other steps
may be left out, changed or moved (`operations?_run_filter`).  Nor does the replay decide whether a
transaction is refused, so the transactions of a block are refused one by one
(`mem_addTransactionsFrom_iff`).  The hashes stand in the order in which something was first listed
under them, which need not be the order in which their keys first occurred
(`order_of_empty_block`).
-/

namespace StakingGateway

open Api (Operation)

namespace Replay

/-- Hashes that are noted one after another stand in the order in which they first occur. -/
theorem foldl_note (keys hashes : List Hash) :
    keys.foldl note hashes = hashes ++ (keys.filter (· ∉ hashes)).eraseDups := by
  induction keys generalizing hashes with
  | nil => simp
  | cons key rest ih =>
      rw [List.foldl_cons, ih, note]
      by_cases hmem : key ∈ hashes
      · rw [if_pos hmem, List.filter_cons_of_neg (by simpa using hmem)]
      · rw [if_neg hmem, List.filter_cons_of_pos (by simpa using hmem), List.eraseDups_cons,
          List.filter_filter, List.append_assoc, List.singleton_append]
        congr 3
        refine List.filter_congr fun other _ => ?_
        by_cases hother : other = key <;> simp [hother]

/-- How a transaction at a place is named: not at all, if it is not refused. -/
def refusal (place : Nat) : Except ReplayError Unit → List (Nat × ReplayError)
  | .ok () => []
  | .error reason => [(place, reason)]

theorem mem_refusal_iff {place found : Nat} {outcome : Except ReplayError Unit}
    {reason : ReplayError} :
    (found, reason) ∈ refusal place outcome ↔ found = place ∧ outcome = .error reason := by
  cases outcome <;> simp [refusal, eq_comm]

variable [Suite] {replay replay' : Replay} {hashes hashes' : List Hash}

/-! ## Operations -/

theorem operations?_step_of_ne (h : replay.Keyed hashes) (chain : String) {step : Step}
    {hash : Hash} (hne : step.key ≠ hash) :
    (step.run chain replay).operations? hash = replay.operations? hash := by
  cases hlists : step.lists chain with
  | false => rw [Step.run_of_not_lists hlists]
  | true => rw [Step.run_of_lists hlists h, h.operations?_put, if_neg hne.symm]

/-- What a step leaves under its key hangs only on what it finds there. -/
theorem operations?_step_congr (h : replay.Keyed hashes) (h' : replay'.Keyed hashes')
    (chain : String) (step : Step)
    (heq : replay.operations? step.key = replay'.operations? step.key) :
    (step.run chain replay).operations? step.key
      = (step.run chain replay').operations? step.key := by
  cases hlists : step.lists chain with
  | false => rw [Step.run_of_not_lists hlists, Step.run_of_not_lists hlists, heq]
  | true =>
      rw [Step.run_of_lists hlists h, Step.run_of_lists hlists h', h.operations?_put,
        h'.operations?_put, if_pos rfl, if_pos rfl, operations, operations, heq]

/-- What stands under a hash after a run is what its own steps leave there. -/
theorem operations?_run_filter (h : replay.Keyed hashes) (h' : replay'.Keyed hashes')
    (chain : String) (steps : List Step) {hash : Hash}
    (heq : replay.operations? hash = replay'.operations? hash) :
    (run chain steps replay).operations? hash
      = (run chain (steps.filter (·.key = hash)) replay').operations? hash := by
  induction steps generalizing replay replay' hashes hashes' with
  | nil => exact heq
  | cons step rest ih =>
      by_cases hkey : step.key = hash
      · subst hkey
        rw [List.filter_cons_of_pos (by simp)]
        exact ih (h.step chain step) (h'.step chain step)
          (operations?_step_congr h h' chain step heq)
      · rw [List.filter_cons_of_neg (by simpa using hkey)]
        refine ih (h.step chain step) h' ?_
        rw [operations?_step_of_ne h chain hkey]
        exact heq

/-! ## Refusals -/

theorem addTransaction_snd_congr (chain : String) (raw : List UInt8)
    (result : Option TransactionResult) (replay replay' : Replay) :
    (replay.addTransaction chain raw result).2 = (replay'.addTransaction chain raw result).2 := by
  cases hopen : openTransaction chain raw with
  | error reason => rw [addTransaction_of_error hopen, addTransaction_of_error hopen]
  | ok opened =>
      rw [addTransaction_of_ok hopen, addTransaction_of_ok hopen]
      simp only [transactionOperations_snd]

theorem addTransactionsFrom_cons_snd (chain : String) (index : Nat) (raw : List UInt8)
    (raws : List (List UInt8)) (results : List TransactionResult) (replay : Replay) :
    (addTransactionsFrom chain index (raw :: raws) results replay).2
      = refusal index (replay.addTransaction chain raw results.head?).2
        ++ (addTransactionsFrom chain (index + 1) raws results.tail
          (replay.addTransaction chain raw results.head?).1).2 := by
  simp only [addTransactionsFrom, refusal]
  cases (replay.addTransaction chain raw results.head?).2 <;> rfl

theorem mem_addTransactionsFrom_iff (chain : String) (index : Nat) (raws : List (List UInt8))
    (results : List TransactionResult) (replay : Replay) (states : Nat → Replay) {place : Nat}
    {reason : ReplayError} :
    (place, reason) ∈ (addTransactionsFrom chain index raws results replay).2 ↔
      ∃ offset raw, place = index + offset ∧ raws[offset]? = some raw ∧
        ((states offset).addTransaction chain raw results[offset]?).2 = .error reason := by
  induction raws generalizing index results replay states with
  | nil => simp [addTransactionsFrom]
  | cons raw rest ih =>
      rw [addTransactionsFrom_cons_snd, List.mem_append, mem_refusal_iff,
        ih (index + 1) results.tail _ fun offset => states (offset + 1)]
      constructor
      · rintro (⟨rfl, hfirst⟩ | ⟨offset, found, rfl, hfound, hrefused⟩)
        · refine ⟨0, raw, rfl, rfl, ?_⟩
          rw [addTransaction_snd_congr chain raw _ _ replay, ← List.head?_eq_getElem?]
          exact hfirst
        · refine ⟨offset + 1, found, by omega, hfound, ?_⟩
          rwa [List.getElem?_tail] at hrefused
      · rintro ⟨offset, found, rfl, hfound, hrefused⟩
        cases offset with
        | zero =>
            cases hfound
            refine .inl ⟨rfl, ?_⟩
            rw [addTransaction_snd_congr chain raw _ replay (states 0), List.head?_eq_getElem?]
            exact hrefused
        | succ offset =>
            refine .inr ⟨offset, found, by omega, hfound, ?_⟩
            rwa [List.getElem?_tail]

theorem pairwise_addTransactionsFrom (chain : String) (index : Nat) (raws : List (List UInt8))
    (results : List TransactionResult) (replay : Replay) :
    ((addTransactionsFrom chain index raws results replay).2.map Prod.fst).Pairwise (· < ·) := by
  induction raws generalizing index results replay with
  | nil => exact .nil
  | cons raw rest ih =>
      rw [addTransactionsFrom_cons_snd, List.map_append]
      refine List.pairwise_append.mpr ⟨?_, ih .., ?_⟩
      · cases (replay.addTransaction chain raw results.head?).2 <;> simp [refusal]
      · intro first hfirst later hlater
        obtain ⟨⟨_, reason⟩, hmem, rfl⟩ := List.mem_map.mp hfirst
        obtain ⟨⟨_, found⟩, hmem', rfl⟩ := List.mem_map.mp hlater
        obtain ⟨rfl, _⟩ := mem_refusal_iff.mp hmem
        obtain ⟨offset, _, rfl, _⟩ :=
          (mem_addTransactionsFrom_iff chain _ rest _ _ fun _ => replay).mp hmem'
        simp only
        omega

/-! ## The whole run -/

/-- What stands under a hash after a run is what the steps with that key alone leave there, so two
runs that agree in these steps agree in it.  The hashes stand in the order of the first steps that
list something under them.  The transactions of a block are steps, each with the result at its
place, and those that are named are those that are refused where they stand, in order and each
once. -/
theorem run_independent (chain : String) :
    (∀ steps hash, (run chain steps .empty).operations? hash
      = (run chain (steps.filter (·.key = hash)) .empty).operations? hash) ∧
    (∀ steps steps' hash, steps.filter (·.key = hash) = steps'.filter (·.key = hash) →
      (run chain steps .empty).operations? hash = (run chain steps' .empty).operations? hash) ∧
    (∀ steps, (run chain steps .empty).transactions.map (·.transactionIdentifier)
      = ((steps.filter (·.lists chain)).map Step.key).eraseDups.map fun hash => ⟨hash.text⟩) ∧
    (∀ raws results (replay : Replay), (replay.addTransactions chain raws results).1
      = run chain (paired raws results) replay) ∧
    ∀ raws results (replay : Replay),
      ((replay.addTransactions chain raws results).2.map Prod.fst).Pairwise (· < ·) ∧
      ∀ place reason, (place, reason) ∈ (replay.addTransactions chain raws results).2 ↔
        ∃ raw, raws[place]? = some raw ∧
          ((run chain ((paired raws results).take place) replay).addTransaction chain raw
            results[place]?).2 = .error reason := by
  have hfilter : ∀ steps hash, (run chain steps .empty).operations? hash
      = (run chain (steps.filter (·.key = hash)) .empty).operations? hash :=
    fun steps _ => operations?_run_filter keyed_empty keyed_empty chain steps rfl
  refine ⟨hfilter, ?_, ?_, addTransactionsFrom_fst chain 0, ?_⟩
  · intro steps steps' hash hsame
    rw [hfilter steps, hsame, ← hfilter steps']
  · intro steps
    rw [(keyed_empty.run chain steps).identifiers_eq, noted, foldl_note]
    simp
  · intro raws results replay
    refine ⟨pairwise_addTransactionsFrom chain 0 raws results replay, ?_⟩
    intro place reason
    rw [addTransactions, mem_addTransactionsFrom_iff chain 0 raws results replay
      fun place => run chain ((paired raws results).take place) replay]
    constructor
    · rintro ⟨offset, raw, rfl, hraw, hrefused⟩
      rw [Nat.zero_add]
      exact ⟨raw, hraw, hrefused⟩
    · rintro ⟨raw, hraw, hrefused⟩
      exact ⟨place, raw, (Nat.zero_add place).symm, hraw, hrefused⟩

end Replay

/-- A block without events, another block with one, and the first block again, with that event. -/
def emptyBlockSteps : List Replay.Step :=
  let first : Hash := ⟨List.replicate 32 1, rfl⟩
  let second : Hash := ⟨List.replicate 32 2, rfl⟩
  let event : Staking.Event := ⟨1, .zero, none, some ⟨⟨List.replicate 20 7, rfl⟩, ⟨5⟩⟩, none⟩
  [.block first [], .block second [event], .block first [event]]

/-- Nothing is listed under a block without events, so its hash does not come first. -/
theorem order_of_empty_block :
    let keys := (emptyBlockSteps.map Replay.Step.key).eraseDups
    let replay := Replay.run "chain" emptyBlockSteps .empty
    keys.map Hash.text
        = ["0101010101010101010101010101010101010101010101010101010101010101",
          "0202020202020202020202020202020202020202020202020202020202020202"] ∧
      replay.transactions.map (·.transactionIdentifier.hash)
        = ["0202020202020202020202020202020202020202020202020202020202020202",
          "0101010101010101010101010101010101010101010101010101010101010101"] ∧
      replay.transactions.map (·.transactionIdentifier.hash) ≠ keys.map Hash.text := by
  intro keys replay
  have hkeys : keys.map Hash.text
      = ["0101010101010101010101010101010101010101010101010101010101010101",
        "0202020202020202020202020202020202020202020202020202020202020202"] := by
    decide
  have hnoted : Replay.noted "chain" emptyBlockSteps []
      = [⟨List.replicate 32 2, rfl⟩, ⟨List.replicate 32 1, rfl⟩] := by
    simp [emptyBlockSteps, Replay.noted, Replay.note, Replay.Step.lists, Replay.Step.key,
      Hash.isEmpty]
  have hlisted : replay.transactions.map (·.transactionIdentifier.hash)
      = ["0202020202020202020202020202020202020202020202020202020202020202",
        "0101010101010101010101010101010101010101010101010101010101010101"] := by
    have hidentifiers := (Replay.keyed_empty.run "chain" emptyBlockSteps).identifiers_eq
    rw [hnoted] at hidentifiers
    have hhashes := congrArg (List.map (·.hash)) hidentifiers
    rwa [List.map_map] at hhashes
  refine ⟨hkeys, hlisted, ?_⟩
  rw [hkeys, hlisted]
  decide

end StakingGateway
