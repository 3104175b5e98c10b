import StakingGateway.Operation.Emission
import StakingGateway.Proofs.Outcome

/-!
# Numbers of operations

`NumberedFrom next ops` says that operations are numbered in a row from `next` on and relate only to
operations before them.  Everything that is emitted is numbered so.  Numbers are 64 bits wide, so
`checkIndices` accepts what is numbered as long as the numbers do not run out
(`NumberedFrom.checkIndices_eq_ok`).
-/

namespace StakingGateway

open Api (Operation)

/-- Operations are numbered in a row, and each relates only to operations before it. -/
inductive NumberedFrom : Nat → List Operation → Prop
  | nil (next : Nat) : NumberedFrom next []
  | cons {next : Nat} {op : Operation} {rest : List Operation}
      (hindex : op.operationIdentifier.index = Int64.ofNat next)
      (hrelated : ∀ related ∈ op.relatedOperations.getD [],
        ∃ earlier < next, related.index = Int64.ofNat earlier)
      (hrest : NumberedFrom (next + 1) rest) :
      NumberedFrom next (op :: rest)

namespace NumberedFrom

variable {next : Nat} {ops rest : List Operation}

theorem append (h : NumberedFrom next ops) (hrest : NumberedFrom (next + ops.length) rest) :
    NumberedFrom next (ops ++ rest) := by
  induction h with
  | nil next => exact hrest
  | @cons next op ops hindex hrelated htail ih =>
      have hlength : next + (op :: ops).length = next + 1 + ops.length := by
        rw [List.length_cons]
        omega
      rw [hlength] at hrest
      exact .cons hindex hrelated (ih hrest)

theorem at_place (h : NumberedFrom next ops) {place : Nat} {op : Operation}
    (hop : ops[place]? = some op) :
    op.operationIdentifier.index = Int64.ofNat (next + place) ∧
      ∀ related ∈ op.relatedOperations.getD [],
        ∃ earlier < next + place, related.index = Int64.ofNat earlier := by
  induction h generalizing place with
  | nil next => cases hop
  | @cons next first ops hindex hrelated htail ih =>
      cases place with
      | zero =>
          cases hop
          exact ⟨hindex, hrelated⟩
      | succ place =>
          have hplace : next + (place + 1) = next + 1 + place := by omega
          rw [hplace]
          exact ih hop

theorem singleton {op : Operation} (hindex : op.operationIdentifier.index = Int64.ofNat next)
    (hrelated : op.relatedOperations = none) : NumberedFrom next [op] := by
  refine .cons hindex ?_ (.nil _)
  rw [hrelated]
  exact fun _ hmem => nomatch hmem

theorem pair {first second : Operation}
    (hfirst : first.operationIdentifier.index = Int64.ofNat next)
    (hunrelated : first.relatedOperations = none)
    (hsecond : second.operationIdentifier.index = Int64.ofNat (next + 1))
    (hrelated : second.relatedOperations = some [.of (Int64.ofNat next)]) :
    NumberedFrom next [first, second] := by
  have hrest : NumberedFrom (next + [first].length) [second] := by
    refine .cons hsecond ?_ (.nil _)
    rw [hrelated]
    intro related hmem
    rw [List.mem_singleton.mp hmem]
    exact ⟨next, Nat.lt_succ_self next, rfl⟩
  exact (singleton hfirst hunrelated).append hrest

end NumberedFrom

/-! ## What is accepted -/

section

variable {next : Nat}

theorem checkIndices_cons_iff {op : Operation} {rest : List Operation} :
    checkIndices next (op :: rest) = .ok () ↔
      op.operationIdentifier.index = Int64.ofNat next ∧
        checkRelated (Int64.ofNat next) (op.relatedOperations.getD []) = .ok () ∧
        checkIndices (next + 1) rest = .ok () := by
  simp only [checkIndices]
  split
  next hne =>
    constructor
    · intro h
      exact (throw_bind_ne_ok h).elim
    · intro h
      exact absurd h.1 hne
  next heq =>
    simp only [bind_eq_ok_iff]
    constructor
    · rintro ⟨_, hrelated, hrest⟩
      exact ⟨Decidable.not_not.mp heq, hrelated, hrest⟩
    · rintro ⟨_, hrelated, hrest⟩
      exact ⟨(), hrelated, hrest⟩

theorem checkRelated_eq_ok (hnext : next < 2 ^ 63) {list : List Api.OperationIdentifier}
    (h : ∀ related ∈ list, ∃ earlier < next, related.index = Int64.ofNat earlier) :
    checkRelated (Int64.ofNat next) list = .ok () := by
  induction list with
  | nil => rfl
  | cons related rest ih =>
      obtain ⟨earlier, hearlier, hindex⟩ := h related List.mem_cons_self
      have hprecedes : ¬ (related.index < 0 ∨ Int64.ofNat next ≤ related.index) := by
        rw [hindex, Int64.lt_iff_toInt_lt, Int64.le_iff_toInt_le, Int64.toInt_ofNat_of_lt hnext,
          Int64.toInt_ofNat_of_lt (hearlier.trans hnext), Int64.toInt_zero]
        omega
      rw [checkRelated, if_neg hprecedes]
      exact ih fun other hother => h other (List.mem_cons_of_mem _ hother)

theorem NumberedFrom.checkIndices_eq_ok {ops : List Operation} (h : NumberedFrom next ops)
    (hroom : next + ops.length ≤ 2 ^ 63) : checkIndices next ops = .ok () := by
  induction h with
  | nil next => rfl
  | @cons next op ops hindex hrelated htail ih =>
      rw [List.length_cons] at hroom
      have hnext : next < 2 ^ 63 := by omega
      have hrest : next + 1 + ops.length ≤ 2 ^ 63 := by omega
      exact checkIndices_cons_iff.mpr ⟨hindex, checkRelated_eq_ok hnext hrelated, ih hrest⟩

end

/-! ## What is emitted -/

theorem length_operations_le (kind : TransactionKind) (index : Nat) (signer : Address)
    (status : Option String) : (kind.operations index signer status).length ≤ 2 := by
  cases kind <;> simp [TransactionKind.operations, moveOperations]

theorem numberedFrom_kind (kind : TransactionKind) (next : Nat) (signer : Address)
    (status : Option String) : NumberedFrom next (kind.operations next signer status) := by
  cases kind with
  | transfer body => exact .pair rfl rfl rfl rfl
  | burn body => exact .singleton rfl rfl
  | addEscrow body => exact .pair rfl rfl rfl rfl
  | reclaimEscrow body => exact .pair rfl rfl rfl rfl
  | unknown method => exact .nil next

theorem numberedFrom_fee [Suite] (fee : Fee) (next : Nat) (signer : Address)
    (status : Option String) : NumberedFrom next (fee.operations next signer status) := by
  unfold Fee.operations
  split
  next => exact .nil next
  next => exact .pair rfl rfl rfl rfl

end StakingGateway
