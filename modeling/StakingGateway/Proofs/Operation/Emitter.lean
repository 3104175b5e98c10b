import StakingGateway.Operation.Emitter
import StakingGateway.Proofs.Operation.Numbering
import StakingGateway.Proofs.Transaction.Basic

/-!
# What an emitter appends

The steps of a call come to `Transaction.emitFee` and `Transaction.emitBody` (`run_fee`,
`run_body`).  `Emits` says what one call does to a list and `EmitsInRow` what calls in a row do; the
main statement is `emitAll_emitsInRow`: whatever the calls are, they append to the list and change
nothing in it.
-/

namespace StakingGateway

open Api (Operation)

namespace Transaction

theorem eq_malformedBody_of_readBody {α β : Type} {tx : Transaction} {read : Cbor.Item → Option α}
    {f : α → β} {reason : TransactionError} (h : (tx.readBody read).map f = .error reason) :
    reason = .malformedBody tx.method .unexpected := by
  unfold readBody at h
  split at h
  next => cases h
  next =>
    cases h
    rfl

/-- The one reason why it cannot be told what a transaction does: its body is not one of its
method. -/
theorem eq_malformedBody_of_kind {tx : Transaction} {reason : TransactionError}
    (h : tx.kind = .error reason) : reason = .malformedBody tx.method .unexpected := by
  unfold kind at h
  split at h
  · exact eq_malformedBody_of_readBody h
  split at h
  · exact eq_malformedBody_of_readBody h
  split at h
  · exact eq_malformedBody_of_readBody h
  split at h
  · exact eq_malformedBody_of_readBody h
  · cases h

end Transaction

namespace Emitter

/-! ## Steps -/

theorem run_bind {α β : Type} (x : StateM (List Operation) α) (f : α → StateM (List Operation) β)
    (ops : List Operation) : (x >>= f).run ops = (f (x.run ops).1).run (x.run ops).2 :=
  rfl

theorem run_push (status : Option String) (kind : OperationKind)
    (account : Api.AccountIdentifier) (amount : Option Api.Amount) (related : Option Nat)
    (ops : List Operation) :
    (push status kind account amount related).run ops
      = (ops.length, ops ++ [{ makeOperation ops.length kind status account amount with
          relatedOperations := related.map fun earlier => [.of (Int64.ofNat earlier)] }]) :=
  rfl

/-- Metadata that is written behind the end of a list leaves the list as it is. -/
theorem run_setMetadata (ops block : List Operation) (place : Nat) (name : String) (value : Json) :
    (setMetadata (ops.length + place) name value).run (ops ++ block)
      = ((), ops ++ block.modify place fun op => op.addMetadata name value) :=
  congrArg ((), ·) (List.modifyTailIdx_add _ place ops block)

section

variable (tx : Transaction) (signer : Address) (status : Option String) (ops : List Operation)

theorem run_move (source target : Api.AccountIdentifier) (amount : Quantity) :
    (move status source target amount).run ops
      = ((), ops ++ moveOperations ops.length status source target amount) := by
  simp only [move, run_bind, run_push, List.length_append, List.length_singleton,
    List.append_assoc]
  rfl

theorem run_pay [Suite] {fee : Fee} (hpays : fee.amount.isZero = false) :
    (pay signer status fee).run ops
      = ((), ops ++ fee.operations ops.length signer status) := by
  have hwritten (op : Operation) (value : Json) :
      (setMetadata ops.length feeGasKey value).run (ops ++ [op])
        = ((), ops ++ [op.addMetadata feeGasKey value]) := run_setMetadata ops [op] 0 ..
  simp only [pay, run_bind, run_push, hwritten, List.length_append, List.length_singleton,
    List.append_assoc, Fee.operations, hpays, Bool.false_eq_true, if_false]
  rfl

theorem run_fee [Suite] : (fee tx signer status).run ops = ((), tx.emitFee signer status ops) := by
  unfold fee Transaction.emitFee
  cases tx.fee with
  | none => rfl
  | some fee =>
      cases hzero : fee.amount.isZero with
      | true =>
          simp only [hzero, if_true, Fee.operations, List.append_nil]
          rfl
      | false =>
          simp only [hzero, Bool.false_eq_true, if_false, run_pay signer status ops hzero]

theorem run_kind (done : TransactionKind) :
    (kind signer status done).run ops
      = ((), ops ++ done.operations ops.length signer status) := by
  cases done with
  | transfer body => exact run_move ..
  | burn body => rfl
  | addEscrow body => exact run_move ..
  | reclaimEscrow body =>
      simp only [kind, run_bind, run_push, List.length_append, List.length_singleton,
        List.append_assoc, run_setMetadata]
      rfl
  | unknown method =>
      rw [TransactionKind.operations, List.append_nil]
      rfl

theorem run_body :
    (body tx signer status).run.run ops
      = match tx.emitBody signer status ops with
        | .ok emitted => (.ok (), emitted)
        | .error reason => (.error reason, ops) := by
  unfold Transaction.emitBody
  cases hkind : tx.kind with
  | error reason =>
      simp only [body, hkind, Except.map]
      rfl
  | ok done =>
      simp only [body, hkind, Except.map]
      exact congrArg (Prod.map Except.ok id) (run_kind signer status ops done)

end

/-! ## Calls -/

/-- Operations that one call appends from a place on: each has the status and the number of its
place, and relates to nothing or to the operation just before it. -/
structure IsBlock (status : Option String) (start : Nat) (block : List Operation) : Prop where
  status_eq : ∀ op ∈ block, op.status = status
  identifier_eq : ∀ (place : Nat) (op : Operation), block[place]? = some op →
    op.operationIdentifier = .of (Int64.ofNat (start + place))
  related : ∀ (place : Nat) (op : Operation), block[place]? = some op →
    op.relatedOperations = none ∨
      ∃ before earlier, place = before + 1 ∧ block[before]? = some earlier ∧
        op.relatedOperations = some [earlier.operationIdentifier]

namespace IsBlock

variable {status : Option String} {start : Nat}

theorem nil : IsBlock status start [] := by
  constructor
  · intro op hop
    cases hop
  · intro place op hop
    cases hop
  · intro place op hop
    cases hop

theorem singleton {op : Operation} (hstatus : op.status = status)
    (hidentifier : op.operationIdentifier = .of (Int64.ofNat start))
    (hunrelated : op.relatedOperations = none) : IsBlock status start [op] := by
  constructor
  · intro found hfound
    rwa [List.mem_singleton.mp hfound]
  · rintro (_ | place) found ⟨⟩
    exact hidentifier
  · rintro (_ | place) found ⟨⟩
    exact .inl hunrelated

theorem pair {first second : Operation} (hfirst : IsBlock status start [first])
    (hstatus : second.status = status)
    (hidentifier : second.operationIdentifier = .of (Int64.ofNat (start + 1)))
    (hrelated : second.relatedOperations = some [first.operationIdentifier]) :
    IsBlock status start [first, second] := by
  constructor
  · intro found hfound
    rcases List.mem_cons.mp hfound with rfl | hfound
    · exact hfirst.status_eq _ List.mem_cons_self
    · rwa [List.mem_singleton.mp hfound]
  · rintro (_ | _ | place) found ⟨⟩
    · exact hfirst.identifier_eq 0 first rfl
    · exact hidentifier
  · rintro (_ | _ | place) found ⟨⟩
    · rcases hfirst.related 0 first rfl with hnone | ⟨before, earlier, hbefore, -⟩
      · exact .inl hnone
      · cases hbefore
    · exact .inr ⟨0, first, rfl, rfl, hrelated⟩

end IsBlock

theorem isBlock_fee [Suite] (fee : Fee) (start : Nat) (signer : Address) (status : Option String) :
    IsBlock status start (fee.operations start signer status) := by
  unfold Fee.operations
  split
  next => exact .nil
  next => exact .pair (.singleton rfl rfl rfl) rfl rfl rfl

theorem isBlock_kind (kind : TransactionKind) (start : Nat) (signer : Address)
    (status : Option String) : IsBlock status start (kind.operations start signer status) := by
  cases kind with
  | transfer body => exact .pair (.singleton rfl rfl rfl) rfl rfl rfl
  | burn body => exact .singleton rfl rfl rfl
  | addEscrow body => exact .pair (.singleton rfl rfl rfl) rfl rfl rfl
  | reclaimEscrow body => exact .pair (.singleton rfl rfl rfl) rfl rfl rfl
  | unknown method => exact .nil

theorem operations_ne_nil {kind : TransactionKind} (hknown : kind.isKnown) (start : Nat)
    (signer : Address) (status : Option String) : kind.operations start signer status ≠ [] := by
  cases kind with
  | unknown method => cases hknown
  | _ => exact List.cons_ne_nil _ _

/-- What a call does to a list: how it ends, and what it appends. -/
inductive Emits [Suite] (tx : Transaction) (signer : Address) (status : Option String)
    (ops : List Operation) : Call → Except TransactionError Unit → List Operation → Prop
  | paid {fee : Fee} {debit credit : Operation} (hfee : tx.fee = some fee)
      (hpays : fee.amount.isZero = false)
      (hemit : tx.emitFee signer status ops = ops ++ [debit, credit])
      (hblock : IsBlock status ops.length [debit, credit]) :
      Emits tx signer status ops .fee (.ok ()) [debit, credit]
  | unpaid (hfree : ∀ fee ∈ tx.fee, fee.amount.isZero = true)
      (hemit : tx.emitFee signer status ops = ops) :
      Emits tx signer status ops .fee (.ok ()) []
  | known {block : List Operation} (hmethod : tx.method ∈ Transaction.knownMethods)
      (hemit : tx.emitBody signer status ops = .ok (ops ++ block))
      (hsome : block ≠ []) (hblock : IsBlock status ops.length block) :
      Emits tx signer status ops .body (.ok ()) block
  | malformed {reason : TransactionError} (hmethod : tx.method ∈ Transaction.knownMethods)
      (hreason : reason = .malformedBody tx.method .unexpected)
      (hemit : tx.emitBody signer status ops = .error reason) :
      Emits tx signer status ops .body (.error reason) []
  | unknown (hmethod : tx.method ∉ Transaction.knownMethods)
      (hemit : tx.emitBody signer status ops = .ok ops) :
      Emits tx signer status ops .body (.ok ()) []

/-- What calls in a row do to a list: each one finds what those before it have left. -/
inductive EmitsInRow [Suite] (tx : Transaction) (signer : Address) (status : Option String) :
    List Operation → List Call → List (Except TransactionError Unit) → List (List Operation) → Prop
  | nil (ops : List Operation) : EmitsInRow tx signer status ops [] [] []
  | cons {ops block : List Operation} {call : Call} {calls : List Call}
      {outcome : Except TransactionError Unit} {outcomes : List (Except TransactionError Unit)}
      {blocks : List (List Operation)} (hfirst : Emits tx signer status ops call outcome block)
      (hrest : EmitsInRow tx signer status (ops ++ block) calls outcomes blocks) :
      EmitsInRow tx signer status ops (call :: calls) (outcome :: outcomes) (block :: blocks)

section

variable [Suite] {tx : Transaction} {signer : Address} {status : Option String}
  {ops : List Operation}

theorem Emits.isBlock {call : Call} {outcome : Except TransactionError Unit}
    {block : List Operation} (h : Emits tx signer status ops call outcome block) :
    IsBlock status ops.length block := by
  cases h with
  | paid _ _ _ hblock => exact hblock
  | known _ _ _ hblock => exact hblock
  | unpaid _ _ => exact .nil
  | malformed _ _ _ => exact .nil
  | unknown _ _ => exact .nil

theorem EmitsInRow.at_place {calls : List Call} {outcomes : List (Except TransactionError Unit)}
    {blocks : List (List Operation)} (h : EmitsInRow tx signer status ops calls outcomes blocks)
    {place : Nat} {op : Operation} (hop : blocks.flatten[place]? = some op) :
    op.status = status ∧ op.operationIdentifier = .of (Int64.ofNat (ops.length + place)) := by
  induction h generalizing place with
  | nil ops => cases hop
  | @cons ops block call calls outcome outcomes blocks hfirst hrest ih =>
      -- The place is in the block of the first call, or among those that are appended after it.
      rw [List.flatten_cons] at hop
      by_cases hlt : place < block.length
      · rw [List.getElem?_append_left hlt] at hop
        exact ⟨hfirst.isBlock.status_eq op (List.mem_of_getElem? hop),
          hfirst.isBlock.identifier_eq place op hop⟩
      · rw [List.getElem?_append_right (Nat.le_of_not_lt hlt)] at hop
        have hplace : (ops ++ block).length + (place - block.length) = ops.length + place := by
          rw [List.length_append]
          omega
        rw [← hplace]
        exact ih hop

end

section

variable [Suite] (tx : Transaction) (signer : Address) (status : Option String)

theorem exists_emits_fee (ops : List Operation) :
    ∃ block, tx.emitFee signer status ops = ops ++ block ∧
      Emits tx signer status ops .fee (.ok ()) block := by
  by_cases hfree : ∀ fee ∈ tx.fee, fee.amount.isZero = true
  · have hemit : tx.emitFee signer status ops = ops := by
      unfold Transaction.emitFee Fee.operations
      cases hfee : tx.fee with
      | none => rfl
      | some fee => simp only [hfree fee hfee, if_true, List.append_nil]
    exact ⟨[], by rw [hemit, List.append_nil], .unpaid hfree hemit⟩
  · push Not at hfree
    obtain ⟨fee, hfee, hpays⟩ := hfree
    have hpays : fee.amount.isZero = false := by simpa using hpays
    have hemit : tx.emitFee signer status ops = ops ++ fee.operations ops.length signer status := by
      rw [Transaction.emitFee, Option.mem_def.mp hfee]
    have hblock := isBlock_fee fee ops.length signer status
    rw [Fee.operations, if_neg (Bool.eq_false_iff.mp hpays)] at hemit hblock
    exact ⟨_, hemit, .paid hfee hpays hemit hblock⟩

theorem exists_emits_body (ops : List Operation) :
    ∃ outcome block,
      tx.emitBody signer status ops = outcome.map (fun _ => ops ++ block) ∧
      Emits tx signer status ops .body outcome block := by
  by_cases hmethod : tx.method ∈ Transaction.knownMethods
  · cases hkind : tx.kind with
    | error reason =>
        have hemit : tx.emitBody signer status ops = .error reason := by
          rw [Transaction.emitBody, hkind]
          rfl
        have hreason := Transaction.eq_malformedBody_of_kind hkind
        exact ⟨.error reason, [], hemit, .malformed hmethod hreason hemit⟩
    | ok kind =>
        have hemit : tx.emitBody signer status ops
            = .ok (ops ++ kind.operations ops.length signer status) := by
          rw [Transaction.emitBody, hkind]
          rfl
        have hsome := operations_ne_nil (Transaction.isKnown_of_kind hkind hmethod)
          ops.length signer status
        exact ⟨.ok (), _, hemit, .known hmethod hemit hsome (isBlock_kind ..)⟩
  · have hkind : tx.kind = .ok (.unknown tx.method) :=
      Transaction.kind_eq_ok_iff.mpr ⟨rfl, hmethod⟩
    have hemit : tx.emitBody signer status ops = .ok (ops ++ []) := by
      rw [Transaction.emitBody, hkind]
      rfl
    exact ⟨.ok (), [], hemit, .unknown hmethod (by rwa [List.append_nil] at hemit)⟩

/-- One call appends to a list and changes nothing in it. -/
theorem exists_emits (call : Call) (ops : List Operation) :
    ∃ outcome block, (emit tx signer status call).run.run ops = (outcome, ops ++ block) ∧
      Emits tx signer status ops call outcome block := by
  cases call with
  | fee =>
      obtain ⟨block, hemit, hfee⟩ := exists_emits_fee tx signer status ops
      refine ⟨.ok (), block, ?_, hfee⟩
      rw [← hemit]
      exact congrArg (Prod.map Except.ok id) (run_fee tx signer status ops)
  | body =>
      obtain ⟨outcome, block, hemit, hbody⟩ := exists_emits_body tx signer status ops
      refine ⟨outcome, block, ?_, hbody⟩
      have hrun := run_body tx signer status ops
      rw [hemit] at hrun
      cases hbody with
      | known => exact hrun
      | unknown => exact hrun
      | malformed => rwa [List.append_nil]

theorem exists_emitsInRow (calls : List Call) (ops : List Operation) :
    ∃ outcomes blocks,
      (emitAll tx signer status calls).run ops = (outcomes, ops ++ blocks.flatten) ∧
      EmitsInRow tx signer status ops calls outcomes blocks := by
  induction calls generalizing ops with
  | nil =>
      refine ⟨[], [], ?_, .nil ops⟩
      rw [List.flatten_nil, List.append_nil]
      rfl
  | cons call calls ih =>
      obtain ⟨outcome, block, hrun, hfirst⟩ := exists_emits tx signer status call ops
      obtain ⟨outcomes, blocks, hruns, hrest⟩ := ih (ops ++ block)
      refine ⟨outcome :: outcomes, block :: blocks, ?_, .cons hfirst hrest⟩
      have hcons : emitAll tx signer status (call :: calls) = do
          let outcome ← (emit tx signer status call).run
          let outcomes ← emitAll tx signer status calls
          return outcome :: outcomes := List.mapM_cons
      rw [hcons, run_bind, run_bind, hrun, hruns, List.flatten_cons, ← List.append_assoc]
      rfl

end

/-- Calls in a row leave the list that they find, with its metadata, as the front of the list that
they make.  Each ends and appends as it does alone, and what is appended has the status and the
number of its place. -/
theorem emitAll_emitsInRow [Suite] (tx : Transaction) (signer : Address) (status : Option String)
    (calls : List Call) (ops : List Operation) :
    ∃ outcomes blocks,
      (emitAll tx signer status calls).run ops = (outcomes, ops ++ blocks.flatten) ∧
      EmitsInRow tx signer status ops calls outcomes blocks ∧
      ∀ (place : Nat) (op : Operation), ops.length ≤ place →
        (ops ++ blocks.flatten)[place]? = some op →
          op.status = status ∧ op.operationIdentifier = .of (Int64.ofNat place) ∧
          (place < 2 ^ 63 → op.operationIdentifier.index.toInt = place) := by
  obtain ⟨outcomes, blocks, hrun, hemits⟩ := exists_emitsInRow tx signer status calls ops
  refine ⟨outcomes, blocks, hrun, hemits, ?_⟩
  intro place op hplace hop
  rw [List.getElem?_append_right hplace] at hop
  obtain ⟨hstatus, hidentifier⟩ := hemits.at_place hop
  rw [Nat.add_sub_cancel' hplace] at hidentifier
  refine ⟨hstatus, hidentifier, ?_⟩
  intro hroom
  rw [hidentifier]
  exact Int64.toInt_ofNat_of_lt hroom

end Emitter

end StakingGateway
