import StakingGateway.Operation.Emission
import StakingGateway.Proofs.Json.Faithful
import StakingGateway.Proofs.Json.Text
import StakingGateway.Proofs.Operation.RoundTrip

/-!
# Operations in plain JSON

The operations of a transaction hold no numbers but their places and the gas of the fee, and no
metadata but one member with a number or a text.  So they are plain JSON, and their text reads back
(`plain_operations`).
-/

namespace StakingGateway

open Json Model

namespace Json

theorem Plain.mono {few many : Nat} {tree : Json} (h : Plain few tree) (hle : few ≤ many) :
    Plain many tree := by
  induction h generalizing many with
  | null => exact .null many
  | bool _ value => exact .bool many value
  | number _ le_value value_lt => exact .number many le_value value_lt
  | string _ value => exact .string many value
  | array _ ih =>
      cases many with
      | zero => cases hle
      | succ many => exact .array fun item hitem => ih item hitem (Nat.le_of_succ_le_succ hle)
  | object _ ih =>
      cases many with
      | zero => cases hle
      | succ many =>
          exact .object fun member hmember => ih member hmember (Nat.le_of_succ_le_succ hle)

theorem plain_record {room : Nat} {fields : List (String × Option Json)}
    (h : EveryField (Plain room) fields) : Plain (room + 1) (record fields) :=
  .object fun member hmember => h _ (mem_given_iff.mp hmember) member.2 rfl

@[simp] theorem plain_string (room : Nat) (value : String) : Plain room (toJson value) :=
  .string room value

@[simp] theorem plain_int64 (room : Nat) (value : Int64) : Plain room (toJson value) :=
  .number room value.le_toInt (Int.lt_trans value.toInt_lt (by decide))

@[simp] theorem plain_uInt32 (room : Nat) (value : UInt32) : Plain room (toJson value) := by
  have hlt := value.toNat_lt
  exact .number room (by omega) (by omega)

theorem plain_uInt64 (room : Nat) (value : UInt64) : Plain room (.integer value.toNat) := by
  have hlt := value.toNat_lt
  exact .number room (by omega) (by omega)

theorem plain_list {α : Type} [Model α] {room : Nat} {values : List α}
    (h : ∀ value ∈ values, Plain room (toJson value)) : Plain (room + 1) (toJson values) := by
  refine .array fun item hitem => ?_
  obtain ⟨value, hvalue, rfl⟩ := List.mem_map.mp hitem
  exact h value hvalue

theorem plain_ofMembers_singleton {room : Nat} {name : String} {value : Json}
    (h : Plain room value.normal) :
    Plain (room + 1) (toJson (Object.ofMembers [(name, value)])) := by
  refine .object fun member hmember => ?_
  obtain rfl := List.mem_singleton.mp hmember
  exact h

end Json

namespace Api

theorem plain_operationIdentifier (identifier : OperationIdentifier) :
    Plain 1 (toJson identifier) :=
  plain_record (by simp)

theorem plain_account (address : Address) : Plain 2 (toJson address.account) :=
  plain_record (by simp [Address.account, AccountIdentifier.of])

theorem plain_escrowAccount (address : Address) : Plain 2 (toJson address.escrowAccount) := by
  have hplain : Plain 1 (toJson (SubAccountIdentifier.of escrowSubAccount)) :=
    plain_record (by simp [SubAccountIdentifier.of])
  exact plain_record
    (by simp [Address.escrowAccount, AccountIdentifier.ofSubAccount, hplain])

theorem plain_toAmount (q : Quantity) (debit : Bool) : Plain 2 (toJson (q.toAmount debit)) := by
  have hplain : Plain 1 (toJson currency) :=
    plain_record (by simp [currency, Currency.of])
  exact plain_record (by simp [Quantity.toAmount, Amount.of, hplain])

namespace Operation

/-- The parts of an operation that may hold free-form data are plain. -/
structure IsPlain (op : Operation) : Prop where
  account : ∀ account ∈ op.account, Plain 2 (toJson account)
  amount : ∀ amount ∈ op.amount, Plain 2 (toJson amount)
  metadata : ∀ metadata ∈ op.metadata, Plain 2 (toJson metadata)

theorem IsPlain.toJson {op : Operation} (h : op.IsPlain) : Plain 3 (Model.toJson op) := by
  have hrelated : ∀ related ∈ op.relatedOperations, Plain 2 (Model.toJson related) :=
    fun _ _ => plain_list fun identifier _ => plain_operationIdentifier identifier
  have hidentifier := (plain_operationIdentifier op.operationIdentifier).mono (Nat.le_succ 1)
  exact plain_record
    (by simpa using ⟨hidentifier, hrelated, h.account, h.amount, h.metadata⟩)

theorem IsPlain.relatedTo {op : Operation} (h : op.IsPlain) (index : Nat) :
    (op.relatedTo index).IsPlain :=
  ⟨h.account, h.amount, h.metadata⟩

theorem IsPlain.withMetadata {op : Operation} (h : op.IsPlain) (name : String) {value : Json}
    (hvalue : Plain 1 value.normal) : (op.withMetadata name value).IsPlain where
  account := h.account
  amount := h.amount
  metadata := by
    rintro _ ⟨⟩
    exact plain_ofMembers_singleton hvalue

end Operation

end Api

/-! ## Operations of a transaction -/

section

variable (index : Nat) (signer : Address) (status : Option String)

theorem isPlain_makeOperation (kind : OperationKind) {account : Api.AccountIdentifier}
    (haccount : Plain 2 (toJson account)) {amount : Option Api.Amount}
    (hamount : ∀ given ∈ amount, Plain 2 (toJson given)) :
    (makeOperation index kind status account amount).IsPlain where
  account := by
    rintro _ ⟨⟩
    exact haccount
  amount := hamount
  metadata := nofun

theorem isPlain_makeOperation_toAmount (kind : OperationKind) {account : Api.AccountIdentifier}
    (haccount : Plain 2 (toJson account)) (amount : Quantity) (debit : Bool) :
    (makeOperation index kind status account (some (amount.toAmount debit))).IsPlain := by
  refine isPlain_makeOperation index status kind haccount ?_
  rintro _ ⟨⟩
  exact Api.plain_toAmount amount debit

theorem isPlain_moveOperations {source target : Api.AccountIdentifier}
    (hsource : Plain 2 (toJson source)) (htarget : Plain 2 (toJson target)) (amount : Quantity) :
    ∀ op ∈ moveOperations index status source target amount, op.IsPlain := by
  rw [moveOperations, List.forall_mem_cons, List.forall_mem_singleton]
  exact ⟨isPlain_makeOperation_toAmount _ _ _ hsource amount true,
    (isPlain_makeOperation_toAmount _ _ _ htarget amount false).relatedTo index⟩

theorem Fee.isPlain_operations [Suite] (fee : Fee) :
    ∀ op ∈ fee.operations index signer status, op.IsPlain := by
  unfold Fee.operations
  split
  · exact List.forall_mem_nil _
  · rw [List.forall_mem_cons, List.forall_mem_singleton]
    exact ⟨(isPlain_makeOperation_toAmount _ _ _ (Api.plain_account signer) fee.amount
        true).withMetadata feeGasKey (plain_uInt64 1 fee.gas),
      (isPlain_makeOperation_toAmount _ _ _ (Api.plain_account Address.feeAccumulator) fee.amount
        false).relatedTo index⟩

theorem TransactionKind.isPlain_operations (kind : TransactionKind) :
    ∀ op ∈ kind.operations index signer status, op.IsPlain := by
  have hsigner := Api.plain_account signer
  cases kind with
  | transfer body =>
      exact isPlain_moveOperations _ _ hsigner (Api.plain_account body.target) body.amount
  | burn body =>
      exact List.forall_mem_singleton.mpr
        (isPlain_makeOperation_toAmount _ _ _ hsigner body.amount true)
  | addEscrow body =>
      exact isPlain_moveOperations _ _ hsigner (Api.plain_escrowAccount body.account) body.amount
  | reclaimEscrow body =>
      rw [TransactionKind.operations, List.forall_mem_cons, List.forall_mem_singleton]
      have hescrow := Api.plain_escrowAccount body.account
      exact ⟨isPlain_makeOperation _ _ _ hsigner (by simp),
        ((isPlain_makeOperation _ _ _ hescrow (by simp)).relatedTo index).withMetadata sharesKey
          (.string 1 body.shares.text)⟩
  | unknown => exact List.forall_mem_nil _

/-- What is shown of a transaction is plain. -/
theorem plain_operations [Suite] {tx : Transaction} {ops : List Api.Operation}
    (h : tx.operations signer status = .ok ops) : ∀ op ∈ ops, Plain 3 (toJson op) := by
  obtain ⟨kind, -, rfl⟩ := operations_eq_ok_iff.mp h
  intro op hop
  rw [List.mem_append] at hop
  rcases hop with hfee | hbody
  · unfold Transaction.emitFee at hfee
    split at hfee
    next fee _ => exact (fee.isPlain_operations _ signer status op hfee).toJson
    next => cases hfee
  · exact (kind.isPlain_operations _ signer status op hbody).toJson

end

end StakingGateway
