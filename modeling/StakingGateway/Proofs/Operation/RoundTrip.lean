import StakingGateway.Crypto.Standard
import StakingGateway.Proofs.Operation.Description
import StakingGateway.Proofs.Operation.Numbering

/-!
# Operations of a transaction read back

The operations that are emitted for a transaction are numbered in a row and describe it, so they
read back as it.  Two things are lost.  Nothing is emitted for a fee of zero, and the default fee is
read in its place (`Transaction.shownFee`).  And where no fee is emitted, a body that credits the
account that collects fees is taken for a fee pair (`hasFee_operations`).
-/

namespace StakingGateway

open Api (Operation)

/-! ## Accounts and amounts -/

theorem kind?_of_type {op : Operation} {kind : OperationKind} (h : op.type = kind.name) :
    op.kind? = some kind := by
  rw [Operation.kind?, h]
  cases kind <;> rfl

theorem account_inj {a b : Address} : a.account = b.account ↔ a = b := by
  constructor
  · intro h
    exact Address.text_inj.mp (congrArg Api.AccountIdentifier.address h)
  · rintro rfl
    rfl

theorem concerns_account {op : Operation} {kind : OperationKind} {address : Address}
    (htype : op.type = kind.name) (haccount : op.account = some address.account) :
    op.Concerns kind address none := by
  refine ⟨kind?_of_type htype, ⟨address.account, haccount, address.ofText_text⟩, ?_⟩
  rw [Operation.subAccount?, haccount]
  rfl

theorem concerns_escrowAccount {op : Operation} {kind : OperationKind} {address : Address}
    (htype : op.type = kind.name) (haccount : op.account = some address.escrowAccount) :
    op.Concerns kind address (some escrowSubAccount) := by
  refine ⟨kind?_of_type htype, ⟨address.escrowAccount, haccount, address.ofText_text⟩, ?_⟩
  rw [Operation.subAccount?, haccount]
  rfl

theorem moves_toAmount {op : Operation} {q : Quantity} {debit : Bool}
    (hamount : op.amount = some (q.toAmount debit)) : op.Moves (q.signed debit) :=
  ⟨_, hamount, ⟨rfl, rfl⟩, q.units?_toAmount debit⟩

theorem metadata?_withMetadata (op : Operation) (name : String) (value : Json) :
    (op.withMetadata name value).metadata? name = some value.normal :=
  Json.Object.find?_ofMembers_singleton name value

theorem ofNumber?_integer (gas : Gas) : Gas.ofNumber? (.integer gas.toNat) = some gas := by
  have hrange : (0 : Int) ≤ gas.toNat ∧ (gas.toNat : Int) < 0x10000000000000000 := by
    have hlt := gas.toNat_lt
    omega
  simp only [Gas.ofNumber?]
  rw [if_pos hrange, Int.toNat_natCast, UInt64.ofNat_toNat]

theorem gas_eq_ok {op : Operation} {number : Json.Number} {gas : Gas}
    (hmetadata : op.metadata? feeGasKey = some (.number number))
    (hgas : Gas.ofNumber? number = some gas) : op.gas = .ok gas := by
  simp only [Operation.gas, hmetadata, hgas]

theorem gas_withMetadata (op : Operation) (gas : Gas) :
    (op.withMetadata feeGasKey (.integer gas.toNat)).gas = .ok gas :=
  gas_eq_ok (metadata?_withMetadata ..) (ofNumber?_integer gas)

theorem shares_withMetadata (op : Operation) (shares : Quantity) :
    (op.withMetadata sharesKey (.string shares.text)).shares = .ok shares := by
  have hstring : (Json.string shares.text).normal = .string shares.text := rfl
  simp only [Operation.shares, metadata?_withMetadata, hstring, shares.ofText_text]

/-! ## Bodies and fees -/

theorem describes_operations {kind : TransactionKind} (hknown : kind.isKnown) (index : Nat)
    (signer : Address) (status : Option String) :
    Describes signer (kind.operations index signer status) kind := by
  cases kind with
  | transfer body =>
      exact .transfer (concerns_account rfl rfl) (moves_toAmount rfl)
        (concerns_account rfl rfl) (moves_toAmount rfl)
  | burn body =>
      exact .burn (concerns_account rfl rfl) (moves_toAmount rfl)
  | addEscrow body =>
      exact .addEscrow (concerns_account rfl rfl) (moves_toAmount rfl)
        (concerns_escrowAccount rfl rfl) (moves_toAmount rfl)
  | reclaimEscrow body =>
      exact .reclaimEscrow (concerns_account rfl rfl)
        (concerns_escrowAccount rfl rfl) ⟨rfl, rfl⟩ (shares_withMetadata ..)
  | unknown method => cases hknown

section

variable [Suite]

def TransactionKind.creditsFees : TransactionKind → Bool
  | .transfer body => body.target = Address.feeAccumulator
  | .addEscrow body => body.account = Address.feeAccumulator
  | _ => false

theorem isFeePair_eq {debit credit : Operation} {account : Api.AccountIdentifier}
    (hdebit : debit.type = OperationKind.transfer.name)
    (hcredit : credit.type = OperationKind.transfer.name)
    (haccount : credit.account = some account) :
    isFeePair debit credit = decide (account.address = Address.feeAccumulator.text) := by
  simp [isFeePair, kind?_of_type hdebit, kind?_of_type hcredit, haccount]

/-- A body is taken for a fee pair if it credits the account that collects fees. -/
theorem hasFee_operations (kind : TransactionKind) (index : Nat) (signer : Address)
    (status : Option String) :
    hasFee (kind.operations index signer status) = kind.creditsFees := by
  cases kind with
  | transfer body =>
      simp only [TransactionKind.operations, moveOperations, hasFee, splitFee]
      rw [isFeePair_eq rfl rfl rfl]
      by_cases htarget : body.target = Address.feeAccumulator
      · simp [TransactionKind.creditsFees, Address.account, Api.AccountIdentifier.of, htarget]
      · simp [TransactionKind.creditsFees, Address.account, Api.AccountIdentifier.of, htarget,
          Address.text_inj]
  | burn body => rfl
  | addEscrow body =>
      simp only [TransactionKind.operations, moveOperations, hasFee, splitFee]
      rw [isFeePair_eq rfl rfl rfl]
      by_cases haccount : body.account = Address.feeAccumulator
      · simp [TransactionKind.creditsFees, Address.escrowAccount,
          Api.AccountIdentifier.ofSubAccount, haccount]
      · simp [TransactionKind.creditsFees, Address.escrowAccount,
          Api.AccountIdentifier.ofSubAccount, haccount, Address.text_inj]
  | reclaimEscrow body => rfl
  | unknown method => rfl

theorem Fee.operations_eq_nil {fee : Fee} (hfee : fee.amount.isZero = true) (index : Nat)
    (signer : Address) (status : Option String) : fee.operations index signer status = [] :=
  if_pos hfee

theorem paysFee_operations {fee : Fee} (hfee : fee.amount.isZero = false) (index : Nat)
    (signer : Address) (status : Option String) :
    ∃ debit credit, fee.operations index signer status = [debit, credit] ∧
      NumberedFrom index [debit, credit] ∧ isFeePair debit credit ∧
      PaysFee signer fee debit credit := by
  refine ⟨_, _, if_neg (by simp [hfee]), ?_, ?_, ?_⟩
  · exact .pair rfl rfl rfl rfl
  · rw [isFeePair_eq rfl rfl rfl]
    exact decide_eq_true rfl
  · exact ⟨concerns_account rfl rfl, moves_toAmount rfl, gas_withMetadata .., rfl,
      moves_toAmount rfl⟩

end

/-! ## Transactions -/

/-- The fee that the operations of a transaction show.  One of zero is not shown, and goes with the
default gas. -/
def Transaction.shownFee (tx : Transaction) : Fee :=
  match tx.fee with
  | some fee => if fee.amount.isZero then ⟨defaultGas, .zero⟩ else fee
  | none => ⟨defaultGas, .zero⟩

/-- No fee is shown, and there is none above zero, or the fee of the transaction is. -/
theorem shownFee_cases (tx : Transaction) :
    (tx.shownFee = ⟨defaultGas, .zero⟩ ∧ ∀ fee ∈ tx.fee, fee.amount.isZero = true) ∨
      (tx.fee = some tx.shownFee ∧ tx.shownFee.amount.isZero = false) := by
  cases hfee : tx.fee with
  | none => exact .inl ⟨by rw [Transaction.shownFee, hfee], nofun⟩
  | some fee =>
      by_cases hzero : fee.amount.isZero = true
      · exact .inl ⟨by simp [Transaction.shownFee, hfee, hzero], by simp [hzero]⟩
      · have hshown : tx.shownFee = fee := by simp [Transaction.shownFee, hfee, hzero]
        exact .inr ⟨by rw [hshown], by rwa [hshown, ← Bool.not_eq_true]⟩

theorem isZero_shownFee_iff {tx : Transaction} :
    tx.shownFee.amount.isZero = true ↔ ∀ fee ∈ tx.fee, fee.amount.isZero = true := by
  rcases shownFee_cases tx with ⟨hdefault, hzero⟩ | ⟨hfee, hshown⟩
  · rw [hdefault]
    exact ⟨fun _ => hzero, fun _ => rfl⟩
  · rw [hfee]
    simp [hshown]

theorem shownFee_eq_default {tx : Transaction} (h : tx.shownFee.amount.isZero = true) :
    tx.shownFee = ⟨defaultGas, .zero⟩ := by
  rcases shownFee_cases tx with ⟨hdefault, _⟩ | ⟨_, hshown⟩
  · exact hdefault
  · rw [h] at hshown
    cases hshown

section

variable [Suite]

theorem emitFee_eq_nil {tx : Transaction} (h : tx.shownFee.amount.isZero = true) (signer : Address)
    (status : Option String) : tx.emitFee signer status [] = [] := by
  rcases shownFee_cases tx with ⟨_, hzero⟩ | ⟨_, hshown⟩
  · unfold Transaction.emitFee
    cases hfee : tx.fee with
    | none => rfl
    | some fee => exact Fee.operations_eq_nil (hzero fee hfee) ..
  · rw [h] at hshown
    cases hshown

theorem emitFee_eq_pair {tx : Transaction} (h : tx.shownFee.amount.isZero = false)
    (signer : Address) (status : Option String) :
    ∃ debit credit, tx.emitFee signer status [] = [debit, credit] ∧
      NumberedFrom 0 [debit, credit] ∧ isFeePair debit credit ∧
      PaysFee signer tx.shownFee debit credit := by
  rcases shownFee_cases tx with ⟨hdefault, _⟩ | ⟨hfee, _⟩
  · rw [hdefault] at h
    cases h
  · simp only [Transaction.emitFee, hfee, List.nil_append, List.length_nil]
    exact paysFee_operations h 0 signer status

theorem operations_eq_ok_iff {tx : Transaction} {signer : Address} {status : Option String}
    {ops : List Operation} :
    tx.operations signer status = .ok ops ↔ ∃ kind, tx.kind = .ok kind ∧
      tx.emitFee signer status []
        ++ kind.operations (tx.emitFee signer status []).length signer status = ops :=
  map_eq_ok_iff

theorem operations_eq {tx : Transaction} {kind : TransactionKind} (hkind : tx.kind = .ok kind)
    (signer : Address) (status : Option String) :
    tx.operations signer status = .ok (tx.emitFee signer status []
      ++ kind.operations (tx.emitFee signer status []).length signer status) :=
  operations_eq_ok_iff.mpr ⟨kind, hkind, rfl⟩

theorem emitFee_shownFee {tx shown : Transaction} (hfee : shown.fee = some tx.shownFee)
    (signer : Address) (status : Option String) (ops : List Operation) :
    shown.emitFee signer status ops = tx.emitFee signer status ops := by
  rcases shownFee_cases tx with ⟨hdefault, hzero⟩ | ⟨hsame, _⟩
  · simp only [Transaction.emitFee, hfee, hdefault]
    rw [Fee.operations_eq_nil rfl, List.append_nil]
    cases hgiven : tx.fee with
    | none => rfl
    | some fee => simp only [Fee.operations_eq_nil (hzero fee hgiven), List.append_nil]
  · rw [Transaction.emitFee, Transaction.emitFee, hfee, ← hsame]

theorem operations_ofKind_shownFee {tx : Transaction} {kind : TransactionKind}
    (hkind : tx.kind = .ok kind) (hknown : kind.isKnown) (nonce : UInt64) (signer : Address)
    (status : Option String) :
    (Transaction.ofKind nonce tx.shownFee kind).operations signer status
      = tx.operations signer status := by
  rw [operations_eq (Transaction.kind_ofKind nonce tx.shownFee hknown), operations_eq hkind,
    emitFee_shownFee rfl]

theorem account_head_operations {tx : Transaction} {kind : TransactionKind}
    (hkind : tx.kind = .ok kind) (hknown : kind.isKnown) {signer : Address}
    {status : Option String} {ops : List Operation} (hops : tx.operations signer status = .ok ops) :
    ∃ op rest, ops = op :: rest ∧ op.account = some signer.account := by
  rw [operations_eq hkind] at hops
  cases hops
  have hbody : ∀ index, ∃ op rest, kind.operations index signer status = op :: rest ∧
      op.account = some signer.account := by
    intro index
    cases kind with
    | transfer body => exact ⟨_, _, rfl, rfl⟩
    | burn body => exact ⟨_, _, rfl, rfl⟩
    | addEscrow body => exact ⟨_, _, rfl, rfl⟩
    | reclaimEscrow body => exact ⟨_, _, rfl, rfl⟩
    | unknown method => cases hknown
  cases hfee : tx.fee with
  | none =>
      simp only [Transaction.emitFee, hfee, List.nil_append]
      exact hbody _
  | some fee =>
      by_cases hzero : fee.amount.isZero = true
      · simp only [Transaction.emitFee, hfee, Fee.operations, hzero, if_true, List.nil_append]
        exact hbody _
      · simp only [Transaction.emitFee, hfee, Fee.operations, hzero, List.nil_append]
        exact ⟨_, _, rfl, rfl⟩

theorem signer_eq_of_operations {tx : Transaction} {kind : TransactionKind}
    (hkind : tx.kind = .ok kind) (hknown : kind.isKnown) {signer signer' : Address}
    {status : Option String} {ops : List Operation} (hops : tx.operations signer status = .ok ops)
    (hops' : tx.operations signer' status = .ok ops) : signer = signer' := by
  obtain ⟨op, rest, rfl, haccount⟩ := account_head_operations hkind hknown hops
  obtain ⟨op', rest', heq, haccount'⟩ := account_head_operations hkind hknown hops'
  obtain ⟨rfl, _⟩ := List.cons.inj heq
  rw [haccount] at haccount'
  exact account_inj.mp (Option.some.inj haccount')

/-- The operations of a transaction read back as the fee that they show and the body, unless it is
the body that is taken for a fee pair. -/
theorem ofOperations_of_operations {tx : Transaction} {kind : TransactionKind}
    (hkind : tx.kind = .ok kind) (hknown : kind.isKnown)
    (hfee : tx.shownFee.amount.isZero = true → kind.creditsFees = false)
    {signer : Address} {status : Option String} {ops : List Operation}
    (hops : tx.operations signer status = .ok ops) :
    Transaction.ofOperations ops = .ok (signer, .ofKind 0 tx.shownFee kind) := by
  rw [operations_eq hkind] at hops
  cases hops
  rw [ofOperations_eq_ok_iff]
  have hlength := fun index => length_operations_le kind index signer status
  by_cases hzero : tx.shownFee.amount.isZero = true
  · have hfree : hasFee (kind.operations 0 signer status) = false := by
      rw [hasFee_operations]
      exact hfee hzero
    have hroom : 0 + (kind.operations 0 signer status).length ≤ 2 ^ 63 := by
      have htwo := hlength 0
      omega
    rw [emitFee_eq_nil hzero, shownFee_eq_default hzero]
    exact ⟨(numberedFrom_kind kind 0 signer status).checkIndices_eq_ok hroom, _, kind,
      .unpaid hfree (describes_operations hknown ..), rfl⟩
  · rw [Bool.not_eq_true] at hzero
    obtain ⟨debit, credit, hsome, hnumbered, hpair, hpays⟩ := emitFee_eq_pair hzero signer status
    rw [hsome]
    have hall := hnumbered.append (numberedFrom_kind kind (0 + [debit, credit].length) signer status)
    have hroom : 0 + ([debit, credit] ++ kind.operations 2 signer status).length ≤ 2 ^ 63 := by
      have htwo := hlength 2
      rw [List.length_append, List.length_cons, List.length_singleton]
      omega
    exact ⟨hall.checkIndices_eq_ok hroom, _, kind,
      .paid hpair hpays (describes_operations hknown ..), rfl⟩

/-- The operations of a body that is taken for a fee pair are that pair, and none are left. -/
theorem splitFee_of_creditsFees {tx : Transaction} {kind : TransactionKind}
    (hkind : tx.kind = .ok kind) (hzero : tx.shownFee.amount.isZero = true)
    (hcredits : kind.creditsFees) {signer : Address} {status : Option String}
    {ops : List Operation} (hops : tx.operations signer status = .ok ops) :
    hasFee ops = true ∧ (splitFee ops).2 = [] := by
  rw [operations_eq hkind, emitFee_eq_nil hzero, List.nil_append, List.length_nil] at hops
  cases hops
  have htaken := (hasFee_operations kind 0 signer status).trans hcredits
  have hlength := length_operations_le kind 0 signer status
  refine ⟨htaken, ?_⟩
  generalize hsplit : splitFee (kind.operations 0 signer status) = split
  obtain ⟨⟨debit, credit⟩, hpair⟩ := Option.isSome_iff_exists.mp htaken
  obtain ⟨first, rest⟩ := split
  rw [hsplit] at hpair
  obtain rfl : first = some (debit, credit) := hpair
  rw [(splitFee_eq_some_iff.mp hsplit).1] at hlength
  simpa using hlength

theorem ofOperations_ne_ok_of_creditsFees {tx : Transaction} {kind : TransactionKind}
    (hkind : tx.kind = .ok kind) (hzero : tx.shownFee.amount.isZero = true)
    (hcredits : kind.creditsFees) {signer : Address} {status : Option String}
    {ops : List Operation} (hops : tx.operations signer status = .ok ops)
    (read : Address × Transaction) : Transaction.ofOperations ops ≠ .ok read := by
  intro h
  obtain ⟨htaken, hrest⟩ := splitFee_of_creditsFees hkind hzero hcredits hops
  obtain ⟨_, fee, found, hdescribes, _⟩ := ofOperations_eq_ok_iff.mp h
  cases hdescribes with
  | paid hpair hfee hbody =>
      rw [splitFee_eq_some_iff.mpr ⟨rfl, hpair⟩] at hrest
      cases hrest
      cases hbody
  | unpaid hfree hbody =>
      rw [hfree] at htaken
      cases htaken

/-- What is emitted for a transaction of a known kind is read as the transaction, with its nonce
left out.  A fee of zero has to have the default gas, and no body may be taken for a fee pair. -/
theorem ofOperations_operations (signer : Address) (nonce : UInt64) (fee : Fee)
    {kind : TransactionKind} (hknown : kind.isKnown)
    (hfee : 0 < fee.amount.units ∨
      (fee.amount = .zero ∧ fee.gas = 10000 ∧ kind.creditsFees = false)) :
    ∃ ops, (Transaction.ofKind nonce fee kind).operations signer none = .ok ops ∧
      Transaction.ofOperations ops = .ok (signer, .ofKind 0 fee kind) := by
  have hkind : (Transaction.ofKind nonce fee kind).kind = .ok kind :=
    Transaction.kind_ofKind nonce fee hknown
  have hshown : (Transaction.ofKind nonce fee kind).shownFee = fee := by
    rcases hfee with hpositive | ⟨hamount, hgas, _⟩
    · have hzero : fee.amount.isZero = false := by simp [Quantity.isZero]; omega
      simp [Transaction.shownFee, Transaction.ofKind, hzero]
    · obtain ⟨gas, amount⟩ := fee
      simp only at hamount hgas
      rw [hamount, hgas]
      rfl
  have hops := operations_eq hkind signer none
  have hread := ofOperations_of_operations hkind hknown (fun hzero => ?_) hops
  · rw [hshown] at hread
    exact ⟨_, hops, hread⟩
  · rw [hshown, Quantity.isZero_iff] at hzero
    rcases hfee with hpositive | ⟨_, _, hcredits⟩
    · omega
    · exact hcredits

end

theorem ofOperations_operations_to_feeAccumulator :
    (TransactionKind.transfer ⟨Address.feeAccumulator, ⟨10 ^ 30⟩⟩).isKnown ∧ 0 < 1 ∧
      ∃ ops, (Transaction.ofKind 7 ⟨0xffffffffffffffff, ⟨1⟩⟩
          (.transfer ⟨Address.feeAccumulator, ⟨10 ^ 30⟩⟩)).operations Address.commonPool none
            = .ok ops ∧
        Transaction.ofOperations ops = .ok (Address.commonPool,
          .ofKind 0 ⟨0xffffffffffffffff, ⟨1⟩⟩
            (.transfer ⟨Address.feeAccumulator, ⟨10 ^ 30⟩⟩)) :=
  ⟨rfl, by decide, ofOperations_operations Address.commonPool 7 _ rfl (.inl (by decide))⟩

end StakingGateway
