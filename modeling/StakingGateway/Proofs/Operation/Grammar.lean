import StakingGateway.Proofs.Operation.Description
import StakingGateway.Proofs.Operation.Numbering

/-!
# The grammar of operations

Which lists of operations describe a transaction, said of the operations alone: of their numbers,
types, accounts, amounts and metadata.  A list is in order, and it is a fee pair and a body or,
where no fee pair stands in front, a body.  These are the lists that are accepted, and no others;
that is the main statement, `ofOperations_eq_ok_iff_grammatical`.

Nothing is said of the credit of a fee but what tells a fee pair, since the account that is named
there is known by its text.
-/

namespace StakingGateway

open Api (Operation)

/-- Every operation has the number of its place, and relates only to numbers below it. -/
def InOrder (ops : List Operation) : Prop :=
  ∀ (place : Nat) (op : Operation), ops[place]? = some op →
    op.operationIdentifier.index.toInt = place ∧
      ∀ related ∈ op.relatedOperations.getD [],
        0 ≤ related.index.toInt ∧ related.index.toInt < place

namespace Api.Operation

/-- The metadata of an operation tells no gas, or a number that stands for one. -/
def AllowsGas (op : Operation) : Prop :=
  op.metadata? feeGasKey = none ∨
    ∃ number gas, op.metadata? feeGasKey = some (.number number) ∧
      Gas.ofNumber? number = some gas

/-- The metadata of an operation tells a number of shares, as a text of decimal digits. -/
def TellsShares (op : Operation) : Prop :=
  ∃ text, op.metadata? sharesKey = some (.string text) ∧ text.toList ≠ [] ∧
    ∀ c ∈ text.toList, c.isDigit

end Api.Operation

/-- A debit of the signer and a credit of the same amount to some account, or to a sub-account of
it. -/
structure IsMove (signer : Address) (subAccount : Option String) (debit credit : Operation) :
    Prop where
  debit_concerns : debit.Concerns .transfer signer none
  credit_concerns : ∃ target, credit.Concerns .transfer target subAccount
  amounts : ∃ units : Nat, debit.Moves (-(units : Int)) ∧ credit.Moves units

inductive IsBody (signer : Address) : List Operation → Prop
  | transfer {debit credit : Operation} (hmove : IsMove signer none debit credit) :
      IsBody signer [debit, credit]
  | burn {op : Operation} (hdebit : op.Concerns .burn signer none)
      (hpaid : ∃ units : Nat, op.Moves (-(units : Int))) :
      IsBody signer [op]
  | addEscrow {debit credit : Operation}
      (hmove : IsMove signer (some escrowSubAccount) debit credit) :
      IsBody signer [debit, credit]
  | reclaimEscrow {first second : Operation}
      (hfirst : first.kind? = some .reclaimEscrow ∧ first.IsOn signer)
      (hsecond : ∃ account, second.Concerns .reclaimEscrow account (some escrowSubAccount))
      (hnone : first.amount = none ∧ second.amount = none)
      (hshares : second.TellsShares) :
      IsBody signer [first, second]

section

variable [Suite]

/-- The list begins with two transfers, and the text of the address of the second is that of the
account that collects fees. -/
def BeginsWithFee (ops : List Operation) : Prop :=
  ∃ debit credit rest account, ops = debit :: credit :: rest ∧
    debit.kind? = some .transfer ∧ credit.kind? = some .transfer ∧
    credit.account = some account ∧ account.address = Address.feeAccumulator.text

/-- A fee pair that the signer pays and a body that the signer signs, or a body alone. -/
inductive Grammatical : List Operation → Prop
  | paid {signer : Address} {debit credit : Operation} {body : List Operation}
      (hbegins : BeginsWithFee (debit :: credit :: body))
      (hmove : IsMove signer none debit credit) (hgas : debit.AllowsGas)
      (hbody : IsBody signer body) : Grammatical (debit :: credit :: body)
  | unpaid {signer : Address} {body : List Operation}
      (hfree : ¬ BeginsWithFee body) (hbody : IsBody signer body) : Grammatical body

end

/-! ## Numbers -/

section

variable {next : Nat}

theorem checkRelated_eq_ok_iff (hnext : next < 2 ^ 63) {list : List Api.OperationIdentifier} :
    checkRelated (Int64.ofNat next) list = .ok () ↔
      ∀ related ∈ list, 0 ≤ related.index.toInt ∧ related.index.toInt < next := by
  induction list with
  | nil => simp [checkRelated]
  | cons related rest ih =>
      have hprecedes : (related.index < 0 ∨ Int64.ofNat next ≤ related.index) ↔
          ¬ (0 ≤ related.index.toInt ∧ related.index.toInt < next) := by
        rw [Int64.lt_iff_toInt_lt, Int64.le_iff_toInt_le, Int64.toInt_ofNat_of_lt hnext,
          Int64.toInt_zero]
        omega
      rw [checkRelated, List.forall_mem_cons, ← ih]
      split
      next hwrong => simp [hprecedes.mp hwrong]
      next hright => simp [Decidable.not_not.mp (mt hprecedes.mpr hright)]

theorem checkIndices_eq_ok_iff {ops : List Operation} (hroom : next + ops.length ≤ 2 ^ 63) :
    checkIndices next ops = .ok () ↔
      ∀ (place : Nat) (op : Operation), ops[place]? = some op →
        op.operationIdentifier.index.toInt = (next + place : Nat) ∧
          ∀ related ∈ op.relatedOperations.getD [],
            0 ≤ related.index.toInt ∧ related.index.toInt < (next + place : Nat) := by
  induction ops generalizing next with
  | nil => simp [checkIndices]
  | cons first rest ih =>
      rw [List.length_cons] at hroom
      have hnext : next < 2 ^ 63 := by omega
      have hindex : first.operationIdentifier.index = Int64.ofNat next ↔
          first.operationIdentifier.index.toInt = next := by
        rw [← Int64.toInt_inj, Int64.toInt_ofNat_of_lt hnext]
      rw [checkIndices_cons_iff, checkRelated_eq_ok_iff hnext, ih (by omega), hindex]
      constructor
      · rintro ⟨hfirst, hrelated, hrest⟩ place op hop
        cases place with
        | zero =>
            cases hop
            exact ⟨hfirst, hrelated⟩
        | succ place =>
            rw [show next + (place + 1) = next + 1 + place by omega]
            exact hrest place op hop
      · intro h
        refine ⟨(h 0 first rfl).1, (h 0 first rfl).2, fun place op hop => ?_⟩
        rw [show next + 1 + place = next + (place + 1) by omega]
        exact h (place + 1) op hop

theorem checkIndices_iff_inOrder {ops : List Operation} (hroom : ops.length ≤ 2 ^ 63) :
    checkIndices 0 ops = .ok () ↔ InOrder ops := by
  rw [checkIndices_eq_ok_iff (by rwa [Nat.zero_add])]
  simp only [Nat.zero_add, InOrder]

end

/-! ## Metadata -/

theorem exists_ofText_eq_ok_iff {text : String} :
    (∃ q, Quantity.ofText text = .ok q) ↔ text.toList ≠ [] ∧ ∀ c ∈ text.toList, c.isDigit := by
  simp only [Quantity.ofText_eq_ok_iff, Quantity.digitsValue?, List.all_eq_true]
  constructor
  · rintro ⟨q, hq⟩
    by_contra hdigits
    rw [if_neg hdigits] at hq
    cases hq
  · intro hdigits
    exact ⟨⟨_⟩, if_pos hdigits⟩

namespace Api.Operation

variable {op : Operation}

theorem exists_gas_eq_ok_iff : (∃ gas, op.gas = .ok gas) ↔ op.AllowsGas := by
  unfold Operation.gas AllowsGas
  cases op.metadata? feeGasKey with
  | none => simp
  | some value =>
      cases value with
      | number number => cases hgas : Gas.ofNumber? number <;> simp [hgas]
      | _ => simp

theorem shares_eq_ok_iff {shares : Quantity} :
    op.shares = .ok shares ↔
      ∃ text, op.metadata? sharesKey = some (.string text) ∧ Quantity.ofText text = .ok shares := by
  unfold Operation.shares
  cases op.metadata? sharesKey with
  | none => simp
  | some value =>
      cases value with
      | string text => cases hread : Quantity.ofText text <;> simp [hread]
      | _ => simp

theorem exists_shares_eq_ok_iff : (∃ shares, op.shares = .ok shares) ↔ op.TellsShares := by
  simp only [shares_eq_ok_iff, TellsShares, ← exists_ofText_eq_ok_iff]
  exact ⟨fun ⟨shares, text, htext, hread⟩ => ⟨text, htext, shares, hread⟩,
    fun ⟨text, htext, shares, hread⟩ => ⟨shares, text, htext, hread⟩⟩

end Api.Operation

/-! ## Bodies and fees -/

theorem isMove_iff {signer : Address} {subAccount : Option String} {debit credit : Operation} :
    IsMove signer subAccount debit credit ↔
      debit.Concerns .transfer signer none ∧
      (∃ target, credit.Concerns .transfer target subAccount) ∧
      ∃ amount : Quantity, debit.Moves (amount.signed true) ∧ credit.Moves (amount.signed false) :=
  ⟨fun ⟨hdebit, hcredit, units, hpaid, hreceived⟩ => ⟨hdebit, hcredit, ⟨units⟩, hpaid, hreceived⟩,
    fun ⟨hdebit, hcredit, amount, hpaid, hreceived⟩ =>
      ⟨hdebit, hcredit, amount.units, hpaid, hreceived⟩⟩

theorem exists_describes_iff {signer : Address} {ops : List Operation} :
    (∃ kind, Describes signer ops kind) ↔ IsBody signer ops := by
  constructor
  · rintro ⟨kind, hdescribes⟩
    cases hdescribes with
    | transfer hdebit hpaid hcredit hreceived =>
        exact .transfer (isMove_iff.mpr ⟨hdebit, ⟨_, hcredit⟩, _, hpaid, hreceived⟩)
    | burn hdebit hpaid => exact .burn hdebit ⟨_, hpaid⟩
    | addEscrow hdebit hpaid hcredit hreceived =>
        exact .addEscrow (isMove_iff.mpr ⟨hdebit, ⟨_, hcredit⟩, _, hpaid, hreceived⟩)
    | reclaimEscrow hfirst hsecond hnone hshares =>
        exact .reclaimEscrow ⟨hfirst.kind_eq, hfirst.isOn⟩ ⟨_, hsecond⟩ hnone
          (Operation.exists_shares_eq_ok_iff.mp ⟨_, hshares⟩)
  · intro hbody
    cases hbody with
    | transfer hmove =>
        obtain ⟨hdebit, ⟨target, hcredit⟩, amount, hpaid, hreceived⟩ := isMove_iff.mp hmove
        exact ⟨.transfer ⟨target, amount⟩, .transfer hdebit hpaid hcredit hreceived⟩
    | burn hdebit hpaid =>
        obtain ⟨units, hpaid⟩ := hpaid
        exact ⟨.burn ⟨⟨units⟩⟩, .burn hdebit hpaid⟩
    | addEscrow hmove =>
        obtain ⟨hdebit, ⟨target, hcredit⟩, amount, hpaid, hreceived⟩ := isMove_iff.mp hmove
        exact ⟨.addEscrow ⟨amount, target⟩, .addEscrow hdebit hpaid hcredit hreceived⟩
    | reclaimEscrow hfirst hsecond hnone hshares =>
        obtain ⟨account, hsecond⟩ := hsecond
        obtain ⟨shares, hshares⟩ := Operation.exists_shares_eq_ok_iff.mpr hshares
        exact ⟨.reclaimEscrow ⟨shares, account⟩,
          .reclaimEscrow ⟨hfirst.1, hfirst.2, rfl⟩ hsecond hnone hshares⟩

theorem IsBody.length_le {signer : Address} {ops : List Operation} (h : IsBody signer ops) :
    ops.length ≤ 2 := by
  cases h <;> simp

section

variable [Suite]

theorem beginsWithFee_cons_iff {debit credit : Operation} {rest : List Operation} :
    BeginsWithFee (debit :: credit :: rest) ↔ isFeePair debit credit := by
  rw [isFeePair_iff]
  constructor
  · rintro ⟨_, _, _, account, ⟨⟩, hdebit, hcredit, haccount⟩
    exact ⟨hdebit, hcredit, account, haccount⟩
  · rintro ⟨hdebit, hcredit, account, haccount⟩
    exact ⟨_, _, _, account, rfl, hdebit, hcredit, haccount⟩

theorem not_beginsWithFee_iff {ops : List Operation} :
    ¬ BeginsWithFee ops ↔ hasFee ops = false := by
  unfold hasFee splitFee
  split
  next debit credit rest =>
    rw [beginsWithFee_cons_iff]
    split
    next hpair => simp [hpair]
    next hpair => simp [hpair]
  next hshort =>
    simp only [Option.isSome_none, iff_true]
    rintro ⟨debit, credit, rest, _, rfl, _⟩
    exact hshort debit credit rest rfl

/-- A pair that is known for a fee pair by its text pays a fee if it moves an amount and allows
gas. -/
theorem exists_paysFee_iff {signer : Address} {debit credit : Operation}
    (hpair : isFeePair debit credit) :
    (∃ fee, PaysFee signer fee debit credit) ↔
      IsMove signer none debit credit ∧ debit.AllowsGas := by
  obtain ⟨_, hkind, account, haccount, haddress⟩ := isFeePair_iff.mp hpair
  have hcollector : credit.IsOn Address.feeAccumulator :=
    ⟨account, haccount, by rw [haddress, Address.ofText_text]⟩
  rw [isMove_iff, ← Operation.exists_gas_eq_ok_iff]
  constructor
  · rintro ⟨fee, hfee⟩
    exact ⟨⟨hfee.debit_concerns, ⟨_, hkind, hcollector, hfee.credit_subAccount⟩, fee.amount,
      hfee.debit_moves, hfee.credit_moves⟩, fee.gas, hfee.gas_eq⟩
  · rintro ⟨⟨hdebit, ⟨_, hcredit⟩, amount, hpaid, hreceived⟩, gas, hgas⟩
    exact ⟨⟨gas, amount⟩, hdebit, hpaid, hgas, hcredit.subAccount_eq, hreceived⟩

theorem exists_describesAll_iff {ops : List Operation} :
    (∃ signer fee kind, DescribesAll signer ops fee kind) ↔ Grammatical ops := by
  constructor
  · rintro ⟨signer, fee, kind, hdescribes⟩
    cases hdescribes with
    | paid hpair hfee hbody =>
        obtain ⟨hmove, hgas⟩ := (exists_paysFee_iff hpair).mp ⟨_, hfee⟩
        exact .paid (beginsWithFee_cons_iff.mpr hpair) hmove hgas
          (exists_describes_iff.mp ⟨_, hbody⟩)
    | unpaid hfree hbody =>
        exact .unpaid (not_beginsWithFee_iff.mpr hfree) (exists_describes_iff.mp ⟨_, hbody⟩)
  · intro hgrammatical
    cases hgrammatical with
    | paid hbegins hmove hgas hbody =>
        have hpair := beginsWithFee_cons_iff.mp hbegins
        obtain ⟨fee, hfee⟩ := (exists_paysFee_iff hpair).mpr ⟨hmove, hgas⟩
        obtain ⟨kind, hdescribes⟩ := exists_describes_iff.mpr hbody
        exact ⟨_, fee, kind, .paid hpair hfee hdescribes⟩
    | unpaid hfree hbody =>
        obtain ⟨kind, hdescribes⟩ := exists_describes_iff.mpr hbody
        exact ⟨_, _, kind, .unpaid (not_beginsWithFee_iff.mp hfree) hdescribes⟩

theorem Grammatical.length_le {ops : List Operation} (h : Grammatical ops) : ops.length ≤ 4 := by
  cases h with
  | paid _ _ _ hbody =>
      have htwo := hbody.length_le
      simp only [List.length_cons]
      omega
  | unpaid _ hbody =>
      have htwo := hbody.length_le
      omega

/-- The lists that are accepted are those that are in order and grammatical. -/
theorem ofOperations_eq_ok_iff_grammatical {ops : List Operation} :
    (∃ signer tx, Transaction.ofOperations ops = .ok (signer, tx)) ↔
      InOrder ops ∧ Grammatical ops := by
  have hnumbers (h : Grammatical ops) : checkIndices 0 ops = .ok () ↔ InOrder ops := by
    have hlength := h.length_le
    exact checkIndices_iff_inOrder (by omega)
  simp only [ofOperations_eq_ok_iff]
  constructor
  · rintro ⟨signer, tx, hindices, fee, kind, hdescribes, _⟩
    have hgrammatical := exists_describesAll_iff.mp ⟨signer, fee, kind, hdescribes⟩
    exact ⟨(hnumbers hgrammatical).mp hindices, hgrammatical⟩
  · rintro ⟨horder, hgrammatical⟩
    obtain ⟨signer, fee, kind, hdescribes⟩ := exists_describesAll_iff.mpr hgrammatical
    exact ⟨signer, _, (hnumbers hgrammatical).mpr horder, fee, kind, hdescribes, rfl⟩

end

end StakingGateway
