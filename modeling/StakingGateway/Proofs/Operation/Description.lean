import StakingGateway.Operation.Matching
import StakingGateway.Proofs.Outcome
import StakingGateway.Proofs.Transaction.Basic

/-!
# What operations describe

`Describes signer ops kind` and `PaysFee` say, operation by operation, what the body and the fee
pair of a transaction look like: which account an operation is on and what number its amount
denotes, in whatever spelling.  The main statement is `ofOperations_eq_ok_iff`: the transaction
that is read from a list is the one that the list describes, and every list that is numbered in a
row and describes a transaction is read.
-/

namespace StakingGateway

open Api (Operation)

namespace Api.Operation

def IsOn (op : Operation) (address : Address) : Prop :=
  ∃ account, op.account = some account ∧ Address.ofText account.address = .ok address

/-- An operation of a kind, on the account of an address and a sub-account of it. -/
structure Concerns (op : Operation) (kind : OperationKind) (address : Address)
    (subAccount : Option String) : Prop where
  kind_eq : op.kind? = some kind
  isOn : op.IsOn address
  subAccount_eq : op.subAccount? = subAccount

/-- The amount of an operation denotes the units, in the currency of the chain. -/
def Moves (op : Operation) (units : Int) : Prop :=
  ∃ amount, op.amount = some amount ∧ amount.InCurrency ∧ amount.units? = some units

end Api.Operation

/-- A fee pair: the signer pays, and the same amount goes to the account that collects fees. -/
structure PaysFee (signer : Address) (fee : Fee) (debit credit : Operation) : Prop where
  debit_concerns : debit.Concerns .transfer signer none
  debit_moves : debit.Moves (fee.amount.signed true)
  gas_eq : debit.gas = .ok fee.gas
  credit_subAccount : credit.subAccount? = none
  credit_moves : credit.Moves (fee.amount.signed false)

/-- The operations describe the body of a transaction that the signer signs. -/
inductive Describes (signer : Address) : List Operation → TransactionKind → Prop
  | transfer {debit credit : Operation} {body : Staking.Transfer}
      (hdebit : debit.Concerns .transfer signer none)
      (hpaid : debit.Moves (body.amount.signed true))
      (hcredit : credit.Concerns .transfer body.target none)
      (hreceived : credit.Moves (body.amount.signed false)) :
      Describes signer [debit, credit] (.transfer body)
  | burn {op : Operation} {body : Staking.Burn}
      (hdebit : op.Concerns .burn signer none)
      (hpaid : op.Moves (body.amount.signed true)) :
      Describes signer [op] (.burn body)
  | addEscrow {debit credit : Operation} {body : Staking.AddEscrow}
      (hdebit : debit.Concerns .transfer signer none)
      (hpaid : debit.Moves (body.amount.signed true))
      (hcredit : credit.Concerns .transfer body.account (some escrowSubAccount))
      (hreceived : credit.Moves (body.amount.signed false)) :
      Describes signer [debit, credit] (.addEscrow body)
  | reclaimEscrow {first second : Operation} {body : Staking.ReclaimEscrow}
      (hfirst : first.Concerns .reclaimEscrow signer first.subAccount?)
      (hsecond : second.Concerns .reclaimEscrow body.account (some escrowSubAccount))
      (hnone : first.amount = none ∧ second.amount = none)
      (hshares : second.shares = .ok body.shares) :
      Describes signer [first, second] (.reclaimEscrow body)

/-! ## Readers of one operation -/

namespace Api.Operation

variable {op : Operation}

theorem address_eq_ok_iff (role : String) {address : Address} :
    op.address role = .ok address ↔ op.IsOn address := by
  unfold Operation.address IsOn
  cases op.account with
  | none => simp
  | some account => cases hread : Address.ofText account.address <;> simp [hread]

theorem quantity_eq_ok_iff (role : String) {debit : Bool} {q : Quantity} :
    op.quantity debit role = .ok q ↔ op.Moves (q.signed debit) := by
  unfold Operation.quantity Moves
  cases op.amount with
  | none => simp
  | some amount =>
      simp only [Option.some.injEq, exists_eq_left', ← Quantity.ofAmount_eq_ok_iff]
      cases hread : Quantity.ofAmount amount debit <;> simp

end Api.Operation

theorem readSigner_eq_ok_iff {payer : Option Address} {op : Operation} (role : String)
    {signer : Address} :
    readSigner payer op role = .ok signer ↔
      (∀ p ∈ payer, p = signer) ∧ op.IsOn signer := by
  rw [← Api.Operation.address_eq_ok_iff role, readSigner, bind_eq_ok_iff]
  cases payer with
  | none => simp [pure_eq_ok_iff]
  | some p =>
      simp only [Option.mem_def, Option.some.injEq, forall_eq']
      constructor
      · rintro ⟨source, hsource, hsigner⟩
        split at hsigner
        next heq =>
          obtain rfl := pure_eq_ok_iff.mp hsigner
          exact ⟨heq, hsource⟩
        next => exact (throw_eq_ok_iff.mp hsigner).elim
      · rintro ⟨rfl, hsource⟩
        exact ⟨p, hsource, by rw [if_pos rfl]; rfl⟩

/-! ## Readers of several operations -/

section

variable {payer : Option Address} {signer : Address}

theorem readTransfer_eq_ok_iff {debit credit : Operation} (role : String) {target : Address}
    {amount : Quantity} :
    readTransfer payer debit credit role = .ok (signer, target, amount) ↔
      (∀ p ∈ payer, p = signer) ∧ debit.IsOn signer ∧ debit.Moves (amount.signed true) ∧
        credit.IsOn target ∧ credit.Moves (amount.signed false) := by
  simp only [readTransfer, bind_eq_ok_iff, readSigner_eq_ok_iff,
    Api.Operation.address_eq_ok_iff, Api.Operation.quantity_eq_ok_iff]
  constructor
  · rintro ⟨source, ⟨hpayer, hsource⟩, debited, hdebited, found, htarget, credited, hcredited, h⟩
    split at h
    next => exact (throw_bind_ne_ok h).elim
    next heq =>
      cases pure_eq_ok_iff.mp h
      rw [← Decidable.not_not.mp heq] at hcredited
      exact ⟨hpayer, hsource, hdebited, htarget, hcredited⟩
  · rintro ⟨hpayer, hsource, hdebited, htarget, hcredited⟩
    refine ⟨signer, ⟨hpayer, hsource⟩, amount, hdebited, target, htarget, amount, hcredited, ?_⟩
    rw [if_neg (not_not_intro rfl)]
    rfl

theorem readReclaim_eq_ok_iff {first second : Operation} {body : Staking.ReclaimEscrow} :
    readReclaim payer first second = .ok (signer, body) ↔
      (∀ p ∈ payer, p = signer) ∧ first.IsOn signer ∧ second.IsOn body.account ∧
        (first.amount = none ∧ second.amount = none) ∧ second.shares = .ok body.shares := by
  simp only [readReclaim, bind_eq_ok_iff, readSigner_eq_ok_iff]
  constructor
  · rintro ⟨source, ⟨hpayer, hsource⟩, h⟩
    split at h
    next => exact (throw_bind_ne_ok h).elim
    next hnone =>
      simp only [bind_eq_ok_iff, Api.Operation.address_eq_ok_iff] at h
      obtain ⟨account, haccount, shares, hshares, h⟩ := h
      cases pure_eq_ok_iff.mp h
      rw [not_or, Option.not_isSome_iff_eq_none, Option.not_isSome_iff_eq_none] at hnone
      exact ⟨hpayer, hsource, haccount, hnone, hshares⟩
  · rintro ⟨hpayer, hsource, haccount, hnone, hshares⟩
    refine ⟨signer, ⟨hpayer, hsource⟩, ?_⟩
    rw [if_neg (by simp [hnone])]
    simp only [bind_eq_ok_iff, Api.Operation.address_eq_ok_iff]
    exact ⟨body.account, haccount, body.shares, hshares, rfl⟩

end

theorem readFee_eq_ok_iff {debit credit : Operation} {payer : Address} {fee : Fee}
    (hkind : debit.kind? = some .transfer) :
    readFee debit credit = .ok (payer, fee) ↔ PaysFee payer fee debit credit := by
  unfold readFee
  cases hdebit : debit.subAccount? with
  | some found =>
      constructor
      · intro h
        exact (throw_bind_ne_ok h).elim
      · intro h
        rw [h.debit_concerns.subAccount_eq] at hdebit
        cases hdebit
  | none =>
      cases hcredit : credit.subAccount? with
      | some found =>
          simp only [bind_eq_ok_iff, throw_eq_ok_iff]
          constructor
          · rintro ⟨_, _, _, _, _, _, _, h, _⟩
            exact h.elim
          · intro h
            rw [h.credit_subAccount] at hcredit
            cases hcredit
      | none =>
          simp only [bind_eq_ok_iff, Api.Operation.address_eq_ok_iff,
            Api.Operation.quantity_eq_ok_iff]
          constructor
          · rintro ⟨source, hsource, debited, hdebited, gas, hgas, credited, hcredited, h⟩
            split at h
            next => exact (throw_bind_ne_ok h).elim
            next heq =>
              cases pure_eq_ok_iff.mp h
              rw [← Decidable.not_not.mp heq] at hcredited
              exact ⟨⟨hkind, hsource, hdebit⟩, hdebited, hgas, hcredit, hcredited⟩
          · rintro ⟨⟨_, hsource, _⟩, hdebited, hgas, _, hcredited⟩
            refine ⟨payer, hsource, fee.amount, hdebited, fee.gas, hgas, fee.amount, hcredited, ?_⟩
            rw [if_neg (not_not_intro rfl)]
            rfl

theorem Describes.readKind_eq {ops : List Operation} {signer : Address} {kind : TransactionKind}
    (h : Describes signer ops kind) (payer : Option Address) (hpayer : ∀ p ∈ payer, p = signer) :
    readKind payer ops = .ok (signer, kind) := by
  cases h with
  | transfer hdebit hpaid hcredit hreceived =>
      have hread := (readTransfer_eq_ok_iff "transfer").mpr
        ⟨hpayer, hdebit.isOn, hpaid, hcredit.isOn, hreceived⟩
      simp only [readKind, hdebit.kind_eq, hdebit.subAccount_eq, hcredit.kind_eq,
        hcredit.subAccount_eq, hread]
      rfl
  | burn hdebit hpaid =>
      have hsigner := (readSigner_eq_ok_iff "burn").mpr ⟨hpayer, hdebit.isOn⟩
      have hamount := (Api.Operation.quantity_eq_ok_iff "burn from").mpr hpaid
      simp only [readKind, hdebit.kind_eq, hdebit.subAccount_eq, hsigner, hamount]
      rfl
  | addEscrow hdebit hpaid hcredit hreceived =>
      have hread := (readTransfer_eq_ok_iff "add escrow").mpr
        ⟨hpayer, hdebit.isOn, hpaid, hcredit.isOn, hreceived⟩
      simp only [readKind, hdebit.kind_eq, hdebit.subAccount_eq, hcredit.kind_eq,
        hcredit.subAccount_eq, Api.Operation.isEscrow, hread]
      rfl
  | reclaimEscrow hfirst hsecond hnone hshares =>
      have hread := readReclaim_eq_ok_iff.mpr
        ⟨hpayer, hfirst.isOn, hsecond.isOn, hnone, hshares⟩
      simp only [readKind, hfirst.kind_eq, hsecond.kind_eq, hsecond.subAccount_eq,
        Api.Operation.isEscrow, hread]
      rfl

/-- A body is read from the operations that describe it, if the payer of the fee signs it. -/
theorem readKind_eq_ok_iff {payer : Option Address} {ops : List Operation} {signer : Address}
    {kind : TransactionKind} :
    readKind payer ops = .ok (signer, kind) ↔
      (∀ p ∈ payer, p = signer) ∧ Describes signer ops kind := by
  constructor
  · intro h
    unfold readKind at h
    split at h
    next op =>
      split at h
      next hguard =>
        simp only [bind_eq_ok_iff, readSigner_eq_ok_iff, Api.Operation.quantity_eq_ok_iff] at h
        obtain ⟨source, ⟨hpayer, hsource⟩, amount, hpaid, h⟩ := h
        cases pure_eq_ok_iff.mp h
        exact ⟨hpayer, .burn ⟨hguard.1, hsource, Option.isNone_iff_eq_none.mp hguard.2⟩ hpaid⟩
      next => cases h
    next first second =>
      split at h
      next hguard =>
        obtain ⟨⟨source, target, amount⟩, hread, h⟩ := bind_eq_ok_iff.mp h
        cases pure_eq_ok_iff.mp h
        obtain ⟨hpayer, hsource, hpaid, htarget, hreceived⟩ := (readTransfer_eq_ok_iff _).mp hread
        simp only [Option.isNone_iff_eq_none] at hguard
        exact ⟨hpayer, .transfer ⟨hguard.1, hsource, hguard.2.2.1⟩ hpaid
          ⟨hguard.2.1, htarget, hguard.2.2.2⟩ hreceived⟩
      split at h
      next hguard =>
        obtain ⟨⟨source, target, amount⟩, hread, h⟩ := bind_eq_ok_iff.mp h
        cases pure_eq_ok_iff.mp h
        obtain ⟨hpayer, hsource, hpaid, htarget, hreceived⟩ := (readTransfer_eq_ok_iff _).mp hread
        simp only [Option.isNone_iff_eq_none, Api.Operation.isEscrow, decide_eq_true_eq] at hguard
        exact ⟨hpayer, .addEscrow ⟨hguard.1, hsource, hguard.2.2.1⟩ hpaid
          ⟨hguard.2.1, htarget, hguard.2.2.2⟩ hreceived⟩
      split at h
      next hguard =>
        obtain ⟨⟨source, body⟩, hread, h⟩ := bind_eq_ok_iff.mp h
        cases pure_eq_ok_iff.mp h
        obtain ⟨hpayer, hsource, haccount, hnone, hshares⟩ := readReclaim_eq_ok_iff.mp hread
        simp only [Api.Operation.isEscrow, decide_eq_true_eq] at hguard
        exact ⟨hpayer, .reclaimEscrow ⟨hguard.1, hsource, rfl⟩
          ⟨hguard.2.1, haccount, hguard.2.2⟩ hnone hshares⟩
      next => cases h
    next => cases h
  · rintro ⟨hpayer, hdescribes⟩
    exact hdescribes.readKind_eq payer hpayer

theorem Describes.isKnown {signer : Address} {ops : List Operation} {kind : TransactionKind}
    (h : Describes signer ops kind) : kind.isKnown := by
  cases h <;> rfl

section

variable [Suite]

/-- The operations describe a transaction: a fee pair and a body, or a body alone, which goes with
the default fee. -/
inductive DescribesAll (signer : Address) : List Operation → Fee → TransactionKind → Prop
  | paid {debit credit : Operation} {rest : List Operation} {fee : Fee} {kind : TransactionKind}
      (hpair : isFeePair debit credit) (hfee : PaysFee signer fee debit credit)
      (hbody : Describes signer rest kind) :
      DescribesAll signer (debit :: credit :: rest) fee kind
  | unpaid {ops : List Operation} {kind : TransactionKind}
      (hfee : hasFee ops = false) (hbody : Describes signer ops kind) :
      DescribesAll signer ops ⟨defaultGas, .zero⟩ kind

theorem DescribesAll.isKnown {signer : Address} {ops : List Operation} {fee : Fee}
    {kind : TransactionKind} (h : DescribesAll signer ops fee kind) : kind.isKnown := by
  cases h with
  | paid _ _ hbody => exact hbody.isKnown
  | unpaid _ hbody => exact hbody.isKnown

theorem splitFee_eq_some_iff {ops rest : List Operation} {debit credit : Operation} :
    splitFee ops = (some (debit, credit), rest) ↔
      ops = debit :: credit :: rest ∧ isFeePair debit credit := by
  unfold splitFee
  split
  next first second tail =>
    split
    next hpair =>
      constructor
      · rintro ⟨⟩
        exact ⟨rfl, hpair⟩
      · rintro ⟨⟨⟩, _⟩
        rfl
    next hpair =>
      constructor
      · rintro ⟨⟩
      · rintro ⟨⟨⟩, h⟩
        exact absurd h hpair
  next hshort =>
    constructor
    · rintro ⟨⟩
    · rintro ⟨rfl, _⟩
      exact (hshort debit credit rest rfl).elim

theorem splitFee_eq_none_iff {ops rest : List Operation} :
    splitFee ops = (none, rest) ↔ rest = ops ∧ hasFee ops = false := by
  unfold hasFee splitFee
  split
  next first second tail =>
    split
    next => simp
    next => simp [eq_comm]
  next => simp [eq_comm]

theorem isFeePair_iff {debit credit : Operation} :
    isFeePair debit credit = true ↔
      debit.kind? = some .transfer ∧ credit.kind? = some .transfer ∧
        ∃ account, credit.account = some account ∧
          account.address = Address.feeAccumulator.text := by
  cases haccount : credit.account with
  | none => simp [isFeePair, haccount]
  | some account => simp [isFeePair, haccount, and_assoc]

/-- A transaction is read from the lists that are numbered in a row and describe it. -/
theorem ofOperations_eq_ok_iff {ops : List Operation} {signer : Address} {tx : Transaction} :
    Transaction.ofOperations ops = .ok (signer, tx) ↔
      checkIndices 0 ops = .ok () ∧
        ∃ fee kind, DescribesAll signer ops fee kind ∧ tx = .ofKind 0 fee kind := by
  rw [Transaction.ofOperations, bind_eq_ok_iff]
  constructor
  · rintro ⟨⟨⟩, hindices, h⟩
    refine ⟨hindices, ?_⟩
    split at h
    next debit credit rest hsplit =>
      obtain ⟨rfl, hpair⟩ := splitFee_eq_some_iff.mp hsplit
      obtain ⟨⟨payer, fee⟩, hread, h⟩ := bind_eq_ok_iff.mp h
      obtain ⟨⟨source, kind⟩, hkind, h⟩ := bind_eq_ok_iff.mp h
      cases pure_eq_ok_iff.mp h
      obtain ⟨hpayer, hbody⟩ := readKind_eq_ok_iff.mp hkind
      obtain rfl := hpayer payer rfl
      have hfee := (readFee_eq_ok_iff (isFeePair_iff.mp hpair).1).mp hread
      exact ⟨fee, kind, .paid hpair hfee hbody, rfl⟩
    next rest hsplit =>
      obtain ⟨rfl, hfee⟩ := splitFee_eq_none_iff.mp hsplit
      obtain ⟨⟨source, kind⟩, hkind, h⟩ := bind_eq_ok_iff.mp h
      cases pure_eq_ok_iff.mp h
      exact ⟨_, kind, .unpaid hfee (readKind_eq_ok_iff.mp hkind).2, rfl⟩
  · rintro ⟨hindices, fee, kind, hdescribes, rfl⟩
    refine ⟨(), hindices, ?_⟩
    cases hdescribes with
    | paid hpair hfee hbody =>
        have hread := (readFee_eq_ok_iff (isFeePair_iff.mp hpair).1).mpr hfee
        have hkind := hbody.readKind_eq (some signer) (by simp)
        simp only [splitFee_eq_some_iff.mpr ⟨rfl, hpair⟩]
        exact bind_eq_ok_iff.mpr ⟨_, hread, bind_eq_ok_iff.mpr ⟨_, hkind, rfl⟩⟩
    | unpaid hfee hbody =>
        have hkind := hbody.readKind_eq none (by simp)
        simp only [splitFee_eq_none_iff.mpr ⟨rfl, hfee⟩]
        exact bind_eq_ok_iff.mpr ⟨_, hkind, rfl⟩

end

end StakingGateway
