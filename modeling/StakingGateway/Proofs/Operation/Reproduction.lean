import StakingGateway.Proofs.Operation.Ledger
import StakingGateway.Proofs.Operation.RoundTrip

/-!
# Operations shown again

The operations that are emitted for the transaction that a list describes are those of the list:
one for one they are of the same type, on the same address and sub-account, and move the same, in
whatever spelling the list has it.

There is one exception.  The operation that begins a reclaim may name any sub-account
(`NamesReclaimer`).  The transaction has no place for it, and none is emitted.
-/

namespace StakingGateway

open Api (Operation)

/-- An operation shows what another one does, but that an operation of a reclaim may lose its
sub-account. -/
structure Api.Operation.ShownAs (op shown : Operation) : Prop where
  type_eq : shown.type = op.type
  address_eq : ∃ address, op.IsOn address ∧ shown.IsOn address
  amount_eq : (op.amount = none ∧ shown.amount = none) ∨
    ∃ units, op.Moves units ∧ shown.Moves units
  subAccount_eq : shown.subAccount? = op.subAccount? ∨
    (op.kind? = some .reclaimEscrow ∧ shown.subAccount? = none)

def NamesReclaimer (body : List Operation) : Prop :=
  ∃ first second, body = [first, second] ∧ first.kind? = some .reclaimEscrow ∧
    first.subAccount? ≠ none

theorem type_eq_of_kind? {op : Operation} {kind : OperationKind} (h : op.kind? = some kind) :
    op.type = kind.name := by
  have hname := List.find?_some h
  exact (of_decide_eq_true hname).symm

section

variable {op shown : Operation} {kind : OperationKind} {address : Address}

theorem type_eq_of_concerns {subAccount subAccount' : Option String}
    (hop : op.Concerns kind address subAccount) (hshown : shown.Concerns kind address subAccount') :
    shown.type = op.type := by
  rw [type_eq_of_kind? hop.kind_eq, type_eq_of_kind? hshown.kind_eq]

theorem shownAs_of_moves {subAccount : Option String} {units : Int}
    (hop : op.Concerns kind address subAccount) (hshown : shown.Concerns kind address subAccount)
    (hmoves : op.Moves units) (hshows : shown.Moves units) : op.ShownAs shown :=
  ⟨type_eq_of_concerns hop hshown, ⟨address, hop.isOn, hshown.isOn⟩, .inr ⟨units, hmoves, hshows⟩,
    .inl (hshown.subAccount_eq.trans hop.subAccount_eq.symm)⟩

end

section

variable {signer : Address} {ops shown : List Operation} {kind : TransactionKind}

def TransactionKind.subAccounts : TransactionKind → List (Option String)
  | .transfer _ => [none, none]
  | .burn _ => [none]
  | .addEscrow _ => [none, some escrowSubAccount]
  | .reclaimEscrow _ => [none, some escrowSubAccount]
  | .unknown _ => []

theorem map_subAccount?_operations (kind : TransactionKind) (index : Nat) (signer : Address)
    (status : Option String) :
    (kind.operations index signer status).map Operation.subAccount? = kind.subAccounts := by
  cases kind <;> rfl

theorem not_namesReclaimer_of_kind? {first : Operation} {rest : List Operation}
    {found : OperationKind} (hkind : first.kind? = some found) (hfound : found ≠ .reclaimEscrow) :
    ¬ NamesReclaimer (first :: rest) := by
  rintro ⟨_, _, heq, hreclaim, _⟩
  obtain ⟨rfl, _⟩ := List.cons.inj heq
  rw [hkind] at hreclaim
  exact hfound (Option.some.inj hreclaim)

/-- Operations that describe a body are on the sub-accounts of those that are emitted for it, unless
they name a reclaimer. -/
theorem Describes.map_subAccount?_eq_iff (h : Describes signer ops kind) :
    ops.map Operation.subAccount? = kind.subAccounts ↔ ¬ NamesReclaimer ops := by
  cases h with
  | @transfer debit credit _ hdebit _ hcredit _ =>
      have hother : ¬ NamesReclaimer [debit, credit] :=
        not_namesReclaimer_of_kind? hdebit.kind_eq nofun
      simp [TransactionKind.subAccounts, hdebit.subAccount_eq, hcredit.subAccount_eq, hother]
  | @burn op _ hdebit _ =>
      have hother : ¬ NamesReclaimer [op] := not_namesReclaimer_of_kind? hdebit.kind_eq nofun
      simp [TransactionKind.subAccounts, hdebit.subAccount_eq, hother]
  | @addEscrow debit credit _ hdebit _ hcredit _ =>
      have hother : ¬ NamesReclaimer [debit, credit] :=
        not_namesReclaimer_of_kind? hdebit.kind_eq nofun
      simp [TransactionKind.subAccounts, hdebit.subAccount_eq, hcredit.subAccount_eq, hother]
  | @reclaimEscrow first second _ hfirst hsecond _ _ =>
      have hnames : NamesReclaimer [first, second] ↔ first.subAccount? ≠ none := by
        constructor
        · rintro ⟨_, _, ⟨⟩, _, hnamed⟩
          exact hnamed
        · intro hnamed
          exact ⟨first, second, rfl, hfirst.kind_eq, hnamed⟩
      rw [hnames, not_not]
      simp [TransactionKind.subAccounts, hsecond.subAccount_eq]

/-- Operations that describe a body are shown by others that do, on the sub-accounts that are
emitted. -/
theorem Describes.shownAs (h : Describes signer ops kind) (hshown : Describes signer shown kind)
    (hplaces : shown.map Operation.subAccount? = kind.subAccounts) :
    List.Forall₂ Operation.ShownAs ops shown := by
  cases h with
  | transfer hdebit hpaid hcredit hreceived =>
      cases hshown with
      | transfer hdebit' hpaid' hcredit' hreceived' =>
          exact .cons (shownAs_of_moves hdebit hdebit' hpaid hpaid')
            (.cons (shownAs_of_moves hcredit hcredit' hreceived hreceived') .nil)
  | burn hdebit hpaid =>
      cases hshown with
      | burn hdebit' hpaid' =>
          exact .cons (shownAs_of_moves hdebit hdebit' hpaid hpaid') .nil
  | addEscrow hdebit hpaid hcredit hreceived =>
      cases hshown with
      | addEscrow hdebit' hpaid' hcredit' hreceived' =>
          exact .cons (shownAs_of_moves hdebit hdebit' hpaid hpaid')
            (.cons (shownAs_of_moves hcredit hcredit' hreceived hreceived') .nil)
  | @reclaimEscrow first second body hfirst hsecond hnone _ =>
      cases hshown with
      | @reclaimEscrow first' second' _ hfirst' hsecond' hnone' _ =>
          have hlost : first'.subAccount? = none := (List.cons.inj hplaces).1
          have hreclaimer : first.ShownAs first' :=
            ⟨type_eq_of_concerns hfirst hfirst', ⟨signer, hfirst.isOn, hfirst'.isOn⟩,
              .inl ⟨hnone.1, hnone'.1⟩, .inr ⟨hfirst.kind_eq, hlost⟩⟩
          have hescrow : second.ShownAs second' :=
            ⟨type_eq_of_concerns hsecond hsecond', ⟨body.account, hsecond.isOn, hsecond'.isOn⟩,
              .inl ⟨hnone.2, hnone'.2⟩,
              .inl (hsecond'.subAccount_eq.trans hsecond.subAccount_eq.symm)⟩
          exact .cons hreclaimer (.cons hescrow .nil)

end

section

variable [Suite]

theorem PaysFee.credit_concerns {signer : Address} {fee : Fee} {debit credit : Operation}
    (h : PaysFee signer fee debit credit) (hpair : isFeePair debit credit) :
    credit.Concerns .transfer Address.feeAccumulator none :=
  ⟨(isFeePair_iff.mp hpair).2.1, isOn_feeAccumulator hpair, h.credit_subAccount⟩

theorem PaysFee.shownAs {signer : Address} {fee : Fee} {debit credit debit' credit' : Operation}
    (h : PaysFee signer fee debit credit) (hpair : isFeePair debit credit)
    (h' : PaysFee signer fee debit' credit') (hpair' : isFeePair debit' credit') :
    debit.ShownAs debit' ∧ credit.ShownAs credit' :=
  ⟨shownAs_of_moves h.debit_concerns h'.debit_concerns h.debit_moves h'.debit_moves,
    shownAs_of_moves (h.credit_concerns hpair) (h'.credit_concerns hpair') h.credit_moves
      h'.credit_moves⟩

/-- What is emitted for the transaction that operations describe shows them one for one.  Only the
sub-account of a reclaimer is lost, and exactly the lists that name one are not shown as they
are. -/
theorem shownAs_of_ofOperations {ops : List Operation} {signer : Address} {tx : Transaction}
    (h : Transaction.ofOperations ops = .ok (signer, tx))
    (hfee : hasFee ops = true → ∀ fee ∈ tx.fee, fee.amount.isZero = false) :
    ∃ emitted, tx.operations signer none = .ok emitted ∧
      List.Forall₂ Operation.ShownAs ops emitted ∧
      (emitted.map Operation.subAccount? = ops.map Operation.subAccount? ↔
        ¬ NamesReclaimer (splitFee ops).2) := by
  obtain ⟨_, fee, kind, hdescribes, rfl⟩ := ofOperations_eq_ok_iff.mp h
  have hknown := hdescribes.isKnown
  refine ⟨_, operations_eq (Transaction.kind_ofKind 0 fee hknown) signer none, ?_⟩
  cases hdescribes with
  | @paid debit credit rest _ _ hpair hpays hbody =>
      have hsplit : splitFee (debit :: credit :: rest) = (some (debit, credit), rest) :=
        splitFee_eq_some_iff.mpr ⟨rfl, hpair⟩
      have hpaid := hfee (by rw [hasFee, hsplit]; rfl) fee rfl
      have hshown : (Transaction.ofKind 0 fee kind).shownFee = fee := by
        simp [Transaction.shownFee, Transaction.ofKind, hpaid]
      have hsome : (Transaction.ofKind 0 fee kind).shownFee.amount.isZero = false := by rwa [hshown]
      obtain ⟨debit', credit', hemitted, _, hpair', hpays'⟩ := emitFee_eq_pair hsome signer none
      rw [hshown] at hpays'
      obtain ⟨hdebit, hcredit⟩ := hpays.shownAs hpair hpays' hpair'
      have hplaces := map_subAccount?_operations kind 2 signer none
      rw [hemitted, hsplit]
      refine ⟨.cons hdebit (.cons hcredit (hbody.shownAs (describes_operations hknown ..) hplaces)),
        ?_⟩
      rw [← hbody.map_subAccount?_eq_iff, ← hplaces]
      simp [hpays.debit_concerns.subAccount_eq, hpays'.debit_concerns.subAccount_eq,
        hpays.credit_subAccount, hpays'.credit_subAccount, eq_comm]
  | unpaid hnofee hbody =>
      have hsplit : splitFee ops = (none, ops) := splitFee_eq_none_iff.mpr ⟨rfl, hnofee⟩
      have hplaces := map_subAccount?_operations kind 0 signer none
      rw [emitFee_eq_nil rfl, hsplit, ← hbody.map_subAccount?_eq_iff, ← hplaces]
      exact ⟨hbody.shownAs (describes_operations hknown ..) hplaces, eq_comm⟩

end

theorem shownAs_of_ofOperations_spelledBurn :
    ∃ signer tx, Transaction.ofOperations spelledBurn = .ok (signer, tx) ∧
      (∀ fee ∈ tx.fee, fee.amount.isZero = false) ∧
      ∃ emitted, tx.operations signer none = .ok emitted ∧
        List.Forall₂ Operation.ShownAs spelledBurn emitted ∧
        (emitted.map Operation.subAccount? = spelledBurn.map Operation.subAccount? ↔
          ¬ NamesReclaimer (splitFee spelledBurn).2) := by
  have hfee : ∀ fee ∈ (Transaction.ofKind 0 ⟨10000, ⟨7⟩⟩ (.burn ⟨⟨12⟩⟩)).fee,
      fee.amount.isZero = false := by
    rintro fee ⟨⟩
    rfl
  exact ⟨_, _, ofOperations_spelledBurn, hfee,
    shownAs_of_ofOperations ofOperations_spelledBurn fun _ => hfee⟩

/-- A reclaim whose first operation is on the escrow of the signer. -/
def escrowedReclaim : List Operation :=
  [.of 0 "ReclaimEscrow" none (some Address.commonPool.escrowAccount) none,
    (Operation.of 1 "ReclaimEscrow" none (some Address.feeAccumulator.escrowAccount)
      none).withMetadata sharesKey (.string (Quantity.mk 1000).text)]

/-- The reclaim is accepted without a fee, and what is emitted for it is not on that sub-account. -/
theorem subAccounts_of_escrowedReclaim :
    hasFee escrowedReclaim = false ∧
      ∃ tx emitted, Transaction.ofOperations escrowedReclaim = .ok (Address.commonPool, tx) ∧
        tx.operations Address.commonPool none = .ok emitted ∧
        escrowedReclaim.map Operation.subAccount? = [some "escrow", some "escrow"] ∧
        emitted.map Operation.subAccount? = [none, some "escrow"] := by
  have hindices : checkIndices 0 escrowedReclaim = .ok () := rfl
  have hreclaimer : (escrowedReclaim.head nofun).Concerns .reclaimEscrow Address.commonPool
      (some escrowSubAccount) := concerns_escrowAccount rfl rfl
  have hbody : Describes Address.commonPool escrowedReclaim
      (.reclaimEscrow ⟨⟨1000⟩, Address.feeAccumulator⟩) :=
    .reclaimEscrow hreclaimer (concerns_escrowAccount rfl rfl) ⟨rfl, rfl⟩ (shares_withMetadata ..)
  have hread := ofOperations_eq_ok_iff.mpr ⟨hindices, _, _, .unpaid rfl hbody, rfl⟩
  exact ⟨rfl, _, _, hread, operations_eq (Transaction.kind_ofKind 0 _ rfl) _ none, rfl, rfl⟩

end StakingGateway
