import StakingGateway.Proofs.Operation.RoundTrip
import StakingGateway.Proofs.Replay.Origin

/-!
# The fee of a failed transaction

A transaction that failed may have paid its fee all the same, and then an event tells so.  What it
was meant to do is listed behind its events, together with the fee unless the list begins with a fee
pair by then.  Only the two operations in front are looked at.  So the fee is not listed again if
its payment comes first among the changes that the events report.  If it comes later, the fee is
listed twice: as done, and as failed.

`failedOn_feeAccumulator_iff` says when an operation on the account that collects fees is listed as
failed, whatever the events are.
-/

namespace StakingGateway

open Api (Operation)

namespace TransactionKind

def named : TransactionKind → List Address
  | .transfer body => [body.target]
  | .burn _ => []
  | .addEscrow body => [body.account]
  | .reclaimEscrow body => [body.account]
  | .unknown _ => []

/-- The addresses of the accounts that the operations of a body are on: that of the signer and those
that the body names, unless its method is not known. -/
def parties (kind : TransactionKind) (signer : Address) : List Address :=
  match kind with
  | .unknown _ => []
  | kind => signer :: kind.named

end TransactionKind

theorem isOn_iff_eq {op : Operation} {account : Api.AccountIdentifier} {owner address : Address}
    (haccount : op.account = some account) (howner : account.address = owner.text) :
    op.IsOn address ↔ address = owner := by
  simp only [Operation.IsOn, haccount, Option.some.injEq, exists_eq_left', howner,
    Address.ofText_text, Except.ok.injEq, eq_comm]

theorem exists_isOn_pair_iff {first second : Operation} {owner owner' address : Address}
    (hfirst : first.IsOn address ↔ address = owner)
    (hsecond : second.IsOn address ↔ address = owner') :
    (∃ op ∈ [first, second], op.IsOn address) ↔ address ∈ [owner, owner'] := by
  simp [hfirst, hsecond]

theorem exists_isOn_operations_iff (kind : TransactionKind) (index : Nat) (signer : Address)
    (status : Option String) (address : Address) :
    (∃ op ∈ kind.operations index signer status, op.IsOn address) ↔
      address ∈ kind.parties signer := by
  cases kind with
  | transfer body => exact exists_isOn_pair_iff (isOn_iff_eq rfl rfl) (isOn_iff_eq rfl rfl)
  | burn body =>
      simp only [TransactionKind.operations, TransactionKind.parties, TransactionKind.named,
        List.mem_singleton, exists_eq_left]
      exact isOn_iff_eq rfl rfl
  | addEscrow body => exact exists_isOn_pair_iff (isOn_iff_eq rfl rfl) (isOn_iff_eq rfl rfl)
  | reclaimEscrow body => exact exists_isOn_pair_iff (isOn_iff_eq rfl rfl) (isOn_iff_eq rfl rfl)
  | unknown method => simp [TransactionKind.operations, TransactionKind.parties]

section

variable [Suite]

/-- The changes begin with two transfers, the second on the account that collects fees. -/
def BeginsWithPayment : List Change → Prop
  | (kind, _) :: (kind', account, _) :: _ =>
    kind = .transfer ∧ kind' = .transfer ∧ account.address = Address.feeAccumulator.text
  | _ => False

/-- Such changes are taken for a fee pair, and no others are. -/
theorem hasFee_effects_iff (changes : List Change) :
    hasFee (effects 0 changes) = true ↔ BeginsWithPayment changes := by
  match changes with
  | [] => simp [effects, hasFee, splitFee, BeginsWithPayment]
  | [_] => simp [effects, hasFee, splitFee, BeginsWithPayment]
  | (kind, account, amount) :: (kind', account', amount') :: rest =>
      have hkind : (effect 0 kind account amount).kind? = some kind := kind?_of_type rfl
      have hkind' : (effect 1 kind' account' amount').kind? = some kind' := kind?_of_type rfl
      have haccount : (effect 1 kind' account' amount').account = some account' := rfl
      have hpair : isFeePair (effect 0 kind account amount) (effect 1 kind' account' amount') = true
          ↔ BeginsWithPayment ((kind, account, amount) :: (kind', account', amount') :: rest) := by
        simp [isFeePair_iff, hkind, hkind', haccount, BeginsWithPayment]
      rw [← hpair]
      simp only [effects, hasFee, splitFee, Nat.zero_add]
      split
      next htaken => simp [htaken]
      next hother => simp [hother]

/-- The payment of a fee is an event that moves the amount from the signer to the account that
collects fees. -/
def Staking.Event.Pays (event : Staking.Event) (signer : Address) (fee : Fee) : Prop :=
  event.transfer = some ⟨signer, Address.feeAccumulator, fee.amount⟩

/-- The payment comes before all other changes that the events report. -/
def PaidFirst (signer : Address) (fee : Fee) (events : List Staking.Event) : Prop :=
  ∃ before event after, events = before ++ event :: after ∧ event.Pays signer fee ∧
    ∀ quiet ∈ before, quiet.changes = []

theorem PaidFirst.beginsWithPayment {signer : Address} {fee : Fee} {events : List Staking.Event}
    (h : PaidFirst signer fee events) :
    BeginsWithPayment (events.flatMap fun event => event.changes) := by
  obtain ⟨before, event, after, rfl, hpays, hquiet⟩ := h
  have hbefore : before.flatMap (fun event => event.changes) = [] :=
    List.flatMap_eq_nil_iff.mpr hquiet
  rw [List.flatMap_append, hbefore, List.nil_append, List.flatMap_cons, Staking.Event.changes,
    hpays]
  exact ⟨rfl, rfl, rfl⟩

end

namespace Replay

def FailedOn (ops : List Operation) (address : Address) : Prop :=
  ∃ op ∈ ops, op.status = some OperationState.failed.name ∧ op.IsOn address

theorem failedOn_append_iff {ops rest : List Operation} {address : Address} :
    FailedOn (ops ++ rest) address ↔ FailedOn ops address ∨ FailedOn rest address := by
  simp only [FailedOn, List.mem_append, or_and_right, exists_or]

theorem not_failedOn_effects (index : Nat) (changes : List Change) (address : Address) :
    ¬ FailedOn (effects index changes) address := by
  rintro ⟨op, hop, hstatus, -⟩
  have hname := (status_of_mem_effects hop).symm.trans hstatus
  revert hname
  decide

theorem failedOn_operations_iff (kind : TransactionKind) (index : Nat) (signer address : Address) :
    FailedOn (kind.operations index signer (some OperationState.failed.name)) address ↔
      address ∈ kind.parties signer := by
  rw [← exists_isOn_operations_iff kind index signer (some OperationState.failed.name) address]
  exact ⟨fun ⟨op, hop, _, hon⟩ => ⟨op, hop, hon⟩,
    fun ⟨op, hop, hon⟩ => ⟨op, hop, status_of_mem_kindOperations hop, hon⟩⟩

variable [Suite]

theorem failedOn_owedFee_iff {tx : Transaction} {fee : Fee} (hfee : tx.fee = some fee)
    (hamount : fee.amount.isZero = false) (signer : Address) (done : List Operation) :
    FailedOn (owedFee tx signer .failed done) Address.feeAccumulator ↔ hasFee done = false := by
  cases hpaid : hasFee done with
  | true => simp [owedFee, hpaid, FailedOn]
  | false =>
      simp only [iff_true, owedFee, hpaid, hfee, Option.elim, Fee.operations, hamount]
      exact ⟨_, List.mem_cons_of_mem _ (List.mem_singleton_self _), rfl, _, rfl,
        Address.ofText_text _⟩

/-- The operations of a transaction that failed: what its events tell, its fee if it is still owed,
and its body. -/
def failedOperations (tx : Transaction) (signer : Address) (kind : TransactionKind)
    (events : List Staking.Event) : List Operation :=
  let done := effects 0 (events.flatMap fun event => event.changes)
  let owed := owedFee tx signer .failed done
  done ++ owed ++ kind.operations (done ++ owed).length signer (some OperationState.failed.name)

theorem failedOn_failedOperations_iff {tx : Transaction} {fee : Fee} (hfee : tx.fee = some fee)
    (hamount : fee.amount.isZero = false) (signer : Address) (kind : TransactionKind)
    (events : List Staking.Event) :
    FailedOn (failedOperations tx signer kind events) Address.feeAccumulator ↔
      ¬ BeginsWithPayment (events.flatMap fun event => event.changes) ∨
        Address.feeAccumulator ∈ kind.parties signer := by
  rw [failedOperations, failedOn_append_iff, failedOn_append_iff, failedOn_owedFee_iff hfee hamount,
    failedOn_operations_iff, ← hasFee_effects_iff, Bool.not_eq_true]
  simp only [not_failedOn_effects, false_or]

theorem addTransaction_empty_of_failed {chain : String} {raw : List UInt8} {signer : Address}
    {tx : Transaction} {kind : TransactionKind} {result : TransactionResult}
    (hopen : openTransaction chain raw = .ok (signer, tx)) (hkind : tx.kind = .ok kind)
    (hfailed : result.isSuccess = false) :
    Replay.empty.addTransaction chain raw (some result)
      = (⟨[.of ⟨(Hash.digest raw).text⟩ (failedOperations tx signer kind result.stakingEvents)],
          [(Hash.digest raw, 0)]⟩, .ok ()) := by
  have hstate : intendedState (some result) = some .failed := by simp [intendedState, hfailed]
  have hempty : Replay.empty.operations (Hash.digest raw) = [] := rfl
  rw [addTransaction_of_ok hopen, put_of_place_none rfl, hempty, transactionOperations_fst,
    transactionOperations_snd, appendEvents_eq]
  simp only [intent, hstate, hkind, failedOperations, List.append_assoc, List.length_append,
    List.nil_append]
  rfl

/-- When a transaction that failed is listed with a failed operation on the account that collects
fees: unless its events begin with a payment to that account, and also if its body is about the
account.  Such an operation is not listed if the fee is paid first and the body is about others. -/
theorem failedOn_feeAccumulator_iff {chain : String} {raw : List UInt8} {signer : Address}
    {tx : Transaction} {fee : Fee} {kind : TransactionKind} {result : TransactionResult}
    (hopen : openTransaction chain raw = .ok (signer, tx)) (hfee : tx.fee = some fee)
    (hamount : fee.amount.isZero = false) (hkind : tx.kind = .ok kind)
    (hfailed : result.isSuccess = false) :
    ∃ after ops, Replay.empty.addTransaction chain raw (some result) = (after, .ok ()) ∧
      after.transactions = [.of ⟨(Hash.digest raw).text⟩ ops] ∧
      (FailedOn ops Address.feeAccumulator ↔
        ¬ BeginsWithPayment (result.stakingEvents.flatMap fun event => event.changes) ∨
          Address.feeAccumulator ∈ kind.parties signer) ∧
      (PaidFirst signer fee result.stakingEvents →
        Address.feeAccumulator ∉ kind.parties signer →
          ¬ FailedOn ops Address.feeAccumulator) := by
  have hiff := failedOn_failedOperations_iff hfee hamount signer kind result.stakingEvents
  refine ⟨_, _, addTransaction_empty_of_failed hopen hkind hfailed, rfl, hiff, ?_⟩
  intro hfirst hparties
  rw [hiff, not_or, not_not]
  exact ⟨hfirst.beginsWithPayment, hparties⟩

end Replay

/-! ## A burn that failed -/

theorem feeAccumulator_notMem_parties_paidBurn :
    let _ := paidBurnSuite
    Address.feeAccumulator ∉ TransactionKind.parties (.burn ⟨⟨12⟩⟩) (.ofPublicKey paidBurnKey) := by
  intro _ h
  have hbytes := congrArg Address.bytes (List.mem_singleton.mp h)
  revert hbytes
  decide +kernel

def paidBurnPayment [Suite] : Staking.Event where
  height := 1
  txHash := .zero
  transfer := some ⟨Address.ofPublicKey paidBurnKey, Address.feeAccumulator, ⟨7⟩⟩
  burn := none
  escrow := none

def commonPoolBurn [Suite] : Staking.Event where
  height := 1
  txHash := .zero
  transfer := none
  burn := some ⟨Address.commonPool, ⟨3⟩⟩
  escrow := none

def failedWith (events : List Staking.Event) : TransactionResult :=
  ⟨⟨"staking", 1, "insufficient balance"⟩, events.map fun event => ⟨some event⟩, 0⟩

/-- The payment comes first: the fee is not listed as failed. -/
theorem Replay.failedOn_feeAccumulator_paidFirst :
    let _ := paidBurnSuite
    let signer := Address.ofPublicKey paidBurnKey
    let result := failedWith [paidBurnPayment, commonPoolBurn]
    openTransaction "chain" signedPaidBurn.encode = .ok (signer, paidBurn) ∧
    PaidFirst signer ⟨10000, ⟨7⟩⟩ result.stakingEvents ∧
    ∃ after ops, Replay.empty.addTransaction "chain" signedPaidBurn.encode (some result)
        = (after, .ok ()) ∧
      after.transactions = [.of ⟨(Hash.digest signedPaidBurn.encode).text⟩ ops] ∧
      ¬ FailedOn ops Address.feeAccumulator := by
  intro _ signer result
  have hkind : paidBurn.kind = .ok (.burn ⟨⟨12⟩⟩) := Transaction.kind_ofKind _ _ rfl
  have hfailed : result.isSuccess = false := rfl
  have hfirst : PaidFirst signer ⟨10000, ⟨7⟩⟩ result.stakingEvents :=
    ⟨[], paidBurnPayment, [commonPoolBurn], rfl, rfl, nofun⟩
  obtain ⟨after, ops, hadd, hlisted, -, hpaid⟩ :=
    failedOn_feeAccumulator_iff openTransaction_signedPaidBurn rfl rfl hkind hfailed
  exact ⟨openTransaction_signedPaidBurn, hfirst, after, ops, hadd, hlisted,
    hpaid hfirst feeAccumulator_notMem_parties_paidBurn⟩

/-- The payment comes second: the fee is listed as failed although it is paid. -/
theorem Replay.failedOn_feeAccumulator_paidSecond :
    let _ := paidBurnSuite
    let signer := Address.ofPublicKey paidBurnKey
    let result := failedWith [commonPoolBurn, paidBurnPayment]
    openTransaction "chain" signedPaidBurn.encode = .ok (signer, paidBurn) ∧
    result.isSuccess = false ∧
    (∃ fee kind event, paidBurn.fee = some fee ∧ fee.amount.isZero = false ∧
      paidBurn.kind = .ok kind ∧ Address.feeAccumulator ∉ kind.parties signer ∧
      event ∈ result.stakingEvents ∧ event.Pays signer fee) ∧
    ∃ after ops, Replay.empty.addTransaction "chain" signedPaidBurn.encode (some result)
        = (after, .ok ()) ∧
      after.transactions = [.of ⟨(Hash.digest signedPaidBurn.encode).text⟩ ops] ∧
      FailedOn ops Address.feeAccumulator := by
  intro _ signer result
  have hkind : paidBurn.kind = .ok (.burn ⟨⟨12⟩⟩) := Transaction.kind_ofKind _ _ rfl
  have hevent : paidBurnPayment ∈ result.stakingEvents :=
    List.mem_cons_of_mem _ (List.mem_singleton_self _)
  refine ⟨openTransaction_signedPaidBurn, rfl, ⟨⟨10000, ⟨7⟩⟩, _, _, rfl, rfl, hkind,
    feeAccumulator_notMem_parties_paidBurn, hevent, rfl⟩, _, _,
    addTransaction_empty_of_failed openTransaction_signedPaidBurn hkind rfl, rfl, ?_⟩
  refine (failedOn_failedOperations_iff rfl rfl _ _ _).mpr (.inl ?_)
  rintro ⟨hburn, -, -⟩
  cases hburn

end StakingGateway
