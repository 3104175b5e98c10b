import StakingGateway.Proofs.Operation.Grammar
import StakingGateway.Proofs.Operation.Ledger

/-!
# Spellings of addresses

An address has several texts.  An operation is respelled by putting another text for the address of
its account, where both are read as the same address or neither is read.  What is read off an
operation does not change with it, and so neither does what a list describes, once it is split in
the same way.

A fee pair is told by the text of the account that collects fees, so the split does depend on one
spelling.  The main statement is `ofOperations_respelled`: lists that are both accepted are read
alike, and one is accepted without the other only where that text was replaced.
-/

namespace StakingGateway

open Api (Operation)

/-- The texts are read as the same address, or neither is read. -/
def SameAddress (text text' : String) : Prop :=
  ∀ address, Address.ofText text = .ok address ↔ Address.ofText text' = .ok address

theorem SameAddress.refl (text : String) : SameAddress text text :=
  fun _ => Iff.rfl

theorem SameAddress.of_ofText {text text' : String} {address : Address}
    (h : Address.ofText text = .ok address) (h' : Address.ofText text' = .ok address) :
    SameAddress text text' := by
  intro found
  rw [h, h']

namespace Api.Operation

/-- The second operation is the first with another text for the address of its account. -/
inductive Respelled : Operation → Operation → Prop
  | kept (op : Operation) : Respelled op op
  | respelled {op : Operation} {account : AccountIdentifier} {text : String}
      (haccount : op.account = some account) (hsame : SameAddress account.address text) :
      Respelled op { op with account := some { account with address := text } }

namespace Respelled

variable {op op' : Operation}

theorem symm (h : op.Respelled op') : op'.Respelled op := by
  cases h with
  | kept => exact .kept op
  | @respelled account text haccount hsame =>
      cases op
      cases haccount
      exact @respelled _ { account with address := text } account.address rfl
        fun address => (hsame address).symm

theorem isOn_iff (h : op.Respelled op') {address : Address} :
    op'.IsOn address ↔ op.IsOn address := by
  cases h with
  | kept => exact Iff.rfl
  | respelled haccount hsame => simp [IsOn, haccount, hsame address]

theorem kind?_eq (h : op.Respelled op') : op'.kind? = op.kind? := by
  cases h <;> rfl

theorem subAccount?_eq (h : op.Respelled op') : op'.subAccount? = op.subAccount? := by
  cases h with
  | kept => rfl
  | respelled haccount hsame => simp [subAccount?, haccount]

theorem amount_eq (h : op.Respelled op') : op'.amount = op.amount := by
  cases h <;> rfl

theorem gas_eq (h : op.Respelled op') : op'.gas = op.gas := by
  cases h <;> rfl

theorem shares_eq (h : op.Respelled op') : op'.shares = op.shares := by
  cases h <;> rfl

theorem checkIndices_cons_eq (h : op.Respelled op') (next : Nat) (rest : List Operation) :
    checkIndices next (op' :: rest) = checkIndices next (op :: rest) := by
  cases h <;> rfl

theorem concerns (h : op.Respelled op') {kind : OperationKind} {address : Address}
    {subAccount : Option String} (hop : op.Concerns kind address subAccount) :
    op'.Concerns kind address subAccount :=
  ⟨h.kind?_eq.trans hop.kind_eq, h.isOn_iff.mpr hop.isOn, h.subAccount?_eq.trans hop.subAccount_eq⟩

theorem moves (h : op.Respelled op') {units : Int} (hop : op.Moves units) : op'.Moves units := by
  unfold Moves
  rwa [h.amount_eq]

end Respelled

theorem respelled_of {text text' : String} (h : SameAddress text text') (index : Int64)
    (type : String) (status : Option String) (amount : Option Amount) :
    (Operation.of index type status (some (.of text)) amount).Respelled
      (.of index type status (some (.of text')) amount) :=
  @Respelled.respelled _ (.of text) text' rfl h

end Api.Operation

/-! ## What a list describes -/

section

variable {ops ops' : List Operation}

theorem respelled_symm (h : List.Forall₂ Operation.Respelled ops ops') :
    List.Forall₂ Operation.Respelled ops' ops :=
  h.flip.imp fun _ _ hop => hop.symm

theorem checkIndices_respelled (h : List.Forall₂ Operation.Respelled ops ops') (next : Nat) :
    checkIndices next ops' = checkIndices next ops := by
  induction h generalizing next with
  | nil => rfl
  | @cons op op' rest rest' hop hrest ih =>
      rw [hop.checkIndices_cons_eq]
      simp only [checkIndices, ih]

theorem Describes.respelled {signer : Address} {kind : TransactionKind}
    (h : Describes signer ops kind) (hrespelled : List.Forall₂ Operation.Respelled ops ops') :
    Describes signer ops' kind := by
  cases h with
  | transfer hdebit hpaid hcredit hreceived =>
      rcases hrespelled with _ | ⟨hfirst, _ | ⟨hsecond, ⟨⟩⟩⟩
      exact .transfer (hfirst.concerns hdebit) (hfirst.moves hpaid) (hsecond.concerns hcredit)
        (hsecond.moves hreceived)
  | burn hdebit hpaid =>
      rcases hrespelled with _ | ⟨hfirst, ⟨⟩⟩
      exact .burn (hfirst.concerns hdebit) (hfirst.moves hpaid)
  | addEscrow hdebit hpaid hcredit hreceived =>
      rcases hrespelled with _ | ⟨hfirst, _ | ⟨hsecond, ⟨⟩⟩⟩
      exact .addEscrow (hfirst.concerns hdebit) (hfirst.moves hpaid) (hsecond.concerns hcredit)
        (hsecond.moves hreceived)
  | reclaimEscrow hreclaimer hescrow hnone hshares =>
      rcases hrespelled with _ | ⟨hfirst, _ | ⟨hsecond, ⟨⟩⟩⟩
      have hnone' := And.intro (hfirst.amount_eq.trans hnone.1) (hsecond.amount_eq.trans hnone.2)
      exact .reclaimEscrow (hfirst.subAccount?_eq ▸ hfirst.concerns hreclaimer)
        (hsecond.concerns hescrow) hnone' (hsecond.shares_eq.trans hshares)

theorem Describes.length_pos {signer : Address} {kind : TransactionKind}
    (h : Describes signer ops kind) : 0 < ops.length := by
  cases h <;> simp

theorem Describes.length_le {signer : Address} {kind : TransactionKind}
    (h : Describes signer ops kind) : ops.length ≤ 2 :=
  (exists_describes_iff.mp ⟨kind, h⟩).length_le

theorem PaysFee.respelled {signer : Address} {fee : Fee} {debit credit debit' credit' : Operation}
    (h : PaysFee signer fee debit credit) (hdebit : debit.Respelled debit')
    (hcredit : credit.Respelled credit') : PaysFee signer fee debit' credit' where
  debit_concerns := hdebit.concerns h.debit_concerns
  debit_moves := hdebit.moves h.debit_moves
  gas_eq := hdebit.gas_eq.trans h.gas_eq
  credit_subAccount := hcredit.subAccount?_eq.trans h.credit_subAccount
  credit_moves := hcredit.moves h.credit_moves

section

variable [Suite]

/-- The second operations are on the account that collects fees, by different texts. -/
def RespellsCollector (ops ops' : List Operation) : Prop :=
  ∃ credit credit' account account', ops[1]? = some credit ∧ ops'[1]? = some credit' ∧
    credit.account = some account ∧ credit'.account = some account' ∧
    credit.IsOn Address.feeAccumulator ∧ credit'.IsOn Address.feeAccumulator ∧
    account.address ≠ account'.address

theorem RespellsCollector.symm (h : RespellsCollector ops ops') : RespellsCollector ops' ops := by
  obtain ⟨credit, credit', account, account', hop, hop', haccount, haccount', hon, hon', hne⟩ := h
  exact ⟨credit', credit, account', account, hop', hop, haccount', haccount, hon', hon, hne.symm⟩

theorem hasFee_iff_beginsWithFee : hasFee ops = true ↔ BeginsWithFee ops := by
  rw [← not_iff_not, Bool.not_eq_true, not_beginsWithFee_iff]

theorem hasFee_cons_iff {debit credit : Operation} {rest : List Operation} :
    hasFee (debit :: credit :: rest) = true ↔ isFeePair debit credit = true :=
  hasFee_iff_beginsWithFee.trans beginsWithFee_cons_iff

/-- A fee pair is lost only with the text of the account that collects fees. -/
theorem respellsCollector_of_hasFee (h : List.Forall₂ Operation.Respelled ops ops')
    (hpaid : hasFee ops = true) (hfree : hasFee ops' = false) : RespellsCollector ops ops' := by
  obtain ⟨debit, credit, rest, account, rfl, hdebit, hcredit, haccount, htext⟩ :=
    hasFee_iff_beginsWithFee.mp hpaid
  have hlost := not_beginsWithFee_iff.mpr hfree
  rcases h with _ | ⟨hfirst, _ | ⟨hsecond, hrest⟩⟩
  have hkinds := And.intro (hfirst.kind?_eq.trans hdebit) (hsecond.kind?_eq.trans hcredit)
  have hon : credit.IsOn Address.feeAccumulator :=
    ⟨account, haccount, by rw [htext, Address.ofText_text]⟩
  have hon' := hsecond.isOn_iff.mpr hon
  cases hsecond with
  | kept => exact (hlost ⟨_, _, _, account, rfl, hkinds.1, hkinds.2, haccount, htext⟩).elim
  | @respelled found text hfound _ =>
      obtain rfl : account = found := Option.some.inj (haccount.symm.trans hfound)
      refine ⟨_, _, account, _, rfl, rfl, haccount, rfl, hon, hon', fun hsame => ?_⟩
      exact hlost ⟨_, _, _, _, rfl, hkinds.1, hkinds.2, rfl, hsame.symm.trans htext⟩

theorem not_ok_of_hasFee (h : List.Forall₂ Operation.Respelled ops ops')
    (hpaid : hasFee ops = true) (hfree : hasFee ops' = false) {read read' : Address × Transaction}
    (hread : Transaction.ofOperations ops = .ok read) :
    Transaction.ofOperations ops' ≠ .ok read' := by
  intro hread'
  obtain ⟨_, _, _, hdescribes, _⟩ := ofOperations_eq_ok_iff.mp hread
  obtain ⟨_, _, _, hdescribes', _⟩ := ofOperations_eq_ok_iff.mp hread'
  have hlength := h.length_eq
  cases hdescribes with
  | unpaid hnone _ => rw [hpaid] at hnone; cases hnone
  | paid _ _ hbody =>
      cases hdescribes' with
      | paid hpair _ _ =>
          rw [hasFee_cons_iff.mpr hpair] at hfree
          cases hfree
      | unpaid _ hbody' =>
          have hpos := hbody.length_pos
          have hle := hbody'.length_le
          simp only [List.length_cons] at hlength
          omega

theorem ofOperations_of_respelled (h : List.Forall₂ Operation.Respelled ops ops')
    (hfee : hasFee ops' = hasFee ops) {signer : Address} {tx : Transaction}
    (hread : Transaction.ofOperations ops = .ok (signer, tx)) :
    Transaction.ofOperations ops' = .ok (signer, tx) := by
  obtain ⟨hindices, fee, kind, hdescribes, rfl⟩ := ofOperations_eq_ok_iff.mp hread
  refine ofOperations_eq_ok_iff.mpr
    ⟨(checkIndices_respelled h 0).trans hindices, fee, kind, ?_, rfl⟩
  cases hdescribes with
  | paid hpair hpays hbody =>
      rcases h with _ | ⟨hfirst, _ | ⟨hsecond, hrest⟩⟩
      have hpair' := hasFee_cons_iff.mp (hfee.trans (hasFee_cons_iff.mpr hpair))
      exact .paid hpair' (hpays.respelled hfirst hsecond) (hbody.respelled hrest)
  | unpaid hfree hbody => exact .unpaid (hfee.trans hfree) (hbody.respelled h)

/-- Lists that differ in the spelling of addresses are read alike where both are accepted.  They are
accepted together if both begin with a fee pair or neither does, and otherwise the text of the
account that collects fees was replaced. -/
theorem ofOperations_respelled (h : List.Forall₂ Operation.Respelled ops ops') :
    (∀ read read', Transaction.ofOperations ops = .ok read →
      Transaction.ofOperations ops' = .ok read' → read = read') ∧
    (hasFee ops = hasFee ops' → ∀ read,
      Transaction.ofOperations ops = .ok read ↔ Transaction.ofOperations ops' = .ok read) ∧
    (hasFee ops ≠ hasFee ops' → RespellsCollector ops ops') := by
  have hsame (hfee : hasFee ops = hasFee ops') (read : Address × Transaction) :
      Transaction.ofOperations ops = .ok read ↔ Transaction.ofOperations ops' = .ok read :=
    ⟨ofOperations_of_respelled h hfee.symm, ofOperations_of_respelled (respelled_symm h) hfee⟩
  refine ⟨fun read read' hread hread' => ?_, hsame, fun hfee => ?_⟩
  · cases hpaid : hasFee ops <;> cases hpaid' : hasFee ops'
    case false.true => exact (not_ok_of_hasFee (respelled_symm h) hpaid' hpaid hread' hread).elim
    case true.false => exact (not_ok_of_hasFee h hpaid hpaid' hread hread').elim
    all_goals
      rw [(hsame (hpaid.trans hpaid'.symm) read).mp hread] at hread'
      exact Except.ok.inj hread'
  · cases hpaid : hasFee ops <;> cases hpaid' : hasFee ops'
    case false.true => exact (respellsCollector_of_hasFee (respelled_symm h) hpaid' hpaid).symm
    case true.false => exact respellsCollector_of_hasFee h hpaid hpaid'
    all_goals exact (hfee (hpaid.trans hpaid'.symm)).elim

end

end

def burnPaidTo (signer collector : String) : List Operation :=
  [.of 0 "Transfer" none (some (.of signer)) (some (.of "-007" currency)),
    .of 1 "Transfer" none (some (.of collector)) (some (.of "07" currency)),
    .of 2 "Burn" none (some (.of signer)) (some (.of "-0012" currency))]

def spelledSigner : String :=
  "OASIS1QQRSWPC8QURSWPC8QURSWPC8QURSWPC8QUZDFWSE"

theorem respelled_burnPaidTo {signer signer' collector collector' : String}
    (hsigner : SameAddress signer signer') (hcollector : SameAddress collector collector') :
    List.Forall₂ Operation.Respelled (burnPaidTo signer collector)
      (burnPaidTo signer' collector') :=
  .cons (Operation.respelled_of hsigner ..) (.cons (Operation.respelled_of hcollector ..)
    (.cons (Operation.respelled_of hsigner ..) .nil))

theorem hasFee_burnPaidTo_iff [Suite] (signer collector : String) :
    hasFee (burnPaidTo signer collector) = true ↔ collector = Address.feeAccumulator.text := by
  rw [burnPaidTo, hasFee_cons_iff, isFeePair_iff]
  constructor
  · rintro ⟨_, _, account, haccount, htext⟩
    rwa [← Option.some.inj haccount] at htext
  · intro htext
    exact ⟨rfl, rfl, _, rfl, htext⟩

theorem sameAddress_spelledSigner :
    SameAddress spelledSigner "oasis1qqrswpc8qurswpc8qurswpc8qurswpc8quzdfwse" := by
  have hupper : Address.ofText spelledSigner = .ok ⟨List.replicate 20 7, rfl⟩ := by cbv
  have hlower : Address.ofText "oasis1qqrswpc8qurswpc8qurswpc8qurswpc8quzdfwse"
      = .ok ⟨List.replicate 20 7, rfl⟩ := by cbv
  exact .of_ofText hupper hlower

theorem ofOperations_respelled_spelledBurn :
    ∃ ops', List.Forall₂ Operation.Respelled spelledBurn ops' ∧ hasFee spelledBurn = hasFee ops' ∧
      (∀ read read', Transaction.ofOperations spelledBurn = .ok read →
        Transaction.ofOperations ops' = .ok read' → read = read') ∧
      (hasFee spelledBurn = hasFee ops' → ∀ read,
        Transaction.ofOperations spelledBurn = .ok read ↔
          Transaction.ofOperations ops' = .ok read) ∧
      (hasFee spelledBurn ≠ hasFee ops' → RespellsCollector spelledBurn ops') := by
  have h := respelled_burnPaidTo sameAddress_spelledSigner (.refl Address.feeAccumulator.text)
  have hpaid (signer : String) : hasFee (burnPaidTo signer Address.feeAccumulator.text) = true :=
    (hasFee_burnPaidTo_iff signer _).mpr rfl
  exact ⟨_, h, (hpaid _).trans (hpaid _).symm, ofOperations_respelled h⟩

/-- Put in upper case, the text of the account that collects fees tells no fee pair, and the list is
refused. -/
theorem ofOperations_ne_ok_of_upperCollector :
    let ops' := burnPaidTo spelledSigner (Bech32.upper Address.feeAccumulator.text)
    List.Forall₂ Operation.Respelled spelledBurn ops' ∧
      (∃ read, Transaction.ofOperations spelledBurn = .ok read) ∧
      ∀ read, Transaction.ofOperations ops' ≠ .ok read := by
  have hsame : SameAddress Address.feeAccumulator.text (Bech32.upper Address.feeAccumulator.text) :=
    .of_ofText (Address.ofText_text _) (Address.ofText_upper_text _)
  have h := respelled_burnPaidTo (.refl spelledSigner) hsame
  have hpaid : hasFee spelledBurn = true := (hasFee_burnPaidTo_iff spelledSigner _).mpr rfl
  have hfree := mt (hasFee_burnPaidTo_iff spelledSigner _).mp (Address.upper_text_ne _)
  exact ⟨h, ⟨_, ofOperations_spelledBurn⟩, fun read =>
    not_ok_of_hasFee h hpaid (Bool.eq_false_of_not_eq_true hfree) ofOperations_spelledBurn⟩

end StakingGateway
