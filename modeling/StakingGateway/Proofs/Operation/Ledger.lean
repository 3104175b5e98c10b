import StakingGateway.Crypto.Standard
import StakingGateway.Proofs.Operation.Description

/-!
# Operations and transactions as changes of balances

Every operation posts a number to a balance, `Operation.entry?`, and every transaction changes
balances, `Fee.effect` and `TransactionKind.effect`.  The main statement is `net_of_ofOperations`:
the entries of a list add up to the changes that the transaction makes which is read from it,
balance by balance.  Only the signer is debited, and the entries sum up to what is burned.
-/

namespace StakingGateway

open Api (Operation)

/-- A balance: the general one of an address, or that of a sub-account. -/
structure Place where
  address : Address
  subAccount : Option String
  deriving DecidableEq

structure Entry where
  place : Place
  units : Int

def Place.general (address : Address) : Place :=
  ⟨address, none⟩

def Place.escrow (address : Address) : Place :=
  ⟨address, some escrowSubAccount⟩

namespace Api.Operation

def place? (op : Operation) : Option Place :=
  match op.account with
  | some account =>
    match Address.ofText account.address with
    | .ok address => some ⟨address, op.subAccount?⟩
    | .error _ => none
  | none => none

def units? (op : Operation) : Option Int :=
  match op.amount with
  | some amount => amount.units?
  | none => some 0

def entry? (op : Operation) : Option Entry := do
  return ⟨← op.place?, ← op.units?⟩

end Api.Operation

def net (entries : List Entry) (place : Place) : Int :=
  ((entries.filter (·.place = place)).map (·.units)).sum

/-! ## Effects -/

/-- The change of a balance when an amount moves from one to another. -/
def Place.moved (source target : Place) (amount : Quantity) (place : Place) : Int :=
  (if place = target then amount.units else 0) - (if place = source then amount.units else 0)

def Fee.effect [Suite] (fee : Fee) (signer : Address) (place : Place) : Int :=
  Place.moved (.general signer) (.general Address.feeAccumulator) fee.amount place

namespace TransactionKind

/-- The change of a balance by a body.  A reclaim moves shares, and no tokens yet. -/
def effect (kind : TransactionKind) (signer : Address) (place : Place) : Int :=
  match kind with
  | .transfer body => Place.moved (.general signer) (.general body.target) body.amount place
  | .burn body => if place = .general signer then -(body.amount.units : Int) else 0
  | .addEscrow body => Place.moved (.general signer) (.escrow body.account) body.amount place
  | .reclaimEscrow _ => 0
  | .unknown _ => 0

def burned : TransactionKind → Nat
  | .burn body => body.amount.units
  | _ => 0

end TransactionKind

/-! ## Entries -/

theorem net_cons (entry : Entry) (entries : List Entry) (place : Place) :
    net (entry :: entries) place = (if entry.place = place then entry.units else 0)
      + net entries place := by
  by_cases h : entry.place = place
  · simp [net, h]
  · simp [net, h]

theorem net_nil (place : Place) : net [] place = 0 :=
  rfl

theorem net_append (entries rest : List Entry) (place : Place) :
    net (entries ++ rest) place = net entries place + net rest place := by
  induction entries with
  | nil => simp [net_nil]
  | cons entry entries ih => rw [List.cons_append, net_cons, net_cons, ih, Int.add_assoc]

theorem entry?_eq_some {op : Operation} {kind : OperationKind} {address : Address}
    {subAccount : Option String} {units : Int} (h : op.Concerns kind address subAccount)
    (hunits : op.units? = some units) : op.entry? = some ⟨⟨address, subAccount⟩, units⟩ := by
  obtain ⟨account, haccount, hread⟩ := h.isOn
  simp [Operation.entry?, Operation.place?, haccount, hread, hunits, h.subAccount_eq]

theorem units?_of_moves {op : Operation} {units : Int} (h : op.Moves units) :
    op.units? = some units := by
  obtain ⟨amount, hamount, _, hunits⟩ := h
  rw [Operation.units?, hamount]
  exact hunits

theorem units?_of_amount_none {op : Operation} (h : op.amount = none) : op.units? = some 0 := by
  rw [Operation.units?, h]

/-- Entries have an effect: they add up to it balance by balance, only the signer is debited, and
in all they sum up to what is destroyed. -/
structure Posts (signer : Address) (entries : List Entry) (effect : Place → Int) (burned : Nat) :
    Prop where
  net_eq : ∀ place, net entries place = effect place
  debit_eq : ∀ entry ∈ entries, entry.units < 0 → entry.place = .general signer
  sum_eq : (entries.map (·.units)).sum = -(burned : Int)

theorem Posts.append {signer : Address} {entries rest : List Entry} {effect effect' : Place → Int}
    {burned burned' : Nat} (h : Posts signer entries effect burned)
    (hrest : Posts signer rest effect' burned') :
    Posts signer (entries ++ rest) (fun place => effect place + effect' place)
      (burned + burned') := by
  constructor
  · intro place
    rw [net_append, h.net_eq, hrest.net_eq]
  · intro entry hentry
    rcases List.mem_append.mp hentry with hentry | hentry
    · exact h.debit_eq entry hentry
    · exact hrest.debit_eq entry hentry
  · rw [List.map_append, List.sum_append, h.sum_eq, hrest.sum_eq]
    omega

theorem posts_moved (signer : Address) (target : Place) (amount : Quantity) :
    Posts signer [⟨.general signer, amount.signed true⟩, ⟨target, amount.signed false⟩]
      (Place.moved (.general signer) target amount) 0 := by
  constructor
  · intro place
    simp only [net_cons, net_nil, Place.moved, eq_comm (b := place), Quantity.signed_true,
      Quantity.signed_false]
    by_cases hsource : place = .general signer
    · by_cases htarget : place = target
      · rw [if_pos hsource, if_pos htarget, if_pos htarget, if_pos hsource]
        omega
      · rw [if_pos hsource, if_neg htarget, if_neg htarget, if_pos hsource]
        omega
    · by_cases htarget : place = target
      · rw [if_neg hsource, if_pos htarget, if_pos htarget, if_neg hsource]
        omega
      · rw [if_neg hsource, if_neg htarget, if_neg htarget, if_neg hsource]
        omega
  · intro entry hentry hunits
    simp only [List.mem_cons, List.not_mem_nil, or_false] at hentry
    rcases hentry with rfl | rfl
    · rfl
    · have hnonneg : (0 : Int) ≤ amount.signed false := Int.natCast_nonneg _
      exact absurd hunits (Int.not_lt.mpr hnonneg)
  · simp only [List.map_cons, List.map_nil, List.sum_cons, List.sum_nil, Quantity.signed_true,
      Quantity.signed_false]
    omega

theorem posts_burned (signer : Address) (amount : Quantity) :
    Posts signer [⟨.general signer, amount.signed true⟩]
      (fun place => if place = .general signer then -(amount.units : Int) else 0)
      amount.units := by
  constructor
  · intro place
    rw [net_cons, net_nil]
    simp [Quantity.signed, eq_comm]
  · intro entry hentry _
    rw [List.mem_singleton.mp hentry]
  · simp [Quantity.signed]

theorem sum_units_eq_zero {entries : List Entry} (h : ∀ e ∈ entries, e.units = 0) :
    (entries.map (·.units)).sum = 0 := by
  induction entries with
  | nil => rfl
  | cons entry entries ih =>
      have hrest := ih fun e he => h e (List.mem_cons_of_mem _ he)
      rw [List.map_cons, List.sum_cons, h entry (by simp), hrest]
      rfl

theorem posts_zero (signer : Address) {entries : List Entry} (h : ∀ e ∈ entries, e.units = 0) :
    Posts signer entries (fun _ => 0) 0 := by
  constructor
  · intro place
    exact sum_units_eq_zero fun e he => h e (List.mem_filter.mp he).1
  · intro entry hentry hunits
    rw [h entry hentry] at hunits
    omega
  · exact sum_units_eq_zero h

/-! ## Readings -/

theorem mapM_singleton {op : Operation} {entry : Entry} (h : op.entry? = some entry) :
    [op].mapM Operation.entry? = some [entry] := by
  simp [h]

theorem mapM_pair {first second : Operation} {entry entry' : Entry}
    (hfirst : first.entry? = some entry) (hsecond : second.entry? = some entry') :
    [first, second].mapM Operation.entry? = some [entry, entry'] := by
  simp [hfirst, hsecond]

theorem Describes.posts {signer : Address} {ops : List Operation} {kind : TransactionKind}
    (h : Describes signer ops kind) :
    ∃ entries, ops.mapM Operation.entry? = some entries ∧
      Posts signer entries (kind.effect signer) kind.burned := by
  cases h with
  | transfer hdebit hpaid hcredit hreceived =>
      have hfirst := entry?_eq_some hdebit (units?_of_moves hpaid)
      have hsecond := entry?_eq_some hcredit (units?_of_moves hreceived)
      exact ⟨_, mapM_pair hfirst hsecond, posts_moved signer _ _⟩
  | burn hdebit hpaid =>
      have hentry := entry?_eq_some hdebit (units?_of_moves hpaid)
      exact ⟨_, mapM_singleton hentry, posts_burned signer _⟩
  | addEscrow hdebit hpaid hcredit hreceived =>
      have hfirst := entry?_eq_some hdebit (units?_of_moves hpaid)
      have hsecond := entry?_eq_some hcredit (units?_of_moves hreceived)
      exact ⟨_, mapM_pair hfirst hsecond, posts_moved signer _ _⟩
  | reclaimEscrow hfirst hsecond hnone hshares =>
      have hfirst := entry?_eq_some hfirst (units?_of_amount_none hnone.1)
      have hsecond := entry?_eq_some hsecond (units?_of_amount_none hnone.2)
      exact ⟨_, mapM_pair hfirst hsecond, posts_zero signer (by simp)⟩

section

variable [Suite]

theorem isOn_feeAccumulator {debit credit : Operation} (h : isFeePair debit credit) :
    credit.IsOn Address.feeAccumulator := by
  obtain ⟨_, _, account, haccount, haddress⟩ := isFeePair_iff.mp h
  refine ⟨account, haccount, ?_⟩
  rw [haddress]
  exact Address.ofText_text _

theorem PaysFee.posts {signer : Address} {fee : Fee} {debit credit : Operation}
    (h : PaysFee signer fee debit credit) (hpair : isFeePair debit credit) :
    ∃ entries, [debit, credit].mapM Operation.entry? = some entries ∧
      Posts signer entries (fee.effect signer) 0 := by
  have hcredit : credit.Concerns .transfer Address.feeAccumulator none :=
    ⟨(isFeePair_iff.mp hpair).2.1, isOn_feeAccumulator hpair, h.credit_subAccount⟩
  have hfirst := entry?_eq_some h.debit_concerns (units?_of_moves h.debit_moves)
  have hsecond := entry?_eq_some hcredit (units?_of_moves h.credit_moves)
  exact ⟨_, mapM_pair hfirst hsecond, posts_moved signer _ _⟩

/-- The operations of a transaction post the effects of its fee and its body. -/
theorem DescribesAll.posts {signer : Address} {ops : List Operation} {fee : Fee}
    {kind : TransactionKind} (h : DescribesAll signer ops fee kind) :
    ∃ entries, ops.mapM Operation.entry? = some entries ∧
      Posts signer entries (fun place => fee.effect signer place + kind.effect signer place)
        kind.burned := by
  cases h with
  | @paid debit credit rest _ _ hpair hfee hbody =>
      obtain ⟨paid, hpaid, hfee⟩ := hfee.posts hpair
      obtain ⟨entries, hentries, hbody⟩ := hbody.posts
      refine ⟨paid ++ entries, ?_, ?_⟩
      · have happend : debit :: credit :: rest = [debit, credit] ++ rest := rfl
        rw [happend, List.mapM_append, hpaid, hentries]
        rfl
      · have hposts := hfee.append hbody
        rwa [Nat.zero_add] at hposts
  | unpaid hfree hbody =>
      obtain ⟨entries, hentries, hbody⟩ := hbody.posts
      refine ⟨entries, hentries, ?_, hbody.debit_eq, hbody.sum_eq⟩
      intro place
      have hnothing : Fee.effect ⟨defaultGas, .zero⟩ signer place = 0 := by
        simp [Fee.effect, Place.moved, Quantity.zero]
      rw [hnothing, Int.zero_add]
      exact hbody.net_eq place

/-- The entries of operations add up to what the transaction changes that is read from them:
balance by balance the effects of its fee and its body, only the signer being debited, and in all
what it destroys. -/
theorem net_of_ofOperations {ops : List Operation} {signer : Address} {tx : Transaction}
    (h : Transaction.ofOperations ops = .ok (signer, tx)) :
    ∃ entries fee kind, ops.mapM Operation.entry? = some entries ∧
      tx.fee = some fee ∧ tx.kind = .ok kind ∧
      (∀ place, net entries place = fee.effect signer place + kind.effect signer place) ∧
      (∀ entry ∈ entries, entry.units < 0 → entry.place = .general signer) ∧
      (entries.map (·.units)).sum = -(kind.burned : Int) := by
  obtain ⟨_, fee, kind, hdescribes, rfl⟩ := ofOperations_eq_ok_iff.mp h
  obtain ⟨entries, hentries, hposts⟩ := hdescribes.posts
  have hkind : (Transaction.ofKind 0 fee kind).kind = .ok kind :=
    Transaction.kind_ofKind 0 fee hdescribes.isKnown
  exact ⟨entries, fee, kind, hentries, rfl, hkind, hposts.net_eq, hposts.debit_eq, hposts.sum_eq⟩

end

/-- A fee pair and a burn in spellings that are read but not written: an address in upper case and
leading zeros. -/
def spelledBurn : List Operation :=
  let account := .of "OASIS1QQRSWPC8QURSWPC8QURSWPC8QURSWPC8QUZDFWSE"
  [.of 0 "Transfer" none (some account) (some (.of "-007" currency)),
    .of 1 "Transfer" none (some Address.feeAccumulator.account) (some (.of "07" currency)),
    .of 2 "Burn" none (some account) (some (.of "-0012" currency))]

theorem ofOperations_spelledBurn :
    Transaction.ofOperations spelledBurn
      = .ok (⟨List.replicate 20 7, rfl⟩, .ofKind 0 ⟨10000, ⟨7⟩⟩ (.burn ⟨⟨12⟩⟩)) := by
  have hread : Address.ofText "OASIS1QQRSWPC8QURSWPC8QURSWPC8QURSWPC8QUZDFWSE"
      = .ok ⟨List.replicate 20 7, rfl⟩ := by cbv
  refine ofOperations_eq_ok_iff.mpr ⟨rfl, ⟨10000, ⟨7⟩⟩, .burn ⟨⟨12⟩⟩, ?_, rfl⟩
  refine .paid (isFeePair_iff.mpr ⟨rfl, rfl, _, rfl, rfl⟩) ?_ (.burn ⟨rfl, ⟨_, rfl, hread⟩, rfl⟩ ?_)
  · exact ⟨⟨rfl, ⟨_, rfl, hread⟩, rfl⟩, ⟨_, rfl, ⟨rfl, rfl⟩, by decide⟩, rfl, rfl,
      ⟨_, rfl, ⟨rfl, rfl⟩, by decide⟩⟩
  · exact ⟨_, rfl, ⟨rfl, rfl⟩, by decide⟩

theorem net_of_ofOperations_spelledBurn :
    ∃ signer tx, Transaction.ofOperations spelledBurn = .ok (signer, tx) ∧
      ∃ entries fee kind, spelledBurn.mapM Operation.entry? = some entries ∧
        tx.fee = some fee ∧ tx.kind = .ok kind ∧
        (∀ place, net entries place = fee.effect signer place + kind.effect signer place) ∧
        (∀ entry ∈ entries, entry.units < 0 → entry.place = .general signer) ∧
        (entries.map (·.units)).sum = -(kind.burned : Int) :=
  ⟨_, _, ofOperations_spelledBurn, net_of_ofOperations ofOperations_spelledBurn⟩

end StakingGateway
