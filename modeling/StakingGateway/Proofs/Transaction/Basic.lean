import StakingGateway.Proofs.Address
import StakingGateway.Proofs.Cbor.Record
import StakingGateway.Proofs.Outcome
import StakingGateway.Proofs.Quantity
import StakingGateway.Transaction.Basic

/-!
# Transactions read back

Bodies, fees and transactions read back from their data items.  What is written for them is plain,
so they also read back from their bytes, and the kind of a transaction is the one it was made of
(`kind_ofKind`).
-/

namespace StakingGateway

open Cbor Item

theorem Address.plain_toItem (address : Address) : address.toItem.Plain 0 :=
  plain_bytes _

theorem Quantity.plain_toItem (q : Quantity) : q.toItem.Plain 0 :=
  plain_bytes _

/-! ## Bodies -/

namespace Staking

theorem Transfer.ofItem?_toItem (body : Transfer) : ofItem? body.toItem = some body := by
  have hmembers : body.toItem.members? ["to", "amount"]
      = some [("to", body.target.toItem), ("amount", body.amount.toItem)] :=
    members?_record rfl (by decide)
  simp [ofItem?, hmembers, required, defaulted, Address.ofItem?_toItem, Quantity.ofItem?_toItem,
    List.lookup]

theorem Burn.ofItem?_toItem (body : Burn) : ofItem? body.toItem = some body := by
  have hmembers : body.toItem.members? ["amount"] = some [("amount", body.amount.toItem)] :=
    members?_record rfl (by decide)
  simp [ofItem?, hmembers, defaulted, Quantity.ofItem?_toItem, List.lookup]

theorem AddEscrow.ofItem?_toItem (body : AddEscrow) : ofItem? body.toItem = some body := by
  have hmembers : body.toItem.members? ["amount", "account"]
      = some [("amount", body.amount.toItem), ("account", body.account.toItem)] :=
    members?_record rfl (by decide)
  simp [ofItem?, hmembers, required, defaulted, Address.ofItem?_toItem, Quantity.ofItem?_toItem,
    List.lookup]

theorem ReclaimEscrow.ofItem?_toItem (body : ReclaimEscrow) :
    ofItem? body.toItem = some body := by
  have hmembers : body.toItem.members? ["shares", "account"]
      = some [("shares", body.shares.toItem), ("account", body.account.toItem)] :=
    members?_record rfl (by decide)
  simp [ofItem?, hmembers, required, defaulted, Address.ofItem?_toItem, Quantity.ofItem?_toItem,
    List.lookup]

theorem Transfer.plain_toItem (body : Transfer) : body.toItem.Plain 1 := by
  refine plain_record ["to", "amount"] rfl (by decide) ?_
  simp [Address.plain_toItem, Quantity.plain_toItem]

theorem Burn.plain_toItem (body : Burn) : body.toItem.Plain 1 := by
  refine plain_record ["amount"] rfl (by decide) ?_
  simp [Quantity.plain_toItem]

theorem AddEscrow.plain_toItem (body : AddEscrow) : body.toItem.Plain 1 := by
  refine plain_record ["amount", "account"] rfl (by decide) ?_
  simp [Address.plain_toItem, Quantity.plain_toItem]

theorem ReclaimEscrow.plain_toItem (body : ReclaimEscrow) : body.toItem.Plain 1 := by
  refine plain_record ["shares", "account"] rfl (by decide) ?_
  simp [Address.plain_toItem, Quantity.plain_toItem]

end Staking

theorem Fee.ofItem?_toItem (fee : Fee) : ofItem? fee.toItem = some fee := by
  have hmembers : fee.toItem.members? ["gas", "amount"]
      = some [("gas", .unsigned fee.gas), ("amount", fee.amount.toItem)] :=
    members?_record rfl (by decide)
  simp [ofItem?, hmembers, defaulted, asUInt64?, untag, Quantity.ofItem?_toItem, List.lookup]

theorem Fee.plain_toItem (fee : Fee) : fee.toItem.Plain 1 := by
  refine plain_record ["gas", "amount"] rfl (by decide) ?_
  simp [plain_unsigned, Quantity.plain_toItem]

namespace TransactionKind

theorem plain_body? (kind : TransactionKind) : ∀ body ∈ kind.body?, body.Plain 1 := by
  cases kind with
  | transfer body =>
      rintro _ ⟨rfl⟩
      exact body.plain_toItem
  | burn body =>
      rintro _ ⟨rfl⟩
      exact body.plain_toItem
  | addEscrow body =>
      rintro _ ⟨rfl⟩
      exact body.plain_toItem
  | reclaimEscrow body =>
      rintro _ ⟨rfl⟩
      exact body.plain_toItem
  | unknown method => nofun

theorem body?_ne_null (kind : TransactionKind) : ∀ body ∈ kind.body?, body ≠ .null := by
  cases kind with
  | unknown method => nofun
  | _ =>
      rintro _ ⟨rfl⟩
      exact nofun

def isKnown : TransactionKind → Bool
  | .unknown _ => false
  | _ => true

end TransactionKind

namespace Transaction

theorem readBody_ofKind {α : Type} {read : Item → Option α} {kind : TransactionKind} {item : Item}
    {value : α} (nonce : UInt64) (fee : Fee) (hbody : kind.body? = some item)
    (hread : read item = some value) : (ofKind nonce fee kind).readBody read = .ok value := by
  have hitem : (Value.ofItem item).item = item :=
    Value.item_ofItem (kind.plain_body? item hbody)
  simp only [readBody, ofKind, hbody, Option.map_some, Option.getD_some, hitem, hread]

def knownMethods : List String :=
  [Staking.Transfer.method, Staking.Burn.method, Staking.AddEscrow.method,
    Staking.ReclaimEscrow.method]

/-- A transaction has the method of a kind, and its body is read as that of the kind. -/
def HasKind (tx : Transaction) : TransactionKind → Prop
  | .transfer body =>
    tx.method = Staking.Transfer.method ∧ tx.readBody Staking.Transfer.ofItem? = .ok body
  | .burn body => tx.method = Staking.Burn.method ∧ tx.readBody Staking.Burn.ofItem? = .ok body
  | .addEscrow body =>
    tx.method = Staking.AddEscrow.method ∧ tx.readBody Staking.AddEscrow.ofItem? = .ok body
  | .reclaimEscrow body =>
    tx.method = Staking.ReclaimEscrow.method ∧ tx.readBody Staking.ReclaimEscrow.ofItem? = .ok body
  | .unknown method => tx.method = method ∧ tx.method ∉ knownMethods

theorem kind_eq_ok_iff {tx : Transaction} {kind : TransactionKind} :
    tx.kind = .ok kind ↔ tx.HasKind kind := by
  have hmethods : Staking.Transfer.method = "staking.Transfer"
      ∧ Staking.Burn.method = "staking.Burn"
      ∧ Staking.AddEscrow.method = "staking.AddEscrow"
      ∧ Staking.ReclaimEscrow.method = "staking.ReclaimEscrow" := ⟨rfl, rfl, rfl, rfl⟩
  unfold Transaction.kind
  split
  next h => cases kind <;> simp [HasKind, knownMethods, map_eq_ok_iff, h, hmethods]
  split
  next h => cases kind <;> simp [HasKind, knownMethods, map_eq_ok_iff, h, hmethods]
  split
  next h => cases kind <;> simp [HasKind, knownMethods, map_eq_ok_iff, h, hmethods]
  split
  next h => cases kind <;> simp [HasKind, knownMethods, map_eq_ok_iff, h, hmethods]
  next => cases kind <;> simp_all [HasKind, knownMethods]

/-- A transaction is of the kind that it was made of. -/
theorem kind_ofKind (nonce : UInt64) (fee : Fee) {kind : TransactionKind} (h : kind.isKnown) :
    (ofKind nonce fee kind).kind = .ok kind := by
  rw [kind_eq_ok_iff]
  cases kind with
  | transfer body => exact ⟨rfl, readBody_ofKind nonce fee rfl body.ofItem?_toItem⟩
  | burn body => exact ⟨rfl, readBody_ofKind nonce fee rfl body.ofItem?_toItem⟩
  | addEscrow body => exact ⟨rfl, readBody_ofKind nonce fee rfl body.ofItem?_toItem⟩
  | reclaimEscrow body => exact ⟨rfl, readBody_ofKind nonce fee rfl body.ofItem?_toItem⟩
  | unknown method => cases h

theorem kind_ofKind_iff (nonce : UInt64) (fee : Fee) (kind : TransactionKind) :
    (ofKind nonce fee kind).kind = .ok kind ↔ kind.isKnown ∨ kind.method ∉ knownMethods := by
  constructor
  · intro h
    cases kind with
    | unknown method => exact .inr (kind_eq_ok_iff.mp h).2
    | _ => exact .inl rfl
  · rintro (hknown | hmethod)
    · exact kind_ofKind nonce fee hknown
    · cases kind with
      | unknown method => exact kind_eq_ok_iff.mpr ⟨rfl, hmethod⟩
      | _ => exact kind_ofKind nonce fee rfl

theorem isKnown_of_kind {tx : Transaction} {kind : TransactionKind} (hkind : tx.kind = .ok kind)
    (hmethod : tx.method ∈ knownMethods) : kind.isKnown := by
  cases kind with
  | unknown method =>
      obtain ⟨rfl, hunknown⟩ := kind_eq_ok_iff.mp hkind
      exact absurd hmethod hunknown
  | _ => rfl

/-- A transaction reads back from its item; a null body would read as none. -/
theorem ofItem?_toItem {tx : Transaction} (h : ∀ body ∈ tx.body, body.item ≠ .null) :
    ofItem? tx.toItem = some tx := by
  have hmembers : tx.toItem.members? ["fee", "body", "nonce", "method"] = some (given tx.fields) :=
    members?_record rfl (by decide)
  have hnames : (tx.fields.map (·.1)).Nodup := by simp [fields]
  have hfee : Cbor.optional (given tx.fields) "fee" Fee.ofItem? = some tx.fee :=
    optional_given hnames rfl (fun _ _ => nofun) fun fee _ => fee.ofItem?_toItem
  have hbody : Cbor.optional (given tx.fields) "body" (fun item => some (Value.ofItem item))
      = some tx.body :=
    optional_given hnames rfl h fun body _ => congrArg some (Value.ofItem_item body)
  have hnonce : (given tx.fields).lookup "nonce" = some (.unsigned tx.nonce) := by
    rw [lookup_given hnames]
    rfl
  have hmethod : (given tx.fields).lookup "method" = some (.text tx.method) := by
    rw [lookup_given hnames]
    rfl
  simp [ofItem?, hmembers, hfee, hbody, defaulted, required, hnonce, hmethod, asUInt64?, asText?,
    untag]

theorem plain_toItem {tx : Transaction} {limit : Nat} (hlimit : 1 ≤ limit)
    (h : ∀ body ∈ tx.body, body.item.Plain limit) : tx.toItem.Plain (limit + 1) := by
  refine plain_record ["fee", "body", "nonce", "method"] rfl (by decide) ?_
  intro field hfield item hitem
  simp only [fields, List.mem_cons, List.not_mem_nil, or_false] at hfield
  rcases hfield with rfl | rfl | rfl | rfl
  · obtain ⟨fee, _, rfl⟩ := Option.map_eq_some_iff.mp hitem
    exact fee.plain_toItem.mono hlimit
  · obtain ⟨body, hbody, rfl⟩ := Option.map_eq_some_iff.mp hitem
    exact h body hbody
  · cases hitem
    exact (plain_unsigned _).mono (Nat.zero_le limit)
  · cases hitem
    exact (plain_text _).mono (Nat.zero_le limit)

/-- Whatever its body is, a transaction is written as a plain item. -/
theorem exists_plain_toItem (tx : Transaction) : ∃ limit, tx.toItem.Plain limit := by
  cases hbody : tx.body with
  | none => exact ⟨2, plain_toItem (Nat.le_refl 1) (by simp [hbody])⟩
  | some body =>
      refine ⟨max 1 body.item.depth + 1, plain_toItem (Nat.le_max_left ..) fun value hvalue => ?_⟩
      cases hbody.symm.trans hvalue
      exact body.plain.mono (Nat.le_max_right ..)

section

variable (nonce : UInt64) (fee : Fee) (kind : TransactionKind)

theorem plain_body_ofKind : ∀ body ∈ (ofKind nonce fee kind).body, body.item.Plain 1 := by
  intro value hvalue
  obtain ⟨body, hbody, rfl⟩ := Option.map_eq_some_iff.mp hvalue
  have hplain := kind.plain_body? body hbody
  rwa [Value.item_ofItem hplain]

theorem body_ne_null_ofKind : ∀ body ∈ (ofKind nonce fee kind).body, body.item ≠ .null := by
  intro value hvalue
  obtain ⟨body, hbody, rfl⟩ := Option.map_eq_some_iff.mp hvalue
  rw [Value.item_ofItem (kind.plain_body? body hbody)]
  exact kind.body?_ne_null body hbody

theorem plain_toItem_ofKind : (ofKind nonce fee kind).toItem.Plain 2 :=
  plain_toItem (Nat.le_refl 1) (plain_body_ofKind nonce fee kind)

theorem decode_encode_ofKind :
    decode (ofKind nonce fee kind).encode = .ok (ofKind nonce fee kind) := by
  have hdecode : decodeAs ofItem? (ofKind nonce fee kind).encode = .ok (ofKind nonce fee kind) :=
    decodeAs_encode (plain_toItem_ofKind nonce fee kind) (by decide)
      (ofItem?_toItem (body_ne_null_ofKind nonce fee kind))
  rw [decode, hdecode]
  rfl

end

end Transaction

end StakingGateway
