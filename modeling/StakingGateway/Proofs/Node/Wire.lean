import StakingGateway.Proofs.Address
import StakingGateway.Proofs.Cbor.Faithful
import StakingGateway.Proofs.Quantity
import StakingGateway.Staking.Account
import StakingGateway.Transaction.Result

/-!
# What a node serves, on the wire

Events, account states, delegations and results of transactions are written as records of defaults,
of fields that are left out and of lists and maps.  Each of them is faithful (`Item.Faithful`).
-/

namespace StakingGateway

open Cbor Item Faithful

theorem Quantity.faithful_toItem : Faithful 0 toItem ofItem? where
  read_write := ofItem?_toItem
  ne_null _ := nofun
  depth_le _ := Nat.le_refl 0

theorem Hash.faithful_toItem : Faithful 0 toItem ofItem? where
  read_write := ofItem?_toItem
  ne_null _ := nofun
  depth_le _ := Nat.le_refl 0

theorem Address.faithful_toItem : Faithful 0 toItem ofItem? where
  read_write := ofItem?_toItem
  ne_null _ := nofun
  depth_le _ := Nat.le_refl 0

namespace Staking

/-- A map by address keeps its entries: they are in order, and each address is there once. -/
theorem AddressMap.faithful_toItem {β : Type} {limit : Nat} {write : β → Item}
    {read : Item → Option β} (h : Faithful limit write read) :
    Faithful (limit + 1) (toItem write) (ofItem? read) where
  read_write map := by
    have hentries : (map.toItem write).asEntries? Address.ofItem? read = some map.entries :=
      mapM_map_of_forall (fun entry => by
        simp [Address.faithful_toItem.read_write, h.read_write]) map.entries
    rw [ofItem?, hentries, Option.map_some, ofList_entries]
  ne_null _ := nofun
  depth_le map := by
    apply Nat.succ_le_succ
    apply entriesDepth_le
    intro entry hentry
    obtain ⟨⟨address, value⟩, -, rfl⟩ := List.mem_map.mp hentry
    exact ⟨Nat.le_trans (Address.faithful_toItem.depth_le address) (Nat.zero_le limit),
      h.depth_le value⟩

/-! ## Events -/

theorem TransferEvent.faithful_toItem : Faithful 1 toItem ofItem? := by
  refine .record ["from", "to", "amount"] (fun _ => rfl) (by decide)
    (fun event hnames => ?_) fun _ => ?_
  · rw [Address.faithful_toItem.required hnames rfl, Address.faithful_toItem.required hnames rfl,
      Quantity.faithful_toItem.defaulted hnames rfl]
    rfl
  · exact Address.faithful_toItem.field <| Address.faithful_toItem.field <|
      Quantity.faithful_toItem.field <| fieldsWithin_nil 0

theorem BurnEvent.faithful_toItem : Faithful 1 toItem ofItem? := by
  refine .record ["owner", "amount"] (fun _ => rfl) (by decide) (fun event hnames => ?_) fun _ => ?_
  · rw [Address.faithful_toItem.required hnames rfl, Quantity.faithful_toItem.defaulted hnames rfl]
    rfl
  · exact Address.faithful_toItem.field <| Quantity.faithful_toItem.field <| fieldsWithin_nil 0

theorem AddEscrowEvent.faithful_toItem : Faithful 1 toItem ofItem? := by
  refine .record ["owner", "escrow", "amount", "new_shares"] (fun _ => rfl) (by decide)
    (fun event hnames => ?_) fun _ => ?_
  · rw [Address.faithful_toItem.required hnames rfl, Address.faithful_toItem.required hnames rfl,
      Quantity.faithful_toItem.defaulted hnames rfl, Quantity.faithful_toItem.defaulted hnames rfl]
    rfl
  · exact Address.faithful_toItem.field <| Address.faithful_toItem.field <|
      Quantity.faithful_toItem.field <| Quantity.faithful_toItem.field <| fieldsWithin_nil 0

theorem TakeEscrowEvent.faithful_toItem : Faithful 1 toItem ofItem? := by
  refine .record ["owner", "amount"] (fun _ => rfl) (by decide) (fun event hnames => ?_) fun _ => ?_
  · rw [Address.faithful_toItem.required hnames rfl, Quantity.faithful_toItem.defaulted hnames rfl]
    rfl
  · exact Address.faithful_toItem.field <| Quantity.faithful_toItem.field <| fieldsWithin_nil 0

theorem ReclaimEscrowEvent.faithful_toItem : Faithful 1 toItem ofItem? := by
  refine .record ["owner", "escrow", "amount", "shares"] (fun _ => rfl) (by decide)
    (fun event hnames => ?_) fun _ => ?_
  · rw [Address.faithful_toItem.required hnames rfl, Address.faithful_toItem.required hnames rfl,
      Quantity.faithful_toItem.defaulted hnames rfl, Quantity.faithful_toItem.defaulted hnames rfl]
    rfl
  · exact Address.faithful_toItem.field <| Address.faithful_toItem.field <|
      Quantity.faithful_toItem.field <| Quantity.faithful_toItem.field <| fieldsWithin_nil 0

theorem EscrowEvent.faithful_toItem : Faithful 2 toItem ofItem? := by
  refine .record ["add", "take", "reclaim"] (fun _ => rfl) (by decide)
    (fun event hnames => ?_) fun _ => ?_
  · rw [AddEscrowEvent.faithful_toItem.optional hnames rfl,
      TakeEscrowEvent.faithful_toItem.optional hnames rfl,
      ReclaimEscrowEvent.faithful_toItem.optional hnames rfl]
    rfl
  · exact AddEscrowEvent.faithful_toItem.optionalField <|
      TakeEscrowEvent.faithful_toItem.optionalField <|
      ReclaimEscrowEvent.faithful_toItem.optionalField <| fieldsWithin_nil 1

theorem Event.faithful_toItem : Faithful 3 toItem ofItem? := by
  refine .record ["height", "tx_hash", "transfer", "burn", "escrow"] (fun _ => rfl) (by decide)
    (fun event hnames => ?_) fun _ => ?_
  · rw [faithful_int64.defaulted hnames rfl, Hash.faithful_toItem.defaulted hnames rfl,
      TransferEvent.faithful_toItem.optional hnames rfl,
      BurnEvent.faithful_toItem.optional hnames rfl,
      EscrowEvent.faithful_toItem.optional hnames rfl]
    rfl
  · exact (faithful_int64.mono (by decide)).field <|
      (Hash.faithful_toItem.mono (by decide)).field <|
      (TransferEvent.faithful_toItem.mono (by decide)).optionalField <|
      (BurnEvent.faithful_toItem.mono (by decide)).optionalField <|
      EscrowEvent.faithful_toItem.optionalField <| fieldsWithin_nil 2

/-! ## Account states -/

theorem GeneralAccount.faithful_toItem : Faithful 1 toItem ofItem? := by
  refine .record ["balance", "nonce"] (fun _ => rfl) (by decide)
    (fun account hnames => ?_) fun _ => ?_
  · rw [Quantity.faithful_toItem.defaulted hnames rfl, faithful_uInt64.defaulted hnames rfl]
    rfl
  · exact Quantity.faithful_toItem.field <| faithful_uInt64.field <| fieldsWithin_nil 0

theorem SharePool.faithful_toItem : Faithful 1 toItem ofItem? := by
  refine .record ["balance", "total_shares"] (fun _ => rfl) (by decide)
    (fun pool hnames => ?_) fun _ => ?_
  · rw [Quantity.faithful_toItem.defaulted hnames rfl,
      Quantity.faithful_toItem.defaulted hnames rfl]
    rfl
  · exact Quantity.faithful_toItem.field <| Quantity.faithful_toItem.field <| fieldsWithin_nil 0

theorem EscrowAccount.faithful_toItem : Faithful 2 toItem ofItem? := by
  refine .record ["active", "debonding"] (fun _ => rfl) (by decide)
    (fun account hnames => ?_) fun _ => ?_
  · rw [SharePool.faithful_toItem.defaulted hnames rfl,
      SharePool.faithful_toItem.defaulted hnames rfl]
    rfl
  · exact SharePool.faithful_toItem.field <| SharePool.faithful_toItem.field <| fieldsWithin_nil 1

theorem Account.faithful_toItem : Faithful 3 toItem ofItem? := by
  refine .record ["general", "escrow"] (fun _ => rfl) (by decide)
    (fun account hnames => ?_) fun _ => ?_
  · rw [GeneralAccount.faithful_toItem.defaulted hnames rfl,
      EscrowAccount.faithful_toItem.defaulted hnames rfl]
    rfl
  · exact (GeneralAccount.faithful_toItem.mono (by decide)).field <|
      EscrowAccount.faithful_toItem.field <| fieldsWithin_nil 2

theorem Delegation.faithful_toItem : Faithful 1 toItem ofItem? := by
  refine .record ["shares"] (fun _ => rfl) (by decide) (fun delegation hnames => ?_) fun _ => ?_
  · rw [Quantity.faithful_toItem.defaulted hnames rfl]
    rfl
  · exact Quantity.faithful_toItem.field <| fieldsWithin_nil 0

theorem DebondingDelegation.faithful_toItem : Faithful 1 toItem ofItem? := by
  refine .record ["shares", "debond_end"] (fun _ => rfl) (by decide)
    (fun delegation hnames => ?_) fun _ => ?_
  · rw [Quantity.faithful_toItem.defaulted hnames rfl, faithful_uInt64.defaulted hnames rfl]
    rfl
  · exact Quantity.faithful_toItem.field <| faithful_uInt64.field <| fieldsWithin_nil 0

theorem Delegations.faithful_toItem : Faithful 2 Delegations.toItem Delegations.ofItem? :=
  AddressMap.faithful_toItem Delegation.faithful_toItem

theorem DebondingDelegations.faithful_toItem :
    Faithful 3 DebondingDelegations.toItem DebondingDelegations.ofItem? :=
  AddressMap.faithful_toItem DebondingDelegation.faithful_toItem.list

end Staking

/-! ## Results -/

theorem ResultError.faithful_toItem : Faithful 1 toItem ofItem? := by
  refine .record ["module", "code", "message"] (fun _ => rfl) (by decide)
    (fun error hnames => ?_) fun _ => ?_
  · rw [faithful_text.defaulted hnames rfl, faithful_uInt32.defaulted hnames rfl,
      faithful_text.defaulted hnames rfl]
    rfl
  · exact faithful_text.field <| faithful_uInt32.field <| faithful_text.field <| fieldsWithin_nil 0

theorem ResultEvent.faithful_toItem : Faithful 4 toItem ofItem? := by
  refine .record ["staking"] (fun _ => rfl) (by decide) (fun event hnames => ?_) fun _ => ?_
  · rw [Staking.Event.faithful_toItem.optional hnames rfl]
    rfl
  · exact Staking.Event.faithful_toItem.optionalField <| fieldsWithin_nil 3

theorem TransactionResult.faithful_toItem : Faithful 6 toItem ofItem? := by
  refine .record ["error", "events", "gas_used"] (fun _ => rfl) (by decide)
    (fun result hnames => ?_) fun _ => ?_
  · rw [ResultError.faithful_toItem.defaulted hnames rfl,
      ResultEvent.faithful_toItem.list.nullDefaulted hnames rfl,
      faithful_uInt64.defaulted hnames rfl]
    rfl
  · exact (ResultError.faithful_toItem.mono (by decide)).field <|
      ResultEvent.faithful_toItem.list.field <|
      (faithful_uInt64.mono (by decide)).field <| fieldsWithin_nil 5

/-! ## Bytes -/

/-- Values are read from the bytes that they are written as, also those that were read from bytes
in another encoding. -/
structure SurvivesWire {α : Type} (write : α → Item) (read : Item → Option α) : Prop where
  decodeAs_encode : ∀ value, decodeAs read (write value).encode = .ok value
  decodeAs_reencode : ∀ bytes value, decodeAs read bytes = .ok value →
    decodeAs read (write value).encode = .ok value

theorem survivesWire_of_faithful {α : Type} {limit : Nat} {write : α → Item}
    {read : Item → Option α} (h : Faithful limit write read) (hlimit : limit ≤ nestingLimit) :
    SurvivesWire write read where
  decodeAs_encode := h.decodeAs_encode hlimit
  decodeAs_reencode _ value _ := h.decodeAs_encode hlimit value

/-- Events, accounts, delegations and results survive the wire, whatever is absent from them and
whatever their size. -/
theorem survivesWire_servedData :
    SurvivesWire Staking.Event.toItem Staking.Event.ofItem? ∧
    SurvivesWire Staking.Account.toItem Staking.Account.ofItem? ∧
    SurvivesWire Staking.Delegations.toItem Staking.Delegations.ofItem? ∧
    SurvivesWire Staking.DebondingDelegations.toItem Staking.DebondingDelegations.ofItem? ∧
    SurvivesWire TransactionResult.toItem TransactionResult.ofItem? :=
  ⟨survivesWire_of_faithful Staking.Event.faithful_toItem (by decide),
    survivesWire_of_faithful Staking.Account.faithful_toItem (by decide),
    survivesWire_of_faithful Staking.Delegations.faithful_toItem (by decide),
    survivesWire_of_faithful Staking.DebondingDelegations.faithful_toItem (by decide),
    survivesWire_of_faithful TransactionResult.faithful_toItem (by decide)⟩

end StakingGateway
