import StakingGateway.Address
import StakingGateway.Quantity

/-!
# Account state

The balances of an account as the node serves them, and what the account has delegated.
Delegations are listed by the address they were delegated to, in the order of the addresses, each
address once.
-/

namespace StakingGateway.Staking

open Cbor

/-- Things listed by address: in the order of the addresses, each address once. -/
structure AddressMap (β : Type) where
  entries : List (Address × β)
  ascending : Assoc.Ascending Address.bytes entries

namespace AddressMap

variable {β : Type}

def empty : AddressMap β :=
  ⟨[], List.Pairwise.nil⟩

/-- Lists entries by address, the last entry of each address. -/
def ofList (entries : List (Address × β)) : AddressMap β :=
  ⟨Assoc.arrange Address.bytes entries, Assoc.arrange_ascending entries⟩

theorem ofList_entries (map : AddressMap β) : ofList map.entries = map := by
  obtain ⟨entries, ascending⟩ := map
  simp [ofList, Assoc.arrange_of_ascending ascending]

def toItem (write : β → Item) (map : AddressMap β) : Item :=
  .map (map.entries.map fun (address, value) => (address.toItem, write value))

def ofItem? (read : Item → Option β) (item : Item) : Option (AddressMap β) :=
  (item.asEntries? Address.ofItem? read).map ofList

end AddressMap

structure GeneralAccount where
  balance : Quantity
  nonce : UInt64
  deriving DecidableEq

/-- A pool of tokens and the shares that divide it. -/
structure SharePool where
  balance : Quantity
  totalShares : Quantity
  deriving DecidableEq

structure EscrowAccount where
  active : SharePool
  debonding : SharePool
  deriving DecidableEq

structure Account where
  general : GeneralAccount
  escrow : EscrowAccount
  deriving DecidableEq

structure Delegation where
  shares : Quantity
  deriving DecidableEq

/-- Shares on their way out of an escrow account. -/
structure DebondingDelegation where
  shares : Quantity
  debondEnd : UInt64
  deriving DecidableEq

abbrev Delegations := AddressMap Delegation

abbrev DebondingDelegations := AddressMap (List DebondingDelegation)

namespace GeneralAccount

def default : GeneralAccount :=
  ⟨.zero, 0⟩

def toItem (account : GeneralAccount) : Item :=
  .record [("balance", some account.balance.toItem), ("nonce", some (.unsigned account.nonce))]

def ofItem? (item : Item) : Option GeneralAccount := do
  let members ← item.members? ["balance", "nonce"]
  let balance ← defaulted members "balance" Quantity.ofItem? .zero
  let nonce ← defaulted members "nonce" Item.asUInt64? 0
  return ⟨balance, nonce⟩

end GeneralAccount

namespace SharePool

def default : SharePool :=
  ⟨.zero, .zero⟩

def toItem (pool : SharePool) : Item :=
  .record [("balance", some pool.balance.toItem), ("total_shares", some pool.totalShares.toItem)]

def ofItem? (item : Item) : Option SharePool := do
  let members ← item.members? ["balance", "total_shares"]
  let balance ← defaulted members "balance" Quantity.ofItem? .zero
  let totalShares ← defaulted members "total_shares" Quantity.ofItem? .zero
  return ⟨balance, totalShares⟩

end SharePool

namespace EscrowAccount

def default : EscrowAccount :=
  ⟨.default, .default⟩

def toItem (account : EscrowAccount) : Item :=
  .record [("active", some account.active.toItem), ("debonding", some account.debonding.toItem)]

def ofItem? (item : Item) : Option EscrowAccount := do
  let members ← item.members? ["active", "debonding"]
  let active ← defaulted members "active" SharePool.ofItem? .default
  let debonding ← defaulted members "debonding" SharePool.ofItem? .default
  return ⟨active, debonding⟩

end EscrowAccount

namespace Account

def toItem (account : Account) : Item :=
  .record [("general", some account.general.toItem), ("escrow", some account.escrow.toItem)]

def ofItem? (item : Item) : Option Account := do
  let members ← item.members? ["general", "escrow"]
  let general ← defaulted members "general" GeneralAccount.ofItem? .default
  let escrow ← defaulted members "escrow" EscrowAccount.ofItem? .default
  return ⟨general, escrow⟩

end Account

namespace Delegation

def toItem (delegation : Delegation) : Item :=
  .record [("shares", some delegation.shares.toItem)]

def ofItem? (item : Item) : Option Delegation := do
  let members ← item.members? ["shares"]
  let shares ← defaulted members "shares" Quantity.ofItem? .zero
  return ⟨shares⟩

end Delegation

namespace DebondingDelegation

def toItem (delegation : DebondingDelegation) : Item :=
  .record [("shares", some delegation.shares.toItem),
    ("debond_end", some (.unsigned delegation.debondEnd))]

def ofItem? (item : Item) : Option DebondingDelegation := do
  let members ← item.members? ["shares", "debond_end"]
  let shares ← defaulted members "shares" Quantity.ofItem? .zero
  let debondEnd ← defaulted members "debond_end" Item.asUInt64? 0
  return ⟨shares, debondEnd⟩

end DebondingDelegation

namespace Delegations

def toItem (delegations : Delegations) : Item :=
  AddressMap.toItem Delegation.toItem delegations

def ofItem? (item : Item) : Option Delegations :=
  AddressMap.ofItem? Delegation.ofItem? item

end Delegations

namespace DebondingDelegations

def toItem (delegations : DebondingDelegations) : Item :=
  AddressMap.toItem (fun list => .array (list.map DebondingDelegation.toItem)) delegations

def ofItem? (item : Item) : Option DebondingDelegations :=
  AddressMap.ofItem? (Item.asList? DebondingDelegation.ofItem?) item

end DebondingDelegations

end StakingGateway.Staking
