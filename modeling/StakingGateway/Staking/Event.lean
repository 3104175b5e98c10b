import StakingGateway.Address
import StakingGateway.Quantity

/-!
# Staking events

What the node reports about the ledger.  An event carries at most a transfer, a burn and an
escrow change; kinds that are not known here are read with none of them.  An event that no
transaction caused has an empty transaction hash.
-/

namespace StakingGateway.Staking

open Cbor

structure TransferEvent where
  source : Address
  target : Address
  amount : Quantity
  deriving DecidableEq

structure BurnEvent where
  owner : Address
  amount : Quantity
  deriving DecidableEq

/-- Tokens moved into an escrow account, against new shares. -/
structure AddEscrowEvent where
  owner : Address
  escrow : Address
  amount : Quantity
  newShares : Quantity
  deriving DecidableEq

/-- Tokens were taken out of an escrow account as a penalty. -/
structure TakeEscrowEvent where
  owner : Address
  amount : Quantity
  deriving DecidableEq

/-- Tokens moved out of an escrow account, back to their owner. -/
structure ReclaimEscrowEvent where
  owner : Address
  escrow : Address
  amount : Quantity
  shares : Quantity
  deriving DecidableEq

structure EscrowEvent where
  add : Option AddEscrowEvent
  take : Option TakeEscrowEvent
  reclaim : Option ReclaimEscrowEvent
  deriving DecidableEq

structure Event where
  height : Int64
  txHash : Hash
  transfer : Option TransferEvent
  burn : Option BurnEvent
  escrow : Option EscrowEvent
  deriving DecidableEq

namespace TransferEvent

def toItem (event : TransferEvent) : Item :=
  .record [("from", some event.source.toItem), ("to", some event.target.toItem),
    ("amount", some event.amount.toItem)]

def ofItem? (item : Item) : Option TransferEvent := do
  let members ← item.members? ["from", "to", "amount"]
  let source ← required members "from" Address.ofItem?
  let target ← required members "to" Address.ofItem?
  let amount ← defaulted members "amount" Quantity.ofItem? .zero
  return ⟨source, target, amount⟩

end TransferEvent

namespace BurnEvent

def toItem (event : BurnEvent) : Item :=
  .record [("owner", some event.owner.toItem), ("amount", some event.amount.toItem)]

def ofItem? (item : Item) : Option BurnEvent := do
  let members ← item.members? ["owner", "amount"]
  let owner ← required members "owner" Address.ofItem?
  let amount ← defaulted members "amount" Quantity.ofItem? .zero
  return ⟨owner, amount⟩

end BurnEvent

namespace AddEscrowEvent

def toItem (event : AddEscrowEvent) : Item :=
  .record [("owner", some event.owner.toItem), ("escrow", some event.escrow.toItem),
    ("amount", some event.amount.toItem), ("new_shares", some event.newShares.toItem)]

def ofItem? (item : Item) : Option AddEscrowEvent := do
  let members ← item.members? ["owner", "escrow", "amount", "new_shares"]
  let owner ← required members "owner" Address.ofItem?
  let escrow ← required members "escrow" Address.ofItem?
  let amount ← defaulted members "amount" Quantity.ofItem? .zero
  let newShares ← defaulted members "new_shares" Quantity.ofItem? .zero
  return ⟨owner, escrow, amount, newShares⟩

end AddEscrowEvent

namespace TakeEscrowEvent

def toItem (event : TakeEscrowEvent) : Item :=
  .record [("owner", some event.owner.toItem), ("amount", some event.amount.toItem)]

def ofItem? (item : Item) : Option TakeEscrowEvent := do
  let members ← item.members? ["owner", "amount"]
  let owner ← required members "owner" Address.ofItem?
  let amount ← defaulted members "amount" Quantity.ofItem? .zero
  return ⟨owner, amount⟩

end TakeEscrowEvent

namespace ReclaimEscrowEvent

def toItem (event : ReclaimEscrowEvent) : Item :=
  .record [("owner", some event.owner.toItem), ("escrow", some event.escrow.toItem),
    ("amount", some event.amount.toItem), ("shares", some event.shares.toItem)]

def ofItem? (item : Item) : Option ReclaimEscrowEvent := do
  let members ← item.members? ["owner", "escrow", "amount", "shares"]
  let owner ← required members "owner" Address.ofItem?
  let escrow ← required members "escrow" Address.ofItem?
  let amount ← defaulted members "amount" Quantity.ofItem? .zero
  let shares ← defaulted members "shares" Quantity.ofItem? .zero
  return ⟨owner, escrow, amount, shares⟩

end ReclaimEscrowEvent

namespace EscrowEvent

def toItem (event : EscrowEvent) : Item :=
  .record [("add", event.add.map (·.toItem)), ("take", event.take.map (·.toItem)),
    ("reclaim", event.reclaim.map (·.toItem))]

def ofItem? (item : Item) : Option EscrowEvent := do
  let members ← item.members? ["add", "take", "reclaim"]
  let add ← optional members "add" AddEscrowEvent.ofItem?
  let take ← optional members "take" TakeEscrowEvent.ofItem?
  let reclaim ← optional members "reclaim" ReclaimEscrowEvent.ofItem?
  return ⟨add, take, reclaim⟩

end EscrowEvent

namespace Event

def toItem (event : Event) : Item :=
  .record [("height", some (.ofInt event.height.toInt)), ("tx_hash", some event.txHash.toItem),
    ("transfer", event.transfer.map (·.toItem)), ("burn", event.burn.map (·.toItem)),
    ("escrow", event.escrow.map (·.toItem))]

def ofItem? (item : Item) : Option Event := do
  let members ← item.members? ["height", "tx_hash", "transfer", "burn", "escrow"]
  let height ← defaulted members "height" Item.asInt64? 0
  let txHash ← defaulted members "tx_hash" Hash.ofItem? .zero
  let transfer ← optional members "transfer" TransferEvent.ofItem?
  let burn ← optional members "burn" BurnEvent.ofItem?
  let escrow ← optional members "escrow" EscrowEvent.ofItem?
  return ⟨height, txHash, transfer, burn, escrow⟩

end Event

end StakingGateway.Staking
