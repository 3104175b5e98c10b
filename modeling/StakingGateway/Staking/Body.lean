import StakingGateway.Address
import StakingGateway.Quantity

/-!
# Transaction bodies

What the four staking methods carry.  The fields of a body stand in canonical key order, shorter
names first.  An amount or a number of shares that is not given is zero.
-/

namespace StakingGateway.Staking

open Cbor

structure Transfer where
  target : Address
  amount : Quantity
  deriving DecidableEq

structure Burn where
  amount : Quantity
  deriving DecidableEq

/-- Moves tokens of the signer into the escrow of an account. -/
structure AddEscrow where
  amount : Quantity
  account : Address
  deriving DecidableEq

/-- Takes shares of the signer out of the escrow of an account. -/
structure ReclaimEscrow where
  shares : Quantity
  account : Address
  deriving DecidableEq

namespace Transfer

def method : String := "staking.Transfer"

def toItem (body : Transfer) : Item :=
  .record [("to", some body.target.toItem), ("amount", some body.amount.toItem)]

def ofItem? (item : Item) : Option Transfer := do
  let members ← item.members? ["to", "amount"]
  let target ← required members "to" Address.ofItem?
  let amount ← defaulted members "amount" Quantity.ofItem? .zero
  return ⟨target, amount⟩

end Transfer

namespace Burn

def method : String := "staking.Burn"

def toItem (body : Burn) : Item :=
  .record [("amount", some body.amount.toItem)]

def ofItem? (item : Item) : Option Burn := do
  let members ← item.members? ["amount"]
  let amount ← defaulted members "amount" Quantity.ofItem? .zero
  return ⟨amount⟩

end Burn

namespace AddEscrow

def method : String := "staking.AddEscrow"

def toItem (body : AddEscrow) : Item :=
  .record [("amount", some body.amount.toItem), ("account", some body.account.toItem)]

def ofItem? (item : Item) : Option AddEscrow := do
  let members ← item.members? ["amount", "account"]
  let amount ← defaulted members "amount" Quantity.ofItem? .zero
  let account ← required members "account" Address.ofItem?
  return ⟨amount, account⟩

end AddEscrow

namespace ReclaimEscrow

def method : String := "staking.ReclaimEscrow"

def toItem (body : ReclaimEscrow) : Item :=
  .record [("shares", some body.shares.toItem), ("account", some body.account.toItem)]

def ofItem? (item : Item) : Option ReclaimEscrow := do
  let members ← item.members? ["shares", "account"]
  let shares ← defaulted members "shares" Quantity.ofItem? .zero
  let account ← required members "account" Address.ofItem?
  return ⟨shares, account⟩

end ReclaimEscrow

end StakingGateway.Staking
