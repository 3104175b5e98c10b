import StakingGateway.Api.Account
import StakingGateway.Gateway.Basic

/-!
# Accounts

The balance of an account is that of its spendable tokens or, for the escrow sub-account, that of
its tokens in escrow, with the nonce of the account in the metadata.  For the escrow the metadata
also tells how the two share pools stand and what the account has delegated.
-/

namespace StakingGateway

open Api

def asksForEscrow (account : AccountIdentifier) : Except Failure Bool :=
  match account.subAccount with
  | none => .ok false
  | some subAccount =>
    if subAccount.address = generalSubAccount then .ok false
    else if subAccount.address = escrowSubAccount then .ok true
    else .error ⟨.mustSpecifySubAccount, none⟩

/-- A quantity in metadata, where numbers of its size have to be texts. -/
def quantityJson (q : Quantity) : Json :=
  .string q.text

/-- The delegations of an account, by the address text of who holds them. -/
def delegationsJson (delegations : Staking.Delegations) : Json :=
  .object (delegations.entries.map fun (address, delegation) =>
    (address.text, .object [("shares", quantityJson delegation.shares)]))

def debondingDelegationsJson (delegations : Staking.DebondingDelegations) : Json :=
  .object (delegations.entries.map fun (address, list) =>
    (address.text, .array (list.map fun delegation =>
      .object [("shares", quantityJson delegation.shares),
        ("debond_end", .integer delegation.debondEnd.toNat)])))

def escrowMetadata (account : Staking.Account) (delegations : Staking.Delegations)
    (debonding : Staking.DebondingDelegations) : Json.Object :=
  .ofMembers [
    (nonceKey, .integer account.general.nonce.toNat),
    ("active_balance", quantityJson account.escrow.active.balance),
    ("active_shares", quantityJson account.escrow.active.totalShares),
    ("debonding_balance", quantityJson account.escrow.debonding.balance),
    ("debonding_shares", quantityJson account.escrow.debonding.totalShares),
    ("delegations", delegationsJson delegations),
    ("debonding_delegations", debondingDelegationsJson debonding)]

namespace Gateway

variable {m : Type → Type} [Monad m]

def accountBalance (gateway : Gateway m) (request : AccountBalanceRequest) :
    Handler m AccountBalanceResponse := do
  let node ← gateway.node
  let _ ← gateway.checkNetwork request.networkIdentifier
  let height ← Handler.of (requestedHeight request.blockIdentifier)
  let owner ← Handler.of (Input.address request.accountIdentifier.address)
  let escrow ← Handler.of (asksForEscrow request.accountIdentifier)
  let account ← Handler.ask .unableToGetAccount (node.account height owner)
  let block ← Handler.ask .unableToGetBlock (node.block height)
  let blockIdentifier : BlockIdentifier := ⟨block.height, block.hash.text⟩
  if escrow then
    let delegations ← Handler.ask .unableToGetAccount (node.delegations height owner)
    let debonding ← Handler.ask .unableToGetAccount (node.debondingDelegations height owner)
    let balance := account.escrow.active.balance.add account.escrow.debonding.balance
    return {
      blockIdentifier
      balances := [balance.toAmount false]
      metadata := some (escrowMetadata account delegations debonding)
    }
  else
    return {
      blockIdentifier
      balances := [account.general.balance.toAmount false]
      metadata := some (nonceMetadata account.general.nonce)
    }

/-- The coins of an account, of which there are none to tell. -/
def accountCoins (gateway : Gateway m) (request : AccountCoinsRequest) :
    Handler m AccountCoinsResponse := do
  let _ ← gateway.node
  let _ ← gateway.checkNetwork request.networkIdentifier
  throw ⟨.notImplemented, none⟩

end Gateway

end StakingGateway
