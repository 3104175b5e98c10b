import StakingGateway.Api.Operation

/-!
# Account messages

The requests and answers about accounts.
-/

namespace StakingGateway.Api

open Json Model

structure AccountBalanceRequest where
  networkIdentifier : Option NetworkIdentifier := none
  accountIdentifier : AccountIdentifier
  blockIdentifier : Option PartialBlockIdentifier := none

instance : Model AccountBalanceRequest where
  toJson value :=
    .record [optionalField "network_identifier" value.networkIdentifier,
      field "account_identifier" value.accountIdentifier,
      optionalField "block_identifier" value.blockIdentifier]
  ofDocument? document := do
    let members ← document.members? ["network_identifier", "account_identifier",
      "block_identifier"]
    let networkIdentifier ← optional members "network_identifier"
    let accountIdentifier ← required members "account_identifier"
    let blockIdentifier ← optional members "block_identifier"
    return ⟨networkIdentifier, accountIdentifier, blockIdentifier⟩

def AccountBalanceRequest.of (networkIdentifier : NetworkIdentifier)
    (accountIdentifier : AccountIdentifier) : AccountBalanceRequest :=
  { networkIdentifier := some networkIdentifier, accountIdentifier }

structure AccountBalanceResponse where
  blockIdentifier : BlockIdentifier
  balances : List Amount
  metadata : Option Object := none

instance : Model AccountBalanceResponse where
  toJson value :=
    .record [field "block_identifier" value.blockIdentifier, field "balances" value.balances,
      optionalField "metadata" value.metadata]
  ofDocument? document := do
    let members ← document.members? ["block_identifier", "balances", "metadata"]
    let blockIdentifier ← required members "block_identifier"
    let balances ← required members "balances"
    let metadata ← optional members "metadata"
    return ⟨blockIdentifier, balances, metadata⟩

def AccountBalanceResponse.of (blockIdentifier : BlockIdentifier)
    (balances : List Amount) : AccountBalanceResponse :=
  { blockIdentifier, balances }

structure AccountCoinsRequest where
  networkIdentifier : Option NetworkIdentifier := none
  accountIdentifier : AccountIdentifier
  includeMempool : Bool := false

instance : Model AccountCoinsRequest where
  toJson value :=
    .record [optionalField "network_identifier" value.networkIdentifier,
      field "account_identifier" value.accountIdentifier,
      field "include_mempool" value.includeMempool]
  ofDocument? document := do
    let members ← document.members? ["network_identifier", "account_identifier", "include_mempool"]
    let networkIdentifier ← optional members "network_identifier"
    let accountIdentifier ← required members "account_identifier"
    let includeMempool ← defaulted members "include_mempool" false
    return ⟨networkIdentifier, accountIdentifier, includeMempool⟩

def AccountCoinsRequest.of (networkIdentifier : NetworkIdentifier)
    (accountIdentifier : AccountIdentifier) : AccountCoinsRequest :=
  { networkIdentifier := some networkIdentifier, accountIdentifier }

structure CoinIdentifier where
  identifier : String

instance : Model CoinIdentifier where
  toJson value :=
    .record [field "identifier" value.identifier]
  ofDocument? document := do
    let members ← document.members? ["identifier"]
    let identifier ← required members "identifier"
    return ⟨identifier⟩

/-- A coin, of which a chain of accounts has none. -/
structure Coin where
  coinIdentifier : CoinIdentifier
  amount : Amount

instance : Model Coin where
  toJson value :=
    .record [field "coin_identifier" value.coinIdentifier, field "amount" value.amount]
  ofDocument? document := do
    let members ← document.members? ["coin_identifier", "amount"]
    let coinIdentifier ← required members "coin_identifier"
    let amount ← required members "amount"
    return ⟨coinIdentifier, amount⟩

structure AccountCoinsResponse where
  blockIdentifier : BlockIdentifier
  coins : List Coin

instance : Model AccountCoinsResponse where
  toJson value :=
    .record [field "block_identifier" value.blockIdentifier, field "coins" value.coins]
  ofDocument? document := do
    let members ← document.members? ["block_identifier", "coins"]
    let blockIdentifier ← required members "block_identifier"
    let coins ← required members "coins"
    return ⟨blockIdentifier, coins⟩

end StakingGateway.Api
