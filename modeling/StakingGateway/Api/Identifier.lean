import StakingGateway.Json.Record

/-!
# Identifiers

What the objects of the interface are named by: networks, accounts, blocks, transactions and
operations.
-/

namespace StakingGateway.Api

open Json Model

structure SubNetworkIdentifier where
  network : String
  metadata : Option Object := none

instance : Model SubNetworkIdentifier where
  toJson value :=
    .record [field "network" value.network, optionalField "metadata" value.metadata]
  ofDocument? document := do
    let members ← document.members? ["network", "metadata"]
    let network ← required members "network"
    let metadata ← optional members "metadata"
    return ⟨network, metadata⟩

def SubNetworkIdentifier.of (network : String) : SubNetworkIdentifier :=
  { network }

/-- Names the network that an object belongs to; here a network is a chain. -/
structure NetworkIdentifier where
  blockchain : String
  network : String
  subNetworkIdentifier : Option SubNetworkIdentifier := none

instance : Model NetworkIdentifier where
  toJson value :=
    .record [field "blockchain" value.blockchain, field "network" value.network,
      optionalField "sub_network_identifier" value.subNetworkIdentifier]
  ofDocument? document := do
    let members ← document.members? ["blockchain", "network", "sub_network_identifier"]
    let blockchain ← required members "blockchain"
    let network ← required members "network"
    let subNetworkIdentifier ← optional members "sub_network_identifier"
    return ⟨blockchain, network, subNetworkIdentifier⟩

def NetworkIdentifier.of (blockchain network : String) : NetworkIdentifier :=
  { blockchain, network }

/-- Names a balance that an account keeps apart, such as its escrow. -/
structure SubAccountIdentifier where
  address : String
  metadata : Option Object := none

instance : Model SubAccountIdentifier where
  toJson value :=
    .record [field "address" value.address, optionalField "metadata" value.metadata]
  ofDocument? document := do
    let members ← document.members? ["address", "metadata"]
    let address ← required members "address"
    let metadata ← optional members "metadata"
    return ⟨address, metadata⟩

def SubAccountIdentifier.of (address : String) : SubAccountIdentifier :=
  { address }

/-- Names an account by its address text, or one of its parts. -/
structure AccountIdentifier where
  address : String
  subAccount : Option SubAccountIdentifier := none
  metadata : Option Object := none

instance : Model AccountIdentifier where
  toJson value :=
    .record [field "address" value.address, optionalField "sub_account" value.subAccount,
      optionalField "metadata" value.metadata]
  ofDocument? document := do
    let members ← document.members? ["address", "sub_account", "metadata"]
    let address ← required members "address"
    let subAccount ← optional members "sub_account"
    let metadata ← optional members "metadata"
    return ⟨address, subAccount, metadata⟩

def AccountIdentifier.of (address : String) : AccountIdentifier :=
  { address }

def AccountIdentifier.ofSubAccount (address subAccount : String) : AccountIdentifier :=
  { address, subAccount := some (.of subAccount) }

structure BlockIdentifier where
  index : Int64
  hash : String

instance : Model BlockIdentifier where
  toJson value :=
    .record [field "index" value.index, field "hash" value.hash]
  ofDocument? document := do
    let members ← document.members? ["index", "hash"]
    let index ← required members "index"
    let hash ← required members "hash"
    return ⟨index, hash⟩

/-- Names a block by its height, by its hash, or as the latest one. -/
structure PartialBlockIdentifier where
  index : Option Int64 := none
  hash : Option String := none

instance : Model PartialBlockIdentifier where
  toJson value :=
    .record [optionalField "index" value.index, optionalField "hash" value.hash]
  ofDocument? document := do
    let members ← document.members? ["index", "hash"]
    let index ← optional members "index"
    let hash ← optional members "hash"
    return ⟨index, hash⟩

def PartialBlockIdentifier.ofIndex (index : Int64) : PartialBlockIdentifier :=
  { index := some index }

structure TransactionIdentifier where
  hash : String

instance : Model TransactionIdentifier where
  toJson value :=
    .record [field "hash" value.hash]
  ofDocument? document := do
    let members ← document.members? ["hash"]
    let hash ← required members "hash"
    return ⟨hash⟩

/-- Names an operation by its place in its transaction. -/
structure OperationIdentifier where
  index : Int64
  networkIndex : Option Int64 := none

instance : Model OperationIdentifier where
  toJson value :=
    .record [field "index" value.index, optionalField "network_index" value.networkIndex]
  ofDocument? document := do
    let members ← document.members? ["index", "network_index"]
    let index ← required members "index"
    let networkIndex ← optional members "network_index"
    return ⟨index, networkIndex⟩

def OperationIdentifier.of (index : Int64) : OperationIdentifier :=
  { index }

end StakingGateway.Api
