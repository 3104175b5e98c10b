import StakingGateway.Api.Error
import StakingGateway.Api.Operation

/-!
# Network messages

The requests and answers about networks as a whole.
-/

namespace StakingGateway.Api

open Json Model

structure MetadataRequest where
  metadata : Option Object := none

instance : Model MetadataRequest where
  toJson value :=
    .record [optionalField "metadata" value.metadata]
  ofDocument? document := do
    let members ← document.members? ["metadata"]
    let metadata ← optional members "metadata"
    return ⟨metadata⟩

def MetadataRequest.of : MetadataRequest :=
  { }

structure NetworkRequest where
  networkIdentifier : Option NetworkIdentifier := none
  metadata : Option Object := none

instance : Model NetworkRequest where
  toJson value :=
    .record [optionalField "network_identifier" value.networkIdentifier,
      optionalField "metadata" value.metadata]
  ofDocument? document := do
    let members ← document.members? ["network_identifier", "metadata"]
    let networkIdentifier ← optional members "network_identifier"
    let metadata ← optional members "metadata"
    return ⟨networkIdentifier, metadata⟩

def NetworkRequest.of (networkIdentifier : NetworkIdentifier) : NetworkRequest :=
  { networkIdentifier := some networkIdentifier }

structure NetworkListResponse where
  networkIdentifiers : List NetworkIdentifier

instance : Model NetworkListResponse where
  toJson value :=
    .record [field "network_identifiers" value.networkIdentifiers]
  ofDocument? document := do
    let members ← document.members? ["network_identifiers"]
    let networkIdentifiers ← required members "network_identifiers"
    return ⟨networkIdentifiers⟩

structure Peer where
  peerId : String
  metadata : Option Object := none

instance : Model Peer where
  toJson value :=
    .record [field "peer_id" value.peerId, optionalField "metadata" value.metadata]
  ofDocument? document := do
    let members ← document.members? ["peer_id", "metadata"]
    let peerId ← required members "peer_id"
    let metadata ← optional members "metadata"
    return ⟨peerId, metadata⟩

def Peer.of (peerId : String) : Peer :=
  { peerId }

structure NetworkStatusResponse where
  currentBlockIdentifier : BlockIdentifier
  currentBlockTimestamp : Timestamp
  genesisBlockIdentifier : BlockIdentifier
  oldestBlockIdentifier : Option BlockIdentifier := none
  peers : List Peer

instance : Model NetworkStatusResponse where
  toJson value :=
    .record [field "current_block_identifier" value.currentBlockIdentifier,
      field "current_block_timestamp" value.currentBlockTimestamp,
      field "genesis_block_identifier" value.genesisBlockIdentifier,
      optionalField "oldest_block_identifier" value.oldestBlockIdentifier,
      field "peers" value.peers]
  ofDocument? document := do
    let members ← document.members? ["current_block_identifier", "current_block_timestamp",
      "genesis_block_identifier", "oldest_block_identifier", "peers"]
    let currentBlockIdentifier ← required members "current_block_identifier"
    let currentBlockTimestamp ← required members "current_block_timestamp"
    let genesisBlockIdentifier ← required members "genesis_block_identifier"
    let oldestBlockIdentifier ← optional members "oldest_block_identifier"
    let peers ← required members "peers"
    return ⟨currentBlockIdentifier, currentBlockTimestamp, genesisBlockIdentifier,
      oldestBlockIdentifier, peers⟩

/-- The versions of the interface, the node and the gateway. -/
structure Version where
  rosettaVersion : String
  nodeVersion : String
  middlewareVersion : Option String := none
  metadata : Option Object := none

instance : Model Version where
  toJson value :=
    .record [field "rosetta_version" value.rosettaVersion, field "node_version" value.nodeVersion,
      optionalField "middleware_version" value.middlewareVersion,
      optionalField "metadata" value.metadata]
  ofDocument? document := do
    let members ← document.members? ["rosetta_version", "node_version", "middleware_version",
      "metadata"]
    let rosettaVersion ← required members "rosetta_version"
    let nodeVersion ← required members "node_version"
    let middlewareVersion ← optional members "middleware_version"
    let metadata ← optional members "metadata"
    return ⟨rosettaVersion, nodeVersion, middlewareVersion, metadata⟩

def Version.of (rosettaVersion nodeVersion : String)
    (middlewareVersion : Option String) : Version :=
  { rosettaVersion, nodeVersion, middlewareVersion }

/-- Everything that can occur in operations and errors. -/
structure Allow where
  operationStatuses : List OperationStatus
  operationTypes : List String
  errors : List ErrorReport
  historicalBalanceLookup : Bool

instance : Model Allow where
  toJson value :=
    .record [field "operation_statuses" value.operationStatuses,
      field "operation_types" value.operationTypes, field "errors" value.errors,
      field "historical_balance_lookup" value.historicalBalanceLookup]
  ofDocument? document := do
    let members ← document.members? ["operation_statuses", "operation_types", "errors",
      "historical_balance_lookup"]
    let operationStatuses ← required members "operation_statuses"
    let operationTypes ← required members "operation_types"
    let errors ← required members "errors"
    let historicalBalanceLookup ← required members "historical_balance_lookup"
    return ⟨operationStatuses, operationTypes, errors, historicalBalanceLookup⟩

structure NetworkOptionsResponse where
  version : Version
  allow : Allow

instance : Model NetworkOptionsResponse where
  toJson value :=
    .record [field "version" value.version, field "allow" value.allow]
  ofDocument? document := do
    let members ← document.members? ["version", "allow"]
    let version ← required members "version"
    let allow ← required members "allow"
    return ⟨version, allow⟩

end StakingGateway.Api
