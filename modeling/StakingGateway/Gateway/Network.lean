import StakingGateway.Api.Network
import StakingGateway.Gateway.Basic
import StakingGateway.Operation.Kind

/-!
# Networks

Which network is served, what the gateway supports, and how far the node has got.
-/

namespace StakingGateway

open Api

/-- What stands for the version of the node when there is no node. -/
def unknownNodeVersion : String := "unknown"

def allowed : Allow where
  operationStatuses := [⟨OperationState.ok.name, true⟩, ⟨OperationState.failed.name, false⟩]
  operationTypes := OperationKind.all.map OperationKind.name
  errors := ErrorKind.all.map ErrorKind.report
  historicalBalanceLookup := true

namespace ConsensusStatus

/-- The first block, whose hash may be missing. -/
def genesisBlock [Suite] (status : ConsensusStatus) : BlockIdentifier :=
  ⟨status.genesisHeight,
    if status.genesisHash.isEmpty then "not available" else status.genesisHash.text⟩

def oldestBlock? [Suite] (status : ConsensusStatus) : Option BlockIdentifier :=
  if status.lastRetainedHash.isEmpty then none
  else some ⟨status.lastRetainedHeight, status.lastRetainedHash.text⟩

end ConsensusStatus

namespace Gateway

variable {m : Type → Type} [Monad m]

def nodeVersion : Gateway m → Handler m String
  | .online node => do
    return (← Handler.ask .unableToGetNodeStatus node.status).softwareVersion
  | .offline _ => return unknownNodeVersion

def networkList (gateway : Gateway m) (_ : MetadataRequest) : Handler m NetworkListResponse := do
  return ⟨[← gateway.networkIdentifier]⟩

def networkOptions (gateway : Gateway m) (request : NetworkRequest) :
    Handler m NetworkOptionsResponse := do
  let _ ← gateway.checkNetwork request.networkIdentifier
  let nodeVersion ← gateway.nodeVersion
  return ⟨.of apiVersion nodeVersion (some softwareVersion), allowed⟩

def networkStatus [Suite] (gateway : Gateway m) (request : NetworkRequest) :
    Handler m NetworkStatusResponse := do
  let node ← gateway.node
  let _ ← gateway.checkNetwork request.networkIdentifier
  let status := (← Handler.ask .unableToGetNodeStatus node.status).consensus
  return {
    currentBlockIdentifier := ⟨status.latestHeight, status.latestHash.text⟩
    currentBlockTimestamp := ⟨millisecondsOf status.latestTime⟩
    genesisBlockIdentifier := status.genesisBlock
    oldestBlockIdentifier := status.oldestBlock?
    peers := status.nodePeers.map fun peer => .of peer
  }

end Gateway

end StakingGateway
