import StakingGateway.Node.Status
import StakingGateway.Staking.Account
import StakingGateway.Transaction.Envelope
import StakingGateway.Transaction.Result

/-!
# The node

What the gateway asks of a consensus node.  Height zero stands for the latest block in every
question.  A node is given by how it answers, in whatever monad the answers take place.
-/

namespace StakingGateway

open Cbor

/-- The height that stands for the latest block. -/
def latestHeight : Int64 := 0

/-- A block with the parent that it is linked to; times are in milliseconds. -/
structure BlockHeader where
  height : Int64
  hash : Hash
  parentHeight : Int64
  parentHash : Hash
  timestamp : Int64
  deriving DecidableEq

/-- The transactions of a block and the results at the same places. -/
structure BlockTransactions where
  transactions : List (List UInt8)
  results : List TransactionResult
  deriving DecidableEq

/-- What the node knows of its chain; times are in seconds. -/
structure ConsensusStatus where
  latestHeight : Int64
  latestHash : Hash
  latestTime : Int64
  genesisHeight : Int64
  genesisHash : Hash
  lastRetainedHeight : Int64
  lastRetainedHash : Hash
  nodePeers : List String
  deriving DecidableEq

structure NodeStatus where
  softwareVersion : String
  consensus : ConsensusStatus
  deriving DecidableEq

/-- A consensus node, by how it answers. -/
structure Node (m : Type → Type) where
  chainId : ExceptT NodeError m String
  block : Int64 → ExceptT NodeError m BlockHeader
  account : Int64 → Address → ExceptT NodeError m Staking.Account
  delegations : Int64 → Address → ExceptT NodeError m Staking.Delegations
  debondingDelegations : Int64 → Address → ExceptT NodeError m Staking.DebondingDelegations
  transactions : Int64 → ExceptT NodeError m BlockTransactions
  unconfirmedTransactions : ExceptT NodeError m (List (List UInt8))
  stakingEvents : Int64 → ExceptT NodeError m (List Staking.Event)
  submit : SignedTransaction → ExceptT NodeError m Unit
  nextNonce : Int64 → Address → ExceptT NodeError m UInt64
  status : ExceptT NodeError m NodeStatus

def clampInt64 (value : Int) : Int64 :=
  if value < -0x8000000000000000 then Int64.minValue
  else if 0x7fffffffffffffff < value then Int64.maxValue
  else Int64.ofInt value

/-- Seconds in milliseconds, as far as they can be told. -/
def millisecondsOf (seconds : Int64) : Int64 :=
  clampInt64 (seconds.toInt * 1000)

namespace BlockTransactions

def ofItem? (item : Item) : Option BlockTransactions := do
  let members ← item.members? ["transactions", "results"]
  let transactions ← nullDefaulted members "transactions" (Item.asList? Item.asOctets?) []
  let results ← nullDefaulted members "results" (Item.asList? TransactionResult.ofItem?) []
  return ⟨transactions, results⟩

end BlockTransactions

namespace ConsensusStatus

def default : ConsensusStatus :=
  ⟨0, .zero, 0, 0, .zero, 0, .zero, []⟩

def ofItem? (item : Item) : Option ConsensusStatus := do
  let members ← item.members? ["latest_height", "latest_hash", "latest_time", "genesis_height",
    "genesis_hash", "last_retained_height", "last_retained_hash", "node_peers"]
  let latestHeight ← defaulted members "latest_height" Item.asInt64? 0
  let latestHash ← defaulted members "latest_hash" Hash.ofItem? .zero
  let latestTime ← defaulted members "latest_time" Item.asInt64? 0
  let genesisHeight ← defaulted members "genesis_height" Item.asInt64? 0
  let genesisHash ← defaulted members "genesis_hash" Hash.ofItem? .zero
  let lastRetainedHeight ← defaulted members "last_retained_height" Item.asInt64? 0
  let lastRetainedHash ← defaulted members "last_retained_hash" Hash.ofItem? .zero
  let nodePeers ← nullDefaulted members "node_peers" (Item.asList? Item.asText?) []
  return ⟨latestHeight, latestHash, latestTime, genesisHeight, genesisHash, lastRetainedHeight,
    lastRetainedHash, nodePeers⟩

end ConsensusStatus

namespace NodeStatus

def ofItem? (item : Item) : Option NodeStatus := do
  let members ← item.members? ["software_version", "consensus"]
  let softwareVersion ← defaulted members "software_version" Item.asText? ""
  let consensus ← defaulted members "consensus" ConsensusStatus.ofItem? .default
  return ⟨softwareVersion, consensus⟩

end NodeStatus

end StakingGateway
