import StakingGateway.Api.Block
import StakingGateway.Api.Network
import StakingGateway.Gateway.Basic
import StakingGateway.Operation.Replay

/-!
# Blocks and the mempool

A block is served with all its transactions, replayed from their results.  Those that cannot be
replayed are left out.  A transaction in the mempool is named by the digest of its bytes, and what
it is meant to do is served as if it were done.
-/

namespace StakingGateway

open Api

def replayBlock [Suite] (chainId : String) (block : BlockHeader) (content : BlockTransactions)
    (events : List Staking.Event) : Replay :=
  (Replay.empty.addTransactions chainId content.transactions content.results).1.addBlockEvents
    block.hash events

namespace Gateway

variable {m : Type → Type} [Monad m]

def block [Suite] (gateway : Gateway m) (request : BlockRequest) : Handler m BlockResponse := do
  let node ← gateway.node
  let chainId ← gateway.checkNetwork request.networkIdentifier
  let height ← Handler.of (requestedHeight request.blockIdentifier)
  let block ← Handler.ask .unableToGetBlock (node.block height)
  let content ← Handler.ask .unableToGetTransactions (node.transactions block.height)
  let events ← Handler.ask .unableToGetTransactions (node.stakingEvents block.height)
  return .of (some (.of ⟨block.height, block.hash.text⟩ ⟨block.parentHeight, block.parentHash.text⟩
    ⟨block.timestamp⟩ (replayBlock chainId block content events).transactions))

/-- A transaction of a block, which is not served on its own. -/
def blockTransaction (gateway : Gateway m) (request : BlockTransactionRequest) :
    Handler m BlockTransactionResponse := do
  let _ ← gateway.node
  let _ ← gateway.checkNetwork request.networkIdentifier
  throw ⟨.notImplemented, none⟩

def mempool [Suite] (gateway : Gateway m) (request : NetworkRequest) :
    Handler m MempoolResponse := do
  let node ← gateway.node
  let _ ← gateway.checkNetwork request.networkIdentifier
  let transactions ← Handler.ask .unableToGetTransactions node.unconfirmedTransactions
  return ⟨transactions.map fun raw => ⟨(Hash.digest raw).text⟩⟩

/-- A transaction that waits for a block.  Its name is read in either case.  Only ASCII letters are
changed for that: no other letter has a hexadecimal digit as its lower case. -/
def mempoolTransaction [Suite] (gateway : Gateway m) (request : MempoolTransactionRequest) :
    Handler m MempoolTransactionResponse := do
  let node ← gateway.node
  let chainId ← gateway.checkNetwork request.networkIdentifier
  let transactions ← Handler.ask .unableToGetTransactions node.unconfirmedTransactions
  let wanted := String.ofList (request.transactionIdentifier.hash.toList.map Char.toLower)
  match transactions.find? fun raw => (Hash.digest raw).text = wanted with
  | none => throw ⟨.transactionNotFound, none⟩
  | some raw =>
    let (replay, outcome) := Replay.empty.addTransaction chainId raw none
    match outcome with
    | .error reason => throw ⟨.unableToGetTransactions, some reason.message⟩
    | .ok () =>
      match replay.transactions with
      | transaction :: _ => return .of transaction
      | [] => throw ⟨.unableToGetTransactions, none⟩

end Gateway

end StakingGateway
