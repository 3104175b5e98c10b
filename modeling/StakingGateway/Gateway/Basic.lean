import StakingGateway.Gateway.Input
import StakingGateway.Node.Basic

/-!
# The gateway

A gateway serves one chain, either through a node or, as far as that goes, from the name of the
chain alone.  A request is looked at only after its network has been accepted: it has to be named,
its blockchain has to be the one served, it must have no part of a network, and it has to be the
chain.
-/

namespace StakingGateway

open Api

/-- What serves the requests: a node, or the name of a chain. -/
inductive Gateway (m : Type → Type)
  | online (node : Node m)
  | offline (chainId : String)

/-- The answer to a request, or why there is none. -/
abbrev Handler (m : Type → Type) := ExceptT Failure m

def apiVersion : String := "1.4.10"

def softwareVersion : String := "0.1.0"

namespace Handler

variable {m : Type → Type} [Monad m] {α : Type}

/-- An answer that takes no node. -/
def of (answer : Except Failure α) : Handler m α :=
  ExceptT.mk (pure answer)

/-- What the node answers, its failures reported as being of a kind. -/
def ask (kind : ErrorKind) (question : ExceptT NodeError m α) : Handler m α :=
  question.adapt fun reason => ⟨kind, some reason.message⟩

end Handler

/-- Checks what can be checked of a network without knowing the chain. -/
def checkBlockchain (network : NetworkIdentifier) : Except Failure Unit :=
  if network.blockchain ≠ blockchain then
    .error ⟨.invalidBlockchain, some ("unknown blockchain " ++ network.blockchain)⟩
  else if network.subNetworkIdentifier.isSome then .error ⟨.invalidSubnetwork, none⟩
  else .ok ()

namespace Gateway

variable {m : Type → Type} [Monad m]

def isOffline : Gateway m → Bool
  | .online _ => false
  | .offline _ => true

/-- The node, for requests that need one. -/
def node : Gateway m → Handler m (Node m)
  | .online node => return node
  | .offline _ => throw ⟨.notAvailableInOfflineMode, none⟩

def chainId : Gateway m → Handler m String
  | .online node => Handler.ask .unableToGetChainId node.chainId
  | .offline chainId => return chainId

def networkIdentifier (gateway : Gateway m) : Handler m NetworkIdentifier := do
  return .of blockchain (← gateway.chainId)

/-- Checks the network of a request, and tells the name of the chain. -/
def checkNetwork (gateway : Gateway m) (network : Option NetworkIdentifier) : Handler m String := do
  match network with
  | none => throw ⟨.missingNetworkIdentifier, none⟩
  | some network =>
    Handler.of (checkBlockchain network)
    let chainId ← gateway.chainId
    if network.network ≠ chainId then
      throw ⟨.invalidNetwork, some ("unknown network " ++ network.network)⟩
    return chainId

end Gateway

/-- The height that a block is asked for by: its index, or the latest if it is not named. -/
def requestedHeight : Option PartialBlockIdentifier → Except Failure Int64
  | none => .ok latestHeight
  | some block =>
    match block.index, block.hash with
    | some height, _ => .ok height
    | none, some _ => .error ⟨.mustQueryByIndex, none⟩
    | none, none => .ok latestHeight

def nonceKey : String := "nonce"

def nonceMetadata (nonce : UInt64) : Json.Object :=
  .ofMembers [(nonceKey, .integer nonce.toNat)]

end StakingGateway
