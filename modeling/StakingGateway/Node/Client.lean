import StakingGateway.Node.Basic

/-!
# The node over the wire

A client asks the node by sending encoded requests through a transport.  It keeps one connection
once it has been made, together with what does not change while it lasts: the chain and the height
of the first block.  Connections are numbered by a counter of 64 bits.  A call that finds the node
unavailable drops the connection with the number of the one it was made on, and no other, so the
next call makes a new one.
-/

namespace StakingGateway

open Cbor

inductive NodeMethod
  | getChainContext
  | getBlock
  | getTransactionsWithResults
  | getUnconfirmedTransactions
  | submitTxNoWait
  | getSignerNonce
  | account
  | delegationsFor
  | debondingDelegationsFor
  | getEvents
  | getStatus
  deriving DecidableEq, Repr

namespace NodeMethod

def service : NodeMethod → String
  | .account => "Staking"
  | .delegationsFor => "Staking"
  | .debondingDelegationsFor => "Staking"
  | .getEvents => "Staking"
  | .getStatus => "NodeController"
  | _ => "Consensus"

def name : NodeMethod → String
  | .getChainContext => "GetChainContext"
  | .getBlock => "GetBlock"
  | .getTransactionsWithResults => "GetTransactionsWithResults"
  | .getUnconfirmedTransactions => "GetUnconfirmedTransactions"
  | .submitTxNoWait => "SubmitTxNoWait"
  | .getSignerNonce => "GetSignerNonce"
  | .account => "Account"
  | .delegationsFor => "DelegationsFor"
  | .debondingDelegationsFor => "DebondingDelegationsFor"
  | .getEvents => "GetEvents"
  | .getStatus => "GetStatus"

def path (method : NodeMethod) : String :=
  "/oasis-core." ++ method.service ++ "/" ++ method.name

end NodeMethod

/-- A way to reach a node: how to dial it, and how to send it a request. -/
structure Transport (m : Type → Type) where
  dial : m (Except String Unit)
  send : NodeMethod → List UInt8 → m (Except Status (List UInt8))

/-- A connection and what does not change while it lasts. -/
structure Connection where
  id : UInt64
  chainId : String
  genesisHeight : Int64
  deriving DecidableEq

/-- The connection that is kept, and how many were made, as far as 64 bits can count them. -/
structure ClientState where
  connection : Option Connection
  dials : UInt64
  deriving DecidableEq

namespace ClientState

def initial : ClientState :=
  ⟨none, 0⟩

def next (state : ClientState) (chainId : String) (genesisHeight : Int64) : Connection :=
  ⟨state.dials, chainId, genesisHeight⟩

def keep (state : ClientState) (connection : Connection) : ClientState :=
  ⟨some connection, state.dials + 1⟩

/-- Drops the connection if it is the one with the number. -/
def drop (state : ClientState) (id : UInt64) : ClientState :=
  if state.connection.any fun connection => connection.id = id then
    { state with connection := none }
  else state

end ClientState

structure OwnerQuery where
  owner : Address
  height : Int64

structure SignerNonceQuery where
  height : Int64
  accountAddress : Address

/-- A block as the node serves it; the time is in seconds. -/
structure BlockRecord where
  height : Int64
  hash : Hash
  time : Int64
  deriving DecidableEq

def heightItem (height : Int64) : Item :=
  .ofInt height.toInt

def OwnerQuery.toItem (query : OwnerQuery) : Item :=
  .record [("owner", some query.owner.toItem), ("height", some (heightItem query.height))]

def SignerNonceQuery.toItem (query : SignerNonceQuery) : Item :=
  .record [("height", some (heightItem query.height)),
    ("account_address", some query.accountAddress.toItem)]

namespace BlockRecord

def ofItem? (item : Item) : Option BlockRecord := do
  let members ← item.members? ["height", "hash", "time"]
  let height ← defaulted members "height" Item.asInt64? 0
  let hash ← defaulted members "hash" Hash.ofItem? .zero
  let time ← defaulted members "time" Item.asInt64? 0
  return ⟨height, hash, time⟩

/-- The height of the parent; the first block is its own parent.  There is none if the height below
the block is out of range. -/
def parentHeight? (block : BlockRecord) (genesisHeight : Int64) : Option Int64 :=
  if block.height = Int64.minValue then none
  else
    let below := block.height - 1
    some (if below < genesisHeight then genesisHeight else below)

def header (block : BlockRecord) (parentHeight : Int64) (parentHash : Hash) : BlockHeader :=
  ⟨block.height, block.hash, parentHeight, parentHash, millisecondsOf block.time⟩

end BlockRecord

namespace Client

variable {m : Type → Type} [Monad m] {α : Type}

/-- What a client does: it may change which connection is kept, and it may be cut short, so that
there is no answer at all. -/
abbrev Effect (m : Type → Type) := OptionT (StateT ClientState m)

abbrev Action (m : Type → Type) := ExceptT NodeError (Effect m)

/-- Cuts an action short, as an overflow does. -/
def abort : Action m α :=
  ExceptT.mk OptionT.fail

def exchange (transport : Transport m) (method : NodeMethod) (request : Item)
    (read : Item → Option α) : m (Except Status α) := do
  match ← transport.send method request.encode with
  | .error status => return .error status
  | .ok answer =>
    match decodeAs read answer with
    | .ok value => return .ok value
    | .error reason => return .error ⟨.internal, "CBOR decode failed: " ++ reason.message⟩

def dial (transport : Transport m) (address : String) : Action m Unit := do
  match ← (transport.dial : m _) with
  | .ok () => return
  | .error reason => throw (.connect address reason)

/-- Asks the node while no connection is kept yet. -/
def bootstrap (transport : Transport m) (method : NodeMethod) (read : Item → Option α) :
    Action m α := do
  match ← (exchange transport method .null read : m _) with
  | .ok value => return value
  | .error status => throw (.ofStatus status)

/-- The connection that is kept, or a new one. -/
def connection (transport : Transport m) (address : String) : Action m Connection := do
  match (← get).connection with
  | some connection => return connection
  | none =>
    dial transport address
    let status ← bootstrap transport .getStatus NodeStatus.ofItem?
    let chainId ← bootstrap transport .getChainContext Item.asText?
    let connection := (← get).next chainId status.consensus.genesisHeight
    modify (·.keep connection)
    return connection

/-- Asks the node, and drops the connection if the node is unavailable. -/
def call (transport : Transport m) (address : String) (method : NodeMethod) (request : Item)
    (read : Item → Option α) : Action m α := do
  let connection ← connection transport address
  match ← (exchange transport method request read : m _) with
  | .ok value => return value
  | .error status =>
    if status.code = .unavailable then modify (·.drop connection.id)
    throw (.ofStatus status)

/-- Asks for a block, and for its parent unless it is its own parent.  The height of the parent is
reckoned with no care for the end of the range. -/
def block (transport : Transport m) (address : String) (height : Int64) :
    Action m BlockHeader := do
  let genesisHeight := (← connection transport address).genesisHeight
  let block ← call transport address .getBlock (heightItem height) BlockRecord.ofItem?
  match block.parentHeight? genesisHeight with
  | none => abort
  | some parentHeight =>
    if parentHeight = block.height then return block.header parentHeight block.hash
    else
      let parent ← call transport address .getBlock (heightItem parentHeight) BlockRecord.ofItem?
      return block.header parentHeight parent.hash

def node (transport : Transport m) (address : String) : Node (Effect m) where
  chainId := do return (← connection transport address).chainId
  block := block transport address
  account height owner :=
    call transport address .account (OwnerQuery.toItem ⟨owner, height⟩) Staking.Account.ofItem?
  delegations height owner := do
    let delegations ← call transport address .delegationsFor (OwnerQuery.toItem ⟨owner, height⟩)
      (nullable Staking.Delegations.ofItem?)
    return delegations.getD .empty
  debondingDelegations height owner := do
    let delegations ← call transport address .debondingDelegationsFor
      (OwnerQuery.toItem ⟨owner, height⟩) (nullable Staking.DebondingDelegations.ofItem?)
    return delegations.getD .empty
  transactions height :=
    call transport address .getTransactionsWithResults (heightItem height)
      BlockTransactions.ofItem?
  unconfirmedTransactions := do
    let transactions ← call transport address .getUnconfirmedTransactions .null
      (nullable (Item.asList? Item.asOctets?))
    return transactions.getD []
  stakingEvents height := do
    let events ← call transport address .getEvents (heightItem height)
      (nullable (Item.asList? Staking.Event.ofItem?))
    return events.getD []
  submit signed := call transport address .submitTxNoWait signed.toItem fun _ => some ()
  nextNonce height address' :=
    call transport address .getSignerNonce (SignerNonceQuery.toItem ⟨height, address'⟩)
      Item.asUInt64?
  status := call transport address .getStatus .null NodeStatus.ofItem?

end Client

end StakingGateway
