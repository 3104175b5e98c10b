import StakingGateway.Crypto.Standard
import StakingGateway.Gateway.Network
import StakingGateway.Proofs.Gateway.Height

/-!
# Heights and times at the ends of their range

Heights and times come from the node and may be any 64-bit integers.  Times are told in milliseconds,
and one that is out of range by then is told as the end of the range that it is beyond
(`toInt_millisecondsOf`).  The height below that of a block is reckoned without such care: at a block
of the least height, and at no other, a request is cut short (`Client.aborts_block_iff`).
-/

namespace StakingGateway

open Api

theorem toInt_clampInt64 (value : Int) :
    (clampInt64 value).toInt = max Int64.minValue.toInt (min Int64.maxValue.toInt value) := by
  rw [Int64.toInt_minValue, Int64.toInt_maxValue, clampInt64]
  split
  next hlow =>
    rw [Int64.toInt_minValue]
    omega
  next hlow =>
    split
    next hhigh =>
      rw [Int64.toInt_maxValue]
      omega
    next hhigh =>
      rw [Int64.toInt_ofInt_of_le (by omega) (by omega)]
      omega

theorem toInt_millisecondsOf (seconds : Int64) :
    (millisecondsOf seconds).toInt =
      max Int64.minValue.toInt (min Int64.maxValue.toInt (seconds.toInt * 1000)) :=
  toInt_clampInt64 _

/-- What is reckoned from what the node told of a block and of where the chain begins.  The time is
that of the block in milliseconds, as far as it is in range.  The height of the parent is that below
the block, or that of the first block if it is greater. -/
structure Reckoned (block : BlockRecord) (genesis : Int64) (header : BlockHeader) : Prop where
  height_eq : header.height = block.height
  toInt_timestamp : header.timestamp.toInt =
    max Int64.minValue.toInt (min Int64.maxValue.toInt (block.time.toInt * 1000))
  toInt_parentHeight : header.parentHeight.toInt = max (block.height.toInt - 1) genesis.toInt

theorem BlockRecord.reckoned {block : BlockRecord} {genesis parentHeight : Int64}
    (h : block.parentHeight? genesis = some parentHeight) (hash : Hash) :
    Reckoned block genesis (block.header parentHeight hash) where
  height_eq := rfl
  toInt_timestamp := toInt_millisecondsOf block.time
  toInt_parentHeight := toInt_of_parentHeight? h

theorem Transport.Tells.exists_reckoned {σ : Type} {transport : Transport (StateM σ)}
    {genesis height : Int64} {node : σ} {header : BlockHeader}
    (h : transport.Tells genesis height node header) :
    ∃ block node', transport.askBlock height node = (.ok block, node') ∧
      Reckoned block genesis header := by
  cases h with
  | own hblock hheight => exact ⟨_, _, hblock, BlockRecord.reckoned hheight _⟩
  | other hblock hheight => exact ⟨_, _, hblock, BlockRecord.reckoned hheight _⟩

def ConsensusStatus.response [Suite] (status : ConsensusStatus) : NetworkStatusResponse where
  currentBlockIdentifier := ⟨status.latestHeight, status.latestHash.text⟩
  currentBlockTimestamp := ⟨millisecondsOf status.latestTime⟩
  genesisBlockIdentifier := status.genesisBlock
  oldestBlockIdentifier := status.oldestBlock?
  peers := status.nodePeers.map fun peer => .of peer

theorem Gateway.succeeds_networkStatus_iff [Suite] {m : Type → Type} [Monad m] {τ : Type}
    [Stateful m τ] {node : Node m} {request : NetworkRequest} {response : NetworkStatusResponse}
    {t t' : τ} :
    Succeeds (Gateway.networkStatus (.online node) request) t response t' ↔
      ∃ chainId asked status,
        Succeeds ((Gateway.online node).checkNetwork request.networkIdentifier) t chainId asked ∧
        Succeeds node.status asked status t' ∧ status.consensus.response = response := by
  simp only [Gateway.networkStatus, Gateway.node, succeeds_bind_iff, succeeds_pure_iff,
    Handler.succeeds_ask_iff]
  constructor
  · rintro ⟨_, _, ⟨rfl, rfl⟩, chainId, asked, hnetwork, status, _, hstatus, hresponse, rfl⟩
    exact ⟨chainId, asked, status, hnetwork, hstatus, hresponse⟩
  · rintro ⟨chainId, asked, status, hnetwork, hstatus, hresponse⟩
    exact ⟨_, _, ⟨rfl, rfl⟩, chainId, asked, hnetwork, status, _, hstatus, hresponse, rfl⟩

namespace Client

section

variable {σ : Type} (transport : Transport (StateM σ)) (address : String)
  (start : ClientState × σ × List Exchange)

/-- A block is told once the connection is there, from what the node answers about the block and
from where the chain begins.  Where it begins was told by the node if that is so of a connection
that was kept from before. -/
def ReckonsBlock (height : Int64) (header : BlockHeader) : Prop :=
  ∃ connection client node log block node',
    Succeeds (Client.connection transport.recorded address) start connection (client, node, log) ∧
    (Informed start → TellsGenesis log connection.genesisHeight) ∧
    transport.askBlock height node = (.ok block, node') ∧
    Reckoned block connection.genesisHeight header

/-- A status of the node was told, and the time of its latest block is told in milliseconds, as far
as it is in range. -/
def ReckonsTime (finish : ClientState × σ × List Exchange) (response : NetworkStatusResponse) :
    Prop :=
  ∃ asked status, Succeeds (node transport.recorded address).status asked status finish ∧
    response.currentBlockTimestamp.milliseconds.toInt =
      max Int64.minValue.toInt
        (min Int64.maxValue.toInt (status.consensus.latestTime.toInt * 1000))

/-- The node answered a question about a block with one of the least height. -/
def Overflows (height : Int64) (finish : ClientState × σ × List Exchange) : Prop :=
  ∃ connection told block,
    Succeeds (Client.connection transport.recorded address) start connection told ∧
    Succeeds (call transport.recorded address .getBlock (heightItem height) BlockRecord.ofItem?)
      told block finish ∧
    block.height = Int64.minValue

theorem aborts_block_iff (height : Int64) (finish : ClientState × σ × List Exchange) :
    Aborts (block transport.recorded address height) start finish ↔
      Overflows transport address start height finish := by
  constructor
  · intro h
    obtain ⟨connection, told, hconnection, h⟩ :=
      (aborts_bind_iff.mp h).resolve_left (ends_connection transport address _ _)
    obtain ⟨block, found, hcall, h⟩ :=
      (aborts_bind_iff.mp h).resolve_left (ends_call transport address _ _ _ _ _)
    split at h
    next hleast =>
      cases h
      exact ⟨connection, told, block, hconnection, hcall,
        BlockRecord.parentHeight?_eq_none_iff.mp hleast⟩
    next parentHeight _ =>
      -- The parent is asked for as any block is, and nothing is reckoned from it.
      split at h
      next => exact (ends_pure _ _ _ h).elim
      next =>
        exact ((ends_call transport address _ _ _).bind (fun _ => ends_pure _) _ _ h).elim
  · rintro ⟨connection, told, block, hconnection, hcall, hleast⟩
    refine aborts_bind_iff.mpr (.inr ⟨connection, told, hconnection, ?_⟩)
    refine aborts_bind_iff.mpr (.inr ⟨block, finish, hcall, ?_⟩)
    rw [BlockRecord.parentHeight?_eq_none_iff.mpr hleast]
    rfl

theorem ends_networkStatus [Suite] (request : NetworkRequest) :
    Ends ((Gateway.online (node transport.recorded address)).networkStatus request) := by
  intro start finish haborts
  have hrecorded := Gateway.recorded_online (recorded_node transport address)
  rw [Aborts, Gateway.networkStatus, Gateway.act_node_bind_online] at haborts
  refine ((Gateway.ends_checkNetwork hrecorded _).bind fun _ => ?_) start finish haborts
  exact (Handler.ends_ask (ends_call transport address _ _ _)).bind fun _ => ends_pure _

/-- All that is told of heights and times is reckoned from what the node answers, whatever that is,
but for a block of the least height: at one the client is cut short before it tells anything. -/
theorem reckons_answers [Suite] :
    (∀ height header finish,
      Succeeds (block transport.recorded address height) start header finish →
        ReckonsBlock transport address start height header) ∧
    (∀ height finish, Aborts (block transport.recorded address height) start finish ↔
      Overflows transport address start height finish) ∧
    (∀ request, Ends ((Gateway.online (node transport.recorded address)).networkStatus request)) ∧
    ∀ request response finish,
      Succeeds ((Gateway.online (node transport.recorded address)).networkStatus request) start
        response finish → ReckonsTime transport address finish response := by
  refine ⟨?_, aborts_block_iff transport address start, ends_networkStatus transport address, ?_⟩
  · intro height header finish h
    obtain ⟨connection, client, node, log, hconnection, htells, -⟩ := exists_tells_of_block h
    obtain ⟨block, node', hblock, hreckoned⟩ := htells.exists_reckoned
    refine ⟨connection, client, node, log, block, node', hconnection, fun hstart => ?_, hblock,
      hreckoned⟩
    -- Opening a connection asks the node where its chain begins.
    have hinformed := informed_connection transport address start hstart
    rw [show Stateful.act _ _ = _ from hconnection] at hinformed
    exact hinformed connection (connection_eq_some_of_succeeds hconnection)
  · intro request response finish h
    obtain ⟨_, asked, status, -, hstatus, rfl⟩ := Gateway.succeeds_networkStatus_iff.mp h
    exact ⟨asked, status, hstatus, toInt_millisecondsOf _⟩

end

theorem succeeds_block_maxValue :
    ∃ finish, Succeeds
      (block (Transport.ofBlocks numberedBlock).recorded "node:1" latestHeight)
      (.initial, Int64.maxValue, [])
      ((numberedBlock Int64.maxValue).header 0x7ffffffffffffffe
        (numberedBlock 0x7ffffffffffffffe).hash) finish :=
  ⟨_, rfl⟩

/-- The latest block has the greatest height and time.  Of its own time the node tells nothing. -/
theorem reckons_answers_maxValue :
    let transport := Transport.ofBlocks numberedBlock
    let start := (.initial, Int64.maxValue, [])
    (∃ header finish,
      Succeeds (block transport.recorded "node:1" latestHeight) start header finish ∧
      header.timestamp = Int64.maxValue ∧ header.parentHeight = 0x7ffffffffffffffe ∧
      ReckonsBlock transport "node:1" start latestHeight header) ∧
    ∃ response finish,
      Succeeds ((Gateway.online (node transport.recorded "node:1")).networkStatus
        ⟨some (.of blockchain "chain"), none⟩) start response finish ∧
      ReckonsTime transport "node:1" finish response := by
  intro transport start
  obtain ⟨finish, hblock⟩ := succeeds_block_maxValue
  have hstatus : Succeeds ((Gateway.online (node transport.recorded "node:1")).networkStatus
      ⟨some (.of blockchain "chain"), none⟩) start _ _ :=
    Gateway.succeeds_networkStatus_iff.mpr ⟨"chain", _, _, rfl, rfl, rfl⟩
  have hanswers := reckons_answers transport "node:1" start
  exact ⟨⟨_, _, hblock, by decide, rfl, hanswers.1 _ _ _ hblock⟩, _, _, hstatus,
    hanswers.2.2.2 _ _ _ hstatus⟩

/-- The latest block has the least height, and the chain begins at height zero, so that is the height
of the parent.  The client is cut short, and no block is told. -/
theorem aborts_block_minValue :
    let transport := Transport.ofBlocks numberedBlock
    let start := (.initial, Int64.minValue, [])
    max (Int64.minValue.toInt - 1) (0 : Int64).toInt = (0 : Int64).toInt ∧
    (∃ finish, Aborts (block transport.recorded "node:1" latestHeight) start finish ∧
      TellsGenesis (record finish) 0 ∧
      TellsBlock [] (record finish) latestHeight Int64.minValue) ∧
    ∀ header finish,
      ¬ Succeeds (block transport.recorded "node:1" latestHeight) start header finish := by
  intro transport start
  have haborts : Aborts (block transport.recorded "node:1" latestHeight) start _ := rfl
  refine ⟨by decide, ⟨_, haborts, ?_, ?_⟩, ?_⟩
  · exact ⟨_, List.mem_cons_self, rfl, _, rfl, rfl⟩
  · exact ⟨_, rfl, _, List.mem_cons_of_mem _ (List.mem_cons_of_mem _ List.mem_cons_self), rfl, rfl,
      _, rfl, rfl⟩
  · intro header finish hblock
    cases haborts.symm.trans hblock

end Client

end StakingGateway
