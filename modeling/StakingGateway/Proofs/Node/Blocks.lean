import StakingGateway.Proofs.Node.Questions
import StakingGateway.Proofs.Node.Wire

/-!
# Blocks and their parents

A block is told with the height and the hash of its parent.  The height is reckoned from that of the
block and that of the first block, which the node told when the connection was made.  The hash is
asked for by the height.  Height zero stands for the latest block, so a parent at height zero cannot
be asked for: what is told as its hash is that of the latest block.

`linked_of_block` says this of all blocks that are asked for in a row, on a node that serves the
blocks of a chain (`Transport.ServesBlocks`).  The hash is that of the parent wherever the first
block has a positive height (`Linked.parentHash_eq_of_pos`).
-/

namespace StakingGateway

open Cbor

namespace BlockRecord

variable {block : BlockRecord} {genesis parentHeight : Int64}

theorem parentHeight?_eq_none_iff :
    block.parentHeight? genesis = none ↔ block.height = Int64.minValue := by
  unfold parentHeight?
  split <;> simp_all

theorem toInt_of_parentHeight? (h : block.parentHeight? genesis = some parentHeight) :
    parentHeight.toInt = max (block.height.toInt - 1) genesis.toInt := by
  unfold parentHeight? at h
  split at h
  next => cases h
  next hleast =>
    have hlow := block.height.le_toInt
    have hhigh := block.height.toInt_lt
    have hne : block.height.toInt ≠ -2 ^ 63 := fun heq => hleast (Int64.toInt_inj.mp heq)
    have hbelow : (block.height - 1).toInt = block.height.toInt - 1 := by
      rw [Int64.toInt_sub]
      exact Int.bmod_eq_of_le (by simp; omega) (by simp; omega)
    cases h
    simp only [Int64.lt_iff_toInt_lt, hbelow]
    split
    next hlt => exact (max_eq_right (Int.le_of_lt hlt)).symm
    next hle =>
      rw [hbelow]
      exact (max_eq_left (Int.not_lt.mp hle)).symm

theorem le_of_parentHeight? (h : block.parentHeight? genesis = some parentHeight) :
    genesis ≤ parentHeight := by
  rw [Int64.le_iff_toInt_le, toInt_of_parentHeight? h]
  exact le_max_right _ _

def toItem (block : BlockRecord) : Item :=
  .record [("height", some (heightItem block.height)), ("hash", some block.hash.toItem),
    ("time", some (.ofInt block.time.toInt))]

theorem faithful_toItem : Item.Faithful 1 toItem ofItem? := by
  refine .record ["height", "hash", "time"] (fun _ => rfl) (by decide)
    (fun block hnames => ?_) fun _ => ?_
  · rw [Item.faithful_int64.defaulted hnames rfl, Hash.faithful_toItem.defaulted hnames rfl,
      Item.faithful_int64.defaulted hnames rfl]
    rfl
  · exact Item.faithful_int64.field <| Hash.faithful_toItem.field <| Item.faithful_int64.field <|
      Item.Faithful.fieldsWithin_nil 0

end BlockRecord

/-- The height that a question about a block is answered for, if the latest block has a height. -/
def answeredHeight (latest height : Int64) : Int64 :=
  if height = latestHeight then latest else height

theorem answeredHeight_latestHeight (latest : Int64) :
    answeredHeight latest latestHeight = latest :=
  if_pos rfl

theorem answeredHeight_of_ne {height : Int64} (h : height ≠ latestHeight) (latest : Int64) :
    answeredHeight latest height = height :=
  if_neg h

section

variable {σ : Type}

def Transport.askBlock (transport : Transport (StateM σ)) (height : Int64) :
    StateM σ (Except Status BlockRecord) :=
  Client.exchange transport .getBlock (heightItem height) BlockRecord.ofItem?

/-- Blocks are served by their heights, the latest at height zero, unless there is a failure.  Which
height is that of the latest block may change with the state of the node. -/
def Transport.ServesHeights (transport : Transport (StateM σ)) (latest : σ → Int64) : Prop :=
  ∀ height node block node', transport.askBlock height node = (.ok block, node') →
    block.height = answeredHeight (latest node) height

/-- The blocks that are served by their heights are those of one chain. -/
structure Transport.ServesBlocks (transport : Transport (StateM σ)) (blocks : Int64 → BlockRecord)
    (latest : σ → Int64) : Prop where
  block_height : ∀ height, (blocks height).height = height
  eq_of_askBlock : ∀ height node block node', transport.askBlock height node = (.ok block, node') →
    block = blocks (answeredHeight (latest node) height)

namespace Transport.ServesBlocks

variable {transport : Transport (StateM σ)} {blocks : Int64 → BlockRecord} {latest : σ → Int64}

theorem servesHeights (h : transport.ServesBlocks blocks latest) :
    transport.ServesHeights latest := by
  intro height node block node' hasked
  rw [h.eq_of_askBlock height node block node' hasked]
  exact h.block_height _

theorem hash_eq (h : transport.ServesBlocks blocks latest) {height : Int64} {node node' : σ}
    {block : BlockRecord} (hasked : transport.askBlock height node = (.ok block, node')) :
    block.hash = (blocks block.height).hash := by
  rw [h.eq_of_askBlock height node block node' hasked, h.block_height]

end Transport.ServesBlocks

/-- How a block is told that is asked for in a state of the node: with one question if it is its own
parent, and else with another one about the parent. -/
inductive Transport.Tells (transport : Transport (StateM σ)) (genesis height : Int64) (node : σ) :
    BlockHeader → Prop
  | own {block : BlockRecord} {node' : σ}
      (hblock : transport.askBlock height node = (.ok block, node'))
      (hown : block.parentHeight? genesis = some block.height) :
      Transport.Tells transport genesis height node (block.header block.height block.hash)
  | other {block parent : BlockRecord} {node' node'' : σ} {parentHeight : Int64}
      (hblock : transport.askBlock height node = (.ok block, node'))
      (hheight : block.parentHeight? genesis = some parentHeight)
      (hother : parentHeight ≠ block.height)
      (hparent : transport.askBlock parentHeight node' = (.ok parent, node'')) :
      Transport.Tells transport genesis height node (block.header parentHeight parent.hash)

/-- What is told of a block that was asked for at a height, on a chain that begins at `genesis`.
The latest block is at the height `latest` when the block is asked for, and at `latestNext` when its
parent is. -/
structure Linked (blocks : Int64 → BlockRecord) (genesis latest latestNext height : Int64)
    (header : BlockHeader) : Prop where
  height_eq : header.height = answeredHeight latest height
  hash_eq : header.hash = (blocks header.height).hash
  genesis_le : genesis ≤ header.parentHeight
  toInt_parentHeight :
    header.parentHeight.toInt = max (header.height.toInt - 1) genesis.toInt
  parentHash_eq : header.parentHeight ≠ latestHeight →
    header.parentHash = (blocks header.parentHeight).hash
  parentHash_of_latestHeight : header.parentHeight = latestHeight →
    header.parentHash = if header.height = latestHeight then header.hash
      else (blocks latestNext).hash

/-- The parent is right on a chain whose first block has a positive height. -/
theorem Linked.parentHash_eq_of_pos {blocks : Int64 → BlockRecord}
    {genesis latest latestNext height : Int64} {header : BlockHeader}
    (h : Linked blocks genesis latest latestNext height header) (hpos : 0 < genesis) :
    header.parentHash = (blocks header.parentHeight).hash := by
  refine h.parentHash_eq fun hzero => ?_
  have hle := h.genesis_le
  rw [hzero] at hle
  exact Int64.not_lt.mpr hle hpos

def TellsGenesis (log : List Exchange) (genesis : Int64) : Prop :=
  ∃ exchange ∈ log, exchange.method = .getStatus ∧
    ∃ status, Client.readAnswer NodeStatus.ofItem? exchange.answer = .ok status ∧
      status.consensus.genesisHeight = genesis

theorem TellsGenesis.append {log : List Exchange} {genesis : Int64} (h : TellsGenesis log genesis)
    (rest : List Exchange) : TellsGenesis (log ++ rest) genesis := by
  obtain ⟨exchange, hexchange, htold⟩ := h
  exact ⟨exchange, List.mem_append_left rest hexchange, htold⟩

/-- Between two records the node was asked for the block of a height, and told a block of one. -/
def TellsBlock (log log' : List Exchange) (height told : Int64) : Prop :=
  ∃ asked, log' = log ++ asked ∧ ∃ exchange ∈ asked, exchange.method = .getBlock ∧
    exchange.request = (heightItem height).encode ∧
      ∃ block, Client.readAnswer BlockRecord.ofItem? exchange.answer = .ok block ∧
        block.height = told

theorem TellsBlock.isPrefix {log log' : List Exchange} {height told : Int64}
    (h : TellsBlock log log' height told) : log <+: log' := by
  obtain ⟨asked, rfl, -⟩ := h
  exact List.prefix_append log asked

theorem TellsBlock.extend {first log log' last : List Exchange} {height told : Int64}
    (h : TellsBlock log log' height told) (hfirst : first <+: log) (hlast : log' <+: last) :
    TellsBlock first last height told := by
  obtain ⟨before, rfl⟩ := hfirst
  obtain ⟨asked, rfl, exchange, hexchange, htold⟩ := h
  obtain ⟨after, rfl⟩ := hlast
  refine ⟨before ++ asked ++ after, by simp only [List.append_assoc], exchange, ?_, htold⟩
  exact List.mem_append_left after (List.mem_append_right before hexchange)

namespace Client

variable (transport : Transport (StateM σ)) (address : String)

/-! ## Where the chain begins -/

/-- The connection that is kept has the height of the first block from the node.  Connections are
dropped and made again, so this is what every question has to keep. -/
def Informed (state : ClientState × σ × List Exchange) : Prop :=
  ∀ connection, state.1.connection = some connection →
    TellsGenesis (record state) connection.genesisHeight

theorem informed_of_connection_eq_none {client : ClientState} (h : client.connection = none)
    (told : σ × List Exchange) : Informed (client, told) := by
  intro connection hkept
  rw [h] at hkept
  cases hkept

theorem Informed.of_kept {client client' : ClientState} {node node' : σ} {log : List Exchange}
    (h : Informed (client, node, log))
    (hkept : ∀ kept, client'.connection = some kept → client.connection = some kept)
    (rest : List Exchange) : Informed (client', node', log ++ rest) :=
  fun kept hsome => (h kept (hkept kept hsome)).append rest

theorem informed_connection : Keeps Informed (Client.connection transport.recorded address) := by
  rintro ⟨client, node, log⟩ hinformed
  cases hkept : client.connection with
  | some kept =>
      rw [act_connection_of_some _ _ hkept]
      exact hinformed
  | none =>
      rw [act_connection_of_none _ _ hkept, dial_recorded]
      rcases transport.dial node with ⟨reason | ⟨⟩, dialed⟩
      · exact hinformed
      dsimp only [Prod.map, id]
      rw [exchange_recorded]
      rcases hasked : exchange transport .getStatus .null NodeStatus.ofItem? dialed with
        ⟨reason | status, asked⟩
      · exact informed_of_connection_eq_none hkept _
      dsimp only [Prod.map, id]
      rw [exchange_recorded]
      -- The answer that the record shows is the one that was read as the status.
      have hread : readAnswer NodeStatus.ofItem?
          (transport.send .getStatus Item.null.encode dialed).1 = .ok status := by
        rw [exchange_apply] at hasked
        exact congrArg Prod.fst hasked
      rcases exchange transport .getChainContext .null Item.asText? asked with
        ⟨reason | chainId, told⟩
      · exact informed_of_connection_eq_none hkept _
      · rintro connection ⟨⟩
        refine TellsGenesis.append ?_ _
        exact ⟨_, List.mem_append_right log (List.mem_singleton.mpr rfl), rfl, status, hread, rfl⟩

theorem informed_call {α : Type} (method : NodeMethod) (request : Item) (read : Item → Option α) :
    Keeps Informed (call transport.recorded address method request read) := by
  rintro ⟨client, node, log⟩ hinformed
  have hnext := informed_connection transport address _ hinformed
  rcases hrun : Stateful.act (Client.connection transport.recorded address).run
    (client, node, log) with ⟨_ | reason | connection, client₁, node₁, log₁⟩
  · rw [hrun] at hnext
    rw [call, act_run_bind_of_abort hrun]
    exact hnext
  · rw [hrun] at hnext
    rw [call, act_run_bind_of_error hrun]
    exact hnext
  · rw [hrun] at hnext
    rw [act_call_of_connection _ address hrun, exchange_recorded]
    rcases exchange transport method request read node₁ with ⟨status | value, told⟩
    · refine hnext.of_kept (fun kept hsome => ?_) _
      split at hsome
      next => exact ((client₁.connection_drop_eq_some_iff _).mp hsome).1
      next => exact hsome
    · exact hnext.of_kept (fun _ h => h) _

theorem informed_block (height : Int64) :
    Keeps Informed (block transport.recorded address height) := by
  refine (informed_connection transport address).bind fun connection => ?_
  refine (informed_call transport address _ _ _).bind fun block => ?_
  split
  next => exact fun _ hinformed => hinformed
  split
  next => exact keeps_pure Informed _
  next => exact (informed_call transport address _ _ _).bind fun _ => keeps_pure Informed _

def afterBlocks (heights : List Int64) (state : ClientState × σ × List Exchange) :
    ClientState × σ × List Exchange :=
  heights.foldl
    (fun state height => (Stateful.act (block transport.recorded address height).run state).2) state

theorem informed_afterBlocks (heights : List Int64) {state : ClientState × σ × List Exchange}
    (h : Informed state) : Informed (afterBlocks transport address heights state) := by
  induction heights generalizing state with
  | nil => exact h
  | cons height heights ih => exact ih (informed_block transport address height state h)

/-! ## One block -/

variable {transport address}

theorem connection_eq_some_of_succeeds {start finish : ClientState × σ × List Exchange}
    {connection : Connection}
    (h : Succeeds (Client.connection transport.recorded address) start connection finish) :
    finish.1.connection = some connection := by
  obtain ⟨outcome, asked, houtcome, -, hconnects⟩ := connects_of_connection transport address h
  cases houtcome
  exact hconnects.connection_eq_some

theorem succeeds_getBlock {client : ClientState} {connection : Connection}
    (hkept : client.connection = some connection) {height : Int64} {node : σ} {log : List Exchange}
    {block : BlockRecord} {finish : ClientState × σ × List Exchange}
    (h : Succeeds (call transport.recorded address .getBlock (heightItem height)
      BlockRecord.ofItem?) (client, node, log) block finish) :
    ∃ node' log', transport.askBlock height node = (.ok block, node') ∧
      TellsBlock log log' height block.height ∧ finish = (client, node', log') := by
  revert h
  rw [Succeeds, act_call_of_connection _ _ (act_connection_of_some _ _ hkept _),
    exchange_recorded, Transport.askBlock]
  rcases hasked : exchange transport .getBlock (heightItem height) BlockRecord.ofItem? node with
    ⟨status | found, told⟩
  · rintro ⟨⟩
  · rintro ⟨⟩
    rw [exchange_apply] at hasked
    refine ⟨_, _, rfl, ⟨_, rfl, _, List.mem_singleton.mpr rfl, rfl, rfl, block, ?_, rfl⟩, rfl⟩
    exact congrArg Prod.fst hasked

/-- A block is told after the connection is there, with the height of the first block that the
connection has. -/
theorem exists_tells_of_block {start finish : ClientState × σ × List Exchange} {height : Int64}
    {header : BlockHeader}
    (h : Succeeds (block transport.recorded address height) start header finish) :
    ∃ connection client node log,
      Succeeds (Client.connection transport.recorded address) start connection
        (client, node, log) ∧
      transport.Tells connection.genesisHeight height node header ∧
      TellsBlock (record start) (record finish) height header.height := by
  obtain ⟨connection, ⟨client, node, log⟩, hconnection, h⟩ := succeeds_bind_iff.mp h
  have hkept := connection_eq_some_of_succeeds hconnection
  have hopened := (logs_connection transport address).prefix_of_succeeds hconnection
  obtain ⟨block, _, hcall, h⟩ := succeeds_bind_iff.mp h
  obtain ⟨node', log', hasked, htold, rfl⟩ := succeeds_getBlock hkept hcall
  refine ⟨connection, client, node, log, hconnection, ?_⟩
  split at h
  next => cases h
  next parentHeight hheight =>
    split at h
    next hown =>
      subst hown
      obtain ⟨rfl, rfl⟩ := succeeds_pure_iff.mp h
      exact ⟨.own hasked hheight, htold.extend hopened (List.prefix_refl _)⟩
    next hother =>
      obtain ⟨parent, _, hcall, h⟩ := succeeds_bind_iff.mp h
      obtain ⟨_, _, hparent, hmore, rfl⟩ := succeeds_getBlock hkept hcall
      obtain ⟨rfl, rfl⟩ := succeeds_pure_iff.mp h
      exact ⟨.other hasked hheight hother hparent, htold.extend hopened hmore.isPrefix⟩

end Client

/-! ## Parents -/

theorem Transport.Tells.height_eq {transport : Transport (StateM σ)} {latest : σ → Int64}
    (hserves : transport.ServesHeights latest) {genesis height : Int64} {node : σ}
    {header : BlockHeader} (h : transport.Tells genesis height node header) :
    header.height = answeredHeight (latest node) height := by
  cases h with
  | own hblock => exact hserves _ _ _ _ hblock
  | other hblock => exact hserves _ _ _ _ hblock

/-- A block is linked as far as a parent at height zero can be asked for. -/
theorem Transport.Tells.linked {transport : Transport (StateM σ)} {blocks : Int64 → BlockRecord}
    {latest : σ → Int64} (hserves : transport.ServesBlocks blocks latest) {genesis height : Int64}
    {node : σ} {header : BlockHeader} (h : transport.Tells genesis height node header) :
    Linked blocks genesis (latest node) (latest (transport.askBlock height node).2) height
      header := by
  have hheight := h.height_eq hserves.servesHeights
  cases h with
  | @own block _ hblock hown =>
      have hhash := hserves.hash_eq hblock
      exact ⟨hheight, hhash, BlockRecord.le_of_parentHeight? hown,
        BlockRecord.toInt_of_parentHeight? hown, fun _ => hhash, fun hzero => (if_pos hzero).symm⟩
  | @other block parent node' _ parentHeight hblock hreckoned hother hparent =>
      have hhash := hserves.hash_eq hblock
      have hparentHash : parent.hash
          = (blocks (answeredHeight (latest node') parentHeight)).hash :=
        congrArg BlockRecord.hash (hserves.eq_of_askBlock _ _ _ _ hparent)
      refine ⟨hheight, hhash, BlockRecord.le_of_parentHeight? hreckoned,
        BlockRecord.toInt_of_parentHeight? hreckoned, fun hne => ?_, fun hzero => ?_⟩
      · change parentHeight ≠ latestHeight at hne
        rwa [answeredHeight_of_ne hne] at hparentHash
      · change parentHeight = latestHeight at hzero
        rw [hzero] at hother
        rw [hzero, answeredHeight_latestHeight] at hparentHash
        rw [hblock]
        exact hparentHash.trans (if_neg (Ne.symm hother)).symm

namespace Client

variable {transport : Transport (StateM σ)} {blocks : Int64 → BlockRecord} {latest : σ → Int64}

/-- Blocks that are asked for in a row: each is linked, and the chain begins where the node told. -/
theorem linked_of_block (h : transport.ServesBlocks blocks latest) (address : String)
    (earlier : List Int64) (initial : σ) {height : Int64} {header : BlockHeader}
    {finish : ClientState × σ × List Exchange}
    (hblock : Succeeds (block transport.recorded address height)
      (afterBlocks transport address earlier (.initial, initial, [])) header finish) :
    ∃ connection client node log,
      Succeeds (Client.connection transport.recorded address)
        (afterBlocks transport address earlier (.initial, initial, [])) connection
        (client, node, log) ∧
      TellsGenesis log connection.genesisHeight ∧
      Linked blocks connection.genesisHeight (latest node)
        (latest (transport.askBlock height node).2) height header := by
  obtain ⟨connection, client, node, log, hconnection, htells, -⟩ := exists_tells_of_block hblock
  have hearlier : Informed (afterBlocks transport address earlier (.initial, initial, [])) :=
    informed_afterBlocks transport address earlier (informed_of_connection_eq_none rfl _)
  have hinformed := informed_connection transport address _ hearlier
  rw [show Stateful.act _ _ = _ from hconnection] at hinformed
  exact ⟨connection, client, node, log, hconnection,
    hinformed connection (connection_eq_some_of_succeeds hconnection), htells.linked h⟩

end Client

/-! ## A node that serves blocks -/

/-- A node that serves the blocks of a chain, and tells of itself what it has to and no more.  Its
state is the height of the latest block. -/
def Transport.ofBlocks (blocks : Int64 → BlockRecord) : Transport (StateM Int64) where
  dial := pure (.ok ())
  send method request := fun latest =>
    (match method with
      | .getChainContext => .ok (Item.text "chain").encode
      | .getBlock =>
        match decodeAs Item.asInt64? request with
        | .ok height => .ok (blocks (answeredHeight latest height)).toItem.encode
        | .error reason => .error ⟨.internal, reason.message⟩
      | .getEvents => .ok (Item.array []).encode
      | _ => .ok (Item.map []).encode, latest)

theorem Transport.askBlock_ofBlocks (blocks : Int64 → BlockRecord) (height latest : Int64) :
    (Transport.ofBlocks blocks).askBlock height latest =
      (.ok (blocks (answeredHeight latest height)), latest) := by
  have hrequest : decodeAs Item.asInt64? (heightItem height).encode = .ok height :=
    Item.faithful_int64.decodeAs_encode (Nat.zero_le _) height
  have hanswer (block : BlockRecord) :
      Client.readAnswer BlockRecord.ofItem? (.ok block.toItem.encode) = .ok block := by
    rw [Client.readAnswer, BlockRecord.faithful_toItem.decodeAs_encode (by decide)]
  rw [askBlock, Client.exchange_apply]
  simp only [ofBlocks, hrequest, Prod.map, hanswer, id]

theorem Transport.servesBlocks_ofBlocks {blocks : Int64 → BlockRecord}
    (h : ∀ height, (blocks height).height = height) :
    (Transport.ofBlocks blocks).ServesBlocks blocks id where
  block_height := h
  eq_of_askBlock height latest block node' hasked := by
    rw [askBlock_ofBlocks] at hasked
    cases hasked
    rfl

/-- A block for every height, each with a hash of its own for the heights in use. -/
def numberedBlock (height : Int64) : BlockRecord :=
  ⟨height, ⟨List.replicate 32 (0x10 + height.toUInt64.toUInt8), List.length_replicate⟩, height⟩

/-- The third block of five, asked for after the second: its parent is the second. -/
theorem Client.linked_of_block_third :
    let transport := Transport.ofBlocks numberedBlock
    let start := afterBlocks transport "node:1" [2] (.initial, 5, [])
    transport.ServesBlocks numberedBlock id ∧
    ∃ header finish, Succeeds (block transport.recorded "node:1" 3) start header finish ∧
      header.parentHash = (numberedBlock 2).hash ∧
      ∃ connection client node log,
        Succeeds (Client.connection transport.recorded "node:1") start connection
          (client, node, log) ∧
        TellsGenesis log connection.genesisHeight ∧
        Linked numberedBlock connection.genesisHeight node (transport.askBlock 3 node).2 3
          header := by
  intro transport start
  have hserves : transport.ServesBlocks numberedBlock id :=
    Transport.servesBlocks_ofBlocks fun _ => rfl
  have hblock : Succeeds (block transport.recorded "node:1" 3) start
      ((numberedBlock 3).header 2 (numberedBlock 2).hash) _ := rfl
  exact ⟨hserves, _, _, hblock, rfl, linked_of_block hserves "node:1" [2] 5 hblock⟩

/-- The chain begins at height zero, as far as the node tells.  The first block after that is told
with the hash of the latest block as that of its parent. -/
theorem Client.parentHash_of_first_ne :
    let transport := Transport.ofBlocks numberedBlock
    transport.ServesBlocks numberedBlock id ∧
    ∃ header finish,
      Succeeds (block transport.recorded "node:1" 1) (.initial, 5, []) header finish ∧
      header.height = 1 ∧ header.parentHeight = 0 ∧
      header.parentHash = (numberedBlock 5).hash ∧
      header.parentHash ≠ (numberedBlock header.parentHeight).hash := by
  intro transport
  have hblock : Succeeds (block transport.recorded "node:1" 1) (.initial, 5, [])
      ((numberedBlock 1).header 0 (numberedBlock 5).hash) _ := rfl
  exact ⟨Transport.servesBlocks_ofBlocks fun _ => rfl, _, _, hblock, rfl, rfl, rfl, by decide⟩

end

end StakingGateway
