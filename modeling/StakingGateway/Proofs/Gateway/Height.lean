import StakingGateway.Proofs.Gateway.Guarding
import StakingGateway.Proofs.Gateway.Offline
import StakingGateway.Proofs.Gateway.Snapshot
import StakingGateway.Proofs.Node.Blocks

/-!
# The height of an answer

A request about a block, or about an account at a block, may name the block by an index.  The answer
identifies a block of that height.  An index of zero is passed on like any other, but height zero
stands for the latest block, and so the answer is about the block that the node told as its latest.

This holds whatever others do to the node and to the connection between the questions
(`identifiesIndex_shared`).
-/

namespace StakingGateway

open Api

namespace Gateway

section

variable {m : Type → Type} [Monad m] {τ : Type} [Stateful m τ] {log : τ → List Exchange}
  {node : Node m} {t t' : τ}

theorem recorded_online (h : node.Recorded log) : (Gateway.online node).Recorded log := by
  rintro _ ⟨⟩
  exact h

theorem exists_of_block [Suite] (hrecorded : node.Recorded log) {request : BlockRequest}
    {response : BlockResponse} {height : Int64}
    (hheight : requestedHeight request.blockIdentifier = .ok height)
    (h : Succeeds (Gateway.block (.online node) request) t response t') :
    ∃ header asked told block, log t <+: log asked ∧
      Succeeds (node.block height) asked header told ∧ log told <+: log t' ∧
      response.block = some block ∧
      block.blockIdentifier = ⟨header.height, header.hash.text⟩ := by
  simp only [Gateway.block, Gateway.node, succeeds_bind_iff, succeeds_pure_iff,
    Handler.succeeds_of_iff, Handler.succeeds_ask_iff] at h
  obtain ⟨_, _, ⟨rfl, rfl⟩, _, asked, hnetwork, found, _, ⟨hfound, rfl⟩, header, told, hblock, _,
    _, htransactions, _, _, hevents, rfl, rfl⟩ := h
  obtain rfl : height = found := Except.ok.inj (hheight.symm.trans hfound)
  refine ⟨header, asked, told, _, ?_, hblock, ?_, rfl, rfl⟩
  · exact (logs_checkNetwork (recorded_online hrecorded) _).prefix_of_succeeds hnetwork
  · exact ((hrecorded.transactions _).prefix_of_succeeds htransactions).trans
      ((hrecorded.stakingEvents _).prefix_of_succeeds hevents)

theorem exists_of_accountBalance (hrecorded : node.Recorded log) {request : AccountBalanceRequest}
    {response : AccountBalanceResponse} {height : Int64}
    (hheight : requestedHeight request.blockIdentifier = .ok height)
    (h : Succeeds (Gateway.accountBalance (.online node) request) t response t') :
    ∃ header asked told, log t <+: log asked ∧
      Succeeds (node.block height) asked header told ∧ log told <+: log t' ∧
      response.blockIdentifier = ⟨header.height, header.hash.text⟩ := by
  obtain ⟨_, _, found, _, escrow, hnetwork, hfound, -, -, _, asked, header, told, haccount, hblock,
    hresponse⟩ := succeeds_accountBalance_iff.mp h
  obtain rfl : height = found := Except.ok.inj (hheight.symm.trans hfound)
  have hbefore : log t <+: log asked :=
    ((logs_checkNetwork (recorded_online hrecorded) _).prefix_of_succeeds hnetwork).trans
      ((hrecorded.account _ _).prefix_of_succeeds haccount)
  refine ⟨header, asked, told, hbefore, hblock, ?_⟩
  cases escrow with
  | false =>
      obtain ⟨rfl, rfl⟩ := hresponse
      exact ⟨List.prefix_refl _, rfl⟩
  | true =>
      obtain ⟨_, _, _, hdelegations, hdebonding, rfl⟩ := hresponse
      exact ⟨((hrecorded.delegations _ _).prefix_of_succeeds hdelegations).trans
        ((hrecorded.debondingDelegations _ _).prefix_of_succeeds hdebonding), rfl⟩

end

end Gateway

section

variable {σ : Type}

/-- A block is identified for an index by an answer between two records: the node was asked for the
block of that height and told one of the height that is answered.  It is the height of the index,
but for index zero, where the latest block is told. -/
structure AnswersIndex (log log' : List Exchange) (index : Int64) (answered : BlockIdentifier) :
    Prop where
  told : TellsBlock log log' index answered.index
  index_eq : index ≠ latestHeight → answered.index = index

namespace Gateway

variable {transport : Transport (StateM σ)} {latest : σ → Int64} {address : String}
  {others : ClientState × σ → ClientState × σ}

/-- A block that is told by a client, whatever others have done by then. -/
theorem answersIndex_of_amid (h : transport.ServesHeights latest) {height : Int64}
    {header : BlockHeader} {first asked told last : ClientState × σ × List Exchange}
    (hfirst : Client.record first <+: Client.record asked)
    (hblock : Succeeds (((Client.node transport.recorded address).amid
      (Client.meanwhile others)).block height) asked header told)
    (hlast : Client.record told <+: Client.record last) :
    AnswersIndex (Client.record first) (Client.record last) height
      ⟨header.height, header.hash.text⟩ := by
  obtain ⟨_, next, hothers, hblock⟩ := succeeds_bind_iff.mp hblock
  have hrecord : Client.record asked = Client.record next := by
    obtain ⟨_, hact, hrecord⟩ := Client.record_meanwhile others asked
    cases hact.symm.trans (succeeds_lift_iff.mp hothers)
    exact hrecord.symm
  obtain ⟨_, _, _, _, -, htells, htold⟩ := Client.exists_tells_of_block hblock
  exact ⟨htold.extend (hrecord ▸ hfirst) hlast,
    fun hne => (htells.height_eq h).trans (answeredHeight_of_ne hne _)⟩

/-- The requests for a block and for a balance that name an index are answered for it, unless there
is a failure. -/
structure IdentifiesIndex [Suite]
    (gateway : Gateway (Client.Effect (StateM (σ × List Exchange)))) : Prop where
  block : ∀ {request response start finish index hash},
    request.blockIdentifier = some ⟨some index, hash⟩ →
    Succeeds (gateway.block request) start response finish →
      ∃ block, response.block = some block ∧
        AnswersIndex (Client.record start) (Client.record finish) index block.blockIdentifier
  accountBalance : ∀ {request response start finish index hash},
    request.blockIdentifier = some ⟨some index, hash⟩ →
    Succeeds (gateway.accountBalance request) start response finish →
      AnswersIndex (Client.record start) (Client.record finish) index response.blockIdentifier

/-- The gateway to a node that serves blocks by their heights, whatever others do to it.  Without a
node there is no answer. -/
theorem identifiesIndex_shared [Suite] (h : transport.ServesHeights latest)
    (offline : Option String) (address : String) (others : ClientState × σ → ClientState × σ) :
    (shared offline transport address others).IdentifiesIndex where
  block {request _ start _ index _} hindex hanswer := by
    cases offline with
    | some chainId =>
        cases ((refusesOffline_offline chainId).block request start).symm.trans hanswer
    | none =>
        have hheight : requestedHeight request.blockIdentifier = .ok index := by rw [hindex]; rfl
        have hrecorded := recorded_shared none transport address others _ rfl
        obtain ⟨header, _, _, block, hfirst, hblock, hlast, hresponse, hidentifier⟩ :=
          exists_of_block hrecorded hheight hanswer
        refine ⟨block, hresponse, ?_⟩
        rw [hidentifier]
        exact answersIndex_of_amid h hfirst hblock hlast
  accountBalance {request _ start _ index _} hindex hanswer := by
    cases offline with
    | some chainId =>
        cases ((refusesOffline_offline chainId).accountBalance request start).symm.trans hanswer
    | none =>
        have hheight : requestedHeight request.blockIdentifier = .ok index := by rw [hindex]; rfl
        have hrecorded := recorded_shared none transport address others _ rfl
        obtain ⟨header, _, _, hfirst, hblock, hlast, hidentifier⟩ :=
          exists_of_accountBalance hrecorded hheight hanswer
        rw [hidentifier]
        exact answersIndex_of_amid h hfirst hblock hlast

def blockRequest (index : Int64) : BlockRequest where
  networkIdentifier := some (.of blockchain "chain")
  blockIdentifier := some ⟨some index, none⟩

def emptyBlockResponse (header : BlockHeader) : BlockResponse :=
  .of (some (.of ⟨header.height, header.hash.text⟩ ⟨header.parentHeight, header.parentHash.text⟩
    ⟨header.timestamp⟩ []))

set_option maxRecDepth 2000 in
/-- The third block of five, and the tokens of the common pool there. -/
theorem identifiesIndex_shared_third :
    let gateway := shared none (.ofBlocks numberedBlock) "node:1" id
    (Transport.ofBlocks numberedBlock).ServesHeights id ∧
    gateway.IdentifiesIndex ∧
    (∃ response finish block, Succeeds (gateway.block (blockRequest 3)) (.initial, 5, []) response
      finish ∧ response.block = some block ∧ block.blockIdentifier.index = 3) ∧
    ∃ response finish, Succeeds (gateway.accountBalance (commonPoolRequest (some ⟨some 3, none⟩)))
      (.initial, 5, []) response finish ∧ response.blockIdentifier.index = 3 := by
  intro gateway
  have hserves : (Transport.ofBlocks numberedBlock).ServesHeights id :=
    (Transport.servesBlocks_ofBlocks fun _ => rfl).servesHeights
  have hblock : Succeeds (gateway.block (blockRequest 3)) (.initial, 5, [])
    (emptyBlockResponse ((numberedBlock 3).header 2 (numberedBlock 2).hash)) _ := rfl
  have hbalance : Succeeds (gateway.accountBalance (commonPoolRequest (some ⟨some 3, none⟩)))
    (.initial, 5, []) _ _ := rfl
  exact ⟨hserves, identifiesIndex_shared hserves none "node:1" id, ⟨_, _, _, hblock, rfl, rfl⟩,
    _, _, hbalance, rfl⟩

set_option maxRecDepth 2000 in
/-- Asked for the block of height zero, the gateway answers with the latest. -/
theorem index_of_block_zero :
    let gateway := shared none (.ofBlocks numberedBlock) "node:1" id
    (Transport.ofBlocks numberedBlock).ServesHeights id ∧
    (∃ response finish block, Succeeds (gateway.block (blockRequest 0)) (.initial, 5, []) response
      finish ∧ response.block = some block ∧ block.blockIdentifier.index = 5) ∧
    ∃ response finish, Succeeds (gateway.accountBalance (commonPoolRequest (some ⟨some 0, none⟩)))
      (.initial, 5, []) response finish ∧ response.blockIdentifier.index = 5 := by
  intro gateway
  have hserves : (Transport.ofBlocks numberedBlock).ServesHeights id :=
    (Transport.servesBlocks_ofBlocks fun _ => rfl).servesHeights
  have hblock : Succeeds (gateway.block (blockRequest 0)) (.initial, 5, [])
    (emptyBlockResponse ((numberedBlock 5).header 4 (numberedBlock 4).hash)) _ := rfl
  have hbalance : Succeeds (gateway.accountBalance (commonPoolRequest (some ⟨some 0, none⟩)))
    (.initial, 5, []) _ _ := rfl
  exact ⟨hserves, ⟨_, _, _, hblock, rfl, rfl⟩, _, _, hbalance, rfl⟩

end Gateway

end

end StakingGateway
