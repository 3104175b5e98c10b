import StakingGateway.Proofs.Gateway.Requests
import StakingGateway.Proofs.Gateway.Submission
import StakingGateway.Proofs.Node.Questions

/-!
# Admission

Sixteen of the seventeen requests say which network they are for.  Each handler checks it before it
asks the node anything else, so a request for another network ends in a failure, and the node is
asked at most what opens a connection (`refuses_handle`).  No handler submits anything to the node
but that of submissions (`reads_handle`).

Both hold for every node whose questions are recorded.
-/

namespace StakingGateway

open Api Json

/-- The network is named, it is that of the chain, and no part of it is meant. -/
def Identifies (network : Option NetworkIdentifier) (chainId : String) : Prop :=
  ∃ named, network = some named ∧ named.blockchain = blockchain ∧
    named.subNetworkIdentifier = none ∧ named.network = chainId

theorem checkBlockchain_eq_ok_iff {network : NetworkIdentifier} :
    checkBlockchain network = .ok () ↔
      network.blockchain = blockchain ∧ network.subNetworkIdentifier = none := by
  unfold checkBlockchain
  split
  next hother => simp [hother]
  next hsame =>
    rw [Decidable.not_not.mp hsame]
    cases network.subNetworkIdentifier <;> simp

section

variable {m : Type → Type} [Monad m] {τ : Type} [Stateful m τ] {ε α β : Type}

namespace Handler

theorem act_of (answer : Except Failure α) (t : τ) :
    Stateful.act (Handler.of answer : Handler m α).run t = (some answer, t) :=
  Stateful.act_pure answer t

theorem silent_of {log : τ → List Exchange} (answer : Except Failure α) :
    Logs log Silent (Handler.of answer : Handler m α) :=
  logs_of_act_eq (P := Silent) rfl fun t => congrArg Prod.snd (act_of answer t)

theorem act_ask (kind : ErrorKind) (question : ExceptT NodeError m α) (t : τ) :
    (Stateful.act (Handler.ask kind question).run t).2 = (Stateful.act question.run t).2 := by
  change (Stateful.act (Except.mapError _ <$> question.run) t).2 = _
  rw [Stateful.act_map]
  rfl

theorem logs_ask {log : τ → List Exchange} {P : List Exchange → Prop} (kind : ErrorKind)
    {question : ExceptT NodeError m α} (h : Logs log P question) :
    Logs log P (Handler.ask kind question) := by
  intro t
  rw [act_ask]
  exact h t

end Handler

namespace Gateway

theorem act_node_bind_online (node : Node m) (f : Node m → Handler m α) (t : τ) :
    Stateful.act ((Gateway.online node).node >>= f).run t = Stateful.act (f node).run t :=
  act_run_bind_of_ok (Stateful.act_pure _ t) f

theorem act_node_bind_offline (chainId : String) (f : Node m → Handler m α) (t : τ) :
    Stateful.act ((Gateway.offline chainId).node >>= f).run t
      = (some (.error ⟨.notAvailableInOfflineMode, none⟩), t) :=
  act_run_bind_of_error (Stateful.act_pure _ t) f

def Accepts (gateway : Gateway m) (network : Option NetworkIdentifier) (t : τ) (chainId : String)
    (t' : τ) : Prop :=
  Identifies network chainId ∧ Succeeds gateway.chainId t chainId t'

theorem succeeds_checkNetwork_iff {gateway : Gateway m} {network : Option NetworkIdentifier}
    {t t' : τ} {chainId : String} :
    Succeeds (gateway.checkNetwork network) t chainId t' ↔
      gateway.Accepts network t chainId t' := by
  cases network with
  | none =>
      constructor
      · intro h
        exact (not_succeeds_throw h).elim
      · rintro ⟨⟨_, ⟨⟩, _⟩, _⟩
  | some named =>
      simp only [checkNetwork, succeeds_bind_iff, Handler.succeeds_of_iff, Accepts, Identifies]
      constructor
      · rintro ⟨_, _, ⟨hchecked, rfl⟩, found, next, hfound, h⟩
        obtain ⟨hblockchain, hwhole⟩ := checkBlockchain_eq_ok_iff.mp hchecked
        split at h
        next =>
          obtain ⟨_, _, hthrow, _⟩ := succeeds_bind_iff.mp h
          exact (not_succeeds_throw hthrow).elim
        next hsame =>
          obtain ⟨rfl, rfl⟩ := succeeds_pure_iff.mp h
          exact ⟨⟨named, rfl, hblockchain, hwhole, Decidable.not_not.mp hsame⟩, hfound⟩
      · rintro ⟨⟨_, ⟨⟩, hblockchain, hwhole, hsame⟩, hfound⟩
        have hchecked := checkBlockchain_eq_ok_iff.mpr ⟨hblockchain, hwhole⟩
        refine ⟨(), t, ⟨hchecked, rfl⟩, chainId, t', hfound, ?_⟩
        rw [if_neg (not_not_intro hsame)]
        exact succeeds_pure_iff.mpr ⟨rfl, rfl⟩

/-- What the questions to the node of a gateway, if it has one, add to a record. -/
def Recorded (gateway : Gateway m) (log : τ → List Exchange) : Prop :=
  ∀ node, gateway = .online node → node.Recorded log

variable {gateway : Gateway m} {log : τ → List Exchange}

theorem logs_chainId (h : gateway.Recorded log) : Logs log Opens gateway.chainId := by
  cases gateway with
  | online node => exact Handler.logs_ask _ (h node rfl).chainId
  | offline chainId => exact logs_pure opens_nil chainId

theorem logs_checkNetwork (h : gateway.Recorded log) (network : Option NetworkIdentifier) :
    Logs log Opens (gateway.checkNetwork network) := by
  cases network with
  | none => exact logs_throw opens_nil _
  | some named =>
      refine (Handler.silent_of _).silent_bind opens_nil fun _ => ?_
      refine (logs_chainId h).bind_silent fun chainId => ?_
      split
      next => exact (logs_throw (P := Silent) rfl _).bind_silent fun _ => silent_pure _
      next => exact silent_pure _

theorem ends_checkNetwork (h : gateway.Recorded log) (network : Option NetworkIdentifier) :
    Ends (gateway.checkNetwork network) := by
  have hchain : Ends gateway.chainId := by
    cases gateway with
    | online node => exact Handler.ends_ask (h node rfl).ends_chainId
    | offline chainId => exact ends_pure chainId
  cases network with
  | none => exact ends_throw _
  | some named =>
      refine (Handler.ends_of _).bind fun _ => hchain.bind fun chainId => ?_
      split
      next => exact (ends_throw _).bind fun _ => ends_pure _
      next => exact ends_pure _

theorem act_inJson [Model β] (handle : α → Handler m β) (request : α) (t : τ) :
    (Stateful.act (inJson handle request).run t).2 = (Stateful.act (handle request).run t).2 := by
  rw [inJson]
  rcases hrun : Stateful.act (handle request).run t with ⟨_ | failure | response, t'⟩
  · rw [act_run_bind_of_abort hrun]
  · rw [act_run_bind_of_error hrun]
  · rw [act_run_bind_of_ok hrun]
    exact congrArg Prod.snd (Stateful.act_pure _ t')

theorem logs_inJson {P : List Exchange → Prop} [Model β] {handle : α → Handler m β} {request : α}
    (h : Logs log P (handle request)) : Logs log P (inJson handle request) := by
  intro t
  rw [act_inJson]
  exact h t

/-! ## Refused networks -/

/-- The action fails, and the node is asked at most what opens a connection. -/
def Refuses (log : τ → List Exchange) (t : τ) (x : Handler m α) : Prop :=
  (∃ failure, (Stateful.act x.run t).1 = some (.error failure)) ∧
    ∃ asked, log (Stateful.act x.run t).2 = log t ++ asked ∧ Opens asked

theorem Refuses.bind {t : τ} {x : Handler m α} (h : Refuses log t x) (f : α → Handler m β) :
    Refuses log t (x >>= f) := by
  obtain ⟨⟨failure, hfailure⟩, hlog⟩ := h
  have hrun : Stateful.act x.run t = (some (.error failure), (Stateful.act x.run t).2) :=
    Prod.ext hfailure rfl
  unfold Refuses
  rw [act_run_bind_of_error hrun]
  exact ⟨⟨failure, rfl⟩, hlog⟩

theorem refuses_node_bind {t : τ} {f : Node m → Handler m α} (h : ∀ node, Refuses log t (f node)) :
    Refuses log t (gateway.node >>= f) := by
  unfold Refuses
  cases gateway with
  | online node =>
      rw [act_node_bind_online]
      exact h node
  | offline chainId =>
      rw [act_node_bind_offline]
      exact ⟨⟨_, rfl⟩, [], (List.append_nil _).symm, opens_nil⟩

theorem refuses_checkNetwork (h : gateway.Recorded log) {network : Option NetworkIdentifier} {t : τ}
    (hother : ∀ chainId t', ¬ gateway.Accepts network t chainId t') :
    Refuses log t (gateway.checkNetwork network) := by
  refine ⟨?_, logs_checkNetwork h network t⟩
  rcases hrun : Stateful.act (gateway.checkNetwork network).run t with ⟨_ | failure | chainId, t'⟩
  · exact (ends_checkNetwork h network t t' hrun).elim
  · exact ⟨failure, rfl⟩
  · exact (hother chainId t' (succeeds_checkNetwork_iff.mp hrun)).elim

variable [Suite]

/-- Every handler checks the network before all else, except that some ask first whether there is a
node. -/
theorem refuses_handle (h : gateway.Recorded log) {request : Request}
    {network : Option NetworkIdentifier} (hnetwork : request.network? = some network) {t : τ}
    (hother : ∀ chainId t', ¬ gateway.Accepts network t chainId t') :
    Refuses log t (gateway.handle request) := by
  have hchecks {α β : Type} (rest : String → Handler m α) (f : α → Handler m β) :
      Refuses log t (gateway.checkNetwork network >>= rest >>= f) :=
    ((refuses_checkNetwork h hother).bind rest).bind f
  have hasks {α β : Type} (rest : Node m → String → Handler m α) (f : α → Handler m β) :
      Refuses log t ((gateway.node >>= fun node => gateway.checkNetwork network >>= rest node)
        >>= f) :=
    (refuses_node_bind fun node => (refuses_checkNetwork h hother).bind (rest node)).bind f
  cases request with
  | networkList request => cases hnetwork
  | accountBalance request => cases hnetwork; exact hasks ..
  | accountCoins request => cases hnetwork; exact hasks ..
  | block request => cases hnetwork; exact hasks ..
  | blockTransaction request => cases hnetwork; exact hasks ..
  | constructionCombine request => cases hnetwork; exact hchecks ..
  | constructionDerive request => cases hnetwork; exact hchecks ..
  | constructionHash request => cases hnetwork; exact hchecks ..
  | constructionMetadata request => cases hnetwork; exact hasks ..
  | constructionParse request => cases hnetwork; exact hchecks ..
  | constructionPayloads request => cases hnetwork; exact hchecks ..
  | constructionPreprocess request => cases hnetwork; exact hchecks ..
  | constructionSubmit request => cases hnetwork; exact hasks ..
  | mempool request => cases hnetwork; exact hasks ..
  | mempoolTransaction request => cases hnetwork; exact hasks ..
  | networkOptions request => cases hnetwork; exact hchecks ..
  | networkStatus request => cases hnetwork; exact hasks ..

/-! ## Handlers that submit nothing -/

section

omit [Suite]

theorem reads_checkNetwork (h : gateway.Recorded log) (network : Option NetworkIdentifier) :
    Logs log Reads (gateway.checkNetwork network) :=
  (logs_checkNetwork h network).mono fun _ => Opens.reads

theorem reads_node_bind (h : gateway.Recorded log) {f : Node m → Handler m α}
    (hf : ∀ node : Node m, node.Recorded log → Logs log Reads (f node)) :
    Logs log Reads (gateway.node >>= f) := by
  intro t
  cases gateway with
  | online node =>
      rw [act_node_bind_online]
      exact hf node (h node rfl) t
  | offline chainId =>
      rw [act_node_bind_offline]
      exact ⟨[], (List.append_nil _).symm, reads_nil⟩

theorem reads_of (answer : Except Failure α) : Logs log Reads (Handler.of answer : Handler m α) :=
  (Handler.silent_of answer).mono fun asked h => by
    rw [show asked = [] from h]
    exact reads_nil

theorem reads_accountBalance (h : gateway.Recorded log) (request : AccountBalanceRequest) :
    Logs log Reads (gateway.accountBalance request) := by
  refine reads_node_bind h fun node hnode => ?_
  refine (reads_checkNetwork h _).bind fun _ => (reads_of _).bind fun height => ?_
  refine (reads_of _).bind fun owner => (reads_of _).bind fun escrow => ?_
  refine (Handler.logs_ask _ (hnode.account _ _)).bind fun account => ?_
  refine (Handler.logs_ask _ (hnode.block _)).bind fun block => ?_
  dsimp only
  split
  next =>
    refine (Handler.logs_ask _ (hnode.delegations _ _)).bind fun delegations => ?_
    exact (Handler.logs_ask _ (hnode.debondingDelegations _ _)).bind_silent fun _ => silent_pure _
  next => exact logs_pure reads_nil _

theorem reads_constructionMetadata (h : gateway.Recorded log)
    (request : ConstructionMetadataRequest) :
    Logs log Reads (gateway.constructionMetadata request) := by
  refine reads_node_bind h fun node hnode => ?_
  refine (reads_checkNetwork h _).bind fun _ => (reads_of _).bind fun owner => ?_
  exact (Handler.logs_ask _ (hnode.nextNonce _ _)).bind_silent fun _ => silent_pure _

theorem reads_networkOptions (h : gateway.Recorded log) (request : NetworkRequest) :
    Logs log Reads (gateway.networkOptions request) := by
  refine (reads_checkNetwork h _).bind fun _ => ?_
  refine Logs.bind_silent ?_ fun _ => silent_pure _
  cases gateway with
  | online node => exact (Handler.logs_ask _ (h node rfl).status).bind_silent fun _ => silent_pure _
  | offline chainId => exact logs_pure reads_nil _

end

theorem reads_block (h : gateway.Recorded log) (request : BlockRequest) :
    Logs log Reads (gateway.block request) := by
  refine reads_node_bind h fun node hnode => ?_
  refine (reads_checkNetwork h _).bind fun _ => (reads_of _).bind fun height => ?_
  refine (Handler.logs_ask _ (hnode.block _)).bind fun block => ?_
  refine (Handler.logs_ask _ (hnode.transactions _)).bind fun content => ?_
  exact (Handler.logs_ask _ (hnode.stakingEvents _)).bind_silent fun _ => silent_pure _

theorem reads_mempool (h : gateway.Recorded log) (request : NetworkRequest) :
    Logs log Reads (gateway.mempool request) := by
  refine reads_node_bind h fun node hnode => (reads_checkNetwork h _).bind fun _ => ?_
  exact (Handler.logs_ask _ hnode.unconfirmedTransactions).bind_silent fun _ => silent_pure _

theorem reads_mempoolTransaction (h : gateway.Recorded log) (request : MempoolTransactionRequest) :
    Logs log Reads (gateway.mempoolTransaction request) := by
  refine reads_node_bind h fun node hnode => (reads_checkNetwork h _).bind fun chainId => ?_
  refine (Handler.logs_ask _ hnode.unconfirmedTransactions).bind_silent fun raws => ?_
  dsimp only
  split
  next => exact logs_throw (P := Silent) rfl _
  next raw =>
    split
    next => exact logs_throw (P := Silent) rfl _
    next =>
      split
      next => exact silent_pure _
      next => exact logs_throw (P := Silent) rfl _

theorem reads_networkStatus (h : gateway.Recorded log) (request : NetworkRequest) :
    Logs log Reads (gateway.networkStatus request) := by
  refine reads_node_bind h fun node hnode => (reads_checkNetwork h _).bind fun _ => ?_
  exact (Handler.logs_ask _ hnode.status).bind_silent fun _ => silent_pure _

/-- No handler submits anything but that of submissions. -/
theorem reads_handle (h : gateway.Recorded log) {request : Request}
    (hrequest : ∀ submission, request ≠ .constructionSubmit submission) :
    Logs log Reads (gateway.handle request) := by
  have hchecks {α : Type} (network : Option NetworkIdentifier)
      (answer : String → Except Failure α) :
      Logs log Reads (gateway.checkNetwork network >>= fun chainId =>
        Handler.of (answer chainId)) :=
    (reads_checkNetwork h network).bind fun _ => reads_of _
  have hrefuses {α : Type} (network : Option NetworkIdentifier) (reason : Failure) :
      Logs log Reads (gateway.node >>= fun _ => gateway.checkNetwork network >>= fun _ =>
        (throw reason : Handler m α)) :=
    reads_node_bind h fun _ _ => (reads_checkNetwork h network).bind fun _ => logs_throw reads_nil _
  cases request with
  | constructionSubmit request => exact (hrequest request rfl).elim
  | accountBalance request => exact logs_inJson (reads_accountBalance h request)
  | accountCoins request => exact logs_inJson (hrefuses _ _)
  | block request => exact logs_inJson (reads_block h request)
  | blockTransaction request => exact logs_inJson (hrefuses _ _)
  | constructionCombine request =>
      refine logs_inJson ((reads_checkNetwork h _).bind fun _ => ?_)
      exact (reads_of _).bind_silent fun _ => silent_pure _
  | constructionDerive request => exact logs_inJson (hchecks _ _)
  | constructionHash request =>
      refine logs_inJson ((reads_checkNetwork h _).bind fun _ => ?_)
      exact (reads_of _).bind_silent fun _ => silent_pure _
  | constructionMetadata request => exact logs_inJson (reads_constructionMetadata h request)
  | constructionParse request => exact logs_inJson (hchecks _ _)
  | constructionPayloads request => exact logs_inJson (hchecks _ _)
  | constructionPreprocess request => exact logs_inJson (hchecks _ _)
  | mempool request => exact logs_inJson (reads_mempool h request)
  | mempoolTransaction request => exact logs_inJson (reads_mempoolTransaction h request)
  | networkList request =>
      have hchain : Logs log Reads gateway.chainId := (logs_chainId h).mono fun _ => Opens.reads
      refine logs_inJson (Logs.bind_silent ?_ fun _ => silent_pure _)
      exact hchain.bind_silent fun _ => silent_pure _
  | networkOptions request => exact logs_inJson (reads_networkOptions h request)
  | networkStatus request => exact logs_inJson (reads_networkStatus h request)

end Gateway

end

end StakingGateway
