import StakingGateway.Proofs.Gateway.Admission

/-!
# Gateways without a node

Six requests of construction take nothing but the name of the chain.  What is asked of the gateway
for them is that name alone, so two gateways that are told the same name end alike on all of them,
failures included (`constructsAlike_of_chainId`).  Nine requests take a node, and without one they
are refused before anything in them is looked at (`refusesOffline_offline`).

Together: transactions can be constructed away from the node, and are the same there.
-/

namespace StakingGateway

open Api

section

variable {m n : Type → Type} [Monad m] [Monad n] {σ τ : Type} [Stateful m σ] [Stateful n τ]
  {ε α β : Type} {s : σ} {t : τ}

/-- Two actions end alike, each run from a state of its own: with the same value or the same failure,
or both cut short. -/
def EndsAlike (x : ExceptT ε m α) (s : σ) (y : ExceptT ε n α) (t : τ) : Prop :=
  (Stateful.act x.run s).1 = (Stateful.act y.run t).1

theorem endsAlike_pure (a : α) :
    EndsAlike (pure a : ExceptT ε m α) s (pure a : ExceptT ε n α) t := by
  change (Stateful.act (pure (Except.ok a)) s).1 = (Stateful.act (pure (Except.ok a)) t).1
  rw [Stateful.act_pure, Stateful.act_pure]

theorem endsAlike_throw (reason : ε) :
    EndsAlike (throw reason : ExceptT ε m α) s (throw reason : ExceptT ε n α) t := by
  change (Stateful.act (pure (Except.error reason)) s).1
    = (Stateful.act (pure (Except.error reason)) t).1
  rw [Stateful.act_pure, Stateful.act_pure]

theorem EndsAlike.bind {x : ExceptT ε m α} {y : ExceptT ε n α} (h : EndsAlike x s y t)
    {f : α → ExceptT ε m β} {g : α → ExceptT ε n β}
    (hfg : ∀ a (s : σ) (t : τ), EndsAlike (f a) s (g a) t) :
    EndsAlike (x >>= f) s (y >>= g) t := by
  unfold EndsAlike at h ⊢
  rcases hx : Stateful.act x.run s with ⟨_ | reason | a, s'⟩
  · have hy : Stateful.act y.run t = (none, (Stateful.act y.run t).2) :=
      Prod.ext (h.symm.trans (congrArg Prod.fst hx)) rfl
    rw [act_run_bind_of_abort hx, act_run_bind_of_abort hy]
  · have hy : Stateful.act y.run t = (some (.error reason), (Stateful.act y.run t).2) :=
      Prod.ext (h.symm.trans (congrArg Prod.fst hx)) rfl
    rw [act_run_bind_of_error hx, act_run_bind_of_error hy]
  · have hy : Stateful.act y.run t = (some (.ok a), (Stateful.act y.run t).2) :=
      Prod.ext (h.symm.trans (congrArg Prod.fst hx)) rfl
    rw [act_run_bind_of_ok hx, act_run_bind_of_ok hy]
    exact hfg a _ _

namespace Handler

theorem endsAlike_of (answer : Except Failure α) :
    EndsAlike (Handler.of answer : Handler m α) s (Handler.of answer : Handler n α) t := by
  unfold EndsAlike
  rw [act_of, act_of]

theorem endsAlike_of_bind (answer : Except Failure α) {f : α → Handler m β} {g : α → Handler n β}
    (hfg : ∀ a, EndsAlike (f a) s (g a) t) :
    EndsAlike (Handler.of answer >>= f) s (Handler.of answer >>= g) t := by
  unfold EndsAlike at hfg ⊢
  cases answer with
  | error failure =>
      rw [act_run_bind_of_error (act_of _ s), act_run_bind_of_error (act_of _ t)]
  | ok a =>
      rw [act_run_bind_of_ok (act_of _ s), act_run_bind_of_ok (act_of _ t)]
      exact hfg a

end Handler

namespace Gateway

section

variable {gateway : Gateway m} {other : Gateway n}

theorem endsAlike_checkNetwork (h : EndsAlike gateway.chainId s other.chainId t)
    (network : Option NetworkIdentifier) :
    EndsAlike (gateway.checkNetwork network) s (other.checkNetwork network) t := by
  cases network with
  | none => exact endsAlike_throw _
  | some network =>
      refine Handler.endsAlike_of_bind _ fun _ => h.bind fun chainId s t => ?_
      split
      next => exact (endsAlike_throw _).bind fun _ _ _ => endsAlike_pure _
      next => exact endsAlike_pure _

/-- Two gateways end alike on all that constructs a transaction and needs no node. -/
structure ConstructsAlike [Suite] (gateway : Gateway m) (s : σ) (other : Gateway n) (t : τ) :
    Prop where
  constructionDerive : ∀ request,
    EndsAlike (gateway.constructionDerive request) s (other.constructionDerive request) t
  constructionPreprocess : ∀ request,
    EndsAlike (gateway.constructionPreprocess request) s (other.constructionPreprocess request) t
  constructionPayloads : ∀ request,
    EndsAlike (gateway.constructionPayloads request) s (other.constructionPayloads request) t
  constructionCombine : ∀ request,
    EndsAlike (gateway.constructionCombine request) s (other.constructionCombine request) t
  constructionHash : ∀ request,
    EndsAlike (gateway.constructionHash request) s (other.constructionHash request) t
  constructionParse : ∀ request,
    EndsAlike (gateway.constructionParse request) s (other.constructionParse request) t

/-- Only the name of the chain tells the gateways apart. -/
theorem constructsAlike_of_chainId [Suite] (h : EndsAlike gateway.chainId s other.chainId t) :
    gateway.ConstructsAlike s other t where
  constructionDerive _ :=
    (endsAlike_checkNetwork h _).bind fun _ _ _ => Handler.endsAlike_of _
  constructionPreprocess _ :=
    (endsAlike_checkNetwork h _).bind fun _ _ _ => Handler.endsAlike_of _
  constructionPayloads _ :=
    (endsAlike_checkNetwork h _).bind fun _ _ _ => Handler.endsAlike_of _
  constructionCombine _ :=
    (endsAlike_checkNetwork h _).bind fun _ _ _ =>
      (Handler.endsAlike_of _).bind fun _ _ _ => endsAlike_pure _
  constructionHash _ :=
    (endsAlike_checkNetwork h _).bind fun _ _ _ =>
      (Handler.endsAlike_of _).bind fun _ _ _ => endsAlike_pure _
  constructionParse _ :=
    (endsAlike_checkNetwork h _).bind fun _ _ _ => Handler.endsAlike_of _

end

/-- An action is refused for want of a node, and changes nothing. -/
def WantsNode (x : Handler m α) : Prop :=
  ∀ s, Stateful.act x.run s = (some (.error ⟨.notAvailableInOfflineMode, none⟩), s)

/-- A gateway refuses all that takes a node, whatever is asked for. -/
structure RefusesOffline [Suite] (gateway : Gateway m) : Prop where
  accountBalance : ∀ request, WantsNode (gateway.accountBalance request)
  accountCoins : ∀ request, WantsNode (gateway.accountCoins request)
  block : ∀ request, WantsNode (gateway.block request)
  blockTransaction : ∀ request, WantsNode (gateway.blockTransaction request)
  constructionMetadata : ∀ request, WantsNode (gateway.constructionMetadata request)
  constructionSubmit : ∀ request, WantsNode (gateway.constructionSubmit request)
  mempool : ∀ request, WantsNode (gateway.mempool request)
  mempoolTransaction : ∀ request, WantsNode (gateway.mempoolTransaction request)
  networkStatus : ∀ request, WantsNode (gateway.networkStatus request)

/-- The node is asked for before the request is looked at. -/
theorem refusesOffline_offline [Suite] (chainId : String) :
    (Gateway.offline chainId : Gateway m).RefusesOffline where
  accountBalance _ := act_node_bind_offline chainId _
  accountCoins _ := act_node_bind_offline chainId _
  block _ := act_node_bind_offline chainId _
  blockTransaction _ := act_node_bind_offline chainId _
  constructionMetadata _ := act_node_bind_offline chainId _
  constructionSubmit _ := act_node_bind_offline chainId _
  mempool _ := act_node_bind_offline chainId _
  mempoolTransaction _ := act_node_bind_offline chainId _
  networkStatus _ := act_node_bind_offline chainId _

theorem endsAlike_chainId_offline {node : Node m} {chainId : String} {s' : σ}
    (h : Succeeds node.chainId s chainId s') (t : τ) :
    EndsAlike (Gateway.online node).chainId s (Gateway.offline chainId : Gateway n).chainId t := by
  have hasked : Succeeds (Gateway.online node).chainId s chainId s' :=
    Handler.succeeds_ask_iff.mpr h
  exact (congrArg Prod.fst hasked).trans (congrArg Prod.fst (Stateful.act_pure _ t)).symm

/-- Without a node, a gateway constructs as one does whose node is of the chain, and refuses the
rest. -/
theorem constructsAlike_offline [Suite] {node : Node m} {chainId : String} {s' : σ}
    (h : Succeeds node.chainId s chainId s') (t : τ) :
    (Gateway.online node).ConstructsAlike s (.offline chainId : Gateway n) t ∧
      (Gateway.offline chainId : Gateway n).RefusesOffline :=
  ⟨constructsAlike_of_chainId (endsAlike_chainId_offline h t), refusesOffline_offline chainId⟩

end Gateway

end

/-- The node is asked through a client that has no connection yet. -/
theorem constructsAlike_offline_takingNode :
    let node := Client.node takingNode "node:1"
    let offline : Gateway (StateM Unit) := .offline "chain"
    ∃ state, Succeeds node.chainId (.initial, ()) "chain" state ∧
      (Gateway.online node).ConstructsAlike (.initial, ()) offline () ∧
      offline.RefusesOffline := by
  intro node offline
  have hchain : Succeeds node.chainId (.initial, ()) "chain" _ := rfl
  exact ⟨_, hchain, Gateway.constructsAlike_offline hchain ()⟩

end StakingGateway
