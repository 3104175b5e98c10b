import StakingGateway.Proofs.Node.Exchange

/-!
# What a question sends

A question to the node is told by the requests that it adds to a record (`Logs`), however it ends.
Asking for the chain sends at most what opens a connection.  Any other question may have to open one
as well, and then sends one request of its own at most (`Client.logs_call`).  Only the submission of
a transaction writes (`Client.recorded_node`).

Others use the client too.  What they have done to it and to the node by the time of a question is
left open, and it adds nothing to the record (`Node.Recorded.amid`).
-/

namespace StakingGateway

/-- The requests that open a connection, as far as they are sent. -/
def Opens (asked : List Exchange) : Prop :=
  asked.map (·.method) <+: [.getStatus, .getChainContext]

def Silent (asked : List Exchange) : Prop :=
  asked = []

def Reads (asked : List Exchange) : Prop :=
  ∀ exchange ∈ asked, exchange.method ≠ .submitTxNoWait

/-- A connection is opened if need be, and the request of a method is sent at most once. -/
def Calls (method : NodeMethod) (request : List UInt8) (asked : List Exchange) : Prop :=
  ∃ opening sent, asked = opening ++ sent ∧ Opens opening ∧
    (sent = [] ∨ ∃ answer, sent = [⟨method, request, answer⟩])

theorem opens_nil : Opens [] :=
  List.nil_prefix

theorem Opens.reads {asked : List Exchange} (h : Opens asked) : Reads asked := by
  intro exchange hexchange hmethod
  have hmem := h.subset (List.mem_map_of_mem (f := (·.method)) hexchange)
  rw [hmethod] at hmem
  simp at hmem

theorem reads_nil : Reads [] :=
  fun _ h => absurd h List.not_mem_nil

theorem Reads.append {asked more : List Exchange} (h : Reads asked) (h' : Reads more) :
    Reads (asked ++ more) := by
  intro exchange hexchange
  rcases List.mem_append.mp hexchange with hmem | hmem
  · exact h exchange hmem
  · exact h' exchange hmem

theorem Calls.reads {method : NodeMethod} {request : List UInt8} {asked : List Exchange}
    (h : Calls method request asked) (hmethod : method ≠ .submitTxNoWait) : Reads asked := by
  obtain ⟨opening, sent, rfl, hopening, rfl | ⟨answer, rfl⟩⟩ := h
  · exact hopening.reads.append reads_nil
  · refine hopening.reads.append fun exchange hexchange => ?_
    rwa [List.mem_singleton.mp hexchange]

/-! ## Records -/

section

variable {m : Type → Type} [Monad m] {τ : Type} [Stateful m τ] {ε ε' α β : Type}
  (log : τ → List Exchange)

/-- Every run of the action adds requests of a kind to the record. -/
def Logs (P : List Exchange → Prop) (x : ExceptT ε m α) : Prop :=
  ∀ t, ∃ asked, log (Stateful.act x.run t).2 = log t ++ asked ∧ P asked

variable {log} {P Q : List Exchange → Prop}

theorem Logs.mono {x : ExceptT ε m α} (h : Logs log P x) (hPQ : ∀ asked, P asked → Q asked) :
    Logs log Q x := by
  intro t
  obtain ⟨asked, hlog, hasked⟩ := h t
  exact ⟨asked, hlog, hPQ asked hasked⟩

theorem Logs.prefix_of_succeeds {x : ExceptT ε m α} (h : Logs log P x) {t t' : τ} {a : α}
    (hsucceeds : Succeeds x t a t') : log t <+: log t' := by
  obtain ⟨asked, hlog, _⟩ := h t
  rw [show Stateful.act x.run t = _ from hsucceeds] at hlog
  exact ⟨asked, hlog.symm⟩

theorem logs_of_act_eq {x : ExceptT ε m α} (hP : P [])
    (h : ∀ t, (Stateful.act x.run t).2 = t) : Logs log P x := by
  intro t
  exact ⟨[], by rw [h, List.append_nil], hP⟩

theorem logs_pure (hP : P []) (a : α) : Logs log P (pure a : ExceptT ε m α) :=
  logs_of_act_eq hP fun t => congrArg Prod.snd (Stateful.act_pure _ t)

theorem silent_pure (a : α) : Logs log Silent (pure a : ExceptT ε m α) :=
  logs_pure (P := Silent) rfl a

theorem logs_throw (hP : P []) (reason : ε) : Logs log P (throw reason : ExceptT ε m α) :=
  logs_of_act_eq hP fun t => congrArg Prod.snd (Stateful.act_pure _ t)

/-- Requests of two actions in a row; the second need not take place. -/
theorem Logs.bind_of {R : List Exchange → Prop} {x : ExceptT ε m α} {f : α → ExceptT ε m β}
    (hx : Logs log P x) (hf : ∀ a, Logs log Q (f a)) (hleft : ∀ asked, P asked → R asked)
    (happend : ∀ asked more, P asked → Q more → R (asked ++ more)) : Logs log R (x >>= f) := by
  intro t
  obtain ⟨asked, hlog, hasked⟩ := hx t
  rcases hrun : Stateful.act x.run t with ⟨_ | reason | a, next⟩
  · rw [hrun] at hlog
    rw [act_run_bind_of_abort hrun]
    exact ⟨asked, hlog, hleft asked hasked⟩
  · rw [hrun] at hlog
    rw [act_run_bind_of_error hrun]
    exact ⟨asked, hlog, hleft asked hasked⟩
  · rw [hrun] at hlog
    rw [act_run_bind_of_ok hrun]
    obtain ⟨more, hmore, hadded⟩ := hf a next
    refine ⟨asked ++ more, ?_, happend asked more hasked hadded⟩
    rw [hmore, hlog, List.append_assoc]

theorem Logs.bind {x : ExceptT ε m α} {f : α → ExceptT ε m β} (hx : Logs log Reads x)
    (hf : ∀ a, Logs log Reads (f a)) : Logs log Reads (x >>= f) :=
  hx.bind_of hf (fun _ h => h) fun _ _ => Reads.append

theorem Logs.bind_silent {x : ExceptT ε m α} {f : α → ExceptT ε m β} (hx : Logs log P x)
    (hf : ∀ a, Logs log Silent (f a)) : Logs log P (x >>= f) := by
  refine hx.bind_of hf (fun _ h => h) fun asked more h hmore => ?_
  rwa [show more = [] from hmore, List.append_nil]

theorem Logs.silent_bind {x : ExceptT ε m α} {f : α → ExceptT ε m β} (hx : Logs log Silent x)
    (hP : P []) (hf : ∀ a, Logs log P (f a)) : Logs log P (x >>= f) := by
  refine hx.bind_of hf (fun asked hasked => ?_) fun asked more hasked h => ?_
  · rwa [show asked = [] from hasked]
  · rwa [show asked = [] from hasked, List.nil_append]

end

/-! ## Clients -/

namespace Client

variable {σ α : Type} (transport : Transport (StateM σ)) (address : String)

def record (state : ClientState × σ × List Exchange) : List Exchange :=
  state.2.2

theorem Connects.opens {client client' : ClientState} {outcome : Except NodeError Connection}
    {asked : List NodeMethod} (h : Connects client outcome client' asked) :
    asked <+: [.getStatus, .getChainContext] := by
  cases h <;> simp

theorem ends_connection : Ends (Client.connection transport.recorded address) := by
  rintro ⟨client, node, log⟩ ⟨client', node', log'⟩ haborts
  obtain ⟨_, _, hending, -⟩ := connects_of_connection transport address haborts
  cases hending

theorem logs_connection : Logs record Opens (Client.connection transport.recorded address) := by
  rintro ⟨client, node, log⟩
  obtain ⟨_, asked, -, hlog, hconnects⟩ := connects_of_connection transport address rfl
  exact ⟨asked, hlog, hconnects.opens⟩

/-- A call sends its own request once at most, on a connection that is there or is opened for it. -/
theorem logs_call (method : NodeMethod) (request : Cbor.Item) (read : Cbor.Item → Option α) :
    Logs record (Calls method request.encode)
      (call transport.recorded address method request read) := by
  rintro ⟨client, node, log⟩
  rcases hconnection : Stateful.act (Client.connection transport.recorded address).run
    (client, node, log) with ⟨told, client₁, node₁, log₁⟩
  obtain ⟨reason | connection, opening, rfl, rfl, hconnects⟩ :=
    connects_of_connection transport address hconnection
  · rw [call, act_run_bind_of_error hconnection]
    exact ⟨opening, rfl, opening, [], (List.append_nil _).symm, hconnects.opens, .inl rfl⟩
  · rw [act_call_of_connection _ address hconnection, exchange_recorded]
    rcases exchange transport method request read node₁ with ⟨status | value, told⟩
    · exact ⟨_, List.append_assoc .., opening, _, rfl, hconnects.opens, .inr ⟨_, rfl⟩⟩
    · exact ⟨_, List.append_assoc .., opening, _, rfl, hconnects.opens, .inr ⟨_, rfl⟩⟩

theorem ends_call (method : NodeMethod) (request : Cbor.Item) (read : Cbor.Item → Option α) :
    Ends (call transport.recorded address method request read) := by
  rintro ⟨client, node, log⟩ finish haborts
  rcases hconnection : Stateful.act (Client.connection transport.recorded address).run
    (client, node, log) with ⟨told, client₁, node₁, log₁⟩
  obtain ⟨reason | connection, _, rfl, -, -⟩ :=
    connects_of_connection transport address hconnection
  · rw [Aborts, call, act_run_bind_of_error hconnection] at haborts
    cases haborts
  · rw [Aborts, act_call_of_connection _ address hconnection] at haborts
    split at haborts
    next => cases haborts
    next => cases haborts

end Client

/-! ## Nodes -/

section

variable {m : Type → Type} [Monad m] {τ : Type} [Stateful m τ]

/-- What the questions to a node add to a record.  The one for its chain is never cut short. -/
structure Node.Recorded (node : Node m) (log : τ → List Exchange) : Prop where
  chainId : Logs log Opens node.chainId
  ends_chainId : Ends node.chainId
  block : ∀ height, Logs log Reads (node.block height)
  account : ∀ height owner, Logs log Reads (node.account height owner)
  delegations : ∀ height owner, Logs log Reads (node.delegations height owner)
  debondingDelegations : ∀ height owner, Logs log Reads (node.debondingDelegations height owner)
  transactions : ∀ height, Logs log Reads (node.transactions height)
  unconfirmedTransactions : Logs log Reads node.unconfirmedTransactions
  stakingEvents : ∀ height, Logs log Reads (node.stakingEvents height)
  submit : ∀ signed : SignedTransaction,
    Logs log (Calls .submitTxNoWait signed.encode) (node.submit signed)
  nextNonce : ∀ height owner, Logs log Reads (node.nextNonce height owner)
  status : Logs log Reads node.status

/-- A node that is asked amid what others do: before each question they have acted. -/
def Node.amid (node : Node m) (others : m Unit) : Node m where
  chainId := do others; node.chainId
  block height := do others; node.block height
  account height owner := do others; node.account height owner
  delegations height owner := do others; node.delegations height owner
  debondingDelegations height owner := do others; node.debondingDelegations height owner
  transactions height := do others; node.transactions height
  unconfirmedTransactions := do others; node.unconfirmedTransactions
  stakingEvents height := do others; node.stakingEvents height
  submit signed := do others; node.submit signed
  nextNonce height owner := do others; node.nextNonce height owner
  status := do others; node.status

theorem logs_amid {log : τ → List Exchange} {P : List Exchange → Prop} {ε α : Type} {others : m Unit}
    (hothers : ∀ t, ∃ t', Stateful.act others t = (some (), t') ∧ log t' = log t)
    {question : ExceptT ε m α} (h : Logs log P question) :
    Logs log P (do (liftM others : ExceptT ε m Unit); question) := by
  intro t
  obtain ⟨t', hact, hsilent⟩ := hothers t
  obtain ⟨asked, hlog, hasked⟩ := h t'
  rw [hsilent] at hlog
  rw [act_run_bind_of_ok (succeeds_lift_iff.mpr hact)]
  exact ⟨asked, hlog, hasked⟩

theorem ends_amid {ε α : Type} {others : m Unit}
    (hothers : ∀ t, ∃ t', Stateful.act others t = (some (), t')) {question : ExceptT ε m α}
    (h : Ends question) : Ends (do (liftM others : ExceptT ε m Unit); question) := by
  refine Ends.bind (fun t t' haborts => ?_) fun _ => h
  obtain ⟨_, hact⟩ := hothers t
  cases hact.symm.trans (aborts_lift_iff.mp haborts)

theorem Node.Recorded.amid {node : Node m} {log : τ → List Exchange} (h : node.Recorded log)
    {others : m Unit}
    (hothers : ∀ t, ∃ t', Stateful.act others t = (some (), t') ∧ log t' = log t) :
    (node.amid others).Recorded log where
  chainId := logs_amid hothers h.chainId
  ends_chainId := ends_amid (fun t => (hothers t).imp fun _ => And.left) h.ends_chainId
  block height := logs_amid hothers (h.block height)
  account height owner := logs_amid hothers (h.account height owner)
  delegations height owner := logs_amid hothers (h.delegations height owner)
  debondingDelegations height owner := logs_amid hothers (h.debondingDelegations height owner)
  transactions height := logs_amid hothers (h.transactions height)
  unconfirmedTransactions := logs_amid hothers h.unconfirmedTransactions
  stakingEvents height := logs_amid hothers (h.stakingEvents height)
  submit signed := logs_amid hothers (h.submit signed)
  nextNonce height owner := logs_amid hothers (h.nextNonce height owner)
  status := logs_amid hothers h.status

end

namespace Client

variable {σ α : Type} (transport : Transport (StateM σ)) (address : String)

theorem reads_call {method : NodeMethod} (hmethod : method ≠ .submitTxNoWait)
    (request : Cbor.Item) (read : Cbor.Item → Option α) :
    Logs record Reads (call transport.recorded address method request read) :=
  (logs_call transport address method request read).mono fun _ h => h.reads hmethod

theorem reads_block (height : Int64) :
    Logs record Reads (block transport.recorded address height) := by
  refine ((logs_connection transport address).mono fun _ => Opens.reads).bind fun connection => ?_
  refine (reads_call transport address (by decide) _ _).bind fun block => ?_
  split
  next => exact logs_of_act_eq reads_nil fun _ => rfl
  split
  next => exact logs_pure reads_nil _
  next => exact (reads_call transport address (by decide) _ _).bind_silent fun _ => silent_pure _

/-- Of the questions to a client only the submission of a transaction submits anything, and it does
so once at most. -/
theorem recorded_node : (node transport.recorded address).Recorded record where
  chainId := (logs_connection transport address).bind_silent fun _ => silent_pure _
  ends_chainId := (ends_connection transport address).bind fun _ => ends_pure _
  block := reads_block transport address
  account height owner := reads_call transport address (by decide) _ _
  delegations height owner :=
    (reads_call transport address (by decide) _ _).bind_silent fun _ => silent_pure _
  debondingDelegations height owner :=
    (reads_call transport address (by decide) _ _).bind_silent fun _ => silent_pure _
  transactions height := reads_call transport address (by decide) _ _
  unconfirmedTransactions :=
    (reads_call transport address (by decide) _ _).bind_silent fun _ => silent_pure _
  stakingEvents height :=
    (reads_call transport address (by decide) _ _).bind_silent fun _ => silent_pure _
  submit signed := logs_call transport address .submitTxNoWait signed.toItem _
  nextNonce height owner := reads_call transport address (by decide) _ _
  status := reads_call transport address (by decide) _ _

end Client

end StakingGateway
