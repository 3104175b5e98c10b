import StakingGateway.Node.Client
import StakingGateway.Proofs.Stateful

/-!
# Exchanges with a node

The node may be anything that a request can change: a transport over `StateM`.  What a client does
is told by the requests it sends (`Transport.recorded`).  Asking for the connection can go five ways
(`Client.connects_of_connection`), and with the connection a call is one exchange more
(`Client.act_call_of_connection`).
-/

namespace StakingGateway

open Cbor

namespace ClientState

variable (client : ClientState) (id : UInt64)

@[simp]
theorem dials_drop : (client.drop id).dials = client.dials := by
  rw [drop]
  split <;> rfl

theorem connection_drop_eq_some_iff {kept : Connection} :
    (client.drop id).connection = some kept ↔
      client.connection = some kept ∧ kept.id ≠ id := by
  obtain ⟨_ | connection, dials⟩ := client
  · simp [drop]
  · rcases eq_or_ne connection.id id with hid | hid
    · simp +contextual [drop, hid, eq_comm (a := connection)]
    · simp +contextual [drop, hid, eq_comm (a := connection)]

theorem drop_eq_self (h : ∀ kept, client.connection = some kept → kept.id ≠ id) :
    client.drop id = client := by
  rw [drop, if_neg]
  rw [Option.any_eq_true]
  rintro ⟨kept, hkept, hid⟩
  exact h kept hkept (of_decide_eq_true hid)

end ClientState

structure Exchange where
  method : NodeMethod
  request : List UInt8
  answer : Except Status (List UInt8)

def Transport.recorded {σ : Type} (transport : Transport (StateM σ)) :
    Transport (StateM (σ × List Exchange)) where
  dial := fun (node, log) =>
    let (outcome, node) := transport.dial node
    (outcome, (node, log))
  send method request := fun (node, log) =>
    let (answer, node) := transport.send method request node
    (answer, (node, log ++ [⟨method, request, answer⟩]))

namespace Client

/-- What an answer is read as; one that cannot be read counts as a failure of the call. -/
def readAnswer {α : Type} (read : Item → Option α) :
    Except Status (List UInt8) → Except Status α
  | .error status => .error status
  | .ok answer =>
    match decodeAs read answer with
    | .ok value => .ok value
    | .error reason => .error ⟨.internal, "CBOR decode failed: " ++ reason.message⟩

theorem exchange_eq {m : Type → Type} [Monad m] [LawfulMonad m] {α : Type}
    (transport : Transport m) (method : NodeMethod) (request : Item) (read : Item → Option α) :
    exchange transport method request read =
      readAnswer read <$> transport.send method request.encode := by
  rw [exchange, map_eq_pure_bind]
  refine bind_congr fun answer => ?_
  cases answer with
  | error status => rfl
  | ok answer =>
      simp only [readAnswer]
      cases decodeAs read answer <;> rfl

variable {σ α : Type} (transport : Transport (StateM σ)) (address : String)

theorem exchange_apply (method : NodeMethod) (request : Item) (read : Item → Option α) (node : σ) :
    exchange transport method request read node =
      (transport.send method request.encode node).map (readAnswer read) id := by
  rw [exchange_eq]
  rfl

theorem dial_recorded (node : σ) (log : List Exchange) :
    transport.recorded.dial (node, log) = (transport.dial node).map id fun node => (node, log) :=
  rfl

theorem exchange_recorded (method : NodeMethod) (request : Item) (read : Item → Option α)
    (node : σ) (log : List Exchange) :
    exchange transport.recorded method request read (node, log) =
      (exchange transport method request read node).map id fun node' =>
        (node',
          log ++ [⟨method, request.encode, (transport.send method request.encode node).1⟩]) := by
  rw [exchange_apply, exchange_apply]
  rfl

/-! ## Actions -/

theorem act_get (client : ClientState) (node : σ) :
    Stateful.act (get : Action (StateM σ) ClientState).run (client, node) =
      (some (.ok client), (client, node)) :=
  rfl

theorem act_lift (x : StateM σ α) (client : ClientState) (node : σ) :
    Stateful.act (liftM x : Action (StateM σ) α).run (client, node) =
      (some (.ok (x node).1), (client, (x node).2)) :=
  rfl

theorem act_dial (client : ClientState) (node : σ) :
    Stateful.act (dial transport address).run (client, node) =
      (transport.dial node).map (fun outcome => some (outcome.mapError (.connect address)))
        fun node => (client, node) := by
  rw [dial, act_run_bind_of_ok (act_lift ..)]
  rcases transport.dial node with ⟨reason | _, node⟩
  · rfl
  · rfl

theorem act_bootstrap (method : NodeMethod) (read : Item → Option α) (client : ClientState)
    (node : σ) :
    Stateful.act (bootstrap transport method read).run (client, node) =
      (exchange transport method .null read node).map
        (fun outcome => some (outcome.mapError .ofStatus)) fun node => (client, node) := by
  rw [bootstrap, act_run_bind_of_ok (act_lift ..)]
  rcases exchange transport method .null read node with ⟨status | value, node⟩
  · rfl
  · rfl

theorem act_connection_of_some {client : ClientState} {connection : Connection}
    (h : client.connection = some connection) (node : σ) :
    Stateful.act (Client.connection transport address).run (client, node) =
      (some (.ok connection), (client, node)) := by
  rw [Client.connection, act_run_bind_of_ok (act_get client node), h]
  rfl

/-- Without a connection, one is made: the node is dialled and asked twice. -/
theorem act_connection_of_none {client : ClientState} (h : client.connection = none) (node : σ) :
    Stateful.act (Client.connection transport address).run (client, node) =
      match transport.dial node with
      | (.error reason, node) => (some (.error (.connect address reason)), (client, node))
      | (.ok (), node) =>
        match exchange transport .getStatus .null NodeStatus.ofItem? node with
        | (.error status, node) => (some (.error (.ofStatus status)), (client, node))
        | (.ok status, node) =>
          match exchange transport .getChainContext .null Item.asText? node with
          | (.error status, node) => (some (.error (.ofStatus status)), (client, node))
          | (.ok chainId, node) =>
            let connection := client.next chainId status.consensus.genesisHeight
            (some (.ok connection), (client.keep connection, node)) := by
  rw [Client.connection, act_run_bind_of_ok (act_get client node), h]
  have hdial := act_dial transport address client node
  generalize transport.dial node = dialed at hdial ⊢
  obtain ⟨reason | ⟨⟩, dialed⟩ := dialed
  · exact act_run_bind_of_error hdial _
  have hstatus := act_bootstrap transport .getStatus NodeStatus.ofItem? client dialed
  refine (act_run_bind_of_ok hdial _).trans ?_
  dsimp only
  generalize exchange transport .getStatus .null NodeStatus.ofItem? dialed = asked at hstatus ⊢
  obtain ⟨reason | status, asked⟩ := asked
  · exact act_run_bind_of_error hstatus _
  have hchain := act_bootstrap transport .getChainContext Item.asText? client asked
  refine (act_run_bind_of_ok hstatus _).trans ?_
  dsimp only
  generalize exchange transport .getChainContext .null Item.asText? asked = told at hchain ⊢
  obtain ⟨reason | chainId, told⟩ := told
  · exact act_run_bind_of_error hchain _
  exact (act_run_bind_of_ok hchain _).trans rfl

theorem act_call_of_connection {client client' : ClientState} {node node' : σ}
    {connection : Connection}
    (h : Succeeds (Client.connection transport address) (client, node) connection (client', node'))
    (method : NodeMethod) (request : Item) (read : Item → Option α) :
    Stateful.act (call transport address method request read).run (client, node) =
      match exchange transport method request read node' with
      | (.ok value, node) => (some (.ok value), (client', node))
      | (.error status, node) => (some (.error (.ofStatus status)),
        (if status.code = .unavailable then client'.drop connection.id else client', node)) := by
  rw [call, act_run_bind_of_ok h, act_run_bind_of_ok (act_lift ..)]
  rcases exchange transport method request read node' with ⟨status | value, node⟩
  · dsimp only
    split
    next => rfl
    next => rfl
  · rfl

/-! ## Recorded requests -/

/-- How asking for the connection can go: what comes of it, the client afterwards, and what the node
is asked. -/
inductive Connects (client : ClientState) :
    Except NodeError Connection → ClientState → List NodeMethod → Prop
  | kept {connection : Connection} (hsome : client.connection = some connection) :
    Connects client (.ok connection) client []
  | dialFails (hnone : client.connection = none) (address reason : String) :
    Connects client (.error (.connect address reason)) client []
  | statusFails (hnone : client.connection = none) (reason : Status) :
    Connects client (.error (.ofStatus reason)) client [.getStatus]
  | chainFails (hnone : client.connection = none) (status : NodeStatus) (reason : Status) :
    Connects client (.error (.ofStatus reason)) client [.getStatus, .getChainContext]
  | made (hnone : client.connection = none) (status : NodeStatus) (chainId : String) :
    Connects client (.ok (client.next chainId status.consensus.genesisHeight))
      (client.keep (client.next chainId status.consensus.genesisHeight))
      [.getStatus, .getChainContext]

theorem connects_of_connection {client client' : ClientState} {node node' : σ}
    {log log' : List Exchange} {ending : Option (Except NodeError Connection)}
    (h : Stateful.act (Client.connection transport.recorded address).run (client, node, log)
      = (ending, (client', node', log'))) :
    ∃ outcome asked, ending = some outcome ∧ log' = log ++ asked ∧
      Connects client outcome client' (asked.map (·.method)) := by
  revert h
  cases hkept : client.connection with
  | some kept =>
      rw [act_connection_of_some transport.recorded address hkept]
      rintro ⟨⟩
      exact ⟨_, [], rfl, (List.append_nil _).symm, .kept hkept⟩
  | none =>
      rw [act_connection_of_none transport.recorded address hkept, dial_recorded]
      rcases transport.dial node with ⟨reason | ⟨⟩, dialed⟩
      · rintro ⟨⟩
        exact ⟨_, [], rfl, (List.append_nil _).symm, .dialFails hkept address reason⟩
      dsimp only [Prod.map, id]
      rw [exchange_recorded]
      rcases exchange transport .getStatus .null NodeStatus.ofItem? dialed with
        ⟨reason | status, asked⟩
      · rintro ⟨⟩
        exact ⟨_, _, rfl, rfl, .statusFails hkept reason⟩
      dsimp only [Prod.map, id]
      rw [exchange_recorded]
      rcases exchange transport .getChainContext .null Item.asText? asked with
        ⟨reason | chainId, told⟩
      · rintro ⟨⟩
        exact ⟨_, _, rfl, List.append_assoc .., .chainFails hkept status reason⟩
      · rintro ⟨⟩
        exact ⟨_, _, rfl, List.append_assoc .., .made hkept status chainId⟩

theorem Connects.connection_eq_some {client client' : ClientState} {connection : Connection}
    {asked : List NodeMethod} (h : Connects client (.ok connection) client' asked) :
    client'.connection = some connection := by
  cases h with
  | kept hsome => exact hsome
  | made => rfl

/-- Nothing is sent to get it but what every new connection begins with. -/
theorem Connects.eq_getStatus_or_eq_getChainContext {client client' : ClientState}
    {outcome : Except NodeError Connection} {asked : List NodeMethod}
    (h : Connects client outcome client' asked) :
    ∀ method ∈ asked, method = .getStatus ∨ method = .getChainContext := by
  cases h <;> simp

/-- A call on a connection that is kept sends its request and ends as the answer says. -/
theorem exchange_of_call {client client' : ClientState} {node node' : σ} {log log' : List Exchange}
    {connection : Connection} (hkept : client.connection = some connection) {method : NodeMethod}
    {request : Item} {read : Item → Option α} {ending : Option (Except NodeError α)}
    (h : Stateful.act (call transport.recorded address method request read).run (client, node, log)
      = (ending, (client', node', log'))) :
    ∃ answer, log' = log ++ [⟨method, request.encode, answer⟩] ∧
      ending = some ((readAnswer read answer).mapError .ofStatus) := by
  revert h
  rw [act_call_of_connection _ _ (act_connection_of_some _ _ hkept _), exchange_recorded,
    exchange_apply]
  rcases transport.send method request.encode node with ⟨answer, told⟩
  dsimp only [Prod.map, id]
  cases hread : readAnswer read answer with
  | error status =>
      rintro ⟨⟩
      exact ⟨answer, rfl, by rw [hread]; rfl⟩
  | ok value =>
      rintro ⟨⟩
      exact ⟨answer, rfl, by rw [hread]; rfl⟩

end Client

end StakingGateway
