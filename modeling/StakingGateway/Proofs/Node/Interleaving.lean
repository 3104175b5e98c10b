import StakingGateway.Proofs.Node.Exchange

/-!
# Interleaved calls of one client

Tasks share the connection of a client and take turns in any order.  A turn is what a task does
without waiting: it goes from one phase to the next, between which it waits for the node or for the
lock.  The lock guards the kept connection.  A task that finds none keeps the lock while it makes
one, so that the others wait for it, and a task that was told that the node is unavailable takes it
for a moment to drop its connection.  A task may be abandoned at any time and then gives the lock
back.  What the node answers is left open.

Run to its end without others, a call goes through such turns and sends the requests that they stand
for (`Client.turns_of_call`).
-/

namespace StakingGateway

/-- What a task is about to do or waits for. -/
inductive Phase
  | idle
  | looking
  | waiting
  | dialing
  | askingStatus
  | askingChain (genesisHeight : Int64)
  | holding (connection : Connection)
  | calling (connection : Connection)
  | dropping (connection : Connection)
  | ended

/-- What happens in a turn.  The requests for a new connection are `dials`, `asksStatus` and
`asksChain`, each once the one before has been answered. -/
inductive Event
  | begins
  | misses
  | finds (connection : Connection)
  | dials
  | dialFails (reason : String)
  | asksStatus
  | statusFails (status : Status)
  | asksChain (status : NodeStatus)
  | chainFails (status : Status)
  | connects (context : String) (connection : Connection)
  | tells (context : String) (connection : Connection)
  | sends (connection : Connection)
  | answered (connection : Connection)
  | refused (connection : Connection) (status : Status)
  | drops (connection : Connection)
  | abandons

/-- What a task sees: the client, who has the lock, and its own phase. -/
structure View where
  client : ClientState
  lock : Option Nat
  phase : Phase

/-- A turn of a task.  The kept connection can only be looked at while nobody has the lock.  A task
that found none looks again once it gets the lock, since another may have made one meanwhile. -/
inductive Turn (task : Nat) : View → Event → View → Prop
  | begins {client lock} : Turn task ⟨client, lock, .idle⟩ .begins ⟨client, lock, .looking⟩
  | misses {client} (hnone : client.connection = none) :
    Turn task ⟨client, none, .looking⟩ .misses ⟨client, none, .waiting⟩
  | finds {client phase connection} (hphase : phase = .looking ∨ phase = .waiting)
    (hsome : client.connection = some connection) :
    Turn task ⟨client, none, phase⟩ (.finds connection) ⟨client, none, .holding connection⟩
  | dials {client} (hnone : client.connection = none) :
    Turn task ⟨client, none, .waiting⟩ .dials ⟨client, some task, .dialing⟩
  | dialFails {client} (reason) :
    Turn task ⟨client, some task, .dialing⟩ (.dialFails reason) ⟨client, none, .ended⟩
  | asksStatus {client} :
    Turn task ⟨client, some task, .dialing⟩ .asksStatus ⟨client, some task, .askingStatus⟩
  | statusFails {client} (status) :
    Turn task ⟨client, some task, .askingStatus⟩ (.statusFails status) ⟨client, none, .ended⟩
  | asksChain {client} (status) :
    Turn task ⟨client, some task, .askingStatus⟩ (.asksChain status)
      ⟨client, some task, .askingChain status.consensus.genesisHeight⟩
  | chainFails {client genesisHeight} (status) :
    Turn task ⟨client, some task, .askingChain genesisHeight⟩ (.chainFails status)
      ⟨client, none, .ended⟩
  | connects {client genesisHeight context connection}
    (hnext : connection = client.next context genesisHeight) :
    Turn task ⟨client, some task, .askingChain genesisHeight⟩ (.connects context connection)
      ⟨client.keep connection, none, .holding connection⟩
  | tells {client lock connection} :
    Turn task ⟨client, lock, .holding connection⟩ (.tells connection.chainId connection)
      ⟨client, lock, .ended⟩
  | sends {client lock connection} :
    Turn task ⟨client, lock, .holding connection⟩ (.sends connection)
      ⟨client, lock, .calling connection⟩
  | answered {client lock connection} :
    Turn task ⟨client, lock, .calling connection⟩ (.answered connection) ⟨client, lock, .ended⟩
  | refused {client lock connection} (status) :
    Turn task ⟨client, lock, .calling connection⟩ (.refused connection status)
      ⟨client, lock, if status.code = .unavailable then .dropping connection else .ended⟩
  | drops {client connection} :
    Turn task ⟨client, none, .dropping connection⟩ (.drops connection)
      ⟨client.drop connection.id, none, .ended⟩
  | abandons {client lock phase} (hidle : phase ≠ .idle) (hended : phase ≠ .ended) :
    Turn task ⟨client, lock, phase⟩ .abandons
      ⟨client, if lock = some task then none else lock, .ended⟩

structure System where
  client : ClientState
  lock : Option Nat
  tasks : Nat → Phase

namespace System

def initial : System :=
  ⟨.initial, none, fun _ => .idle⟩

def view (system : System) (task : Nat) : View :=
  ⟨system.client, system.lock, system.tasks task⟩

def put (system : System) (task : Nat) (view : View) : System :=
  ⟨view.client, view.lock, Function.update system.tasks task view.phase⟩

variable (system : System) (task : Nat) (view view' : View)

theorem view_put : (system.put task view).view task = view := by
  simp [System.view, put]

theorem put_view : system.put task (system.view task) = system := by
  simp [System.view, put]

theorem put_put : (system.put task view).put task view' = system.put task view' := by
  simp [put]

end System

/-- A task takes its turn, and the others stay as they are. -/
structure Step (system : System) (task : Nat) (event : Event) (system' : System) : Prop where
  turn : Turn task (system.view task) event (system'.view task)
  tasks_eq : ∀ other ≠ task, system'.tasks other = system.tasks other

abbrev History := List (Nat × Event)

inductive Steps (system : System) : History → System → Prop
  | refl : Steps system [] system
  | step {history system' task event system''} : Steps system history system' →
    Step system' task event system'' → Steps system (history ++ [(task, event)]) system''

/-- A run, from before the first request. -/
abbrev Run : History → System → Prop :=
  Steps .initial

namespace Steps

variable {system system' system'' : System} {history rest : History}

theorem trans (h : Steps system history system') (h' : Steps system' rest system'') :
    Steps system (history ++ rest) system'' := by
  induction h' with
  | refl => rwa [List.append_nil]
  | step _ hstep ih =>
      rw [← List.append_assoc]
      exact ih.step hstep

end Steps

inductive Turns (task : Nat) : View → List Event → View → Prop
  | nil {view} : Turns task view [] view
  | cons {view event view' events view''} : Turn task view event view' →
    Turns task view' events view'' → Turns task view (event :: events) view''

namespace Turns

variable {task : Nat} {view view' view'' : View} {events rest : List Event}

theorem append (h : Turns task view events view') (h' : Turns task view' rest view'') :
    Turns task view (events ++ rest) view'' := by
  induction h with
  | nil => exact h'
  | cons hturn _ ih => exact .cons hturn (ih h')

theorem steps {system : System} (h : Turns task (system.view task) events view') :
    Steps system (events.map (task, ·)) (system.put task view') := by
  generalize hview : system.view task = view at h
  induction h generalizing system with
  | nil =>
      rw [← hview, System.put_view]
      exact .refl
  | @cons _ event next _ last hturn _ ih =>
      have hstep : Step system task event (system.put task next) :=
        ⟨by rwa [hview, System.view_put], fun _ hother => Function.update_of_ne hother ..⟩
      have hrest := ih (System.view_put system task next)
      rw [System.put_put] at hrest
      exact (Steps.refl.step hstep).trans hrest

end Turns

/-! ## Calls on their own -/

/-- The request that is sent in a turn of a task that makes a call of a method. -/
def Event.request? (method : NodeMethod) : Event → Option NodeMethod
  | .asksStatus => some .getStatus
  | .asksChain _ => some .getChainContext
  | .sends _ => some method
  | _ => none

namespace Client

variable {σ α : Type} (transport : Transport (StateM σ)) (address : String) (task : Nat)
  {client client' : ClientState} {node node' : σ} {log log' : List Exchange}

/-- However asking for the connection goes, it goes in turns of the task: it holds the connection at
the end, or it has failed. -/
theorem Connects.turns {outcome : Except NodeError Connection} {asked : List NodeMethod}
    (h : Connects client outcome client' asked) (method : NodeMethod) :
    ∃ events, asked = events.filterMap (Event.request? method) ∧
      match outcome with
      | .ok connection =>
        Turns task ⟨client, none, .looking⟩ events ⟨client', none, .holding connection⟩
      | .error _ => Turns task ⟨client, none, .looking⟩ events ⟨client', none, .ended⟩ := by
  have hlocked (hnone : client.connection = none) : Turns task ⟨client, none, .looking⟩
      [.misses, .dials] ⟨client, some task, .dialing⟩ :=
    .cons (.misses hnone) (.cons (.dials hnone) .nil)
  cases h with
  | kept hsome => exact ⟨_, rfl, .cons (.finds (.inl rfl) hsome) .nil⟩
  | dialFails hnone address reason =>
      exact ⟨_, rfl, (hlocked hnone).append (.cons (.dialFails reason) .nil)⟩
  | statusFails hnone reason =>
      exact ⟨_, rfl, (hlocked hnone).append (.cons .asksStatus (.cons (.statusFails reason) .nil))⟩
  | chainFails hnone status reason =>
      exact ⟨_, rfl, (hlocked hnone).append (.cons .asksStatus (.cons (.asksChain status)
        (.cons (.chainFails reason) .nil)))⟩
  | made hnone status chainId =>
      exact ⟨_, rfl, (hlocked hnone).append (.cons .asksStatus (.cons (.asksChain status)
        (.cons (.connects rfl) .nil)))⟩

/-- A call on its own goes through turns of the task, whatever the node answers, and sends the
requests of its turns.  It is never cut short. -/
theorem turns_of_call (method : NodeMethod) (request : Cbor.Item) (read : Cbor.Item → Option α)
    {ending : Option (Except NodeError α)}
    (h : Stateful.act (call transport.recorded address method request read).run (client, node, log)
      = (ending, (client', node', log'))) :
    ∃ asked events, ending.isSome = true ∧ log' = log ++ asked ∧
      asked.map (·.method) = events.filterMap (Event.request? method) ∧
      Turns task ⟨client, none, .idle⟩ events ⟨client', none, .ended⟩ := by
  rcases hconnection : Stateful.act (Client.connection transport.recorded address).run
    (client, node, log) with ⟨told, client₁, node₁, log₁⟩
  obtain ⟨reason | connection, asked, rfl, rfl, hconnects⟩ :=
    connects_of_connection transport address hconnection
  · rw [call, act_run_bind_of_error hconnection] at h
    cases h
    obtain ⟨events, hasked, hturns⟩ := hconnects.turns task method
    exact ⟨asked, .begins :: events, rfl, rfl, hasked, .cons .begins hturns⟩
  · obtain ⟨events, hasked, hturns⟩ := hconnects.turns task method
    have hsent : Turns task ⟨client, none, .idle⟩ (.begins :: events ++ [.sends connection])
        ⟨client₁, none, .calling connection⟩ :=
      (Turns.cons .begins hturns).append (.cons .sends .nil)
    revert h
    rw [act_call_of_connection _ address hconnection, exchange_recorded]
    rcases exchange transport method request read node₁ with ⟨status | value, told⟩
    · rintro ⟨⟩
      have hrefused : Turn task ⟨client₁, none, .calling connection⟩ _ _ := .refused status
      split
      next hcode =>
        rw [if_pos hcode] at hrefused
        refine ⟨_, _, rfl, List.append_assoc .., ?_,
          hsent.append (.cons hrefused (.cons .drops .nil))⟩
        simp [Event.request?, List.filterMap_cons, hasked]
      next hcode =>
        rw [if_neg hcode] at hrefused
        refine ⟨_, _, rfl, List.append_assoc .., ?_, hsent.append (.cons hrefused .nil)⟩
        simp [Event.request?, List.filterMap_cons, hasked]
    · rintro ⟨⟩
      refine ⟨_, _, rfl, List.append_assoc .., ?_, hsent.append (.cons .answered .nil)⟩
      simp [Event.request?, List.filterMap_cons, hasked]

theorem turns_of_chainId {ending : Option (Except NodeError String)}
    (h : Stateful.act (Client.node transport.recorded address).chainId.run (client, node, log)
      = (ending, (client', node', log'))) (method : NodeMethod) :
    ∃ asked events, ending.isSome = true ∧ log' = log ++ asked ∧
      asked.map (·.method) = events.filterMap (Event.request? method) ∧
      Turns task ⟨client, none, .idle⟩ events ⟨client', none, .ended⟩ := by
  have hnode : (Client.node transport.recorded address).chainId =
      Client.connection transport.recorded address >>= fun connection => pure connection.chainId :=
    rfl
  rw [hnode] at h
  rcases hconnection : Stateful.act (Client.connection transport.recorded address).run
    (client, node, log) with ⟨told, client₁, node₁, log₁⟩
  obtain ⟨reason | connection, asked, rfl, rfl, hconnects⟩ :=
    connects_of_connection transport address hconnection
  · rw [act_run_bind_of_error hconnection] at h
    cases h
    obtain ⟨events, hasked, hturns⟩ := hconnects.turns task method
    exact ⟨asked, .begins :: events, rfl, rfl, hasked, .cons .begins hturns⟩
  · rw [act_run_bind_of_ok hconnection] at h
    cases h
    obtain ⟨events, hasked, hturns⟩ := hconnects.turns task method
    refine ⟨asked, _, rfl, rfl, ?_, .cons .begins (hturns.append (.cons .tells .nil))⟩
    simp [Event.request?, List.filterMap_cons, hasked]

end Client

end StakingGateway
