import StakingGateway.Proofs.Node.Interleaving

/-!
# The connection of interleaved calls

`Invariant` is kept by every turn of every task.  What carries it is the lock: whoever makes a
connection has it, and while anybody has it no connection is kept.  Connections are numbered in a
row, and the numbers start over once 64 bits cannot count any further.  Until then every connection
has a number of its own, so a task that drops a connection by its number drops the one that failed
it, or none.  `safe_of_run` reads off what that means for the steps of a run.
-/

namespace StakingGateway

/-! ## Numbers of connections -/

/-- The numbers of connections that are made in a row. -/
def connectionIds (count : Nat) : List UInt64 :=
  (List.range count).map UInt64.ofNat

theorem connectionIds_succ (count : Nat) :
    connectionIds (count + 1) = connectionIds count ++ [UInt64.ofNat count] := by
  rw [connectionIds, List.range_succ, List.map_append]
  rfl

/-- The numbers increase as long as 64 bits can count the connections. -/
theorem pairwise_connectionIds {count : Nat} (hcount : count ≤ 2 ^ 64) :
    (connectionIds count).Pairwise (· < ·) := by
  rw [connectionIds, List.pairwise_map]
  refine List.pairwise_lt_range.imp_of_mem ?_
  intro first second hfirst hsecond hlt
  rw [List.mem_range] at hfirst hsecond
  rw [UInt64.lt_iff_toNat_lt, UInt64.toNat_ofNat_of_lt' (hfirst.trans_le hcount),
    UInt64.toNat_ofNat_of_lt' (hsecond.trans_le hcount)]
  exact hlt

theorem ofNat_notMem_connectionIds {count : Nat} (hcount : count < 2 ^ 64) :
    UInt64.ofNat count ∉ connectionIds count := by
  intro hmem
  obtain ⟨earlier, hearlier, heq⟩ := List.mem_map.mp hmem
  rw [List.mem_range] at hearlier
  have hnat := congrArg UInt64.toNat heq
  rw [UInt64.toNat_ofNat_of_lt' (hearlier.trans hcount), UInt64.toNat_ofNat_of_lt' hcount] at hnat
  exact hearlier.ne hnat

/-! ## What happened in a history -/

namespace Event

def connected? : Event → Option Connection
  | .connects _ connection => some connection
  | _ => none

def asksToConnect : Event → Bool
  | .dials => true
  | .asksStatus => true
  | .asksChain _ => true
  | _ => false

def failsToConnect : Event → Bool
  | .dialFails _ => true
  | .statusFails _ => true
  | .chainFails _ => true
  | _ => false

end Event

namespace History

def connections (history : History) : List Connection :=
  history.filterMap fun (_, event) => event.connected?

/-- A task made the connection out of all that the node was asked for. -/
def Made (history : History) (connection : Connection) : Prop :=
  ∃ maker status, (maker, .dials) ∈ history ∧ (maker, .asksStatus) ∈ history ∧
    (maker, .asksChain status) ∈ history ∧
    connection.genesisHeight = status.consensus.genesisHeight ∧
    (maker, .connects connection.chainId connection) ∈ history

/-- A task has the connection as the one that it found or made. -/
def Has (history : History) (task : Nat) (connection : Connection) : Prop :=
  history.Made connection ∧ ((task, .finds connection) ∈ history ∨
    (task, .connects connection.chainId connection) ∈ history)

/-- A call on the connection found the node unavailable. -/
def Unavailable (history : History) (task : Nat) (connection : Connection) : Prop :=
  (task, .sends connection) ∈ history ∧
    ∃ status, (task, .refused connection status) ∈ history ∧ status.code = .unavailable

variable {history rest : History} {task : Nat} {connection : Connection}

theorem Made.append (h : history.Made connection) (rest : History) :
    Made (history ++ rest) connection := by
  obtain ⟨maker, status, hdials, hstatus, hchain, hheight, hconnects⟩ := h
  exact ⟨maker, status, List.mem_append_left _ hdials, List.mem_append_left _ hstatus,
    List.mem_append_left _ hchain, hheight, List.mem_append_left _ hconnects⟩

theorem Has.append (h : history.Has task connection) (rest : History) :
    Has (history ++ rest) task connection :=
  ⟨h.1.append rest, h.2.imp (List.mem_append_left _) (List.mem_append_left _)⟩

theorem Unavailable.append (h : history.Unavailable task connection) (rest : History) :
    Unavailable (history ++ rest) task connection := by
  obtain ⟨hsends, status, hrefused, hcode⟩ := h
  exact ⟨List.mem_append_left _ hsends, status, List.mem_append_left _ hrefused, hcode⟩

theorem connections_concat (event : Event) :
    connections (history ++ [(task, event)]) = connections history ++ event.connected?.toList := by
  rw [connections, List.filterMap_append]
  cases hconnected : event.connected? <;> simp [connections, hconnected]

theorem Made.mem_connections (h : history.Made connection) : connection ∈ history.connections := by
  obtain ⟨maker, _, _, _, _, _, hconnects⟩ := h
  exact List.mem_filterMap.mpr ⟨_, hconnects, rfl⟩

/-- The connections are no more than 64 bits can count. -/
def Countable (history : History) : Prop :=
  history.connections.length ≤ 2 ^ 64

theorem Countable.of_append (h : Countable (history ++ rest)) : history.Countable := by
  rw [Countable, connections, List.filterMap_append, List.length_append] at h
  exact (Nat.le_add_right ..).trans h

end History

/-! ## Turns -/

namespace Phase

def connects : Phase → Bool
  | .dialing => true
  | .askingStatus => true
  | .askingChain _ => true
  | _ => false

def Justified (history : History) (task : Nat) : Phase → Prop
  | .dialing => (task, .dials) ∈ history
  | .askingStatus => (task, .dials) ∈ history ∧ (task, .asksStatus) ∈ history
  | .askingChain genesisHeight => ∃ status, (task, .dials) ∈ history ∧
      (task, .asksStatus) ∈ history ∧ (task, .asksChain status) ∈ history ∧
      genesisHeight = status.consensus.genesisHeight
  | .holding connection => history.Has task connection
  | .calling connection => history.Has task connection ∧ (task, .sends connection) ∈ history
  | .dropping connection => history.Has task connection ∧ history.Unavailable task connection
  | _ => True

theorem Justified.append {history : History} {task : Nat} {phase : Phase}
    (h : phase.Justified history task) (rest : History) :
    phase.Justified (history ++ rest) task := by
  cases phase with
  | dialing => exact List.mem_append_left _ h
  | askingStatus => exact h.imp (List.mem_append_left _) (List.mem_append_left _)
  | askingChain genesisHeight =>
      obtain ⟨status, hdials, hstatus, hchain, hheight⟩ := h
      exact ⟨status, List.mem_append_left _ hdials, List.mem_append_left _ hstatus,
        List.mem_append_left _ hchain, hheight⟩
  | holding connection => exact History.Has.append h rest
  | calling connection => exact ⟨h.1.append rest, List.mem_append_left _ h.2⟩
  | dropping connection => exact ⟨h.1.append rest, h.2.append rest⟩
  | idle => trivial
  | looking => trivial
  | waiting => trivial
  | ended => trivial

end Phase

namespace Turn

variable {task : Nat} {view view' : View} {event : Event}

/-- All that a turn can do to the client. -/
theorem client_cases (h : Turn task view event view') :
    view'.client = view.client ∧ event.connected? = none ∧ (∀ connection, event ≠ .drops connection)
    ∨ (∃ context genesisHeight, event = .connects context (view.client.next context genesisHeight) ∧
        view'.client = view.client.keep (view.client.next context genesisHeight) ∧
        view.lock = some task ∧
        view'.phase = .holding (view.client.next context genesisHeight))
    ∨ ∃ connection, event = .drops connection ∧ view.phase = .dropping connection ∧
        view'.client = view.client.drop connection.id := by
  cases h with
  | connects hnext =>
      subst hnext
      exact .inr (.inl ⟨_, _, rfl, rfl, rfl, rfl⟩)
  | drops => exact .inr (.inr ⟨_, rfl, rfl, rfl⟩)
  | _ => exact .inl ⟨rfl, rfl, nofun⟩

theorem lock_eq_some_iff (h : Turn task view event view') {other : Nat} (hother : other ≠ task) :
    view'.lock = some other ↔ view.lock = some other := by
  cases h with
  | @abandons _ lock _ _ _ =>
      dsimp only
      split <;> simp_all [hother.symm]
  | _ => simp [hother.symm]

/-- Whoever makes a connection has the lock. -/
theorem lock_iff (h : Turn task view event view')
    (hlock : view.lock = some task ↔ view.phase.connects = true) :
    view'.lock = some task ↔ view'.phase.connects = true := by
  cases h with
  | @abandons _ lock _ _ _ =>
      dsimp only
      split <;> simp_all [Phase.connects]
  | @refused _ _ _ status =>
      dsimp only
      split <;> simpa [Phase.connects] using hlock
  | _ => simp_all [Phase.connects]

theorem connection_eq_none (h : Turn task view event view')
    (hnone : view.lock.isSome = true → view.client.connection = none)
    (hlocked : view'.lock.isSome = true) : view'.client.connection = none := by
  cases h with
  | dials hnone' => exact hnone'
  | @abandons _ lock _ _ _ =>
      dsimp only at hlocked
      split at hlocked <;> simp_all
  | _ => simp_all

theorem justified {history : History} (h : Turn task view event view')
    (hmade : ∀ kept, view.client.connection = some kept → history.Made kept)
    (hjustified : view.phase.Justified history task) :
    view'.phase.Justified (history ++ [(task, event)]) task := by
  have hlast : (task, event) ∈ history ++ [(task, event)] := List.mem_concat_self
  cases h with
  | finds _ hsome => exact ⟨(hmade _ hsome).append _, .inl hlast⟩
  | dials => exact hlast
  | asksStatus => exact ⟨List.mem_append_left _ hjustified, hlast⟩
  | @asksChain _ status =>
      exact ⟨status, List.mem_append_left _ hjustified.1, List.mem_append_left _ hjustified.2,
        hlast, rfl⟩
  | connects hnext =>
      subst hnext
      obtain ⟨status, hdials, hstatus, hchain, hheight⟩ := hjustified
      exact ⟨⟨task, status, List.mem_append_left _ hdials, List.mem_append_left _ hstatus,
        List.mem_append_left _ hchain, hheight, hlast⟩, .inr hlast⟩
  | sends => exact ⟨hjustified.append _, hlast⟩
  | @refused _ _ _ status =>
      dsimp only
      split
      next hcode =>
        exact ⟨hjustified.1.append _, List.mem_append_left _ hjustified.2, status, hlast, hcode⟩
      next => trivial
  | _ => trivial

/-- A connection that could not be made leaves the client as it was and gives the lock back. -/
theorem of_failsToConnect (h : Turn task view event view') (hfails : event.failsToConnect = true) :
    view' = ⟨view.client, none, .ended⟩ := by
  cases h with
  | dialFails => rfl
  | statusFails => rfl
  | chainFails => rfl
  | _ => cases hfails

theorem of_asksToConnect (h : Turn task view event view') (hasks : event.asksToConnect = true) :
    view'.client = view.client ∧ view'.lock = some task := by
  cases h with
  | dials => exact ⟨rfl, rfl⟩
  | asksStatus => exact ⟨rfl, rfl⟩
  | asksChain => exact ⟨rfl, rfl⟩
  | _ => cases hasks

theorem of_abandons (h : Turn task view .abandons view') :
    view'.client = view.client ∧ view'.lock ≠ some task := by
  cases h with
  | @abandons _ lock _ _ _ =>
      dsimp only
      split <;> simp_all

theorem of_tells {context : String} {connection : Connection}
    (h : Turn task view (.tells context connection) view') :
    context = connection.chainId ∧ view.phase = .holding connection := by
  cases h
  exact ⟨rfl, rfl⟩

theorem of_drops {connection : Connection} (h : Turn task view (.drops connection) view') :
    view.phase = .dropping connection ∧ view'.client = view.client.drop connection.id := by
  cases h
  exact ⟨rfl, rfl⟩

theorem phase_of_refused {connection : Connection} {status : Status}
    (h : Turn task view (.refused connection status) view') (hcode : status.code = .unavailable) :
    view'.phase = .dropping connection := by
  cases h
  exact if_pos hcode

theorem eq_drops_or_eq_abandons (h : Turn task view event view') {connection : Connection}
    (hphase : view.phase = .dropping connection) :
    event = .drops connection ∨ event = .abandons := by
  cases h with
  | drops =>
      cases hphase
      exact .inl rfl
  | abandons => exact .inr rfl
  | finds hfinds => simp_all
  | _ => cases hphase

end Turn

namespace Step

variable {system system' : System} {task : Nat} {event : Event} {connection : Connection}

theorem client_cases (h : Step system task event system') :
    system'.client = system.client ∧ event.connected? = none ∧
      (∀ connection, event ≠ .drops connection)
    ∨ (∃ context genesisHeight,
        event = .connects context (system.client.next context genesisHeight) ∧
        system'.client = system.client.keep (system.client.next context genesisHeight) ∧
        system.lock = some task ∧
        system'.tasks task = .holding (system.client.next context genesisHeight))
    ∨ ∃ connection, event = .drops connection ∧ system.tasks task = .dropping connection ∧
        system'.client = system.client.drop connection.id :=
  h.turn.client_cases

theorem connects_of_kept (h : Step system task event system')
    (hkept : system'.client.connection = some connection)
    (hbefore : system.client.connection ≠ some connection) :
    ∃ context, event = .connects context connection := by
  rcases h.client_cases with ⟨hclient, _⟩ | ⟨context, _, rfl, hclient, _⟩ | ⟨_, _, _, hclient⟩
  · rw [hclient] at hkept
    exact (hbefore hkept).elim
  · rw [hclient] at hkept
    cases hkept
    exact ⟨context, rfl⟩
  · rw [hclient, ClientState.connection_drop_eq_some_iff] at hkept
    exact (hbefore hkept.1).elim

end Step

/-! ## What every run keeps -/

structure Invariant (history : History) (system : System) : Prop where
  dials_eq : system.client.dials = UInt64.ofNat history.connections.length
  ids_eq : history.connections.map (·.id) = connectionIds history.connections.length
  made : ∀ kept, system.client.connection = some kept → history.Made kept
  dropped : ∀ task connection, (task, .drops connection) ∈ history → history.Made connection ∧
    (history.Countable → ∀ kept, system.client.connection = some kept → kept.id ≠ connection.id)
  lock_iff : ∀ task, system.lock = some task ↔ (system.tasks task).connects = true
  connection_eq_none : system.lock.isSome = true → system.client.connection = none
  justified : ∀ task, (system.tasks task).Justified history task
  settled : ∀ task connection status, (task, .refused connection status) ∈ history →
    status.code = .unavailable → system.tasks task = .dropping connection ∨
      (task, .drops connection) ∈ history ∨ (task, .abandons) ∈ history

theorem invariant_initial : Invariant [] .initial where
  dials_eq := rfl
  ids_eq := rfl
  made := nofun
  dropped := nofun
  lock_iff _ := ⟨nofun, nofun⟩
  connection_eq_none _ := rfl
  justified _ := trivial
  settled := nofun

namespace Invariant

variable {history : History} {system system' : System} {task : Nat} {event : Event}

/-- The number that comes next is not that of a connection that was made. -/
theorem id_ne_dials (h : Invariant history system) {connection : Connection}
    (hmade : history.Made connection) (hcount : history.connections.length < 2 ^ 64) :
    connection.id ≠ system.client.dials := by
  intro heq
  refine ofNat_notMem_connectionIds hcount ?_
  rw [← h.dials_eq, ← heq, ← h.ids_eq]
  exact List.mem_map_of_mem hmade.mem_connections

/-- A connection is only made while none is kept. -/
theorem connection_eq_none_of_lock (h : Invariant history system)
    (hlock : system.lock = some task) : system.client.connection = none :=
  h.connection_eq_none (by rw [hlock]; rfl)

theorem dials_eq_step (h : Invariant history system) (hstep : Step system task event system') :
    system'.client.dials =
      UInt64.ofNat (History.connections (history ++ [(task, event)])).length := by
  rw [History.connections_concat, List.length_append]
  rcases hstep.client_cases with ⟨hclient, hnone, _⟩ | ⟨_, _, rfl, hclient, _⟩ |
    ⟨_, rfl, _, hclient⟩
  · rw [hnone, hclient]
    exact h.dials_eq
  · rw [hclient, UInt64.ofNat_add, ← h.dials_eq]
    rfl
  · rw [hclient, ClientState.dials_drop]
    exact h.dials_eq

theorem ids_eq_step (h : Invariant history system) (hstep : Step system task event system') :
    (History.connections (history ++ [(task, event)])).map (·.id) =
      connectionIds (History.connections (history ++ [(task, event)])).length := by
  rw [History.connections_concat, List.map_append, List.length_append, h.ids_eq]
  rcases hstep.client_cases with ⟨_, hnone, _⟩ | ⟨_, _, rfl, _⟩ | ⟨_, rfl, _⟩
  · rw [hnone]
    exact List.append_nil _
  · refine Eq.trans ?_ (connectionIds_succ _).symm
    rw [← h.dials_eq]
    rfl
  · exact List.append_nil _

theorem justified_step (h : Invariant history system) (hstep : Step system task event system')
    (other : Nat) : (system'.tasks other).Justified (history ++ [(task, event)]) other := by
  rcases eq_or_ne other task with rfl | hother
  · exact hstep.turn.justified h.made (h.justified other)
  · rw [hstep.tasks_eq other hother]
    exact (h.justified other).append _

theorem made_step (h : Invariant history system) (hstep : Step system task event system')
    {kept : Connection} (hkept : system'.client.connection = some kept) :
    History.Made (history ++ [(task, event)]) kept := by
  have hjustified := h.justified_step hstep task
  rcases hstep.client_cases with ⟨hclient, _, _⟩ | ⟨_, _, rfl, hclient, _, hphase⟩ |
    ⟨_, rfl, _, hclient⟩
  · rw [hclient] at hkept
    exact (h.made kept hkept).append _
  · rw [hclient] at hkept
    cases hkept
    rw [hphase] at hjustified
    exact hjustified.1
  · rw [hclient] at hkept
    exact (h.made kept (ClientState.connection_drop_eq_some_iff .. |>.mp hkept).1).append _

theorem dropped_step (h : Invariant history system) (hstep : Step system task event system')
    {dropper : Nat} {connection : Connection}
    (hdrops : (dropper, .drops connection) ∈ history ++ [(task, event)]) :
    History.Made (history ++ [(task, event)]) connection ∧
      (History.Countable (history ++ [(task, event)]) →
        ∀ kept, system'.client.connection = some kept → kept.id ≠ connection.id) := by
  have hjustified := h.justified task
  rcases hstep.client_cases with ⟨hclient, _, hne⟩ | ⟨_, _, rfl, hclient, _⟩ |
    ⟨failed, rfl, hphase, hclient⟩
  · -- The client is as it was, and nothing is dropped.
    have hbefore : (dropper, .drops connection) ∈ history := by
      simpa [(hne connection).symm] using hdrops
    rw [hclient]
    exact (h.dropped _ _ hbefore).imp (·.append _) fun hother hcount => hother hcount.of_append
  · -- The new number is not that of any connection that was made, and so dropped, before.
    have hbefore : (dropper, .drops connection) ∈ history := by
      simpa using hdrops
    have hmade := (h.dropped _ _ hbefore).1
    refine ⟨hmade.append _, fun hcount => ?_⟩
    rw [History.Countable, History.connections_concat, List.length_append] at hcount
    rw [hclient]
    rintro kept ⟨⟩
    exact (h.id_ne_dials hmade (Nat.lt_of_succ_le hcount)).symm
  · -- What stays kept is another connection than the one that fails, and it was kept before.
    rw [hclient]
    simp only [ClientState.connection_drop_eq_some_iff]
    rcases List.mem_append.mp hdrops with hbefore | hlast
    · obtain ⟨hmade, hother⟩ := h.dropped _ _ hbefore
      exact ⟨hmade.append _, fun hcount kept hkept => hother hcount.of_append kept hkept.1⟩
    · cases List.mem_singleton.mp hlast
      rw [hphase] at hjustified
      exact ⟨hjustified.1.1.append _, fun _ kept hkept => hkept.2⟩

theorem settled_step (h : Invariant history system) (hstep : Step system task event system')
    {caller : Nat} {connection : Connection} {status : Status}
    (hrefused : (caller, .refused connection status) ∈ history ++ [(task, event)])
    (hcode : status.code = .unavailable) :
    system'.tasks caller = .dropping connection ∨
      (caller, .drops connection) ∈ history ++ [(task, event)] ∨
      (caller, .abandons) ∈ history ++ [(task, event)] := by
  rcases List.mem_append.mp hrefused with hbefore | hlast
  · rcases h.settled _ _ _ hbefore hcode with hphase | hdrops | habandons
    · rcases eq_or_ne caller task with rfl | hother
      · rcases hstep.turn.eq_drops_or_eq_abandons hphase with rfl | rfl
        · exact .inr (.inl List.mem_concat_self)
        · exact .inr (.inr List.mem_concat_self)
      · exact .inl ((hstep.tasks_eq caller hother).trans hphase)
    · exact .inr (.inl (List.mem_append_left _ hdrops))
    · exact .inr (.inr (List.mem_append_left _ habandons))
  · cases List.mem_singleton.mp hlast
    exact .inl (hstep.turn.phase_of_refused hcode)

theorem step (h : Invariant history system) (hstep : Step system task event system') :
    Invariant (history ++ [(task, event)]) system' where
  dials_eq := h.dials_eq_step hstep
  ids_eq := h.ids_eq_step hstep
  made _ := h.made_step hstep
  dropped _ _ := h.dropped_step hstep
  lock_iff := by
    intro other
    rcases eq_or_ne other task with rfl | hother
    · exact hstep.turn.lock_iff (h.lock_iff other)
    · rw [hstep.tasks_eq other hother, ← h.lock_iff other]
      exact hstep.turn.lock_eq_some_iff hother
  connection_eq_none := hstep.turn.connection_eq_none h.connection_eq_none
  justified := h.justified_step hstep
  settled _ _ _ := h.settled_step hstep

end Invariant

theorem invariant_of_run {history : History} {system : System} (h : Run history system) :
    Invariant history system := by
  induction h with
  | refl => exact invariant_initial
  | step _ hstep ih => exact ih.step hstep

/-! ## Safety -/

/-- What is safe about a system after what has happened, and about what may happen next.

The connections are numbered in a row, and the numbers increase as long as 64 bits can count them.
A connection is kept once it is made, and dropped only by a call that was made on one of its number
and found the node unavailable.  No connection of that number is kept when such a call is over, and
as long as 64 bits can count the connections none is kept later, unless the call was abandoned.  If
another connection is kept by then nothing changes.  If no connection can be made then the client
stays as it was, its next number included, and the lock is free.  The node is asked for a connection
only while none is kept.  The name of the chain that is told is that of the connection that the task
has, as the node told it when it was made. -/
structure Safe (history : History) (system : System) : Prop where
  ids_eq : history.connections.map (·.id) = connectionIds history.connections.length
  ids_increase : history.Countable → (history.connections.map (·.id)).Pairwise (· < ·)
  connects_of_kept : ∀ {task event system' connection}, Step system task event system' →
    system'.client.connection = some connection → system.client.connection ≠ some connection →
    ∃ context, event = .connects context connection
  drops_of_not_kept : ∀ {task event system' connection}, Step system task event system' →
    system.client.connection = some connection → system'.client.connection ≠ some connection →
    ∃ failed, event = .drops failed ∧ failed.id = connection.id ∧
      history.Unavailable task failed ∧ system'.client.connection = none
  id_ne_of_drops : ∀ {task connection system'}, Step system task (.drops connection) system' →
    ∀ kept, system'.client.connection = some kept → kept.id ≠ connection.id
  id_ne_of_unavailable : history.Countable → ∀ {task connection},
    history.Unavailable task connection →
    system.tasks task = .ended → (task, .abandons) ∉ history →
    ∀ kept, system.client.connection = some kept → kept.id ≠ connection.id
  client_eq_of_drops_other : history.Countable → ∀ {task connection system'},
    Step system task (.drops connection) system' → system.client.connection ≠ some connection →
    system'.client = system.client
  client_eq_of_drops : ∀ {task connection system'}, Step system task (.drops connection) system' →
    (∀ kept, system.client.connection = some kept → kept.id ≠ connection.id) →
    system'.client = system.client
  client_eq_of_failsToConnect : ∀ {task event system'}, Step system task event system' →
    event.failsToConnect = true → system'.client = system.client ∧ system'.lock = none
  client_eq_of_abandons : ∀ {task system'}, Step system task .abandons system' →
    system'.client = system.client ∧ system'.lock ≠ some task
  connection_eq_none_of_asksToConnect : ∀ {task event system'}, Step system task event system' →
    event.asksToConnect = true →
    system.client.connection = none ∧ system'.client.connection = none
  has_of_tells : ∀ {task context connection system'},
    Step system task (.tells context connection) system' →
    context = connection.chainId ∧ history.Has task connection

namespace Invariant

variable {history : History} {system system' : System} {task : Nat} {event : Event}
  {connection : Connection}

theorem drops_of_not_kept (h : Invariant history system) (hstep : Step system task event system')
    (hkept : system.client.connection = some connection)
    (hafter : system'.client.connection ≠ some connection) :
    ∃ failed, event = .drops failed ∧ failed.id = connection.id ∧
      history.Unavailable task failed ∧ system'.client.connection = none := by
  have hjustified := h.justified task
  rcases hstep.client_cases with ⟨hclient, _⟩ | ⟨_, _, _, _, hlock, _⟩ |
    ⟨failed, hevent, hphase, hclient⟩
  · rw [hclient] at hafter
    exact (hafter hkept).elim
  · -- Whoever makes a connection has the lock, and then none is kept.
    cases hkept.symm.trans (h.connection_eq_none_of_lock hlock)
  · rw [hphase] at hjustified
    rw [hclient, ne_eq, ClientState.connection_drop_eq_some_iff] at hafter
    have hid : connection.id = failed.id := by
      by_contra hne
      exact hafter ⟨hkept, hne⟩
    refine ⟨failed, hevent, hid.symm, hjustified.2, ?_⟩
    rw [hclient, Option.eq_none_iff_forall_ne_some]
    intro other hother
    obtain ⟨hsame, hne⟩ := (ClientState.connection_drop_eq_some_iff ..).mp hother
    cases hkept.symm.trans hsame
    exact hne hid

theorem id_ne_of_unavailable (h : Invariant history system) (hcount : history.Countable)
    (hunavailable : history.Unavailable task connection) (hended : system.tasks task = .ended)
    (habandons : (task, .abandons) ∉ history) {kept : Connection}
    (hkept : system.client.connection = some kept) : kept.id ≠ connection.id := by
  obtain ⟨_, status, hrefused, hcode⟩ := hunavailable
  rcases h.settled _ _ _ hrefused hcode with hphase | hdrops | hgone
  · cases hended.symm.trans hphase
  · exact (h.dropped _ _ hdrops).2 hcount kept hkept
  · exact (habandons hgone).elim

theorem ids_increase (h : Invariant history system) (hcount : history.Countable) :
    (history.connections.map (·.id)).Pairwise (· < ·) := by
  rw [h.ids_eq]
  exact pairwise_connectionIds hcount

theorem eq_of_id_eq (h : Invariant history system) (hcount : history.Countable)
    {other : Connection} (hmade : history.Made connection) (hother : history.Made other)
    (hid : connection.id = other.id) : connection = other :=
  List.inj_on_of_nodup_map ((h.ids_increase hcount).imp UInt64.ne_of_lt) hmade.mem_connections
    hother.mem_connections hid

theorem client_eq_of_drops (h : Step system task (.drops connection) system')
    (hother : ∀ kept, system.client.connection = some kept → kept.id ≠ connection.id) :
    system'.client = system.client :=
  h.turn.of_drops.2.trans (ClientState.drop_eq_self _ connection.id hother)

theorem client_eq_of_drops_other (h : Invariant history system) (hcount : history.Countable)
    (hstep : Step system task (.drops connection) system')
    (hother : system.client.connection ≠ some connection) : system'.client = system.client := by
  refine client_eq_of_drops hstep ?_
  rintro kept hkept hid
  have hjustified := h.justified task
  rw [show system.tasks task = _ from hstep.turn.of_drops.1] at hjustified
  cases h.eq_of_id_eq hcount (h.made kept hkept) hjustified.1.1 hid
  exact hother hkept

theorem safe (h : Invariant history system) : Safe history system where
  ids_eq := h.ids_eq
  ids_increase := h.ids_increase
  connects_of_kept := Step.connects_of_kept
  drops_of_not_kept := h.drops_of_not_kept
  id_ne_of_drops := by
    intro _ _ system' hstep _ hkept
    rw [show system'.client = _ from hstep.turn.of_drops.2,
      ClientState.connection_drop_eq_some_iff] at hkept
    exact hkept.2
  id_ne_of_unavailable hcount _ _ hunavailable hended habandons _ :=
    h.id_ne_of_unavailable hcount hunavailable hended habandons
  client_eq_of_drops_other hcount _ _ _ := h.client_eq_of_drops_other hcount
  client_eq_of_drops := client_eq_of_drops
  client_eq_of_failsToConnect := by
    intro _ _ _ hstep hfails
    have hview := hstep.turn.of_failsToConnect hfails
    exact ⟨congrArg View.client hview, congrArg View.lock hview⟩
  client_eq_of_abandons hstep := hstep.turn.of_abandons
  connection_eq_none_of_asksToConnect := by
    intro _ _ system' hstep hasks
    obtain ⟨hclient, hlock⟩ := hstep.turn.of_asksToConnect hasks
    have hnone := (h.step hstep).connection_eq_none_of_lock hlock
    exact ⟨congrArg ClientState.connection hclient.symm |>.trans hnone, hnone⟩
  has_of_tells := by
    intro task _ _ _ hstep
    obtain ⟨hcontext, hphase⟩ := hstep.turn.of_tells
    have hjustified := h.justified task
    rw [show system.tasks task = _ from hphase] at hjustified
    exact ⟨hcontext, hjustified⟩

end Invariant

/-- Every run is safe, however the tasks take turns and whatever the node answers. -/
theorem safe_of_run {history : History} {system : System} (h : Run history system) :
    Safe history system :=
  (invariant_of_run h).safe

def plainConnection (id : UInt64) : Connection :=
  ⟨id, "chain", 0⟩

theorem turns_connects (task : Nat) (id : UInt64) :
    Turns task ⟨⟨none, id⟩, none, .idle⟩
      [.begins, .misses, .dials, .asksStatus, .asksChain ⟨"", .default⟩,
        .connects "chain" (plainConnection id)]
      ⟨⟨some (plainConnection id), id + 1⟩, none, .holding (plainConnection id)⟩ :=
  .cons .begins (.cons (.misses rfl) (.cons (.dials rfl) (.cons .asksStatus
    (.cons (.asksChain _) (.cons (.connects rfl) .nil)))))

theorem turns_refused {client : ClientState} (task : Nat) :
    Turns task ⟨client, none, .calling (plainConnection 0)⟩
      [.refused (plainConnection 0) ⟨.unavailable, ""⟩, .drops (plainConnection 0)]
      ⟨client.drop 0, none, .ended⟩ :=
  .cons (.refused _) (.cons .drops .nil)

/-- Two calls on one connection find the node unavailable.  The second reports when a third task has
made another connection. -/
def staleFailure : History :=
  [(0, .begins), (0, .misses), (0, .dials), (0, .asksStatus), (0, .asksChain ⟨"", .default⟩),
    (0, .connects "chain" (plainConnection 0)), (0, .sends (plainConnection 0)),
    (1, .begins), (1, .finds (plainConnection 0)), (1, .sends (plainConnection 0)),
    (0, .refused (plainConnection 0) ⟨.unavailable, ""⟩), (0, .drops (plainConnection 0)),
    (2, .begins), (2, .misses), (2, .dials), (2, .asksStatus), (2, .asksChain ⟨"", .default⟩),
    (2, .connects "chain" (plainConnection 1)),
    (1, .refused (plainConnection 0) ⟨.unavailable, ""⟩), (1, .drops (plainConnection 0))]

/-- The other connection stays. -/
theorem safe_of_run_staleFailure :
    ∃ system, Run staleFailure system ∧ system.client.connection = some (plainConnection 1) ∧
      Safe staleFailure system := by
  have hfound : Turns 1 ⟨⟨some (plainConnection 0), 1⟩, none, .idle⟩
      [.begins, .finds (plainConnection 0), .sends (plainConnection 0)]
      ⟨⟨some (plainConnection 0), 1⟩, none, .calling (plainConnection 0)⟩ :=
    .cons .begins (.cons (.finds (.inl rfl) rfl) (.cons .sends .nil))
  have hconnected : Run _ (System.initial.put 0 _) :=
    ((turns_connects 0 0).append (.cons .sends .nil)).steps
  have hshared : Run _ (System.put _ 1 _) := hconnected.trans hfound.steps
  have hdropped : Run _ (System.put _ 0 _) := hshared.trans (turns_refused 0).steps
  have hagain : Run _ (System.put _ 2 _) := hdropped.trans (turns_connects 2 1).steps
  have hstale : Run _ (System.put _ 1 _) := hagain.trans (turns_refused 1).steps
  exact ⟨_, hstale, rfl, safe_of_run hstale⟩

end StakingGateway
