import StakingGateway.Proofs.Operation.Ledger
import StakingGateway.Proofs.Replay.Contents

/-!
# Rows of operations

Which operations stand for an event, for a fee and for a body is laid down in a table.  A row of it
says of what type an operation is, which balance it is on, by how much it changes that, and what it
tells besides; names, signs and the currency are written out.  `operationsOfRows` makes numbered
operations of rows.  The main statements are `effects_eq_rows`, `feeOperations_eq_rows` and
`kindOperations_eq_rows`: what is listed are the rows.
-/

namespace StakingGateway

open Api (Operation)

/-! ## The table -/

/-- A row.  Where nothing is moved yet, it has no number of units. -/
structure Row where
  type : String
  place : Place
  units : Option Int := none
  metadata : Option (String × Json) := none

namespace Staking

inductive Report
  | transfer (event : TransferEvent)
  | burn (event : BurnEvent)
  | add (event : AddEscrowEvent)
  | take (event : TakeEscrowEvent)
  | reclaim (event : ReclaimEscrowEvent)

def Report.rows [Suite] : Report → List Row
  | .transfer event =>
    [{ type := "Transfer", place := ⟨event.source, none⟩, units := some (-event.amount.units) },
      { type := "Transfer", place := ⟨event.target, none⟩, units := some event.amount.units }]
  | .burn event =>
    [{ type := "Burn", place := ⟨event.owner, none⟩, units := some (-event.amount.units) }]
  | .add event =>
    [{ type := "Transfer", place := ⟨event.owner, none⟩, units := some (-event.amount.units) },
      { type := "Transfer", place := ⟨event.escrow, "escrow"⟩, units := some event.amount.units }]
  | .take event =>
    [{ type := "Transfer", place := ⟨event.owner, "escrow"⟩, units := some (-event.amount.units) },
      { type := "Transfer", place := ⟨Address.commonPool, none⟩,
        units := some event.amount.units }]
  | .reclaim event =>
    [{ type := "Transfer", place := ⟨event.escrow, "escrow"⟩,
        units := some (-event.amount.units) },
      { type := "Transfer", place := ⟨event.owner, none⟩, units := some event.amount.units }]

def EscrowEvent.reports (event : EscrowEvent) : List Report :=
  event.add.toList.map .add ++ event.take.toList.map .take ++ event.reclaim.toList.map .reclaim

def Event.reports (event : Event) : List Report :=
  event.transfer.toList.map .transfer ++ event.burn.toList.map .burn
    ++ event.escrow.toList.flatMap EscrowEvent.reports

def Event.rows [Suite] (event : Event) : List Row :=
  event.reports.flatMap Report.rows

end Staking

def Fee.rows [Suite] (fee : Fee) (signer : Address) : List Row :=
  [{ type := "Transfer", place := ⟨signer, none⟩, units := some (-fee.amount.units),
      metadata := some ("fee_gas", .integer fee.gas.toNat) },
    { type := "Transfer", place := ⟨Address.feeAccumulator, none⟩,
      units := some fee.amount.units }]

def TransactionKind.rows (kind : TransactionKind) (signer : Address) : List Row :=
  match kind with
  | .transfer body =>
    [{ type := "Transfer", place := ⟨signer, none⟩, units := some (-body.amount.units) },
      { type := "Transfer", place := ⟨body.target, none⟩, units := some body.amount.units }]
  | .burn body =>
    [{ type := "Burn", place := ⟨signer, none⟩, units := some (-body.amount.units) }]
  | .addEscrow body =>
    [{ type := "Transfer", place := ⟨signer, none⟩, units := some (-body.amount.units) },
      { type := "Transfer", place := ⟨body.account, "escrow"⟩, units := some body.amount.units }]
  | .reclaimEscrow body =>
    [{ type := "ReclaimEscrow", place := ⟨signer, none⟩ },
      { type := "ReclaimEscrow", place := ⟨body.account, "escrow"⟩,
        metadata := some ("reclaim_escrow_shares", .string (toString body.shares.units)) }]
  | .unknown _ => []

/-! ## Operations of rows -/

def Place.identifier (place : Place) : Api.AccountIdentifier where
  address := place.address.text
  subAccount := place.subAccount.map fun name => { address := name }

def amountOf (units : Int) : Api.Amount where
  value := toString units
  currency := { symbol := "ROSE", decimals := 9 }

/-- The operation of a row, with its number and that of an operation it relates to, if there is
one. -/
def Row.operation (row : Row) (status : Option String) (related : Option Nat) (index : Nat) :
    Operation where
  operationIdentifier := { index := Int64.ofNat index }
  relatedOperations := related.map fun earlier => [{ index := Int64.ofNat earlier }]
  type := row.type
  status := status
  account := some row.place.identifier
  amount := row.units.map amountOf
  metadata := row.metadata.map fun entry => .ofMembers [entry]

/-- The operations of rows, numbered from `index`.  Each relates to the one before it, and the
first to `related`. -/
def operationsOfRows (status : Option String) (related : Option Nat) (index : Nat) :
    List Row → List Operation
  | [] => []
  | row :: rest =>
    row.operation status related index :: operationsOfRows status (some index) (index + 1) rest

def before? : Nat → Option Nat
  | 0 => none
  | index + 1 => some index

theorem status_of_mem_operationsOfRows {status : Option String} {related : Option Nat}
    {index : Nat} {rows : List Row} {op : Operation}
    (h : op ∈ operationsOfRows status related index rows) : op.status = status := by
  induction rows generalizing related index with
  | nil => cases h
  | cons row rest ih =>
      rcases List.mem_cons.mp h with rfl | h
      · rfl
      · exact ih h

theorem toAmount_false (q : Quantity) : q.toAmount false = amountOf q.units :=
  rfl

theorem toAmount_true (q : Quantity) : q.toAmount true = amountOf (-q.units) := by
  obtain ⟨_ | units⟩ := q
  · rfl
  · rfl

/-! ## Events -/

structure Change.Fits (change : Change) (row : Row) : Prop where
  type_eq : row.type = change.1.name
  identifier_eq : row.place.identifier = change.2.1
  amount_eq : row.units.map amountOf = some change.2.2
  metadata_eq : row.metadata = none

theorem Change.Fits.effect_eq {change : Change} {row : Row} (h : change.Fits row) (index : Nat) :
    effect index change.1 change.2.1 change.2.2
      = row.operation (some "OK") (before? index) index := by
  rw [Row.operation, h.type_eq, h.identifier_eq, h.amount_eq, h.metadata_eq]
  cases index with
  | zero => rfl
  | succ index => rfl

/-- The operations of changes are those of the rows that say them. -/
theorem effects_eq_rows {changes : List Change} {rows : List Row}
    (h : List.Forall₂ Change.Fits changes rows) (index : Nat) :
    effects index changes = operationsOfRows (some "OK") (before? index) index rows := by
  induction h generalizing index with
  | nil => rfl
  | cons hfits _ ih =>
      rw [effects, operationsOfRows, ih (index + 1), ← hfits.effect_eq]
      rfl

theorem fits_moved (source target : Place) (amount : Quantity) :
    List.Forall₂ Change.Fits (moved source.identifier target.identifier amount)
      [{ type := "Transfer", place := source, units := some (-amount.units) },
        { type := "Transfer", place := target, units := some amount.units }] := by
  refine .cons ⟨rfl, rfl, ?_, rfl⟩ (.cons ⟨rfl, rfl, rfl, rfl⟩ .nil)
  exact congrArg some (toAmount_true amount).symm

section

variable [Suite]

theorem fits_escrow (event : Staking.EscrowEvent) :
    List.Forall₂ Change.Fits event.changes (event.reports.flatMap Staking.Report.rows) := by
  obtain ⟨add, take, reclaim⟩ := event
  rw [Staking.EscrowEvent.reports, List.flatMap_append, List.flatMap_append]
  refine List.rel_append (List.rel_append ?_ ?_) ?_
  · cases add with
    | none => exact .nil
    | some add => exact fits_moved (.general add.owner) (.escrow add.escrow) add.amount
  · cases take with
    | none => exact .nil
    | some take =>
        exact fits_moved (.escrow take.owner) (.general Address.commonPool) take.amount
  · cases reclaim with
    | none => exact .nil
    | some reclaim =>
        exact fits_moved (.escrow reclaim.escrow) (.general reclaim.owner) reclaim.amount

theorem fits_event (event : Staking.Event) :
    List.Forall₂ Change.Fits event.changes event.rows := by
  obtain ⟨height, txHash, transfer, burn, escrow⟩ := event
  rw [Staking.Event.rows, Staking.Event.reports, List.flatMap_append, List.flatMap_append]
  refine List.rel_append (List.rel_append ?_ ?_) ?_
  · cases transfer with
    | none => exact .nil
    | some transfer =>
        exact fits_moved (.general transfer.source) (.general transfer.target) transfer.amount
  · cases burn with
    | none => exact .nil
    | some burn =>
        exact .cons ⟨rfl, rfl, congrArg some (toAmount_true burn.amount).symm, rfl⟩ .nil
  · cases escrow with
    | none => exact .nil
    | some escrow =>
        rw [Option.toList_some, List.flatMap_singleton]
        exact fits_escrow escrow

theorem fits_events (events : List Staking.Event) :
    List.Forall₂ Change.Fits (events.flatMap fun event => event.changes)
      (events.flatMap Staking.Event.rows) := by
  induction events with
  | nil => exact .nil
  | cons event rest ih => exact List.rel_append (fits_event event) ih

/-! ## Fees and bodies -/

theorem feeOperations_eq_rows {fee : Fee} (hpays : fee.amount.isZero = false) (index : Nat)
    (signer : Address) (status : Option String) :
    fee.operations index signer status
      = operationsOfRows status none index (fee.rows signer) := by
  rw [Fee.operations, if_neg (by simp [hpays]), toAmount_true, toAmount_false]
  rfl

end

theorem kindOperations_eq_rows (kind : TransactionKind) (index : Nat) (signer : Address)
    (status : Option String) :
    kind.operations index signer status
      = operationsOfRows status none index (kind.rows signer) := by
  cases kind with
  | transfer body =>
      rw [TransactionKind.operations, moveOperations, toAmount_true, toAmount_false]
      rfl
  | burn body =>
      rw [TransactionKind.operations, toAmount_true]
      rfl
  | addEscrow body =>
      rw [TransactionKind.operations, moveOperations, toAmount_true, toAmount_false]
      rfl
  | reclaimEscrow body => rfl
  | unknown method => rfl

end StakingGateway
