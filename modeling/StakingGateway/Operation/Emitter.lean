import StakingGateway.Operation.Emission

/-!
# Emitting step by step

An emitter holds a list of operations.  A call pushes operations to the end of it, one at a time and
each with the number of its place, and writes metadata back into a place.  The steps of a call come
to what `Transaction.emitFee` and `Transaction.emitBody` append at once.
-/

namespace StakingGateway

open Api (Operation)

/-- The operation with a value in its metadata, which may hold others already. -/
def Api.Operation.addMetadata (op : Operation) (name : String) (value : Json) : Operation :=
  { op with metadata := some (.ofMembers (op.metadata.elim [] (·.members) ++ [(name, value)])) }

namespace Emitter

/-- Appends an operation, and gives its place. -/
def push (status : Option String) (kind : OperationKind) (account : Api.AccountIdentifier)
    (amount : Option Api.Amount) (related : Option Nat) : StateM (List Operation) Nat := do
  let place := (← get).length
  let op := makeOperation place kind status account amount
  let related := related.map fun earlier => [.of (Int64.ofNat earlier)]
  modify (· ++ [{ op with relatedOperations := related }])
  return place

/-- Writes a value into the metadata of the operation at a place, if there is one. -/
def setMetadata (place : Nat) (name : String) (value : Json) : StateM (List Operation) Unit :=
  modify fun ops => ops.modify place fun op => op.addMetadata name value

/-- A call to an emitter: for the operations of the fee, or for those of the body. -/
inductive Call
  | fee
  | body
  deriving DecidableEq

section

variable (tx : Transaction) (signer : Address) (status : Option String)

def pay [Suite] (fee : Fee) : StateM (List Operation) Unit := do
  let debit ← push status .transfer signer.account (some (fee.amount.toAmount true)) none
  setMetadata debit feeGasKey (.integer fee.gas.toNat)
  let _ ← push status .transfer Address.feeAccumulator.account
    (some (fee.amount.toAmount false)) (some debit)

def fee [Suite] : StateM (List Operation) Unit :=
  match tx.fee with
  | some fee => if fee.amount.isZero then return else pay signer status fee
  | none => return

def move (source target : Api.AccountIdentifier) (amount : Quantity) :
    StateM (List Operation) Unit := do
  let debit ← push status .transfer source (some (amount.toAmount true)) none
  let _ ← push status .transfer target (some (amount.toAmount false)) (some debit)

def kind : TransactionKind → StateM (List Operation) Unit
  | .transfer body => move status signer.account body.target.account body.amount
  | .burn body => do
    let _ ← push status .burn signer.account (some (body.amount.toAmount true)) none
  | .addEscrow body => move status signer.account body.account.escrowAccount body.amount
  | .reclaimEscrow body => do
    let first ← push status .reclaimEscrow signer.account none none
    let second ← push status .reclaimEscrow body.account.escrowAccount none (some first)
    setMetadata second sharesKey (.string body.shares.text)
  | .unknown _ => return

def body : ExceptT TransactionError (StateM (List Operation)) Unit := do
  kind signer status (← tx.kind)

def emit [Suite] : Call → ExceptT TransactionError (StateM (List Operation)) Unit
  | .fee => fee tx signer status
  | .body => body tx signer status

/-- Makes calls in a row, whether they fail or not. -/
def emitAll [Suite] (calls : List Call) :
    StateM (List Operation) (List (Except TransactionError Unit)) :=
  calls.mapM fun call => (emit tx signer status call).run

end

end Emitter

end StakingGateway
