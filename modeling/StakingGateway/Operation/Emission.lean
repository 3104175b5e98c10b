import StakingGateway.Operation.Matching

/-!
# Transactions to operations

The operations of a transaction are appended to a list, and their numbers continue it: first those
of the fee, if the transaction offers one, then those of the body.  Nothing is appended for a
method that is not known.
-/

namespace StakingGateway

open Api (Operation)

def makeOperation (index : Nat) (kind : OperationKind) (status : Option String)
    (account : Api.AccountIdentifier) (amount : Option Api.Amount) : Operation :=
  .of (Int64.ofNat index) kind.name status (some account) amount

namespace Api.Operation

def relatedTo (op : Operation) (index : Nat) : Operation :=
  { op with relatedOperations := some [.of (Int64.ofNat index)] }

/-- The operation with a value in its metadata and nothing else. -/
def withMetadata (op : Operation) (name : String) (value : Json) : Operation :=
  { op with metadata := some (.ofMembers [(name, value)]) }

end Api.Operation

/-- The operations that move tokens between two accounts, numbered from `index`. -/
def moveOperations (index : Nat) (status : Option String) (source target : Api.AccountIdentifier)
    (amount : Quantity) : List Operation :=
  [makeOperation index .transfer status source (some (amount.toAmount true)),
    (makeOperation (index + 1) .transfer status target (some (amount.toAmount false))).relatedTo
      index]

def Fee.operations [Suite] (fee : Fee) (index : Nat) (signer : Address) (status : Option String) :
    List Operation :=
  if fee.amount.isZero then []
  else
    [(makeOperation index .transfer status signer.account
        (some (fee.amount.toAmount true))).withMetadata feeGasKey (.integer fee.gas.toNat),
      (makeOperation (index + 1) .transfer status Address.feeAccumulator.account
        (some (fee.amount.toAmount false))).relatedTo index]

def TransactionKind.operations (kind : TransactionKind) (index : Nat) (signer : Address)
    (status : Option String) : List Operation :=
  match kind with
  | .transfer body => moveOperations index status signer.account body.target.account body.amount
  | .burn body =>
    [makeOperation index .burn status signer.account (some (body.amount.toAmount true))]
  | .addEscrow body =>
    moveOperations index status signer.account body.account.escrowAccount body.amount
  | .reclaimEscrow body =>
    [makeOperation index .reclaimEscrow status signer.account none,
      ((makeOperation (index + 1) .reclaimEscrow status body.account.escrowAccount
        none).relatedTo index).withMetadata sharesKey (.string body.shares.text)]
  | .unknown _ => []

namespace Transaction

def emitFee [Suite] (tx : Transaction) (signer : Address) (status : Option String)
    (ops : List Operation) : List Operation :=
  match tx.fee with
  | some fee => ops ++ fee.operations ops.length signer status
  | none => ops

def emitBody (tx : Transaction) (signer : Address) (status : Option String)
    (ops : List Operation) : Except TransactionError (List Operation) :=
  tx.kind.map fun kind => ops ++ kind.operations ops.length signer status

def operations [Suite] (tx : Transaction) (signer : Address) (status : Option String) :
    Except TransactionError (List Operation) :=
  tx.emitBody signer status (tx.emitFee signer status [])

end Transaction

end StakingGateway
