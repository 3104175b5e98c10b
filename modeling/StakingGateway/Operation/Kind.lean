import StakingGateway.Operation.Amount

/-!
# Kinds and states of operations

An operation is of one of three kinds, and once it is on chain it has one of two states.
-/

namespace StakingGateway

inductive OperationKind
  | transfer
  | burn
  | reclaimEscrow
  deriving DecidableEq, Repr

inductive OperationState
  | ok
  | failed
  deriving DecidableEq, Repr

namespace OperationKind

def all : List OperationKind :=
  [.transfer, .burn, .reclaimEscrow]

def name : OperationKind → String
  | .transfer => "Transfer"
  | .burn => "Burn"
  | .reclaimEscrow => "ReclaimEscrow"

def ofName? (name : String) : Option OperationKind :=
  all.find? fun kind => kind.name = name

end OperationKind

namespace OperationState

def name : OperationState → String
  | .ok => "OK"
  | .failed => "Failed"

end OperationState

namespace Api.Operation

/-- The kind of an operation, if it is one of those known. -/
def kind? (op : Operation) : Option OperationKind :=
  OperationKind.ofName? op.type

def subAccount? (op : Operation) : Option String :=
  (op.account.bind (·.subAccount)).map (·.address)

def metadata? (op : Operation) (name : String) : Option Json :=
  op.metadata.bind fun metadata => metadata.find? name

end Api.Operation

end StakingGateway
