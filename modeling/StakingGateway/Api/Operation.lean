import StakingGateway.Api.Identifier

/-!
# Operations, transactions and blocks

An operation changes the balance of one account.  A transaction is a list of operations, and a
block a list of transactions.
-/

namespace StakingGateway.Api

open Json Model

/-- A currency, and how many decimal places its usual unit has. -/
structure Currency where
  symbol : String
  decimals : UInt32
  metadata : Option Object := none

instance : Model Currency where
  toJson value :=
    .record [field "symbol" value.symbol, field "decimals" value.decimals,
      optionalField "metadata" value.metadata]
  ofDocument? document := do
    let members ← document.members? ["symbol", "decimals", "metadata"]
    let symbol ← required members "symbol"
    let decimals ← required members "decimals"
    let metadata ← optional members "metadata"
    return ⟨symbol, decimals, metadata⟩

def Currency.of (symbol : String) (decimals : UInt32) : Currency :=
  { symbol, decimals }

/-- A signed decimal number of the smallest units of a currency. -/
structure Amount where
  value : String
  currency : Currency
  metadata : Option Object := none

instance : Model Amount where
  toJson value :=
    .record [field "value" value.value, field "currency" value.currency,
      optionalField "metadata" value.metadata]
  ofDocument? document := do
    let members ← document.members? ["value", "currency", "metadata"]
    let value ← required members "value"
    let currency ← required members "currency"
    let metadata ← optional members "metadata"
    return ⟨value, currency, metadata⟩

def Amount.of (value : String) (currency : Currency) : Amount :=
  { value, currency }

/-- A change of the balance of one account.  The status is open until the operation is on chain. -/
structure Operation where
  operationIdentifier : OperationIdentifier
  relatedOperations : Option (List OperationIdentifier) := none
  type : String
  status : Option String := none
  account : Option AccountIdentifier := none
  amount : Option Amount := none
  metadata : Option Object := none

instance : Model Operation where
  toJson value :=
    .record [field "operation_identifier" value.operationIdentifier,
      optionalField "related_operations" value.relatedOperations, field "type" value.type,
      optionalField "status" value.status, optionalField "account" value.account,
      optionalField "amount" value.amount, optionalField "metadata" value.metadata]
  ofDocument? document := do
    let members ← document.members? ["operation_identifier", "related_operations", "type",
      "status", "account", "amount", "metadata"]
    let operationIdentifier ← required members "operation_identifier"
    let relatedOperations ← optional members "related_operations"
    let type ← required members "type"
    let status ← optional members "status"
    let account ← optional members "account"
    let amount ← optional members "amount"
    let metadata ← optional members "metadata"
    return ⟨operationIdentifier, relatedOperations, type, status, account, amount, metadata⟩

/-- An operation that relates to no other and carries no metadata. -/
def Operation.of (index : Int64) (type : String) (status : Option String)
    (account : Option AccountIdentifier) (amount : Option Amount) : Operation :=
  { operationIdentifier := .of index, type, status, account, amount }

structure Transaction where
  transactionIdentifier : TransactionIdentifier
  operations : List Operation
  metadata : Option Object := none

instance : Model Transaction where
  toJson value :=
    .record [field "transaction_identifier" value.transactionIdentifier,
      field "operations" value.operations, optionalField "metadata" value.metadata]
  ofDocument? document := do
    let members ← document.members? ["transaction_identifier", "operations", "metadata"]
    let transactionIdentifier ← required members "transaction_identifier"
    let operations ← required members "operations"
    let metadata ← optional members "metadata"
    return ⟨transactionIdentifier, operations, metadata⟩

def Transaction.of (transactionIdentifier : TransactionIdentifier)
    (operations : List Operation) : Transaction :=
  { transactionIdentifier, operations }

/-- Milliseconds since the start of 1970. -/
structure Timestamp where
  milliseconds : Int64
  deriving DecidableEq

instance : Model Timestamp where
  toJson timestamp := Model.toJson timestamp.milliseconds
  ofDocument? document := (Model.ofDocument? document).map Timestamp.mk

structure Block where
  blockIdentifier : BlockIdentifier
  parentBlockIdentifier : BlockIdentifier
  timestamp : Timestamp
  transactions : List Transaction
  metadata : Option Object := none

instance : Model Block where
  toJson value :=
    .record [field "block_identifier" value.blockIdentifier,
      field "parent_block_identifier" value.parentBlockIdentifier,
      field "timestamp" value.timestamp, field "transactions" value.transactions,
      optionalField "metadata" value.metadata]
  ofDocument? document := do
    let members ← document.members? ["block_identifier", "parent_block_identifier", "timestamp",
      "transactions", "metadata"]
    let blockIdentifier ← required members "block_identifier"
    let parentBlockIdentifier ← required members "parent_block_identifier"
    let timestamp ← required members "timestamp"
    let transactions ← required members "transactions"
    let metadata ← optional members "metadata"
    return ⟨blockIdentifier, parentBlockIdentifier, timestamp, transactions, metadata⟩

def Block.of (blockIdentifier parentBlockIdentifier : BlockIdentifier) (timestamp : Timestamp)
    (transactions : List Transaction) : Block :=
  { blockIdentifier, parentBlockIdentifier, timestamp, transactions }

structure OperationStatus where
  status : String
  successful : Bool

instance : Model OperationStatus where
  toJson value :=
    .record [field "status" value.status, field "successful" value.successful]
  ofDocument? document := do
    let members ← document.members? ["status", "successful"]
    let status ← required members "status"
    let successful ← required members "successful"
    return ⟨status, successful⟩

end StakingGateway.Api
