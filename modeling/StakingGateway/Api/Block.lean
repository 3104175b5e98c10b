import StakingGateway.Api.Operation

/-!
# Block and mempool messages

The requests and answers about blocks and about transactions that wait for a block.
-/

namespace StakingGateway.Api

open Json Model

structure BlockRequest where
  networkIdentifier : Option NetworkIdentifier := none
  blockIdentifier : Option PartialBlockIdentifier := none

instance : Model BlockRequest where
  toJson value :=
    .record [optionalField "network_identifier" value.networkIdentifier,
      optionalField "block_identifier" value.blockIdentifier]
  ofDocument? document := do
    let members ← document.members? ["network_identifier", "block_identifier"]
    let networkIdentifier ← optional members "network_identifier"
    let blockIdentifier ← optional members "block_identifier"
    return ⟨networkIdentifier, blockIdentifier⟩

def BlockRequest.of (networkIdentifier : NetworkIdentifier)
    (blockIdentifier : PartialBlockIdentifier) : BlockRequest :=
  { networkIdentifier := some networkIdentifier, blockIdentifier := some blockIdentifier }

/-- A block; all its transactions are in it, so there are no others to name. -/
structure BlockResponse where
  block : Option Block := none
  otherTransactions : Option (List TransactionIdentifier) := none

instance : Model BlockResponse where
  toJson value :=
    .record [optionalField "block" value.block,
      optionalField "other_transactions" value.otherTransactions]
  ofDocument? document := do
    let members ← document.members? ["block", "other_transactions"]
    let block ← optional members "block"
    let otherTransactions ← optional members "other_transactions"
    return ⟨block, otherTransactions⟩

def BlockResponse.of (block : Option Block) : BlockResponse :=
  { block }

structure BlockTransactionRequest where
  networkIdentifier : Option NetworkIdentifier := none
  blockIdentifier : BlockIdentifier
  transactionIdentifier : TransactionIdentifier

instance : Model BlockTransactionRequest where
  toJson value :=
    .record [optionalField "network_identifier" value.networkIdentifier,
      field "block_identifier" value.blockIdentifier,
      field "transaction_identifier" value.transactionIdentifier]
  ofDocument? document := do
    let members ← document.members? ["network_identifier", "block_identifier",
      "transaction_identifier"]
    let networkIdentifier ← optional members "network_identifier"
    let blockIdentifier ← required members "block_identifier"
    let transactionIdentifier ← required members "transaction_identifier"
    return ⟨networkIdentifier, blockIdentifier, transactionIdentifier⟩

structure BlockTransactionResponse where
  transaction : Transaction

instance : Model BlockTransactionResponse where
  toJson value :=
    .record [field "transaction" value.transaction]
  ofDocument? document := do
    let members ← document.members? ["transaction"]
    let transaction ← required members "transaction"
    return ⟨transaction⟩

structure MempoolResponse where
  transactionIdentifiers : List TransactionIdentifier

instance : Model MempoolResponse where
  toJson value :=
    .record [field "transaction_identifiers" value.transactionIdentifiers]
  ofDocument? document := do
    let members ← document.members? ["transaction_identifiers"]
    let transactionIdentifiers ← required members "transaction_identifiers"
    return ⟨transactionIdentifiers⟩

structure MempoolTransactionRequest where
  networkIdentifier : Option NetworkIdentifier := none
  transactionIdentifier : TransactionIdentifier

instance : Model MempoolTransactionRequest where
  toJson value :=
    .record [optionalField "network_identifier" value.networkIdentifier,
      field "transaction_identifier" value.transactionIdentifier]
  ofDocument? document := do
    let members ← document.members? ["network_identifier", "transaction_identifier"]
    let networkIdentifier ← optional members "network_identifier"
    let transactionIdentifier ← required members "transaction_identifier"
    return ⟨networkIdentifier, transactionIdentifier⟩

def MempoolTransactionRequest.of (networkIdentifier : NetworkIdentifier)
    (transactionIdentifier : TransactionIdentifier) : MempoolTransactionRequest :=
  { networkIdentifier := some networkIdentifier, transactionIdentifier }

/-- What a waiting transaction would do. -/
structure MempoolTransactionResponse where
  transaction : Transaction
  metadata : Option Object := none

instance : Model MempoolTransactionResponse where
  toJson value :=
    .record [field "transaction" value.transaction, optionalField "metadata" value.metadata]
  ofDocument? document := do
    let members ← document.members? ["transaction", "metadata"]
    let transaction ← required members "transaction"
    let metadata ← optional members "metadata"
    return ⟨transaction, metadata⟩

def MempoolTransactionResponse.of (transaction : Transaction) : MempoolTransactionResponse :=
  { transaction }

end StakingGateway.Api
