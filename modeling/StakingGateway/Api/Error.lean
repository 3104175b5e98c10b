import StakingGateway.Json.Record

/-!
# Errors

The errors that the gateway reports, each with a fixed code and text and whether a later attempt
may succeed.  What is particular to one occurrence stands in its details.
-/

namespace StakingGateway.Api

open Json Model

inductive ErrorKind
  | unableToGetChainId
  | invalidBlockchain
  | invalidSubnetwork
  | invalidNetwork
  | missingNetworkIdentifier
  | unableToGetLatestBlock
  | unableToGetGenesisBlock
  | unableToGetAccount
  | mustQueryByIndex
  | invalidAccountAddress
  | mustSpecifySubAccount
  | unableToGetBlock
  | notImplemented
  | unableToGetTransactions
  | unableToSubmitTransaction
  | unableToGetNextNonce
  | malformedValue
  | unableToGetNodeStatus
  | transactionNotFound
  | notAvailableInOfflineMode
  deriving DecidableEq, Repr

namespace ErrorKind

def code : ErrorKind → UInt32
  | .unableToGetChainId => 1
  | .invalidBlockchain => 2
  | .invalidSubnetwork => 3
  | .invalidNetwork => 4
  | .missingNetworkIdentifier => 5
  | .unableToGetLatestBlock => 6
  | .unableToGetGenesisBlock => 7
  | .unableToGetAccount => 8
  | .mustQueryByIndex => 9
  | .invalidAccountAddress => 10
  | .mustSpecifySubAccount => 11
  | .unableToGetBlock => 12
  | .notImplemented => 13
  | .unableToGetTransactions => 14
  | .unableToSubmitTransaction => 15
  | .unableToGetNextNonce => 16
  | .malformedValue => 17
  | .unableToGetNodeStatus => 18
  | .transactionNotFound => 19
  | .notAvailableInOfflineMode => 20

def message : ErrorKind → String
  | .unableToGetChainId => "unable to get chain ID"
  | .invalidBlockchain => "invalid blockchain specified in network identifier"
  | .invalidSubnetwork => "invalid sub-network identifier"
  | .invalidNetwork => "invalid network specified in network identifier"
  | .missingNetworkIdentifier => "network identifier is missing"
  | .unableToGetLatestBlock => "unable to get latest block"
  | .unableToGetGenesisBlock => "unable to get genesis block"
  | .unableToGetAccount => "unable to get account"
  | .mustQueryByIndex => "blocks must be queried by index and not hash"
  | .invalidAccountAddress => "invalid account address"
  | .mustSpecifySubAccount => "a valid subaccount must be specified ('general' or 'escrow')"
  | .unableToGetBlock => "unable to get block"
  | .notImplemented => "operation not implemented"
  | .unableToGetTransactions => "unable to get transactions"
  | .unableToSubmitTransaction => "unable to submit transaction"
  | .unableToGetNextNonce => "unable to get next nonce"
  | .malformedValue => "malformed value"
  | .unableToGetNodeStatus => "unable to get node status"
  | .transactionNotFound => "transaction not found"
  | .notAvailableInOfflineMode => "not available in offline mode"

def retriable : ErrorKind → Bool
  | .unableToGetChainId => true
  | .unableToGetLatestBlock => true
  | .unableToGetGenesisBlock => true
  | .unableToGetAccount => true
  | .unableToGetBlock => true
  | .unableToGetTransactions => true
  | .unableToGetNextNonce => true
  | .unableToGetNodeStatus => true
  | _ => false

def all : List ErrorKind :=
  [.unableToGetChainId, .invalidBlockchain, .invalidSubnetwork, .invalidNetwork,
    .missingNetworkIdentifier, .unableToGetLatestBlock, .unableToGetGenesisBlock,
    .unableToGetAccount, .mustQueryByIndex, .invalidAccountAddress, .mustSpecifySubAccount,
    .unableToGetBlock, .notImplemented, .unableToGetTransactions, .unableToSubmitTransaction,
    .unableToGetNextNonce, .malformedValue, .unableToGetNodeStatus, .transactionNotFound,
    .notAvailableInOfflineMode]

end ErrorKind

/-- A failure, with an account of the occurrence if there is one. -/
structure Failure where
  kind : ErrorKind
  reason : Option String := none
  deriving DecidableEq, Repr

structure ErrorReport where
  code : UInt32
  message : String
  retriable : Bool
  details : Option Object := none

instance : Model ErrorReport where
  toJson value :=
    .record [field "code" value.code, field "message" value.message,
      field "retriable" value.retriable, optionalField "details" value.details]
  ofDocument? document := do
    let members ← document.members? ["code", "message", "retriable", "details"]
    let code ← required members "code"
    let message ← required members "message"
    let retriable ← required members "retriable"
    let details ← optional members "details"
    return ⟨code, message, retriable, details⟩

def ErrorKind.report (kind : ErrorKind) : ErrorReport :=
  { code := kind.code, message := kind.message, retriable := kind.retriable }

namespace Failure

def details (failure : Failure) : Option Object :=
  failure.reason.map fun reason => .ofMembers [("error_message", .string reason)]

def report (failure : Failure) : ErrorReport :=
  { failure.kind.report with details := failure.details }

end Failure

end StakingGateway.Api
