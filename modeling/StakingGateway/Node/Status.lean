/-!
# Failures of node calls

A call that the node refuses ends with a status: a code and a message.  Codes that are not known
count as unknown errors.
-/

namespace StakingGateway

inductive StatusCode
  | cancelled
  | unknown
  | invalidArgument
  | deadlineExceeded
  | notFound
  | alreadyExists
  | permissionDenied
  | resourceExhausted
  | failedPrecondition
  | aborted
  | outOfRange
  | unimplemented
  | internal
  | unavailable
  | dataLoss
  | unauthenticated
  deriving DecidableEq, Repr

namespace StatusCode

def ofNumber : Nat → StatusCode
  | 1 => .cancelled
  | 3 => .invalidArgument
  | 4 => .deadlineExceeded
  | 5 => .notFound
  | 6 => .alreadyExists
  | 7 => .permissionDenied
  | 8 => .resourceExhausted
  | 9 => .failedPrecondition
  | 10 => .aborted
  | 11 => .outOfRange
  | 12 => .unimplemented
  | 13 => .internal
  | 14 => .unavailable
  | 15 => .dataLoss
  | 16 => .unauthenticated
  | _ => .unknown

def text : StatusCode → String
  | .cancelled => "The operation was cancelled"
  | .unknown => "Unknown error"
  | .invalidArgument => "Client specified an invalid argument"
  | .deadlineExceeded => "Deadline expired before operation could complete"
  | .notFound => "Some requested entity was not found"
  | .alreadyExists => "Some entity that we attempted to create already exists"
  | .permissionDenied =>
    "The caller does not have permission to execute the specified operation"
  | .resourceExhausted => "Some resource has been exhausted"
  | .failedPrecondition =>
    "The system is not in a state required for the operation's execution"
  | .aborted => "The operation was aborted"
  | .outOfRange => "Operation was attempted past the valid range"
  | .unimplemented => "Operation is not implemented or not supported"
  | .internal => "Internal error"
  | .unavailable => "The service is currently unavailable"
  | .dataLoss => "Unrecoverable data loss or corruption"
  | .unauthenticated => "The request does not have valid authentication credentials"

end StatusCode

/-- How a call ended that has no answer. -/
structure Status where
  code : StatusCode
  message : String
  deriving DecidableEq, Repr

inductive NodeError
  | connect (address reason : String)
  | refused (status : Status)
  | duplicateTransaction
  deriving DecidableEq, Repr

/-- Whether a word stands somewhere in a text. -/
def occursIn (word : List Char) : List Char → Bool
  | [] => word.isEmpty
  | c :: rest => word.isPrefixOf (c :: rest) || occursIn word rest

/-- What the node says of a transaction that it has already. -/
def duplicateTransactionPhrase : String := "duplicate transaction"

namespace NodeError

def ofStatus (status : Status) : NodeError :=
  if occursIn duplicateTransactionPhrase.toList status.message.toList then .duplicateTransaction
  else .refused status

def message : NodeError → String
  | .connect address reason => "failed to connect to node at " ++ address ++ ": " ++ reason
  | .refused status => "node call failed (" ++ status.code.text ++ "): " ++ status.message
  | .duplicateTransaction => "transaction is already known to the node"

end NodeError

end StakingGateway
