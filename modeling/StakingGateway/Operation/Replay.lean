import StakingGateway.Operation.Emission
import StakingGateway.Transaction.Envelope
import StakingGateway.Transaction.Result

/-!
# Replaying blocks

A replay lists the operations of the transactions of a block, each under the hash of its
transaction, in the order in which the hashes first occurred.  The staking events in the result of
a transaction are what it did.  If it did not succeed, what it was meant to do is listed after
them, as failed; if there is no result yet, it is listed as done.  Events that no transaction
caused are listed under the hash of the block.
-/

namespace StakingGateway

open Api (Operation)

/-- An operation that took effect, numbered by its place and related to the one before it. -/
def effect (index : Nat) (kind : OperationKind) (account : Api.AccountIdentifier)
    (amount : Api.Amount) : Operation :=
  let op := makeOperation index kind (some OperationState.ok.name) account (some amount)
  if index = 0 then op else op.relatedTo (index - 1)

/-- A change of a balance: what kind of operation it is, on which account, and by what amount. -/
abbrev Change := OperationKind × Api.AccountIdentifier × Api.Amount

def moved (source target : Api.AccountIdentifier) (amount : Quantity) : List Change :=
  [(.transfer, source, amount.toAmount true), (.transfer, target, amount.toAmount false)]

namespace Staking

def EscrowEvent.changes [Suite] (event : EscrowEvent) : List Change :=
  (match event.add with
    | some add => moved add.owner.account add.escrow.escrowAccount add.amount
    | none => [])
  ++ (match event.take with
    | some take => moved take.owner.escrowAccount Address.commonPool.account take.amount
    | none => [])
  ++ (match event.reclaim with
    | some reclaim => moved reclaim.escrow.escrowAccount reclaim.owner.account reclaim.amount
    | none => [])

def Event.changes [Suite] (event : Event) : List Change :=
  (match event.transfer with
    | some transfer => moved transfer.source.account transfer.target.account transfer.amount
    | none => [])
  ++ (match event.burn with
    | some burn => [(.burn, burn.owner.account, burn.amount.toAmount true)]
    | none => [])
  ++ (match event.escrow with
    | some escrow => escrow.changes
    | none => [])

end Staking

def appendChanges (changes : List Change) (ops : List Operation) : List Operation :=
  changes.foldl (fun ops (kind, account, amount) =>
    ops ++ [effect ops.length kind account amount]) ops

def appendEvents [Suite] (events : List Staking.Event) (ops : List Operation) : List Operation :=
  appendChanges (events.flatMap fun event => event.changes) ops

/-- Why a transaction of a block could not be listed, or not in full. -/
inductive ReplayError
  | malformed (reason : TransactionError)
  | badSignature (reason : TransactionError)
  | badTransaction (reason : TransactionError)
  deriving DecidableEq, Repr

def ReplayError.message : ReplayError → String
  | .malformed reason => "malformed transaction: " ++ reason.message
  | .badSignature reason => "bad transaction signature: " ++ reason.message
  | .badTransaction reason => "bad transaction: " ++ reason.message

/-- Transactions in the order in which their hashes first occurred, and the place of each of them
by its hash. -/
structure Replay where
  transactions : List Api.Transaction
  index : List (Hash × Nat)

namespace Replay

def empty : Replay :=
  ⟨[], []⟩

def place? (replay : Replay) (hash : Hash) : Option Nat :=
  Assoc.find? hash replay.index

/-- Finds the place of a hash.  A new hash gets the next place, with no operations yet. -/
def locate (hash : Hash) (replay : Replay) : Nat × Replay :=
  match replay.place? hash with
  | some place => (place, replay)
  | none =>
    let place := replay.transactions.length
    (place, ⟨replay.transactions ++ [.of ⟨hash.text⟩ []], (hash, place) :: replay.index⟩)

/-- Puts operations under a hash; a new hash is put at the end. -/
def put (hash : Hash) (operations : List Operation) (replay : Replay) : Replay :=
  let (place, replay) := replay.locate hash
  { replay with
    transactions := replay.transactions.modify place fun tx => { tx with operations } }

def operations? (replay : Replay) (hash : Hash) : Option (List Operation) :=
  (replay.place? hash).bind fun place => replay.transactions[place]?.map (·.operations)

/-- The operations under a hash; there are none if it did not occur. -/
def operations (replay : Replay) (hash : Hash) : List Operation :=
  (replay.operations? hash).getD []

variable [Suite]

/-- The state of what a transaction was meant to do, if that is to be listed. -/
def intendedState : Option TransactionResult → Option OperationState
  | none => some .ok
  | some result => if result.isSuccess then none else some .failed

/-- Appends what a transaction was meant to do; a fee pair that stands there already is not
repeated. -/
def appendIntent (tx : Transaction) (signer : Address) (state : OperationState)
    (ops : List Operation) : Except TransactionError (List Operation) :=
  tx.emitBody signer (some state.name)
    (if hasFee ops then ops else tx.emitFee signer (some state.name) ops)

/-- Appends what a transaction did and, as far as it can be told, what it was meant to do. -/
def transactionOperations (tx : Transaction) (signer : Address) (result : Option TransactionResult)
    (ops : List Operation) : List Operation × Except ReplayError Unit :=
  let done := appendEvents (result.elim [] TransactionResult.stakingEvents) ops
  match intendedState result with
  | none => (done, .ok ())
  | some state =>
    match appendIntent tx signer state done with
    | .ok ops => (ops, .ok ())
    | .error reason => (done, .error (.badTransaction reason))

def openTransaction (chain : String) (raw : List UInt8) :
    Except ReplayError (Address × Transaction) := do
  let signed ← (SignedTransaction.decode raw).mapError .malformed
  (signed.openFor chain).mapError .badSignature

def addTransaction (chain : String) (raw : List UInt8) (result : Option TransactionResult)
    (replay : Replay) : Replay × Except ReplayError Unit :=
  match openTransaction chain raw with
  | .error reason => (replay, .error reason)
  | .ok (signer, tx) =>
    let hash := Hash.digest raw
    let (ops, outcome) := transactionOperations tx signer result (replay.operations hash)
    (replay.put hash ops, outcome)

/-- Lists transactions with the results at the same places, the first of them at `index`.  Those
that fail are named by their places. -/
def addTransactionsFrom (chain : String) (index : Nat) : List (List UInt8) →
    List TransactionResult → Replay → Replay × List (Nat × ReplayError)
  | [], _, replay => (replay, [])
  | raw :: raws, results, replay =>
    let (replay, outcome) := addTransaction chain raw results.head? replay
    let (replay, failures) := addTransactionsFrom chain (index + 1) raws results.tail replay
    match outcome with
    | .ok () => (replay, failures)
    | .error reason => (replay, (index, reason) :: failures)

def addTransactions (chain : String) (raws : List (List UInt8)) (results : List TransactionResult)
    (replay : Replay) : Replay × List (Nat × ReplayError) :=
  addTransactionsFrom chain 0 raws results replay

def addBlockEvent (block : Hash) (replay : Replay) (event : Staking.Event) : Replay :=
  replay.put block (appendEvents [event] (replay.operations block))

/-- Lists the events of a block that no transaction caused. -/
def addBlockEvents (block : Hash) (events : List Staking.Event) (replay : Replay) : Replay :=
  (events.filter (·.txHash.isEmpty)).foldl (addBlockEvent block) replay

end Replay

end StakingGateway
