import StakingGateway.Json.Render
import StakingGateway.Operation.Kind
import StakingGateway.Transaction.Basic

/-!
# Operations to transactions

A list of operations describes a transaction if it is a fee pair, which may be missing, followed
by a body.  The body is a transfer as a debit and a credit, a burn as a debit, an escrow as a
debit and a credit to an escrow account, or a reclaim as a pair without amounts that carries a
number of shares.  All debits are those of one account, which is to sign the transaction.

Two transfers in front, the second of them to the account that collects fees, are always taken for
a fee pair.
-/

namespace StakingGateway

open Api (Operation)

def feeGasKey : String := "fee_gas"

def sharesKey : String := "reclaim_escrow_shares"

/-- The gas of a transaction whose operations do not tell it. -/
def defaultGas : Gas := 10000

/-- What is wrong with operations of a known shape.  The role tells which operation it is. -/
inductive OperationsFlaw
  | noAccount (role : String)
  | invalidAddress (role text : String) (reason : Address.Error)
  | noAmount (role : String)
  | invalidAmount (role : String) (reason : AmountError)
  | invalidGas (value : Json)
  | wrongIndex (found expected : Int64)
  | wrongRelation (index related : Int64)
  | wrongSubAccount (role found : String)
  | amountsDiffer (role : String) (debit credit : Quantity)
  | signersDiffer (role : String) (source signer : Address)
  | unexpectedAmount
  | invalidShares (reason : Quantity.Error)
  | noShares

inductive OperationsError
  | unsupportedType (name : String)
  | unsupportedShape (types : List String)
  | malformed (flaw : OperationsFlaw)

def OperationsFlaw.message : OperationsFlaw → String
  | .noAccount role => role ++ " operation has no account"
  | .invalidAddress role text reason =>
    "invalid " ++ role ++ " address (" ++ text ++ "): " ++ reason.message
  | .noAmount role => role ++ " operation has no amount"
  | .invalidAmount role reason => "invalid " ++ role ++ " amount: " ++ reason.message
  | .invalidGas value => "malformed fee transfer gas metadata: " ++ value.render
  | .wrongIndex found expected =>
    "operation index " ++ toString found ++ " out of sequence (expected: " ++ toString expected
      ++ ")"
  | .wrongRelation index related =>
    "operation " ++ toString index ++ " relates to operation " ++ toString related
      ++ ", which does not precede it"
  | .wrongSubAccount role found =>
    role ++ " wrong subaccount (got: " ++ found ++ " expected: none)"
  | .amountsDiffer role debit credit =>
    role ++ " amounts differ between operations (from: " ++ debit.text ++ " to: " ++ credit.text
      ++ ")"
  | .signersDiffer role source signer =>
    role ++ " from doesn't match signer (from: " ++ source.text ++ " signer: " ++ signer.text ++ ")"
  | .unexpectedAmount => "reclaim escrow operations must not carry amounts"
  | .invalidShares reason => "invalid reclaim escrow shares: " ++ reason.message
  | .noShares => "missing or malformed reclaim escrow shares metadata"

def OperationsError.message : OperationsError → String
  | .unsupportedType name => "unsupported operations: operation type '" ++ name ++ "'"
  | .unsupportedShape types => "unsupported operations: [" ++ ", ".intercalate types ++ "]"
  | .malformed flaw => "malformed operations: " ++ flaw.message

def OperationKind.ofName (name : String) : Except OperationsError OperationKind :=
  match ofName? name with
  | some kind => .ok kind
  | none => .error (.unsupportedType name)

/-- The gas that a JSON number stands for: a whole number, or a floating-point number without a
fraction.  The number just above the largest gas counts as the largest. -/
def Gas.ofNumber? : Json.Number → Option Gas
  | .integer value =>
    if 0 ≤ value ∧ value < 0x10000000000000000 then some (UInt64.ofNat value.toNat) else none
  | .float value =>
    let whole := value.quanta / Double.one
    if value.isIntegral && (!value.isNegative || whole = 0) && whole ≤ 0x10000000000000000 then
      some (UInt64.ofNat (if whole < 0x10000000000000000 then whole else 0xffffffffffffffff))
    else none

namespace Api.Operation

def address (op : Operation) (role : String) : Except OperationsError Address :=
  match op.account with
  | none => .error (.malformed (.noAccount role))
  | some account =>
    match Address.ofText account.address with
    | .error reason => .error (.malformed (.invalidAddress role account.address reason))
    | .ok address => .ok address

def quantity (op : Operation) (debit : Bool) (role : String) : Except OperationsError Quantity :=
  match op.amount with
  | none => .error (.malformed (.noAmount role))
  | some amount =>
    match Quantity.ofAmount amount debit with
    | .error reason => .error (.malformed (.invalidAmount role reason))
    | .ok q => .ok q

def gas (op : Operation) : Except OperationsError Gas :=
  match op.metadata? feeGasKey with
  | none => .ok defaultGas
  | some value =>
    match value with
    | .number number =>
      match Gas.ofNumber? number with
      | some gas => .ok gas
      | none => .error (.malformed (.invalidGas value))
    | _ => .error (.malformed (.invalidGas value))

def shares (op : Operation) : Except OperationsError Quantity :=
  match op.metadata? sharesKey with
  | some (.string text) =>
    match Quantity.ofText text with
    | .error reason => .error (.malformed (.invalidShares reason))
    | .ok shares => .ok shares
  | _ => .error (.malformed .noShares)

def isEscrow (op : Operation) : Bool :=
  op.subAccount? = some escrowSubAccount

end Api.Operation

def checkRelated (index : Int64) : List Api.OperationIdentifier → Except OperationsError Unit
  | [] => .ok ()
  | related :: rest =>
    if related.index < 0 ∨ index ≤ related.index then
      .error (.malformed (.wrongRelation index related.index))
    else checkRelated index rest

/-- Checks that operations are numbered in a row, and relate only to operations before them. -/
def checkIndices (next : Nat) : List Operation → Except OperationsError Unit
  | [] => .ok ()
  | op :: rest => do
    let index := Int64.ofNat next
    if op.operationIdentifier.index ≠ index then
      throw (.malformed (.wrongIndex op.operationIdentifier.index index))
    checkRelated index (op.relatedOperations.getD [])
    checkIndices (next + 1) rest

section

variable [Suite]

def isFeePair (debit credit : Operation) : Bool :=
  debit.kind? = some .transfer && credit.kind? = some .transfer
    && credit.account.any fun account => account.address = Address.feeAccumulator.text

def splitFee : List Operation → Option (Operation × Operation) × List Operation
  | debit :: credit :: rest =>
    if isFeePair debit credit then (some (debit, credit), rest)
    else (none, debit :: credit :: rest)
  | ops => (none, ops)

def hasFee (ops : List Operation) : Bool :=
  (splitFee ops).1.isSome

end

def readFee (debit credit : Operation) : Except OperationsError (Address × Fee) := do
  if let some found := debit.subAccount? then
    throw (.malformed (.wrongSubAccount "fee transfer from" found))
  let payer ← debit.address "fee transfer from"
  let amount ← debit.quantity true "fee transfer from"
  let gas ← debit.gas
  if let some found := credit.subAccount? then
    throw (.malformed (.wrongSubAccount "fee transfer to" found))
  let credited ← credit.quantity false "fee transfer to"
  if amount ≠ credited then
    throw (.malformed (.amountsDiffer "fee transfer" amount credited))
  return (payer, ⟨gas, amount⟩)

/-- The address that an operation debits, which is the payer of the fee if there is one. -/
def readSigner (payer : Option Address) (op : Operation) (role : String) :
    Except OperationsError Address := do
  let source ← op.address role
  match payer with
  | some signer =>
    if signer = source then return source
    else throw (.malformed (.signersDiffer role source signer))
  | none => return source

def readTransfer (payer : Option Address) (debit credit : Operation) (role : String) :
    Except OperationsError (Address × Address × Quantity) := do
  let source ← readSigner payer debit role
  let amount ← debit.quantity true (role ++ " from")
  let target ← credit.address (role ++ " to")
  let credited ← credit.quantity false (role ++ " to")
  if amount ≠ credited then
    throw (.malformed (.amountsDiffer role amount credited))
  return (source, target, amount)

def readReclaim (payer : Option Address) (first second : Operation) :
    Except OperationsError (Address × Staking.ReclaimEscrow) := do
  let source ← readSigner payer first "reclaim escrow"
  if first.amount.isSome ∨ second.amount.isSome then
    throw (.malformed .unexpectedAmount)
  let account ← second.address "reclaim escrow from"
  let shares ← second.shares
  return (source, ⟨shares, account⟩)

def readKind (payer : Option Address) (ops : List Operation) :
    Except OperationsError (Address × TransactionKind) :=
  let unsupported := .error (.unsupportedShape (ops.map (·.type)))
  match ops with
  | [op] =>
    if op.kind? = some .burn ∧ op.subAccount?.isNone then do
      let source ← readSigner payer op "burn"
      let amount ← op.quantity true "burn from"
      return (source, .burn ⟨amount⟩)
    else unsupported
  | [first, second] =>
    if first.kind? = some .transfer ∧ second.kind? = some .transfer
        ∧ first.subAccount?.isNone ∧ second.subAccount?.isNone then do
      let (source, target, amount) ← readTransfer payer first second "transfer"
      return (source, .transfer ⟨target, amount⟩)
    else if first.kind? = some .transfer ∧ second.kind? = some .transfer
        ∧ first.subAccount?.isNone ∧ second.isEscrow then do
      let (source, target, amount) ← readTransfer payer first second "add escrow"
      return (source, .addEscrow ⟨amount, target⟩)
    else if first.kind? = some .reclaimEscrow ∧ second.kind? = some .reclaimEscrow
        ∧ second.isEscrow then do
      let (source, body) ← readReclaim payer first second
      return (source, .reclaimEscrow body)
    else unsupported
  | _ => unsupported

/-- The transaction that operations describe, with the nonce left at zero, and the address that is
to sign it. -/
def Transaction.ofOperations [Suite] (ops : List Operation) :
    Except OperationsError (Address × Transaction) := do
  checkIndices 0 ops
  match splitFee ops with
  | (some (debit, credit), rest) =>
    let (payer, fee) ← readFee debit credit
    let (signer, kind) ← readKind (some payer) rest
    return (signer, .ofKind 0 fee kind)
  | (none, rest) =>
    let (signer, kind) ← readKind none rest
    return (signer, .ofKind 0 ⟨defaultGas, .zero⟩ kind)

end StakingGateway
