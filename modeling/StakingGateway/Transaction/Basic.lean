import StakingGateway.Bytes.Base64
import StakingGateway.Staking.Body

/-!
# Transactions

A transaction names a method and carries the method's body as a free value, so a transaction of a
method that is not known here is still a transaction.  `kind` reads the body by the method, and
`ofKind` writes it.
-/

namespace StakingGateway

open Cbor

/-- A limit on the work a transaction may cause. -/
abbrev Gas := UInt64

structure Fee where
  gas : Gas
  amount : Quantity
  deriving DecidableEq

structure Transaction where
  fee : Option Fee
  body : Option Value
  nonce : UInt64
  method : String

/-- The body of a transaction, told apart by its method. -/
inductive TransactionKind
  | transfer (body : Staking.Transfer)
  | burn (body : Staking.Burn)
  | addEscrow (body : Staking.AddEscrow)
  | reclaimEscrow (body : Staking.ReclaimEscrow)
  | unknown (method : String)
  deriving DecidableEq

inductive TransactionError
  | base64 (reason : Base64.Error)
  | cbor (reason : DecodeError)
  | malformedBody (method : String) (reason : DecodeError)
  | malformedPublicKey (length : Nat)
  | malformedSignature (length : Nat)
  | badSignature
  deriving DecidableEq, Repr

def TransactionError.message : TransactionError → String
  | .base64 reason => "base64 decode failed: " ++ reason.message
  | .cbor reason => "CBOR codec failed: " ++ reason.message
  | .malformedBody method reason => "malformed " ++ method ++ " body: " ++ reason.message
  | .malformedPublicKey length => "malformed public key (" ++ toString length ++ " bytes)"
  | .malformedSignature length => "malformed signature (" ++ toString length ++ " bytes)"
  | .badSignature => "signature verification failed"

namespace Fee

def toItem (fee : Fee) : Item :=
  .record [("gas", some (.unsigned fee.gas)), ("amount", some fee.amount.toItem)]

def ofItem? (item : Item) : Option Fee := do
  let members ← item.members? ["gas", "amount"]
  let gas ← defaulted members "gas" Item.asUInt64? 0
  let amount ← defaulted members "amount" Quantity.ofItem? .zero
  return ⟨gas, amount⟩

end Fee

namespace TransactionKind

def method : TransactionKind → String
  | .transfer _ => Staking.Transfer.method
  | .burn _ => Staking.Burn.method
  | .addEscrow _ => Staking.AddEscrow.method
  | .reclaimEscrow _ => Staking.ReclaimEscrow.method
  | .unknown method => method

def body? : TransactionKind → Option Item
  | .transfer body => some body.toItem
  | .burn body => some body.toItem
  | .addEscrow body => some body.toItem
  | .reclaimEscrow body => some body.toItem
  | .unknown _ => none

end TransactionKind

namespace Transaction

def ofKind (nonce : UInt64) (fee : Fee) (kind : TransactionKind) : Transaction :=
  ⟨some fee, kind.body?.map Value.ofItem, nonce, kind.method⟩

/-- Reads the body of a transaction; a body that is not given counts as null. -/
def readBody {α : Type} (tx : Transaction) (read : Item → Option α) : Except TransactionError α :=
  match read (tx.body.getD .null).item with
  | some body => .ok body
  | none => .error (.malformedBody tx.method .unexpected)

def kind (tx : Transaction) : Except TransactionError TransactionKind :=
  if tx.method = Staking.Transfer.method then
    (tx.readBody Staking.Transfer.ofItem?).map .transfer
  else if tx.method = Staking.Burn.method then
    (tx.readBody Staking.Burn.ofItem?).map .burn
  else if tx.method = Staking.AddEscrow.method then
    (tx.readBody Staking.AddEscrow.ofItem?).map .addEscrow
  else if tx.method = Staking.ReclaimEscrow.method then
    (tx.readBody Staking.ReclaimEscrow.ofItem?).map .reclaimEscrow
  else .ok (.unknown tx.method)

/-- The fields of a transaction, in key order. -/
def fields (tx : Transaction) : List (String × Option Item) :=
  [("fee", tx.fee.map Fee.toItem), ("body", tx.body.map Value.item),
    ("nonce", some (.unsigned tx.nonce)), ("method", some (.text tx.method))]

def toItem (tx : Transaction) : Item :=
  .record tx.fields

def ofItem? (item : Item) : Option Transaction := do
  let members ← item.members? ["fee", "body", "nonce", "method"]
  let fee ← optional members "fee" Fee.ofItem?
  let body ← optional members "body" fun item => some (Value.ofItem item)
  let nonce ← defaulted members "nonce" Item.asUInt64? 0
  let method ← required members "method" Item.asText?
  return ⟨fee, body, nonce, method⟩

def encode (tx : Transaction) : List UInt8 :=
  tx.toItem.encode

def decode (bytes : List UInt8) : Except TransactionError Transaction :=
  (decodeAs ofItem? bytes).mapError .cbor

end Transaction

end StakingGateway
