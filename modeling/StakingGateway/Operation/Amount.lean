import StakingGateway.Address
import StakingGateway.Api.Operation
import StakingGateway.Quantity

/-!
# Amounts and accounts of operations

The chain has one currency, whose unit has nine decimal places.  An amount that leaves an account
carries a minus sign and one that enters it none; zero is written without a sign and read with or
without.  An account is named by its address, and its escrow by the address and a sub-account.
-/

namespace StakingGateway

def blockchain : String := "Oasis"

/-- The sub-account of spendable tokens, which may also go unnamed. -/
def generalSubAccount : String := "general"

def escrowSubAccount : String := "escrow"

def currency : Api.Currency :=
  .of "ROSE" 9

inductive AmountError
  | wrongCurrency (symbol : String) (decimals : UInt32)
  | malformed (text : String)
  | wrongSign (text : String)
  deriving DecidableEq, Repr

def AmountError.message : AmountError → String
  | .wrongCurrency symbol decimals =>
    "unsupported currency " ++ symbol ++ " with " ++ toString decimals.toNat ++ " decimals"
  | .malformed text => "malformed amount value '" ++ text ++ "'"
  | .wrongSign text => "amount '" ++ text ++ "' has the wrong sign"

namespace Quantity

def isZero (q : Quantity) : Bool :=
  q.units = 0

/-- The amount of a credit, or of a debit. -/
def toAmount (q : Quantity) (debit : Bool) : Api.Amount :=
  .of (if debit && !q.isZero then "-" ++ q.text else q.text) currency

def splitSign (text : String) : Bool × String :=
  match text.toList with
  | '-' :: digits => (true, String.ofList digits)
  | _ => (false, text)

def ofAmount (amount : Api.Amount) (debit : Bool) : Except AmountError Quantity :=
  if amount.currency.symbol ≠ currency.symbol ∨ amount.currency.decimals ≠ currency.decimals then
    .error (.wrongCurrency amount.currency.symbol amount.currency.decimals)
  else
    let (negative, digits) := splitSign amount.value
    match ofText digits with
    | .error _ => .error (.malformed amount.value)
    | .ok q =>
      if !q.isZero && negative != debit then .error (.wrongSign amount.value) else .ok q

end Quantity

namespace Address

def account (address : Address) : Api.AccountIdentifier :=
  .of address.text

def escrowAccount (address : Address) : Api.AccountIdentifier :=
  .ofSubAccount address.text escrowSubAccount

end Address

end StakingGateway
