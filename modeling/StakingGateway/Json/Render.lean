import StakingGateway.Json.Value
import StakingGateway.Double.Shortest

/-!
# Writing JSON text

A value is written without blanks, its members in their order.  A floating-point number is written
by its shortest decimal, always with a fraction or an exponent: without an exponent from 1e-5 up
to below 1e16, and with one outside, which has its sign.  Quotes, backslashes and control
characters are escaped.
-/

namespace StakingGateway.Json

def decimalText (decimal : Double.Decimal) : String :=
  let digits := toString decimal.digits
  let point := (digits.length : Int) + decimal.exponent
  if 0 ≤ decimal.exponent ∧ point ≤ 16 then
    digits ++ String.ofList (List.replicate decimal.exponent.toNat '0') ++ ".0"
  else if 0 < point ∧ point ≤ 16 then
    String.ofList (digits.toList.take point.toNat) ++ "."
      ++ String.ofList (digits.toList.drop point.toNat)
  else if -5 < point ∧ point ≤ 0 then
    "0." ++ String.ofList (List.replicate (-point).toNat '0') ++ digits
  else
    let fraction := digits.toList.drop 1
    String.ofList (digits.toList.take 1)
      ++ (if fraction.isEmpty then "" else "." ++ String.ofList fraction)
      ++ (if 0 < point then "e+" else "e") ++ toString (point - 1)

def doubleText (x : Double) : String :=
  (if x.isNegative then "-" else "") ++ decimalText x.shortest

def Number.text : Number → String
  | .integer value => toString value
  | .float value => doubleText value

def hexDigit (value : Nat) : Char :=
  Nat.digitChar value

def escaped (c : Char) : List Char :=
  if c = '"' then ['\\', '"']
  else if c = '\\' then ['\\', '\\']
  else if 0x20 ≤ c.toNat then [c]
  else if c = '\n' then ['\\', 'n']
  else if c = '\r' then ['\\', 'r']
  else if c = '\t' then ['\\', 't']
  else if c.toNat = 0x08 then ['\\', 'b']
  else if c.toNat = 0x0c then ['\\', 'f']
  else ['\\', 'u', '0', '0', hexDigit (c.toNat / 16), hexDigit (c.toNat % 16)]

def quoted (text : String) : String :=
  "\"" ++ String.ofList (text.toList.flatMap escaped) ++ "\""

mutual

def render : Json → String
  | .null => "null"
  | .bool true => "true"
  | .bool false => "false"
  | .number value => value.text
  | .string value => quoted value
  | .array items => "[" ++ ",".intercalate (renderItems items) ++ "]"
  | .object members => "\x7b" ++ ",".intercalate (renderMembers members) ++ "\x7d"

def renderItems : List Json → List String
  | [] => []
  | item :: items => render item :: renderItems items

def renderMembers : List (String × Json) → List String
  | [] => []
  | (name, value) :: members => (quoted name ++ ":" ++ render value) :: renderMembers members

end

end StakingGateway.Json
