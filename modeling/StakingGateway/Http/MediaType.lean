/-!
# Media types

A media type is a type, a slash and a subtype, whose last part after a plus sign is its suffix;
after a semicolon there may be parameters, each a name, an equals sign and a value, which may stand
in quotes.  Outside of quotes, blanks stand only after a semicolon or a closing quote.  Letters are
read in either case.
-/

namespace StakingGateway.MediaType

def isToken (c : Char) : Bool :=
  c.isAlphanum || "!#$%&'*+-.^_`|~".toList.contains c

mutual

/-- Whether a text is the name of a parameter and what belongs to it, or nothing at all. -/
def areParameters (started : Bool) : List Char → Bool
  | [] => !started
  | ' ' :: rest => !started && areParameters false rest
  | '=' :: rest => started && isValue false rest
  | c :: rest => isToken c && areParameters true rest

/-- Whether a text is the value of a parameter and what follows it. -/
def isValue (started : Bool) : List Char → Bool
  | [] => true
  | '"' :: rest => !started && isQuoted false rest
  | ';' :: rest => started && areParameters false rest
  | c :: rest => isToken c && isValue true rest

/-- Whether a text is a value up to its closing quote and what follows it.  The value is not empty:
a quote at its start belongs to it. -/
def isQuoted (started : Bool) : List Char → Bool
  | [] => false
  | '"' :: rest => if started then areFurther rest else isQuoted true rest
  | c :: rest => 0x20 ≤ c.toNat && c.toNat < 0x7f && isQuoted true rest

/-- Whether a text may follow a closing quote: blanks, and further parameters. -/
def areFurther : List Char → Bool
  | [] => true
  | ' ' :: rest => areFurther rest
  | ';' :: rest => areParameters false rest
  | _ => false

end

/-- Whether a subtype is JSON or has it for a suffix; a plus sign in front belongs to the name. -/
def isJsonSubtype (subtype : List Char) : Bool :=
  let parts := subtype.splitOn '+'
  match parts.reverse with
  | [] => false
  | [name] => name = "json".toList
  | suffix :: name => (suffix = "json".toList && name != [[]]) || name = ["json".toList]

def isJson (text : String) : Bool :=
  let chars := text.toList.map Char.toLower
  let main := chars.takeWhile isToken
  match chars.drop main.length with
  | '/' :: rest =>
    let subtype := rest.takeWhile isToken
    !main.isEmpty && !subtype.isEmpty && isJsonSubtype subtype &&
      match rest.drop subtype.length with
      | [] => true
      | ';' :: parameters => areParameters false parameters
      | _ => false
  | _ => false

end StakingGateway.MediaType
