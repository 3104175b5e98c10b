import StakingGateway.Gateway.Basic

/-!
# The command line

An option is named by its long name, with its value behind an equals sign or as the next argument,
or by its letter, with its value right behind it or as the next argument.  Letters may be joined,
the last of them with a value.  No option is named twice.

An option takes the next argument only if that is no option itself.  So an option may be named
without a value; it then needs one from the environment or a default.  The environment also adds a
value to an option that has one: the first value counts, but every port has to be a number.
-/

namespace StakingGateway

/-- An option with a value. -/
inductive Setting
  | listenAddress
  | listenPort
  | nodeAddress
  | offlineMode
  | offlineChainId
  deriving DecidableEq, Repr

inductive UsageError
  | unexpectedArgument (argument : String)
  | missingValue (setting : Setting)
  | repeated
  | invalidPort (text : String)
  | noChainId
  | noNodeAddress
  deriving DecidableEq, Repr

namespace Setting

def all : List Setting :=
  [.listenAddress, .listenPort, .nodeAddress, .offlineMode, .offlineChainId]

def longName : Setting → String
  | .listenAddress => "address"
  | .listenPort => "port"
  | .nodeAddress => "node-grpc-addr"
  | .offlineMode => "offline-mode"
  | .offlineChainId => "offline-mode-chain-id"

def letter? : Setting → Option Char
  | .listenAddress => some 'a'
  | .listenPort => some 'p'
  | _ => none

/-- The variable of the environment that sets an option. -/
def environmentName? : Setting → Option String
  | .listenAddress => none
  | .listenPort => some "OASIS_ROSETTA_GATEWAY_PORT"
  | .nodeAddress => some "OASIS_NODE_GRPC_ADDR"
  | .offlineMode => some "OASIS_ROSETTA_GATEWAY_OFFLINE_MODE"
  | .offlineChainId => some "OASIS_ROSETTA_GATEWAY_OFFLINE_MODE_CHAIN_ID"

/-- The value of an option that nothing sets. -/
def default? : Setting → Option String
  | .listenAddress => some "0.0.0.0"
  | .listenPort => some "8080"
  | _ => none

end Setting

def UsageError.message : UsageError → String
  | .unexpectedArgument argument => "unexpected argument '" ++ argument ++ "'"
  | .missingValue setting => "the option --" ++ setting.longName ++ " needs a value"
  | .repeated => "an option was given twice"
  | .invalidPort text => "invalid port '" ++ text ++ "'"
  | .noChainId => "offline mode requires the chain ID to be set"
  | .noNodeAddress => "the node gRPC address must be set"

/-- What the arguments give: the options they name, the values of those that have one, and whether
they ask for the version. -/
structure Arguments where
  named : List Setting
  settings : List (Setting × String)
  version : Bool

namespace Arguments

def empty : Arguments :=
  ⟨[], [], false⟩

def name (arguments : Arguments) (setting : Setting) : Except UsageError Arguments :=
  if setting ∈ arguments.named then .error .repeated
  else .ok { arguments with named := arguments.named ++ [setting] }

def set (arguments : Arguments) (setting : Setting) (value : String) : Arguments :=
  { arguments with settings := arguments.settings ++ [(setting, value)] }

def askVersion (arguments : Arguments) : Except UsageError Arguments :=
  if arguments.version then .error .repeated else .ok { arguments with version := true }

/-- Reads an option with the text behind its name: its value behind any equals signs, or nothing, and
then the option waits for its value. -/
def readSetting (arguments : Arguments) (setting : Setting) (behind : List Char) :
    Except UsageError (Arguments × Option Setting) := do
  let arguments ← arguments.name setting
  if behind.isEmpty then return (arguments, some setting)
  else return (arguments.set setting (String.ofList (behind.dropWhile (· = '='))), none)

/-- Reads joined letters, and tells which option waits for its value. -/
def readLetters (arguments : Arguments) :
    List Char → Except UsageError (Arguments × Option Setting)
  | [] => .ok (arguments, none)
  | letter :: rest =>
    match Setting.all.find? fun setting => setting.letter? = some letter with
    | some setting => arguments.readSetting setting rest
    | none =>
      if letter = 'V' then do readLetters (← arguments.askVersion) rest
      else .error (.unexpectedArgument (String.ofList (letter :: rest)))

/-- Reads a long name, and tells whether the option waits for its value. -/
def readLong (arguments : Arguments) (text : List Char) :
    Except UsageError (Arguments × Option Setting) :=
  let name := String.ofList (text.takeWhile (· != '='))
  match Setting.all.find? fun setting => setting.longName = name with
  | some setting => arguments.readSetting setting (text.dropWhile (· != '='))
  | none =>
    if name = "version" then arguments.askVersion.map fun arguments => (arguments, none)
    else .error (.unexpectedArgument name)

/-- Reads arguments, of which the first is the value of an option that waits for one, unless it is a
dash and more.  Two dashes alone end the options, and nothing may follow them. -/
def read (arguments : Arguments) :
    (waiting : Option Setting) → List String → Except UsageError Arguments
  | _, [] => .ok arguments
  | waiting, argument :: rest =>
    match argument.toList with
    | ['-', '-'] =>
      match rest with
      | [] => .ok arguments
      | argument :: _ => .error (.unexpectedArgument argument)
    | '-' :: '-' :: text => do
      let (arguments, waiting) ← arguments.readLong (text.dropWhile (· = '-'))
      read arguments waiting rest
    | '-' :: letter :: letters => do
      let (arguments, waiting) ← arguments.readLetters (letter :: letters)
      read arguments waiting rest
    | _ =>
      match waiting with
      | some setting => read (arguments.set setting argument) none rest
      | none => .error (.unexpectedArgument argument)

/-- The values of an option, the one that counts in front: as given and as the environment sets it,
or else its default. -/
def values (arguments : Arguments) (environment : String → Option String) (setting : Setting) :
    List String :=
  let given := (Assoc.find? setting arguments.settings).toList
  let found := (setting.environmentName?.bind environment).toList
  if (given ++ found).isEmpty then setting.default?.toList else given ++ found

end Arguments

inductive Command
  | showVersion
  | serveOffline (listenAddress : String) (port : Nat) (chainId : String)
  | serveNode (listenAddress : String) (port : Nat) (nodeAddress : String)
  deriving DecidableEq, Repr

/-- Reads a port: a number of 16 bits, which may have a plus sign. -/
def readPort? (text : String) : Option Nat :=
  let digits :=
    match text.toList with
    | '+' :: digits => digits
    | digits => digits
  if digits.isEmpty || !digits.all Char.isDigit then none
  else
    let port := Nat.ofDigitChars 10 digits 0
    if port < 65536 then some port else none

def readPort (text : String) : Except UsageError Nat :=
  match readPort? text with
  | some port => .ok port
  | none => .error (.invalidPort text)

/-- Whether a listen address is a host and a port. -/
def isListenAddress (address : String) : Bool :=
  let port := (address.toList.reverse.takeWhile (· != ':')).reverse
  port.length < address.length && (readPort? (String.ofList port)).isSome

def nonempty (value : Option String) : Option String :=
  value.filter fun text => !text.isEmpty

def Command.read (args : List String) (environment : String → Option String) :
    Except UsageError Command := do
  let arguments ← Arguments.empty.read none args
  let values := arguments.values environment
  match arguments.named.find? fun setting => (values setting).isEmpty with
  | some setting => throw (.missingValue setting)
  | none =>
    match ← (values .listenPort).mapM readPort with
    | [] => throw (.missingValue .listenPort)
    | port :: _ =>
      let value (setting : Setting) : Option String := (values setting).head?
      let listenAddress := (value .listenAddress).getD ""
      if arguments.version then return .showVersion
      else if (nonempty (value .offlineMode)).isSome then
        match nonempty (value .offlineChainId) with
        | some chainId => return .serveOffline listenAddress port chainId
        | none => throw .noChainId
      else
        match nonempty (value .nodeAddress) with
        | some nodeAddress => return .serveNode listenAddress port nodeAddress
        | none => throw .noNodeAddress

def versionText : String :=
  "Software version: " ++ softwareVersion ++ "\nRosetta API version: " ++ apiVersion ++ "\n"

end StakingGateway
