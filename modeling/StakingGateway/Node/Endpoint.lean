/-!
# Node endpoints

The node is reached through a socket file, named with a prefix, or over the network.  Only a
socket file can be waited for.
-/

namespace StakingGateway.Endpoint

def unixPrefix : String := "unix:"

def dropPrefix? : List Char → List Char → Option (List Char)
  | [], text => some text
  | _ :: _, [] => none
  | c :: word, d :: text => if c = d then dropPrefix? word text else none

def socketPath? (address : String) : Option String :=
  (dropPrefix? unixPrefix.toList address.toList).map String.ofList

/-- Whether there is nothing to wait for, given which files exist. -/
def isReady (fileExists : String → Bool) (address : String) : Bool :=
  match socketPath? address with
  | some path => fileExists path
  | none => true

/-- Whether a node is ready at one of the first `polls` looks at the files, which may change from
one look to the next. -/
def becomesReady (polls : Nat) (fileExists : Nat → String → Bool) (address : String) : Bool :=
  (List.range polls).any fun look => isReady (fileExists look) address

end StakingGateway.Endpoint
