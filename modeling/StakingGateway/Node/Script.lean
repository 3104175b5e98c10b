import StakingGateway.Node.Client

/-!
# Scripted nodes

A node that answers by rules.  A call is answered by the first rule for its method, and for its
request if the rule names one, that has uses left.  The calls are recorded in their order.
-/

namespace StakingGateway

structure Rule where
  method : String
  request : Option (List UInt8)
  uses : Option Nat
  answer : Except Status (List UInt8)

/-- A scripted node: the rules as they stand, and the calls so far. -/
structure Script where
  rules : List Rule
  calls : List (NodeMethod × List UInt8)

namespace Rule

def answers (rule : Rule) (method : NodeMethod) (request : List UInt8) : Bool :=
  rule.method = method.name && rule.request.all (· = request) && rule.uses != some 0

/-- The rule after it has been used. -/
def spend (rule : Rule) : Rule :=
  { rule with uses := rule.uses.map (· - 1) }

def respond (method : NodeMethod) (request : List UInt8) :
    List Rule → Except Status (List UInt8) × List Rule
  | [] => (.error ⟨.unimplemented, method.name⟩, [])
  | rule :: rest =>
    if rule.answers method request then (rule.answer, rule.spend :: rest)
    else
      let (answer, rest) := respond method request rest
      (answer, rule :: rest)

end Rule

namespace Script

def transport : Transport (StateM Script) where
  dial := pure (.ok ())
  send method request := fun script =>
    let (answer, rules) := Rule.respond method request script.rules
    (answer, ⟨rules, script.calls ++ [(method, request)]⟩)

/-- The way to a node that cannot be reached. -/
def unreachable (reason : String) : Transport (StateM Script) where
  dial := pure (.error reason)
  send method _ := pure (.error ⟨.unavailable, method.name⟩)

end Script

end StakingGateway
