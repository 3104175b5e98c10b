import StakingGateway.Staking.Event

/-!
# Transaction results

What the node reports about an executed transaction: an error, whose code is zero on success, and
the events the transaction caused, of which the staking events are kept.
-/

namespace StakingGateway

open Cbor

structure ResultError where
  module : String
  code : UInt32
  message : String
  deriving DecidableEq, Repr

/-- An event of a result; events of other modules are empty here. -/
structure ResultEvent where
  staking : Option Staking.Event
  deriving DecidableEq

structure TransactionResult where
  error : ResultError
  events : List ResultEvent
  gasUsed : UInt64
  deriving DecidableEq

namespace ResultError

/-- The error of a success. -/
def none : ResultError :=
  ⟨"", 0, ""⟩

def toItem (error : ResultError) : Item :=
  .record [("module", some (.text error.module)), ("code", some (.unsigned error.code.toUInt64)),
    ("message", some (.text error.message))]

def ofItem? (item : Item) : Option ResultError := do
  let members ← item.members? ["module", "code", "message"]
  let module ← defaulted members "module" Item.asText? ""
  let code ← defaulted members "code" Item.asUInt32? 0
  let message ← defaulted members "message" Item.asText? ""
  return ⟨module, code, message⟩

end ResultError

namespace ResultEvent

def toItem (event : ResultEvent) : Item :=
  .record [("staking", event.staking.map (·.toItem))]

def ofItem? (item : Item) : Option ResultEvent := do
  let members ← item.members? ["staking"]
  let staking ← optional members "staking" Staking.Event.ofItem?
  return ⟨staking⟩

end ResultEvent

namespace TransactionResult

def isSuccess (result : TransactionResult) : Bool :=
  result.error.code = 0

def stakingEvents (result : TransactionResult) : List Staking.Event :=
  result.events.filterMap (·.staking)

def toItem (result : TransactionResult) : Item :=
  .record [("error", some result.error.toItem),
    ("events", some (.array (result.events.map ResultEvent.toItem))),
    ("gas_used", some (.unsigned result.gasUsed))]

def ofItem? (item : Item) : Option TransactionResult := do
  let members ← item.members? ["error", "events", "gas_used"]
  let error ← defaulted members "error" ResultError.ofItem? .none
  let events ← nullDefaulted members "events" (Item.asList? ResultEvent.ofItem?) []
  let gasUsed ← defaulted members "gas_used" Item.asUInt64? 0
  return ⟨error, events, gasUsed⟩

end TransactionResult

end StakingGateway
