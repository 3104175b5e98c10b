import StakingGateway.Gateway.Account
import StakingGateway.Gateway.Block
import StakingGateway.Gateway.Construction
import StakingGateway.Gateway.Network

/-!
# Routes

The requests that the gateway answers, and the paths they are sent to.  A request that does not
fit its route is told apart from one that is answered with a failure.
-/

namespace StakingGateway

open Api Json

inductive Route
  | accountBalance
  | accountCoins
  | block
  | blockTransaction
  | constructionCombine
  | constructionDerive
  | constructionHash
  | constructionMetadata
  | constructionParse
  | constructionPayloads
  | constructionPreprocess
  | constructionSubmit
  | mempool
  | mempoolTransaction
  | networkList
  | networkOptions
  | networkStatus
  deriving DecidableEq, Repr

namespace Route

def all : List Route :=
  [.accountBalance, .accountCoins, .block, .blockTransaction, .constructionCombine,
    .constructionDerive, .constructionHash, .constructionMetadata, .constructionParse,
    .constructionPayloads, .constructionPreprocess, .constructionSubmit, .mempool,
    .mempoolTransaction, .networkList, .networkOptions, .networkStatus]

def path : Route → String
  | .accountBalance => "/account/balance"
  | .accountCoins => "/account/coins"
  | .block => "/block"
  | .blockTransaction => "/block/transaction"
  | .constructionCombine => "/construction/combine"
  | .constructionDerive => "/construction/derive"
  | .constructionHash => "/construction/hash"
  | .constructionMetadata => "/construction/metadata"
  | .constructionParse => "/construction/parse"
  | .constructionPayloads => "/construction/payloads"
  | .constructionPreprocess => "/construction/preprocess"
  | .constructionSubmit => "/construction/submit"
  | .mempool => "/mempool"
  | .mempoolTransaction => "/mempool/transaction"
  | .networkList => "/network/list"
  | .networkOptions => "/network/options"
  | .networkStatus => "/network/status"

def ofPath? (path : String) : Option Route :=
  all.find? fun route => route.path = path

end Route

namespace Gateway

variable {m : Type → Type} [Monad m]

def serve {α β : Type} [Model α] [Model β] (handle : α → Handler m β) (document : Document) :
    Option (Handler m Json) :=
  (Model.ofDocument? document).map fun request => do
    return Model.toJson (← handle request)

/-- Answers a document that was sent to a route, if it is a request of that route. -/
def answer [Suite] (gateway : Gateway m) : Route → Document → Option (Handler m Json)
  | .accountBalance => serve gateway.accountBalance
  | .accountCoins => serve gateway.accountCoins
  | .block => serve gateway.block
  | .blockTransaction => serve gateway.blockTransaction
  | .constructionCombine => serve gateway.constructionCombine
  | .constructionDerive => serve gateway.constructionDerive
  | .constructionHash => serve gateway.constructionHash
  | .constructionMetadata => serve gateway.constructionMetadata
  | .constructionParse => serve gateway.constructionParse
  | .constructionPayloads => serve gateway.constructionPayloads
  | .constructionPreprocess => serve gateway.constructionPreprocess
  | .constructionSubmit => serve gateway.constructionSubmit
  | .mempool => serve gateway.mempool
  | .mempoolTransaction => serve gateway.mempoolTransaction
  | .networkList => serve gateway.networkList
  | .networkOptions => serve gateway.networkOptions
  | .networkStatus => serve gateway.networkStatus

end Gateway

end StakingGateway
