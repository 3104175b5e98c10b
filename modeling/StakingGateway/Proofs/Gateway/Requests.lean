import StakingGateway.Gateway.Route

/-!
# Requests

A request is one of seventeen kinds, one for each route.  They are gathered in one type, so that
what holds of every handler can be said once.  The main statement is `answer_eq_map_handle`: a document
that is sent to a route is answered by handling the request that it is read as.
-/

namespace StakingGateway

open Api Json

inductive Request
  | accountBalance (request : AccountBalanceRequest)
  | accountCoins (request : AccountCoinsRequest)
  | block (request : BlockRequest)
  | blockTransaction (request : BlockTransactionRequest)
  | constructionCombine (request : ConstructionCombineRequest)
  | constructionDerive (request : ConstructionDeriveRequest)
  | constructionHash (request : ConstructionHashRequest)
  | constructionMetadata (request : ConstructionMetadataRequest)
  | constructionParse (request : ConstructionParseRequest)
  | constructionPayloads (request : ConstructionPayloadsRequest)
  | constructionPreprocess (request : ConstructionPreprocessRequest)
  | constructionSubmit (request : ConstructionSubmitRequest)
  | mempool (request : NetworkRequest)
  | mempoolTransaction (request : MempoolTransactionRequest)
  | networkList (request : MetadataRequest)
  | networkOptions (request : NetworkRequest)
  | networkStatus (request : NetworkRequest)

namespace Request

def read? : Route → Document → Option Request
  | .accountBalance, document => (Model.ofDocument? document).map accountBalance
  | .accountCoins, document => (Model.ofDocument? document).map accountCoins
  | .block, document => (Model.ofDocument? document).map block
  | .blockTransaction, document => (Model.ofDocument? document).map blockTransaction
  | .constructionCombine, document => (Model.ofDocument? document).map constructionCombine
  | .constructionDerive, document => (Model.ofDocument? document).map constructionDerive
  | .constructionHash, document => (Model.ofDocument? document).map constructionHash
  | .constructionMetadata, document => (Model.ofDocument? document).map constructionMetadata
  | .constructionParse, document => (Model.ofDocument? document).map constructionParse
  | .constructionPayloads, document => (Model.ofDocument? document).map constructionPayloads
  | .constructionPreprocess, document => (Model.ofDocument? document).map constructionPreprocess
  | .constructionSubmit, document => (Model.ofDocument? document).map constructionSubmit
  | .mempool, document => (Model.ofDocument? document).map mempool
  | .mempoolTransaction, document => (Model.ofDocument? document).map mempoolTransaction
  | .networkList, document => (Model.ofDocument? document).map networkList
  | .networkOptions, document => (Model.ofDocument? document).map networkOptions
  | .networkStatus, document => (Model.ofDocument? document).map networkStatus

/-- The network that a request names, or that it names none.  Only the list of networks is asked for
without a place for one. -/
def network? : Request → Option (Option NetworkIdentifier)
  | .accountBalance request => some request.networkIdentifier
  | .accountCoins request => some request.networkIdentifier
  | .block request => some request.networkIdentifier
  | .blockTransaction request => some request.networkIdentifier
  | .constructionCombine request => some request.networkIdentifier
  | .constructionDerive request => some request.networkIdentifier
  | .constructionHash request => some request.networkIdentifier
  | .constructionMetadata request => some request.networkIdentifier
  | .constructionParse request => some request.networkIdentifier
  | .constructionPayloads request => some request.networkIdentifier
  | .constructionPreprocess request => some request.networkIdentifier
  | .constructionSubmit request => some request.networkIdentifier
  | .mempool request => some request.networkIdentifier
  | .mempoolTransaction request => some request.networkIdentifier
  | .networkList _ => none
  | .networkOptions request => some request.networkIdentifier
  | .networkStatus request => some request.networkIdentifier

end Request

namespace Gateway

variable {m : Type → Type} [Monad m]

def inJson {α β : Type} [Model β] (handle : α → Handler m β) (request : α) : Handler m Json := do
  return Model.toJson (← handle request)

def handle [Suite] (gateway : Gateway m) : Request → Handler m Json
  | .accountBalance request => inJson gateway.accountBalance request
  | .accountCoins request => inJson gateway.accountCoins request
  | .block request => inJson gateway.block request
  | .blockTransaction request => inJson gateway.blockTransaction request
  | .constructionCombine request => inJson gateway.constructionCombine request
  | .constructionDerive request => inJson gateway.constructionDerive request
  | .constructionHash request => inJson gateway.constructionHash request
  | .constructionMetadata request => inJson gateway.constructionMetadata request
  | .constructionParse request => inJson gateway.constructionParse request
  | .constructionPayloads request => inJson gateway.constructionPayloads request
  | .constructionPreprocess request => inJson gateway.constructionPreprocess request
  | .constructionSubmit request => inJson gateway.constructionSubmit request
  | .mempool request => inJson gateway.mempool request
  | .mempoolTransaction request => inJson gateway.mempoolTransaction request
  | .networkList request => inJson gateway.networkList request
  | .networkOptions request => inJson gateway.networkOptions request
  | .networkStatus request => inJson gateway.networkStatus request

/-- What is sent to a route is answered as the request that it is read as. -/
theorem answer_eq_map_handle [Suite] (gateway : Gateway m) (route : Route) (document : Document) :
    gateway.answer route document = (Request.read? route document).map gateway.handle := by
  cases route <;>
    · rw [Request.read?, Option.map_map]
      rfl

end Gateway

end StakingGateway
