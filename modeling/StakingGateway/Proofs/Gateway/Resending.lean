import StakingGateway.Crypto.Standard
import StakingGateway.Http.Server
import StakingGateway.Proofs.Api.Faithful
import StakingGateway.Proofs.Gateway.Escrow
import StakingGateway.Proofs.Gateway.Rebuilding
import StakingGateway.Proofs.Gateway.Reencoding
import StakingGateway.Proofs.Gateway.Requests
import StakingGateway.Proofs.Operation.Plain

/-!
# Operations that are sent back

A client is shown the operations of a transaction, and sends them back to have payloads made of
them.  The text that it is shown reads back, and the interface is faithful, so the operations arrive
as they were, in whatever order the client lists the members of the objects
(`messages_arrive`).
-/

namespace StakingGateway

open Api Json Model

namespace Json

variable {fields others : List (String × Option Json)}

theorem normalMembers_given (fields : List (String × Option Json)) :
    normalMembers (given fields)
      = given (fields.map fun field => (field.1, field.2.map normal)) := by
  rw [normalMembers_eq_map, given, given, List.map_filterMap, List.filterMap_map]
  congr 1
  funext field
  cases hvalue : field.2 <;> simp [hvalue]

/-- Only the normal forms of the fields matter to that of the record. -/
theorem normal_record_congr
    (h : fields.map (fun field => (field.1, field.2.map normal))
      = others.map fun field => (field.1, field.2.map normal)) :
    (record fields).normal = (record others).normal := by
  rw [record_eq, record_eq, normal, normal, normalMembers_given, normalMembers_given, h]

end Json

/-! ## Posts -/

theorem Route.ofPath?_path (route : Route) :
    (Target.path? route.path).bind ofPath? = some route := by
  cases route <;> decide +kernel

namespace HttpRequest

structure Posts (request : HttpRequest) (route : Route) (document : Document) : Prop where
  method_eq : request.method = "POST"
  route_eq : (Target.path? request.target).bind Route.ofPath? = some route
  document_eq : request.document = .ok document

def json (route : Route) (tree : Json) : HttpRequest :=
  ⟨"POST", route.path, some "application/json", Utf8.encode tree.render⟩

/-- The text of a plain tree posts its document, if it is no longer than bodies may be. -/
theorem posts_json (route : Route) {tree : Json} (hplain : Plain nestingLimit tree)
    (hlength : (Utf8.encode tree.render).length ≤ bodyLimit) :
    (json route tree).Posts route tree.document where
  method_eq := rfl
  route_eq := route.ofPath?_path
  document_eq := by
    have htype : MediaType.isJson "application/json" = true := by decide +kernel
    rw [document, json, Option.any_some, htype, Bool.not_true, if_neg Bool.false_ne_true,
      if_neg (Nat.not_lt.mpr hlength), parse?_render hplain]

end HttpRequest

namespace Gateway

variable {m : Type → Type} [Monad m] [Suite] {gateway : Gateway m} {post : HttpRequest}
  {route : Route}

def respondTo (gateway : Gateway m) (request : Request) : m HttpResponse := do
  return .ofOutcome (← (gateway.handle request).run)

theorem respond_of_posts {document : Document} (h : post.Posts route document) {request : Request}
    (hread : Request.read? route document = some request) :
    gateway.respond post = gateway.respondTo request := by
  obtain ⟨hmethod, hroute, hdocument⟩ := h
  have hanswer : gateway.answer route document = some (gateway.handle request) := by
    rw [answer_eq_map_handle, hread, Option.map_some]
  simp only [respond, hmethod, hroute, hdocument, hanswer]
  rfl

theorem act_respondTo {σ : Type} [Stateful m σ] {s s' : σ} {request : Request} {answer : Json}
    (h : Succeeds (gateway.handle request) s answer s') :
    Stateful.act (gateway.respondTo request) s = (some ⟨200, some answer⟩, s') :=
  (Stateful.act_bind_of_some h _).trans (Stateful.act_pure ..)

end Gateway

/-! ## What is shown, and what is sent back -/

theorem plain_nonceMetadata (room : Nat) (nonce : UInt64) :
    Plain (room + 1) (toJson (nonceMetadata nonce)) :=
  plain_ofMembers_singleton (plain_uInt64 room nonce)

theorem plain_parseResponse [Suite] {tx : Transaction} {signer : Address} {ops : List Operation}
    (hops : tx.operations signer none = .ok ops) (signers : List Address) (nonce : UInt64) :
    Plain nestingLimit (toJson (parseResponse ops signers nonce)) := by
  have hoperations : Plain 4 (toJson ops) := plain_list (plain_operations signer none hops)
  have htexts : Plain 4 (toJson (signers.map Address.text)) :=
    plain_list fun text _ => plain_string 3 text
  have haccounts : Plain 4 (toJson (signers.map Address.account)) := by
    refine plain_list fun account haccount => ?_
    obtain ⟨address, -, rfl⟩ := List.mem_map.mp haccount
    exact (Api.plain_account address).mono (Nat.le_succ 2)
  have hmetadata : Plain 4 (toJson (nonceMetadata nonce)) := plain_nonceMetadata 3 nonce
  have hview : Plain 5 (toJson (parseResponse ops signers nonce)) :=
    plain_record (by simp [parseResponse, hoperations, htexts, haccounts, hmetadata])
  exact hview.mono (by decide)

theorem plain_of_parse [Suite] {chainId text : String} {signed : Bool}
    {view : ConstructionParseResponse} (h : parse chainId signed text = .ok view) :
    Plain nestingLimit (toJson view) := by
  obtain ⟨parsed, -, hview⟩ : ∃ parsed, (if signed then parseSigned chainId text
      else parseUnsigned text) = .ok parsed ∧ parsed.response = .ok view := by
    cases signed with
    | false => exact parse_unsigned_eq_ok_iff.mp h
    | true => exact parse_signed_eq_ok_iff.mp h
  obtain ⟨ops, hops, rfl⟩ := response_eq_ok_iff.mp hview
  exact plain_parseResponse hops parsed.signers parsed.tx.nonce

/-- The JSON of a request for payloads of operations that are JSON already. -/
def payloadsBody (network : Option NetworkIdentifier) (operations : Json)
    (metadata : Option Object) (publicKeys : Option (List PublicKey)) : Json :=
  .record [optionalField "network_identifier" network, ("operations", some operations),
    optionalField "metadata" metadata, optionalField "public_keys" publicKeys]

theorem payloadsBody_toJson (request : ConstructionPayloadsRequest) :
    payloadsBody request.networkIdentifier (toJson request.operations) request.metadata
      request.publicKeys = toJson request :=
  rfl

theorem plain_payloadsBody [Suite] {tx : Transaction} {signer : Address} {ops : List Operation}
    (hops : tx.operations signer none = .ok ops) (chainId : String) (nonce : UInt64) :
    Plain nestingLimit (payloadsBody (some (.of blockchain chainId)) (toJson ops)
      (some (nonceMetadata nonce)) none) := by
  have hnetwork : Plain 4 (toJson (NetworkIdentifier.of blockchain chainId)) :=
    plain_record (by simp [NetworkIdentifier.of])
  have hoperations : Plain 4 (toJson ops) := plain_list (plain_operations signer none hops)
  have hmetadata : Plain 4 (toJson (nonceMetadata nonce)) := plain_nonceMetadata 3 nonce
  have hbody : Plain 5 (toJson (⟨some (.of blockchain chainId), ops, some (nonceMetadata nonce),
      none⟩ : ConstructionPayloadsRequest)) :=
    plain_record (by simp [hnetwork, hoperations, hmetadata])
  exact hbody.mono (by decide)

theorem ofJson?_payloadsBody {network : Option NetworkIdentifier} {operations body : Json}
    {metadata : Option Object} {publicKeys : Option (List PublicKey)} {ops : List Operation}
    (hops : operations.Rearranges (toJson ops))
    (h : body.Rearranges (payloadsBody network operations metadata publicKeys)) :
    ofJson? body = some (⟨network, ops, metadata, publicKeys⟩ : ConstructionPayloadsRequest) := by
  refine Faithful.ofJson?_of_rearranges ⟨h.distinct, h.normal_eq.trans (normal_record_congr ?_)⟩
  simp [field, hops.normal_eq]

/-- What is sent arrives.  Every value of every message is read from the JSON that it is written as,
and from any rearrangement of it.  So when operations are shown, the text of the response reads
back, and a client that posts the operations as it received them, with whatever else belongs to the
request, asks for payloads of the very operations that were shown. -/
theorem messages_arrive [Suite] {m n : Type → Type} [Monad m] [Monad n] {σ : Type} [Stateful m σ]
    (shower : Gateway m) (builder : Gateway n) :
    (∀ message ∈ messages, ∀ value : message.type,
      ofJson? (toJson value) = some value ∧
        ∀ tree : Json, tree.Rearranges (toJson value) → ofJson? tree = some value) ∧
    ∀ {request : ConstructionParseRequest} {view : ConstructionParseResponse} {s s' : σ},
      Succeeds (shower.constructionParse request) s view s' →
      (∀ (post : HttpRequest) (document : Document), post.Posts .constructionParse document →
        Model.ofDocument? document = some request →
        Stateful.act (shower.respond post) s = (some ⟨200, some (toJson view)⟩, s')) ∧
      parse? (Utf8.encode (toJson view).render) = some (toJson view).document ∧
      ∀ received : Json, received.Rearranges (toJson view) →
        ∃ operations, received.member? "operations" = some operations ∧
          ∀ network metadata publicKeys (body : Json) (post : HttpRequest),
            body.Rearranges (payloadsBody network operations metadata publicKeys) →
            post.Posts .constructionPayloads body.document →
            builder.respond post = builder.respondTo
              (.constructionPayloads ⟨network, view.operations, metadata, publicKeys⟩) := by
  refine ⟨fun _ => ofJson?_of_mem_messages, fun {request view s s'} hview =>
    ⟨fun post document hpost hread => ?_, ?_, fun received hreceived => ?_⟩⟩
  · rw [Gateway.respond_of_posts hpost (congrArg (Option.map _) hread)]
    exact Gateway.act_respondTo
      (succeeds_bind_iff.mpr ⟨view, s', hview, succeeds_pure_iff.mpr ⟨rfl, rfl⟩⟩)
  · obtain ⟨chainId, -, hparse⟩ := succeeds_constructionParse_iff.mp hview
    exact parse?_render (plain_of_parse hparse)
  · -- What was received is a record in another order, which holds the operations under their name.
    obtain ⟨members, rfl, -, -, hgiven, -⟩ := hreceived.record (by simp [field, optionalField])
    obtain ⟨operations, hmember, hops⟩ := hgiven (List.lookup_cons_self ..)
    refine ⟨operations, hmember, fun network metadata publicKeys body post hbody hpost => ?_⟩
    exact Gateway.respond_of_posts hpost (congrArg (Option.map _) (ofJson?_payloadsBody hops hbody))

/-- The operations of a reclaim are shown, and sent back with the metadata. -/
theorem messages_arrive_freeReclaim :
    let gateway : Gateway (StateM Unit) := .offline "chain"
    let network := some (.of blockchain "chain")
    let text := (UnsignedTransaction.create freeReclaim Address.commonPool).toBase64
    ∃ (view : ConstructionParseResponse) (operations : Json),
      Succeeds (gateway.constructionParse ⟨network, false, text⟩) () view () ∧
      (∀ op ∈ view.operations, ofJson? (toJson op) = some op) ∧
      (toJson view).member? "operations" = some operations ∧
      gateway.respond (.json .constructionPayloads
          (payloadsBody network operations view.metadata none))
        = gateway.respondTo
            (.constructionPayloads ⟨network, view.operations, view.metadata, none⟩) := by
  intro gateway network text
  have hkind : freeReclaim.kind = .ok (.reclaimEscrow ⟨⟨9⟩, Address.feeAccumulator⟩) :=
    Transaction.kind_ofKind _ _ rfl
  have hops := operations_eq hkind Address.commonPool none
  have hview : Succeeds (gateway.constructionParse ⟨network, false, text⟩) () _ () :=
    succeeds_constructionParse_iff.mpr ⟨"chain", rfl, parse_create hops "chain"⟩
  obtain ⟨hmessages, hshown⟩ := messages_arrive gateway gateway
  obtain ⟨-, -, hreceived⟩ := hshown hview
  obtain ⟨operations, hmember, harrive⟩ := hreceived _ (distinct_toJson _).rearranges
  obtain rfl := Option.some.inj hmember
  refine ⟨_, _, hview, fun op _ => (hmessages ⟨Operation⟩ (by simp [messages]) op).1, hmember, ?_⟩
  refine harrive network _ none _ _ ?_
    (HttpRequest.posts_json _ (plain_payloadsBody hops "chain" _) (by decide +kernel))
  exact (payloadsBody_toJson ⟨network, _, _, none⟩ ▸ distinct_toJson _).rearranges

end StakingGateway
