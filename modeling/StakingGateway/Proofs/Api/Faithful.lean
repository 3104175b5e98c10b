import Mathlib
import StakingGateway.Api.Account
import StakingGateway.Api.Block
import StakingGateway.Api.Construction
import StakingGateway.Api.Network
import StakingGateway.Proofs.Json.Faithful

/-!
# The interface is faithful

Every type of the interface is read back from the tree that it is written as, whatever is absent
from it (`ofJson?_of_mem_messages`).  Each record has one line below that says which of its fields
have to be given and which may be left out, in the order in which they are asked for; the names
under which they are written and asked for are compared there.
-/

namespace StakingGateway.Api

open Json Model

/-! ## Identifiers -/

instance : Faithful SubNetworkIdentifier := by
  refine .record fun _ _ h => ?_
  rw [h.required rfl, h.optional rfl]
  rfl

instance : Faithful NetworkIdentifier := by
  refine .record fun _ _ h => ?_
  rw [h.required rfl, h.required rfl, h.optional rfl]
  rfl

instance : Faithful SubAccountIdentifier := by
  refine .record fun _ _ h => ?_
  rw [h.required rfl, h.optional rfl]
  rfl

instance : Faithful AccountIdentifier := by
  refine .record fun _ _ h => ?_
  rw [h.required rfl, h.optional rfl, h.optional rfl]
  rfl

instance : Faithful BlockIdentifier := by
  refine .record fun _ _ h => ?_
  rw [h.required rfl, h.required rfl]
  rfl

instance : Faithful PartialBlockIdentifier := by
  refine .record fun _ _ h => ?_
  rw [h.optional rfl, h.optional rfl]
  rfl

instance : Faithful TransactionIdentifier := by
  refine .record fun _ _ h => ?_
  rw [h.required rfl]
  rfl

instance : Faithful OperationIdentifier := by
  refine .record fun _ _ h => ?_
  rw [h.required rfl, h.optional rfl]
  rfl

/-! ## Operations, transactions and blocks -/

instance : Faithful Currency := by
  refine .record fun _ _ h => ?_
  rw [h.required rfl, h.required rfl, h.optional rfl]
  rfl

instance : Faithful Amount := by
  refine .record fun _ _ h => ?_
  rw [h.required rfl, h.required rfl, h.optional rfl]
  rfl

instance : Faithful Operation := by
  refine .record fun _ _ h => ?_
  rw [h.required rfl, h.optional rfl, h.required rfl, h.optional rfl, h.optional rfl,
    h.optional rfl, h.optional rfl]
  rfl

instance : Faithful Transaction := by
  refine .record fun _ _ h => ?_
  rw [h.required rfl, h.required rfl, h.optional rfl]
  rfl

instance : Faithful Timestamp where
  distinct_toJson timestamp := Faithful.distinct_toJson timestamp.milliseconds
  toJson_ne_null timestamp := Faithful.toJson_ne_null timestamp.milliseconds
  ofJson?_of_rearranges h :=
    congrArg (Option.map Timestamp.mk) (Faithful.ofJson?_of_rearranges h)

instance : Faithful Block := by
  refine .record fun _ _ h => ?_
  rw [h.required rfl, h.required rfl, h.required rfl, h.required rfl, h.optional rfl]
  rfl

instance : Faithful OperationStatus := by
  refine .record fun _ _ h => ?_
  rw [h.required rfl, h.required rfl]
  rfl

/-! ## Errors -/

instance : Faithful ErrorReport := by
  refine .record fun _ _ h => ?_
  rw [h.required rfl, h.required rfl, h.required rfl, h.optional rfl]
  rfl

/-! ## Network messages -/

instance : Faithful MetadataRequest := by
  refine .record fun _ _ h => ?_
  rw [h.optional rfl]
  rfl

instance : Faithful NetworkRequest := by
  refine .record fun _ _ h => ?_
  rw [h.optional rfl, h.optional rfl]
  rfl

instance : Faithful NetworkListResponse := by
  refine .record fun _ _ h => ?_
  rw [h.required rfl]
  rfl

instance : Faithful Peer := by
  refine .record fun _ _ h => ?_
  rw [h.required rfl, h.optional rfl]
  rfl

instance : Faithful NetworkStatusResponse := by
  refine .record fun _ _ h => ?_
  rw [h.required rfl, h.required rfl, h.required rfl, h.optional rfl, h.required rfl]
  rfl

instance : Faithful Version := by
  refine .record fun _ _ h => ?_
  rw [h.required rfl, h.required rfl, h.optional rfl, h.optional rfl]
  rfl

instance : Faithful Allow := by
  refine .record fun _ _ h => ?_
  rw [h.required rfl, h.required rfl, h.required rfl, h.required rfl]
  rfl

instance : Faithful NetworkOptionsResponse := by
  refine .record fun _ _ h => ?_
  rw [h.required rfl, h.required rfl]
  rfl

/-! ## Account messages -/

instance : Faithful AccountBalanceRequest := by
  refine .record fun _ _ h => ?_
  rw [h.optional rfl, h.required rfl, h.optional rfl]
  rfl

instance : Faithful AccountBalanceResponse := by
  refine .record fun _ _ h => ?_
  rw [h.required rfl, h.required rfl, h.optional rfl]
  rfl

instance : Faithful AccountCoinsRequest := by
  refine .record fun _ _ h => ?_
  rw [h.optional rfl, h.required rfl, h.defaulted rfl]
  rfl

instance : Faithful CoinIdentifier := by
  refine .record fun _ _ h => ?_
  rw [h.required rfl]
  rfl

instance : Faithful Coin := by
  refine .record fun _ _ h => ?_
  rw [h.required rfl, h.required rfl]
  rfl

instance : Faithful AccountCoinsResponse := by
  refine .record fun _ _ h => ?_
  rw [h.required rfl, h.required rfl]
  rfl

/-! ## Block and mempool messages -/

instance : Faithful BlockRequest := by
  refine .record fun _ _ h => ?_
  rw [h.optional rfl, h.optional rfl]
  rfl

instance : Faithful BlockResponse := by
  refine .record fun _ _ h => ?_
  rw [h.optional rfl, h.optional rfl]
  rfl

instance : Faithful BlockTransactionRequest := by
  refine .record fun _ _ h => ?_
  rw [h.optional rfl, h.required rfl, h.required rfl]
  rfl

instance : Faithful BlockTransactionResponse := by
  refine .record fun _ _ h => ?_
  rw [h.required rfl]
  rfl

instance : Faithful MempoolResponse := by
  refine .record fun _ _ h => ?_
  rw [h.required rfl]
  rfl

instance : Faithful MempoolTransactionRequest := by
  refine .record fun _ _ h => ?_
  rw [h.optional rfl, h.required rfl]
  rfl

instance : Faithful MempoolTransactionResponse := by
  refine .record fun _ _ h => ?_
  rw [h.required rfl, h.optional rfl]
  rfl

/-! ## Construction messages -/

instance : Faithful CurveType where
  distinct_toJson value := .string value.name
  toJson_ne_null _ := nofun
  ofJson?_of_rearranges {value _} h := by
    rw [h.eq_string]
    cases value <;> rfl

instance : Faithful SignatureType where
  distinct_toJson value := .string value.name
  toJson_ne_null _ := nofun
  ofJson?_of_rearranges {value _} h := by
    rw [h.eq_string]
    cases value <;> rfl

instance : Faithful PublicKey := by
  refine .record fun _ _ h => ?_
  rw [h.required rfl, h.required rfl]
  rfl

instance : Faithful SigningPayload := by
  refine .record fun _ _ h => ?_
  rw [h.optional rfl, h.optional rfl, h.required rfl, h.optional rfl]
  rfl

instance : Faithful Signature := by
  refine .record fun _ _ h => ?_
  rw [h.required rfl, h.required rfl, h.required rfl, h.required rfl]
  rfl

instance : Faithful ConstructionDeriveRequest := by
  refine .record fun _ _ h => ?_
  rw [h.optional rfl, h.required rfl, h.optional rfl]
  rfl

instance : Faithful ConstructionDeriveResponse := by
  refine .record fun _ _ h => ?_
  rw [h.optional rfl, h.optional rfl, h.optional rfl]
  rfl

instance : Faithful ConstructionPreprocessRequest := by
  refine .record fun _ _ h => ?_
  rw [h.optional rfl, h.required rfl, h.optional rfl]
  rfl

instance : Faithful ConstructionPreprocessResponse := by
  refine .record fun _ _ h => ?_
  rw [h.optional rfl]
  rfl

instance : Faithful ConstructionMetadataRequest := by
  refine .record fun _ _ h => ?_
  rw [h.optional rfl, h.optional rfl, h.optional rfl]
  rfl

instance : Faithful ConstructionMetadataResponse := by
  refine .record fun _ _ h => ?_
  rw [h.required rfl, h.optional rfl]
  rfl

instance : Faithful ConstructionPayloadsRequest := by
  refine .record fun _ _ h => ?_
  rw [h.optional rfl, h.required rfl, h.optional rfl, h.optional rfl]
  rfl

instance : Faithful ConstructionPayloadsResponse := by
  refine .record fun _ _ h => ?_
  rw [h.required rfl, h.required rfl]
  rfl

instance : Faithful ConstructionCombineRequest := by
  refine .record fun _ _ h => ?_
  rw [h.optional rfl, h.required rfl, h.required rfl]
  rfl

instance : Faithful ConstructionCombineResponse := by
  refine .record fun _ _ h => ?_
  rw [h.required rfl]
  rfl

instance : Faithful ConstructionParseRequest := by
  refine .record fun _ _ h => ?_
  rw [h.optional rfl, h.required rfl, h.required rfl]
  rfl

instance : Faithful ConstructionParseResponse := by
  refine .record fun _ _ h => ?_
  rw [h.required rfl, h.optional rfl, h.optional rfl, h.optional rfl]
  rfl

instance : Faithful ConstructionHashRequest := by
  refine .record fun _ _ h => ?_
  rw [h.optional rfl, h.required rfl]
  rfl

instance : Faithful ConstructionSubmitRequest := by
  refine .record fun _ _ h => ?_
  rw [h.optional rfl, h.required rfl]
  rfl

instance : Faithful TransactionIdentifierResponse := by
  refine .record fun _ _ h => ?_
  rw [h.required rfl, h.optional rfl]
  rfl

/-! ## All types -/

structure Message where
  type : Type
  [model : Model type]

attribute [instance] Message.model

/-- The types of the interface: identifiers, what they name, requests, answers and errors. -/
def messages : List Message :=
  [⟨SubNetworkIdentifier⟩, ⟨NetworkIdentifier⟩, ⟨SubAccountIdentifier⟩, ⟨AccountIdentifier⟩,
    ⟨BlockIdentifier⟩, ⟨PartialBlockIdentifier⟩, ⟨TransactionIdentifier⟩, ⟨OperationIdentifier⟩,
    ⟨Currency⟩, ⟨Amount⟩, ⟨Operation⟩, ⟨Transaction⟩, ⟨Timestamp⟩, ⟨Block⟩, ⟨OperationStatus⟩,
    ⟨ErrorReport⟩, ⟨MetadataRequest⟩, ⟨NetworkRequest⟩, ⟨NetworkListResponse⟩, ⟨Peer⟩,
    ⟨NetworkStatusResponse⟩, ⟨Version⟩, ⟨Allow⟩, ⟨NetworkOptionsResponse⟩, ⟨AccountBalanceRequest⟩,
    ⟨AccountBalanceResponse⟩, ⟨AccountCoinsRequest⟩, ⟨CoinIdentifier⟩, ⟨Coin⟩,
    ⟨AccountCoinsResponse⟩, ⟨BlockRequest⟩, ⟨BlockResponse⟩, ⟨BlockTransactionRequest⟩,
    ⟨BlockTransactionResponse⟩, ⟨MempoolResponse⟩, ⟨MempoolTransactionRequest⟩,
    ⟨MempoolTransactionResponse⟩, ⟨CurveType⟩, ⟨SignatureType⟩, ⟨PublicKey⟩, ⟨SigningPayload⟩,
    ⟨Signature⟩, ⟨ConstructionDeriveRequest⟩, ⟨ConstructionDeriveResponse⟩,
    ⟨ConstructionPreprocessRequest⟩, ⟨ConstructionPreprocessResponse⟩,
    ⟨ConstructionMetadataRequest⟩, ⟨ConstructionMetadataResponse⟩, ⟨ConstructionPayloadsRequest⟩,
    ⟨ConstructionPayloadsResponse⟩, ⟨ConstructionCombineRequest⟩, ⟨ConstructionCombineResponse⟩,
    ⟨ConstructionParseRequest⟩, ⟨ConstructionParseResponse⟩, ⟨ConstructionHashRequest⟩,
    ⟨ConstructionSubmitRequest⟩, ⟨TransactionIdentifierResponse⟩, ⟨Object⟩]

theorem faithful_of_mem_messages : ∀ message ∈ messages, Faithful message.type := by
  simp only [messages, List.forall_mem_cons, List.not_mem_nil, false_imp_iff, implies_true,
    and_true]
  and_intros <;> infer_instance

/-- Every value of every message is read from the JSON that it is written as, and from any
rearrangement of it. -/
theorem ofJson?_of_mem_messages {message : Message} (hmessage : message ∈ messages)
    (value : message.type) :
    ofJson? (toJson value) = some value ∧
      ∀ tree : Json, tree.Rearranges (toJson value) → ofJson? tree = some value := by
  have := faithful_of_mem_messages message hmessage
  exact ⟨ofJson?_toJson value, fun _ => Faithful.ofJson?_of_rearranges⟩

end StakingGateway.Api
