import StakingGateway.Gateway.Construction
import StakingGateway.Proofs.Outcome

/-!
# Answers of a gateway

A gateway over `Id` answers at once.  An answer is given if the network of the request is accepted
and the request itself can be answered.
-/

namespace StakingGateway

open Api

namespace Handler

variable {α β : Type}

theorem bind_eq_pure_iff {x : Handler Id α} {f : α → Handler Id β} {b : β} :
    x >>= f = pure b ↔ ∃ a, x = pure a ∧ f a = pure b := by
  constructor
  · intro h
    cases hx : (x : Except Failure α) with
    | error reason =>
        subst hx
        cases h
    | ok a =>
        subst hx
        exact ⟨a, rfl, h⟩
  · rintro ⟨a, rfl, h⟩
    exact h

theorem of_eq_pure_iff {answer : Except Failure α} {a : α} :
    (Handler.of answer : Handler Id α) = pure a ↔ answer = .ok a :=
  Iff.rfl

end Handler

namespace Gateway

variable {gateway : Gateway Id}

theorem chainId_eq_of_checkNetwork {network : Option NetworkIdentifier} {chainId : String}
    (h : gateway.checkNetwork network = pure chainId) : gateway.chainId = pure chainId := by
  cases network with
  | none => cases h
  | some network =>
      obtain ⟨_, _, h⟩ := Handler.bind_eq_pure_iff.mp h
      obtain ⟨found, hfound, h⟩ := Handler.bind_eq_pure_iff.mp h
      split at h
      next => cases h
      next =>
        cases h
        exact hfound

theorem constructionPayloads_eq_pure_iff [Suite] {request : ConstructionPayloadsRequest}
    {response : ConstructionPayloadsResponse} :
    gateway.constructionPayloads request = pure response ↔
      ∃ chainId, gateway.checkNetwork request.networkIdentifier = pure chainId ∧
        payloads chainId request.metadata request.operations = .ok response :=
  Handler.bind_eq_pure_iff

theorem constructionParse_eq_pure_iff [Suite] {request : ConstructionParseRequest}
    {response : ConstructionParseResponse} :
    gateway.constructionParse request = pure response ↔
      ∃ chainId, gateway.checkNetwork request.networkIdentifier = pure chainId ∧
        parse chainId request.signed request.transaction = .ok response :=
  Handler.bind_eq_pure_iff

theorem constructionDerive_eq_pure_iff [Suite] {request : ConstructionDeriveRequest}
    {response : ConstructionDeriveResponse} :
    gateway.constructionDerive request = pure response ↔
      ∃ chainId, gateway.checkNetwork request.networkIdentifier = pure chainId ∧
        derive request.publicKey = .ok response :=
  Handler.bind_eq_pure_iff

theorem constructionCombine_eq_pure_iff {request : ConstructionCombineRequest}
    {response : ConstructionCombineResponse} :
    gateway.constructionCombine request = pure response ↔
      ∃ chainId, gateway.checkNetwork request.networkIdentifier = pure chainId ∧
        ∃ signed, combine request.unsignedTransaction request.signatures = .ok signed ∧
          response = ⟨signed.toBase64⟩ := by
  rw [constructionCombine, Handler.bind_eq_pure_iff]
  constructor
  · rintro ⟨chainId, hnetwork, h⟩
    obtain ⟨signed, hcombine, h⟩ := Handler.bind_eq_pure_iff.mp h
    cases h
    exact ⟨chainId, hnetwork, signed, hcombine, rfl⟩
  · rintro ⟨chainId, hnetwork, signed, hcombine, rfl⟩
    exact ⟨chainId, hnetwork, Handler.bind_eq_pure_iff.mpr ⟨signed, hcombine, rfl⟩⟩

end Gateway

end StakingGateway
