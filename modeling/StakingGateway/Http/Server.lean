import StakingGateway.Gateway.Route
import StakingGateway.Http.MediaType
import StakingGateway.Http.Target
import StakingGateway.Json.Parse
import StakingGateway.Json.Render

/-!
# The gateway over HTTP

Requests are posted to the path of their route as JSON bodies of at most four mebibytes.  An
answer has the status 200, a failure the status 500 and a report for its body; everything that is
not posted to the path of a route has the status 404 and no body.
-/

namespace StakingGateway

open Api

structure HttpRequest where
  method : String
  target : String
  contentType : Option String
  body : List UInt8

structure HttpResponse where
  status : Nat
  body : Option Json

def bodyLimit : Nat := 4194304

inductive BodyError
  | contentType
  | tooLong (length : Nat)
  | notARequest
  deriving DecidableEq, Repr

def BodyError.message : BodyError → String
  | .contentType => "Content type error"
  | .tooLong length =>
    "JSON payload (" ++ toString length ++ " bytes) is larger than allowed (limit: "
      ++ toString bodyLimit ++ " bytes)."
  | .notARequest => "Json deserialize error: not a request of this kind"

def HttpRequest.document (request : HttpRequest) : Except BodyError Json.Document :=
  if !request.contentType.any MediaType.isJson then .error .contentType
  else if bodyLimit < request.body.length then .error (.tooLong request.body.length)
  else
    match Json.parse? request.body with
    | some document => .ok document
    | none => .error .notARequest

namespace HttpResponse

def ofFailure (failure : Failure) : HttpResponse :=
  ⟨500, some (Model.toJson failure.report)⟩

def notFound : HttpResponse :=
  ⟨404, none⟩

def ofOutcome : Except Failure Json → HttpResponse
  | .ok answer => ⟨200, some answer⟩
  | .error failure => ofFailure failure

def ofBodyError (reason : BodyError) : HttpResponse :=
  ofFailure (.malformedValue reason.message)

def text (response : HttpResponse) : String :=
  (response.body.map Json.render).getD ""

end HttpResponse

namespace Gateway

variable {m : Type → Type} [Monad m] [Suite]

def respond (gateway : Gateway m) (request : HttpRequest) : m HttpResponse := do
  if request.method ≠ "POST" then return .notFound
  match (Target.path? request.target).bind Route.ofPath? with
  | none => return .notFound
  | some route =>
    match request.document with
    | .error reason => return .ofBodyError reason
    | .ok document =>
      match gateway.answer route document with
      | none => return .ofBodyError .notARequest
      | some handler => return .ofOutcome (← handler.run)

end Gateway

end StakingGateway
