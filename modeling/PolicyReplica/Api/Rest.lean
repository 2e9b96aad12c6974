import PolicyReplica.Api.Basic
import PolicyReplica.Http.Message
import PolicyReplica.Replica.Codec

/-
The REST interface of the API server.

An answer with a status from 400 to 599 is an error. If its body is an error
record, the code and the reason of the record count; otherwise the code is the
status. An answer that does not decode, and a request that cannot be made, fail
without a code.
-/

namespace PolicyReplica

inductive RestFailure where
  | refused (fault : ApiFault)
  /-- There is no answer that makes sense. -/
  | unusable
  deriving DecidableEq, Repr

namespace RestFailure

def meaning (name : String) : RestFailure → StoreError
  | .refused fault => fault.meaning name
  | .unusable => .api none

def code? : RestFailure → Option Nat
  | .refused fault => some fault.code
  | .unusable => none

end RestFailure

namespace Rest

open Json

/-- The reason of an error whose body is no error record. -/
def unknownReason : String := "Failed to parse error data"

def missing : String := "NotFound"

def codeBound : Nat := Nat.pow 2 16

def fault? (body : Json) : Option ApiFault :=
  match slots? ["status", "message", "reason", "code"] body with
  | some [status, message, reason, code] => do
      let _ ← required text? status
      let _ ← withDefault "" text? message
      pure
        { code := ← required (natBelow? codeBound) code
          reason := ← withDefault "" text? reason }
  | _ => none

def accept (response : HttpResponse) : Except RestFailure String :=
  if response.isError then
    .error (.refused
      (((Json.parse? response.body).bind fault?).getD
        { code := response.status, reason := unknownReason }))
  else .ok response.body

def send {σ : Type} [HttpTransport σ] (request : Option HttpRequest) (network : σ) :
    Except RestFailure String × σ :=
  match request with
  | none => (.error .unusable, network)
  | some request =>
      let (response, network) := HttpTransport.send request network
      match response with
      | none => (.error .unusable, network)
      | some response => (accept response, network)

def decodeBody {α : Type} (decode : String → Option α) :
    Except RestFailure String → Except RestFailure α
  | .error failure => .error failure
  | .ok body =>
      match decode body with
      | some value => .ok value
      | none => .error .unusable

def orMissing {α : Type} : Except RestFailure α → Except RestFailure (Option α)
  | .ok value => .ok (some value)
  | .error (.refused fault) =>
      if fault.reason = missing then .ok none else .error (.refused fault)
  | .error .unusable => .error .unusable

/-- A request with a JSON body, or without any; all but reading have a query, which
is empty. -/
def request? (method : HttpMethod) (path : String) (content : Option (String × Json)) :
    Option HttpRequest :=
  (target? (if method = .get then path else path ++ "?")).map fun target =>
    { method, target
      headers := (content.map fun (type, _) => ("content-type", type)).toList
      body := content.map Prod.snd }

/-- The path of an object in a collection; a name is never empty. -/
def objectPath? (collection name : String) : Option String :=
  if name = "" then none else some (collection ++ "/" ++ name)

def json : String := "application/json"

def mergePatch : String := "application/merge-patch+json"

/-! ### Replicas -/

def replicas : String := "/apis/" ++ Replica.apiVersion ++ "/policydomains"

def isOutcome (body : Json) : Bool :=
  let summary (value : Json) : Option Unit := do
    let text ← label? isNull value
    if text = "Success" ∨ text = "Failure" then some () else none
  let cause (value : Json) : Option Unit := do
    let [reason, message, field] ← slots? ["reason", "message", "field"] value | none
    let _ ← withDefault "" text? reason
    let _ ← withDefault "" text? message
    let _ ← withDefault "" text? field
  let details (value : Json) : Option Unit := do
    let [name, group, kind, uid, causes, retryAfter] ←
      slots? ["name", "group", "kind", "uid", "causes", "retryAfterSeconds"] value | none
    let _ ← withDefault "" text? name
    let _ ← withDefault "" text? group
    let _ ← withDefault "" text? kind
    let _ ← withDefault "" text? uid
    let _ ← withDefault [] (list? cause) causes
    let _ ← withDefault 0 (natBelow? (Nat.pow 2 32)) retryAfter
  let outcome : Option Unit := do
    let [status, code, message, reason, detail] ←
      slots? ["status", "code", "message", "reason", "details"] body | none
    let _ ← optional summary status
    let _ ← withDefault 0 (natBelow? codeBound) code
    let _ ← withDefault "" text? message
    let _ ← withDefault "" text? reason
    let _ ← optional details detail
  outcome.isSome

/-- Holds of the body of an answer to a deletion: the object, or how it ended. -/
def isDeletion (text : String) : Bool :=
  match Json.parse? text with
  | none => false
  | some body =>
      body.isKeepable &&
        match body.field? "kind" with
        | some (.string "Status") => isOutcome body
        | _ => (Replica.ofJson? body).isSome

def orGone : Except StoreError Unit → Except StoreError Unit
  | .error (.notFound _) => .ok ()
  | other => other

def encode? : ApiRequest → Option HttpRequest
  | .get name => (objectPath? replicas name).bind fun path => request? .get path none
  | .create replica => request? .post replicas (some (json, replica.toJson))
  | .replace replica =>
      (objectPath? replicas replica.name).bind fun path =>
        request? .put path (some (json, replica.toJson))
  | .setStatus name message =>
      let change := Json.object [("status", .object [("message", .string message)])]
      (objectPath? replicas name).bind fun path =>
        request? .patch (path ++ "/status") (some (mergePatch, change))
  | .delete name =>
      (objectPath? replicas name).bind fun path => request? .delete path (some (json, .object []))

def decode (request : ApiRequest) (body : Except RestFailure String) : request.Answer :=
  let replica : Except RestFailure Replica := decodeBody Replica.parse? body
  match request with
  | .get name => (orMissing replica).mapError (RestFailure.meaning name)
  | .create created => replica.mapError (RestFailure.meaning created.name)
  | .replace replaced => replica.mapError (RestFailure.meaning replaced.name)
  | .setStatus name _ => replica.mapError (RestFailure.meaning name)
  | .delete name =>
      let deletion (text : String) : Option Unit := if isDeletion text then some () else none
      orGone ((decodeBody deletion body).mapError (RestFailure.meaning name))

end Rest

structure RestApi (σ : Type) where
  network : σ

instance {σ : Type} [HttpTransport σ] : ApiBackend (RestApi σ) where
  answer request api :=
    let (body, network) := Rest.send (Rest.encode? request) api.network
    (Rest.decode request body, { network })

end PolicyReplica
