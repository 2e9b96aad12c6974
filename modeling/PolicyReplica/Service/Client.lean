import PolicyReplica.Domain.Codec
import PolicyReplica.Http.Message
import PolicyReplica.Http.Url
import PolicyReplica.Identity.Basic
import PolicyReplica.Service.Basic
import PolicyReplica.Text.Blank

/-
The policy service behind a network.

The service lists signed domains. One domain is asked for by name, and changes
are asked for with the entity tag of the last listing. A request carries a token
in a header, or the connection a certificate; who they are given to is not
decided here.
-/

namespace PolicyReplica

open Json

inductive PemFile where
  | readable (content : Der.Bytes)
  | missing (path : String)
  deriving DecidableEq, Repr

inductive Credential where
  /-- A token in the header of that name. -/
  | token (header : String)
  | certificate (certificate key : PemFile)
  deriving DecidableEq, Repr

inductive ClientFault where
  | invalidUrl (text : String)
  /-- A URL below which nothing can be. -/
  | invalidBase
  | unreadable (path : String)
  | invalidIdentity
  /-- An identity with which no connection can be made. -/
  | unusableIdentity
  deriving DecidableEq, Repr

def ClientFault.message : ClientFault → String
  | .invalidUrl text => "invalid API URL: " ++ text
  | .invalidBase => "invalid API URL"
  | .unreadable path => "reading " ++ path
  | .invalidIdentity => "invalid client identity"
  | .unusableIdentity => "failed to build HTTP client"

structure ServiceClient where
  /-- The path of the list of domains. -/
  path : String
  /-- The header for the token, if there is one. -/
  tokenHeader : Option String
  deriving DecidableEq, Repr

namespace ServiceClient

def read : PemFile → Except ClientFault Der.Bytes
  | .readable content => .ok content
  | .missing path => .error (.unreadable path)

def lineFeed : UInt8 := 10

/-- The header for the token, after a check of the identity. -/
def authenticate : Credential → Except ClientFault (Option String)
  | .token header => .ok (some (header.map Char.toLower))
  | .certificate certificate key => do
      let first ← read certificate
      let second ← read key
      match Identity.read? (first ++ lineFeed :: second) with
      | none => .error .invalidIdentity
      | some identity => if identity.isSound then .ok none else .error .unusableIdentity

def create (base : String) (credential : Credential) : Except ClientFault ServiceClient :=
  match Url.parse? base with
  | none => .error (.invalidUrl base)
  | some url =>
      match url.below? "sys/modified_domains" with
      | none => .error .invalidBase
      | some path => (authenticate credential).map fun tokenHeader => { path, tokenHeader }

/-! ### Requests -/

def userAgent : String := "domain-syncer-client/0.1.0"

def isHeaderValue (text : String) : Bool :=
  text.toList.all fun c => 0x20 ≤ c.toNat && c.toNat ≠ 0x7f || c = '\t'

/-- Holds of a header value of visible characters, spaces and tabs. -/
def isVisible (text : String) : Bool :=
  text.toList.all fun c => 0x20 ≤ c.toNat && c.toNat < 0x7f || c = '\t'

/-- The headers for the token; none if it could not be read. -/
def tokenHeaders (client : ServiceClient) (token : Option String) :
    Option (List (String × String)) :=
  match client.tokenHeader with
  | none => some []
  | some header => token.map fun text => [(header, String.ofList (Text.trim text.toList))]

def request? (client : ServiceClient) (token : Option String)
    (query conditions : List (String × String)) : Option HttpRequest := do
  let credentials ← client.tokenHeaders token
  let headers := ("user-agent", userAgent) :: conditions ++ credentials
  if headers.all fun header => isHeaderValue header.2 then
    pure
      { method := .get
        target := client.path ++ "?" ++ Percent.query query
        headers
        body := none }
  else none

def fetchRequest? (client : ServiceClient) (token : Option String) (name : String) :
    Option HttpRequest :=
  client.request? token [("domain", name)] []

/-- The request for the domains that changed since a cursor; an empty cursor asks
for all. -/
def changesRequest? (client : ServiceClient) (token : Option String) (cursor : String) :
    Option HttpRequest :=
  client.request? token [("metaonly", "true"), ("master", "false")]
    (if cursor = "" then [] else [("if-none-match", cursor)])

/-! ### Answers -/

def unsent : ServiceError := .transport "the request could not be sent"

def undecodable : ServiceError := .transport "the answer could not be decoded"

def listed? (body : String) : Option (List Snapshot) := do
  let [domains] ← slots? ["domains"] (← Json.parse? body) | none
  withDefault [] (list? (Snapshot.ofJson? isNull)) domains

def statusError (response : HttpResponse) : ServiceError :=
  if response.status = 404 then .notFound
  else .status response.status (String.ofList (Text.trim response.body.toList))

def snapshots (response : HttpResponse) : Except ServiceError (List Snapshot) :=
  if response.isSuccess then
    match listed? response.body with
    | some snapshots => .ok snapshots
    | none => .error undecodable
  else .error (statusError response)

/-- What a response says about a domain: the first snapshot of that name. -/
def acceptFetch (name : String) (response : HttpResponse) :
    Except ServiceError (Option Snapshot) :=
  (snapshots response).map (·.find? fun snapshot => snapshot.name = name)

/-- The cursor of a listing: its entity tag. -/
def cursor (response : HttpResponse) : String :=
  ((response.header? "etag").filter isVisible).getD ""

/-- What a response says about changes; nothing changed if it says so. -/
def acceptChanges (response : HttpResponse) : Except ServiceError ChangeList :=
  if response.status = 304 then .ok { domains := [], cursor := "" }
  else (snapshots response).map fun domains => { domains, cursor := cursor response }

/-! ### Both together -/

def perform {σ α : Type} [HttpTransport σ] (request : Option HttpRequest)
    (accept : HttpResponse → Except ServiceError α) (network : σ) : Except ServiceError α × σ :=
  match request with
  | none => (.error unsent, network)
  | some request =>
      let (response, network) := HttpTransport.send request network
      match response with
      | none => (.error unsent, network)
      | some response => (accept response, network)

def fetch {σ : Type} [HttpTransport σ] (client : ServiceClient) (token : Option String)
    (name : String) (network : σ) : Except ServiceError (Option Snapshot) × σ :=
  perform (client.fetchRequest? token name) (acceptFetch name) network

def changes {σ : Type} [HttpTransport σ] (client : ServiceClient) (token : Option String)
    (cursor : String) (network : σ) : Except ServiceError ChangeList × σ :=
  perform (client.changesRequest? token cursor) acceptChanges network

end ServiceClient

end PolicyReplica
