import PolicyReplica.Json.Reader

/-
Requests and responses of HTTP, and what carries them.
-/

namespace PolicyReplica

inductive HttpMethod where
  | get
  | post
  | put
  | patch
  | delete
  deriving DecidableEq, Repr

def HttpMethod.label : HttpMethod → String
  | .get => "GET"
  | .post => "POST"
  | .put => "PUT"
  | .patch => "PATCH"
  | .delete => "DELETE"

structure HttpRequest where
  method : HttpMethod
  /-- The path, and the query if there is one. -/
  target : String
  /-- The headers with names in lower case. -/
  headers : List (String × String)
  body : Option Json

structure HttpResponse where
  status : Nat
  headers : List (String × String)
  body : String
  deriving DecidableEq, Repr

/-- The first header of a name, whatever its case. -/
def HttpResponse.header? (response : HttpResponse) (name : String) : Option String :=
  (response.headers.find? fun header => header.1.toLower = name).map Prod.snd

def HttpResponse.isSuccess (response : HttpResponse) : Bool :=
  200 ≤ response.status && response.status < 300

def HttpResponse.isError (response : HttpResponse) : Bool :=
  400 ≤ response.status && response.status < 600

/-- Holds when the status has three digits, as every status has. -/
def HttpResponse.isWellFormed (response : HttpResponse) : Bool :=
  100 ≤ response.status && response.status < 1000

/-- What carries requests; nothing comes back when it fails. -/
class HttpTransport (σ : Type) where
  send : HttpRequest → σ → Option HttpResponse × σ

structure Unreachable where

instance : HttpTransport Unreachable where
  send _ network := (none, network)

structure CannedResponses where
  remaining : List HttpResponse
  /-- The requests so far, in order. -/
  sent : List HttpRequest

namespace CannedResponses

def exhausted : HttpResponse :=
  { status := 500, headers := [], body := "" }

instance : HttpTransport CannedResponses where
  send request canned :=
    ((some (canned.remaining.head?.getD exhausted)).filter HttpResponse.isWellFormed,
      { remaining := canned.remaining.tail, sent := canned.sent ++ [request] })

end CannedResponses

def isForbiddenInPath (c : Char) : Bool :=
  c.toNat ≤ 0x20 || c.toNat = 0x7f || c = '<' || c = '>' || c = '\x60'

def isForbiddenInQuery (c : Char) : Bool :=
  c.toNat ≤ 0x20 || c.toNat = 0x7f || c = '<' || c = '>' || c = '"'

/-- The number of bytes that a target may have. -/
def longestTarget : Nat := 65534

/-- The target that a text denotes; a fragment is not part of it. -/
def target? (text : String) : Option String :=
  let sent := text.toList.takeWhile (· ≠ '#')
  let path := sent.takeWhile (· ≠ '?')
  let query := (sent.dropWhile (· ≠ '?')).drop 1
  if longestTarget < text.utf8ByteSize || path.any isForbiddenInPath ||
      query.any isForbiddenInQuery then none
  else some (String.ofList sent)

def HttpRequest.path (request : HttpRequest) : String :=
  String.ofList (request.target.toList.takeWhile (· ≠ '?'))

end PolicyReplica
