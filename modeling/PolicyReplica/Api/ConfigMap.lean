import PolicyReplica.Api.Rest
import PolicyReplica.Text.Base64

/-
Recording the cursor in a config map.

The cursor is kept under a key of the map, so that it outlives the process. An
existing map keeps everything else that is in it; a missing one is created.
-/

namespace PolicyReplica

open Json

structure ConfigMap where
  metadata : Metadata
  /-- The texts by key. -/
  data : Option (Table String String)
  /-- Base64 texts by key. -/
  binaryData : Option (Table String String)
  immutable : Option Bool
  deriving DecidableEq

namespace ConfigMap

def kind : String := "ConfigMap"

def apiVersion : String := "v1"

def toJson (map : ConfigMap) : Json :=
  .object
    ([("apiVersion", .string apiVersion), ("kind", .string kind)] ++
      present "binaryData" ofTexts map.binaryData ++ present "data" ofTexts map.data ++
      present "immutable" Json.bool map.immutable ++ [("metadata", map.metadata.toJson)])

/-- A Base64 text; null stands for the empty one. -/
def base64? : Json → Option String
  | .null => some ""
  | value => value.text?.filter fun text => Text.Base64.isWellFormed text.toList

/-- Holds of fields that have the text under the name if they have the name. -/
def agrees (name text : String) (fields : List (String × Json)) : Bool :=
  fields.all fun field => field.1 ≠ name || field.2.text? = some text

/-- A config map; what is absent is empty, and other fields are ignored. -/
def ofJson? : Json → Option ConfigMap
  | .object fields =>
      if agrees "apiVersion" apiVersion fields && agrees "kind" kind fields then do
        pure
          { metadata := (← last? "metadata" Metadata.ofJson? fields).getD Metadata.empty
            data := ← last? "data" (map? text?) fields
            binaryData := ← last? "binaryData" (map? base64?) fields
            immutable := ← last? "immutable" bool? fields }
      else none
  | _ => none

def parse? (text : String) : Option ConfigMap :=
  (Json.parse? text).bind ofJson?

def single (name key text : String) : ConfigMap :=
  { metadata := { Metadata.empty with name := some name }
    data := some (Table.empty.insert key text)
    binaryData := none
    immutable := none }

def put (map : ConfigMap) (key text : String) : ConfigMap :=
  { map with data := some ((map.data.getD Table.empty).insert key text) }

end ConfigMap

structure CursorPlace where
  /-- The namespace of the config map. -/
  enclosing : String
  name : String
  key : String
  deriving DecidableEq, Repr

namespace CursorPlace

def collection (place : CursorPlace) : String :=
  "/api/v1/namespaces/" ++ place.enclosing ++ "/configmaps"

def write? (place : CursorPlace) (cursor : String) : Option ConfigMap → Option HttpRequest
  | some map =>
      (Rest.objectPath? place.collection place.name).bind fun path =>
        Rest.request? .put path (some (Rest.json, (map.put place.key cursor).toJson))
  | none =>
      Rest.request? .post place.collection
        (some (Rest.json, (ConfigMap.single place.name place.key cursor).toJson))

/-- Records a cursor: fetches the map, then replaces or creates it. -/
def record {σ : Type} [HttpTransport σ] (place : CursorPlace) (cursor : String) (network : σ) :
    Except RestFailure Unit × σ :=
  let path := Rest.objectPath? place.collection place.name
  let (found, fetched) := Rest.send (path.bind fun path => Rest.request? .get path none) network
  match Rest.orMissing (Rest.decodeBody ConfigMap.parse? found) with
  | .error failure => (.error failure, fetched)
  | .ok map =>
      let (written, after) := Rest.send (place.write? cursor map) fetched
      ((Rest.decodeBody ConfigMap.parse? written).map fun _ => (), after)

end CursorPlace

end PolicyReplica
