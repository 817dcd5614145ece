import ApiTypes.Document.Basic
import ApiTypes.Json.Parse
import ApiTypes.Json.Record

/-!
Documents read from JSON. `room` is the number of arrays and objects that may still be opened, one
inside another; a document has room for 127.
-/
namespace ApiTypes
open Json

/-- How deep the arrays and objects of a document may nest. -/
def maxDepth : Nat := 127

/-- A table whose values are read with one level less. -/
def decodeTable {α : Type} (room : Nat) (read : Nat → Value → Option α) (v : Value) :
    Option (Table α) :=
  match room with
  | 0 => none
  | room + 1 => v.table? (read room)

def JsonType.decode (room : Nat) (v : Value) : Option JsonType := do
  ofName? (← v.choice? room)

def IoRole.decode (room : Nat) (v : Value) : Option IoRole := do
  ofName? (← v.choice? room)

namespace Property

/-- The field names, in the order of the positional form. -/
def fieldNames : List String :=
  ["type", "$ref", "description", "format", "required", "items", "additionalProperties",
    "properties"]

def decode : Nat → Value → Option Property
  | 0, _ => none
  | room + 1, v => do
    let fields ← v.fields? fieldNames
    return {
      kind := ← optional? fields "type" (JsonType.decode room)
      reference := ← optional? fields "$ref" Value.text?
      description := ← optional? fields "description" Value.text?
      format := ← optional? fields "format" Value.text?
      required := ← withDefault? fields "required" Value.bool? false
      items := ← optional? fields "items" (decode room)
      additional := ← optional? fields "additionalProperties" (decode room)
      properties := ← optional? fields "properties" fun v =>
        match room with
        | 0 => none
        | room + 1 => v.table? (decode room) }

end Property

namespace SchemaNode

/-- The field names, in the order of the positional form. -/
def fieldNames : List String :=
  ["id", "type", "description", "format", "properties", "items", "additionalProperties"]

def decode : Nat → Value → Option SchemaNode
  | 0, _ => none
  | room + 1, v => do
    let fields ← v.fields? fieldNames
    return {
      id := ← withDefault? fields "id" Value.text? ""
      kind := ← optional? fields "type" (JsonType.decode room)
      description := ← optional? fields "description" Value.text?
      format := ← optional? fields "format" Value.text?
      properties := ← withDefault? fields "properties" (decodeTable room Property.decode) []
      items := ← optional? fields "items" (Property.decode room)
      additional := ← optional? fields "additionalProperties" (Property.decode room) }

end SchemaNode

namespace Reference

/-- The field names, in the order of the positional form. -/
def fieldNames : List String :=
  ["$ref"]

def decode : Nat → Value → Option Reference
  | 0, _ => none
  | _ + 1, v => do
    let fields ← v.fields? fieldNames
    return { target := ← required? fields "$ref" Value.text? }

end Reference

namespace Method

/-- The field names, in the order of the positional form. -/
def fieldNames : List String :=
  ["id", "httpMethod", "path", "description", "request", "response"]

def decode : Nat → Value → Option Method
  | 0, _ => none
  | room + 1, v => do
    let fields ← v.fields? fieldNames
    return {
      id := ← withDefault? fields "id" Value.text? ""
      httpMethod := ← optional? fields "httpMethod" Value.text?
      path := ← optional? fields "path" Value.text?
      description := ← optional? fields "description" Value.text?
      request := ← optional? fields "request" (Reference.decode room)
      response := ← optional? fields "response" (Reference.decode room) }

end Method

namespace Resource

/-- The field names, in the order of the positional form. -/
def fieldNames : List String :=
  ["methods", "resources"]

def decode : Nat → Value → Option Resource
  | 0, _ => none
  | room + 1, v => do
    let fields ← v.fields? fieldNames
    return {
      methods := ← withDefault? fields "methods" (decodeTable room Method.decode) []
      resources := ← withDefault? fields "resources" (fun v =>
        match room with
        | 0 => none
        | room + 1 => v.table? (decode room)) [] }

end Resource

namespace Document

/-- The field names, in the order of the positional form. -/
def fieldNames : List String :=
  ["name", "version", "title", "description", "schemas", "resources"]

def decode : Nat → Value → Option Document
  | 0, _ => none
  | room + 1, v => do
    let fields ← v.fields? fieldNames
    return {
      name := ← withDefault? fields "name" Value.text? ""
      version := ← withDefault? fields "version" Value.text? ""
      title := ← optional? fields "title" Value.text?
      description := ← optional? fields "description" Value.text?
      schemas := ← withDefault? fields "schemas" (decodeTable room SchemaNode.decode) []
      resources := ← withDefault? fields "resources" (decodeTable room Resource.decode) [] }

/-- The document that a text describes. -/
def ofText? (text : String) : Option Document := do
  decode maxDepth (← Value.ofText? text)

end Document

end ApiTypes
