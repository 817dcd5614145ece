import ApiTypes.Schema.Node

/-! Why no code is generated. Each error is a cause; its wording is in one place. -/
namespace ApiTypes

/-- Why a property has no type. -/
inductive UnmappableReason where
  | badReference (target : String)
  | untyped
  | arrayWithoutItems
  | badNestedName (name : String)
  | bareObject
  | notScalar (kind : JsonType)
deriving DecidableEq

/-- What a type name may collide with. -/
inductive NameOwner where
  | markerTrait
  | anotherType
deriving DecidableEq

/-- Why a document with well-shaped parts still cannot be turned into code. -/
inductive CodeError where
  | badTypeName (id : String)
  | badFieldName (schema property : String)
  | fieldClash (schema property field : String)
  | typeClash (id : String) (owner : NameOwner)
  | duplicateActivity (id : String)
deriving DecidableEq

/-- Why a run ends without a result. -/
inductive GenerationError where
  /-- The document cannot be read as a file of text. -/
  | unreadable (path : String)
  /-- A file or directory cannot be written. -/
  | unwritable (path : String)
  /-- The file is no discovery document. -/
  | notADocument
  | shape (e : ShapeError)
  | unmappable (schema property : String) (reason : UnmappableReason)
  | unknownFormat (schema property format : String)
  | badActivityName (name : String)
  | code (e : CodeError)
  | badVersion (version : String)
deriving DecidableEq

/-- How generation fails: with an error, or at a text that passed for a name but is none. -/
inductive Failure where
  | error (e : GenerationError)
  /-- An identifier had to be made of a text that is none. -/
  | noIdentifier (text : String)
deriving DecidableEq

/-- A result of generation, or why there is none. -/
abbrev Outcome (α : Type) := Except Failure α

/-- Stops with an error. -/
def Outcome.fail {α : Type} (e : GenerationError) : Outcome α :=
  .error (.error e)

namespace UnmappableReason

def message : UnmappableReason → String
  | badReference target => "'" ++ target ++ "' is not a valid type name"
  | untyped => "descriptor has neither 'type' nor '$ref'"
  | arrayWithoutItems => "array without 'items'"
  | badNestedName name => "nested type name '" ++ name ++ "' is not a valid type name"
  | bareObject => "object with neither 'properties' nor 'additionalProperties'"
  | notScalar kind => "'" ++ kind.name ++ "' is not a scalar type"

end UnmappableReason

namespace NameOwner

def description : NameOwner → String
  | markerTrait => "the marker trait"
  | anotherType => "another type"

end NameOwner

namespace CodeError

def message : CodeError → String
  | badTypeName id => "schema id '" ++ id ++ "' is not a valid type name"
  | badFieldName schema property =>
    "schema '" ++ schema ++ "': property '" ++ property ++ "' cannot be turned into a field name"
  | fieldClash schema property field =>
    "schema '" ++ schema ++ "': property '" ++ property ++
      "' collides with another field named '" ++ field ++ "'"
  | typeClash id owner =>
    "type '" ++ id ++ "' collides with " ++ owner.description ++ " of the same name"
  | duplicateActivity id => "duplicate activity id '" ++ id ++ "'"

end CodeError

namespace GenerationError

def message : GenerationError → String
  | unreadable path => "Failed to read discovery document '" ++ path ++ "'"
  | unwritable path => "Failed to write output file '" ++ path ++ "'"
  | notADocument => "Failed to parse discovery document"
  | shape e => "Malformed schema: " ++ e.message
  | unmappable schema property reason =>
    "Schema '" ++ schema ++ "': property '" ++ property ++ "' has an unmappable shape: " ++
      reason.message
  | unknownFormat schema property format =>
    "Schema '" ++ schema ++ "': property '" ++ property ++ "' has unknown format '" ++ format ++ "'"
  | badActivityName name =>
    "Invalid activity name '" ++ name ++ "': expected '<api>.<resource>.<method>'"
  | code e => "Code generation failed: " ++ e.message
  | badVersion version =>
    "Invalid configuration: API version '" ++ version ++ "' must look like 'v<number>'"

end GenerationError

end ApiTypes
