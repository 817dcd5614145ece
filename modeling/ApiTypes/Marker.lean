import ApiTypes.Activity.Usage

/-! Markers: empty traits that tell which part a generated type plays in the API. -/
namespace ApiTypes

/-- A marker; its name is that of its trait. -/
inductive Marker where
  | part
  | resource
  | responseResult
  | requestValue
  | nestedType
deriving DecidableEq, Inhabited

namespace Marker

/-- All markers in order. -/
def all : List Marker :=
  [.part, .resource, .responseResult, .requestValue, .nestedType]

def name : Marker → String
  | part => "Part"
  | resource => "Resource"
  | responseResult => "ResponseResult"
  | requestValue => "RequestValue"
  | nestedType => "NestedType"

/-- The marker with a given name; case matters. -/
def ofName? (s : String) : Option Marker :=
  all.find? (·.name == s)

/-- What the marker says of a type, line by line. -/
def documentation : Marker → List String
  | part => ["Identifies types which are only used as part of other types."]
  | resource => ["Identifies types named after the resource whose methods operate on them."]
  | responseResult => ["Identifies types which are returned as the result of an activity."]
  | requestValue =>
    ["Identifies types which are used as the request payload of an activity.",
      "Such types can list their populated fields with `to_parts()`."]
  | nestedType => ["Identifies types which are synthesized from anonymous object properties."]

/-- The documentation as one text; where it has several lines, each one ends with a line feed. -/
def documentationText (m : Marker) : String :=
  match m.documentation with
  | [line] => line
  | lines => String.join (lines.map (· ++ "\n"))

theorem ofName?_name (m : Marker) : ofName? m.name = some m := by
  cases m <;> decide

end Marker

/-- Tells which markers a schema gets. -/
abbrev Classifier := SchemaNode → UsageTable → Marker → Bool

namespace Classifier

/-- Whether an activity belongs to the resource that a schema is named after. -/
def isOnResourceOf (schema activity : String) : Bool :=
  (ActivityName.ofText? activity).any fun a =>
    Text.sameIgnoringCase (ActivityName.resourceTypeName a.resource) schema

/-- The markers that follow from the activities that use a schema. -/
def standard : Classifier := fun s usage marker =>
  let uses := (Table.get? usage s.id).getD []
  match marker with
  | .part => uses.isEmpty
  | .resource => uses.any (isOnResourceOf s.id ·.1)
  | .responseResult => uses.any (·.2.response)
  | .requestValue => uses.any (·.2.request)
  | .nestedType => s.nested

/-- The same markers for every schema. -/
def always (markers : List Marker) : Classifier := fun _ _ marker =>
  markers.contains marker

end Classifier

end ApiTypes
