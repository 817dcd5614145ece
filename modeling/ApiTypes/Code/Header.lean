import ApiTypes.Context
import ApiTypes.FieldType.Mapping
import ApiTypes.Text.DocLines

/-!
The documentation above a declaration: the description of the schema, the activities that use it,
and the underlying type of a schema that is no object.
-/
namespace ApiTypes.Header
open Text

/-- Stands in for a missing description. -/
def noDescription : String := "There is no detailed description."

/-- Says that no activity uses the schema. -/
def partOnly : String :=
  "This type is not used in any activity, and only used as *part* of another schema."

def description (s : SchemaNode) : String :=
  match Unicode.trim (s.description.getD "").toList with
  | [] => noDescription
  | text => String.ofList text

/-- The list item of one activity. -/
def activityLine (activity : String) (roles : RoleSet) : Except GenerationError String :=
  match ActivityName.ofText? activity with
  | none => .error (.badActivityName activity)
  | some a =>
    .ok ("* [" ++ a.resource ++ "." ++ a.method ++ "](struct." ++
      ActivityName.methodBuilderType a.resource a.method ++ ".html) (" ++ roles.shown ++ ")")

/-- What comes before the list of activities. -/
def activitiesIntro : List String :=
  ["# Activities",
    "",
    "This type is used in activities, which are methods you may call on this type or where " ++
      "this type is involved in.",
    "The list links the activity name, along with information about where it is used (one of " ++
      enumeration (enclose "*" (IoRole.all.map IoRole.name)) ++ ").",
    ""]

/-- The activities that use the schema. -/
def activities (s : SchemaNode) (c : Context) : Except GenerationError String :=
  match c.activitiesOf s.id with
  | none => .ok partOnly
  | some uses => do
    let list ← uses.mapM fun (activity, roles) => activityLine activity roles
    return "\n".intercalate (activitiesIntro ++ list)

/-- The underlying type of a schema that is no object. -/
def underlyingType? (s : SchemaNode) : Except GenerationError (Option FieldType) := do
  match ← s.shape.mapError .shape with
  | .object _ => return none
  | .records _ => return some (.list (.named s.id))
  | .list _ | .other => return some (← FieldType.ofProperty s.id FieldType.listElement s.asProperty)

def note (t : FieldType) : String :=
  "# Note\n\nThis type is not an object; its underlying type is `" ++ t.display ++ "`."

/-- The sections of the documentation. -/
def sections (s : SchemaNode) (c : Context) : Except GenerationError (List String) := do
  let activities ← activities s c
  let type? ← underlyingType? s
  return [description s, activities] ++ (type?.map note).toList

/-- The comment lines above the declaration; a blank line parts the sections. -/
def lines (s : SchemaNode) (c : Context) : Except GenerationError (List String) := do
  return docLines ("\n\n".intercalate (← sections s c))

end ApiTypes.Header
