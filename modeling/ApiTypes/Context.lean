import ApiTypes.Error
import ApiTypes.Marker
import ApiTypes.Text.Literal

/-! What the generation of every schema may look at: the activities, the methods, the markers. -/
namespace ApiTypes

/-- The cross-reference of a document. -/
structure Context where
  activities : UsageTable := []
  methods : Table Method := []
  classifier : Classifier := Classifier.standard

namespace Context

/-- Adds a method, under an activity name that is well formed and new. -/
def register (c : Context) (m : Method) : Except GenerationError Context :=
  match ActivityName.ofText? m.id with
  | none => .error (.badActivityName m.id)
  | some name =>
    if m.id ∈ c.methods.keys then .error (.code (.duplicateActivity m.id))
    else
      .ok { c with
        activities := c.activities.noteMethod m name.resource
        methods := c.methods ++ [(m.id, m)] }

mutual

/-- Registers what is below a resource: its own methods in order, then its sub-resources. -/
def registerResource (c : Context) : Resource → Except GenerationError Context
  | ⟨methods, resources⟩ => do
    let c ← methods.foldlM (fun c (_, m) => c.register m) c
    registerResources c resources

/-- Registers what is below the resources, one after another. -/
def registerResources (c : Context) : List (String × Resource) → Except GenerationError Context
  | [] => .ok c
  | (_, r) :: rest => do
    let c ← registerResource c r
    registerResources c rest

end

/-- The context of a document, whose methods are taken in document order. -/
def ofDocument (d : Document) : Except GenerationError Context :=
  registerResources {} d.resources

/-- The markers of a schema, in order. -/
def markers (c : Context) (s : SchemaNode) : List Marker :=
  Marker.all.filter (c.classifier s c.activities)

/-- The activities that use the schema with this name. -/
def activitiesOf (c : Context) (id : String) : Option (Table RoleSet) :=
  Table.get? c.activities id

/-- A set or map in a diagnostic. -/
private def braced (parts : List String) : String :=
  "\x7b" ++ ", ".intercalate parts ++ "\x7d"

private def roleShown : IoRole → String
  | .request => "Request"
  | .response => "Response"

/-- The context as a diagnostic shows it; the classifier has no shown form. -/
def shown (c : Context) : String :=
  let activities := braced <| c.activities.map fun (id, uses) =>
    Text.shown id ++ ": " ++ braced (uses.map fun (activity, roles) =>
      Text.shown activity ++ ": " ++ braced (roles.toList.map roleShown))
  let methods := "[" ++ ", ".intercalate (c.methods.keys.map Text.shown) ++ "]"
  "GenerationContext \x7b activities: " ++ activities ++ ", methods: " ++ methods ++ ", .. \x7d"

end Context

end ApiTypes
