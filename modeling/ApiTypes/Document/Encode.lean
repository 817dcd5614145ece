import ApiTypes.Document.Basic
import ApiTypes.Json.Render

/-!
Documents written as JSON. Fields come in the order of their declaration; a field that is absent or
empty is left out, but a property keeps an empty field list, which differs from none.
-/
namespace ApiTypes
open Json

/-- A member for a text that may be absent. -/
def textMember (key : String) : Option String → List Member
  | none => []
  | some s => [member key (.text s)]

def JsonType.encode (t : JsonType) : Value :=
  .text t.name

def IoRole.encode (r : IoRole) : Value :=
  .text r.name

/-- A member for a type tag that may be absent. -/
def kindMember : Option JsonType → List Member
  | none => []
  | some t => [member "type" t.encode]

mutual

def Property.encode : Property → Value
  | ⟨kind, reference, description, format, required, items, additional, properties⟩ =>
    .object (kindMember kind ++ textMember "$ref" reference ++
      textMember "description" description ++ textMember "format" format ++
      (if required then [member "required" (.bool true)] else []) ++
      propertyMember "items" items ++ propertyMember "additionalProperties" additional ++
      fieldsMember properties)

/-- A member for a property that may be absent. -/
def propertyMember (key : String) : Option Property → List Member
  | none => []
  | some p => [member key p.encode]

/-- A member for a field list that may be absent. -/
def fieldsMember : Option (List (String × Property)) → List Member
  | none => []
  | some fields => [member "properties" (.object (encodeFields fields))]

/-- The members of a field list. -/
def encodeFields : List (String × Property) → List (Option String × Value)
  | [] => []
  | (name, p) :: rest => (some name, p.encode) :: encodeFields rest

end

def SchemaNode.encode (s : SchemaNode) : Value :=
  .object (member "id" (.text s.id) :: kindMember s.kind ++
    textMember "description" s.description ++ textMember "format" s.format ++
    (if s.properties.isEmpty then []
      else [member "properties" (.object (encodeFields s.properties))]) ++
    propertyMember "items" s.items ++ propertyMember "additionalProperties" s.additional)

def Reference.encode (r : Reference) : Value :=
  .object [member "$ref" (.text r.target)]

/-- A member for a reference that may be absent. -/
def referenceMember (key : String) : Option Reference → List Member
  | none => []
  | some r => [member key r.encode]

def Method.encode (m : Method) : Value :=
  .object (member "id" (.text m.id) :: textMember "httpMethod" m.httpMethod ++
    textMember "path" m.path ++ textMember "description" m.description ++
    referenceMember "request" m.request ++ referenceMember "response" m.response)

/-- A member for a table that is left out when empty. -/
def tableMember (key : String) (members : List Member) : List Member :=
  if members.isEmpty then [] else [member key (.object members)]

mutual

def Resource.encode : Resource → Value
  | ⟨methods, resources⟩ =>
    .object (tableMember "methods" (methods.map fun m => member m.1 m.2.encode) ++
      tableMember "resources" (encodeResources resources))

/-- The members of a table of resources. -/
def encodeResources : List (String × Resource) → List (Option String × Value)
  | [] => []
  | (name, r) :: rest => (some name, r.encode) :: encodeResources rest

end

def Document.encode (d : Document) : Value :=
  .object ([member "name" (.text d.name), member "version" (.text d.version)] ++
    textMember "title" d.title ++ textMember "description" d.description ++
    [member "schemas" (.object (d.schemas.map fun s => member s.1 s.2.encode)),
      member "resources" (.object (encodeResources d.resources))])

end ApiTypes
