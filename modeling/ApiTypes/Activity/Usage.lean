import ApiTypes.Activity.Name
import ApiTypes.Document.Basic

/-! Which activities use which schema, and in which roles. -/
namespace ApiTypes

/-- The roles that a schema plays in one activity; perhaps none. -/
structure RoleSet where
  request : Bool := false
  response : Bool := false
deriving DecidableEq, Inhabited

namespace RoleSet

def contains (s : RoleSet) : IoRole → Bool
  | .request => s.request
  | .response => s.response

def insert (s : RoleSet) : IoRole → RoleSet
  | .request => { s with request := true }
  | .response => { s with response := true }

/-- The roles in order. -/
def toList (s : RoleSet) : List IoRole :=
  IoRole.all.filter s.contains

/-- The set of the roles in a list. -/
def ofList (roles : List IoRole) : RoleSet :=
  roles.foldl insert {}

/-- The roles as documentation shows them. -/
def shown (s : RoleSet) : String :=
  if s.toList.isEmpty then "none" else "|".intercalate (s.toList.map IoRole.name)

end RoleSet

/-- For each schema name, the activities that use it with the schema's roles in each. -/
abbrev UsageTable := Table (Table RoleSet)

namespace UsageTable

/-- Notes that an activity uses a schema, in the given role or in none. -/
def note (t : UsageTable) (schema activity : String) (role : Option IoRole) : UsageTable :=
  Table.adjust schema (fun uses => Table.adjust activity (fun roles =>
    match role with
    | some r => (roles.getD {}).insert r
    | none => roles.getD {}) (uses.getD [])) t

/-- Notes the schema that plays `role` in a method. -/
def noteRole (t : UsageTable) (m : Method) (role : IoRole) : UsageTable :=
  match m.roleReference role with
  | some r => note t r.target m.id (some role)
  | none => t

/-- Notes all that a method uses: what it takes and returns, and the type of its resource. -/
def noteMethod (t : UsageTable) (m : Method) (resource : String) : UsageTable :=
  note (IoRole.all.foldl (noteRole · m ·) t) (ActivityName.resourceTypeName resource) m.id none

end UsageTable

end ApiTypes
