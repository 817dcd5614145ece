import ApiTypes.Json.Value
import ApiTypes.Table

/-!
Structures read from JSON. A structure is written as an object by field name, in any order and
among fields that nobody knows, or as an array by position. Each reader of a part that may nest
takes the room that is left: how many more arrays or objects may be opened.
-/
namespace ApiTypes.Json

/-- The members of an object whose keys are all texts. -/
def named? (members : List Member) : Option (List (String × Value)) :=
  members.mapM fun m => m.1.map (·, m.2)

/--
The fields found in a value: from an object the members with a known name, none of them twice, and
from an array its items, which must not outnumber the names.
-/
def Value.fields? (names : List String) : Value → Option (Table Value)
  | .object members => do
    let known := (← named? members).filter (names.contains ·.1)
    if (known.map Prod.fst).Nodup then some known else none
  | .array items => if items.length ≤ names.length then some (names.zip items) else none
  | _ => none

section fields
variable {α : Type} (fields : Table Value) (name : String) (read : Value → Option α)

/-- A field that must be there. -/
def required? : Option α :=
  (Table.get? fields name).bind read

/-- A field with a default for when it is left out. -/
def withDefault? (default : α) : Option α :=
  match Table.get? fields name with
  | some v => read v
  | none => some default

/-- A field that may be left out, or be null. -/
def optional? : Option (Option α) :=
  match Table.get? fields name with
  | none | some .null => some none
  | some v => some <$> read v

end fields

/-- A string that is a text. -/
def Value.text? : Value → Option String
  | .string text => text
  | _ => none

/-- A truth value. -/
def Value.bool? : Value → Option Bool
  | .bool b => some b
  | _ => none

/-- A table of values read by `read`; a repeated key takes its last value. -/
def Value.table? {α : Type} (read : Value → Option α) : Value → Option (Table α)
  | .object members => do
    let entries ← (← named? members).mapM fun m => (read m.2).map (m.1, ·)
    return Table.ofPairs entries
  | _ => none

/-- The name of a choice: a string, or an object with the name as its one key and null as value. -/
def Value.choice? (room : Nat) : Value → Option String
  | .string text => text
  | .object [(key, .null)] => if room = 0 then none else key
  | _ => none

end ApiTypes.Json
