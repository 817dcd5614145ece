import ApiTypes.Code.Field

/-!
The accessor of a request type: a method that lists the populated fields. Its body is a small
program over one growing text, and `Accessor.run` says what the program computes.
-/
namespace ApiTypes

/-- What a statement may ask. -/
inductive Condition where
  | isSome (field : Ident)
  | isNotEmpty (field : Ident)
  | endsWithComma

/-- A statement on the list of parts. -/
inductive Statement where
  /-- Begins an empty list. -/
  | declare
  | push (part : String)
  /-- Drops the last character. -/
  | pop
  | when (c : Condition) (body : Statement)

/-- What the method returns. -/
inductive Result where
  | emptyText
  | parts
deriving DecidableEq

/-- The accessor of a type. -/
structure Accessor where
  type : Ident
  body : List Statement
  result : Result

/-- A value that a field of an object holds, as far as its presence can be asked. -/
inductive FieldValue where
  | option (isSet : Bool)
  | list (size : Nat)
  | map (size : Nat)
  /-- A value that is always there. -/
  | plain
deriving DecidableEq, Inhabited

namespace FieldValue

/-- Whether a field of this type can hold the value. -/
def fits (v : FieldValue) : FieldType → Bool
  | .option _ => (v matches .option _)
  | .list _ => (v matches .list _)
  | .map _ => (v matches .map _)
  | _ => (v matches .plain)

/-- Whether the value counts as populated. -/
def isPopulated : FieldValue → Bool
  | option isSet => isSet
  | list size | map size => size != 0
  | plain => true

/-- The answer of `is_some`, which only optional values have. -/
def isSome? : FieldValue → Option Bool
  | option isSet => some isSet
  | _ => none

/-- The answer of `is_empty`, which only lists and maps have. -/
def isEmpty? : FieldValue → Option Bool
  | list size | map size => some (size == 0)
  | _ => none

end FieldValue

/-- An object of a generated type: a value for each field. -/
abbrev Object := List (Ident × FieldValue)

namespace Condition

/-- The truth of the condition; there is none where the object has no such field to be asked so. -/
def holds? (object : Object) (parts : List Char) : Condition → Option Bool
  | isSome field => (object.lookup field).bind FieldValue.isSome?
  | isNotEmpty field => ((object.lookup field).bind FieldValue.isEmpty?).map (!·)
  | endsWithComma => some (parts.getLast? == some ',')

end Condition

namespace Statement

/-- The list of parts after the statement. -/
def run (object : Object) : Statement → List Char → Option (List Char)
  | declare, _ => some []
  | push part, parts => some (parts ++ part.toList)
  | pop, parts => some parts.dropLast
  | when c body, parts => do if ← c.holds? object parts then body.run object parts else some parts

end Statement

namespace Accessor

/-- The statement that lists a field if it is populated. -/
def check (f : Field) : Statement :=
  let push := Statement.push (f.wireName ++ ",")
  match f.type.presence with
  | .nonEmpty => .when (.isNotEmpty f.ident) push
  | .isSome => .when (.isSome f.ident) push
  | .always => push

/-- The accessor of a type with the given fields. -/
def ofFields (type : Ident) (fields : List Field) : Accessor :=
  if fields.isEmpty then ⟨type, [], .emptyText⟩
  else ⟨type, .declare :: fields.map check ++ [.when .endsWithComma .pop], .parts⟩

/-- What the method returns for an object. -/
def run (a : Accessor) (object : Object) : Option String := do
  let parts ← a.body.foldlM (fun parts s => s.run object parts) []
  match a.result with
  | .emptyText => return ""
  | .parts => return String.ofList parts

/-- The documentation of the method. -/
def documentation : List String :=
  ["Returns a comma-separated list of the fields that are currently set.",
    "",
    "`Option` fields count when they hold a value, lists and maps when",
    "they are non-empty. The result is suitable as a parts list that",
    "names the parts you are sending and/or the parts you want to see",
    "in the server response."]

end Accessor

end ApiTypes
