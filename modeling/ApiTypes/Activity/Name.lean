import ApiTypes.Text.Words

/-! Activity names: the name of an API, the path of a resource and the name of a method. -/
namespace ApiTypes
open Text

/-- The parts of a full activity name. A nested resource keeps its dots. -/
structure ActivityName where
  api : String
  resource : String
  method : String
deriving DecidableEq

namespace ActivityName

/--
Splits a full name: the API stands in front of the first dot, the method behind the last dot after
that one. No part between two dots may be empty.
-/
def ofText? (s : String) : Option ActivityName := do
  let (api, rest) ← cutFirst? '.' s.toList
  let (resource, method) ← cutLast? '.' rest
  if (split '.' s).any String.isEmpty then none
  else some ⟨String.ofList api, String.ofList resource, String.ofList method⟩

/-- The name of the type that the methods of a resource work on. -/
def resourceTypeName (resource : String) : String :=
  singular (String.join ((split '.' resource).map capitalize))

/-- The name of the type that builds calls of a method. -/
def methodBuilderType (resource method : String) : String :=
  resourceTypeName resource ++ capitalize method ++ "MethodBuilder"

end ActivityName

end ApiTypes
