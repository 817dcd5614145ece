import ApiTypes.Code.Nested
import ApiTypes.Code.TypeUnit

/-! The module that a document becomes. -/
namespace ApiTypes

/-- A generated module: its documentation and one unit for each schema. -/
structure SourceModule where
  doc : List String
  units : List TypeUnit

namespace SourceModule

/-- The first schema whose name belongs to a marker or to a schema before it. -/
def nameClash? : List String → List SchemaNode → Option CodeError
  | _, [] => none
  | seen, s :: rest =>
    if (Marker.all.map Marker.name).contains s.id then some (.typeClash s.id .markerTrait)
    else if seen.contains s.id then some (.typeClash s.id .anotherType)
    else nameClash? (s.id :: seen) rest

/-- The units of a document: those of the catalog, then those of anonymous objects. -/
def unitsOf (c : Context) (d : Document) : Outcome (List TypeUnit) := do
  let nested ← (nestedSchemas d.schemas.values).mapError (Failure.error ∘ GenerationError.shape)
  let schemas := d.schemas.values ++ nested
  match nameClash? [] schemas with
  | some e => Outcome.fail (.code e)
  | none => schemas.mapM (TypeUnit.ofSchema c)

/-- The documentation of the module of a document. -/
def docOf (d : Document) : List String :=
  let description := d.description.getD ""
  [" Data types of the " ++ d.title.getD d.name ++ ".", ""] ++
    (if description.toList.all Unicode.isBlank then [] else Text.docLines description ++ [""]) ++
    [" Generated from the `" ++ d.name ++ "` `" ++ d.version ++ "` discovery document."]

/-- The module of a document. -/
def ofDocument (c : Context) (d : Document) : Outcome SourceModule := do
  return { doc := docOf d, units := ← unitsOf c d }

/-- The items of a module, in order. -/
def items (m : SourceModule) : List Item :=
  .codecImport :: Marker.all.map .markerTrait ++ m.units.flatMap TypeUnit.items

end SourceModule

end ApiTypes
