import ApiTypes.FieldType
import ApiTypes.Naming

/-!
The field type of a property. Nothing is guessed: a descriptor that no type expresses is an error
that names the schema and the property, however deep it lies.
-/
namespace ApiTypes.FieldType

/-- The name under which the elements of a list schema are mapped. -/
def listElement : String := "items"

/-- The type of a scalar. Only numbers heed their format. -/
def ofScalar (schema property : String) (kind : JsonType) (format : Option String) :
    Except GenerationError FieldType :=
  match kind with
  | .boolean => .ok .bool
  | .string => .ok .string
  | .integer =>
    match format with
    | some "int32" => .ok .i32
    | some "uint32" => .ok .u32
    | some "int64" | none => .ok .i64
    | some "uint64" => .ok .u64
    | some other => .error (.unknownFormat schema property other)
  | .number =>
    match format with
    | some "double" | none => .ok .f64
    | some "float" => .ok .f32
    | some other => .error (.unknownFormat schema property other)
  | .any => .ok .json
  | .array | .object => .error (.unmappable schema property (.notScalar kind))

/--
The type of a descriptor. It is optional only where `mayBeOptional` allows it, which elements and
map values never do, and lists and maps are not optional at all.
-/
def ofDescriptor (schema property : String) :
    (mayBeOptional : Bool) → Property → Except GenerationError FieldType
  | mayBeOptional, ⟨kind, reference, _, format, required, items, additional, properties⟩ =>
    let wrap (t : FieldType) : FieldType := if mayBeOptional && !required then .option t else t
    match reference with
    | some target =>
      if Ident.accepts target then .ok (wrap (.named target))
      else .error (.unmappable schema property (.badReference target))
    | none =>
      match kind with
      | none => .error (.unmappable schema property .untyped)
      | some .array =>
        match items with
        | none => .error (.unmappable schema property .arrayWithoutItems)
        | some element => .list <$> ofDescriptor schema property false element
      | some .object =>
        match properties with
        | some _ =>
          let name := Naming.nestedTypeName schema property
          if Ident.accepts name then .ok (wrap (.named name))
          else .error (.unmappable schema property (.badNestedName name))
        | none =>
          match additional with
          | none => .error (.unmappable schema property .bareObject)
          | some value => .map <$> ofDescriptor schema property false value
      | some scalar => wrap <$> ofScalar schema property scalar format

/-- The type of the field that a property of a schema declares. -/
def ofProperty (schema property : String) (p : Property) : Except GenerationError FieldType :=
  ofDescriptor schema property true p

end ApiTypes.FieldType
