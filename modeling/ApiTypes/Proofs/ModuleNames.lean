import ApiTypes.Document.Encode
import ApiTypes.Proofs.UnitList
import ApiTypes.Run

/-!
The names of the types and traits of a module. A raw name and a plain one are the same name however
differently they are written, but clashes are looked for in names as they are written, and only
among schemas and markers. Names are compared letter by letter here.
-/
namespace ApiTypes

/-- The traits for reading and writing. -/
def codecTraits : List String := ["Deserialize", "Serialize"]

/-- The names of the types and traits that an item brings into its module. -/
def Item.typeNames : Item → List String
  | declaration _ d => [d.name.name]
  | markerTrait m => [m.name]
  | codecImport => codecTraits
  | markerImpl _ _ | accessor _ => []

/-- The names of all types and traits of a module. -/
def SourceModule.typeNames (m : SourceModule) : List String :=
  m.items.flatMap Item.typeNames

/-- The name of the unit is the same as another name of its module, written otherwise or not among
those that are looked at. -/
inductive TypeUnit.SharesName (units : List TypeUnit) (u : TypeUnit) : Prop
  /-- It is the name of a trait for reading or writing. -/
  | codec (mem : u.typeName.name ∈ codecTraits)
  /-- It is the name of a marker, marked as raw. -/
  | marker (raw : u.typeName.raw = true) (mem : u.typeName.name ∈ Marker.all.map Marker.name)
  /-- It is the name of another unit, which is not marked as raw. -/
  | unit {v : TypeUnit} (raw : u.typeName.raw = true) (mem : v ∈ units)
      (plain : v.typeName.raw = false) (name_eq : v.typeName.name = u.typeName.name)

variable {c : Context} {d : Document} {m : SourceModule} {s : SchemaNode} {u : TypeUnit}
  {units : List TypeUnit}

theorem Ident.text_of_plain {i : Ident} (h : i.raw = false) : i.text = i.name := by
  simp [Ident.text, h]

theorem Ident.text_eq_of_name_eq {i j : Ident} (hraw : i.raw = j.raw) (hname : i.name = j.name) :
    i.text = j.text := by
  simp [Ident.text, hraw, hname]

namespace TypeUnit

/-- A unit brings in the name of its type and no other. -/
theorem typeNames_items (h : ofSchema c s = .ok u) :
    u.items.flatMap Item.typeNames = [u.typeName.name] := by
  have hmarkers : (u.markers.map (Item.markerImpl · u.typeName)).flatMap Item.typeNames = [] := by
    simp [List.flatMap_map, Item.typeNames]
  have haccessor : (u.accessor.map Item.accessor).toList.flatMap Item.typeNames = [] := by
    cases u.accessor <;> rfl
  rw [items, List.flatMap_append, List.flatMap_cons, hmarkers, haccessor, Item.typeNames,
    (composes_of_ofSchema h).declaration_name]
  rfl

/-- The names of units that are written differently are different unless a raw one is the same as a
plain one. -/
theorem nodup_names_iff (h : (units.map fun u => u.typeName.text).Nodup) :
    (units.map fun u => u.typeName.name).Nodup ↔
      ∀ u ∈ units, ∀ v ∈ units, u.typeName.raw = true → v.typeName.raw = false →
        v.typeName.name ≠ u.typeName.name := by
  constructor
  · intro hnodup u hu v hv hraw hplain hname
    obtain rfl := List.inj_on_of_nodup_map hnodup hv hu hname
    rw [hraw] at hplain
    cases hplain
  · intro hne
    refine (h.of_map _).map_on fun u hu v hv hname => ?_
    have hraw : u.typeName.raw = v.typeName.raw := by
      cases hu' : u.typeName.raw <;> cases hv' : v.typeName.raw
      · rfl
      · exact absurd hname (hne v hv u hu hv' hu')
      · exact absurd hname.symm (hne u hu v hv hu' hv')
      · rfl
    exact List.inj_on_of_nodup_map h hu hv (Ident.text_eq_of_name_eq hraw hname)

end TypeUnit

namespace SourceModule

theorem typeNames_flatMap_items {schemas : List SchemaNode}
    (h : List.Forall₂ (fun s u => TypeUnit.ofSchema c s = .ok u) schemas units) :
    (units.flatMap TypeUnit.items).flatMap Item.typeNames =
      units.map fun u => u.typeName.name := by
  induction h with
  | nil => rfl
  | cons hu _ ih =>
    rw [List.flatMap_cons, List.flatMap_append, TypeUnit.typeNames_items hu, ih]
    rfl

/-- The names of a module are different exactly when no unit shares its name. -/
theorem nodup_typeNames_iff (h : ofDocument c d = .ok m) :
    m.typeNames.Nodup ↔ ∀ u ∈ m.units, ¬ u.SharesName m.units := by
  obtain ⟨units, hunits, hm⟩ := Outcome.bind_ok_iff.1 h
  cases hm
  obtain ⟨nested, _, hclash, hall⟩ := unitsOf_ok_iff.1 hunits
  obtain ⟨hnodup, hmarker⟩ := nameClash?_eq_none_iff.1 hclash
  have htexts := texts_of_forall₂ hall
  rw [← htexts] at hnodup
  have hplain : ∀ u ∈ units, u.typeName.raw = false →
      u.typeName.name ∉ Marker.all.map Marker.name := by
    intro u hu hraw
    obtain ⟨s, hs, hsu⟩ := Outcome.exists_of_forall₂ hall hu
    rw [← Ident.text_of_plain hraw, TypeUnit.text_typeName hsu]
    exact (hmarker s hs).1
  have hfixed : (codecTraits ++ Marker.all.map Marker.name).Nodup := by decide
  have hnames : typeNames ⟨docOf d, units⟩ =
      codecTraits ++ Marker.all.map Marker.name ++ units.map fun u => u.typeName.name := by
    rw [typeNames, items, List.flatMap_append, typeNames_flatMap_items hall]
    rfl
  rw [hnames, List.nodup_append, TypeUnit.nodup_names_iff hnodup]
  constructor
  · rintro ⟨_, hunit, hapart⟩ u hu hshares
    have hfresh : u.typeName.name ∉ codecTraits ++ Marker.all.map Marker.name :=
      fun hmem => hapart _ hmem _ (List.mem_map_of_mem hu) rfl
    cases hshares with
    | codec mem => exact hfresh (List.mem_append_left _ mem)
    | marker _ mem => exact hfresh (List.mem_append_right _ mem)
    | unit raw mem plain name_eq => exact hunit u hu _ mem raw plain name_eq
  · intro hshares
    refine ⟨hfixed, fun u hu v hv hraw hplain hname => hshares u hu (.unit hraw hv hplain hname),
      fun name hname name' hname' heq => ?_⟩
    obtain ⟨u, hu, rfl⟩ := List.mem_map.1 hname'
    rw [heq] at hname
    rcases List.mem_append.1 hname with hcodec | hmem
    · exact hshares u hu (.codec hcodec)
    · cases hraw : u.typeName.raw with
      | false => exact hplain u hu hraw hmem
      | true => exact hshares u hu (.marker hraw hmem)

/-- A document with two schemas of one name, one written raw and one written plain. -/
def twinDocument : Document where
  name := "youtube"
  version := "v3"
  schemas := [("Video", { id := "Video", kind := some .object }),
    ("r#Video", { id := "r#Video", kind := some .object })]

/-- The module that the text of this document becomes. -/
def twinModule : Outcome SourceModule := do
  let d ← Document.load "youtube.json" (some twinDocument.encode.render)
  ofDocument (← Run.context d) d

theorem typeNames_twinModule :
    typeNames <$> twinModule =
      .ok ["Deserialize", "Serialize", "Part", "Resource", "ResponseResult", "RequestValue",
        "NestedType", "Video", "Video"] := by
  decide +kernel

theorem not_nodup_twinModule : ∃ m, twinModule = .ok m ∧ ¬ m.typeNames.Nodup := by
  obtain ⟨m, hm, hnames⟩ := Outcome.map_ok_iff.1 typeNames_twinModule
  refine ⟨m, hm, ?_⟩
  rw [hnames]
  decide

theorem sharesName_twinModule : ∃ m, twinModule = .ok m ∧ ∃ u ∈ m.units, u.SharesName m.units := by
  obtain ⟨m, hm, hnames⟩ := Outcome.map_ok_iff.1 typeNames_twinModule
  obtain ⟨d, _, h⟩ := Outcome.bind_ok_iff.1 hm
  obtain ⟨c, _, hmodule⟩ := Outcome.bind_ok_iff.1 h
  refine ⟨m, hm, ?_⟩
  by_contra hno
  push Not at hno
  have hnodup := (nodup_typeNames_iff hmodule).2 hno
  rw [hnames] at hnodup
  revert hnodup
  decide

end SourceModule

end ApiTypes
