import ApiTypes.Context
import ApiTypes.Proofs.Enumeration

/-!
Where the methods of a document are, and in which order they are registered. A place is that of a
method in its resource and a way down to the resource. The methods of a resource come in order, and
before those of its sub-resources, of which an earlier one comes with all that is below it before a
later one. The context of a document registers the methods at all places, in this order.
-/
namespace ApiTypes

namespace Resource

/-- A place of a method: in the resource itself, or in the sub-resource with this index. -/
inductive Place where
  | own (index : Nat)
  | sub (index : Nat) (place : Place)

/-- The method is at this place, in the resource or below it. -/
inductive HoldsAt : Resource → Place → Method → Prop
  | own {r : Resource} {i : Nat} {key : String} {m : Method}
      (method_eq : r.methods[i]? = some (key, m)) : r.HoldsAt (.own i) m
  | sub {r s : Resource} {i : Nat} {key : String} {place : Place} {m : Method}
      (resource_eq : r.resources[i]? = some (key, s)) (below : s.HoldsAt place m) :
      r.HoldsAt (.sub i place) m

/-- The method is anywhere in the resource or below it. -/
def Holds (r : Resource) (m : Method) : Prop :=
  ∃ place, r.HoldsAt place m

/-- The order of places. -/
inductive Place.Precedes : Place → Place → Prop
  | own {i j : Nat} (lt : i < j) : Precedes (.own i) (.own j)
  | own_sub (i j : Nat) (place : Place) : Precedes (.own i) (.sub j place)
  | sub {i j : Nat} (lt : i < j) (a b : Place) : Precedes (.sub i a) (.sub j b)
  | within (i : Nat) {a b : Place} (precedes : a.Precedes b) : Precedes (.sub i a) (.sub i b)

theorem Place.Precedes.asymm {a b : Place} (h : a.Precedes b) : ¬ b.Precedes a := by
  induction h with
  | own lt =>
    rintro ⟨lt'⟩
    exact Nat.lt_asymm lt lt'
  | own_sub => nofun
  | sub lt a b =>
    rintro (_ | _ | lt' | _)
    · exact Nat.lt_asymm lt lt'
    · exact Nat.lt_irrefl _ lt
  | within i _ ih =>
    rintro (_ | _ | lt | ⟨_, hba⟩)
    · exact Nat.lt_irrefl _ lt
    · exact ih hba

/-- The methods in the resource and below it, in the order of their places. -/
def MethodsInOrder (r : Resource) (methods : List Method) : Prop :=
  ∃ entries : List (Place × Method), methods = entries.map Prod.snd ∧
    Enumerates Place.Precedes r.HoldsAt entries

variable {r : Resource} {methods methods' : List Method} {m : Method}

theorem MethodsInOrder.mem_iff (h : r.MethodsInOrder methods) : m ∈ methods ↔ r.Holds m := by
  obtain ⟨entries, rfl, hentries⟩ := h
  exact hentries.mem_values_iff

theorem MethodsInOrder.unique (h : r.MethodsInOrder methods) (h' : r.MethodsInOrder methods') :
    methods = methods' := by
  obtain ⟨entries, rfl, hentries⟩ := h
  obtain ⟨entries', rfl, hentries'⟩ := h'
  rw [hentries.unique (fun _ _ => Place.Precedes.asymm) hentries']

mutual

/-- All methods in a resource and below it: its own, then those of each sub-resource. -/
def allMethods : Resource → List Method
  | ⟨methods, resources⟩ => methods.map Prod.snd ++ allMethodsOfAll resources

/-- All methods below the resources, one resource after another. -/
def allMethodsOfAll : List (String × Resource) → List Method
  | [] => []
  | (_, r) :: rest => r.allMethods ++ allMethodsOfAll rest

end

theorem allMethodsOfAll_eq (resources : List (String × Resource)) :
    allMethodsOfAll resources = (resources.map (·.2.allMethods)).flatten := by
  induction resources with
  | nil => rfl
  | cons entry rest ih => rw [allMethodsOfAll, ih, List.map_cons, List.flatten_cons]

mutual

/-- What holds of a resource when it holds of its sub-resources holds of every resource. -/
theorem induction {P : Resource → Prop}
    (mk : ∀ methods resources, (∀ entry ∈ resources, P entry.2) → P ⟨methods, resources⟩) :
    ∀ r, P r
  | ⟨methods, resources⟩ => mk methods resources (induction_all mk resources)

theorem induction_all {P : Resource → Prop}
    (mk : ∀ methods resources, (∀ entry ∈ resources, P entry.2) → P ⟨methods, resources⟩) :
    ∀ resources : List (String × Resource), ∀ entry ∈ resources, P entry.2
  | [] => nofun
  | (_, r) :: rest => List.forall_mem_cons.2 ⟨induction mk r, induction_all mk rest⟩

end

theorem methodsInOrder_allMethods (r : Resource) : r.MethodsInOrder r.allMethods := by
  refine induction (P := fun r => r.MethodsInOrder r.allMethods) (fun methods resources ih => ?_) r
  obtain ⟨own, hown, hownEntries⟩ :=
    Enumerates.exists_map Place.Precedes Prod.snd Place.own (fun _ _ => .own) methods
  have hlists : List.Forall₂ (fun (entry : String × Resource) items =>
      ∃ entries, items = entries.map Prod.snd ∧
        Enumerates Place.Precedes entry.2.HoldsAt entries) resources
      (resources.map (·.2.allMethods)) :=
    List.forall₂_map_right_iff.2 (List.forall₂_same.2 ih)
  obtain ⟨below, hbelow, hbelowEntries⟩ :=
    Enumerates.exists_flatten Place.Precedes (fun i _ place => .sub i place)
      (fun i _ _ _ => .within i) (fun _ _ _ _ a b lt => .sub lt a b) hlists 0
  -- Own methods and methods below are listed apart, and all places of the former come first.
  refine ⟨own ++ below, ?_, (hownEntries.append hbelowEntries ?_).congr fun place m => ?_⟩
  · rw [allMethods, allMethodsOfAll_eq, hown, hbelow, List.map_append]
  · rintro _ _ _ _ ⟨i, _, _, rfl, _⟩ ⟨j, _, place, _, rfl, _⟩
    exact .own_sub ..
  · constructor
    · rintro (⟨i, ⟨key, _⟩, hm, rfl, rfl⟩ | ⟨i, ⟨key, s⟩, place, hs, rfl, hbelow⟩)
      · exact .own hm
      · rw [Nat.zero_add]
        exact .sub hs hbelow
    · rintro (hm | ⟨hs, hbelow⟩)
      · exact Or.inl ⟨_, _, hm, rfl, rfl⟩
      · exact Or.inr ⟨_, _, _, hs, by rw [Nat.zero_add], hbelow⟩

theorem mem_allMethods_iff : m ∈ r.allMethods ↔ r.Holds m :=
  r.methodsInOrder_allMethods.mem_iff

theorem methodsInOrder_iff : r.MethodsInOrder methods ↔ methods = r.allMethods :=
  ⟨fun h => h.unique r.methodsInOrder_allMethods, fun h => h ▸ r.methodsInOrder_allMethods⟩

end Resource

/-- The resources of a document, as the sub-resources of one that has no methods of its own. -/
def Document.root (d : Document) : Resource where
  resources := d.resources

namespace Context
open Resource

theorem registerResources_eq_foldlM {resources : List (String × Resource)}
    (h : ∀ entry ∈ resources, ∀ c,
      registerResource c entry.2 = entry.2.allMethods.foldlM register c) (c : Context) :
    registerResources c resources = (allMethodsOfAll resources).foldlM register c := by
  induction resources generalizing c with
  | nil => rfl
  | cons entry rest ih =>
    obtain ⟨hentry, hrest⟩ := List.forall_mem_cons.1 h
    rw [registerResources, hentry, allMethodsOfAll, List.foldlM_append]
    exact bind_congr (ih hrest)

theorem registerResource_eq_foldlM (r : Resource) (c : Context) :
    registerResource c r = r.allMethods.foldlM register c := by
  refine induction (P := fun r => ∀ c, registerResource c r = r.allMethods.foldlM register c)
    (fun methods resources ih c => ?_) r c
  rw [registerResource, allMethods, List.foldlM_append, List.foldlM_map]
  exact bind_congr (registerResources_eq_foldlM ih)

/-- The methods of a document are registered one by one. -/
theorem ofDocument_eq_foldlM (d : Document) :
    ofDocument d = d.root.allMethods.foldlM register {} :=
  registerResource_eq_foldlM d.root {}

end Context

end ApiTypes
