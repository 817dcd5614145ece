import ApiTypes.Proofs.MethodOrder
import ApiTypes.Proofs.Outcome
import Mathlib.Data.List.Nodup

/-!
The cross-reference of a document. While methods are registered one by one, the uses of each schema
are the registered methods that use it, in order; registering fails at the first method whose name
is bad or taken.
-/
namespace ApiTypes

/-- The type that the resource in the name of the method stands for. -/
def Method.resourceType? (m : Method) : Option String :=
  (ActivityName.ofText? m.id).map fun a => ActivityName.resourceTypeName a.resource

/-- The method takes or returns the schema, or works on the type of that name. -/
def Method.Uses (m : Method) (schema : String) : Prop :=
  m.request = some ⟨schema⟩ ∨ m.response = some ⟨schema⟩ ∨ m.resourceType? = some schema

instance (m : Method) (schema : String) : Decidable (m.Uses schema) :=
  inferInstanceAs (Decidable (_ ∨ _ ∨ _))

/-- The roles that the schema plays in the method. -/
def Method.rolesOf (m : Method) (schema : String) : RoleSet where
  request := m.request = some ⟨schema⟩
  response := m.response = some ⟨schema⟩

theorem Method.contains_rolesOf {m : Method} {schema : String} {r : IoRole} :
    (m.rolesOf schema).contains r = true ↔ m.roleReference r = some ⟨schema⟩ := by
  cases r <;> simp [rolesOf, RoleSet.contains, roleReference]

/-- The uses of a schema by the given methods. -/
def usesOf (methods : List Method) (schema : String) : Table RoleSet :=
  (methods.filter (·.Uses schema)).map fun m => (m.id, m.rolesOf schema)

theorem keys_usesOf (methods : List Method) (schema : String) :
    (usesOf methods schema).keys = (methods.filter (·.Uses schema)).map Method.id := by
  simp [usesOf, Table.keys]

theorem keys_usesOf_sublist (methods : List Method) (schema : String) :
    (usesOf methods schema).keys.Sublist (methods.map Method.id) := by
  rw [keys_usesOf]
  exact List.filter_sublist.map Method.id

/-- All names are well formed, and no two are equal. -/
def Registrable (methods : List Method) : Prop :=
  (∀ m ∈ methods, ActivityName.ofText? m.id ≠ none) ∧ (methods.map Method.id).Nodup

namespace UsageTable
variable {t : UsageTable} {uses : Table RoleSet} {schema id : String} {m : Method}

/-- What stands under a schema when `uses` did before, and the activity `id` has left `roles`. -/
def cell (uses : Table RoleSet) (id : String) : Option RoleSet → Option (Table RoleSet)
  | none => if uses = [] then none else some uses
  | some roles => some (uses ++ [(id, roles)])

/-- The roles after one more note. -/
def addRole (role : Option IoRole) (roles : Option RoleSet) : RoleSet :=
  match role with
  | some r => (roles.getD {}).insert r
  | none => roles.getD {}

theorem get?_note {roles : Option RoleSet} (target : String) (role : Option IoRole)
    (hid : id ∉ uses.keys)
    (h : t.get? schema = cell uses id roles) :
    (note t target id role).get? schema =
      cell uses id (if target = schema then some (addRole role roles) else roles) := by
  rw [note, Table.get?_adjust]
  by_cases heq : target = schema
  · subst heq
    rw [if_pos rfl, if_pos rfl, h]
    cases roles with
    | none =>
      have hprior : (cell uses id none).getD [] = uses := by
        by_cases hu : uses = [] <;> simp [cell, hu]
      rw [hprior, Table.adjust_of_not_mem _ hid]
      rfl
    | some prior =>
      simp only [cell, Option.getD_some, Table.adjust_append_last _ _ hid]
      rfl
  · rw [if_neg (Ne.symm heq), if_neg heq, h]

theorem get?_noteRole {roles : Option RoleSet} (role : IoRole) (hid : m.id ∉ uses.keys)
    (h : t.get? schema = cell uses m.id roles) :
    (noteRole t m role).get? schema =
      cell uses m.id
        (if m.roleReference role = some ⟨schema⟩ then some ((roles.getD {}).insert role)
          else roles) := by
  unfold noteRole
  cases href : m.roleReference role with
  | none => simpa using h
  | some r =>
    obtain ⟨target⟩ := r
    rw [get?_note target (some role) hid h]
    by_cases heq : target = schema <;> simp [heq, addRole]

/-- Registering a new method puts it after the uses of each schema that it uses. -/
theorem get?_noteMethod (resource : String) (hid : m.id ∉ uses.keys)
    (h : t.get? schema = cell uses m.id none) :
    (noteMethod t m resource).get? schema =
      cell uses m.id
        (if m.request = some ⟨schema⟩ ∨ m.response = some ⟨schema⟩ ∨
            ActivityName.resourceTypeName resource = schema
          then some (m.rolesOf schema) else none) := by
  have hrequest := get?_noteRole .request hid h
  have hresponse := get?_noteRole .response hid hrequest
  have hresource := get?_note (ActivityName.resourceTypeName resource) none hid hresponse
  rw [show noteMethod t m resource = note (noteRole (noteRole t m .request) m .response)
    (ActivityName.resourceTypeName resource) m.id none from rfl, hresource]
  simp only [Method.roleReference, Method.rolesOf, addRole]
  by_cases h1 : m.request = some ⟨schema⟩ <;> by_cases h2 : m.response = some ⟨schema⟩ <;>
    by_cases h3 : ActivityName.resourceTypeName resource = schema <;>
    simp [RoleSet.insert, h1, h2, h3]

end UsageTable

/-- Why a method cannot be registered after earlier ones. -/
def Method.offence? (earlier : List Method) (m : Method) : Option GenerationError :=
  if ActivityName.ofText? m.id = none then some (.badActivityName m.id)
  else if m.id ∈ earlier.map Method.id then some (.code (.duplicateActivity m.id))
  else none

theorem Method.offence?_eq_none_iff {m : Method} {earlier : List Method} :
    m.offence? earlier = none ↔
      ActivityName.ofText? m.id ≠ none ∧ m.id ∉ earlier.map Method.id := by
  unfold offence?
  split <;> simp_all

theorem registrable_nil : Registrable [] := by
  simp [Registrable]

theorem Registrable.of_append {methods more : List Method} (h : Registrable (methods ++ more)) :
    Registrable methods := by
  refine ⟨fun m hm => h.1 m (List.mem_append_left _ hm), ?_⟩
  have hnodup := h.2
  rw [List.map_append] at hnodup
  exact (List.nodup_append.1 hnodup).1

theorem registrable_concat {m : Method} {methods : List Method} :
    Registrable (methods ++ [m]) ↔ Registrable methods ∧ m.offence? methods = none := by
  simp only [Registrable, Method.offence?_eq_none_iff, List.map_append, List.map_cons, List.map_nil,
    List.mem_append, List.mem_singleton, List.nodup_append]
  constructor
  · rintro ⟨hnames, hnodup, _, hfresh⟩
    refine ⟨⟨fun k hk => hnames k (Or.inl hk), hnodup⟩, hnames m (Or.inr rfl), fun hm => ?_⟩
    exact hfresh m.id hm m.id rfl rfl
  · rintro ⟨⟨hnames, hnodup⟩, hname, hfresh⟩
    refine ⟨?_, hnodup, by simp, ?_⟩
    · rintro k (hk | rfl)
      · exact hnames k hk
      · exact hname
    · rintro id hid _ rfl rfl
      exact hfresh hid

/-- Methods that are not registrable have a first one that is at fault. -/
theorem exists_first_offence (methods : List Method) {done : List Method} (hdone : Registrable done)
    (h : ¬ Registrable (done ++ methods)) :
    ∃ before m after e, methods = before ++ m :: after ∧ Registrable (done ++ before) ∧
      m.offence? (done ++ before) = some e := by
  induction methods generalizing done with
  | nil => exact absurd (by simpa using hdone) h
  | cons m rest ih =>
    cases ho : m.offence? done with
    | some e => exact ⟨[], m, rest, e, rfl, by simpa using hdone, by simpa using ho⟩
    | none =>
      obtain ⟨before, k, after, e, hsplit, hbefore, hk⟩ :=
        ih (registrable_concat.2 ⟨hdone, ho⟩) (by simpa using h)
      exact ⟨m :: before, k, after, e, by simp [hsplit], by simpa using hbefore, by simpa using hk⟩

theorem usesOf_concat (methods : List Method) (m : Method) (schema : String) :
    usesOf (methods ++ [m]) schema =
      usesOf methods schema ++ if m.Uses schema then [(m.id, m.rolesOf schema)] else [] := by
  by_cases h : m.Uses schema <;> simp [usesOf, h]

namespace Context
variable {c : Context} {methods done : List Method} {m : Method}

/-- The context has registered exactly these methods, in this order. -/
structure Registered (c : Context) (methods : List Method) : Prop where
  registrable : Registrable methods
  methods_eq : c.methods = methods.map fun m => (m.id, m)
  activitiesOf_eq : ∀ schema, c.activitiesOf schema =
    if usesOf methods schema = [] then none else some (usesOf methods schema)
  nodup_keys : c.activities.keys.Nodup

theorem registered_empty : Registered {} [] where
  registrable := registrable_nil
  methods_eq := rfl
  activitiesOf_eq _ := rfl
  nodup_keys := List.nodup_nil

theorem Registered.keys_methods (h : c.Registered methods) :
    c.methods.keys = methods.map Method.id := by
  simp [h.methods_eq, Table.keys]

theorem nodup_keys_noteMethod {t : UsageTable} (h : t.keys.Nodup) (resource : String) :
    (t.noteMethod m resource).keys.Nodup := by
  have hnote : ∀ {t : UsageTable} (target : String) (role : Option IoRole), t.keys.Nodup →
      (t.note target m.id role).keys.Nodup := fun _ _ ht => Table.nodup_keys_adjust _ ht
  have hrole : ∀ {t : UsageTable} (role : IoRole), t.keys.Nodup →
      (t.noteRole m role).keys.Nodup := by
    intro t role ht
    unfold UsageTable.noteRole
    split
    · exact hnote _ _ ht
    · exact ht
  exact hnote _ _ (hrole .response (hrole .request h))

theorem Registered.register_of_offence (h : c.Registered methods) {e : GenerationError}
    (ho : m.offence? methods = some e) : c.register m = .error e := by
  unfold Method.offence? at ho
  unfold register
  cases hname : ActivityName.ofText? m.id with
  | none => simpa [hname] using ho
  | some a =>
    simp only [hname, reduceCtorEq, if_false, h.keys_methods] at ho ⊢
    split at ho
    next hmem => simpa [hmem] using ho
    · cases ho

/-- Registering a method that is not at fault keeps the record exact. -/
theorem Registered.register (h : c.Registered methods) (ho : m.offence? methods = none) :
    ∃ c', c.register m = .ok c' ∧ c'.Registered (methods ++ [m]) := by
  obtain ⟨hname, hfresh⟩ := Method.offence?_eq_none_iff.1 ho
  obtain ⟨a, ha⟩ := Option.ne_none_iff_exists'.1 hname
  have hregister : c.register m = .ok { c with
      activities := c.activities.noteMethod m a.resource
      methods := c.methods ++ [(m.id, m)] } := by
    simp [Context.register, ha, h.keys_methods, hfresh]
  refine ⟨_, hregister, ?_⟩
  constructor
  · exact registrable_concat.2 ⟨h.registrable, ho⟩
  · simp [h.methods_eq]
  · intro schema
    have hid : m.id ∉ (usesOf methods schema).keys := fun hm =>
      hfresh ((keys_usesOf_sublist methods schema).subset hm)
    have hcell := UsageTable.get?_noteMethod a.resource hid (h.activitiesOf_eq schema)
    have huses : (m.request = some ⟨schema⟩ ∨ m.response = some ⟨schema⟩ ∨
        ActivityName.resourceTypeName a.resource = schema) ↔ m.Uses schema := by
      simp [Method.Uses, Method.resourceType?, ha]
    rw [activitiesOf, usesOf_concat, hcell]
    by_cases hm : m.Uses schema
    · simp [huses.2 hm, hm, UsageTable.cell]
    · simp [mt huses.1 hm, hm, UsageTable.cell]
  · exact nodup_keys_noteMethod h.nodup_keys _

/-- Registering methods that are registrable after the earlier ones keeps the record exact. -/
theorem Registered.foldlM (methods : List Method) (h : c.Registered done)
    (hr : Registrable (done ++ methods)) :
    ∃ c', methods.foldlM Context.register c = .ok c' ∧ c'.Registered (done ++ methods) := by
  induction methods generalizing c done with
  | nil => exact ⟨c, rfl, by simpa using h⟩
  | cons m rest ih =>
    have hassoc : done ++ m :: rest = done ++ [m] ++ rest := by simp
    rw [hassoc] at hr ⊢
    obtain ⟨c₁, hc₁, hreg⟩ := h.register (registrable_concat.1 hr.of_append).2
    obtain ⟨c', hc', hreg'⟩ := ih hreg hr
    exact ⟨c', by simpa [List.foldlM_cons, hc₁, bind, Except.bind] using hc', hreg'⟩

theorem ofDocument_of_registrable {d : Document} (hr : Registrable d.root.allMethods) :
    ∃ c, ofDocument d = .ok c ∧ c.Registered d.root.allMethods := by
  rw [ofDocument_eq_foldlM]
  simpa using registered_empty.foldlM d.root.allMethods (by simpa using hr)

theorem ofDocument_of_offence {d : Document} {before after : List Method} {e : GenerationError}
    (hsplit : d.root.allMethods = before ++ m :: after) (hbefore : Registrable before)
    (ho : m.offence? before = some e) : ofDocument d = .error e := by
  obtain ⟨c, hc, hreg⟩ := registered_empty.foldlM before (by simpa using hbefore)
  have herror := hreg.register_of_offence (m := m) (by simpa using ho)
  rw [ofDocument_eq_foldlM, hsplit, List.foldlM_append, hc]
  simp [List.foldlM_cons, herror, bind, Except.bind]

/-- Either all methods are registered, or the first one at fault decides the error. -/
theorem ofDocument_cases (d : Document) :
    (Registrable d.root.allMethods ∧ ∃ c, ofDocument d = .ok c ∧ c.Registered d.root.allMethods) ∨
      ∃ before m after e, d.root.allMethods = before ++ m :: after ∧ Registrable before ∧
        m.offence? before = some e ∧ ofDocument d = .error e := by
  by_cases hr : Registrable d.root.allMethods
  · exact Or.inl ⟨hr, ofDocument_of_registrable hr⟩
  · obtain ⟨before, m, after, e, hsplit, hbefore, ho⟩ :=
      exists_first_offence d.root.allMethods registrable_nil (by simpa using hr)
    simp only [List.nil_append] at hbefore ho
    exact Or.inr ⟨before, m, after, e, hsplit, hbefore, ho,
      ofDocument_of_offence hsplit hbefore ho⟩

theorem registered_of_ofDocument {d : Document} (h : ofDocument d = .ok c) :
    c.Registered d.root.allMethods := by
  rcases ofDocument_cases d with ⟨_, c', hc', hreg⟩ | ⟨_, _, _, _, _, _, _, he⟩
  · rw [hc'] at h
    cases h
    exact hreg
  · rw [he] at h
    cases h

/-- Which methods use which schema, and in which roles. -/
structure References (c : Context) (methods : List Method) : Prop where
  methods_eq : c.methods = methods.map fun m => (m.id, m)
  /-- An activity stands under the schemas that its method uses. -/
  mem_keys_iff : ∀ schema id, id ∈ ((c.activitiesOf schema).getD []).keys ↔
    ∃ m ∈ methods, m.id = id ∧ m.Uses schema
  /-- It stands there in the roles that its method names the schema in. -/
  contains_iff : ∀ schema, ∀ m ∈ methods, ∀ r,
    (∃ uses roles, c.activitiesOf schema = some uses ∧ Table.get? uses m.id = some roles ∧
      roles.contains r = true) ↔ m.roleReference r = some ⟨schema⟩
  nodup_keys : c.activities.keys.Nodup
  ne_nil : ∀ entry ∈ c.activities, entry.2 ≠ []
  /-- Below each schema the activities come in the order of their methods. -/
  keys_sublist : ∀ entry ∈ c.activities, entry.2.keys.Sublist (methods.map Method.id)

theorem Registered.getD_activitiesOf (h : c.Registered methods) (schema : String) :
    (c.activitiesOf schema).getD [] = usesOf methods schema := by
  rw [h.activitiesOf_eq]
  split
  next hu => rw [hu, Option.getD_none]
  · rfl

theorem Registered.entry_eq (h : c.Registered methods) {entry : String × Table RoleSet}
    (he : entry ∈ c.activities) :
    entry.2 ≠ [] ∧ entry.2 = usesOf methods entry.1 := by
  have hget : c.activitiesOf entry.1 = some entry.2 := Table.lookup_of_mem h.nodup_keys he
  rw [h.activitiesOf_eq] at hget
  split at hget
  · cases hget
  next hne =>
    have heq := Option.some.inj hget
    exact ⟨heq ▸ hne, heq.symm⟩

/-- Of a method that is in the record, the roles under a schema are those it names the schema in. -/
theorem get?_usesOf (hr : Registrable methods) (hm : m ∈ methods) (schema : String) :
    Table.get? (usesOf methods schema) m.id =
      if m.Uses schema then some (m.rolesOf schema) else none := by
  split
  next huses =>
    have hnodup := hr.2.sublist (keys_usesOf_sublist methods schema)
    apply Table.lookup_of_mem hnodup
    exact List.mem_map.2 ⟨m, by simpa [hm] using huses, rfl⟩
  next huses =>
    apply List.lookup_eq_none_iff.2
    intro p hp
    obtain ⟨k, hk, rfl⟩ := List.mem_map.1 hp
    simp only [List.mem_filter, decide_eq_true_eq] at hk
    apply bne_iff_ne.2
    intro hid
    have heq := List.inj_on_of_nodup_map hr.2 hm hk.1 hid
    exact huses (heq ▸ hk.2)

theorem Registered.references (h : c.Registered methods) : c.References methods where
  methods_eq := h.methods_eq
  mem_keys_iff schema id := by
    rw [h.getD_activitiesOf, keys_usesOf]
    simp only [List.mem_map, List.mem_filter, decide_eq_true_eq]
    constructor
    · rintro ⟨m, ⟨hm, huses⟩, hid⟩
      exact ⟨m, hm, hid, huses⟩
    · rintro ⟨m, hm, hid, huses⟩
      exact ⟨m, ⟨hm, huses⟩, hid⟩
  contains_iff schema m hm r := by
    have hget := get?_usesOf h.registrable hm schema
    rw [h.activitiesOf_eq, ← Method.contains_rolesOf]
    constructor
    · rintro ⟨uses, roles, huses, hroles, hcontains⟩
      split at huses
      · cases huses
      cases huses
      rw [hget] at hroles
      split at hroles
      · cases hroles
        exact hcontains
      · cases hroles
    · intro hcontains
      have huses : m.Uses schema := by
        rw [Method.contains_rolesOf] at hcontains
        cases r with
        | request => exact Or.inl hcontains
        | response => exact Or.inr (Or.inl hcontains)
      rw [if_pos huses] at hget
      have hne : usesOf methods schema ≠ [] := by
        intro hu
        simp [hu] at hget
      exact ⟨_, _, if_neg hne, hget, hcontains⟩
  nodup_keys := h.nodup_keys
  ne_nil entry he := (h.entry_eq he).1
  keys_sublist entry he := by
    rw [(h.entry_eq he).2]
    exact keys_usesOf_sublist methods entry.1

/-- A document has a context iff all activity names in its resource tree are well formed and
distinct; else the first method at fault decides the error. A context refers to exactly what the
methods use. -/
theorem ofDocument_references (d : Document) :
    ∃ methods, d.root.MethodsInOrder methods ∧
      ((∃ c, ofDocument d = .ok c) ↔
        (∀ m, d.root.Holds m → ActivityName.ofText? m.id ≠ none) ∧
          (methods.map Method.id).Nodup) ∧
      (∀ e, ofDocument d = .error e ↔
        ∃ before m after, methods = before ++ m :: after ∧ Registrable before ∧
          m.offence? before = some e) ∧
      ∀ c, ofDocument d = .ok c → c.References methods := by
  refine ⟨_, d.root.methodsInOrder_allMethods, ?_, fun e => ⟨fun he => ?_, ?_⟩, fun c hc => ?_⟩
  · simp only [← Resource.mem_allMethods_iff]
    constructor
    · rintro ⟨c, hc⟩
      exact (registered_of_ofDocument hc).registrable
    · intro hr
      obtain ⟨c, hc, _⟩ := ofDocument_of_registrable hr
      exact ⟨c, hc⟩
  · rcases ofDocument_cases d with ⟨_, c, hc, _⟩ | ⟨before, m, after, e', hsplit, hr, ho, he'⟩
    · rw [hc] at he
      cases he
    · rw [he'] at he
      cases he
      exact ⟨before, m, after, hsplit, hr, ho⟩
  · rintro ⟨before, m, after, hsplit, hbefore, ho⟩
    exact ofDocument_of_offence hsplit hbefore ho
  · exact (registered_of_ofDocument hc).references

/-- A document with a resource below another one, and a resource behind both whose method has the
given name. -/
def threadDocument (last : String) : Document where
  name := "youtube"
  version := "v3"
  resources := [("comments",
      { methods := [("list", { id := "youtube.comments.list", response := some ⟨"CommentList"⟩ })]
        resources := [("threads",
          { methods := [("insert",
              { id := "youtube.comments.threads.insert", request := some ⟨"Comment"⟩ })] })] }),
    ("videos", { methods := [("rate", { id := last })] })]

theorem ofDocument_references_threads :
    (∃ c, ofDocument (threadDocument "youtube.videos.rate") = .ok c ∧
      c.methods.keys =
        ["youtube.comments.list", "youtube.comments.threads.insert", "youtube.videos.rate"] ∧
      ∀ id, id ∈ ((c.activitiesOf "Comment").getD []).keys ↔
        id ∈ ["youtube.comments.list", "youtube.comments.threads.insert"]) ∧
      ofDocument (threadDocument "youtube.comments.threads.insert") =
        .error (.code (.duplicateActivity "youtube.comments.threads.insert")) ∧
      ofDocument (threadDocument "videos.rate") = .error (.badActivityName "videos.rate") := by
  refine ⟨?_, ?_, ?_⟩
  · obtain ⟨methods, horder, hok, _, hreferences⟩ :=
      ofDocument_references (threadDocument "youtube.videos.rate")
    obtain rfl := Resource.methodsInOrder_iff.1 horder
    simp only [← Resource.mem_allMethods_iff] at hok
    obtain ⟨c, hc⟩ := hok.2 ⟨by decide +kernel, by decide +kernel⟩
    have h := hreferences c hc
    refine ⟨c, hc, ?_, fun id => ?_⟩
    · rw [h.methods_eq]
      decide +kernel
    · rw [h.mem_keys_iff]
      have huses : (((threadDocument "youtube.videos.rate").root.allMethods.filter
          (·.Uses "Comment")).map Method.id) =
          ["youtube.comments.list", "youtube.comments.threads.insert"] := by decide +kernel
      rw [← huses]
      simp [and_assoc, and_comm]
  -- The method at fault is the last one, so that all methods of the first resource come before it.
  · obtain ⟨methods, horder, _, herror, _⟩ :=
      ofDocument_references (threadDocument "youtube.comments.threads.insert")
    obtain rfl := Resource.methodsInOrder_iff.1 horder
    exact (herror _).2 ⟨_, _, [], rfl, ⟨by decide +kernel, by decide +kernel⟩, by decide +kernel⟩
  · obtain ⟨methods, horder, _, herror, _⟩ := ofDocument_references (threadDocument "videos.rate")
    obtain rfl := Resource.methodsInOrder_iff.1 horder
    exact (herror _).2 ⟨_, _, [], rfl, ⟨by decide +kernel, by decide +kernel⟩, by decide +kernel⟩

end Context

end ApiTypes
