import ApiTypes.Storage.AtomicWrite

/-!
What steps on a file system leave alone. A step changes the files it names, and makes directories
where nothing stood; everything else is as before, whether the steps end or one of them fails.
-/
namespace ApiTypes

namespace Disk
variable {d before between after : Disk} {place p : Place} {path source target : String}
  {paths more : List String} {content : ByteArray}

/-- The place holds what it held before, or a directory has been made there where nothing stood. -/
def GrownAt (place : Place) (before after : Disk) : Prop :=
  after.at? place = before.at? place ∨
    before.at? place = none ∧ after.at? place = some .directory

theorem GrownAt.refl (place : Place) (d : Disk) : GrownAt place d d :=
  Or.inl rfl

theorem GrownAt.trans (h : GrownAt place before between) (h' : GrownAt place between after) :
    GrownAt place before after := by
  rcases h with h | ⟨hnone, hmade⟩ <;> rcases h' with h' | ⟨hnone', hmade'⟩
  · exact Or.inl (h'.trans h)
  · exact Or.inr ⟨h.symm.trans hnone', hmade'⟩
  · exact Or.inr ⟨hnone, h'.trans hmade⟩
  · -- nothing can be missing where a directory has just been made
    rw [hmade] at hnone'
    cases hnone'

/-- A directory is made where a path leads to a name at which nothing stands. -/
theorem exists_of_makeDirectory (h : d.makeDirectory path = .ok after) :
    ∃ parent name slash, d.locate path = .ok (.child parent name slash) ∧
      d.at? (parent ++ [name]) = none ∧ after = d.store (parent ++ [name]) .directory := by
  unfold makeDirectory at h
  split at h
  · cases h
  · cases h
  · next parent name slash hlocate =>
    split at h
    · cases h
    · next hnone =>
      cases h
      exact ⟨parent, name, slash, hlocate, hnone, rfl⟩

/-- Directories have been made where nothing stood, and nothing else has changed. -/
structure Grows (before after : Disk) : Prop where
  current_eq : after.current = before.current
  grownAt : ∀ place, GrownAt place before after

theorem Grows.refl (d : Disk) : Grows d d :=
  ⟨rfl, fun place => .refl place d⟩

theorem Grows.trans (h : Grows before between) (h' : Grows between after) : Grows before after :=
  ⟨h'.current_eq.trans h.current_eq, fun place => (h.grownAt place).trans (h'.grownAt place)⟩

theorem grows_makeDirectory (h : d.makeDirectory path = .ok after) : Grows d after := by
  obtain ⟨parent, name, _, _, hnone, rfl⟩ := exists_of_makeDirectory h
  refine ⟨rfl, fun place => ?_⟩
  have hstore := at?_store (d := d) (p := place) (e := .directory)
    (List.append_ne_nil_of_right_ne_nil parent (List.cons_ne_nil name []))
  by_cases hplace : place = parent ++ [name]
  · exact Or.inr ⟨hplace ▸ hnone, by rw [hstore, if_pos hplace]⟩
  · exact Or.inl (by rw [hstore, if_neg hplace])

/-- Some of the directories have been made, one after another. -/
inductive Makes (paths : List String) : Disk → Disk → Prop
  | none (d : Disk) : Makes paths d d
  | one {d between after : Disk} {path : String} (mem : path ∈ paths)
      (made : d.makeDirectory path = .ok between) (more : Makes paths between after) :
      Makes paths d after

theorem Makes.grows (h : Makes paths before after) : Grows before after := by
  induction h with
  | none d => exact .refl d
  | one _ made _ ih => exact (grows_makeDirectory made).trans ih

theorem Makes.mono (h : Makes paths before after) (hsub : paths ⊆ more) :
    Makes more before after := by
  induction h with
  | none d => exact .none d
  | one mem made _ ih => exact .one (hsub mem) made ih

theorem Makes.trans (h : Makes paths before between) (h' : Makes paths between after) :
    Makes paths before after := by
  induction h with
  | none d => exact h'
  | one mem made _ ih => exact .one mem made (ih h')

/-- A directory and its parents are made one after another. -/
theorem makes_makeDirectories (d : Disk) (paths : List String) :
    Makes paths d (d.makeDirectories paths).1 := by
  induction paths with
  | nil => exact .none d
  | cons path parents ih =>
    have ih : Makes (path :: parents) d (d.makeDirectories parents).1 :=
      ih.mono (List.subset_cons_self path parents)
    unfold makeDirectories
    split
    · exact .none d
    · split
      · next made => exact .one List.mem_cons_self made (.none _)
      · exact .none d
      · split
        · next hparents => rwa [hparents] at ih
        · next hparents =>
          rw [hparents] at ih
          split
          · next made => exact ih.trans (.one List.mem_cons_self made (.none _))
          · exact ih

/-- A file may stand where a path leads to a name that is not the name of a directory. -/
theorem exists_locate_of_filePlace? (h : d.filePlace? path = some place) :
    ∃ parent name, d.locate path = .ok (.child parent name false) ∧ place = parent ++ [name] ∧
      d.at? place ≠ some .directory := by
  unfold filePlace? at h
  split at h
  · next parent name hlocate =>
    split at h
    · cases h
    · next hfile =>
      cases h
      exact ⟨parent, name, hlocate, rfl, hfile⟩
  · cases h

theorem filePlace?_ne_nil (h : d.filePlace? path = some place) : place ≠ [] := by
  obtain ⟨parent, name, _, rfl, _⟩ := exists_locate_of_filePlace? h
  exact List.append_ne_nil_of_right_ne_nil parent (List.cons_ne_nil name [])

theorem at?_ne_directory (h : d.filePlace? path = some place) : d.at? place ≠ some .directory := by
  obtain ⟨_, _, _, _, hfile⟩ := exists_locate_of_filePlace? h
  exact hfile

theorem at?_erase (h : place ≠ []) :
    (d.erase place).at? p = if p = place then none else d.at? p := by
  by_cases hp : p = []
  · simp [at?, hp, Ne.symm h]
  · simp [at?, hp, lookup_erase]

theorem at?_write? (h : d.write? path content = some after) (p : Place) :
    after.at? p = d.at? p ∨ d.filePlace? path = some p := by
  obtain ⟨place, hplace, h⟩ := Option.bind_eq_some_iff.1 h
  cases h
  rw [at?_store (filePlace?_ne_nil hplace)]
  split
  · next hp => exact Or.inr (hp ▸ hplace)
  · exact Or.inl rfl

theorem at?_rename? (h : d.rename? source target = some after) (p : Place) :
    after.at? p = d.at? p ∨ d.filePlace? source = some p ∨ d.filePlace? target = some p := by
  obtain ⟨content, _, h⟩ := Option.bind_eq_some_iff.1 h
  obtain ⟨_, htarget, h⟩ := Option.bind_eq_some_iff.1 h
  obtain ⟨_, hsource, h⟩ := Option.bind_eq_some_iff.1 h
  cases h
  rw [at?_store (filePlace?_ne_nil htarget)]
  split
  · next hp => exact Or.inr (Or.inr (hp ▸ htarget))
  · rw [at?_erase (filePlace?_ne_nil hsource)]
    split
    · next hp => exact Or.inr (Or.inl (hp ▸ hsource))
    · exact Or.inl rfl

end Disk

namespace WriteStep
open Disk

theorem makes_of_run {d after : Disk} {path : String} {done : Bool}
    (h : (makeDirectories path).run d = (after, done)) : Makes (Path.ancestors path) d after := by
  have hmakes := makes_makeDirectories d (Path.ancestors path)
  rw [run] at h
  rwa [h] at hmakes

/-- The files that a step writes or takes away. -/
def files : WriteStep → List String
  | makeDirectories _ => []
  | truncate path | fill path _ => [path]
  | rename source target => [source, target]

/-- One of the steps names a file that lies at the place when the step is taken. -/
inductive Reaches (place : Place) : Disk → List WriteStep → Prop
  | now {d : Disk} {s : WriteStep} {rest : List WriteStep} {file : String} (hfile : file ∈ s.files)
      (hplace : d.filePlace? file = some place) : Reaches place d (s :: rest)
  | later {d after : Disk} {s : WriteStep} {rest : List WriteStep} (hrun : s.run d = (after, true))
      (hrest : Reaches place after rest) : Reaches place d (s :: rest)

theorem run_frame (d : Disk) (s : WriteStep) (place : Place) :
    GrownAt place d (s.run d).1 ∨ ∃ file ∈ s.files, d.filePlace? file = some place := by
  have hwrite : ∀ path content, GrownAt place d (run.outcome d (d.write? path content)).1 ∨
      ∃ file ∈ [path], d.filePlace? file = some place := by
    intro path content
    cases hafter : d.write? path content with
    | none => exact Or.inl (.refl place d)
    | some after =>
      rcases at?_write? hafter place with h | h
      · exact Or.inl (Or.inl h)
      · exact Or.inr ⟨path, List.mem_singleton_self path, h⟩
  cases s with
  | makeDirectories path => exact Or.inl ((makes_makeDirectories d _).grows.grownAt place)
  | truncate path => exact hwrite path ByteArray.empty
  | fill path content => exact hwrite path content
  | rename source target =>
    cases hafter : d.rename? source target with
    | none =>
      left
      rw [run, hafter]
      exact .refl place d
    | some after =>
      rcases at?_rename? hafter place with h | h | h
      · left
        rw [run, hafter]
        exact Or.inl h
      · exact Or.inr ⟨source, by simp [files], h⟩
      · exact Or.inr ⟨target, by simp [files], h⟩

/-- Besides making directories, steps change nothing but the files they name. -/
theorem runAll_frame (d : Disk) (steps : List WriteStep) (place : Place) :
    GrownAt place d (runAll d steps).1 ∨ Reaches place d steps := by
  induction steps generalizing d with
  | nil => exact Or.inl (.refl place d)
  | cons s rest ih =>
    rcases run_frame d s place with hgrown | ⟨file, hfile, hplace⟩
    · unfold runAll
      split
      · next after hrun =>
        rw [hrun] at hgrown
        rcases ih after with h | h
        · exact Or.inl (hgrown.trans h)
        · exact Or.inr (.later hrun h)
      · next after hrun =>
        rw [hrun] at hgrown
        exact Or.inl hgrown
    · exact Or.inr (.now hfile hplace)

end WriteStep

end ApiTypes
