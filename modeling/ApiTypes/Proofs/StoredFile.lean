import ApiTypes.Proofs.Outcome
import ApiTypes.Proofs.StepFrame

/-!
What a path holds once it has been given new content. Writing and moving files leaves every
directory where it is, so that a path leads where it led before, and a reader finds there the
content that was written last.
-/
namespace ApiTypes

namespace Disk
variable {d before after : Disk} {place : Place} {path source segment : String}
  {content : ByteArray} {spot : Spot}

/-- Where a path leads depends on the file system by the walk along its names alone. -/
theorem locate_of_walk (path : String) :
    (∃ r, ∀ d : Disk, d.locate path = r) ∨ ∃ names finish, ∀ d : Disk, d.locate path =
      List.foldlM d.walk (if Path.isAbsolute path then [] else d.current) names >>= finish := by
  unfold locate
  by_cases hempty : path.isEmpty
  · exact Or.inl ⟨.error .missing, fun d => by rw [if_pos hempty]; rfl⟩
  by_cases hpath : path.toList.contains '\x00' || pathLimit ≤ path.utf8ByteSize
  · exact Or.inl ⟨.error .blocked, fun d => by rw [if_neg hempty, if_pos hpath]; rfl⟩
  cases hlast : ((Text.split '/' path).filter (· != "")).getLast? <;>
    simp only [hempty, hpath, hlast]
  · exact Or.inl ⟨.ok (.directory []), fun d => rfl⟩
  · exact Or.inr ⟨_, _, fun d => rfl⟩

/-- Every directory of the one file system is a directory of the other. -/
structure KeepsDirectories (before after : Disk) : Prop where
  current_eq : after.current = before.current
  directory : ∀ place, before.at? place = some .directory → after.at? place = some .directory

theorem KeepsDirectories.refl (d : Disk) : KeepsDirectories d d :=
  ⟨rfl, fun _ => id⟩

namespace KeepsDirectories
variable (h : KeepsDirectories before after)
include h

theorem walk_ok {next : Place} (hwalk : before.walk place segment = .ok next) :
    after.walk place segment = .ok next := by
  unfold walk at hwalk ⊢
  split at hwalk
  · next hidle => rwa [if_pos hidle]
  · next hidle =>
    rw [if_neg hidle]
    split at hwalk
    · next hup => rwa [if_pos hup]
    · next hup =>
      rw [if_neg hup]
      split at hwalk
      · cases hwalk
      · next hlong =>
        rw [if_neg hlong]
        split at hwalk
        · next hplace => rwa [h.directory _ hplace]
        · cases hwalk
        · cases hwalk

theorem foldlM_walk_ok {names : List String} {last : Place}
    (hwalk : names.foldlM before.walk place = .ok last) :
    names.foldlM after.walk place = .ok last := by
  induction names generalizing place with
  | nil => exact hwalk
  | cons name names ih =>
    rw [List.foldlM_cons] at hwalk ⊢
    obtain ⟨next, hnext, hwalk⟩ := Outcome.bind_ok_iff.1 hwalk
    exact Outcome.bind_ok_iff.2 ⟨next, h.walk_ok hnext, ih hwalk⟩

/-- A path leads where it led before. -/
theorem locate_ok (hlocate : before.locate path = .ok spot) : after.locate path = .ok spot := by
  rcases locate_of_walk path with ⟨r, hr⟩ | ⟨names, finish, hwalk⟩
  · rw [hr] at hlocate ⊢
    exact hlocate
  · rw [hwalk] at hlocate ⊢
    rw [h.current_eq]
    obtain ⟨last, hlast, hfinish⟩ := Outcome.bind_ok_iff.1 hlocate
    exact Outcome.bind_ok_iff.2 ⟨last, h.foldlM_walk_ok hlast, hfinish⟩

theorem filePlace?_eq_some (hplace : before.filePlace? path = some place)
    (hfile : after.at? place ≠ some .directory) : after.filePlace? path = some place := by
  obtain ⟨parent, name, hlocate, rfl, _⟩ := exists_locate_of_filePlace? hplace
  rw [filePlace?, h.locate_ok hlocate]
  exact if_neg hfile

end KeepsDirectories

theorem ne_filePlace?_of_directory {p : Place} (hp : d.at? p = some .directory)
    (h : d.filePlace? path = some place) : p ≠ place := by
  rintro rfl
  exact at?_ne_directory h hp

theorem keepsDirectories_erase (h : d.filePlace? path = some place) :
    KeepsDirectories d (d.erase place) where
  current_eq := rfl
  directory p hp := by
    rw [at?_erase (filePlace?_ne_nil h), if_neg (ne_filePlace?_of_directory hp h), hp]

section store
variable (hkeeps : KeepsDirectories before d) (hplace : before.filePlace? path = some place)
include hkeeps hplace

theorem KeepsDirectories.store (e : Entry) : KeepsDirectories before (d.store place e) where
  current_eq := hkeeps.current_eq
  directory p hp := by
    have hne : p ≠ place := ne_filePlace?_of_directory hp hplace
    rw [at?_store (filePlace?_ne_nil hplace), if_neg hne, hkeeps.directory p hp]

/-- What is stored at the place of a path is read at the path. -/
theorem read?_store (content : ByteArray) :
    (d.store place (.file content)).read? path = some content := by
  have hstored : (d.store place (.file content)).at? place = some (.file content) := by
    rw [at?_store (filePlace?_ne_nil hplace), if_pos rfl]
  have hpath : (d.store place (.file content)).filePlace? path = some place :=
    (hkeeps.store hplace _).filePlace?_eq_some hplace (by simp [hstored])
  simp [read?, hpath, hstored]

end store

theorem read?_write? (h : d.write? path content = some after) :
    after.read? path = some content := by
  obtain ⟨place, hplace, h⟩ := Option.bind_eq_some_iff.1 h
  cases h
  exact read?_store (.refl d) hplace content

theorem read?_rename? {target : String} (h : d.rename? source target = some after) :
    after.read? target = d.read? source := by
  obtain ⟨content, hcontent, h⟩ := Option.bind_eq_some_iff.1 h
  obtain ⟨_, htarget, h⟩ := Option.bind_eq_some_iff.1 h
  obtain ⟨_, hsource, h⟩ := Option.bind_eq_some_iff.1 h
  cases h
  rw [hcontent]
  exact read?_store (keepsDirectories_erase hsource) htarget content

end Disk

namespace WriteStep
variable {d after : Disk}

theorem run_outcome_iff {made : Option Disk} :
    run.outcome d made = (after, true) ↔ made = some after := by
  cases made <;> simp [run.outcome]

theorem runAll_cons_iff {s : WriteStep} {rest : List WriteStep} :
    runAll d (s :: rest) = (after, none) ↔
      ∃ between, s.run d = (between, true) ∧ runAll between rest = (after, none) := by
  rw [runAll]
  split
  · next between hrun => simp [hrun]
  · next between hrun => simp [hrun]

theorem runAll_append (d : Disk) (steps rest : List WriteStep) :
    runAll d (steps ++ rest) =
      match runAll d steps with
      | (between, none) => runAll between rest
      | failed => failed := by
  induction steps generalizing d with
  | nil => rfl
  | cons s steps ih =>
    simp only [List.cons_append, runAll]
    split
    · next between _ => exact ih between
    · rfl

theorem runAll_append_iff {steps rest : List WriteStep} :
    runAll d (steps ++ rest) = (after, none) ↔
      ∃ between, runAll d steps = (between, none) ∧ runAll between rest = (after, none) := by
  rw [runAll_append]
  split
  · next between hsteps => simp [hsteps]
  · next failed hfailed =>
    constructor
    · intro hnone
      exact absurd hnone (hfailed after)
    · rintro ⟨between, hsteps, _⟩
      exact absurd hsteps (hfailed between)

end WriteStep

namespace AtomicWrite
open WriteStep
variable {d after : Disk} {path : String} {content : ByteArray}

theorem run_ok_iff : run d path content = (after, .ok ()) ↔
    runAll d (steps path content) = (after, none) := by
  unfold run
  split <;> simp_all [Outcome.fail]

/-- A path that has been given new content holds it. -/
theorem read?_of_run (h : run d path content = (after, .ok ())) :
    after.read? path = some content := by
  -- the steps before the last two only make room; what they leave behind does not matter
  obtain ⟨_, _, h⟩ := runAll_append_iff.1 (run_ok_iff.1 h)
  obtain ⟨_, _, h⟩ := runAll_cons_iff.1 h
  obtain ⟨filled, hfill, h⟩ := runAll_cons_iff.1 h
  obtain ⟨moved, hmove, h⟩ := runAll_cons_iff.1 h
  cases h
  rw [Disk.read?_rename? (run_outcome_iff.1 hmove), Disk.read?_write? (run_outcome_iff.1 hfill)]

end AtomicWrite

end ApiTypes
