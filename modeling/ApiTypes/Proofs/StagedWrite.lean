import ApiTypes.Proofs.BrokenRun
import ApiTypes.Proofs.StagingPlace

/-!
Where an atomic write stands between two of its steps. First the parents of the path are made, then
the hidden file is begun and filled, and at last it is moved over the path. A step that breaks off
leaves either nothing but new directories behind, or the hidden file with a part of the content.
-/
namespace ApiTypes

namespace Disk
variable {d before after : Disk} {place p : Place} {path : String} {spot : Spot}

/-- The two file systems have the same directories, so that paths lead to the same places. -/
structure SameDirectories (before after : Disk) : Prop where
  current_eq : after.current = before.current
  directory_iff : ∀ place, after.at? place = some .directory ↔ before.at? place = some .directory

namespace SameDirectories

theorem symm (h : SameDirectories before after) : SameDirectories after before :=
  ⟨h.current_eq.symm, fun place => (h.directory_iff place).symm⟩

theorem trans {between : Disk} (h : SameDirectories before between)
    (h' : SameDirectories between after) : SameDirectories before after :=
  ⟨h'.current_eq.trans h.current_eq,
    fun place => (h'.directory_iff place).trans (h.directory_iff place)⟩

variable (h : SameDirectories before after)
include h

theorem keepsDirectories : KeepsDirectories before after :=
  ⟨h.current_eq, fun place => (h.directory_iff place).2⟩

theorem locate_ok_iff : after.locate path = .ok spot ↔ before.locate path = .ok spot :=
  ⟨h.symm.keepsDirectories.locate_ok, h.keepsDirectories.locate_ok⟩

theorem filePlace?_eq_some_iff :
    after.filePlace? path = some place ↔ before.filePlace? path = some place := by
  constructor
  · intro hplace
    exact h.symm.keepsDirectories.filePlace?_eq_some hplace
      fun hdirectory => at?_ne_directory hplace ((h.directory_iff place).2 hdirectory)
  · intro hplace
    exact h.keepsDirectories.filePlace?_eq_some hplace
      fun hdirectory => at?_ne_directory hplace ((h.directory_iff place).1 hdirectory)

theorem filePlace?_eq (path : String) : after.filePlace? path = before.filePlace? path :=
  Option.ext fun _ => h.filePlace?_eq_some_iff

theorem isDirectory_eq (path : String) : after.isDirectory path = before.isDirectory path := by
  unfold isDirectory
  cases hbefore : before.locate path with
  | ok spot =>
    rw [h.locate_ok_iff.2 hbefore]
    cases spot with
    | directory place => rfl
    | child place name slash =>
      dsimp only
      rw [Bool.eq_iff_iff, beq_iff_eq, beq_iff_eq, h.directory_iff]
  | error e =>
    cases hafter : after.locate path with
    | ok spot =>
      rw [h.locate_ok_iff.1 hafter] at hbefore
      cases hbefore
    | error e' => rfl

end SameDirectories

/-- Directories stay the same when nothing changes but the file at one place. -/
theorem sameDirectories_of_eq (h : d.filePlace? path = some place)
    (hcurrent : after.current = d.current) (hplace : after.at? place ≠ some .directory)
    (hother : ∀ p ≠ place, after.at? p = d.at? p) : SameDirectories d after where
  current_eq := hcurrent
  directory_iff p := by
    by_cases hp : p = place
    · subst hp
      simp [hplace, at?_ne_directory h]
    · rw [hother p hp]

theorem sameDirectories_store (h : d.filePlace? path = some place) (content : ByteArray) :
    SameDirectories d (d.store place (.file content)) := by
  have hstore := fun p => at?_store (d := d) (p := p) (e := .file content) (filePlace?_ne_nil h)
  exact sameDirectories_of_eq h rfl (by simp [hstore]) fun p hp => by rw [hstore, if_neg hp]

theorem sameDirectories_erase (h : d.filePlace? path = some place) :
    SameDirectories d (d.erase place) := by
  have herase := fun p => at?_erase (d := d) (p := p) (filePlace?_ne_nil h)
  exact sameDirectories_of_eq h rfl (by simp [herase]) fun p hp => by rw [herase, if_neg hp]

theorem erase_store (d : Disk) (place : Place) (e : Entry) :
    (d.store place e).erase place = d.erase place := by
  simp [store, erase, List.filter_filter]

theorem store_store (d : Disk) (place : Place) (e e' : Entry) :
    (d.store place e).store place e' = d.store place e' := by
  rw [store, erase_store]
  rfl

theorem write?_eq {content : ByteArray} (h : d.filePlace? path = some place) :
    d.write? path content = some (d.store place (.file content)) := by
  simp [write?, h]

end Disk

namespace AtomicWrite
open ApiTypes.Path Disk WriteStep

variable {d b after : Disk} {path parent : String} {content : ByteArray} {s : WriteStep}
  {taken rest : List WriteStep}

/-- At most parents of the path have been made, and none when the path has led somewhere. -/
structure Room (d : Disk) (path : String) (after : Disk) : Prop where
  grows : Grows d after
  eq_of_locate : ∀ spot, d.locate path = .ok spot → after = d

/-- The hidden file holds a part of the content, and all other files what they held. -/
def Staged (d : Disk) (path : String) (content : ByteArray) (after : Disk) : Prop :=
  ∃ b hidden size, Room d path b ∧ b.filePlace? (stagingPath path) = some hidden ∧
    after = b.store hidden (.file (content.extract 0 size))

/-- The hidden file with all of the content has been moved over the path. -/
def Moved (d : Disk) (path : String) (content : ByteArray) (after : Disk) : Prop :=
  ∃ b hidden place, Room d path b ∧ b.filePlace? (stagingPath path) = some hidden ∧
    b.filePlace? path = some place ∧ after = (b.erase hidden).store place (.file content)

theorem Room.refl (d : Disk) (path : String) : Room d path d :=
  ⟨.refl d, fun _ _ => rfl⟩

theorem room_of_makes (hparent : parent? path = some parent)
    (h : Makes (ancestors parent) d after) : Room d path after where
  grows := h.grows
  eq_of_locate spot hlocate := by
    cases h with
    | none => rfl
    | one hmem hmade _ => exact absurd hmade (makeDirectory_ne_ok_of_locate hlocate hparent hmem)

/-- Where a run of the steps stands: the file system, and the steps that are left. -/
inductive Stage (d : Disk) (path : String) (content : ByteArray) : Disk → List WriteStep → Prop
  | start {parent : String} (parent_eq : parent? path = some parent) :
      Stage d path content d [.makeDirectories parent, .truncate (stagingPath path),
        .fill (stagingPath path) content, .rename (stagingPath path) path]
  | ready {b : Disk} (room : Room d path b) :
      Stage d path content b [.truncate (stagingPath path), .fill (stagingPath path) content,
        .rename (stagingPath path) path]
  | begun {b : Disk} {hidden : Place} (room : Room d path b)
      (place_eq : b.filePlace? (stagingPath path) = some hidden) :
      Stage d path content (b.store hidden (.file .empty))
        [.fill (stagingPath path) content, .rename (stagingPath path) path]
  | filled {b : Disk} {hidden : Place} (room : Room d path b)
      (place_eq : b.filePlace? (stagingPath path) = some hidden) :
      Stage d path content (b.store hidden (.file content)) [.rename (stagingPath path) path]
  | moved {after : Disk} (moved : Moved d path content after) : Stage d path content after []

/-- The steps that make the parents of the path. -/
def parentSteps (path : String) : List WriteStep :=
  match parent? path with
  | some parent => if parent.isEmpty then [] else [.makeDirectories parent]
  | none => []

theorem parentSteps_eq (path : String) :
    parentSteps path = [] ∨ ∃ parent, parent? path = some parent ∧ parent ≠ "" ∧
      parentSteps path = [.makeDirectories parent] := by
  unfold parentSteps
  split
  · next parent hparent =>
    by_cases hempty : parent = ""
    · exact Or.inl (if_pos (by simpa using hempty))
    · exact Or.inr ⟨parent, hparent, hempty, if_neg (by simpa using hempty)⟩
  · exact Or.inl rfl

theorem steps_eq (path : String) (content : ByteArray) :
    steps path content = parentSteps path ++ [.truncate (stagingPath path),
      .fill (stagingPath path) content, .rename (stagingPath path) path] :=
  rfl

theorem stage_steps (d : Disk) (path : String) (content : ByteArray) :
    Stage d path content d (steps path content) := by
  rw [steps_eq]
  rcases parentSteps_eq path with hnil | ⟨parent, hparent, _, hparents⟩
  · rw [hnil]
    exact .ready (.refl d path)
  · rw [hparents]
    exact .start hparent

theorem nodup_steps (path : String) (content : ByteArray) : (steps path content).Nodup := by
  rw [steps_eq]
  rcases parentSteps_eq path with hnil | ⟨parent, _, _, hparents⟩
  · simp [hnil]
  · simp [hparents]

/-- The hidden file stays in its place while it is begun and filled. -/
theorem filePlace?_store_hidden {hidden : Place} {x : ByteArray}
    (h : b.filePlace? (stagingPath path) = some hidden) :
    (b.store hidden (.file x)).filePlace? (stagingPath path) = some hidden :=
  (sameDirectories_store h x).filePlace?_eq_some_iff.2 h

theorem write?_store_hidden {hidden : Place} {x : ByteArray}
    (h : b.filePlace? (stagingPath path) = some hidden) (content : ByteArray) :
    (b.store hidden (.file x)).write? (stagingPath path) content =
      some (b.store hidden (.file content)) := by
  rw [write?_eq (filePlace?_store_hidden h), store_store]

/-- The hidden file is moved wherever the path names a place for a file. -/
theorem rename?_store_hidden {hidden : Place}
    (h : b.filePlace? (stagingPath path) = some hidden) (content : ByteArray) :
    (b.store hidden (.file content)).rename? (stagingPath path) path =
      (b.filePlace? path).map fun place => (b.erase hidden).store place (.file content) := by
  have hread : (b.store hidden (.file content)).read? (stagingPath path) = some content :=
    read?_store (.refl b) h content
  have hpath := (sameDirectories_store h content).filePlace?_eq path
  rw [rename?, hread, hpath, filePlace?_store_hidden h]
  cases b.filePlace? path <;> simp [erase_store]

/-- A step that is done leads to the next stage. -/
theorem Stage.step (h : Stage d path content b (s :: rest)) (hrun : s.run b = (after, true)) :
    Stage d path content after rest := by
  cases h with
  | start hparent => exact .ready (room_of_makes hparent (makes_of_run hrun))
  | ready room =>
    obtain ⟨hidden, hplace, hafter⟩ := Option.bind_eq_some_iff.1 (run_outcome_iff.1 hrun)
    cases hafter
    exact .begun room hplace
  | begun room hplace =>
    rw [WriteStep.run, write?_store_hidden hplace, run_outcome_iff] at hrun
    cases hrun
    exact .filled room hplace
  | filled room hplace =>
    rw [WriteStep.run, rename?_store_hidden hplace, run_outcome_iff, Option.map_eq_some_iff] at hrun
    obtain ⟨place, htarget, rfl⟩ := hrun
    exact .moved ⟨_, _, place, room, hplace, htarget, rfl⟩

theorem Stage.runAll (h : Stage d path content b (taken ++ rest))
    (hrun : runAll b taken = (after, none)) : Stage d path content after rest := by
  induction taken generalizing b with
  | nil =>
    cases hrun
    exact h
  | cons s taken ih =>
    obtain ⟨between, hs, hrun⟩ := runAll_cons_iff.1 hrun
    exact ih (h.step hs) hrun

theorem moved_of_runAll (h : runAll d (steps path content) = (after, none)) :
    Moved d path content after := by
  have hstage := stage_steps d path content
  rw [← List.append_nil (steps path content)] at hstage
  cases hstage.runAll h with
  | moved hmoved => exact hmoved

/-- A step that breaks off leaves nothing but new directories behind when the hidden file has yet to
be begun, and a part of the content in the hidden file afterwards. -/
theorem Stage.breaksOff (h : Stage d path content b (s :: rest)) (hbroken : BreaksOff b s after) :
    .truncate (stagingPath path) ∈ s :: rest ∧ Room d path after ∨
      .truncate (stagingPath path) ∉ s :: rest ∧ Staged d path content after := by
  cases h with
  | start hparent =>
    refine Or.inl ⟨by simp, ?_⟩
    cases hbroken with
    | untouched => exact .refl d path
    | someMade hmakes => exact room_of_makes hparent hmakes
  | ready room =>
    refine Or.inl ⟨by simp, ?_⟩
    cases hbroken with
    | untouched => exact room
  | @begun b hidden room hplace =>
    refine Or.inr ⟨by simp, ?_⟩
    cases hbroken with
    | untouched => exact ⟨b, hidden, 0, room, hplace, by rw [ByteArray.extract_same]⟩
    | partlyFilled size hwritten =>
      rw [write?_store_hidden hplace] at hwritten
      cases hwritten
      exact ⟨b, hidden, size, room, hplace, rfl⟩
  | @filled b hidden room hplace =>
    refine Or.inr ⟨by simp, ?_⟩
    cases hbroken with
    | untouched =>
      exact ⟨b, hidden, content.size, room, hplace, by rw [ByteArray.extract_zero_size]⟩

/-- A write that halts leaves a part of the content in the hidden file exactly when the file has
been begun. -/
theorem room_or_staged_of_halts (h : Halts d (steps path content) taken after) :
    .truncate (stagingPath path) ∉ taken ∧ Room d path after ∨
      .truncate (stagingPath path) ∈ taken ∧ Staged d path content after := by
  obtain ⟨s, rest, between, hsteps, hrun, hbroken⟩ := h
  have hstage := stage_steps d path content
  have honce := nodup_steps path content
  have htruncate : .truncate (stagingPath path) ∈ steps path content := by simp [steps]
  rw [hsteps] at hstage honce htruncate
  obtain ⟨_, _, hdisjoint⟩ := List.nodup_append.1 honce
  rcases (hstage.runAll hrun).breaksOff hbroken with ⟨hrest, hroom⟩ | ⟨hrest, hstaged⟩
  · exact Or.inl ⟨fun htaken => hdisjoint _ htaken _ hrest rfl, hroom⟩
  · exact Or.inr ⟨(List.mem_append.1 htruncate).resolve_right hrest, hstaged⟩

end AtomicWrite

end ApiTypes
