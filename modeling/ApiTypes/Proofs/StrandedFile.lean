import ApiTypes.Proofs.AtomicReplace

/-!
What a write leaves behind that fails. Nothing takes the hidden file away again: once it has been
begun, it stays when a later step fails. A write that nothing else disturbs leaves it where the path
turns out to name no place for a file, such as the path of a directory.
-/
namespace ApiTypes

namespace Disk
variable {d b : Disk} {path : String} {place : Place} {x : ByteArray}

/-- A file system has but grown by directories when the file that was stored there stood there
already. -/
theorem grows_store_iff (h : Grows d b) (hplace : b.filePlace? path = some place) :
    Grows d (b.store place (.file x)) ↔ b.at? place = some (.file x) := by
  have hstore := fun p => at?_store (d := b) (p := p) (e := .file x) (filePlace?_ne_nil hplace)
  constructor
  · intro hgrows
    have hd : d.at? place = some (.file x) := by
      rcases hgrows.grownAt place with hsame | ⟨_, hmade⟩
      · rw [← hsame, hstore, if_pos rfl]
      · rw [hstore, if_pos rfl] at hmade
        cases hmade
    rcases h.grownAt place with hsame | ⟨hnone, _⟩
    · rw [hsame, hd]
    · rw [hd] at hnone
      cases hnone
  · intro hx
    refine ⟨h.current_eq, fun p => (h.grownAt p).trans (Or.inl ?_)⟩
    rw [hstore]
    split
    · next hp => rw [hp, hx]
    · rfl

end Disk

namespace AtomicWrite
open ApiTypes.Path Disk WriteStep

variable {d b after : Disk} {path : String} {content : ByteArray} {taken : List WriteStep}

/-- The path names no place for a file, although its parents can be made and the hidden file can be
written, which has not held the content before. -/
def Strands (d : Disk) (path : String) (content : ByteArray) : Prop :=
  ∃ b hidden, runAll d (parentSteps path) = (b, none) ∧
    b.filePlace? (stagingPath path) = some hidden ∧ b.filePlace? path = none ∧
    b.at? hidden ≠ some (.file content)

theorem grows_runAll_parentSteps (d : Disk) (path : String) :
    Grows d (runAll d (parentSteps path)).1 := by
  rcases parentSteps_eq path with hnil | ⟨parent, _, _, hparents⟩
  · rw [hnil]
    exact .refl d
  · rw [hparents, runAll]
    split <;> next hrun => exact (makes_of_run hrun).grows

/-- What the last steps do once the parents of the path are there. -/
theorem runAll_storing (b : Disk) (path : String) (content : ByteArray) :
    runAll b [.truncate (stagingPath path), .fill (stagingPath path) content,
        .rename (stagingPath path) path] =
      match b.filePlace? (stagingPath path), b.filePlace? path with
      | none, _ => (b, some (stagingPath path))
      | some hidden, none => (b.store hidden (.file content), some path)
      | some hidden, some place => ((b.erase hidden).store place (.file content), none) := by
  cases hhidden : b.filePlace? (stagingPath path) with
  | none => simp [runAll, WriteStep.run, run.outcome, write?, hhidden, WriteStep.path]
  | some hidden =>
    simp only [runAll, WriteStep.run, write?_eq hhidden, write?_store_hidden hhidden,
      rename?_store_hidden hhidden, run.outcome]
    cases b.filePlace? path <;> rfl

theorem Staged.grownAt (h : Staged d path content after) (place : Place) :
    GrownAt place d after ∨ after.filePlace? (stagingPath path) = some place := by
  obtain ⟨b, hidden, size, room, hhidden, rfl⟩ := h
  by_cases hplace : place = hidden
  · subst hplace
    exact Or.inr (filePlace?_store_hidden hhidden)
  · refine Or.inl ((room.grows.grownAt place).trans (Or.inl ?_))
    rw [at?_store (filePlace?_ne_nil hhidden), if_neg hplace]

theorem Staged.exists_read? (h : Staged d path content after) :
    ∃ size, after.read? (stagingPath path) = some (content.extract 0 size) := by
  obtain ⟨b, hidden, size, _, hhidden, rfl⟩ := h
  exact ⟨size, read?_store (.refl b) hhidden _⟩

/-- A write that fails leaves something behind exactly when the path is found to name no place for a
file once the hidden file has been given what it did not hold. Whatever step breaks off, all other
files are as they were. The hidden file is too if it had yet to be begun, and else it stays with a
part of the content. -/
theorem leaves_hidden_file_iff (d : Disk) (path : String) (content : ByteArray) :
    ((∃ after f, run d path content = (after, .error f) ∧ ¬ Grows d after) ↔
      Strands d path content) ∧
    ∀ taken after blamed, Ends d (steps path content) taken after (some blamed) →
      (∀ place, GrownAt place d after ∨ after.filePlace? (stagingPath path) = some place) ∧
      (.truncate (stagingPath path) ∉ taken → Grows d after) ∧
      (.truncate (stagingPath path) ∈ taken →
        ∃ size, after.read? (stagingPath path) = some (content.extract 0 size)) := by
  constructor
  · rw [Strands, result_run, steps_eq, runAll_append]
    have hgrows := grows_runAll_parentSteps d path
    -- the write fails at the parents, at the hidden file, or when it is to be moved
    cases hparents : runAll d (parentSteps path) with
    | mk b blamed? =>
    rw [hparents] at hgrows
    cases blamed? with
    | some blamed => simp [result, Outcome.fail, hgrows]
    | none =>
    simp only [runAll_storing]
    cases hhidden : b.filePlace? (stagingPath path) with
    | none => simp [result, Outcome.fail, hgrows, hhidden]
    | some hidden =>
    cases hplace : b.filePlace? path with
    | some place => simp [result, hplace]
    | none => simp [result, Outcome.fail, hhidden, hplace, grows_store_iff hgrows hhidden]
  · intro taken after blamed h
    rcases h.finished_or_halts with ⟨hnone, _⟩ | ⟨_, hhalts⟩
    · cases hnone
    rcases room_or_staged_of_halts hhalts with ⟨hbegun, hroom⟩ | ⟨hbegun, hstaged⟩
    · exact ⟨fun place => Or.inl (hroom.grows.grownAt place), fun _ => hroom.grows,
        fun h => absurd h hbegun⟩
    · exact ⟨hstaged.grownAt, fun h => absurd hbegun h, fun _ => hstaged.exists_read?⟩

/-- A file system with a directory in place of the module. -/
def strandingDisk : Disk :=
  (Disk.fresh.store ["work", "out"] .directory).store ["work", "out", "youtube3.rs"] .directory

/-- The disk fills up when four bytes of the module have been written. -/
theorem leaves_hidden_file_youtube :
    ∃ after, Ends strandingDisk (steps "out/youtube3.rs" videoModule)
        [.makeDirectories "out", .truncate "out/.youtube3.rs.tmp"] after
        (some "out/.youtube3.rs.tmp") ∧
      ∃ size, after.read? "out/.youtube3.rs.tmp" = some (videoModule.extract 0 size) := by
  obtain ⟨_, hbroken⟩ := leaves_hidden_file_iff strandingDisk "out/youtube3.rs" videoModule
  have hends : Ends strandingDisk (steps "out/youtube3.rs" videoModule)
      [.makeDirectories "out", .truncate "out/.youtube3.rs.tmp"] _ (some "out/.youtube3.rs.tmp") :=
    .step rfl (.step rfl (.failed (.partlyFilled 4 rfl)))
  have hbegun : WriteStep.truncate "out/.youtube3.rs.tmp" ∈
      [.makeDirectories "out", .truncate "out/.youtube3.rs.tmp"] := by simp
  exact ⟨_, hends, (hbroken _ _ _ hends).2.2 hbegun⟩

/-- The write fails when it is to move the hidden file, and the file stays. -/
theorem run_leaves_hidden_file :
    ∃ after, run strandingDisk "out/youtube3.rs" videoModule =
        (after, Outcome.fail (.unwritable "out/youtube3.rs")) ∧
      strandingDisk.read? "out/.youtube3.rs.tmp" = none ∧
      after.read? "out/.youtube3.rs.tmp" = some videoModule ∧
      ¬ Grows strandingDisk after := by
  refine ⟨_, rfl, rfl, rfl, fun hgrows => ?_⟩
  rcases hgrows.grownAt ["work", "out", ".youtube3.rs.tmp"] with h | ⟨_, h⟩
  · exact absurd h (by decide)
  · exact absurd h (by decide)

end AtomicWrite

end ApiTypes
