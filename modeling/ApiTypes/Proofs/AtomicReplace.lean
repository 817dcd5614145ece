import ApiTypes.Proofs.StagedWrite

/-!
A path that is given new content holds the old content or the new at every moment, whatever step
breaks off and wherever the process stops. A write that succeeds leaves nothing else behind but the
directories of the file.
-/
namespace ApiTypes

namespace Disk
variable {d before between after : Disk} {path : String}

/-- What is seen at a path: a directory, a file with its content, or nothing. -/
def seen? (d : Disk) (path : String) : Option Entry :=
  if d.isDirectory path then some .directory else (d.read? path).map .file

/-- The path holds what it held. If it led anywhere, it leads there still, and the same is seen
there. A file that it names now, be it only since the directories on the way have been made, stood
there before. -/
structure HoldsStill (path : String) (before after : Disk) : Prop where
  seen_eq : ∀ spot, before.locate path = .ok spot →
    after.locate path = .ok spot ∧ after.seen? path = before.seen? path
  at?_eq : ∀ place, after.filePlace? path = some place → after.at? place = before.at? place

theorem HoldsStill.of_sameDirectories (h : HoldsStill path before between)
    (hsame : SameDirectories between after)
    (hfile : ∀ place, between.filePlace? path = some place → after.at? place = between.at? place) :
    HoldsStill path before after where
  seen_eq spot hlocate := by
    obtain ⟨hbetween, hseen⟩ := h.seen_eq spot hlocate
    refine ⟨hsame.locate_ok_iff.2 hbetween, Eq.trans ?_ hseen⟩
    have hread : after.read? path = between.read? path := by
      rw [read?, read?, hsame.filePlace?_eq]
      cases hplace : between.filePlace? path with
      | none => rfl
      | some place => simp [hfile place hplace]
    rw [seen?, seen?, hsame.isDirectory_eq, hread]
  at?_eq place hplace := by
    rw [hsame.filePlace?_eq] at hplace
    rw [hfile place hplace, h.at?_eq place hplace]

end Disk

namespace AtomicWrite
open Disk WriteStep

variable {d after : Disk} {path : String} {content : ByteArray} {taken : List WriteStep}

/-- The result of a write that has ended so. -/
def result : Option String → Outcome Unit
  | none => .ok ()
  | some blamed => Outcome.fail (.unwritable blamed)

/-- The path holds the new content, there is no hidden file, and nothing else has changed, but for
directories that have been made where nothing stood. -/
structure Replaced (d : Disk) (path : String) (content : ByteArray) (after : Disk) : Prop where
  read?_eq : after.read? path = some content
  hidden_gone : ∃ hidden, after.filePlace? (stagingPath path) = some hidden ∧
    after.at? hidden = none
  grownAt : ∀ place, after.filePlace? path ≠ some place →
    after.filePlace? (stagingPath path) ≠ some place → GrownAt place d after

theorem Room.holdsStill (h : Room d path after) : HoldsStill path d after where
  seen_eq spot hlocate := by
    obtain rfl := h.eq_of_locate spot hlocate
    exact ⟨hlocate, rfl⟩
  at?_eq place hplace := by
    rcases h.grows.grownAt place with hsame | ⟨_, hmade⟩
    · exact hsame
    · exact absurd hmade (at?_ne_directory hplace)

theorem Staged.holdsStill (h : Staged d path content after) : HoldsStill path d after := by
  obtain ⟨b, hidden, size, room, hhidden, rfl⟩ := h
  refine room.holdsStill.of_sameDirectories (sameDirectories_store hhidden _) ?_
  intro place hplace
  rw [at?_store (filePlace?_ne_nil hhidden), if_neg (ne_of_filePlace?_stagingPath hplace hhidden)]

theorem Moved.replaced (h : Moved d path content after) : Replaced d path content after := by
  obtain ⟨b, hidden, place, room, hhidden, hplace, rfl⟩ := h
  have herased := sameDirectories_erase hhidden
  have hsame := herased.trans
    (sameDirectories_store (herased.filePlace?_eq_some_iff.2 hplace) content)
  have hat : ∀ p, ((b.erase hidden).store place (.file content)).at? p =
      if p = place then some (.file content) else if p = hidden then none else b.at? p := by
    intro p
    rw [at?_store (filePlace?_ne_nil hplace), at?_erase (filePlace?_ne_nil hhidden)]
  refine ⟨read?_store herased.keepsDirectories hplace content, ?_, fun p hp hp' => ?_⟩
  · refine ⟨hidden, hsame.filePlace?_eq_some_iff.2 hhidden, ?_⟩
    have hne := ne_of_filePlace?_stagingPath hplace hhidden
    rw [hat, if_neg hne.symm, if_pos rfl]
  · rw [hsame.filePlace?_eq, hplace] at hp
    rw [hsame.filePlace?_eq, hhidden] at hp'
    have hp : p ≠ place := fun h => hp (h ▸ rfl)
    have hp' : p ≠ hidden := fun h => hp' (h ▸ rfl)
    refine (room.grows.grownAt p).trans (Or.inl ?_)
    rw [hat, if_neg hp, if_neg hp']

theorem holdsStill_of_halts (h : Halts d (steps path content) taken after) :
    HoldsStill path d after := by
  rcases room_or_staged_of_halts h with ⟨_, hroom⟩ | ⟨_, hstaged⟩
  · exact hroom.holdsStill
  · exact hstaged.holdsStill

/-- The last step alone moves the hidden file over the path. -/
theorem exists_steps_eq (path : String) (content : ByteArray) :
    ∃ front, steps path content = front ++ [.rename (stagingPath path) path] ∧
      .rename (stagingPath path) path ∉ front := by
  have hsteps : steps path content =
      (parentSteps path ++ [.truncate (stagingPath path), .fill (stagingPath path) content]) ++
        [.rename (stagingPath path) path] := by
    rw [steps_eq, List.append_assoc]
    rfl
  have honce := nodup_steps path content
  rw [hsteps] at honce
  obtain ⟨_, _, hdisjoint⟩ := List.nodup_append.1 honce
  exact ⟨_, hsteps, fun hmem => hdisjoint _ hmem _ (List.mem_singleton_self _) rfl⟩

theorem result_run (d : Disk) (path : String) (content : ByteArray) :
    run d path content = ((runAll d (steps path content)).1,
      result (runAll d (steps path content)).2) := by
  unfold run
  split <;> next h => rw [h]; rfl

/-- At every moment the path holds what it held or the new content. The write succeeds exactly when
the hidden file has been moved over the path, and then there is none any more, and no other file has
changed; else the path holds what it held. All this is so whatever step breaks off, and so for the
run that breaks off only where something stands in the way. -/
theorem old_or_new_at_every_step (d : Disk) (path : String) (content : ByteArray) :
    (∀ after, Shows d (steps path content) after →
      HoldsStill path d after ∨ Replaced d path content after) ∧
    (∀ taken after blamed?, Ends d (steps path content) taken after blamed? →
      (result blamed? = .ok () ↔ .rename (stagingPath path) path ∈ taken) ∧
      (result blamed? = .ok () → Replaced d path content after) ∧
      (result blamed? ≠ .ok () → HoldsStill path d after)) ∧
    ∃ taken after blamed?, Ends d (steps path content) taken after blamed? ∧
      run d path content = (after, result blamed?) := by
  have hresult : ∀ blamed?, result blamed? = .ok () ↔ blamed? = none := by
    intro blamed?
    cases blamed? <;> simp [result, Outcome.fail]
  refine ⟨fun after h => ?_, fun taken after blamed? h => ?_, ?_⟩
  · rcases h.finished_or_halts with hrun | ⟨taken, hhalts⟩
    · exact Or.inr (moved_of_runAll hrun).replaced
    · exact Or.inl (holdsStill_of_halts hhalts)
  · rw [ne_eq, hresult]
    refine ⟨?_, ?_⟩
    · obtain ⟨front, hsteps, hfront⟩ := exists_steps_eq path content
      rw [hsteps] at h
      exact h.eq_none_iff hfront
    · rcases h.finished_or_halts with ⟨rfl, _, hrun⟩ | ⟨hsome, hhalts⟩
      · exact ⟨fun _ => (moved_of_runAll hrun).replaced, fun hne => absurd rfl hne⟩
      · exact ⟨fun hnone => by simp [hnone] at hsome, fun _ => holdsStill_of_halts hhalts⟩
  · obtain ⟨taken, hends⟩ := exists_ends_runAll d (steps path content)
    exact ⟨taken, _, _, hends, result_run d path content⟩

/-- The text of a module. -/
def videoModule : ByteArray :=
  "pub struct Video;".toUTF8

/-- A file system with another module in `out/youtube3.rs`. -/
def replacedDisk : Disk :=
  (Disk.fresh.store ["work", "out"] .directory).store ["work", "out", "youtube3.rs"]
    (.file "pub struct Channel;".toUTF8)

/-- The process may stop while the hidden file has but four bytes of the new module, and it may go
on to the end. -/
theorem old_or_new_at_every_step_youtube :
    ∃ partly after, Shows replacedDisk (steps "out/youtube3.rs" videoModule) partly ∧
      partly.read? "out/.youtube3.rs.tmp" = some "pub ".toUTF8 ∧
      (HoldsStill "out/youtube3.rs" replacedDisk partly ∨
        Replaced replacedDisk "out/youtube3.rs" videoModule partly) ∧
      Ends replacedDisk (steps "out/youtube3.rs" videoModule)
        [.makeDirectories "out", .truncate "out/.youtube3.rs.tmp",
          .fill "out/.youtube3.rs.tmp" videoModule,
          .rename "out/.youtube3.rs.tmp" "out/youtube3.rs"] after none ∧
      Replaced replacedDisk "out/youtube3.rs" videoModule after := by
  obtain ⟨hshows, hends, -⟩ := old_or_new_at_every_step replacedDisk "out/youtube3.rs" videoModule
  have hpartly : Shows replacedDisk (steps "out/youtube3.rs" videoModule) _ :=
    .later rfl (.later rfl (.during (.partlyFilled 4 rfl)))
  have hdone : Ends replacedDisk (steps "out/youtube3.rs" videoModule)
      [.makeDirectories "out", .truncate "out/.youtube3.rs.tmp",
        .fill "out/.youtube3.rs.tmp" videoModule,
        .rename "out/.youtube3.rs.tmp" "out/youtube3.rs"] _ none :=
    .step rfl (.step rfl (.step rfl (.step rfl (.finished _))))
  exact ⟨_, _, hpartly, rfl, hshows _ hpartly, hdone, (hends _ _ _ hdone).2.1 rfl⟩

end AtomicWrite

end ApiTypes
