import Mathlib.Logic.Function.Basic
import Mathlib.Logic.Relation
import ApiTypes.Proofs.StrandedFile

/-!
Writers that take their steps at the same time, in any order. A file is filled bit by bit, through
the file that the writer has opened. This is the same file still when it has been moved, and what is
written to it is lost when another file has been moved in its place.
-/
namespace ApiTypes

namespace Disk

/-- The content after a piece has been written from an offset on. Zeros fill a gap before it. -/
def overwrite (x : ByteArray) (offset : Nat) (piece : ByteArray) : ByteArray :=
  x.extract 0 offset ++ ⟨Array.replicate (offset - x.size) 0⟩ ++ piece ++
    x.extract (offset + piece.size) x.size

/-- Writes a piece to the file that stands at the place. -/
def writeAt (d : Disk) (place : Option Place) (offset : Nat) (piece : ByteArray) : Disk :=
  match place with
  | none => d
  | some place =>
    match d.at? place with
    | some (.file x) => d.store place (.file (overwrite x offset piece))
    | _ => d

variable {d : Disk} {place : Place} {path : String} {content : ByteArray} {offset size : Nat}

/-- A piece behind those that come before it in the content. -/
theorem overwrite_extract (content : ByteArray) (h : offset + size ≤ content.size) :
    overwrite (content.extract 0 offset) offset (content.extract offset (offset + size)) =
      content.extract 0 (offset + size) := by
  have hsize : (content.extract 0 offset).size = offset := by
    rw [ByteArray.size_extract]
    omega
  have hgap : (⟨Array.replicate (offset - (content.extract 0 offset).size) 0⟩ : ByteArray) =
      .empty := by
    rw [hsize, Nat.sub_self]
    rfl
  have htail : (content.extract 0 offset).extract
      (offset + (content.extract offset (offset + size)).size) (content.extract 0 offset).size =
      .empty := by
    rw [ByteArray.extract_eq_empty_iff, hsize]
    omega
  have hpieces : content.extract 0 offset ++ content.extract offset (offset + size) =
      content.extract 0 (offset + size) := by
    rw [ByteArray.extract_append_extract, Nat.zero_min, Nat.max_eq_right (Nat.le_add_right _ _)]
  rw [overwrite, hgap, htail, ByteArray.append_empty, ByteArray.append_empty,
    ByteArray.extract_extract, Nat.zero_add, Nat.zero_add, Nat.min_self, hpieces]

theorem writeAt_extract (hplace : d.at? place = some (.file (content.extract 0 offset)))
    (h : offset + size ≤ content.size) :
    d.writeAt (some place) offset (content.extract offset (offset + size)) =
      d.store place (.file (content.extract 0 (offset + size))) := by
  simp only [writeAt, hplace]
  rw [overwrite_extract content h]

theorem isDirectory_of_makeDirectory {after : Disk} (h : d.makeDirectory path = .ok after) :
    after.isDirectory path = true := by
  obtain ⟨parent, name, slash, hlocate, hnone, rfl⟩ := exists_of_makeDirectory h
  have hstore := fun p => at?_store (d := d) (p := p) (e := .directory)
    (List.append_ne_nil_of_right_ne_nil parent (List.cons_ne_nil name []))
  have hkeeps : KeepsDirectories d (d.store (parent ++ [name]) .directory) := by
    refine ⟨rfl, fun p hp => ?_⟩
    rw [hstore]
    split
    · rfl
    · exact hp
  rw [isDirectory, hkeeps.locate_ok hlocate]
  simp [hstore]

theorem makeDirectory_of_isDirectory (h : d.isDirectory path = true) :
    d.makeDirectory path = .error .blocked := by
  unfold isDirectory at h
  unfold makeDirectory
  split at h
  · next hlocate => rw [hlocate]
  · next hlocate =>
    rw [beq_iff_eq] at h
    simp only [hlocate, h]
  · cases h

theorem isDirectory_of_makeDirectories {after : Disk} {parents : List String} (hne : path ≠ "")
    (h : d.makeDirectories (path :: parents) = (after, true)) : after.isDirectory path = true := by
  rw [makeDirectories, if_neg (by simpa using hne)] at h
  split at h
  · next hmade =>
    cases h
    exact isDirectory_of_makeDirectory hmade
  · rw [Prod.mk.injEq] at h
    exact h.1 ▸ h.2
  · split at h
    · cases h
    · split at h
      · next hmade =>
        cases h
        exact isDirectory_of_makeDirectory hmade
      · rw [Prod.mk.injEq] at h
        exact h.1 ▸ h.2

/-- Directories that have been made need not be made once more. -/
theorem makeDirectories_again {after : Disk} {paths : List String}
    (h : d.makeDirectories paths = (after, true)) :
    after.makeDirectories paths = (after, true) := by
  cases paths with
  | nil => cases h
  | cons path parents =>
    by_cases hne : path = ""
    · subst hne
      rfl
    · have hdirectory := isDirectory_of_makeDirectories hne h
      rw [makeDirectories, if_neg (by simpa using hne), makeDirectory_of_isDirectory hdirectory]
      simp [hdirectory]

end Disk

/-- What a write does that goes through. -/
theorem AtomicWrite.exists_of_run {d after : Disk} {path : String} {content : ByteArray}
    (h : run d path content = (after, .ok ())) :
    ∃ b hidden place, WriteStep.runAll d (parentSteps path) = (b, none) ∧
      b.filePlace? (stagingPath path) = some hidden ∧ b.filePlace? path = some place ∧
      after = (b.erase hidden).store place (.file content) := by
  rw [run_ok_iff, steps_eq] at h
  obtain ⟨b, hparents, hstoring⟩ := WriteStep.runAll_append_iff.1 h
  rw [runAll_storing] at hstoring
  split at hstoring
  · cases hstoring
  · cases hstoring
  · next hidden place hhidden hplace =>
    cases hstoring
    exact ⟨b, hidden, place, hparents, hhidden, hplace, rfl⟩

/-- How far a writer has come. -/
structure Writer where
  /-- The steps that are left to it. -/
  rest : List WriteStep
  /-- Where the file stands now that it has opened, if it still stands anywhere. -/
  opened : Option Place := none
  /-- How many bytes it has written to that file. -/
  written : Nat := 0

/-- The writer has opened the hidden file of the path, and has yet to move it. -/
def Writer.Holds (path : String) (writer : Writer) : Prop :=
  writer.rest ≠ [] ∧ .truncate (AtomicWrite.stagingPath path) ∉ writer.rest

/-- A file has been moved, over the one that may have stood there. -/
def Writer.follow (source target : Place) (writer : Writer) : Writer :=
  { writer with
    opened := writer.opened.bind fun place =>
      if place = source then some target else if place = target then none else some place }

/-- The file system and those that write to it. -/
structure World (ι : Type) where
  disk : Disk
  writers : ι → Writer

namespace World
open AtomicWrite

variable {ι : Type}

/-- Writers that have yet to begin, each with a content of its own for the same path. -/
def start (d : Disk) (path : String) (contents : ι → ByteArray) : World ι :=
  ⟨d, fun i => { rest := steps path (contents i) }⟩

/-- A file has been moved, and stays open with those that have opened it. -/
def follow (w : World ι) (source target : Place) : World ι :=
  ⟨w.disk, fun i => (w.writers i).follow source target⟩

@[simp]
theorem follow_disk (w : World ι) (source target : Place) :
    (w.follow source target).disk = w.disk :=
  rfl

variable [DecidableEq ι]

/-- The world after one writer has done something. -/
def put (w : World ι) (i : ι) (disk : Disk) (writer : Writer) : World ι :=
  ⟨disk, Function.update w.writers i writer⟩

@[simp]
theorem put_disk (w : World ι) (i : ι) (disk : Disk) (writer : Writer) :
    (w.put i disk writer).disk = disk :=
  rfl

@[simp]
theorem put_self (w : World ι) (i : ι) (disk : Disk) (writer : Writer) :
    (w.put i disk writer).writers i = writer := by
  simp [put]

theorem put_of_ne (w : World ι) {i j : ι} (h : j ≠ i) (disk : Disk) (writer : Writer) :
    (w.put i disk writer).writers j = w.writers j := by
  simp [put, h]

/-- A writer that has done nothing. -/
theorem put_eq_self {w : World ι} {i : ι} {disk : Disk} {writer : Writer} (hdisk : w.disk = disk)
    (hwriter : w.writers i = writer) : w.put i disk writer = w := by
  rw [put, ← hdisk, ← hwriter, Function.update_eq_self]

/-- What one writer may do next. -/
inductive Move (i : ι) : World ι → World ι → Prop
  /-- Its next step fails, or its process stops. -/
  | stops (w : World ι) : Move i w (w.put i w.disk { w.writers i with rest := [] })
  | makesSome {w : World ι} {path : String} {rest : List WriteStep} {after : Disk}
      (rest_eq : (w.writers i).rest = .makeDirectories path :: rest)
      (made : Disk.Makes (Path.ancestors path) w.disk after) : Move i w ⟨after, w.writers⟩
  | makes {w : World ι} {path : String} {rest : List WriteStep} {after : Disk}
      (rest_eq : (w.writers i).rest = .makeDirectories path :: rest)
      (done : (WriteStep.makeDirectories path).run w.disk = (after, true)) :
      Move i w (w.put i after { w.writers i with rest := rest })
  | opens {w : World ι} {path : String} {rest : List WriteStep} {place : Place} {after : Disk}
      (rest_eq : (w.writers i).rest = .truncate path :: rest)
      (place_eq : w.disk.filePlace? path = some place)
      (done : (WriteStep.truncate path).run w.disk = (after, true)) :
      Move i w (w.put i after ⟨rest, some place, 0⟩)
  /-- It writes some more of the content to the file that it has opened. -/
  | writes {w : World ι} {path : String} {content : ByteArray} {rest : List WriteStep} (size : Nat)
      (rest_eq : (w.writers i).rest = .fill path content :: rest) (pos : 0 < size)
      (fits : (w.writers i).written + size ≤ content.size) :
      Move i w (w.put i (w.disk.writeAt (w.writers i).opened (w.writers i).written
          (content.extract (w.writers i).written ((w.writers i).written + size)))
        { w.writers i with written := (w.writers i).written + size })
  | fills {w : World ι} {path : String} {content : ByteArray} {rest : List WriteStep}
      (rest_eq : (w.writers i).rest = .fill path content :: rest)
      (written_eq : (w.writers i).written = content.size) :
      Move i w (w.put i w.disk { w.writers i with rest := rest })
  | renames {w : World ι} {source target : String} {rest : List WriteStep} {old new : Place}
      {after : Disk} (rest_eq : (w.writers i).rest = .rename source target :: rest)
      (old_eq : w.disk.filePlace? source = some old) (new_eq : w.disk.filePlace? target = some new)
      (done : (WriteStep.rename source target).run w.disk = (after, true)) :
      Move i w ((w.put i after { w.writers i with rest := rest }).follow old new)

/-- Some writers may have done something. -/
def Reaches : World ι → World ι → Prop :=
  Relation.ReflTransGen fun w w' => ∃ i, Move i w w'

/-- This writer alone may have done something. -/
def ReachesAlone (i : ι) : World ι → World ι → Prop :=
  Relation.ReflTransGen (Move i)

/-- No two writers hold the hidden file of the path. -/
def Exclusive (path : String) (w : World ι) : Prop :=
  ∀ i j, (w.writers i).Holds path → (w.writers j).Holds path → i = j

/-- Some writers may have done something, and no two of them have held the hidden file of the path
at any time. -/
def ReachesExclusively (path : String) : World ι → World ι → Prop :=
  Relation.ReflTransGen fun w w' => (∃ i, Move i w w') ∧ w'.Exclusive path

variable {w w' : World ι} {i j : ι} {b d after : Disk} {path : String} {content : ByteArray}
  {contents : ι → ByteArray} {rest : List WriteStep} {hidden : Place} {size : Nat}

/-- A writer takes no steps for another one and writes none of its content. -/
theorem Move.other (h : Move i w w') (hj : j ≠ i) :
    (w'.writers j).rest = (w.writers j).rest ∧
      (w'.writers j).written = (w.writers j).written := by
  cases h with
  | stops | makes | opens | writes | fills => simp [put_of_ne w hj]
  | makesSome => exact ⟨rfl, rfl⟩
  | renames => simp [follow, Writer.follow, put_of_ne w hj]

namespace ReachesAlone

theorem move (h : Move i w w') : w.ReachesAlone i w' :=
  .single h

theorem reaches (h : w.ReachesAlone i w') : w.Reaches w' :=
  Relation.ReflTransGen.mono (fun _ _ hmove => ⟨i, hmove⟩) w w' h

theorem other (h : w.ReachesAlone i w') (hj : j ≠ i) :
    (w'.writers j).rest = (w.writers j).rest ∧
      (w'.writers j).written = (w.writers j).written := by
  induction h with
  | refl => exact ⟨rfl, rfl⟩
  | tail _ hmove ih =>
    obtain ⟨hrest, hwritten⟩ := hmove.other hj
    exact ⟨hrest.trans ih.1, hwritten.trans ih.2⟩

/-- A writer has the hidden file to itself when no other one holds it. -/
theorem exclusively (h : w.ReachesAlone i w') (hothers : ∀ j ≠ i, ¬ (w.writers j).Holds path) :
    w.ReachesExclusively path w' := by
  induction h with
  | refl => exact .refl
  | @tail w₁ w₂ hreaches hmove ih =>
    have hothers : ∀ j ≠ i, ¬ (w₂.writers j).Holds path := by
      intro j hj
      have hreaches : w.ReachesAlone i w₂ := hreaches.tail hmove
      rw [Writer.Holds, (hreaches.other hj).1]
      exact hothers j hj
    refine ih.tail ⟨⟨i, hmove⟩, fun j k hj hk => ?_⟩
    have hj : j = i := by_contra fun hne => hothers j hne hj
    have hk : k = i := by_contra fun hne => hothers k hne hk
    rw [hj, hk]

end ReachesAlone

section Alone
open WriteStep

/-- A writer makes the parents of the path. -/
theorem exists_reaches_parents (hrest : (w.writers i).rest = parentSteps path ++ rest)
    (hrun : runAll w.disk (parentSteps path) = (b, none)) :
    ∃ w', w.ReachesAlone i w' ∧ w'.disk = b ∧ (w'.writers i).rest = rest := by
  rcases parentSteps_eq path with hnil | ⟨parent, _, _, hparents⟩
  · rw [hnil] at hrest hrun
    cases hrun
    exact ⟨w, .refl, rfl, hrest⟩
  · rw [hparents] at hrest hrun
    obtain ⟨between, hmade, hnil⟩ := runAll_cons_iff.1 hrun
    cases hnil
    refine ⟨_, .move (Move.makes hrest hmade), rfl, ?_⟩
    rw [put_self]
    rfl

/-- A writer that has begun the hidden file writes as much of the content as it likes. -/
theorem reaches_written (hi : w.writers i = ⟨.fill path content :: rest, some hidden, 0⟩)
    (hdisk : w.disk = b.store hidden (.file .empty)) (hhidden : hidden ≠ [])
    (hsize : size ≤ content.size) :
    w.ReachesAlone i (w.put i (b.store hidden (.file (content.extract 0 size)))
      ⟨.fill path content :: rest, some hidden, size⟩) := by
  by_cases hzero : size = 0
  · subst hzero
    rw [ByteArray.extract_same, put_eq_self hdisk hi]
    exact .refl
  · have hat : w.disk.at? hidden = some (.file (content.extract 0 0)) := by
      rw [hdisk, Disk.at?_store hhidden, if_pos rfl, ByteArray.extract_same]
    rw [← Nat.zero_add size] at hsize
    have hwritten := Disk.writeAt_extract hat hsize
    rw [hdisk, Disk.store_store] at hwritten
    have hmove := Move.writes (w := w) (i := i) size (by rw [hi]) (Nat.pos_of_ne_zero hzero)
      (by rwa [hi])
    rw [hi, hdisk, hwritten, Nat.zero_add] at hmove
    exact .move hmove

/-- A writer opens the hidden file and writes as much of the content as it likes. -/
theorem exists_reaches_staged (hrest : (w.writers i).rest = [.truncate (stagingPath path),
      .fill (stagingPath path) content, .rename (stagingPath path) path])
    (hhidden : w.disk.filePlace? (stagingPath path) = some hidden) (hsize : size ≤ content.size) :
    ∃ w', w.ReachesAlone i w' ∧
      w'.disk = w.disk.store hidden (.file (content.extract 0 size)) ∧
      (w'.writers i).rest =
        [.fill (stagingPath path) content, .rename (stagingPath path) path] ∧
      (w'.writers i).written = size := by
  have hbegun : w.disk.write? (stagingPath path) .empty =
      some (w.disk.store hidden (.file .empty)) := Disk.write?_eq hhidden
  have hopened := Move.opens hrest hhidden (run_outcome_iff.2 hbegun)
  have hself := put_self w i (w.disk.store hidden (.file .empty))
    ⟨[.fill (stagingPath path) content, .rename (stagingPath path) path], some hidden, 0⟩
  have hwritten := reaches_written hself rfl (Disk.filePlace?_ne_nil hhidden) hsize
  exact ⟨_, (ReachesAlone.move hopened).trans hwritten, rfl, by rw [put_self], by rw [put_self]⟩

/-- A writer that has written all of the content moves the hidden file over the path, whatever the
file holds by now. -/
theorem exists_reaches_renamed (hrest : (w.writers i).rest =
      [.fill (stagingPath path) content, .rename (stagingPath path) path])
    (hwritten : (w.writers i).written = content.size)
    (hrename : w.disk.rename? (stagingPath path) path = some after) :
    ∃ w', w.ReachesAlone i w' ∧ w'.disk = after ∧ (w'.writers i).rest = [] := by
  obtain ⟨_, _, h⟩ := Option.bind_eq_some_iff.1 hrename
  obtain ⟨new, hnew, h⟩ := Option.bind_eq_some_iff.1 h
  obtain ⟨old, hold, _⟩ := Option.bind_eq_some_iff.1 h
  have hfilled := Move.fills hrest hwritten
  have hleft := congrArg Writer.rest (put_self w i w.disk
    { w.writers i with rest := [.rename (stagingPath path) path] })
  have hrenamed := Move.renames hleft hold hnew (run_outcome_iff.2 hrename)
  refine ⟨_, (ReachesAlone.move hfilled).tail hrenamed, rfl, ?_⟩
  simp [follow, Writer.follow]

end Alone

end World

end ApiTypes
