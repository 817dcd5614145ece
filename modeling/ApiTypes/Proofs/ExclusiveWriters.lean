import ApiTypes.Proofs.WriteInterleaving

/-!
Writers of the same path. They share the hidden file, which is named after the path alone. As long
as no two of them hold it at the same time, the path holds what it held or the content of one of
them. Else one may begin the file anew when another one has filled it and is about to move it.
-/
namespace ApiTypes
open ApiTypes.Path AtomicWrite WriteStep

/-- What is left to do for a writer of the path. It has written all of the content before it moves
the file. -/
inductive Writer.Task (path : String) (content : ByteArray) (written : Nat) :
    List WriteStep → Prop
  | parents {parent : String} (parent_eq : parent? path = some parent) (ne_empty : parent ≠ "") :
      Task path content written [.makeDirectories parent, .truncate (stagingPath path),
        .fill (stagingPath path) content, .rename (stagingPath path) path]
  | opening : Task path content written [.truncate (stagingPath path),
      .fill (stagingPath path) content, .rename (stagingPath path) path]
  | filling : Task path content written
      [.fill (stagingPath path) content, .rename (stagingPath path) path]
  | moving (written_eq : written = content.size) :
      Task path content written [.rename (stagingPath path) path]
  | ended : Task path content written []

theorem Writer.holds_of_rest {writer : Writer} {path : String} {s : WriteStep}
    {rest : List WriteStep} (hrest : writer.rest = s :: rest)
    (hbegun : .truncate (stagingPath path) ∉ s :: rest) : writer.Holds path := by
  rw [Holds, hrest]
  exact ⟨List.cons_ne_nil s rest, hbegun⟩

/-- Where the path of the hidden file leads somewhere, no parent of the path is missing. -/
theorem makeDirectory_ne_ok_of_stagingPath {d after : Disk} {path parent a : String} {spot : Spot}
    (h : d.locate (stagingPath path) = .ok spot) (hparent : parent? path = some parent)
    (hne : parent ≠ "") (ha : a ∈ ancestors parent) : d.makeDirectory a ≠ .ok after := by
  obtain ⟨habsolute, hnames⟩ := names_stagingPath hparent hne
  obtain ⟨habsolute', hfront⟩ := names_of_mem_ancestors ha
  rw [(names_parent? hparent).1, ← habsolute] at habsolute'
  exact Disk.makeDirectory_ne_ok_of_names h habsolute' (hfront.trans hnames)

namespace World

variable {ι : Type} {w w' : World ι} {i j : ι} {d b after : Disk} {path parent : String}
  {contents : ι → ByteArray} {writer : Writer} {hidden old new : Place}

/-- The file system is `b`, made of the first one by making parents of the path, but for the file at
the path, which may have the content of a writer, and the hidden file. A writer that holds the
hidden file has opened the one that stands there, and the file holds what it has written. -/
structure Steady (d : Disk) (path : String) (contents : ι → ByteArray) (b : Disk) (w : World ι) :
    Prop where
  room : Room d path b
  same : Disk.SameDirectories b w.disk
  at?_eq : ∀ place, b.filePlace? (stagingPath path) ≠ some place →
    w.disk.at? place = b.at? place ∨
      b.filePlace? path = some place ∧ ∃ i, w.disk.at? place = some (.file (contents i))
  task : ∀ i, Writer.Task path (contents i) (w.writers i).written (w.writers i).rest
  held : ∀ i, (w.writers i).Holds path → ∃ hidden, b.filePlace? (stagingPath path) = some hidden ∧
    (w.writers i).opened = some hidden ∧
    w.disk.at? hidden = some (.file ((contents i).extract 0 (w.writers i).written))

theorem task_steps (path : String) (content : ByteArray) :
    Writer.Task path content 0 (steps path content) := by
  rw [steps_eq]
  rcases parentSteps_eq path with hnil | ⟨parent, hparent, hne, hparents⟩
  · rw [hnil]
    exact .opening
  · rw [hparents]
    exact .parents hparent hne

theorem not_holds_start (i : ι) : ¬ ((start d path contents).writers i).Holds path :=
  fun h => absurd (by simp [start, steps]) h.2

theorem steady_start (d : Disk) (path : String) (contents : ι → ByteArray) :
    Steady d path contents d (start d path contents) where
  room := .refl d path
  same := ⟨rfl, fun _ => Iff.rfl⟩
  at?_eq _ _ := Or.inl rfl
  task i := task_steps path (contents i)
  held i h := absurd h (not_holds_start i)

namespace Steady

/-- As long as writers take care of each other, the path holds what it held or what one of them
gives it. -/
theorem old_or_new (h : Steady d path contents b w) :
    Disk.HoldsStill path d w.disk ∨ ∃ i, w.disk.read? path = some (contents i) := by
  by_cases hnew : ∃ place i, b.filePlace? path = some place ∧
      w.disk.at? place = some (.file (contents i))
  · obtain ⟨place, i, hplace, hat⟩ := hnew
    rw [← h.same.filePlace?_eq] at hplace
    exact Or.inr ⟨i, by simp [Disk.read?, hplace, hat]⟩
  · refine Or.inl (h.room.holdsStill.of_sameDirectories h.same fun place hplace => ?_)
    have hstaging : b.filePlace? (stagingPath path) ≠ some place :=
      fun hhidden => ne_of_filePlace?_stagingPath hplace hhidden rfl
    refine (h.at?_eq place hstaging).resolve_right ?_
    rintro ⟨_, i, hat⟩
    exact hnew ⟨place, i, hplace, hat⟩

/-- Parents of the path are made only as long as it leads nowhere, and neither does the path of the
hidden file then, so that nobody holds that file. -/
theorem makes (h : Steady d path contents b w) (hparent : parent? path = some parent)
    (hne : parent ≠ "") (hmakes : Disk.Makes (ancestors parent) w.disk after) :
    ∃ b, Steady d path contents b ⟨after, w.writers⟩ := by
  have hgrows := hmakes.grows
  cases hmakes with
  | none => exact ⟨b, h⟩
  | @one _ _ _ a hmem hmade _ =>
    have hpath : ∀ spot, w.disk.locate path ≠ .ok spot := fun spot hlocate =>
      Disk.makeDirectory_ne_ok_of_locate hlocate hparent hmem hmade
    have hstaging : ∀ spot, w.disk.locate (stagingPath path) ≠ .ok spot := fun spot hlocate =>
      makeDirectory_ne_ok_of_stagingPath hlocate hparent hne hmem hmade
    have hnowhere : ∀ {p : String}, (∀ spot, w.disk.locate p ≠ .ok spot) →
        ∀ place, b.filePlace? p ≠ some place := by
      intro p hp place hplace
      rw [← h.same.filePlace?_eq] at hplace
      obtain ⟨_, _, hlocate, _⟩ := Disk.exists_locate_of_filePlace? hplace
      exact hp _ hlocate
    have hat : ∀ place, w.disk.at? place = b.at? place := fun place =>
      (h.at?_eq place (hnowhere hstaging place)).resolve_right
        fun hnew => hnowhere hpath place hnew.1
    refine ⟨after, ⟨?_, fun spot hspot => ?_⟩, ⟨rfl, fun _ => Iff.rfl⟩, fun _ _ => Or.inl rfl,
      h.task, fun i hi => ?_⟩
    · exact (h.room.grows.trans ⟨h.same.current_eq, fun place => Or.inl (hat place)⟩).trans hgrows
    · obtain rfl := h.room.eq_of_locate spot hspot
      exact absurd (h.same.locate_ok_iff.2 hspot) (hpath spot)
    · obtain ⟨hidden, hhidden, _⟩ := h.held i hi
      exact absurd hhidden (hnowhere hstaging hidden)

variable [DecidableEq ι]

theorem task_put (h : Steady d path contents b w)
    (htask : Writer.Task path (contents i) writer.written writer.rest) (j : ι) :
    Writer.Task path (contents j) ((w.put i after writer).writers j).written
      ((w.put i after writer).writers j).rest := by
  by_cases hj : j = i
  · subst hj
    rwa [put_self]
  · rw [put_of_ne w hj]
    exact h.task j

/-- A writer goes on to another step, and the file system stays as it is. -/
theorem turn (h : Steady d path contents b w)
    (htask : Writer.Task path (contents i) writer.written writer.rest)
    (hholds : writer.Holds path → (w.writers i).Holds path ∧
      writer.opened = (w.writers i).opened ∧ writer.written = (w.writers i).written) :
    Steady d path contents b (w.put i w.disk writer) where
  room := h.room
  same := h.same
  at?_eq := h.at?_eq
  task := h.task_put htask
  held j hj := by
    by_cases hji : j = i
    · subst hji
      rw [put_self] at hj ⊢
      obtain ⟨hholds, hopened, hwritten⟩ := hholds hj
      rw [hopened, hwritten]
      exact h.held j hholds
    · rw [put_of_ne w hji] at hj ⊢
      exact h.held j hj

/-- A writer fills the hidden file that no other one holds. -/
theorem store (h : Steady d path contents b w) (writer : Writer)
    (hhidden : b.filePlace? (stagingPath path) = some hidden)
    (htask : Writer.Task path (contents i) writer.written writer.rest)
    (hopened : writer.opened = some hidden)
    (halone : ∀ j, (w.writers j).Holds path → j = i) :
    Steady d path contents b
      (w.put i (w.disk.store hidden (.file ((contents i).extract 0 writer.written))) writer) where
  room := h.room
  same := h.same.trans (Disk.sameDirectories_store (h.same.filePlace?_eq_some_iff.2 hhidden) _)
  at?_eq place hplace := by
    have hne : place ≠ hidden := fun heq => hplace (heq ▸ hhidden)
    rw [put_disk, Disk.at?_store (Disk.filePlace?_ne_nil hhidden), if_neg hne]
    exact h.at?_eq place hplace
  task := h.task_put htask
  held j hj := by
    obtain rfl : j = i := by
      by_contra hji
      rw [put_of_ne w hji] at hj
      exact hji (halone j hj)
    rw [put_self, put_disk]
    refine ⟨hidden, hhidden, hopened, ?_⟩
    rw [Disk.at?_store (Disk.filePlace?_ne_nil hhidden), if_pos rfl]

/-- The writer that holds the hidden file moves it, and then nobody holds it. -/
theorem rename (h : Steady d path contents b w) (hexclusive : w.Exclusive path)
    (hrest : (w.writers i).rest = [.rename (stagingPath path) path])
    (hwritten : (w.writers i).written = (contents i).size)
    (hold : w.disk.filePlace? (stagingPath path) = some old)
    (hnew : w.disk.filePlace? path = some new)
    (hrename : w.disk.rename? (stagingPath path) path = some after) :
    Steady d path contents b
      ((w.put i after { w.writers i with rest := [] }).follow old new) := by
  have hholds : (w.writers i).Holds path := Writer.holds_of_rest hrest (by simp)
  obtain ⟨hidden, hhidden, _, hat⟩ := h.held i hholds
  obtain rfl : old = hidden := by
    rw [h.same.filePlace?_eq, hhidden] at hold
    exact (Option.some.inj hold).symm
  rw [hwritten, ByteArray.extract_zero_size] at hat
  obtain rfl : after = (w.disk.erase old).store new (.file (contents i)) := by
    simpa [Disk.rename?, Disk.read?, hold, hnew, hat] using hrename.symm
  have herased := Disk.sameDirectories_erase hold
  refine ⟨h.room, ?_, fun place hplace => ?_, fun j => ?_, fun j hj => ?_⟩
  · exact h.same.trans (herased.trans
      (Disk.sameDirectories_store (herased.filePlace?_eq_some_iff.2 hnew) _))
  · have hne : place ≠ old := fun heq => hplace (heq ▸ hhidden)
    have hstored : ((w.disk.erase old).store new (.file (contents i))).at? place =
        if place = new then some (.file (contents i)) else w.disk.at? place := by
      rw [Disk.at?_store (Disk.filePlace?_ne_nil hnew),
        Disk.at?_erase (Disk.filePlace?_ne_nil hold), if_neg hne]
    rw [follow_disk, put_disk, hstored]
    split
    · next heq =>
      rw [heq, ← h.same.filePlace?_eq]
      exact Or.inr ⟨hnew, i, rfl⟩
    · exact h.at?_eq place hplace
  · exact h.task_put .ended j
  · -- a writer that still holds the file would have held it together with this one
    have hj : ((w.put i _ { w.writers i with rest := [] }).writers j).Holds path := hj
    by_cases hji : j = i
    · subst hji
      rw [put_self] at hj
      exact absurd rfl hj.1
    · rw [put_of_ne w hji] at hj
      exact absurd (hexclusive j i hj hholds) hji

theorem step (h : Steady d path contents b w) (hexclusive : w.Exclusive path) (hmove : Move i w w')
    (hexclusive' : w'.Exclusive path) : ∃ b, Steady d path contents b w' := by
  have htask := h.task i
  cases hmove with
  | stops => exact ⟨b, h.turn .ended fun hholds => absurd rfl hholds.1⟩
  | makesSome hrest hmade =>
    rw [hrest] at htask
    cases htask with
    | parents hparent hne => exact h.makes hparent hne hmade
  | makes hrest hdone =>
    rw [hrest] at htask
    cases htask with
    | parents hparent hne =>
      obtain ⟨b, hsteady⟩ := h.makes hparent hne (makes_of_run hdone)
      exact ⟨b, hsteady.turn .opening fun hholds => absurd (by simp) hholds.2⟩
  | opens hrest hplace hdone =>
    rw [hrest] at htask
    cases htask with
    | opening =>
      have hbegun := run_outcome_iff.1 hdone
      rw [Disk.write?_eq hplace] at hbegun
      cases hbegun
      rw [← ByteArray.extract_same (b := contents i) (i := 0)]
      refine ⟨b, h.store ⟨_, _, 0⟩ (h.same.filePlace?_eq_some_iff.1 hplace) .filling rfl
        fun j hj => ?_⟩
      by_contra hji
      refine hji (hexclusive' j i ?_ ?_)
      · rwa [put_of_ne w hji]
      · rw [put_self]
        simp [Writer.Holds]
  | writes size hrest _ hfits =>
    rw [hrest] at htask
    cases htask with
    | filling =>
      have hholds : (w.writers i).Holds path := Writer.holds_of_rest hrest (by simp)
      obtain ⟨hidden, hhidden, hopened, hat⟩ := h.held i hholds
      have hfilling : Writer.Task path (contents i) ((w.writers i).written + size)
          (w.writers i).rest := by
        rw [hrest]
        exact .filling
      rw [hopened, Disk.writeAt_extract hat hfits]
      exact ⟨b, h.store { w.writers i with written := (w.writers i).written + size } hhidden
        hfilling hopened fun j hj => hexclusive j i hj hholds⟩
  | fills hrest hwritten =>
    rw [hrest] at htask
    cases htask with
    | filling =>
      have hholds : (w.writers i).Holds path := Writer.holds_of_rest hrest (by simp)
      exact ⟨b, h.turn (.moving hwritten) fun _ => ⟨hholds, rfl, rfl⟩⟩
  | renames hrest hold hnew hdone =>
    rw [hrest] at htask
    cases htask with
    | moving hwritten =>
      exact ⟨b, h.rename hexclusive hrest hwritten hold hnew (run_outcome_iff.1 hdone)⟩

end Steady

variable [DecidableEq ι]

theorem exists_steady (h : (start d path contents).ReachesExclusively path w) :
    w.Exclusive path ∧ ∃ b, Steady d path contents b w := by
  induction h with
  | refl => exact ⟨fun i _ hi => absurd hi (not_holds_start i), d, steady_start d path contents⟩
  | tail _ hstep ih =>
    obtain ⟨hexclusive, b, hsteady⟩ := ih
    obtain ⟨⟨i, hmove⟩, hexclusive'⟩ := hstep
    exact ⟨hexclusive', hsteady.step hexclusive hmove hexclusive'⟩

theorem runAll_parentSteps_again (h : runAll d (parentSteps path) = (b, none)) :
    runAll b (parentSteps path) = (b, none) := by
  rcases parentSteps_eq path with hnil | ⟨parent, _, _, hparents⟩
  · rw [hnil]
    rfl
  · rw [hparents] at h ⊢
    obtain ⟨between, hmade, hnone⟩ := runAll_cons_iff.1 h
    cases hnone
    exact runAll_cons_iff.2 ⟨b, Disk.makeDirectories_again hmade, rfl⟩

/-- Where one writer could write the path, any part of the content of another one may be read there:
the other one begins the file anew that the first one has filled and is about to move. -/
theorem exists_reaches_part (hne : i ≠ j) (h : run d path (contents i) = (after, .ok ()))
    {size : Nat} (hsize : size ≤ (contents j).size) :
    ∃ w, (start d path contents).Reaches w ∧
      w.disk.read? path = some ((contents j).extract 0 size) := by
  obtain ⟨b, hidden, place, hparents, hhidden, hplace, -⟩ := exists_of_run h
  obtain ⟨w₁, hreach₁, rfl, hi⟩ :=
    exists_reaches_parents (w := start d path contents) (steps_eq path (contents i)) hparents
  -- the other one finds the parents there
  have hj := (hreach₁.other hne.symm).1.trans (steps_eq path (contents j))
  obtain ⟨w₂, hreach₂, hdisk₂, hj⟩ :=
    exists_reaches_parents hj (runAll_parentSteps_again hparents)
  rw [← hdisk₂] at hhidden hplace
  rw [← (hreach₂.other hne).1] at hi
  -- the one fills the hidden file, and then the other one begins it anew
  obtain ⟨w₃, hreach₃, hdisk₃, hi, hwritten⟩ := exists_reaches_staged hi hhidden le_rfl
  have hhidden₃ : w₃.disk.filePlace? (stagingPath path) = some hidden := by
    rw [hdisk₃]
    exact filePlace?_store_hidden hhidden
  rw [← (hreach₃.other hne.symm).1] at hj
  obtain ⟨w₄, hreach₄, hdisk₄, _⟩ := exists_reaches_staged hj hhidden₃ hsize
  rw [← (hreach₄.other hne).1] at hi
  rw [← (hreach₄.other hne).2] at hwritten
  have hrename : w₄.disk.rename? (stagingPath path) path =
      some ((w₂.disk.erase hidden).store place (.file ((contents j).extract 0 size))) := by
    rw [hdisk₄, hdisk₃, Disk.store_store, rename?_store_hidden hhidden, hplace, Option.map_some]
  obtain ⟨w₅, hreach₅, hdisk₅, _⟩ := exists_reaches_renamed hi hwritten hrename
  refine ⟨w₅, hreach₁.reaches.trans (hreach₂.reaches.trans
    (hreach₃.reaches.trans (hreach₄.reaches.trans hreach₅.reaches))), ?_⟩
  rw [hdisk₅]
  exact Disk.read?_store (Disk.keepsDirectories_erase hhidden) hplace _

/-- As long as no two writers of a path hold its hidden file at the same time, the path holds what
it held or the content of one of them, whatever fails and wherever a process stops. The hidden file
is named after the path alone, and where one of them could write the path, any part of the content
of another one may be read there, be it nothing at all, when the two of them hold the file. -/
theorem whole_while_exclusive (d : Disk) (path : String) (contents : ι → ByteArray) :
    (∀ w, (start d path contents).ReachesExclusively path w →
      Disk.HoldsStill path d w.disk ∨ ∃ i, w.disk.read? path = some (contents i)) ∧
    ∀ i j after, i ≠ j → run d path (contents i) = (after, .ok ()) →
      ∀ size ≤ (contents j).size, ∃ w, (start d path contents).Reaches w ∧
        w.disk.read? path = some ((contents j).extract 0 size) := by
  refine ⟨fun w h => ?_, fun i j after hne h size hsize => exists_reaches_part hne h hsize⟩
  obtain ⟨_, b, hsteady⟩ := exists_steady h
  exact hsteady.old_or_new

/-- The modules that two runs write. -/
def twoModules : Bool → ByteArray
  | false => videoModule
  | true => "pub struct Playlist;".toUTF8

/-- One run has written four bytes and the other one nothing; later both have begun the hidden file,
and a part of it becomes the module. -/
theorem whole_while_exclusive_youtube :
    (∃ w, (start replacedDisk "out/youtube3.rs" twoModules).ReachesExclusively
        "out/youtube3.rs" w ∧
      w.disk.read? "out/.youtube3.rs.tmp" = some "pub ".toUTF8 ∧
      (Disk.HoldsStill "out/youtube3.rs" replacedDisk w.disk ∨
        ∃ i, w.disk.read? "out/youtube3.rs" = some (twoModules i))) ∧
    ∃ w, (start replacedDisk "out/youtube3.rs" twoModules).Reaches w ∧
      w.disk.read? "out/youtube3.rs" = some ((twoModules true).extract 0 4) := by
  obtain ⟨hwhole, hpart⟩ := whole_while_exclusive replacedDisk "out/youtube3.rs" twoModules
  obtain ⟨ready, hready, hdisk, hrest⟩ :=
    exists_reaches_parents (w := start replacedDisk "out/youtube3.rs" twoModules) (i := false)
      (steps_eq "out/youtube3.rs" videoModule) (b := replacedDisk) rfl
  have hhidden : ready.disk.filePlace? (stagingPath "out/youtube3.rs") =
      some ["work", "out", ".youtube3.rs.tmp"] := by
    rw [hdisk]
    rfl
  obtain ⟨w, hstaged, hdisk', _⟩ :=
    exists_reaches_staged hrest hhidden (by decide : 4 ≤ videoModule.size)
  have hreaches := ReachesAlone.exclusively (hready.trans hstaged) fun j _ => not_holds_start j
  refine ⟨⟨w, hreaches, ?_, hwhole w hreaches⟩, hpart false true _ (by decide) rfl 4 (by decide)⟩
  rw [hdisk', hdisk]
  rfl

/-- Two runs of which one begins the hidden file anew when the other one is about to move it. A
reader finds an empty module. -/
theorem empty_while_shared :
    ∃ w, (start replacedDisk "out/youtube3.rs" twoModules).Reaches w ∧
      w.disk.read? "out/youtube3.rs" = some .empty ∧
      ¬ Disk.HoldsStill "out/youtube3.rs" replacedDisk w.disk ∧
      ∀ i, w.disk.read? "out/youtube3.rs" ≠ some (twoModules i) := by
  have hrun : run replacedDisk "out/youtube3.rs" (twoModules false) = (_, .ok ()) := rfl
  obtain ⟨w, hreaches, hread⟩ :=
    exists_reaches_part (by decide : false ≠ true) hrun (Nat.zero_le (twoModules true).size)
  rw [ByteArray.extract_same] at hread
  refine ⟨w, hreaches, hread, fun hstill => ?_, fun i hi => ?_⟩
  · have hseen := (hstill.seen_eq _ rfl).2
    rw [Disk.seen?, hread] at hseen
    split at hseen
    · exact absurd hseen (by decide)
    · exact absurd hseen (by decide)
  · rw [hread, Option.some.injEq] at hi
    cases i
    · exact absurd hi (by decide)
    · exact absurd hi (by decide)

end World

end ApiTypes
