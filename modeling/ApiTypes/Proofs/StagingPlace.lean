import ApiTypes.Proofs.PathWalk

/-!
Where the hidden file lies that new content goes to first. Its name is made of the last name of the
path, and longer than that, so it is never the file that it stands for.
-/
namespace ApiTypes
open ApiTypes.Path Text

variable {d : Disk} {path parent name last : String} {front : List String} {place p q : Place}

theorem Path.fileName?_of_split (hpath : split '/' path = front ++ [last])
    (hlast : isIdle last = false) (hup : last ≠ "..") : fileName? path = some last := by
  cases front with
  | nil => simp [fileName?, parts, hpath, trimIdle, hlast, hup]
  | cons first mid =>
    rw [List.cons_append] at hpath
    simp [fileName?, parts, hpath, trimIdle_concat hlast, hlast, hup]

theorem Path.not_mem_of_fileName? (h : fileName? path = some name) : '/' ∉ name.toList := by
  obtain ⟨first, rest, hpath⟩ := List.exists_cons_of_ne_nil (split_ne_nil '/' path)
  refine not_mem_of_mem_split (?_ : name ∈ split '/' path)
  simp only [fileName?, parts, hpath] at h
  split at h
  · cases h
  cases h
  rw [hpath]
  cases hlast : (trimIdle rest).getLast? with
  | none => exact List.mem_cons_self
  | some last =>
    have hmem := (prefix_trimIdle rest).subset (List.mem_of_getLast? hlast)
    exact List.mem_cons_of_mem first hmem

namespace Disk

/-- The file that a path may name is the last segment of the path in some directory. -/
theorem exists_of_filePlace? (h : d.filePlace? path = some place) :
    ∃ front dir name, split '/' path = front ++ [name] ∧ isIdle name = false ∧ name ≠ ".." ∧
      place = dir ++ [name] := by
  obtain ⟨dir, name, hlocate, rfl, _⟩ := exists_locate_of_filePlace? h
  cases leads_of_locate hlocate with
  | @child front tail _ _ _ hsplit _ _ hidle hup _ hslash =>
    obtain rfl : tail = [] := hslash rfl
    exact ⟨front, dir, name, hsplit, hidle, hup, rfl⟩

end Disk

namespace AtomicWrite

theorem stagingPath_eq (hname : fileName? path = some name) :
    stagingPath path = join ((parent? path).getD "") ("." ++ name ++ ".tmp") := by
  simp [stagingPath, withFileName, hname]

theorem not_mem_hiddenName (hslash : '/' ∉ name.toList) :
    '/' ∉ ("." ++ name ++ ".tmp").toList := by
  have hends : '/' ∉ ".".toList ∧ '/' ∉ ".tmp".toList := by decide
  simp only [String.toList_append, List.mem_append, not_or]
  exact ⟨⟨hends.1, hslash⟩, hends.2⟩

theorem exists_split_stagingPath (hname : fileName? path = some name) (hslash : '/' ∉ name.toList) :
    ∃ front, split '/' (stagingPath path) = front ++ ["." ++ name ++ ".tmp"] := by
  have hsplit : split '/' ("." ++ name ++ ".tmp") = [] ++ ["." ++ name ++ ".tmp"] :=
    split_of_not_mem (not_mem_hiddenName hslash)
  rw [stagingPath_eq hname]
  by_cases hdir : (parent? path).getD "" = ""
  · exact ⟨[], by simpa [join, hdir] using hsplit⟩
  · obtain ⟨front, _, hjoin⟩ := exists_split_join_concat hdir hsplit
    exact ⟨front, hjoin⟩

/-- The parents of a path are parents of the hidden file as well. -/
theorem names_stagingPath (hparent : parent? path = some parent) (hne : parent ≠ "") :
    isAbsolute (stagingPath path) = isAbsolute path ∧
      names parent <+: (names (stagingPath path)).dropLast := by
  obtain ⟨habsolute, hnames⟩ := names_parent? hparent
  have hidle : ∀ name : String, isIdle ("." ++ name ++ ".tmp") = false :=
    fun name => isIdle_append ("." ++ name) (by decide)
  cases hname : fileName? path with
  | some name =>
    have hslash := not_mem_hiddenName (not_mem_of_fileName? hname)
    obtain ⟨hjoin, hfront⟩ := names_join hne hslash (hidle name)
    rw [stagingPath_eq hname, hparent, Option.getD_some]
    exact ⟨hjoin.trans habsolute, hfront ▸ List.prefix_rfl⟩
  | none =>
    -- the hidden file of a path without a last name lies in the directory that the path names
    have hpath : path ≠ "" := by
      rintro rfl
      cases hparent
    have hslash : '/' ∉ ("." ++ "" ++ ".tmp").toList := not_mem_hiddenName (by decide)
    obtain ⟨hjoin, hfront⟩ := names_join hpath hslash (hidle "")
    have hstaging : stagingPath path = join path ("." ++ "" ++ ".tmp") := by
      simp [stagingPath, withFileName, hname]
    rw [hstaging, hfront, hnames]
    exact ⟨hjoin, List.dropLast_prefix _⟩

/-- The hidden file is another file than the one it stands for. -/
theorem ne_of_filePlace?_stagingPath (hp : d.filePlace? path = some p)
    (hq : d.filePlace? (stagingPath path) = some q) : p ≠ q := by
  obtain ⟨front, dir, name, hsplit, hidle, hup, rfl⟩ := Disk.exists_of_filePlace? hp
  obtain ⟨front', dir', name', hsplit', _, _, rfl⟩ := Disk.exists_of_filePlace? hq
  have hmem : name ∈ split '/' path := by simp [hsplit]
  obtain ⟨front'', hstaging⟩ :=
    exists_split_stagingPath (fileName?_of_split hsplit hidle hup) (not_mem_of_mem_split hmem)
  have hname' : name' = "." ++ name ++ ".tmp" :=
    List.singleton_inj.1 (List.append_inj_right' (hsplit'.symm.trans hstaging) rfl)
  intro heq
  have hname : name = name' := List.singleton_inj.1 (List.append_inj_right' heq rfl)
  have hlength := congrArg String.length (hname.trans hname')
  have hends : ".".length = 1 ∧ ".tmp".length = 4 := ⟨rfl, rfl⟩
  simp only [String.length_append] at hlength
  omega

end AtomicWrite

end ApiTypes
