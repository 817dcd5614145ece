import Mathlib.Data.List.Basic
import Mathlib.Data.List.DropRight
import ApiTypes.Storage.AtomicWrite

/-!
Which paths lie directly in a directory. A file whose name is joined to a directory does so when the
name has no directories of its own.
-/
namespace ApiTypes.Path
open Text

/-- The segments of a path that say something. -/
def names (path : String) : List String :=
  (split '/' path).filter (!isIdle ·)

/-- What a path says: whether it begins at the root, its first segment, and its names. Paths that
say the same are equal, however many slashes and dots stand in them. -/
def reading (path : String) : Bool × Option String × List String :=
  (isAbsolute path, (split '/' path).head?, names path)

/-- The parent of the path is this directory. -/
def IsChildOf (path dir : String) : Prop :=
  ∃ parent, parent? path = some parent ∧ reading parent = reading dir

instance (path dir : String) : Decidable (IsChildOf path dir) :=
  match h : parent? path with
  | none => isFalse fun ⟨_, hparent, _⟩ => by simp [h] at hparent
  | some parent => decidable_of_iff (reading parent = reading dir) (by simp [IsChildOf, h])

variable {path dir relative name parent a first last : String}
  {front mid rest segments : List String}

theorem IsChildOf.congr (h : IsChildOf path parent) (hdir : reading parent = reading dir) :
    IsChildOf path dir := by
  obtain ⟨p, hp, hreading⟩ := h
  exact ⟨p, hp, hreading.trans hdir⟩

theorem isAbsolute_of_not_mem (h : '/' ∉ path.toList) : isAbsolute path = false := by
  unfold isAbsolute
  cases hpath : path.toList with
  | nil => rfl
  | cons c rest =>
    rw [hpath, List.mem_cons, not_or] at h
    simp [Ne.symm h.1]

theorem split_append_slash (a b : String) :
    split '/' (a ++ "/" ++ b) = split '/' a ++ split '/' b :=
  split_append_mark rfl a b

/-- An ending without slashes belongs to the last segment. -/
theorem exists_split_append (name : String) {ending : String} (h : '/' ∉ ending.toList) :
    ∃ last, split '/' (name ++ ending) = (split '/' name).dropLast ++ [last ++ ending] := by
  obtain ⟨front, last, first, rest, hname, hending, happend⟩ :=
    exists_pieces_append '/' name.toList ending.toList
  rw [pieces_of_not_mem h] at hending
  cases hending
  refine ⟨String.ofList last, ?_⟩
  rw [split, split, String.toList_append, happend, hname]
  simp [String.ofList_append]

/-- A path of several segments begins at the root when the first of them is empty. -/
theorem isAbsolute_of_split (h : split '/' path = first :: rest) (hrest : rest ≠ []) :
    isAbsolute path = decide (first = "") := by
  unfold split at h
  unfold isAbsolute
  cases hpath : path.toList with
  | nil =>
    rw [hpath, pieces, List.map_singleton, List.cons.injEq] at h
    exact absurd h.2.symm hrest
  | cons c cs =>
    obtain ⟨p, ps, hp⟩ := List.exists_cons_of_ne_nil (pieces_ne_nil '/' cs)
    by_cases hc : c = '/'
    · rw [hpath, pieces, if_pos hc, List.map_cons, List.cons.injEq] at h
      rw [hc, ← h.1]
      rfl
    · rw [hpath, pieces, if_neg hc, hp, List.map_cons, List.cons.injEq] at h
      have hfirst : first ≠ "" := by
        rintro rfl
        simpa using congrArg String.toList h.1
      simp [hc, hfirst]

theorem exists_split_of_isAbsolute (h : isAbsolute path = true) :
    ∃ second rest, split '/' path = "" :: second :: rest := by
  unfold isAbsolute at h
  unfold split
  cases hpath : path.toList with
  | nil => simp [hpath] at h
  | cons c rest =>
    rw [hpath] at h
    obtain rfl : c = '/' := by simpa using h
    obtain ⟨p, ps, hp⟩ := List.exists_cons_of_ne_nil (pieces_ne_nil '/' rest)
    exact ⟨String.ofList p, ps.map String.ofList, by simp [pieces, hp]⟩

theorem filter_trimIdle (segments : List String) :
    (trimIdle segments).filter (!isIdle ·) = segments.filter (!isIdle ·) := by
  have hdrop (l : List String) :
      (l.dropWhile isIdle).filter (!isIdle ·) = l.filter (!isIdle ·) := by
    induction l with
    | nil => rfl
    | cons s l ih =>
      cases hs : isIdle s with
      | true => simpa [hs] using ih
      | false => simp [hs]
  rw [trimIdle, List.filter_reverse, hdrop, List.filter_reverse, List.reverse_reverse]

theorem trimIdle_concat (h : isIdle last = false) (mid : List String) :
    trimIdle (mid ++ [last]) = mid ++ [last] := by
  simp [trimIdle, h]

theorem prefix_trimIdle (segments : List String) : trimIdle segments <+: segments :=
  List.rdropWhile_prefix isIdle segments

/-- A segment with a long enough ending is a name. -/
theorem isIdle_append (s : String) {ending : String} (h : 1 < ending.length) :
    isIdle (s ++ ending) = false := by
  have hlength : (s ++ ending).length = s.length + ending.length :=
    String.length_append s ending
  have hempty : s ++ ending ≠ "" := by
    intro heq
    have : (s ++ ending).length = 0 := by rw [heq]; rfl
    omega
  have hdot : s ++ ending ≠ "." := by
    intro heq
    have : (s ++ ending).length = 1 := by rw [heq]; rfl
    omega
  simp [isIdle, hempty, hdot]

theorem parent?_of_split (hpath : split '/' path = first :: mid ++ [last])
    (hlast : isIdle last = false) :
    parent? path = some (ofParts (isAbsolute path) first (trimIdle mid)) := by
  rw [List.cons_append] at hpath
  simp [parent?, parts, hpath, trimIdle_concat hlast]

/-- What a path says that is made of the first segments of another one. -/
theorem reading_ofParts (hpath : split '/' path = first :: rest) (hrest : rest ≠ [])
    (hmid : mid ⊆ rest) :
    reading (ofParts (isAbsolute path) first (trimIdle mid)) =
      (isAbsolute path, some first, (first :: mid).filter (!isIdle ·)) := by
  have habsolute := isAbsolute_of_split hpath hrest
  have hsegments : ∀ s ∈ first :: mid, '/' ∉ s.toList := fun s hs =>
    not_mem_of_mem_split (hpath ▸ List.cons_subset_cons first hmid hs)
  have hnames : (first :: mid).filter (!isIdle ·) =
      (first :: trimIdle mid).filter (!isIdle ·) := by
    simp only [List.filter_cons, filter_trimIdle]
  rw [hnames]
  -- a parent of one segment is written without a slash behind it, unless it is the root
  cases htrim : trimIdle mid with
  | nil =>
    by_cases hfirst : first = ""
    · subst hfirst
      rw [habsolute]
      rfl
    · have hsplit := split_of_not_mem (hsegments first List.mem_cons_self)
      have hrelative := isAbsolute_of_not_mem (hsegments first List.mem_cons_self)
      simp [habsolute, hfirst, ofParts, reading, names, hsplit, hrelative]
  | cons second segments =>
    have hsplit : split '/' ("/".intercalate (first :: second :: segments)) =
        first :: second :: segments := by
      refine split_intercalate rfl (List.cons_ne_nil _ _) fun s hs => hsegments s ?_
      rw [← htrim] at hs
      exact List.cons_subset_cons first (prefix_trimIdle mid).subset hs
    have hpaths : isAbsolute ("/".intercalate (first :: second :: segments)) = isAbsolute path :=
      (isAbsolute_of_split hsplit (by simp)).trans habsolute.symm
    rw [ofParts, if_neg (by simp), reading, names, hsplit, hpaths, List.head?_cons]

/-- The parent has the names of the path but the last. -/
theorem names_parent? (h : parent? path = some parent) :
    isAbsolute parent = isAbsolute path ∧ names parent = (names path).dropLast := by
  obtain ⟨first, rest, hpath⟩ := List.exists_cons_of_ne_nil (split_ne_nil '/' path)
  have hnames : names path = (first :: trimIdle rest).filter (!isIdle ·) := by
    simp only [names, hpath, List.filter_cons, filter_trimIdle]
  simp only [parent?, parts, hpath] at h
  rw [hnames]
  split at h
  · next htrim =>
    -- a single name lies in the directory that the empty path stands for
    split at h
    · cases h
    next habsolute =>
    cases h
    have hroot : isAbsolute path = false := by simp_all
    refine ⟨hroot.symm, ?_⟩
    rw [List.isEmpty_iff.1 htrim]
    have hempty : names "" = [] := rfl
    cases hfirst : isIdle first <;> simp [hfirst, hempty]
  · next htrim =>
    cases h
    rw [List.isEmpty_iff] at htrim
    obtain ⟨mid, last, hmid⟩ := (List.eq_nil_or_concat' (trimIdle rest)).resolve_left htrim
    have hprefix := prefix_trimIdle rest
    have hlast : isIdle last = false := by
      have hnot := List.rdropWhile_last_not isIdle rest htrim
      change ¬ isIdle ((trimIdle rest).getLast htrim) = true at hnot
      simpa [hmid] using hnot
    have hsubset : mid ⊆ rest := fun s hs => hprefix.subset (hmid ▸ List.mem_append_left _ hs)
    have hrest : rest ≠ [] := fun hnil => htrim (by simp [hnil, trimIdle])
    have hreading := reading_ofParts hpath hrest hsubset
    rw [hmid, List.dropLast_concat]
    refine ⟨congrArg (·.1) hreading, (congrArg (·.2.2) hreading).trans ?_⟩
    rw [← List.cons_append, List.filter_append]
    simp [hlast]

/-- The names of every parent are first names of the path. -/
theorem names_of_mem_ancestors (h : a ∈ ancestors path) :
    isAbsolute a = isAbsolute path ∧ names a <+: names path := by
  have hgo : ∀ n path, a ∈ ancestors.go n path →
      isAbsolute a = isAbsolute path ∧ names a <+: names path := by
    intro n
    induction n with
    | zero =>
      intro path ha
      obtain rfl := List.mem_singleton.1 ha
      exact ⟨rfl, List.prefix_rfl⟩
    | succ n ih =>
      intro path ha
      rw [ancestors.go] at ha
      rcases List.mem_cons.1 ha with rfl | ha
      · exact ⟨rfl, List.prefix_rfl⟩
      split at ha
      · next parent hparent =>
        obtain ⟨habsolute, hnames⟩ := names_parent? hparent
        obtain ⟨habsolute', hprefix⟩ := ih parent ha
        rw [hnames] at hprefix
        exact ⟨habsolute'.trans habsolute, hprefix.trans (List.dropLast_prefix _)⟩
      · cases ha
  exact hgo path.length path h

/-- A path lies in the directory that the segments before its last one spell. -/
theorem isChildOf_iff (hpath : split '/' path = front ++ [last]) (hfront : front ≠ [])
    (hlast : isIdle last = false) :
    IsChildOf path dir ↔
      (isAbsolute path, front.head?, front.filter (!isIdle ·)) = reading dir := by
  obtain ⟨first, mid, rfl⟩ := List.exists_cons_of_ne_nil hfront
  have hparent := parent?_of_split hpath hlast
  rw [List.cons_append] at hpath
  have hreading := reading_ofParts hpath (by simp) (List.subset_append_left mid [last])
  rw [List.head?_cons, ← hreading, IsChildOf, hparent]
  simp

example : IsChildOf "out/.//youtube3.rs" "out/" ∧ ¬ IsChildOf "out/../evil.rs" "out" := by decide

/-- A path of several segments has a parent with a name. -/
theorem parent?_ne_empty (hpath : split '/' path = front ++ [last]) (hfront : front ≠ [])
    (hlast : isIdle last = false) (hparent : parent? path = some parent) : parent ≠ "" := by
  rintro rfl
  have hreading := (isChildOf_iff hpath hfront hlast).1 ⟨"", hparent, rfl⟩
  obtain ⟨first, mid, rfl⟩ := List.exists_cons_of_ne_nil hfront
  rw [List.cons_append] at hpath
  rw [isAbsolute_of_split hpath (by simp)] at hreading
  have hroot : decide (first = "") = false := congrArg (·.1) hreading
  have hfirst : some first = some "" := congrArg (·.2.1) hreading
  exact of_decide_eq_false hroot (Option.some.inj hfirst)

/-- The segments of a joined path are those of the directory, less the empty one behind a slash at
its end, and then those of the other path. -/
theorem exists_split_join (hdir : dir ≠ "") (hrelative : isAbsolute relative = false) :
    ∃ front, front ≠ [] ∧ split '/' (join dir relative) = front ++ split '/' relative ∧
      (isAbsolute (join dir relative), front.head?, front.filter (!isIdle ·)) = reading dir := by
  have habsolute : ∀ rest : String, isAbsolute (dir ++ rest) = isAbsolute dir := by
    intro rest
    have hchars : dir.toList ≠ [] := by simpa using hdir
    obtain ⟨c, cs, hcs⟩ := List.exists_cons_of_ne_nil hchars
    simp [isAbsolute, hcs]
  by_cases hslash : dir.toList.getLast? = some '/'
  · obtain ⟨base, hbase⟩ := List.getLast?_eq_some_iff.1 hslash
    obtain rfl : dir = String.ofList base ++ "/" := by
      apply String.ext
      simpa using hbase
    have hjoin : join (String.ofList base ++ "/") relative =
        String.ofList base ++ "/" ++ relative := by
      simp [join, hrelative]
    have hend : split '/' (String.ofList base ++ "/") = split '/' (String.ofList base) ++ [""] := by
      have happend := split_append_slash (String.ofList base) ""
      rwa [String.append_empty] at happend
    refine ⟨split '/' (String.ofList base), split_ne_nil '/' _, ?_, ?_⟩
    · rw [hjoin, split_append_slash]
    · rw [hjoin, habsolute, reading, names, hend, List.head?_append_of_ne_nil _ (split_ne_nil '/' _)]
      simp [isIdle]
  · have hjoin : join dir relative = dir ++ "/" ++ relative := by
      simp [join, hrelative, hdir, hslash]
    refine ⟨split '/' dir, split_ne_nil '/' _, ?_, ?_⟩
    · rw [hjoin, split_append_slash]
    · rw [hjoin, String.append_assoc, habsolute, reading, names]

/-- A name that is joined to a directory is the last name of the path. -/
theorem names_join (hdir : dir ≠ "") (hname : '/' ∉ name.toList) (hidle : isIdle name = false) :
    isAbsolute (join dir name) = isAbsolute dir ∧ (names (join dir name)).dropLast = names dir := by
  obtain ⟨front, _, hsplit, hreading⟩ := exists_split_join hdir (isAbsolute_of_not_mem hname)
  have hlast : [name].filter (!isIdle ·) = [name] := by simp [hidle]
  refine ⟨congrArg (·.1) hreading, ?_⟩
  rw [names, hsplit, split_of_not_mem hname, List.filter_append, hlast, List.dropLast_concat]
  exact congrArg (·.2.2) hreading

theorem exists_split_join_concat (hdir : dir ≠ "") (hsplit : split '/' relative = front ++ [last]) :
    ∃ front, front ≠ [] ∧ split '/' (join dir relative) = front ++ [last] := by
  by_cases hroot : isAbsolute relative = true
  · have hjoin : join dir relative = relative := by simp [join, hroot]
    obtain ⟨second, rest, hsegments⟩ := exists_split_of_isAbsolute hroot
    refine ⟨front, ?_, hjoin.symm ▸ hsplit⟩
    rintro rfl
    rw [hsplit] at hsegments
    cases hsegments
  · obtain ⟨base, hbase, hjoin, _⟩ := exists_split_join hdir ((Bool.not_eq_true _).mp hroot)
    rw [hsplit, ← List.append_assoc] at hjoin
    exact ⟨base ++ front, by simp [hbase], hjoin⟩

/-- A relative path, seen from a directory, lies directly in it when all but the last of its
segments are idle. -/
theorem isChildOf_join_iff (hdir : dir ≠ "") (hrelative : isAbsolute relative = false)
    (hsplit : split '/' relative = front ++ [last]) (hlast : isIdle last = false) :
    IsChildOf (join dir relative) dir ↔ ∀ s ∈ front, isIdle s = true := by
  obtain ⟨base, hbase, hjoin, hreading⟩ := exists_split_join hdir hrelative
  rw [hsplit, ← List.append_assoc] at hjoin
  have hne : base ++ front ≠ [] := by simp [hbase]
  rw [isChildOf_iff hjoin hne hlast, ← hreading, List.head?_append_of_ne_nil _ hbase,
    List.filter_append]
  simp [List.filter_eq_nil_iff]

theorem isChildOf_join (hdir : dir ≠ "") (hname : '/' ∉ name.toList)
    (hidle : isIdle name = false) : IsChildOf (join dir name) dir := by
  have hsplit : split '/' name = [] ++ [name] := split_of_not_mem hname
  rw [isChildOf_join_iff hdir (isAbsolute_of_not_mem hname) hsplit hidle]
  simp

/-- A name that has no directories of its own; one that begins at the root may repeat the
directory. -/
def StaysIn (dir name : String) : Prop :=
  if isAbsolute name then
    isAbsolute dir = true ∧ (split '/' name).dropLast.filter (!isIdle ·) = names dir
  else ∀ s ∈ (split '/' name).dropLast, isIdle s = true

instance (dir name : String) : Decidable (StaysIn dir name) :=
  inferInstanceAs (Decidable (ite ..))

/-- A name without slashes stays in every directory. -/
theorem staysIn_of_not_mem (dir : String) (h : '/' ∉ name.toList) : StaysIn dir name := by
  have hrelative : ¬ isAbsolute name = true := by simp [isAbsolute_of_not_mem h]
  rw [StaysIn, if_neg hrelative, split_of_not_mem h]
  simp

end ApiTypes.Path
