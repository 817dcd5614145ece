import ApiTypes.Proofs.PathParent
import ApiTypes.Proofs.StoredFile

/-!
Where paths lead. A path is read by walking along its segments up to the last one that is not empty.
A path that leads somewhere has its directories on the way, so that none of its parents can be made.
-/
namespace ApiTypes

open ApiTypes.Path Text

variable {d after : Disk} {path parent a final : String} {front tail segments : List String}
  {place last : Place} {spot : Spot}

theorem Path.filter_blank (hblank : ∀ s ∈ segments, s = "") :
    segments.filter (!isIdle ·) = [] := by
  refine List.filter_eq_nil_iff.2 fun s hs => ?_
  obtain rfl := hblank s hs
  simp [isIdle]

theorem Path.names_of_split (hsplit : split '/' path = front ++ final :: tail)
    (hblank : ∀ s ∈ tail, s = "") :
    names path = front.filter (!isIdle ·) ++ [final].filter (!isIdle ·) := by
  rw [names, hsplit, List.filter_append, List.filter_cons, List.filter_cons, filter_blank hblank,
    List.filter_nil]

namespace Disk

/-- The directory from which a path is read. -/
def start (d : Disk) (path : String) : Place :=
  if isAbsolute path then [] else d.current

/-- How the segments of a path are read that leads somewhere. -/
inductive Leads (d : Disk) (path : String) : Spot → Prop
  | root (blank : ∀ s ∈ split '/' path, s = "") : Leads d path (.directory [])
  | directory {front tail : List String} {last : String} {place there : Place}
      (split_eq : split '/' path = front ++ last :: tail) (blank : ∀ s ∈ tail, s = "")
      (walk : front.foldlM d.walk (d.start path) = .ok place)
      (last_eq : last = "." ∧ there = place ∨ last = ".." ∧ there = place.dropLast) :
      Leads d path (.directory there)
  | child {front tail : List String} {name : String} {place : Place} {slash : Bool}
      (split_eq : split '/' path = front ++ name :: tail) (blank : ∀ s ∈ tail, s = "")
      (walk : front.foldlM d.walk (d.start path) = .ok place) (idle : isIdle name = false)
      (up : name ≠ "..") (fits : name.utf8ByteSize ≤ nameLimit)
      (slash_eq : slash = false → tail = []) : Leads d path (.child place name slash)

/-- Segments that say nothing do not change where a walk leads. -/
theorem foldlM_walk_filter {p : String → Bool} (hp : ∀ s, p s = false → isIdle s = true)
    (d : Disk) (place : Place) (segments : List String) :
    (segments.filter p).foldlM d.walk place = segments.foldlM d.walk place := by
  induction segments generalizing place with
  | nil => rfl
  | cons s segments ih =>
    cases hs : p s with
    | true =>
      simp only [List.filter_cons, hs, if_true, List.foldlM_cons]
      exact bind_congr fun next => ih next
    | false =>
      have hwalk : d.walk place s = .ok place := if_pos (hp s hs)
      simp only [List.filter_cons, hs, Bool.false_eq_true, if_false, List.foldlM_cons, hwalk]
      exact ih place

theorem leads_of_locate (h : d.locate path = .ok spot) : d.Leads path spot := by
  unfold locate at h
  by_cases hempty : path.isEmpty
  · rw [if_pos hempty] at h
    cases h
  by_cases hpath : path.toList.contains '\x00' || pathLimit ≤ path.utf8ByteSize
  · rw [if_neg hempty, if_pos hpath] at h
    cases h
  cases hlast : ((split '/' path).filter (· != "")).getLast? with
  | none =>
    simp only [hempty, hpath, hlast] at h
    cases h
    refine .root fun s hs => ?_
    simpa using List.filter_eq_nil_iff.1 (List.getLast?_eq_none_iff.1 hlast) s hs
  | some last =>
  simp only [hempty, hpath, hlast] at h
  obtain ⟨named, hnamed⟩ := List.getLast?_eq_some_iff.1 hlast
  obtain ⟨front, rest, hsplit, rfl, hrest⟩ := List.filter_eq_append_iff.1 hnamed
  obtain ⟨blanks, tail, rfl, hblanks, hne, htail⟩ := List.filter_eq_cons_iff.1 hrest
  rw [← List.append_assoc] at hsplit
  have hblank : ∀ s ∈ tail, s = "" := by simpa [List.filter_eq_nil_iff] using htail
  obtain ⟨place, hwalk, h⟩ := Outcome.bind_ok_iff.1 h
  have hwalk : (front ++ blanks).foldlM d.walk (d.start path) = .ok place := by
    have hnames : ((split '/' path).filter (· != "")).dropLast =
        (front ++ blanks).filter (· != "") := by
      rw [hnamed, List.dropLast_concat, List.filter_append]
      simpa using hblanks
    rw [hnames, foldlM_walk_filter (by simp [isIdle])] at hwalk
    exact hwalk
  have hlast_ne : last ≠ "" := by simpa using hne
  split at h
  · next hdot =>
    cases h
    exact .directory hsplit hblank hwalk (Or.inl ⟨hdot, rfl⟩)
  next hdot =>
  split at h
  · next hup =>
    cases h
    exact .directory hsplit hblank hwalk (Or.inr ⟨hup, rfl⟩)
  next hup =>
  split at h
  · cases h
  next hfits =>
  cases h
  refine .child hsplit hblank hwalk (by simp [isIdle, hlast_ne, hdot]) hup (by omega) ?_
  intro hslash
  rcases List.eq_nil_or_concat' tail with rfl | ⟨tail, final, rfl⟩
  · rfl
  · obtain rfl : final = "" := hblank final (by simp)
    rw [← List.cons_append, ← List.append_assoc] at hsplit
    rw [hsplit, List.getLast?_concat] at hslash
    simp at hslash

theorem exists_foldlM_of_prefix (hfront : front <+: segments)
    (h : segments.foldlM d.walk place = .ok last) :
    ∃ between, front.foldlM d.walk place = .ok between := by
  obtain ⟨rest, rfl⟩ := hfront
  rw [List.foldlM_append] at h
  obtain ⟨between, hbetween, _⟩ := Outcome.bind_ok_iff.1 h
  exact ⟨between, hbetween⟩

/-- Where a path leads somewhere, all its names but the last are those of directories. -/
theorem exists_walk_of_locate (h : d.locate path = .ok spot)
    (hfront : front <+: (names path).dropLast) :
    ∃ place, front.foldlM d.walk (d.start path) = .ok place := by
  -- the segments that are walked have all the names of the path but for the last one
  have hwalked : ∀ {walked tail : List String} {final : String} {place : Place},
      split '/' path = walked ++ final :: tail → (∀ s ∈ tail, s = "") →
      walked.foldlM d.walk (d.start path) = .ok place →
      ∃ place, front.foldlM d.walk (d.start path) = .ok place := by
    intro walked tail final place hsplit hblank hwalk
    rw [← foldlM_walk_filter (p := (!isIdle ·)) (by simp)] at hwalk
    refine exists_foldlM_of_prefix (hfront.trans ?_) hwalk
    rw [names_of_split hsplit hblank]
    cases hfinal : isIdle final <;> simp [hfinal, List.dropLast_prefix]
  cases leads_of_locate h with
  | root hblank =>
    rw [names, filter_blank hblank] at hfront
    obtain rfl : front = [] := List.prefix_nil.1 hfront
    exact ⟨d.start path, rfl⟩
  | directory hsplit hblank hwalk _ => exact hwalked hsplit hblank hwalk
  | child hsplit hblank hwalk _ _ _ _ => exact hwalked hsplit hblank hwalk

/-- A directory cannot be made where a walk has gone through. -/
theorem makeDirectory_ne_ok_of_walk (h : (names path).foldlM d.walk (d.start path) = .ok last) :
    d.makeDirectory path ≠ .ok after := by
  intro hmade
  obtain ⟨place, name, slash, hlocate, hnone, _⟩ := exists_of_makeDirectory hmade
  cases leads_of_locate hlocate with
  | @child front tail _ _ _ hsplit hblank hwalk hidle hup hfits _ =>
  have hname : [name].filter (!isIdle ·) = [name] := by simp [hidle]
  have hmissing : d.walk place name = .error .missing := by
    simp [walk, hidle, hup, Nat.not_lt.2 hfits, hnone]
  rw [names_of_split hsplit hblank, hname, List.foldlM_append, foldlM_walk_filter (by simp),
    hwalk] at h
  obtain ⟨_, hplace, hnext⟩ := Outcome.bind_ok_iff.1 h
  cases hplace
  simp [hmissing, bind, Except.bind] at hnext

/-- Where a path leads somewhere, no directory is missing that has but the first of its names. -/
theorem makeDirectory_ne_ok_of_names (h : d.locate path = .ok spot)
    (habsolute : isAbsolute a = isAbsolute path) (hnames : names a <+: (names path).dropLast) :
    d.makeDirectory a ≠ .ok after := by
  obtain ⟨place, hwalk⟩ := exists_walk_of_locate h hnames
  have hstart : d.start a = d.start path := by rw [start, habsolute, start]
  rw [← hstart] at hwalk
  exact makeDirectory_ne_ok_of_walk hwalk

/-- Where a path leads somewhere, none of its parents is missing. -/
theorem makeDirectory_ne_ok_of_locate (h : d.locate path = .ok spot)
    (hparent : parent? path = some parent) (ha : a ∈ ancestors parent) :
    d.makeDirectory a ≠ .ok after := by
  obtain ⟨habsolute, hnames⟩ := names_parent? hparent
  obtain ⟨habsolute', hprefix⟩ := names_of_mem_ancestors ha
  rw [hnames] at hprefix
  exact makeDirectory_ne_ok_of_names h (habsolute'.trans habsolute) hprefix

end Disk

end ApiTypes
