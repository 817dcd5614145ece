import ApiTypes.Document.Encode
import ApiTypes.Proofs.LoadedDocument

/-!
The notice above the code of a module. It names the document in a line comment, and takes the name
and the version as they are: a line feed in one of them ends the comment, and what follows it stands
in the file as code.
-/
namespace ApiTypes
open Text

/-- The line holds no code: it is empty or a comment. -/
def IsRemark (line : List Char) : Prop :=
  line = [] ∨ ['/', '/'] <+: line

instance (line : List Char) : Decidable (IsRemark line) :=
  inferInstanceAs (Decidable (_ ∨ _))

/-- A remark that is no documentation, which readers of code keep. -/
def IsPlainRemark (line : List Char) : Prop :=
  IsRemark line ∧ Ident.isDocLine (line.drop 2) = false

instance (line : List Char) : Decidable (IsPlainRemark line) :=
  inferInstanceAs (Decidable (_ ∧ _))

/-- The text may stand in a comment that goes on behind it. Lines after the first must be remarks,
and the last of them must have begun a comment. -/
def FitsRemark (text : List Char) : Prop :=
  (∀ line ∈ (pieces '\n' text).tail, IsRemark line) ∧ (pieces '\n' text).tail.getLast? ≠ some []

variable {d : Document} {line text : List Char} {rest : List Char}

/-- Before a backquote, only a comment is no code. -/
theorem isRemark_append_backquote :
    IsRemark (line ++ '`' :: rest) ↔ IsRemark line ∧ line ≠ [] := by
  unfold IsRemark
  match line with
  | [] => simp
  | [c] => simp
  | c :: c' :: line => simp

/-- The lines that begin in a text and in what follows it are remarks when the text fits and the
lines that begin behind it are. -/
theorem forall_tail_pieces_iff :
    (∀ line ∈ (pieces '\n' (text ++ '`' :: rest)).tail, IsRemark line) ↔
      FitsRemark text ∧ ∀ line ∈ (pieces '\n' rest).tail, IsRemark line := by
  obtain ⟨front, last, first, more, htext, hrest, happend⟩ :=
    exists_pieces_append '\n' text ('`' :: rest)
  obtain ⟨first, rfl, htail⟩ : ∃ first', first = '`' :: first' ∧ more = (pieces '\n' rest).tail := by
    obtain ⟨p, ps, hp⟩ := List.exists_cons_of_ne_nil (pieces_ne_nil '\n' rest)
    rw [pieces, if_neg (by decide), hp] at hrest
    cases hrest
    exact ⟨p, rfl, by rw [hp, List.tail_cons]⟩
  rw [happend, ← htail, FitsRemark, htext]
  cases front with
  | nil => simp
  | cons p front =>
    simp only [List.cons_append, List.tail_cons, List.forall_mem_append, List.forall_mem_cons,
      isRemark_append_backquote, List.getLast?_append, List.getLast?_singleton]
    simp [and_assoc]

/-- A text without line feeds goes on in the first line of what follows it. -/
theorem exists_pieces_append_of_not_mem (h : '\n' ∉ text) (rest : List Char) :
    ∃ first, pieces '\n' (text ++ rest) = (text ++ first) :: (pieces '\n' rest).tail := by
  obtain ⟨front, last, first, more, htext, hrest, happend⟩ := exists_pieces_append '\n' text rest
  rw [pieces_of_not_mem h] at htext
  cases front with
  | nil =>
    cases htext
    exact ⟨first, by rw [happend, hrest, List.nil_append, List.tail_cons]⟩
  | cons p front => simp at htext

/-- A text that ends its last line is the sum of its lines. -/
theorem flatMap_pieces (sep : Char) (text : List Char) :
    (pieces sep text).flatMap (· ++ [sep]) = text ++ [sep] := by
  induction text with
  | nil => rfl
  | cons c text ih =>
    by_cases hc : c = sep
    · simp [pieces, hc, ih]
    · obtain ⟨p, ps, hp⟩ := List.exists_cons_of_ne_nil (pieces_ne_nil sep text)
      rw [hp] at ih
      simpa [pieces, hc, hp] using ih

theorem lines_append_newline (text : List Char) : lines (text ++ ['\n']) = pieces '\n' text := by
  rw [lines, pieces_append_sep_cons]
  simp [pieces]

namespace Ident

/-- A comment ends with its line. -/
theorem skipGap_line (h : '\n' ∉ line) :
    skipGap .line (line ++ '\n' :: rest) = skipGap .outside rest := by
  induction line with
  | nil => rw [List.nil_append, skipGap_line_cons, if_pos rfl]
  | cons c line ih =>
    simp only [List.mem_cons, not_or] at h
    rw [List.cons_append, skipGap_line_cons, if_neg (Ne.symm h.1), ih h.2]

theorem isDocLine_append : isDocLine (line ++ '\n' :: rest) = isDocLine line := by
  match line with
  | [] => rfl
  | c :: line =>
    by_cases hbang : c = '!'
    · rw [hbang]
      rfl
    by_cases hslash : c = '/'
    · subst hslash
      match line with
      | [] => rfl
      | c' :: line =>
        by_cases hslash' : c' = '/'
        · rw [hslash']
          rfl
        · simp [isDocLine, hslash']
    · simp [isDocLine, hbang, hslash]

/-- A remark is skipped, unless it is documentation. -/
theorem skipGap_remark (hline : '\n' ∉ line) (h : IsPlainRemark line) :
    skipGap .outside (line ++ '\n' :: rest) = skipGap .outside rest := by
  obtain ⟨rfl | ⟨comment, rfl⟩, hdoc⟩ := h
  · exact skipGap_newline rest
  · simp only [List.mem_append, not_or] at hline
    have hcomment : isDocLine (comment ++ '\n' :: rest) = false := isDocLine_append.trans hdoc
    simp only [List.cons_append, List.nil_append, skipGap_comment, hcomment, Bool.false_eq_true,
      if_false, skipGap_line hline.2]

theorem skipGap_remarks {lines : List (List Char)} (hlines : ∀ line ∈ lines, '\n' ∉ line)
    (h : ∀ line ∈ lines, IsPlainRemark line) :
    skipGap .outside (lines.flatMap (· ++ ['\n']) ++ rest) = skipGap .outside rest := by
  induction lines with
  | nil => rfl
  | cons line lines ih =>
    obtain ⟨hline, hlines⟩ := List.forall_mem_cons.1 hlines
    obtain ⟨hremark, h⟩ := List.forall_mem_cons.1 h
    simp only [List.flatMap_cons, List.append_assoc, List.cons_append, List.nil_append,
      skipGap_remark hline hremark, ih hlines h]

end Ident

namespace SourceModule

/-- The first line of the notice. -/
def noticeHead : String :=
  "// This code was automatically generated by discogen-gen. Do not edit manually."

/-- The line of the notice that names the document. -/
def noticeSource (d : Document) : String :=
  "// Source: the `" ++ d.name ++ "` `" ++ d.version ++ "` discovery document."

/-- The notice ends in a line feed of its own. -/
theorem toList_notice (d : Document) :
    (notice d).toList =
      (noticeHead.toList ++ '\n' :: ((noticeSource d).toList ++ ['\n'])) ++ ['\n'] := by
  have hnewline : "\n".toList = ['\n'] := rfl
  have hhead : "// This code was automatically generated by discogen-gen. Do not edit manually.\n" =
      noticeHead ++ "\n" := rfl
  have hending : "` discovery document.\n\n" = "` discovery document." ++ "\n" ++ "\n" := rfl
  unfold notice noticeSource
  rw [hhead, hending]
  simp only [String.toList_append, hnewline, List.append_assoc, List.cons_append, List.nil_append]

theorem lines_notice (d : Document) :
    lines (notice d).toList = noticeHead.toList :: pieces '\n' (noticeSource d).toList ++ [[]] := by
  have hhead : pieces '\n' noticeHead.toList = [noticeHead.toList] :=
    pieces_of_not_mem (by decide +kernel)
  rw [toList_notice, lines_append_newline, pieces_append_sep_cons, pieces_append_sep_cons, hhead]
  rfl

theorem toList_noticeSource (d : Document) :
    (noticeSource d).toList = "// Source: the `".toList ++ (d.name.toList ++ '`' ::
      (" `".toList ++ (d.version.toList ++ '`' :: " discovery document.".toList))) := by
  have hmiddle : "` `".toList = '`' :: " `".toList := rfl
  have hending : "` discovery document.".toList = '`' :: " discovery document.".toList := rfl
  unfold noticeSource
  simp only [String.toList_append, hmiddle, hending, List.append_assoc, List.cons_append]

/-- What stands around the name and the version in their line begins no other line. -/
theorem not_mem_frame :
    '\n' ∉ "// Source: the `".toList ∧ '\n' ∉ " `".toList ∧
      '\n' ∉ " discovery document.".toList := by
  decide +kernel

theorem forall_noticeSource_iff (d : Document) :
    (∀ line ∈ pieces '\n' (noticeSource d).toList, IsRemark line) ↔
      FitsRemark d.name.toList ∧ FitsRemark d.version.toList := by
  obtain ⟨hstart, hgap, hend⟩ := not_mem_frame
  obtain ⟨first, hopening⟩ := exists_pieces_append_of_not_mem hstart (d.name.toList ++ '`' ::
    (" `".toList ++ (d.version.toList ++ '`' :: " discovery document.".toList)))
  have hfirst : IsRemark ("// Source: the `".toList ++ first) := Or.inr ⟨_, rfl⟩
  obtain ⟨second, hsecond⟩ := exists_pieces_append_of_not_mem hgap
    (d.version.toList ++ '`' :: " discovery document.".toList)
  rw [toList_noticeSource, hopening, List.forall_mem_cons, and_iff_right hfirst,
    forall_tail_pieces_iff, hsecond, List.tail_cons, forall_tail_pieces_iff, pieces_of_not_mem hend]
  simp

theorem pieces_fileText (m : SourceModule) (d : Document) :
    pieces '\n' (m.fileText d).toList = lines (notice d).toList ++ pieces '\n' m.render.toList := by
  rw [fileText, String.toList_append, toList_notice, lines_append_newline, List.append_assoc,
    List.singleton_append, pieces_append_sep_cons]

theorem flatMap_lines_notice (d : Document) :
    (lines (notice d).toList).flatMap (· ++ ['\n']) = (notice d).toList := by
  rw [toList_notice, lines_append_newline, flatMap_pieces]

theorem not_mem_lines_notice (h : line ∈ lines (notice d).toList) : '\n' ∉ line := by
  rw [toList_notice, lines_append_newline] at h
  exact not_mem_pieces h

theorem isPlainRemark_of_mem_lines_notice (hname : '\n' ∉ d.name.toList)
    (hversion : '\n' ∉ d.version.toList) (h : line ∈ lines (notice d).toList) :
    IsPlainRemark line := by
  have hopening : "// Source: the `".toList = '/' :: '/' :: ' ' :: "Source: the `".toList := rfl
  have hsource : pieces '\n' (noticeSource d).toList = [(noticeSource d).toList] := by
    obtain ⟨hstart, hgap, hend⟩ := not_mem_frame
    have hquote : '\n' ≠ '`' := by decide
    apply pieces_of_not_mem
    rw [toList_noticeSource]
    simp only [List.mem_append, List.mem_cons, not_or]
    exact ⟨hstart, hname, hquote, hgap, hversion, hquote, hend⟩
  rw [lines_notice, hsource] at h
  simp only [List.cons_append, List.nil_append, List.mem_cons, List.not_mem_nil, or_false] at h
  rcases h with rfl | rfl | rfl
  · decide +kernel
  · rw [toList_noticeSource, hopening, List.cons_append, List.cons_append, List.cons_append]
    exact ⟨Or.inr ⟨_, rfl⟩, rfl⟩
  · decide

/-- The lines above the code are remarks exactly when the name and the version of the document fit
into a comment. The file begins with the code where none of them is documentation either, as when
name and version are of one line. -/
theorem lines_above_code_iff (m : SourceModule) (d : Document) :
    pieces '\n' (m.fileText d).toList = lines (notice d).toList ++ pieces '\n' m.render.toList ∧
      ((∀ line ∈ lines (notice d).toList, IsRemark line) ↔
        FitsRemark d.name.toList ∧ FitsRemark d.version.toList) ∧
      ((∀ line ∈ lines (notice d).toList, IsPlainRemark line) →
        Ident.skipGap .outside (m.fileText d).toList = Ident.skipGap .outside m.render.toList) ∧
      ('\n' ∉ d.name.toList → '\n' ∉ d.version.toList →
        ∀ line ∈ lines (notice d).toList, IsPlainRemark line) := by
  refine ⟨pieces_fileText m d, ?_, fun h => ?_, fun hname hversion line hline => ?_⟩
  · have hhead : IsRemark noticeHead.toList := Or.inr ⟨_, rfl⟩
    rw [lines_notice, List.forall_mem_append, List.forall_mem_cons, and_iff_right hhead,
      forall_noticeSource_iff]
    simp [IsRemark]
  · rw [fileText, String.toList_append, ← flatMap_lines_notice]
    exact Ident.skipGap_remarks (fun _ => not_mem_lines_notice) h
  · exact isPlainRemark_of_mem_lines_notice hname hversion hline

/-- A document whose name has a second line, with a function in it. -/
def leakDocument : Document where
  name := "youtube\nfn leak() \x7b\x7d //"
  version := "v3"

/-- The second line of that name, where the notice puts it. -/
def leakedLine : List Char :=
  "fn leak() \x7b\x7d //` `v3` discovery document.".toList

/-- The function stands in the file of this document, above the code. -/
theorem notice_leaks_function :
    ∃ d c m, Document.load "youtube.json" (some leakDocument.encode.render) = .ok d ∧
      Run.context d = .ok c ∧ ofDocument c d = .ok m ∧
      leakedLine ∈ lines (notice d).toList ∧ ¬ IsRemark leakedLine ∧
      Ident.skipGap .outside (m.fileText d).toList =
        some (leakedLine ++ '\n' :: '\n' :: m.render.toList) := by
  have hrun : (do
      let d ← Document.load "youtube.json" (some leakDocument.encode.render)
      let c ← Run.context d
      let _ ← ofDocument c d
      return (d.name, d.version)) = (.ok (leakDocument.name, "v3") : Outcome _) := by
    rw [Document.load_render]
    decide +kernel
  obtain ⟨d, hd, h⟩ := Outcome.bind_ok_iff.1 hrun
  obtain ⟨c, hc, h⟩ := Outcome.bind_ok_iff.1 h
  obtain ⟨m, hm, h⟩ := Outcome.bind_ok_iff.1 h
  obtain ⟨hname, hversion⟩ := Prod.mk.inj (Except.ok.inj h)
  have hsource : (noticeSource d).toList = "// Source: the `youtube".toList ++ '\n' :: leakedLine := by
    unfold noticeSource
    rw [hname, hversion]
    decide +kernel
  refine ⟨d, c, m, hd, hc, hm, ?_, by decide +kernel, ?_⟩
  · have hline : pieces '\n' leakedLine = [leakedLine] := pieces_of_not_mem (by decide +kernel)
    rw [lines_notice, hsource, pieces_append_sep_cons, hline]
    simp
  · rw [fileText, String.toList_append, toList_notice, hsource]
    simp only [List.append_assoc, List.cons_append, List.nil_append]
    rw [Ident.skipGap_remark (by decide +kernel) (by decide +kernel),
      Ident.skipGap_remark (by decide +kernel) (by decide +kernel)]
    rfl

end SourceModule

end ApiTypes
