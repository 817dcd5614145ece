import ApiTypes.Document.Encode
import ApiTypes.Proofs.LoadedDocument
import ApiTypes.Proofs.StagingPlace

/-!
The files that a run writes. A run without a given module name takes that of the file from its
document, slashes and dots included, so that the document decides whether the file lies in the
directory that the command line names.
-/
namespace ApiTypes

namespace AtomicWrite
open ApiTypes.Path Text
variable {path dir last : String} {front : List String}

theorem forall_files_steps {P : String → Prop} (path : String) (content : ByteArray) :
    (∀ s ∈ steps path content, ∀ file ∈ s.files, P file) ↔ P (stagingPath path) ∧ P path := by
  unfold steps
  cases parent? path with
  | none => simp [WriteStep.files]
  | some parent =>
    by_cases hparent : parent.isEmpty <;> simp [WriteStep.files, hparent]

/-- The hidden file lies in the directory of the file it stands for. -/
theorem isChildOf_stagingPath (hpath : split '/' path = front ++ [last]) (hfront : front ≠ [])
    (hlast : isIdle last = false) (hup : last ≠ "..") (h : IsChildOf path dir) :
    IsChildOf (stagingPath path) dir := by
  obtain ⟨parent, hparent, hdir⟩ := h
  have hmem : last ∈ split '/' path := by simp [hpath]
  have hslash := not_mem_hiddenName (not_mem_of_mem_split hmem)
  have hidle : isIdle ("." ++ last ++ ".tmp") = false := isIdle_append _ (by decide)
  have hne : parent ≠ "" := parent?_ne_empty hpath hfront hlast hparent
  rw [stagingPath_eq (fileName?_of_split hpath hlast hup), hparent]
  exact (isChildOf_join hne hslash hidle).congr hdir

end AtomicWrite

namespace CommandLine
variable {s s' : State} {value : String} {progress : Progress} {o : Options}

/-- No output directory has an empty path. -/
def Progress.Named : Progress → Prop
  | .more s => s.output ≠ some ""
  | .found r => ∀ o, r = .run o → o.output ≠ ""

theorem output_ne_empty_of_give {option : ValueOption} (hs : s.output ≠ some "")
    (h : s.give value option = some s') : s'.output ≠ some "" := by
  cases option with
  | input =>
    simp only [State.give, Option.ite_none_left_eq_some, Option.some.injEq] at h
    obtain ⟨_, rfl⟩ := h
    exact hs
  | output =>
    simp only [State.give, Option.ite_none_left_eq_some, Option.some.injEq] at h
    obtain ⟨hvalue, rfl⟩ := h
    simp at hvalue
    simpa using hvalue.2
  | moduleName =>
    simp only [State.give, Option.ite_none_left_eq_some, Option.some.injEq] at h
    obtain ⟨_, rfl⟩ := h
    exact hs

theorem named_option {option : ValueOption} {value : Option String} (hs : s.output ≠ some "")
    (h : s.option option value = some progress) : progress.Named := by
  cases value with
  | none =>
    cases h
    exact hs
  | some value =>
    obtain ⟨s', hgive, rfl⟩ := Option.map_eq_some_iff.1 h
    exact output_ne_empty_of_give hs hgive

theorem named_long {name : String} {value : Option String} (hs : s.output ≠ some "")
    (h : s.long name value = some progress) : progress.Named := by
  unfold State.long at h
  -- the options with a value, the flags, and the requests that end the reading
  split at h
  · exact named_option hs h
  · exact named_option hs h
  · exact named_option hs h
  · split at h
    · cases h
    · cases h
      exact hs
  · cases h
    exact hs
  · cases h
    exact nofun
  · cases h
    exact nofun
  · cases h

theorem named_short {letters : List Char} (hs : s.output ≠ some "")
    (h : s.short letters = some progress) : progress.Named := by
  induction letters generalizing s with
  | nil =>
    cases h
    exact hs
  | cons c rest ih =>
    unfold State.short at h
    split at h
    · next heq => cases heq
    · exact named_option hs h
    · exact named_option hs h
    · exact named_option hs h
    · next heq =>
      cases heq
      exact ih (s := { s with verbosity := s.verbosity + 1 }) hs h
    · cases h
      exact nofun
    · cases h
      exact nofun
    · cases h

theorem output_ne_empty_of_finish (hs : s.output ≠ some "") (h : s.finish = some (.run o)) :
    o.output ≠ "" := by
  unfold State.finish at h
  split at h
  · cases h
  · obtain ⟨input, _, h⟩ := Option.bind_eq_some_iff.1 h
    cases h
    cases houtput : s.output with
    | none => simp
    | some output =>
      rw [houtput] at hs
      simpa using hs

theorem output_ne_empty_of_readFrom {arguments : List String} (hs : s.output ≠ some "")
    (h : readFrom s arguments = some (.run o)) : o.output ≠ "" := by
  induction arguments generalizing s with
  | nil => exact output_ne_empty_of_finish hs h
  | cons argument rest ih =>
    unfold readFrom at h
    extract_lets goOn at h
    have hgo : ∀ progress : Progress, progress.Named → goOn progress = some (.run o) →
        o.output ≠ "" := by
      rintro (s | r) hnamed hrest
      · exact ih hnamed hrest
      · exact hnamed o (Option.some.inj hrest)
    split at h
    · split at h
      · obtain ⟨_, hfinish, h⟩ := Option.bind_eq_some_iff.1 h
        obtain ⟨r, hr, rfl⟩ := Option.map_eq_some_iff.1 hfinish
        refine hgo (.found r) ?_ h
        rintro o rfl
        exact output_ne_empty_of_finish hs hr
      · cases h
    · split at h
      · cases h
      · obtain ⟨progress, hlong, h⟩ := Option.bind_eq_some_iff.1 h
        exact hgo progress (named_long hs hlong) h
    · split at h
      · cases h
      · obtain ⟨progress, hshort, h⟩ := Option.bind_eq_some_iff.1 h
        exact hgo progress (named_short hs hshort) h
    · obtain ⟨given, hgiven, h⟩ := Option.bind_eq_some_iff.1 h
      obtain ⟨progress, hmore, h⟩ := Option.bind_eq_some_iff.1 h
      obtain ⟨s', rfl, rfl⟩ := Option.map_eq_some_iff.1 hmore
      obtain ⟨option, _, hgive⟩ := Option.map_eq_some_iff.1 hgiven
      exact hgo (.more s') (output_ne_empty_of_give hs hgive) h

/-- A run is never asked to write into the empty path. -/
theorem output_ne_empty_of_read {arguments : List String} (h : read arguments = some (.run o)) :
    o.output ≠ "" :=
  output_ne_empty_of_readFrom (by simp) h

end CommandLine

namespace Run
open ApiTypes.Path Text
variable {o : Options} {content : Option String} {p : Plan} {dir name : String}

theorem isAbsolute_append_extension (name : String) :
    isAbsolute (name ++ ".rs") = isAbsolute name := by
  unfold isAbsolute
  cases hname : name.toList with
  | nil =>
    rw [String.toList_append, hname]
    rfl
  | cons c rest =>
    rw [String.toList_append, hname]
    rfl

/-- The file of a module lies in the directory exactly when the name of the module stays in it. -/
theorem isChildOf_modulePath_iff (hdir : dir ≠ "") :
    IsChildOf (modulePath dir name) dir ↔ StaysIn dir name := by
  obtain ⟨last, hsplit⟩ := exists_split_append name (show '/' ∉ ".rs".toList by decide)
  have hlast : isIdle (last ++ ".rs") = false := isIdle_append last (by decide)
  have habsolute := isAbsolute_append_extension name
  unfold StaysIn modulePath
  split
  · next hroot =>
    obtain ⟨second, rest, hname⟩ := exists_split_of_isAbsolute hroot
    have hjoin : join dir (name ++ ".rs") = name ++ ".rs" := by simp [join, habsolute, hroot]
    have hfront : (split '/' name).dropLast ≠ [] := by simp [hname]
    have hopening : (split '/' name).dropLast.head? = some "" := by simp [hname]
    rw [hjoin, isChildOf_iff hsplit hfront hlast, habsolute, hroot, hopening, reading]
    simp only [Prod.mk.injEq, eq_comm (b := isAbsolute dir)]
    constructor
    · rintro ⟨hdirectory, _, hnames⟩
      exact ⟨hdirectory, hnames⟩
    · rintro ⟨hdirectory, hnames⟩
      obtain ⟨_, _, hsegments⟩ := exists_split_of_isAbsolute hdirectory
      exact ⟨hdirectory, by rw [hsegments, List.head?_cons], hnames⟩
  · next hroot =>
    rw [Bool.not_eq_true] at hroot
    exact isChildOf_join_iff hdir (habsolute.trans hroot) hsplit hlast

/-- The plan of a run that takes the name of the module from its document. -/
theorem exists_of_plan_ok (hmodule : o.moduleName = none) (hdry : o.dryRun = false)
    (hplan : plan o content = .ok p) :
    ∃ d name text, Document.load o.input content = .ok d ∧
      Naming.moduleName? d.name d.version = some name ∧
      p.steps = AtomicWrite.steps (modulePath o.output name) text := by
  obtain ⟨d, hload, hplan⟩ := Outcome.bind_ok_iff.1 hplan
  obtain ⟨name, hname, hplan⟩ := Outcome.bind_ok_iff.1 hplan
  obtain ⟨c, _, hplan⟩ := Outcome.bind_ok_iff.1 hplan
  obtain ⟨text, _, hplan⟩ := Outcome.bind_ok_iff.1 hplan
  rw [hdry, if_neg (by simp)] at hplan
  cases hplan
  rw [hmodule] at hname
  unfold moduleName at hname
  split at hname
  · next h => cases h
  · split at hname
    · next name' hname' =>
      cases hname
      exact ⟨d, name, text.toUTF8, hload, hname', rfl⟩
    · cases hname

/-- The files of an atomic write lie in the directory when the name of the module stays in it. -/
theorem isChildOf_files_iff (hdir : dir ≠ "") (name : String) (text : ByteArray) :
    (∀ s ∈ AtomicWrite.steps (modulePath dir name) text, ∀ file ∈ s.files, IsChildOf file dir) ↔
      StaysIn dir name := by
  obtain ⟨last, hsplit⟩ := exists_split_append name (show '/' ∉ ".rs".toList by decide)
  have hlast : isIdle (last ++ ".rs") = false := isIdle_append last (by decide)
  have hup : last ++ ".rs" ≠ ".." := by
    intro heq
    have hlength : (last ++ ".rs").length = 2 := by rw [heq]; rfl
    have hending : ".rs".length = 3 := rfl
    rw [String.length_append] at hlength
    omega
  obtain ⟨front, hfront, hpath⟩ := exists_split_join_concat hdir hsplit
  rw [AtomicWrite.forall_files_steps, ← isChildOf_modulePath_iff hdir]
  constructor
  · exact And.right
  · intro hchild
    exact ⟨AtomicWrite.isChildOf_stagingPath hpath hfront hlast hup hchild, hchild⟩

/-- A run changes the file system by the steps of its plan; without a plan it changes nothing. -/
theorem disk_command {disk : Disk} {arguments : List String}
    (hread : CommandLine.read arguments = some (.run o)) :
    (command disk arguments).disk =
      match plan o (disk.readText? o.input) with
      | .ok p => (WriteStep.runAll disk p.steps).1
      | .error _ => disk := by
  unfold command
  rw [hread]
  dsimp only
  split
  · next hplan => rw [hplan]
  · next p hplan =>
    rw [hplan]
    dsimp only
    split
    · next hsteps => rw [hsteps]
    · next hsteps => rw [hsteps]

/-- A run without a given name of the module writes into its output directory alone exactly when the
name that follows from the document stays there. Elsewhere it makes directories at most. -/
theorem command_stays_in_output_iff {disk : Disk} {arguments : List String}
    (hread : CommandLine.read arguments = some (.run o)) (hmodule : o.moduleName = none)
    (hdry : o.dryRun = false) (hplan : plan o (disk.readText? o.input) = .ok p) :
    ∃ d name, Document.load o.input (disk.readText? o.input) = .ok d ∧
      Naming.moduleName? d.name d.version = some name ∧
      ((∀ s ∈ p.steps, ∀ file ∈ s.files, IsChildOf file o.output) ↔ StaysIn o.output name) ∧
      ∀ place, Disk.GrownAt place disk (command disk arguments).disk ∨
        WriteStep.Reaches place disk p.steps := by
  obtain ⟨d, name, text, hload, hname, hsteps⟩ := exists_of_plan_ok hmodule hdry hplan
  refine ⟨d, name, hload, hname, ?_, fun place => ?_⟩
  · rw [hsteps]
    exact isChildOf_files_iff (CommandLine.output_ne_empty_of_read hread) name text
  · rw [disk_command hread, hplan]
    exact WriteStep.runAll_frame disk p.steps place

/-- The arguments of a run for the document in `youtube.json`, into the directory `out`. -/
def youtubeArguments : List String :=
  ["-i", "youtube.json", "-o", "out"]

def youtubeOptions : Options where
  input := "youtube.json"
  output := "out"

/-- A file system with a document in `youtube.json`. -/
def youtubeDisk (source : Document) : Disk :=
  Disk.fresh.store ["work", "youtube.json"] (.file source.encode.render.toUTF8)

theorem fromUTF8?_toUTF8 (text : String) : String.fromUTF8? text.toUTF8 = some text :=
  dif_pos text.isValidUTF8

theorem readText?_youtubeDisk (source : Document) :
    (youtubeDisk source).readText? "youtube.json" = some source.encode.render := by
  have hplace : (youtubeDisk source).filePlace? "youtube.json" = some ["work", "youtube.json"] := by
    rfl
  have hread : (youtubeDisk source).read? "youtube.json" = some source.encode.render.toUTF8 := by
    rw [Disk.read?, hplace]
    rfl
  rw [Disk.readText?, hread, Option.bind_eq_bind, Option.bind_some, fromUTF8?_toUTF8]

/-- What the run for a document gives can be computed as far as its plan and the module name. -/
theorem exists_plan_youtube (source : Document)
    (hrun : (do
      let text := some source.encode.render
      let d ← Document.load "youtube.json" text
      let _ ← plan youtubeOptions text
      return Naming.moduleName? d.name d.version) = (.ok (some name) : Outcome _)) :
    ∃ p, plan youtubeOptions ((youtubeDisk source).readText? "youtube.json") = .ok p ∧
      ∀ d, Document.load "youtube.json" ((youtubeDisk source).readText? "youtube.json") = .ok d →
        Naming.moduleName? d.name d.version = some name := by
  obtain ⟨d, hload, hrun⟩ := Outcome.bind_ok_iff.1 hrun
  obtain ⟨p, hplan, hrun⟩ := Outcome.bind_ok_iff.1 hrun
  rw [readText?_youtubeDisk, hload]
  refine ⟨p, hplan, fun d' h => ?_⟩
  cases h
  exact Except.ok.inj hrun

def youtubeDocument : Document where
  name := "youtube"
  version := "v3"

theorem command_stays_in_output_youtube :
    ∃ p, CommandLine.read youtubeArguments = some (.run youtubeOptions) ∧
      plan youtubeOptions ((youtubeDisk youtubeDocument).readText? "youtube.json") = .ok p ∧
      ∀ s ∈ p.steps, ∀ file ∈ s.files, IsChildOf file "out" := by
  have hread : CommandLine.read youtubeArguments = some (.run youtubeOptions) := by decide
  obtain ⟨p, hplan, hname⟩ : ∃ p, _ ∧ ∀ d, _ → _ = some "youtube3" :=
    exists_plan_youtube youtubeDocument (by
      simp only [plan, Document.load_render]
      decide +kernel)
  obtain ⟨d, name, hload, hname', hstays, -⟩ := command_stays_in_output_iff hread rfl rfl hplan
  obtain rfl : "youtube3" = name := Option.some.inj ((hname d hload).symm.trans hname')
  exact ⟨p, hread, hplan, hstays.2 (staysIn_of_not_mem "out" (by decide))⟩

/-- A document whose version leads out of every directory. -/
def escapingDocument : Document where
  name := "youtube"
  version := "v3/../../evil"

/-- The run for this document writes a file outside of its output directory. -/
theorem command_leaves_output :
    ∃ p, CommandLine.read youtubeArguments = some (.run youtubeOptions) ∧
      plan youtubeOptions ((youtubeDisk escapingDocument).readText? "youtube.json") = .ok p ∧
      ∃ s ∈ p.steps, ∃ file ∈ s.files, ¬ IsChildOf file "out" := by
  obtain ⟨p, hplan, hname⟩ : ∃ p, _ ∧ ∀ d, _ → _ = some "youtube3/../../evil" :=
    exists_plan_youtube escapingDocument (by
      simp only [plan, Document.load_render]
      decide +kernel)
  obtain ⟨d, name, text, hload, hname', hsteps⟩ := exists_of_plan_ok rfl rfl hplan
  obtain rfl : "youtube3/../../evil" = name :=
    Option.some.inj ((hname d hload).symm.trans hname')
  have hleaves : ¬ IsChildOf (modulePath "out" "youtube3/../../evil") "out" := by
    rw [isChildOf_modulePath_iff (by decide)]
    decide
  have hrename : .rename (AtomicWrite.stagingPath (modulePath "out" "youtube3/../../evil"))
      (modulePath "out" "youtube3/../../evil") ∈ p.steps := by
    rw [hsteps]
    simp [AtomicWrite.steps, youtubeOptions]
  exact ⟨p, by decide, hplan, _, hrename, _, by simp [WriteStep.files], hleaves⟩

end Run

end ApiTypes
