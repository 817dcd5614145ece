import ApiTypes.Proofs.OutputDirectory
import ApiTypes.Proofs.StoredFile

/-!
Runs that check a module before they write it. A run that fails at any stage before the writing, or
that is a dry run, leaves the file system as it was, and one that writes leaves its text in the file
of the module. The check may be any at all; a run of the command is one whose check finds no fault.
-/
namespace ApiTypes.Run

/-- A last look at a module before it becomes text. -/
abbrev Check := SourceModule → Outcome Unit

/-- The check that finds no fault. -/
def Check.none : Check := fun _ => .ok ()

/-- The text of the module of a document, if the check lets the module pass. -/
def checkedText (check : Check) (c : Context) (d : Document) : Outcome String := do
  let m ← SourceModule.ofDocument c d
  check m
  return m.fileText d

/-- Writes the module of a document once it has passed the check, or only generates and checks it in
a dry run; gives its text. -/
def generateChecked (check : Check) (disk : Disk) (c : Context) (d : Document)
    (output name : String) (dryRun : Bool) : Disk × Outcome String :=
  match checkedText check c d with
  | .error f => (disk, .error f)
  | .ok text =>
    if dryRun then (disk, .ok text)
    else
      let (disk, result) := AtomicWrite.run disk (modulePath output name) text.toUTF8
      (disk, result.map fun _ => text)

/-- What a run needs before it generates: its document, the name of the module and the context. -/
def prepare (o : Options) (content : Option String) : Outcome (Document × String × Context) := do
  let d ← Document.load o.input content
  let name ← moduleName o.moduleName d
  let c ← context d
  return (d, name, c)

/-- Carries out a run, with a check of the module. -/
def carryOut (check : Check) (disk : Disk) (o : Options) : Disk × Outcome String :=
  match prepare o (disk.readText? o.input) with
  | .error f => (disk, .error f)
  | .ok (d, name, c) => generateChecked check disk c d o.output name o.dryRun

/-- One of the stages before the writing fails. -/
inductive FailsEarly (check : Check) (o : Options) (content : Option String) : Prop
  | load {f : Failure} (failed : Document.load o.input content = .error f)
  | moduleName {d : Document} {f : Failure} (loaded : Document.load o.input content = .ok d)
      (failed : moduleName o.moduleName d = .error f)
  | context {d : Document} {f : Failure} (loaded : Document.load o.input content = .ok d)
      (failed : context d = .error f)
  | assembly {d : Document} {c : Context} {f : Failure}
      (loaded : Document.load o.input content = .ok d) (context_eq : Run.context d = .ok c)
      (failed : SourceModule.ofDocument c d = .error f)
  | validation {d : Document} {c : Context} {m : SourceModule} {f : Failure}
      (loaded : Document.load o.input content = .ok d) (context_eq : Run.context d = .ok c)
      (assembled : SourceModule.ofDocument c d = .ok m) (failed : check m = .error f)

variable {check : Check} {disk after : Disk} {c : Context} {d : Document} {o : Options}
  {output name text : String} {content : Option String} {f : Failure}

theorem checkedText_none (c : Context) (d : Document) :
    checkedText .none c d = moduleText c d := by
  rfl

theorem generateChecked_none (disk : Disk) (c : Context) (d : Document) (output name : String)
    (dryRun : Bool) :
    generateChecked .none disk c d output name dryRun = generate disk c d output name dryRun := by
  rw [generateChecked, checkedText_none]
  rfl

theorem generateChecked_of_error (h : checkedText check c d = .error f) (dryRun : Bool) :
    generateChecked check disk c d output name dryRun = (disk, .error f) := by
  rw [generateChecked, h]

/-- A dry run gives what there is to write. -/
theorem generateChecked_dry :
    generateChecked check disk c d output name true = (disk, checkedText check c d) := by
  unfold generateChecked
  split
  · next h => rw [h]
  · next h => rw [h, if_pos rfl]

theorem generateChecked_ok_iff :
    generateChecked check disk c d output name false = (after, .ok text) ↔
      checkedText check c d = .ok text ∧
        AtomicWrite.run disk (modulePath output name) text.toUTF8 = (after, .ok ()) := by
  unfold generateChecked
  cases htext : checkedText check c d with
  | error f => simp
  | ok text' =>
    simp only [Bool.false_eq_true, if_false, Except.ok.injEq]
    constructor
    · intro h
      cases hrun : AtomicWrite.run disk (modulePath output name) text'.toUTF8 with
      | mk written result =>
        rw [hrun] at h
        cases result with
        | error f => cases h
        | ok u =>
          obtain ⟨rfl, htext'⟩ := Prod.mk.inj h
          obtain rfl : text' = text := Except.ok.inj htext'
          exact ⟨rfl, hrun⟩
    · rintro ⟨rfl, hrun⟩
      rw [hrun]
      rfl

theorem carryOut_of_error (h : prepare o (disk.readText? o.input) = .error f) :
    carryOut check disk o = (disk, .error f) := by
  rw [carryOut, h]

theorem carryOut_of_ok (h : prepare o (disk.readText? o.input) = .ok (d, name, c)) :
    carryOut check disk o = generateChecked check disk c d o.output name o.dryRun := by
  rw [carryOut, h]

/-- What has been prepared comes from the loaded document. -/
theorem prepare_ok (h : prepare o content = .ok (d, name, c)) :
    Document.load o.input content = .ok d ∧ moduleName o.moduleName d = .ok name ∧
      context d = .ok c := by
  obtain ⟨_, hload, h⟩ := Outcome.bind_ok_iff.1 h
  obtain ⟨_, hname, h⟩ := Outcome.bind_ok_iff.1 h
  obtain ⟨_, hcontext, h⟩ := Outcome.bind_ok_iff.1 h
  cases h
  exact ⟨hload, hname, hcontext⟩

theorem FailsEarly.exists_error (h : FailsEarly check o content)
    (hprepare : prepare o content = .ok (d, name, c)) :
    ∃ f, checkedText check c d = .error f := by
  obtain ⟨hload, hname, hcontext⟩ := prepare_ok hprepare
  -- the failing stage has worked on what was prepared, so that it is one of the last two
  cases h with
  | load failed => cases hload.symm.trans failed
  | moduleName loaded failed =>
    cases hload.symm.trans loaded
    cases hname.symm.trans failed
  | context loaded failed =>
    cases hload.symm.trans loaded
    cases hcontext.symm.trans failed
  | assembly loaded context_eq failed =>
    cases hload.symm.trans loaded
    cases hcontext.symm.trans context_eq
    exact ⟨_, Outcome.bind_error_iff.2 (Or.inl failed)⟩
  | @validation _ _ m f loaded context_eq assembled failed =>
    cases hload.symm.trans loaded
    cases hcontext.symm.trans context_eq
    refine ⟨f, Outcome.bind_error_iff.2 (Or.inr ⟨m, assembled, ?_⟩)⟩
    exact Outcome.bind_error_iff.2 (Or.inl failed)

/-- A run that fails before the writing leaves the file system as it was. -/
theorem exists_carryOut_error (h : FailsEarly check o (disk.readText? o.input)) :
    ∃ f, carryOut check disk o = (disk, .error f) := by
  cases hprepare : prepare o (disk.readText? o.input) with
  | error f => exact ⟨f, carryOut_of_error hprepare⟩
  | ok prepared =>
    obtain ⟨f, hf⟩ := h.exists_error hprepare
    exact ⟨f, (carryOut_of_ok hprepare).trans (generateChecked_of_error hf o.dryRun)⟩

theorem carryOut_dry (h : o.dryRun = true) : (carryOut check disk o).1 = disk := by
  cases hprepare : prepare o (disk.readText? o.input) with
  | error f => rw [carryOut_of_error hprepare]
  | ok prepared => rw [carryOut_of_ok hprepare, h, generateChecked_dry]

theorem readText?_of_read? {path : String} (h : disk.read? path = some text.toUTF8) :
    disk.readText? path = some text := by
  rw [Disk.readText?, h, Option.bind_eq_bind, Option.bind_some, fromUTF8?_toUTF8]

theorem plan_of_error (h : prepare o content = .error f) : plan o content = .error f := by
  rcases Outcome.bind_error_iff.1 h with hload | ⟨d, hload, h⟩
  · exact Outcome.bind_error_iff.2 (Or.inl hload)
  refine Outcome.bind_error_iff.2 (Or.inr ⟨d, hload, ?_⟩)
  rcases Outcome.bind_error_iff.1 h with hname | ⟨name, hname, h⟩
  · exact Outcome.bind_error_iff.2 (Or.inl hname)
  refine Outcome.bind_error_iff.2 (Or.inr ⟨name, hname, ?_⟩)
  rcases Outcome.bind_error_iff.1 h with hcontext | ⟨c, _, h⟩
  · exact Outcome.bind_error_iff.2 (Or.inl hcontext)
  · cases h

section prepared
variable (h : prepare o content = .ok (d, name, c))
include h

theorem plan_of_text_error (htext : moduleText c d = .error f) : plan o content = .error f := by
  obtain ⟨hload, hname, hcontext⟩ := prepare_ok h
  simp only [plan, hload, hname, hcontext, htext, bind, Except.bind]

theorem exists_plan_ok (htext : moduleText c d = .ok text) :
    ∃ p, plan o content = .ok p ∧
      p.steps =
        if o.dryRun then [] else AtomicWrite.steps (modulePath o.output name) text.toUTF8 := by
  obtain ⟨hload, hname, hcontext⟩ := prepare_ok h
  simp only [plan, hload, hname, hcontext, htext, bind, Except.bind]
  split
  · exact ⟨_, rfl, rfl⟩
  · exact ⟨_, rfl, rfl⟩

end prepared

/-- The text that the steps of a run have delivered, or the path at which they failed. -/
def delivered (text : String) : Option String → Outcome String
  | none => .ok text
  | some blamed => Outcome.fail (.unwritable blamed)

theorem generate_of_ok {dryRun : Bool} {blamed? : Option String}
    (htext : moduleText c d = .ok text)
    (hrun : WriteStep.runAll disk
        (if dryRun then [] else AtomicWrite.steps (modulePath output name) text.toUTF8) =
      (after, blamed?)) :
    generate disk c d output name dryRun = (after, delivered text blamed?) := by
  unfold generate
  rw [htext]
  cases dryRun with
  | true =>
    cases hrun
    rfl
  | false =>
    simp only [Bool.false_eq_true, if_false] at hrun ⊢
    rw [AtomicWrite.run, hrun]
    cases blamed? <;> rfl

/-- The report tells what has become of the file system, and how the run has failed if it has. -/
structure Report.Tells (r : Report) (result : Disk × Outcome String) : Prop where
  disk_eq : r.disk = result.1
  failure_iff : ∀ f, r.ending = .failure f ↔ result.2 = .error f

section command
variable {arguments : List String} (hread : CommandLine.read arguments = some (.run o))
include hread

theorem tells_of_plan_error (h : plan o (disk.readText? o.input) = .error f) :
    (command disk arguments).Tells (disk, .error f) := by
  unfold command
  rw [hread]
  dsimp only
  rw [h]
  exact ⟨rfl, by simp⟩

theorem tells_of_plan_ok {p : Plan} {blamed? : Option String}
    (h : plan o (disk.readText? o.input) = .ok p)
    (hrun : WriteStep.runAll disk p.steps = (after, blamed?)) :
    (command disk arguments).Tells (after, delivered text blamed?) := by
  unfold command
  rw [hread]
  dsimp only
  rw [h]
  dsimp only
  rw [hrun]
  cases blamed? with
  | none => exact ⟨rfl, by simp [delivered]⟩
  | some blamed => exact ⟨rfl, by simp [delivered, Outcome.fail]⟩

/-- A run of the command does what the run without a check does, and fails alike. -/
theorem command_tells_carryOut : (command disk arguments).Tells (carryOut .none disk o) := by
  cases hprepare : prepare o (disk.readText? o.input) with
  | error f =>
    rw [carryOut_of_error hprepare]
    exact tells_of_plan_error hread (plan_of_error hprepare)
  | ok prepared =>
    obtain ⟨d, name, c⟩ := prepared
    rw [carryOut_of_ok hprepare, generateChecked_none]
    cases htext : moduleText c d with
    | error f =>
      rw [generate, htext]
      exact tells_of_plan_error hread (plan_of_text_error hprepare htext)
    | ok text =>
      obtain ⟨p, hplan, hsteps⟩ := exists_plan_ok hprepare htext
      cases hrun : WriteStep.runAll disk p.steps with
      | mk after blamed? =>
        rw [generate_of_ok htext (hsteps ▸ hrun)]
        exact tells_of_plan_ok hread hplan hrun

end command

/-- Generation from a file does to the file system what a run without a check does, and gives the
same text. Only the order of name and context differs, and with it what is blamed if both fail. -/
theorem generateFile_agrees (disk : Disk) (input output : String) (given : Option String) :
    (generateFile disk input output given).1 =
        (carryOut .none disk { input, output, moduleName := given }).1 ∧
      ∀ text, (generateFile disk input output given).2 = .ok text ↔
        (carryOut .none disk { input, output, moduleName := given }).2 = .ok text := by
  simp only [generateFile, carryOut, prepare, generateChecked_none]
  cases Document.load input (disk.readText? input) with
  | error f => simp [bind, Except.bind]
  | ok d =>
    cases hname : moduleName given d <;> cases hcontext : context d <;>
      simp [bind, Except.bind, pure, Except.pure, hname, hcontext]

/-- A run that fails at a stage before the writing, or that is dry, leaves the file system as it
was. Generation that writes leaves its text in the file of the module, and a dry run gives the same
text. This holds whatever check the module must pass; a run of the command is one without a check. -/
theorem carryOut_touches_nothing_or_stores (check : Check) (disk : Disk) (o : Options) :
    (FailsEarly check o (disk.readText? o.input) →
        ∃ f, carryOut check disk o = (disk, .error f)) ∧
      (o.dryRun = true → (carryOut check disk o).1 = disk) ∧
      (∀ c d output name after text,
        generateChecked check disk c d output name false = (after, .ok text) →
          after.readText? (modulePath output name) = some text ∧
          ∀ other, generateChecked check other c d output name true = (other, .ok text)) ∧
      ∀ arguments, CommandLine.read arguments = some (.run o) →
        (command disk arguments).Tells (carryOut .none disk o) := by
  refine ⟨exists_carryOut_error, carryOut_dry, ?_, fun arguments hread => ?_⟩
  · intro c d output name after text h
    obtain ⟨htext, hrun⟩ := generateChecked_ok_iff.1 h
    refine ⟨readText?_of_read? (AtomicWrite.read?_of_run hrun), fun other => ?_⟩
    rw [generateChecked_dry, htext]
  · exact command_tells_carryOut hread

/-- The check that no module passes. -/
def Check.refuse : Check := fun _ => Outcome.fail .notADocument

theorem carryOut_touches_nothing_or_stores_youtube :
    (∃ d c after text,
      generateChecked .none (youtubeDisk youtubeDocument) c d "out" "youtube3" false =
        (after, .ok text) ∧
      after.readText? "out/youtube3.rs" = some text) ∧
    ∃ f, carryOut .refuse (youtubeDisk youtubeDocument) youtubeOptions =
      (youtubeDisk youtubeDocument, .error f) := by
  have hassembles : (do
      let d ← Document.load "youtube.json" (some youtubeDocument.encode.render)
      let c ← context d
      let _ ← SourceModule.ofDocument c d : Outcome Unit) = .ok () := by
    simp only [Document.load_render]
    decide +kernel
  rw [← readText?_youtubeDisk] at hassembles
  obtain ⟨d, hload, hassembles⟩ := Outcome.bind_ok_iff.1 hassembles
  obtain ⟨c, hcontext, hassembles⟩ := Outcome.bind_ok_iff.1 hassembles
  obtain ⟨m, hassembled, -⟩ := Outcome.bind_ok_iff.1 hassembles
  constructor
  · have htext : checkedText .none c d = .ok (m.fileText d) := by
      rw [checkedText, hassembled]
      rfl
    obtain ⟨after, hrun⟩ : ∃ after, AtomicWrite.run (youtubeDisk youtubeDocument)
        (modulePath "out" "youtube3") (m.fileText d).toUTF8 = (after, .ok ()) :=
      ⟨_, rfl⟩
    have hdone := generateChecked_ok_iff.2 ⟨htext, hrun⟩
    obtain ⟨_, _, hstores, _⟩ :=
      carryOut_touches_nothing_or_stores .none (youtubeDisk youtubeDocument) youtubeOptions
    exact ⟨d, c, after, _, hdone, (hstores _ _ _ _ _ _ hdone).1⟩
  · obtain ⟨hfails, _⟩ :=
      carryOut_touches_nothing_or_stores .refuse (youtubeDisk youtubeDocument) youtubeOptions
    exact hfails (.validation hload hcontext hassembled rfl)

end ApiTypes.Run
