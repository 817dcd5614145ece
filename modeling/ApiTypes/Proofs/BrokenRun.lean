import ApiTypes.Proofs.StoredFile

/-!
Runs that do not go through. Any step may fail although nothing stands in its way, and the process
may stop at any time. Making directories and filling a file take time, so a step that breaks off may
have made some of the directories, or filled a part of the file. A file is begun anew at once, and
moved at once.
-/
namespace ApiTypes

namespace WriteStep
open Disk
variable {d between after : Disk} {s : WriteStep} {steps rest taken : List WriteStep}
  {blamed? : Option String}

/-- What a step may have done when it breaks off. -/
inductive BreaksOff (d : Disk) : WriteStep → Disk → Prop
  | untouched (s : WriteStep) : BreaksOff d s d
  | someMade {path : String} {after : Disk} (made : Makes (Path.ancestors path) d after) :
      BreaksOff d (.makeDirectories path) after
  | partlyFilled {path : String} {content : ByteArray} {after : Disk} (size : Nat)
      (written : d.write? path (content.extract 0 size) = some after) :
      BreaksOff d (.fill path content) after

/-- The file systems that may be seen while steps are taken, and that a process which stops may
leave behind. -/
inductive Shows : Disk → List WriteStep → Disk → Prop
  | now (d : Disk) (steps : List WriteStep) : Shows d steps d
  | during {d after : Disk} {s : WriteStep} {rest : List WriteStep} (broken : BreaksOff d s after) :
      Shows d (s :: rest) after
  | later {d between after : Disk} {s : WriteStep} {rest : List WriteStep}
      (done : s.run d = (between, true)) (more : Shows between rest after) :
      Shows d (s :: rest) after

/-- How steps may end: with the steps `taken` behind them, and all done or blaming the path of the
step that has failed. -/
inductive Ends : Disk → List WriteStep → List WriteStep → Disk → Option String → Prop
  | finished (d : Disk) : Ends d [] [] d none
  | failed {d after : Disk} {s : WriteStep} {rest : List WriteStep} (broken : BreaksOff d s after) :
      Ends d (s :: rest) [] after (some s.path)
  | step {d between after : Disk} {s : WriteStep} {rest taken : List WriteStep}
      {blamed? : Option String} (done : s.run d = (between, true))
      (more : Ends between rest taken after blamed?) : Ends d (s :: rest) (s :: taken) after blamed?

/-- A step that something stands in the way of breaks off. -/
theorem breaksOff_of_run (h : s.run d = (after, false)) : BreaksOff d s after := by
  have hrefused : ∀ made : Option Disk, run.outcome d made = (after, false) → after = d := by
    intro made hmade
    cases made <;> cases hmade
    rfl
  cases s with
  | makeDirectories path => exact .someMade (makes_of_run h)
  | truncate path | fill path content | rename source target =>
    obtain rfl := hrefused _ h
    exact .untouched _

/-- Steps that nothing breaks off but what stands in their way end in one of these ways. -/
theorem exists_ends_runAll (d : Disk) (steps : List WriteStep) :
    ∃ taken, Ends d steps taken (runAll d steps).1 (runAll d steps).2 := by
  induction steps generalizing d with
  | nil => exact ⟨[], .finished d⟩
  | cons s rest ih =>
    unfold runAll
    split
    · next between done =>
      obtain ⟨taken, hmore⟩ := ih between
      exact ⟨s :: taken, .step done hmore⟩
    · next after hfailed => exact ⟨[], .failed (breaksOff_of_run hfailed)⟩

/-- Some of the steps have been taken, and the next one has broken off. -/
def Halts (d : Disk) (steps taken : List WriteStep) (after : Disk) : Prop :=
  ∃ s rest between, steps = taken ++ s :: rest ∧ runAll d taken = (between, none) ∧
    BreaksOff between s after

theorem Halts.cons (hdone : s.run d = (between, true)) (h : Halts between rest taken after) :
    Halts d (s :: rest) (s :: taken) after := by
  obtain ⟨broken, more, last, rfl, hrun, hbroken⟩ := h
  exact ⟨broken, more, last, rfl, runAll_cons_iff.2 ⟨between, hdone, hrun⟩, hbroken⟩

theorem BreaksOff.halts (h : BreaksOff d s after) : Halts d (s :: rest) [] after :=
  ⟨s, rest, d, rfl, rfl, h⟩

theorem Shows.finished_or_halts (h : Shows d steps after) :
    runAll d steps = (after, none) ∨ ∃ taken, Halts d steps taken after := by
  induction h with
  | now d steps =>
    cases steps with
    | nil => exact Or.inl rfl
    | cons s rest => exact Or.inr ⟨[], (BreaksOff.untouched s).halts⟩
  | during broken => exact Or.inr ⟨[], broken.halts⟩
  | later done _ ih =>
    rcases ih with hrun | ⟨taken, hhalts⟩
    · exact Or.inl (runAll_cons_iff.2 ⟨_, done, hrun⟩)
    · exact Or.inr ⟨_, hhalts.cons done⟩

theorem Ends.finished_or_halts (h : Ends d steps taken after blamed?) :
    blamed? = none ∧ taken = steps ∧ runAll d steps = (after, none) ∨
      blamed?.isSome ∧ Halts d steps taken after := by
  induction h with
  | finished d => exact Or.inl ⟨rfl, rfl, rfl⟩
  | failed broken => exact Or.inr ⟨rfl, broken.halts⟩
  | step done _ ih =>
    rcases ih with ⟨hnone, rfl, hrun⟩ | ⟨hsome, hhalts⟩
    · exact Or.inl ⟨hnone, rfl, runAll_cons_iff.2 ⟨_, done, hrun⟩⟩
    · exact Or.inr ⟨hsome, hhalts.cons done⟩

/-- All steps are done when the last one is. -/
theorem Ends.eq_none_iff {front : List WriteStep} {last : WriteStep}
    (h : Ends d (front ++ [last]) taken after blamed?) (hlast : last ∉ front) :
    blamed? = none ↔ last ∈ taken := by
  rcases h.finished_or_halts with ⟨rfl, rfl, _⟩ | ⟨hsome, s, rest, _, hsteps, _⟩
  · simp
  · obtain ⟨rest, rfl⟩ : taken <+: front := by
      have hprefix : taken <+: front ++ [last] := ⟨s :: rest, hsteps.symm⟩
      refine (List.prefix_concat_iff.1 hprefix).resolve_left ?_
      rintro rfl
      simp at hsteps
    have htaken : last ∉ taken := fun hmem => hlast (List.mem_append_left rest hmem)
    simp [Option.isSome_iff_ne_none.1 hsome, htaken]

end WriteStep

end ApiTypes
