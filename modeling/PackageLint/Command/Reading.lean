import PackageLint.Command.Environment
import PackageLint.Output.Reading
import PackageLint.Routing.Decision

/-!
# Reading an output, and deciding what to read

Two commands that look at a text: the output of a command of the toolchain, and the description of
a task.

## Main results

* `Output.result_run_of_isAllBlank`: a blank output cannot be read.
-/

namespace PackageLint

/-- Reads an output; a blank one is a failure. -/
def Output.run (text : String) (filter : Option String) (keepRaw : Bool) :
    Run Output.Analysis := do
  if Text.isAllBlank text.toList then Run.fail .noInput
  Run.log .debug s!"Parsing input as {(detectKind text).name} output"
  Run.ofExcept ((read text filter keepRaw none).mapError .shape)

/-- The directory of case studies: the given one, the one of the configuration, or the directory
that the command works in. -/
def RoutingDecision.caseStudyDirectory (env : Environment) :
    Option Path → Except Failure Path
  | some directory => .ok directory
  | none =>
    let here := env.disk.workingDirectory
    (env.config here).map fun config => config.caseStudies.getD here

/-- Decides what to read for a task by the standard table. -/
def RoutingDecision.run (env : Environment) (directory : Option Path) (task : String) :
    Run RoutingDecision := do
  let directory ← Run.ofExcept (caseStudyDirectory env directory)
  ofTask TaskCategory.standard env.disk directory task

/-- A blank output cannot be read. -/
theorem Output.result_run_of_isAllBlank {text : String} (h : Text.isAllBlank text.toList = true)
    (filter : Option String) (keepRaw : Bool) :
    (Output.run text filter keepRaw).result = .error .noInput := by
  simp only [Output.run, h, if_true]
  rfl

end PackageLint
