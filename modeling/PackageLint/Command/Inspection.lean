import PackageLint.Command.Environment
import PackageLint.Number.Decimal
import PackageLint.Output.Reading
import PackageLint.Text.Page

/-!
# Inspecting a package

The package is dumped and its dependencies are shown, both by the toolchain. The status tells
whether something in the findings is an error; only the dump can bring errors.

## Main results

* `hasErrors_dependencyStep`: the dependencies never bring an error;
* `status_ofSteps_dependencyStep`: the status depends on the dump alone.
-/

namespace PackageLint

/-- A step of an inspection. -/
structure InspectionPhase where
  /-- The name of the step. -/
  name : String
  /-- How it ended. -/
  status : String
  /-- How many seconds it took. -/
  duration : Binary64 := .zero
  deriving DecidableEq, Repr

/-- What is known of a package. -/
structure Inspection where
  /-- The directory of the package. -/
  packagePath : String
  /-- How the inspection ended. -/
  status : String
  /-- The steps. -/
  phases : List InspectionPhase := []
  /-- The number of targets. -/
  targetCount : Nat := 0
  /-- What was found. -/
  findings : List Diagnostic := []
  /-- What can be done if a build hangs. -/
  recommendations : List String := []
  deriving DecidableEq, Repr

namespace Inspection

/-- The status of what ended well. -/
def succeeded : String := "success"

/-- The status of what did not. -/
def failed : String := "failed"

/-- What can be done if a build hangs. -/
def hangRecommendations : List String := [
  "Use 'swift package --allow-writing-to-package-directory resolve' for dependency issues",
  "Check for circular dependencies between local packages",
  "Verify platform compatibility in Package.swift",
  "Consider using dependency caching with '--cache-path'"]

/-! ### The steps -/

/-- What one step contributes. -/
structure Contribution where
  /-- The step, if it is reported. -/
  phases : List InspectionPhase := []
  /-- The number of targets. -/
  targetCount : Nat := 0
  /-- What was found. -/
  findings : List Diagnostic := []
  deriving DecidableEq, Repr

/-- What is said of a dump that failed. -/
def dumpFailure (reason : String) : Diagnostic where
  severity := .error
  category := .compilation
  message := s!"Failed to dump package: {reason}"
  suggestion := "Check Package.swift syntax"

/-- What is said of dependencies that could not be shown. -/
def dependencyFailure : Diagnostic where
  severity := .warning
  category := .dependency
  message := "Failed to show dependencies"
  suggestion := "Run 'swift package resolve' to update dependencies"

/-- The name of the step that dumps the package. -/
def dumpName : String := "Package Dump"

/-- The name of the step that shows the dependencies. -/
def dependenciesName : String := "Dependencies Check"

/-- Why a dump failed. -/
def dumpReason (executable : String) : Option CommandResult → String
  | none => (ToolchainFailure.missingExecutable executable).message
  | some result => (result.error.filter (!·.isEmpty)).getD "Unknown error"

/-- What a dump contributes that came to a good end. -/
def ofDump (result : CommandResult) : Except ShapeFault Contribution := do
  let analysis ← Output.PackageDump.read result.output none
  return {
    phases := [{ name := dumpName, status := succeeded, duration := result.duration }]
    targetCount := analysis.targets.elim 0 (·.count)
    findings := Output.structureFindings analysis }

/-- What a dump contributes that did not. -/
def ofFailedDump (executable : String) (outcome : Option CommandResult) : Contribution where
  phases := [{ name := dumpName, status := failed, duration := outcome.elim .zero (·.duration) }]
  findings := [dumpFailure (dumpReason executable outcome)]

/-- What a dump contributes; a command that could not start has no outcome. -/
def dumpStep (executable : String) (outcome : Option CommandResult) :
    Except ShapeFault Contribution :=
  match outcome.filter (·.success) with
  | some result => ofDump result
  | none => .ok (ofFailedDump executable outcome)

/-- What the dependencies contribute. -/
def dependencyStep (outcome : Option CommandResult) : Contribution :=
  match outcome.filter (·.success) with
  | some result => {
      phases := [{ name := dependenciesName, status := succeeded, duration := result.duration }] }
  | none => { findings := [dependencyFailure] }

/-- The inspection that two steps make. -/
def ofSteps (root : Path) (hangDetection : Bool) (dump dependencies : Contribution) : Inspection :=
  let findings := dump.findings ++ dependencies.findings
  { packagePath := root.text
    status := if Diagnostic.hasErrors findings then failed else succeeded
    phases := dump.phases ++ dependencies.phases
    targetCount := dump.targetCount
    findings
    recommendations := Text.onlyIf hangDetection hangRecommendations }

/-- Runs a command of the toolchain; one that cannot start has no outcome. -/
def runPhase (env : Environment) (config : Config) (root : Path) (command : String) :
    Run (Option CommandResult) := do
  let invocation :=
    Invocation.package (env.executableFor config) [command] root (some config.timeout)
  match ← (invocation.runPackage env.toolchain).attempt with
  | .ok result => return some result
  | .error (.toolchain failure) =>
    Run.log .warning failure.message
    return none
  | .error failure => Run.fail failure

/-- Inspects the package at a path. -/
def run (env : Environment) (path : Path) (hangDetection : Bool) : Run Inspection := do
  let root ← Run.ofExcept (env.packageRoot path)
  let config ← Run.ofExcept (env.config root)
  Run.log .info s!"Analyzing Swift package at {root.text}"
  let outcome ← runPhase env config root "dump-package"
  -- A dump of the wrong shape stops the inspection before the dependencies are shown.
  let dump ← Run.ofExcept ((dumpStep config.executable outcome).mapError .shape)
  let shown ← runPhase env config root "show-dependencies"
  let inspection := ofSteps root hangDetection dump (dependencyStep shown)
  let status := inspection.status
  let count := inspection.findings.length
  Run.log .info s!"Analysis finished with status {status} ({count} diagnostics)"
  return inspection

/-! ### The report -/

/-- The inspection as a table of a report; seconds have three places. -/
def toDocument (inspection : Inspection) : Value := .ofFields [
  ("package_path", .text inspection.packagePath),
  ("status", .text inspection.status),
  ("phases", .list (inspection.phases.map fun phase => .ofFields [
    ("name", .text phase.name),
    ("status", .text phase.status),
    ("duration", .real (phase.duration.roundTo 3))])),
  ("target_count", .ofNat inspection.targetCount),
  ("diagnostics", Report.toDocument inspection.findings),
  ("recommendations", .ofTexts inspection.recommendations)]

/-- The line for a step. -/
def phaseLine (phase : InspectionPhase) : String :=
  s!"  - {phase.name}: {phase.status} ({phase.duration.fixed 2}s)"

/-- The lines for the steps. -/
def phaseLines (phases : List InspectionPhase) : List String :=
  if phases.isEmpty then ["  (none)"] else phases.map phaseLine

/-- The lines on builds that hang. -/
def hangLines (recommendations : List String) : List String :=
  ["", "🎯 HANG DETECTION ANALYSIS", "==========================", "✅ No hang detected", "",
    "💡 Recommendations:"] ++ recommendations.map fun line => s!"   - {line}"

/-- The inspection for a reader. -/
def page (inspection : Inspection) (hangDetection : Bool) : String :=
  Text.page <|
    ["🔍 SPM ANALYSIS", "====================", s!"📦 Package: {inspection.packagePath}",
      s!"Status: {inspection.status}", s!"Targets: {inspection.targetCount}", "", "Phases:"] ++
    phaseLines inspection.phases ++
    Text.onlyIf (!inspection.findings.isEmpty)
      (["", "⚠️  BUILD RISK ASSESSMENT", "========================"] ++
        Diagnostic.paragraphs inspection.findings) ++
    Text.onlyIf hangDetection (hangLines inspection.recommendations)

/-- The dependencies never bring an error. -/
theorem hasErrors_dependencyStep (outcome : Option CommandResult) :
    Diagnostic.hasErrors (dependencyStep outcome).findings = false := by
  unfold dependencyStep
  split <;> rfl

/-- The status tells whether the dump brought an error. -/
theorem status_ofSteps_dependencyStep (root : Path) (hangDetection : Bool) (dump : Contribution)
    (outcome : Option CommandResult) :
    (ofSteps root hangDetection dump (dependencyStep outcome)).status =
      if Diagnostic.hasErrors dump.findings then failed else succeeded := by
  simp [ofSteps, hasErrors_dependencyStep]

end Inspection

end PackageLint
