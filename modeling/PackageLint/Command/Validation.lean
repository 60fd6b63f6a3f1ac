import PackageLint.Command.Environment
import PackageLint.Text.Page

/-!
# Validating a package

The checks that are asked for are run one behind the other. A check that gives up makes one finding
and does not stop the others.

## Main results

* `isOk_result_runCheck`: no check ever stops a validation.
-/

namespace PackageLint

/-- Which checks are asked for, and how strict they are. -/
structure ValidationOptions where
  /-- The dependencies are resolved. -/
  deep : Bool := false
  /-- The resolved dependencies are checked. -/
  checksResolved : Bool := false
  /-- Dependencies on branches are a matter for complaint. -/
  flagsBranches : Bool := false
  /-- The macros are checked. -/
  checksMacros : Bool := false
  /-- The sources are checked. -/
  checksSources : Bool := false
  deriving DecidableEq, Repr

/-- The names of the checks that are asked for. -/
def ValidationOptions.names (options : ValidationOptions) : List String :=
  ["manifest"] ++ Text.onlyIf options.deep ["dependencies"] ++
    Text.onlyIf options.checksResolved ["resolved"] ++
    Text.onlyIf options.checksMacros ["macros"] ++ Text.onlyIf options.checksSources ["tca"]

/-- What checks say of a package. -/
structure Validation where
  /-- The directory of the package. -/
  packagePath : String
  /-- The names of the checks that were run. -/
  checks : List String := []
  /-- What they found. -/
  findings : List Diagnostic := []
  deriving DecidableEq, Repr

namespace Validation

/-- Some finding is an error or worse. -/
def hasErrors (validation : Validation) : Bool := Diagnostic.hasErrors validation.findings

/-- What is said of a check that gave up. -/
def failureFinding (name : String) (failure : Failure) : Diagnostic where
  severity := .error
  category := .unknown
  message := s!"{name} check failed: {failure.message}"
  suggestion := "Re-run with --verbose for details"

/-- Runs a check. -/
def runCheck (context : PackageContext) (check : Check) : Run (List Diagnostic) := do
  Run.log .debug s!"Running analyzer {check.title}"
  match ← (check.run context).attempt with
  | .ok findings => return findings
  | .error failure =>
    Run.log .error s!"Analyzer {check.name} failed: {failure.message}"
    Run.log .debug "Analyzer failure details"
    return [failureFinding check.name failure]

/-- Runs checks one behind the other; a check that has nothing to look at is passed over. -/
def runChecks (context : PackageContext) (validation : Validation) : List Check → Run Validation
  | [] => pure validation
  | check :: rest =>
    if check.supports context then do
      let findings ← runCheck context check
      runChecks context
        { validation with
          checks := validation.checks ++ [check.name]
          findings := validation.findings ++ findings } rest
    else do
      Run.log .debug s!"Skipping analyzer {check.name}"
      runChecks context validation rest

/-- The checks of the given names. -/
def select (env : Environment) (names : List String) : Run (List Check) :=
  match env.checks with
  | some checks =>
    let wanted := names.map Text.lowered
    pure (checks.filter fun check => wanted.contains (Text.lowered check.name))
  | none => Checks.discover env.plugins (some names)

/-- Validates the package at a path. -/
def run (env : Environment) (path : Path) (options : ValidationOptions) : Run Validation := do
  let root ← Run.ofExcept (env.packageRoot path)
  let config ← Run.ofExcept (env.config root)
  let context ← env.context root config options.flagsBranches
  let checks ← select env options.names
  Run.log .debug s!"Selected {checks.length} analyzers"
  runChecks context { packagePath := root.text } checks

/-- The validation as a table of a report. -/
def toDocument (validation : Validation) : Value := .ofFields [
  ("package_path", .text validation.packagePath),
  ("checks", .ofTexts validation.checks),
  ("diagnostics", Report.toDocument validation.findings)]

/-- The lines for what was found. -/
def findingLines (findings : List Diagnostic) : List String :=
  if findings.isEmpty then ["✅ Package validation passed"]
  else s!"⚠️  Found {findings.length} issue(s):" :: Diagnostic.paragraphs findings

/-- The validation for a reader. -/
def page (validation : Validation) : String :=
  Text.page <| ["✅ SPM VALIDATION", "======================="] ++
    (validation.checks.map fun check => s!"🔍 Ran {check} check") ++ [""] ++
    findingLines validation.findings

/-- A check never stops a validation. -/
theorem isOk_result_runCheck (context : PackageContext) (check : Check) :
    (runCheck context check).result.isOk = true := by
  simp only [runCheck]
  rw [Run.result_bind_of_ok rfl, Run.result_bind_of_ok (Run.result_attempt _)]
  cases (check.run context).result <;> rfl

end Validation

end PackageLint
