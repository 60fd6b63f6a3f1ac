import PackageLint.Checks.Basic
import PackageLint.Macros.Report

/-!
# The check of the macros

The frameworks of a package are told by its manifest. Where there are any, the package is built
twice and the outputs are searched for known failures.
-/

namespace PackageLint.Checks

/-- A finding that stands in the place of a report on macros. -/
def macroFinding (severity : Severity) (message suggestion : String) : Diagnostic :=
  { severity, category := .compilation, message, suggestion }

/-- The report on the macros of a manifest. -/
def reportMacros (context : PackageContext) (manifest : List Char) : Run MacroReport := do
  let frameworks := MacroFramework.detect manifest
  let issues := MacroIssue.ofManifest manifest
  -- Without a framework there is nothing to be built.
  if frameworks.isEmpty then return { frameworks, issues }
  let comparison ← BuildComparison.run context.toolchain context.executable context.config.timeout
    context.config.outputLines context.root
  return { frameworks, issues := issues ++ MacroIssue.ofComparison comparison }

/-- The report on the macros of a package; there is nothing to report of a manifest that cannot be
read. -/
def macroReport (context : PackageContext) : Run MacroReport :=
  match context.disk.readText context.manifest with
  | .ok text => reportMacros context text
  | .error fault => do
    let path := context.manifest.text
    Run.log .warning s!"Failed to read {path} for macro analysis: {fault.message}"
    return {}

/-- What is logged of a report. -/
def logMacros (report : MacroReport) : Run Unit := do
  Run.log .info s!"Macro analysis: framework={report.primaryName} issues={report.issues.length}"
  if !report.issues.isEmpty then
    Run.logAll (report.recommendations.map fun line => (.info, s!"Macro recommendation: {line}"))

/-- Reports the failures of macros. -/
def checkMacros (context : PackageContext) : Run (List Diagnostic) := do
  if !context.disk.has context.manifest then
    return [macroFinding .info "Package.swift not found for macro analysis"
      "Ensure Package.swift exists in the package root"]
  match ← (macroReport context).attempt with
  | .error (.toolchain failure) =>
    return [macroFinding .error s!"Cannot run macro build probe: {failure.message}"
      "Verify Swift installation and package configuration"]
  | .error failure => Run.fail failure
  | .ok report =>
    logMacros report
    return report.findings

/-- The check of the macros. -/
def macros : Check where
  name := "macros"
  title := "MacroAnalyzer"
  supports _ := true
  run := checkMacros

end PackageLint.Checks
