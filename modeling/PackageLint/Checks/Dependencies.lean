import PackageLint.Checks.Basic

/-!
# The check of the dependencies

The dependencies of a package are resolved by the toolchain.
-/

namespace PackageLint.Checks

/-- A finding about the resolution of dependencies. -/
def resolutionFinding (severity : Severity) (message suggestion : String) : Diagnostic :=
  { severity, category := .dependency, message, suggestion }

/-- What is said of the outcome of a resolution. -/
def resolutionFindings (result : CommandResult) : List Diagnostic :=
  if result.success then []
  else [resolutionFinding .warning "Dependency resolution failed"
    "Check network connection and dependency URLs"]

/-- What is said of a resolution that could not start. -/
def unstartedFindings (reason : String) : List Diagnostic :=
  [resolutionFinding .error s!"Cannot run dependency resolution: {reason}"
    "Verify Swift installation and package configuration"]

/-- Resolves the dependencies of a package. -/
def resolveDependencies (context : PackageContext) : Run (List Diagnostic) := do
  let invocation :=
    Invocation.package context.executable ["resolve"] context.root context.config.timeout
  match ← (invocation.runPackage context.toolchain).attempt with
  | .error (.toolchain failure) =>
    Run.log .warning s!"Dependency resolution could not start: {failure.message}"
    return unstartedFindings failure.message
  | .error failure => Run.fail failure
  | .ok result =>
    if !result.success then
      Run.log .info s!"Dependency resolution failed after {result.duration.fixed 2}s"
    return resolutionFindings result

/-- The check of the dependencies. -/
def dependencies : Check where
  name := "dependencies"
  title := "DependencyResolutionAnalyzer"
  supports context := context.disk.has context.manifest
  run := resolveDependencies

end PackageLint.Checks
