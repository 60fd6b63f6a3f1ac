import PackageLint.Checks.Basic
import PackageLint.Source.Check

/-!
# The check of the sources

Every source file of a package is checked for the composition of its reducers and for its
dependencies.
-/

namespace PackageLint.Checks

/-- Checks source files one by one; a file that is no text is passed over. -/
def checkSources (context : PackageContext) : List Path → Run (List Diagnostic)
  | [] => pure []
  | path :: rest =>
    match context.disk.readText? path with
    | some text => do
      let found := Source.check context.tables.vocabulary path.name text
      return found ++ (← checkSources context rest)
    | none => do
      Run.log .debug s!"Skipping unreadable source {path.text}"
      checkSources context rest

/-- The check of the sources. -/
def sourcePatterns : Check where
  name := "tca"
  title := "SourcePatternAnalyzer"
  supports context := context.disk.isDirectory context.root
  run context := do
    let found ← checkSources context context.sources
    Run.log .debug s!"Source checks produced {found.length} diagnostics"
    return found

end PackageLint.Checks
