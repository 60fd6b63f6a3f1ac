import PackageLint.Checks.Basic
import PackageLint.Resolved.Files

/-!
# The check of the resolved dependencies

Dependencies that are pinned to a branch or to a bare revision are reported.
-/

namespace PackageLint.Checks

/-- Reports the flagged pins of a package. -/
def checkResolved (context : PackageContext) : Run (List Diagnostic) := do
  let (summary, files) ← Resolved.collect context.disk context.root
  if !files.isEmpty then
    let total := s!"{summary.total} dependencies, {summary.flagged} branch dependencies"
    Run.log .info s!"Package.resolved: {total}"
    if summary.flagged != 0 then
      Run.log .info ("Branch dependency packages: " ++ Text.joinWith ", " summary.names)
  return Resolved.findings summary (!files.isEmpty) context.flagsBranches

/-- The check of the resolved dependencies. -/
def resolved : Check where
  name := "resolved"
  title := "ResolvedAnalyzer"
  supports context := context.disk.isDirectory context.root
  run := checkResolved

end PackageLint.Checks
