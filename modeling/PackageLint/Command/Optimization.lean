import PackageLint.Command.Environment
import PackageLint.Text.Page

/-!
# Optimizing a package

What can be improved in a package, told by its manifest and its resolved dependencies. Where they
tell nothing there is general advice.

## Main results

* `orGeneral_ne_nil`: there is always some advice.
-/

namespace PackageLint

/-- What can be improved in a package. -/
structure Optimization where
  /-- The directory of the package. -/
  packagePath : String
  /-- What can be done. -/
  recommendations : List String := []
  deriving DecidableEq, Repr

namespace Optimization

/-- The advice to ask for versions. -/
def pinVersions : String := "Use specific version constraints for dependencies"

/-- Advice for every package. -/
def general : List String := [
  pinVersions,
  "Enable platform-specific optimizations",
  "Consider using conditional compilation for unused features"]

/-- What the resolved dependencies tell. -/
def ofResolved (summary : Resolved.Summary) (found : Bool) : List String :=
  let names := Text.joinWith ", " summary.names
  Text.onlyIf (found && summary.flagged != 0)
    [s!"Pin {summary.flagged} branch dependencies to versions: {names}"]

/-- What a manifest tells. -/
def ofManifest (manifest : List Char) : List String :=
  let holds (needle : String) : Bool := Text.occursIn needle.toList manifest
  Text.onlyIf (holds "unsafeFlags")
    ["Remove unsafeFlags from target settings; packages using them cannot be consumed as " ++
      "dependencies"] ++
  Text.onlyIf (!holds "platforms:") ["Declare supported platforms in Package.swift"] ++
  Text.onlyIf (holds "branch:" || holds ".branch(") [pinVersions]

/-- The advice, or the general advice where there is none. -/
def orGeneral (recommendations : List String) : List String :=
  if recommendations.isEmpty then general else recommendations

/-- Looks for what can be improved in the package at a path. -/
def run (env : Environment) (path : Path) : Run Optimization := do
  let root := env.disk.resolve path
  if !env.disk.isDirectory root then Run.fail (.noDirectory root)
  let (summary, files) ← Resolved.collect env.disk root
  let manifest := env.disk.readText? (root.child manifestName)
  return {
    packagePath := root.text
    recommendations :=
      orGeneral (ofResolved summary (!files.isEmpty) ++ manifest.elim [] ofManifest) }

/-- Advice for a reader. -/
def pageOf (recommendations : List String) (apply : Bool) : String :=
  Text.page <| ["⚡ SPM OPTIMIZATION", "========================"] ++
    if recommendations.isEmpty then ["✅ No optimizations needed"]
    else ["💡 Optimization Recommendations:"] ++
      (Text.numbered recommendations).map (fun line => s!"{line.1}. {line.2}") ++
      Text.onlyIf apply ["", "🔧 Automatic application is not supported; apply the " ++
        "recommendations above manually."]

/-- There is always some advice. -/
theorem orGeneral_ne_nil (recommendations : List String) : orGeneral recommendations ≠ [] := by
  unfold orGeneral
  split
  · simp [general]
  · rename_i h
    simpa using h

end Optimization

end PackageLint
