import PackageLint.Resolved.Pin
import PackageLint.Run.Journal

/-!
# Files of resolved dependencies

The places at which a package keeps its file of resolved dependencies: beside the manifest, among
the products of a build, and inside of a workspace.
-/

namespace PackageLint.Resolved

/-- The place inside of a directory with a workspace. -/
def workspaceFile : List String :=
  ["project.xcworkspace", "xcshareddata", "swiftpm", "Package.resolved"]

/-- The places below a package. -/
def fixedFiles : List (List String) :=
  [["Package.resolved"], [".build", "Package.resolved"], workspaceFile]

/-- The places below a package and the directories inside of it. -/
def candidates (disk : Disk) (root : Path) : List Path :=
  let inner := (disk.names root).mergeSort fun a b => a ≤ b
  (fixedFiles ++ inner.map (· :: workspaceFile)).map fun parts =>
    { root with parts := root.parts ++ parts }

/-- The files of resolved dependencies of a package. -/
def files (disk : Disk) (root : Path) : List Path := (candidates disk root).filter disk.isFile

/-- What is known of the pins of a file; a file that cannot be read has none. -/
def readFile (disk : Disk) (file : Path) : Run Summary :=
  match disk.readText file with
  | .ok text => pure (.ofText text)
  | .error fault => do
    Run.log .debug s!"Cannot read {file.text}: {fault.message}"
    return {}

/-- What is known of the pins of some files, added to what is known of others. -/
def readFiles (disk : Disk) (summary : Summary) : List Path → Run Summary
  | [] => pure summary
  | file :: rest => do readFiles disk (summary + (← readFile disk file)) rest

/-- What is known of the pins of a package, and the files that they come from. -/
def collect (disk : Disk) (root : Path) : Run (Summary × List Path) := do
  let found := files disk root
  return (← readFiles disk {} found, found)

end PackageLint.Resolved
