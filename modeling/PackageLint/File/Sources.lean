import PackageLint.File.Tree
import PackageLint.Text.Blank
import PackageLint.Text.Glob

/-!
# Source files of a package

All source files below a directory, in order: the files of a directory by name, then those of its
subdirectories by name. Hidden entries and the directories of build products are left out, and so
is what an ignore rule matches. A rule is a file name pattern: with a slash inside or in front it
is compared with the whole path below the root, else with every part of it, and with a slash at
the end it is for directories only.

## Main results

* `find_of_error`: there is nothing to find where there is nothing.
-/

namespace PackageLint

/-- A pattern for paths that are left out. -/
structure IgnoreRule where
  /-- The pattern without the slashes around it. -/
  pattern : String
  /-- The rule is for directories only. -/
  directoryOnly : Bool
  /-- The pattern had a slash in front. -/
  anchored : Bool
  /-- The pattern has a slash inside. -/
  hasSlash : Bool
  deriving DecidableEq, Repr

namespace IgnoreRule

/-- The rule that a text writes; a blank text writes none. -/
def ofText? (s : String) : Option IgnoreRule :=
  let cs := Text.trim s.toList
  if cs.isEmpty then none
  else
    let directoryOnly := cs.getLast? = some '/'
    let cs := if directoryOnly then cs.dropLast else cs
    let anchored := cs.head? = some '/'
    let cs := if anchored then cs.drop 1 else cs
    some { pattern := .ofList cs, directoryOnly, anchored, hasSlash := cs.contains '/' }

/-- The rule matches a path below the root. -/
def isMatch (rule : IgnoreRule) (path : List Char) (isDirectory : Bool) : Bool :=
  let pattern := rule.pattern.toList
  if pattern.isEmpty || (rule.directoryOnly && !isDirectory) then false
  else if rule.anchored || rule.hasSlash then
    Text.globMatches pattern path ||
      (rule.directoryOnly && (pattern ++ ['/']).isPrefixOf path)
  else (Text.splitAt '/' path).any (Text.globMatches pattern)

end IgnoreRule

/-- The rules that texts write. -/
def ignoreRules (patterns : List String) : List IgnoreRule :=
  patterns.filterMap IgnoreRule.ofText?

/-- Some rule matches a path below the root. -/
def isIgnored (rules : List IgnoreRule) (path : List Char) (isDirectory : Bool) : Bool :=
  rules.any (·.isMatch path isDirectory)

namespace Sources

/-- The suffix of source files. -/
def suffix : String := ".swift"

/-- Directories that never hold sources. -/
def excludedDirectories : List String := [".build", ".swiftpm", "DerivedData", "Pods", "Carthage"]

/-- The name is hidden. -/
def isHidden (name : String) : Bool := ".".toList.isPrefixOf name.toList

/-- The name of a source file. -/
def isSource (name : String) : Bool := !isHidden name && suffix.toList.isSuffixOf name.toList

/-- The written form of the parts of a path below the root. -/
def relative (parts : List String) : List Char := (Text.joinWith "/" parts).toList

/-- The entry is a source file that no rule leaves out; `parts` lead to its directory. -/
def keepsFile (rules : List IgnoreRule) (parts : List String) (name : String) : Bool :=
  isSource name && !isIgnored rules (relative (parts ++ [name])) false

/-- The entry is a directory that no rule leaves out. -/
def keepsDirectory (rules : List IgnoreRule) (parts : List String) (name : String) : Bool :=
  !isHidden name && !excludedDirectories.contains name &&
    !isIgnored rules (relative (parts ++ [name])) true

/-- What an entry of a directory contributes: a source file, or the files of a subdirectory. -/
inductive Contribution
  /-- A file. -/
  | file (path : List String)
  /-- The files below a directory. -/
  | below (paths : List (List String))

mutual

/-- The paths of the source files below an entry that `parts` lead to. -/
def walk (rules : List IgnoreRule) (parts : List String) : FileEntry → List (List String)
  | .file _ | .locked => []
  | .directory entries =>
    let found := (contributions rules parts entries).mergeSort fun a b => a.1 ≤ b.1
    -- The files of a directory go before those of its subdirectories.
    let files := found.filterMap fun entry =>
      match entry.2 with
      | .file path => some path
      | .below _ => none
    let others := found.flatMap fun entry =>
      match entry.2 with
      | .file _ => []
      | .below paths => paths
    files ++ others

/-- What the entries of a directory contribute, by name. -/
def contributions (rules : List IgnoreRule) (parts : List String) :
    List (String × FileEntry) → List (String × Contribution)
  | [] => []
  | (name, entry) :: rest =>
    let others := contributions rules parts rest
    match entry with
    | .file _ | .locked =>
      if keepsFile rules parts name then (name, .file (parts ++ [name])) :: others else others
    | .directory entries =>
      if keepsDirectory rules parts name then
        (name, .below (walk rules (parts ++ [name]) (.directory entries))) :: others
      else others

end

/-- The source files at a path: the file itself, or those below the directory. -/
def find (disk : Disk) (path : Path) (exclude : List String) : List Path :=
  match disk.find path with
  | .ok (.file _) | .ok .locked => if path.suffix = suffix then [path] else []
  | .ok (.directory entries) =>
    (walk (ignoreRules exclude) [] (.directory entries)).map fun parts =>
      { path with parts := path.parts ++ parts }
  | .error _ => []

/-- There is nothing to find where there is nothing. -/
theorem find_of_error {disk : Disk} {path : Path} {fault : FileFault}
    (h : disk.find path = .error fault) (exclude : List String) : find disk path exclude = [] := by
  simp [find, h]

end Sources

end PackageLint
