import PackageLint.Run.Journal

/-!
# Configuration

The settings of a run, read from a file beside the package. A setting of the wrong kind or out of
its range keeps its default; only a file that cannot be read, or that is no table, is an error.
-/

namespace PackageLint

/-- The settings of a run. -/
structure Config where
  /-- The directory of the configuration file. -/
  root : Path
  /-- The executable of the toolchain. -/
  executable : String := "swift"
  /-- The number of seconds after which a command is stopped. -/
  timeout : Binary64 := .ofInt 60
  /-- The number of lines that are kept of the output of a build. -/
  outputLines : Int := 50
  /-- The file of rules, if there is one. -/
  rules : Option Path := none
  /-- The directory of case studies, if there is one. -/
  caseStudies : Option Path := none
  /-- Patterns for paths that are left out. -/
  exclude : List String := []
  deriving DecidableEq, Repr

namespace Config

/-- The name of a configuration file. -/
def fileName : String := ".spmsift.yml"

/-- The suffixes of files that may hold a configuration under another name. -/
def suffixes : List String := [".yml", ".yaml"]

/-! ### Settings as values of a document -/

/-- The entries of a table, none for any other value. -/
def section? (entries : Table) (key : String) : Table := (Table.get entries key).table?.getD []

/-- A text, a number or a truth value, as a text. -/
def word? : Value → Option String
  | .scalar (.text s) => some s
  | .scalar (.int n) => some (Scalar.int n).written
  | .scalar (.real x) => some (Scalar.real x).written
  | .scalar (.bool b) => some (Scalar.bool b).written
  | _ => none

/-- A text that is not empty, or a number or a truth value as a text. -/
def nonemptyWord? (v : Value) : Option String := (word? v).filter (!·.isEmpty)

/-- A number of seconds; a whole number may be too large for one. -/
def seconds? : Value → Except Failure (Option Binary64)
  | .int n =>
    match Binary64.ofInt n with
    -- Only a whole number can be too large; a text that is too large means infinity.
    | .infinite _ => .error .tooLarge
    | x => .ok (some x)
  | .real x => .ok (some x)
  | .text s => .ok (Binary64.read? s.toList)
  | _ => .ok none

/-- A whole number. -/
def integer? : Value → Option Int
  | .int n => some n
  | .text s => Text.integer? s.toList
  | _ => none

/-- The words of a list, or the only word of a text. -/
def words : Value → List String
  | .text s => [s]
  | .list items => items.filterMap word?
  | _ => []

/-- The settings that a table describes. -/
def ofTable (root : Path) (entries : Table) : Except Failure Config := do
  let standard : Config := { root }
  let toolchain := section? entries "toolchain"
  let timeout ← seconds? (Table.get toolchain "timeout")
  let path (key field : String) : Option Path :=
    (nonemptyWord? (Table.get (section? entries key) field)).map fun s => root ++ Path.ofText s
  return {
    root
    executable := (nonemptyWord? (Table.get toolchain "executable")).getD standard.executable
    timeout := (timeout.filter (·.isPositive)).getD standard.timeout
    outputLines :=
      ((integer? (Table.get toolchain "output_lines")).filter (0 < ·)).getD standard.outputLines
    rules := path "rules" "path"
    caseStudies := path "router" "case_studies_dir"
    exclude := words (Table.get entries "exclude_paths") }

/-! ### Reading -/

/-- The configuration file that a path means: the file in a directory, the file itself if its name
can be one, else the file beside it. -/
def fileOf (disk : Disk) (path : Path) : Path :=
  if disk.isDirectory path then disk.resolve (path.child fileName)
  else if suffixes.contains path.suffix then disk.resolve path
  else disk.resolve (path.parent.child fileName)

/-- The document of a configuration file, read by a reader of documents; a blank file and a value
that counts as absent are an empty table. -/
def readDocument (read : List Char → Except Yaml.Failure Value) (disk : Disk) (file : Path) :
    Except Failure Value :=
  match disk.readText file with
  | .error (.unreachable path fault) => .error (.config (.unreadable path fault))
  | .error (.undecodable failure) => .error (.undecodable failure)
  | .ok text =>
    if Text.isAllBlank text then .ok (.table [])
    else match read text with
      | .ok v => .ok (v.orElse (.table []))
      | .error (.malformed flaw) => .error (.config (.malformed file flaw))
      | .error failure => .error (.value failure)

/-- The settings of a configuration file; the defaults where there is no file. -/
def readFile (read : List Char → Except Yaml.Failure Value) (disk : Disk) (file : Path) :
    Except Failure Config :=
  let root := disk.resolve file.parent
  if disk.has file then
    match readDocument read disk file with
    | .error failure => .error failure
    | .ok (.table entries) => ofTable root entries
    | .ok _ => .error (.config (.noTable file))
  else .ok { root }

/-- The settings with another executable, if one is named. -/
def withExecutable (config : Config) (name : Option String) : Config :=
  match (name.map Text.trimmed).filter (!·.isEmpty) with
  | some executable => { config with executable }
  | none => config

/-- The settings that apply at a path, given a reader of documents. An executable that is named
from outside goes before the one of the file. -/
def loadWith (read : List Char → Except Yaml.Failure Value) (disk : Disk)
    (executable : Option String) (path : Path) : Except Failure Config :=
  (readFile read disk (fileOf disk path)).map (·.withExecutable executable)

/-- The settings that apply at a path. -/
def load (disk : Disk) (executable : Option String) (path : Path) : Except Failure Config :=
  loadWith Yaml.read disk executable path

/-- A blank name changes nothing. -/
@[simp] theorem withExecutable_none (config : Config) : config.withExecutable none = config := rfl

end Config

end PackageLint
