import PackageLint.Diagnostic.Severity
import PackageLint.Document.Value

/-!
# Analyses of command output

What is known after one output of the package manager has been read: the kind of the output, the
targets and the dependencies it lists, and the issues found in it. The number of targets is stored
by whoever lists them; all other numbers are computed from the lists.

## Main results

* `CommandKind.ofName?_name`: every command is found under its name.
-/

namespace PackageLint.Output

/-- The command that wrote an output. -/
inductive CommandKind
  /-- The manifest as a JSON document. -/
  | dumpPackage
  /-- A description for readers. -/
  | describe
  /-- The graph of dependencies, as a JSON document or as a drawing. -/
  | showDependencies
  /-- The file of resolved dependencies. -/
  | resolved
  /-- The log of a build. -/
  | build
  deriving DecidableEq, Repr

namespace CommandKind

/-- The name of a command. -/
def name : CommandKind → String
  | dumpPackage => "dump-package"
  | describe => "describe"
  | showDependencies => "show-dependencies"
  | resolved => "resolved"
  | build => "build"

/-- All commands. -/
def all : List CommandKind := [dumpPackage, describe, showDependencies, resolved, build]

/-- The command with a name. -/
def ofName? (s : String) : Option CommandKind := all.find? (·.name = s)

/-- Every command is found under its name. -/
@[simp] theorem ofName?_name (k : CommandKind) : ofName? k.name = some k := by
  cases k <;> rfl

end CommandKind

/-- What an issue is about. -/
inductive IssueKind
  /-- The output cannot be read. -/
  | syntaxError
  /-- The package has no targets. -/
  | missingTarget
  /-- A dependency is in doubt. -/
  | dependency
  /-- The package is slow to build. -/
  | performance
  /-- A place in the source. -/
  | compilation
  /-- None of these. -/
  | unknown
  deriving DecidableEq, Repr

/-- The name of a kind of issue. -/
def IssueKind.name : IssueKind → String
  | syntaxError => "syntax_error"
  | missingTarget => "missing_target"
  | dependency => "dependency"
  | performance => "performance"
  | compilation => "compilation"
  | unknown => "unknown"

/-- Something that an output says is wrong. -/
structure Issue where
  /-- What it is about. -/
  kind : IssueKind
  /-- How bad it is. -/
  severity : Severity
  /-- What is wrong. -/
  message : String
  /-- The target it is about. -/
  target : Option String := none
  /-- The name of the file it is in. -/
  file : Option String := none
  /-- The line it is on. -/
  line : Option Nat := none
  deriving DecidableEq, Repr

/-- The issue as a table of a report; the place is left out where there is none. -/
def Issue.toDocument (issue : Issue) : Value :=
  let optional (key : String) (value : Option Value) : List (String × Value) :=
    (value.map fun v => (key, v)).toList
  .ofFields ([
    ("type", .text issue.kind.name),
    ("severity", .text issue.severity.name),
    ("message", .text issue.message)] ++
    optional "target" (issue.target.map .text) ++
    optional "file" (issue.file.map .text) ++
    optional "line" (issue.line.map .ofNat))

/-- A target of a package. -/
structure Target where
  /-- The name of the target. -/
  name : String
  /-- What the target builds. -/
  kind : String
  /-- The names of what it depends on. -/
  dependencies : List String := []
  deriving DecidableEq, Repr

/-- The targets that an output lists. -/
structure Targets where
  /-- The number of targets. -/
  count : Nat := 0
  /-- The only target that was asked for. -/
  filter : Option String := none
  /-- The targets, in their order. -/
  targets : List Target := []
  deriving DecidableEq, Repr

namespace Targets

/-- The names of the targets that build a program. -/
def executables (t : Targets) : List String :=
  (t.targets.filter (·.kind = "executable")).map (·.name)

/-- Some target holds tests. -/
def hasTests (t : Targets) : Bool := t.targets.any (·.kind = "test")

/-- The targets as a table of a report. -/
def toDocument (t : Targets) : Value := .ofFields [
  ("count", .ofNat t.count),
  ("filtered_target", .ofText? t.filter),
  ("executables", .ofTexts t.executables),
  ("has_test_targets", .bool t.hasTests),
  ("targets", .list (t.targets.map fun target => .ofFields [
    ("name", .text target.name),
    ("type", .text target.kind),
    ("dependencies", .ofTexts target.dependencies)]))]

end Targets

/-- A package that is fetched from elsewhere. -/
structure ExternalDependency where
  /-- The name of the package. -/
  name : String
  /-- Where it is fetched from. -/
  url : Option String := none
  /-- Which version is asked for. -/
  version : Option String := none
  deriving DecidableEq, Repr

/-- The dependencies that an output lists. -/
structure Dependencies where
  /-- The packages from elsewhere. -/
  external : List ExternalDependency := []
  /-- The packages in the same place. -/
  locals : List String := []
  /-- Some package depends on itself, perhaps through others. -/
  circular : Bool := false
  /-- The number of packages on the longest way through the graph. -/
  maxDepth : Nat := 0
  deriving DecidableEq, Repr

namespace Dependencies

/-- The number of dependencies. -/
def count (d : Dependencies) : Nat := d.external.length + d.locals.length

/-- The dependencies as a table of a report. -/
def toDocument (d : Dependencies) : Value := .ofFields [
  ("count", .ofNat d.count),
  ("external", .list (d.external.map fun dep => .ofFields [
    ("name", .text dep.name),
    ("url", .ofText? dep.url),
    ("version", .ofText? dep.version)])),
  ("local", .ofTexts d.locals),
  ("circular_imports", .bool d.circular),
  ("max_depth", .ofNat d.maxDepth)]

end Dependencies

/-- What is known of one output. -/
structure Analysis where
  /-- The command that wrote the output. -/
  command : CommandKind
  /-- The output could be read and reports no failure. -/
  success : Bool
  /-- The name of the package. -/
  packageName : Option String := none
  /-- The targets, if the output can list any. -/
  targets : Option Targets := none
  /-- The dependencies, if the output can list any. -/
  dependencies : Option Dependencies := none
  /-- What is wrong. -/
  issues : List Issue := []
  /-- The output itself, if it is to be kept. -/
  raw : Option String := none
  deriving DecidableEq, Repr

namespace Analysis

/-- The number of issues that are errors or worse. -/
def errorCount (a : Analysis) : Nat := a.issues.countP (·.severity.atLeast .error)

/-- The number of issues that are warnings. -/
def warningCount (a : Analysis) : Nat := a.issues.countP (·.severity = .warning)

/-- The analysis as the table of a report. Reading takes no measurable time. -/
def toDocument (a : Analysis) : Value :=
  let raw := (a.raw.map fun text => ("raw", Value.text text)).toList
  .ofFields ([
    ("command", .text a.command.name),
    ("success", .bool a.success),
    ("package_name", .ofText? a.packageName),
    ("targets", (a.targets.map (·.toDocument)).getD .null),
    ("dependencies", (a.dependencies.map (·.toDocument)).getD .null),
    ("issues", .list (a.issues.map (·.toDocument))),
    ("metrics", .ofFields [("parse_time", .real .zero)])] ++ raw)

end Analysis

end PackageLint.Output
