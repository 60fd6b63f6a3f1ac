import PackageLint.Command.Environment
import PackageLint.Rules.Evaluation
import PackageLint.Text.Page

/-!
# Scanning sources for patterns

The rules are tried on a source file, or on every source file of a directory. Issues below a
threshold are left out.

## Main results

* `positives_scanText`: a threshold leaves the praise alone.
-/

namespace PackageLint

/-- What the rules say of a file. -/
structure ScannedFile where
  /-- The name of the file. -/
  name : String
  /-- The problems. -/
  issues : List RuleIssue := []
  /-- The praise. -/
  positives : List String := []
  deriving DecidableEq, Repr

/-- What the rules say of a path. -/
structure PatternScan where
  /-- The path. -/
  path : String
  /-- The files. -/
  files : List ScannedFile := []
  deriving DecidableEq, Repr

namespace PatternScan

/-- The problems of all files. -/
def issues (scan : PatternScan) : List RuleIssue := scan.files.flatMap (·.issues)

/-- The number of problems. -/
def issueCount (scan : PatternScan) : Nat := scan.issues.length

/-- The number of lines of praise. -/
def positiveCount (scan : PatternScan) : Nat := (scan.files.flatMap (·.positives)).length

/-! ### Running -/

/-- The configuration and the source files for a path. -/
def sourcesAt (env : Environment) (target : Path) : Except Failure (Config × List Path) :=
  if !env.disk.has target then .error (.noPath target)
  else if env.disk.isFile target then
    if target.suffix = Sources.suffix then
      (env.config target.parent).map fun config => (config, [target])
    else .error (.notSource target)
  else (env.config target).map fun config =>
    (config, Sources.find env.disk target config.exclude)

/-- What the rules say of a text, without the issues below a threshold. -/
def scanText (finds : String → List Char → Bool) (tables : RuleTables) (threshold : Severity)
    (name : String) (text : List Char) : ScannedFile :=
  let found := tables.evaluateWith (fun rule => finds rule.pattern) text name
  { name
    issues := found.issues.filter (·.severity.atLeast threshold)
    positives := found.positives }

/-- Scans files one behind the other; a file that is no text is passed over. -/
def scanFiles (env : Environment) (tables : RuleTables) (threshold : Severity) :
    List Path → Run (List ScannedFile)
  | [] => pure []
  | file :: rest => do
    let scanned ← match env.disk.readText? file with
      | some text => pure (scanText env.languages.finds tables threshold file.name text)
      | none => do
        Run.log .error s!"Error reading file: {file.text}"
        pure { name := file.name }
    return scanned :: (← scanFiles env tables threshold rest)

/-- Scans the sources at a path. -/
def run (env : Environment) (path : Path) (threshold : Severity) : Run PatternScan := do
  let target := env.disk.resolve path
  let (config, files) ← Run.ofExcept (sourcesAt env target)
  -- Rules are loaded only where there is something to scan.
  if files.isEmpty then Run.fail .noSources
  let tables ← env.rules config
  let scan : PatternScan := {
    path := target.text
    files := ← scanFiles env tables threshold files }
  Run.log .info s!"Scanned {scan.files.length} Swift file(s), {scan.issueCount} issue(s)"
  return scan

/-! ### The report -/

/-- A file as a table of a report. -/
def fileDocument (file : ScannedFile) : Value := .ofFields [
  ("name", .text file.name),
  ("issues", Report.toDocument (file.issues.map (·.toDiagnostic))),
  ("positives", .ofTexts file.positives)]

/-- The scan as a table of a report. -/
def toDocument (scan : PatternScan) : Value := .ofFields [
  ("path", .text scan.path),
  ("files", .list (scan.files.map fileDocument)),
  ("summary", .ofFields [
    ("issues", .ofNat scan.issueCount),
    ("errors", .ofNat (errorCount scan.issues)),
    ("warnings", .ofNat (warningCount scan.issues)),
    ("positives", .ofNat scan.positiveCount)])]

/-- The lines for an issue. -/
def issueLines (issue : RuleIssue) : List String :=
  s!"{issue.severity.glyph} {issue.message}" ::
    (RuleIssue.nonempty issue.reference).toList.map fun place => s!"   📚 See: {place}"

/-- The lines for a file. -/
def fileLines (showPositives : Bool) (file : ScannedFile) : List String :=
  [s!"📝 Validating: {file.name}"] ++
    (if file.issues.isEmpty then ["✅ No pattern violations found"]
      else file.issues.flatMap issueLines) ++
    Text.onlyIf (showPositives && !file.positives.isEmpty)
      ("🎯 Modern TCA patterns detected:" :: file.positives.map fun line => s!"   {line}")

/-- The lines at the end where there is no issue. -/
def praiseLines (scan : PatternScan) (showPositives : Bool) : List String :=
  ["🎉 All files follow TCA patterns!", "✅ Ready for production"] ++
    Text.onlyIf (showPositives && scan.positiveCount != 0)
      [s!"🎯 Detected {scan.positiveCount} modern TCA patterns"]

/-- The lines at the end where there are issues. -/
def issueSummary (scan : PatternScan) : List String := [
  s!"⚠️ Found {scan.issueCount} pattern issue(s):",
  s!"   - {errorCount scan.issues} error(s) that must be fixed",
  s!"   - {warningCount scan.issues} warning(s) that should be reviewed", "",
  "Next steps:",
  "1. Review the documentation references above",
  "2. Apply the correct TCA patterns",
  "3. Re-run this validation",
  "4. Check compilation with: swiftc -typecheck"]

/-- The scan for a reader. -/
def page (scan : PatternScan) (showPositives : Bool) : String :=
  Text.page <|
    ["🔍 TCA Pattern Validator", "=========================================",
      s!"📁 Scanning: {scan.path}", "", s!"📝 Found {scan.files.length} Swift file(s)", ""] ++
    scan.files.flatMap (fileLines showPositives) ++
    ["", "📊 TCA Pattern Validation Summary", "=================================="] ++
    if scan.issueCount = 0 then praiseLines scan showPositives else issueSummary scan

/-- A threshold leaves the praise alone. -/
theorem positives_scanText (finds : String → List Char → Bool) (tables : RuleTables)
    (threshold other : Severity) (name : String) (text : List Char) :
    (scanText finds tables threshold name text).positives =
      (scanText finds tables other name text).positives := rfl

end PatternScan

end PackageLint
