import PackageLint.Number.Decimal
import PackageLint.Output.Analysis
import PackageLint.Text.Page

/-!
# Overviews of an analysis

An analysis is shown to a reader on one line or in full.
-/

namespace PackageLint.Output.Analysis

/-- A text behind a condition. -/
def given (condition : Bool) (text : String) : String := if condition then text else ""

/-- A part of the one-line overview for what may be absent. -/
def part {α : Type} (value : Option α) (text : α → String) : String := value.elim "" text

/-- The analysis on one line. -/
def summary (a : Analysis) : String :=
  Text.withoutTrailingBlanks <|
    (if a.success then "✅" else "❌") ++ s!" {a.command.name}: " ++
    part a.targets (fun t => s!"{t.count} target(s), ") ++
    part a.dependencies (fun d => s!"{d.count} dependencies, ") ++
    s!"{a.errorCount} error(s), {a.warningCount} warning(s)"

/-- A text that is there and not empty. -/
def shown (s : Option String) (text : String → String) : String :=
  part (s.filter (!·.isEmpty)) text

/-- A target with what it depends on. -/
def targetLine (t : Target) : String :=
  let dependencies := Text.joinWith ", " t.dependencies
  s!"  - {t.name} [{t.kind}]" ++ given (!t.dependencies.isEmpty) s!" -> {dependencies}" ++ "\n"

/-- The targets, one on a line. -/
def targetLines (t : Targets) : String :=
  s!"Targets: {t.count}" ++ shown t.filter (fun name => s!" (filtered: {name})") ++ "\n" ++
    String.join (t.targets.map targetLine)

/-- The dependencies, one on a line. -/
def dependencyLines (d : Dependencies) : String :=
  s!"Dependencies: {d.count}\n" ++
    String.join (d.external.map fun dep =>
      s!"  - {dep.name}" ++ shown dep.version (fun v => s!" ({v})") ++ "\n") ++
    String.join (d.locals.map fun name => s!"  - {name} (local)\n") ++
    given (d.maxDepth != 0) s!"Max depth: {d.maxDepth}\n"

/-- An issue with its place. -/
def issueLine (issue : Issue) : String :=
  let line := issue.line.elim "None" toString
  s!"{issue.severity.glyph} [{issue.kind.name}] {issue.message}" ++
    shown issue.file (fun file => s!" ({file}:{line})") ++ "\n"

/-- The analysis in full. -/
def details (a : Analysis) : String :=
  Text.withoutTrailingBlanks <|
    "🔍 SPM Analysis Results\n======================\n" ++
    s!"Command: {a.command.name}\nSuccess: " ++ (if a.success then "true" else "false") ++ "\n" ++
    shown a.packageName (fun name => s!"Package: {name}\n") ++
    part a.targets targetLines ++ part a.dependencies dependencyLines ++
    s!"Issues: {a.issues.length}\n" ++ String.join (a.issues.map issueLine) ++
    s!"Parse time: {Binary64.zero.fixed 4}s\n"

end PackageLint.Output.Analysis
