import PackageLint.Output.Analysis
import PackageLint.Text.Blank
import PackageLint.Text.Case
import PackageLint.Text.Lines
import PackageLint.Text.Search

/-!
# Descriptions of a package

A description is meant for readers. It is searched line by line for the name of the package and
for errors. It says nothing of single targets.
-/

namespace PackageLint.Output

open Text

/-- What begins a line that names the package. -/
def nameLabels : List String := ["package name:", "name:"]

/-- What begins a line of a description. -/
def descriptionLabels : List String := ["package name:", "tools version:", "manifest display name:"]

/-- Some line of the text is a line of a description, in any case. -/
def isDescription (text : String) : Bool :=
  (splitLines (lower text.toList)).any fun line =>
    startsWithAny (descriptionLabels.map String.toList) (trim line)

/-- The name of the package on a trimmed line: what follows the first label that begins it. -/
def packageName? (line : List Char) : Option String :=
  let label := nameLabels.find? fun label => label.toList.isPrefixOf (lower line)
  let name := label.map fun label => trim (line.drop label.length)
  (name.filter (!·.isEmpty)).map .ofList

/-- The issue that a trimmed line raises. -/
def descriptionIssue? (line : List Char) : Option Issue :=
  if occursIn "error".toList (lower line) then
    some { kind := .syntaxError, severity := .error, message := .ofList line }
  else none

/-- The analysis of a description in which one target was asked for. -/
def undescribedTarget (target : String) : Analysis where
  command := .describe
  success := true
  targets := some { count := 0, filter := some target }
  dependencies := some {}
  issues := [{
    kind := .unknown
    severity := .info
    target := some target
    message := "describe command doesn't support target-specific analysis. " ++
      "Use dump-package for target filtering." }]

/-- The analysis of a description. -/
def readDescription (text : String) : Option String → Analysis
  | some target => undescribedTarget target
  | none =>
    let lines := (linesOf text).map trim
    let name := lines.findSome? packageName?
    { command := .describe
      success := name.isSome
      packageName := name
      issues := lines.filterMap descriptionIssue? }

end PackageLint.Output
