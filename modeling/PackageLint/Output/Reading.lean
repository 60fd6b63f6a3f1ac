import PackageLint.Output.BuildLog
import PackageLint.Output.DependencyDrawing
import PackageLint.Output.Description
import PackageLint.Output.PackageDump
import PackageLint.Output.ResolvedPins

/-!
# Reading an output

The kind of an output is told by its shape: a document by its fields, a drawing by its branches, a
description by its labels, and everything else is the log of a build.
-/

namespace PackageLint.Output

open Text

/-- The kind of a document with the given fields. -/
def documentKind (entries : Table) : CommandKind :=
  if Table.has entries "pins" || (Table.get entries "object").isTable then .resolved
  else if Table.has entries "identity" && Table.has entries "dependencies" &&
      !Table.has entries "targets" then .showDependencies
  else .dumpPackage

/-- The text starts with an opening brace, blanks left aside. -/
def startsWithBrace (text : String) : Bool := (trimStart text.toList).head? = some '\x7b'

/-- The kind of an output. A document that cannot be read is left to the reader of dumps. -/
def detectKind (text : String) : CommandKind :=
  match bracedDocument? text with
  | some (.table entries) => documentKind entries
  | _ =>
    if startsWithBrace text then .dumpPackage
    else if isDrawing text then .showDependencies
    else if isDescription text then .describe
    else .build

/-- The analysis of a graph that is no document. -/
def unreadableGraph (message : String) : Analysis where
  command := .showDependencies
  success := false
  issues := [{ kind := .syntaxError, severity := .error, message }]

/-- The analysis of the graph that a document describes. -/
def readGraphDocument (text : List Char) : Except ShapeFault Analysis :=
  match Json.read text with
  | .error failure =>
    .ok (unreadableGraph s!"Invalid JSON in show-dependencies output: {failure.flaw.message}")
  | .ok (.table entries) =>
    (DependencyTree.ofTable entries).summary.map
      (·.analysis (Table.get entries "name").text?)
  | .ok _ => .ok (GraphSummary.analysis none {})

/-- The analysis of a dependency graph, given as a document or as a drawing. -/
def readGraph (text : String) : Except ShapeFault Analysis :=
  if startsWithBrace text then readGraphDocument (trimStart text.toList)
  else .ok ((Drawing.ofText text).summary.analysis none)

/-- The analysis of an output of a known kind. -/
def readAs (kind : CommandKind) (text : String) (filter : Option String) :
    Except ShapeFault Analysis :=
  match kind with
  | .dumpPackage => PackageDump.read text filter
  | .describe => .ok (readDescription text filter)
  | .showDependencies => readGraph text
  | .resolved => .ok (readResolved text)
  | .build => .ok (readBuildLog text filter)

/-- The analysis of an output. Its kind is told by its shape unless it is given, and the output
itself is kept if that is asked for. -/
def read (text : String) (filter : Option String) (keepRaw : Bool)
    (kind : Option CommandKind) : Except ShapeFault Analysis :=
  (readAs (kind.getD (detectKind text)) text filter).map fun analysis =>
    if keepRaw then { analysis with raw := some text } else analysis

/-- What the issues of a dump say of the structure of the package. -/
def structureFinding? (issue : Issue) : Option Diagnostic :=
  match issue.kind with
  | .missingTarget => some {
      severity := .warning
      category := .configuration
      message := issue.message
      suggestion := "Add at least one target to Package.swift" }
  | .performance => some {
      severity := .warning
      category := .performance
      message := issue.message
      suggestion := "Consider splitting into multiple packages" }
  | .syntaxError => some {
      severity := .error
      category := .configuration
      message := issue.message
      suggestion := "Check the output of 'swift package dump-package'" }
  | _ => none

/-- The findings on the structure of a package. -/
def structureFindings (analysis : Analysis) : List Diagnostic :=
  analysis.issues.filterMap structureFinding?

end PackageLint.Output
