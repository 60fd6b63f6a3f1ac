import PackageLint.Diagnostic.Severity
import PackageLint.Document.Written
import PackageLint.Text.Search

/-!
# Diagnostics

A diagnostic is a finding with its severity and category, and perhaps a place in a file and a
suggestion. A place is written as `file:line`; reading cuts at the last colon, so a file name may
hold colons. What stands behind the last colon is a line number if it is made of digits, and digits
that no number can be written with are the one way in which reading a place fails.

## Main results

* `Diagnostic.hasErrors_append`: joined lists hold an error if one of them does.
-/

namespace PackageLint

/-- A text that was to be a whole number and is none. -/
structure NotANumber where
  /-- The text. -/
  text : String
  deriving DecidableEq, Repr

/-- The wording of the failure. -/
def NotANumber.message (n : NotANumber) : String :=
  "invalid literal for int() with base 10: " ++
    .ofList ((Text.quotedChars n.text.toList).take 200)

/-- The place of a finding: a file and perhaps a line. -/
structure Location where
  /-- The file. -/
  file : String
  /-- The line in the file. -/
  line : Option Int := none
  deriving DecidableEq, Repr

namespace Location

/-- The written form of a place. -/
def written (l : Location) : String :=
  match l.line with
  | none => l.file
  | some n => s!"{l.file}:{n}"

/-- The place that a text writes. -/
def read (s : String) : Except NotANumber Location :=
  match Text.cutAtLast ':' s.toList with
  | some (before, after) =>
    -- Digits such as superscripts look like a number and are none.
    if !after.isEmpty && after.all Text.isDigit then
      match Text.natural? after with
      | some n => .ok { file := .ofList before, line := some n }
      | none => .error ⟨.ofList after⟩
    else .ok { file := s }
  | none => .ok { file := s }

end Location

/-- A finding. -/
structure Diagnostic where
  /-- How bad it is. -/
  severity : Severity
  /-- What it is about. -/
  category : Category
  /-- What was found. -/
  message : String
  /-- Where it was found. -/
  location : Option Location := none
  /-- What can be done about it. -/
  suggestion : Option String := none
  deriving DecidableEq, Repr

namespace Diagnostic

/-- The diagnostic as a table of a report. -/
def toDocument (d : Diagnostic) : Value := .ofFields [
  ("severity", .text d.severity.name),
  ("category", .text d.category.name),
  ("message", .text d.message),
  ("location", .ofText? (d.location.map (·.written))),
  ("suggestion", .ofText? d.suggestion)]

/-- The diagnostic that a table of a report describes. Missing fields and fields of other kinds
take defaults. -/
def ofTable (entries : Table) : Except NotANumber Diagnostic := do
  let location ← match (Table.get entries "location").nonemptyText? with
    | some s => (Location.read s).map some
    | none => pure none
  return {
    severity := .ofValue (Table.get entries "severity")
    category := .ofValue (Table.get entries "category")
    message := ((Table.find? entries (.text "message")).getD (.text "")).written
    location
    suggestion := (Table.get entries "suggestion").text? }

/-- Some diagnostic is an error or worse. -/
def hasErrors (ds : List Diagnostic) : Bool := ds.any (·.severity.atLeast .error)

/-- The diagnostic on one line. -/
def line (d : Diagnostic) : String :=
  let place := match d.location with
    | some l => s!" ({l.written})"
    | none => ""
  s!"{d.severity.glyph} [{d.category.name}] {d.message}{place}"

/-- The diagnostic with its suggestion on a second line. -/
def paragraph (d : Diagnostic) : List String :=
  d.line :: match d.suggestion with
    | some s => if s.isEmpty then [] else [s!"   💡 {s}"]
    | none => []

/-- Diagnostics one below the other. -/
def paragraphs (ds : List Diagnostic) : List String := ds.flatMap paragraph

end Diagnostic

@[simp] theorem Diagnostic.hasErrors_nil : Diagnostic.hasErrors [] = false := rfl

@[simp] theorem Diagnostic.hasErrors_append (ds es : List Diagnostic) :
    hasErrors (ds ++ es) = (hasErrors ds || hasErrors es) := by simp [hasErrors]

end PackageLint
