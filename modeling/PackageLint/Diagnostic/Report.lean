import PackageLint.Diagnostic.Basic
import PackageLint.Json.Reader
import PackageLint.Json.Writer
import PackageLint.Text.Page

/-!
# Reports of diagnostics

A report is the JSON list of its diagnostics. It is read back from a list or from a table with the
list under `diagnostics`; entries that are no tables are passed over.
-/

namespace PackageLint.Report

/-- Why a text could not be read as a report. -/
inductive Failure
  /-- The text is no JSON. -/
  | json (failure : Json.Failure)
  /-- There is no list of diagnostics. -/
  | noList
  /-- The line number of a place is none. -/
  | line (number : NotANumber)
  deriving DecidableEq, Repr

/-- The wording of a failure. -/
def Failure.message : Failure → String
  | json failure => failure.message
  | noList => "Expected a list of diagnostics"
  | line number => number.message

/-- The document of a report. -/
def toDocument (ds : List Diagnostic) : Value := .list (ds.map (·.toDocument))

/-- The text of a report. -/
def write (indent : Option Nat) (ds : List Diagnostic) : String := Json.write indent (toDocument ds)

/-- The list of diagnostics of a document: the document itself, or its field. -/
def entries? : Value → Option (List Value)
  | .list items => some items
  | .table fields => ((Table.find? fields (.text "diagnostics")).getD (.list [])).list?
  | _ => none

/-- The diagnostics of a document. -/
def ofDocument (v : Value) : Except Failure (List Diagnostic) :=
  match entries? v with
  | none => .error .noList
  | some items => ((items.filterMap Value.table?).mapM Diagnostic.ofTable).mapError .line

/-- The diagnostics of a text. -/
def read (s : String) : Except Failure (List Diagnostic) :=
  match Json.read s.toList with
  | .error failure => .error (.json failure)
  | .ok v => ofDocument v

/-- The diagnostics for a reader. -/
def rendered (ds : List Diagnostic) : String := Text.page (Diagnostic.paragraphs ds)

end PackageLint.Report
