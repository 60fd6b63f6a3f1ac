import PackageLint.Diagnostic.Basic
import PackageLint.Document.Distinct
import PackageLint.Json.Reader
import PackageLint.Text.Search

/-!
# Resolved dependencies

A file of resolved dependencies pins each package to a version, to a branch or to a bare revision.
The latter two are flagged. Summaries of several files add up.

## Main results

* `Summary.add_assoc`: the files may be grouped in any way.
-/

namespace PackageLint.Resolved

/-- What a package is pinned to. -/
inductive PinForm
  /-- A branch, which moves. -/
  | branch (name : String)
  /-- A revision without a version. -/
  | revisionOnly
  /-- A version. -/
  | version
  deriving DecidableEq, Repr

/-- The name of a form. -/
def PinForm.name : PinForm → String
  | branch _ => "branch"
  | revisionOnly => "revision_only"
  | version => "version_pinned"

/-- A package and what it is pinned to. -/
structure Pin where
  /-- The package. -/
  identity : String
  /-- What it is pinned to. -/
  form : PinForm
  deriving DecidableEq, Repr

namespace Pin

/-- A pin to anything but a version is flagged. -/
def flagged (pin : Pin) : Bool := pin.form ≠ .version

/-- The branch that a package is pinned to. -/
def branch? (pin : Pin) : Option String :=
  match pin.form with
  | .branch name => some name
  | _ => none

/-- The name by which a flagged package is reported. -/
def displayName (pin : Pin) : String :=
  if pin.form = .revisionOnly then s!"{pin.identity} (revision-only)" else pin.identity

/-- The name of a package that has none. -/
def unknownIdentity : String := "<unknown>"

/-- What a package with the given state is pinned to. -/
def formOf (state : Value) : PinForm :=
  match state with
  | .table entries =>
    match Table.get entries "branch", Table.get entries "revision", Table.get entries "version" with
    | .text branch, _, _ => .branch branch
    | .null, .text _, .null => .revisionOnly
    | _, _, _ => .version
  | _ => .version

/-- The pin that a table describes. -/
def ofTable (entries : Table) : Pin where
  identity :=
    ((Table.get entries "identity").orElse (Table.get entries "package")).nonemptyText?.getD
      unknownIdentity
  form := formOf (Table.get entries "state")

end Pin

/-- The pins of a document, whatever they are: its list of pins, or the one inside its object. -/
def pinItems (document : Value) : List Value :=
  match document with
  | .table entries =>
    -- The older layout keeps the pins inside of an object.
    let pins := match Table.get entries "pins", Table.get entries "object" with
      | .null, .table inner => Table.get inner "pins"
      | pins, _ => pins
    pins.items
  | _ => []

/-- The tables of the pins of a document. -/
def pinTables (document : Value) : List Table := (pinItems document).filterMap Value.table?

/-- What is known of the pins of one or more files. -/
structure Summary where
  /-- The number of pins. -/
  total : Nat := 0
  /-- The number of flagged pins. -/
  flagged : Nat := 0
  /-- The names of the flagged pins, with repetitions. -/
  flaggedNames : List String := []
  deriving DecidableEq, Repr

namespace Summary

/-- The names of the flagged pins, each once. -/
def names (s : Summary) : List String := distinct s.flaggedNames

/-- What is known of two groups of files. -/
def add (s t : Summary) : Summary :=
  ⟨s.total + t.total, s.flagged + t.flagged, s.flaggedNames ++ t.flaggedNames⟩

instance : Add Summary := ⟨add⟩

/-- The sum of some summaries. -/
def sum (summaries : List Summary) : Summary := summaries.foldl add {}

/-- What is known after one more pin. -/
def count (s : Summary) (pin : Pin) : Summary :=
  if pin.flagged then
    { total := s.total + 1
      flagged := s.flagged + 1
      flaggedNames := s.flaggedNames ++ [pin.displayName] }
  else { s with total := s.total + 1 }

/-- What is known of some pins. -/
def ofPins (pins : List Pin) : Summary := pins.foldl count {}

/-- What is known of the pins of a document. -/
def ofDocument (document : Value) : Summary := ofPins ((pinTables document).map Pin.ofTable)

/-- What is known of the pins of a text; a text that is no document has none. -/
def ofText (text : List Char) : Summary := (Json.read? text).elim {} ofDocument

@[simp] theorem total_add (s t : Summary) : (s + t).total = s.total + t.total := rfl

@[simp] theorem flagged_add (s t : Summary) : (s + t).flagged = s.flagged + t.flagged := rfl

@[simp] theorem flaggedNames_add (s t : Summary) :
    (s + t).flaggedNames = s.flaggedNames ++ t.flaggedNames := rfl

/-- Sums may be grouped in any way. -/
theorem add_assoc (s t u : Summary) : s + t + u = s + (t + u) := by
  show (⟨_, _, _⟩ : Summary) = ⟨_, _, _⟩
  simp [Nat.add_assoc]

end Summary

/-- A finding about the resolved dependencies. -/
def resolvedFinding (severity : Severity) (message : String) (suggestion : Option String) :
    Diagnostic :=
  { severity, category := .dependency, message, suggestion }

/-- What is said of resolved dependencies. `found` tells whether there is any file of them, and
`flagging` whether flagged pins are a matter for complaint. -/
def findings (summary : Summary) (found flagging : Bool) : List Diagnostic :=
  if !found then
    [resolvedFinding .info "No Package.resolved found"
      (some "Run 'swift package resolve' to generate resolved dependencies")]
  else if summary.flagged = 0 then
    [resolvedFinding .info "All dependencies are properly versioned" none]
  else if !flagging then
    [resolvedFinding .info s!"Found {summary.flagged} branch dependencies"
      (some "Use --flag-branch-deps to flag these as anti-patterns")]
  else
    resolvedFinding .warning s!"Found {summary.flagged} branch dependencies (anti-pattern)"
        (some "Pin all dependencies to specific versions or exact revisions") ::
      summary.names.map fun name =>
        resolvedFinding .info s!"Branch dependency: {name}"
          (some "Replace 'branch: \"main\"' with specific version or revision")

end PackageLint.Resolved
