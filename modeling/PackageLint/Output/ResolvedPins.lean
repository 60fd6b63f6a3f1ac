import PackageLint.Output.Analysis
import PackageLint.Resolved.Pin
import PackageLint.Text.Blank

/-!
# The file of resolved dependencies as an output

Each pin is a dependency with the version, the branch or the revision that it is pinned to, and
each flagged pin raises an issue.

## Main results

* `PinListing.external_ofItems` and `PinListing.issues_ofItems`: what is said of pins, pin by pin.
-/

namespace PackageLint.Output

/-- The document of a text between braces, blanks around it left aside. -/
def bracedDocument? (text : String) : Option Value :=
  match Text.trim text.toList with
  | '\x7b' :: rest => Json.read? ('\x7b' :: rest)
  | _ => none

/-- What the state of a pin shows as its version: the version, else the branch, else the start of
the revision. -/
def pinVersion? (state : Value) : Option String :=
  match state with
  | .table entries =>
    match Table.get entries "version", Table.get entries "branch", Table.get entries "revision" with
    | .text version, _, _ => some version
    | _, .text branch, _ => some s!"branch: {branch}"
    | _, _, .text revision => some s!"revision: {String.ofList (revision.toList.take 7)}"
    | _, _, _ => none
  | _ => none

/-- The dependency that the table of a pin describes. -/
def pinnedPackage (entries : Table) : ExternalDependency where
  name := (Resolved.Pin.ofTable entries).identity
  url := ((Table.get entries "location").orElse (Table.get entries "repositoryURL")).text?
  version := pinVersion? (Table.get entries "state")

/-- The issue that a pin raises. -/
def pinIssue? (pin : Resolved.Pin) : Option Issue :=
  if pin.flagged then
    some { kind := .dependency
           severity := .warning
           message := s!"Branch dependency: {pin.displayName}" }
  else none

/-- What holds the pins of a document: its pins, or in the older layout those of its object. -/
def listedPins (document : Option Value) : Value :=
  match document with
  | some (.table entries) =>
    let pins := Table.get entries "pins"
    match Table.get entries "object" with
    | .table inner => if pins.isNull then Table.get inner "pins" else pins
    | _ => pins
  | _ => .list []

/-- What the pins of a file say, one behind the other. -/
structure PinListing where
  /-- The packages, in their order. -/
  external : List ExternalDependency := []
  /-- The issues, in their order. -/
  issues : List Issue := []
  deriving DecidableEq, Repr

/-- One more pin; what is no table is passed over. -/
def PinListing.add (listing : PinListing) (pin : Value) : PinListing :=
  match pin with
  | .table entries =>
    { external := listing.external ++ [pinnedPackage entries]
      issues := listing.issues ++ (pinIssue? (.ofTable entries)).toList }
  | _ => listing

/-- What pins say. -/
def PinListing.ofItems (pins : List Value) : PinListing := pins.foldl add {}

/-- The analysis of a file of resolved dependencies. -/
def readResolved (text : String) : Analysis :=
  let document := bracedDocument? text
  let listing := PinListing.ofItems (listedPins document).items
  { command := .resolved
    success := document.isSome
    dependencies := some { external := listing.external }
    issues := listing.issues }

namespace PinListing

/-- Each table among some pins is a package. -/
theorem external_ofItems (pins : List Value) :
    (ofItems pins).external = (pins.filterMap Value.table?).map pinnedPackage := by
  have hfrom (listing : PinListing) : (pins.foldl add listing).external =
      listing.external ++ (pins.filterMap Value.table?).map pinnedPackage := by
    induction pins generalizing listing with
    | nil => simp
    | cons pin rest ih =>
      rw [List.foldl_cons, ih]
      cases pin <;> simp [add, List.filterMap_cons]
  rw [ofItems, hfrom, List.nil_append]

/-- Each flagged table among some pins raises an issue. -/
theorem issues_ofItems (pins : List Value) :
    (ofItems pins).issues =
      ((pins.filterMap Value.table?).map Resolved.Pin.ofTable).filterMap pinIssue? := by
  have hfrom (listing : PinListing) : (pins.foldl add listing).issues = listing.issues ++
      ((pins.filterMap Value.table?).map Resolved.Pin.ofTable).filterMap pinIssue? := by
    induction pins generalizing listing with
    | nil => simp
    | cons pin rest ih =>
      rw [List.foldl_cons, ih]
      cases pin with
      | table entries => cases hissue : pinIssue? (.ofTable entries) <;> simp [add, hissue]
      | list | scalar => simp [add, List.filterMap_cons]
  rw [ofItems, hfrom, List.nil_append]

end PinListing

end PackageLint.Output
