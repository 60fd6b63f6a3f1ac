import PackageLint.Output.DependencyGraph
import PackageLint.Text.Blank
import PackageLint.Text.Lines
import PackageLint.Text.Search

/-!
# Drawings of dependency graphs

A drawing has one line for each package: an indentation of four characters for each level, a
branch, the name, and perhaps an address with a version in angle brackets. Reading keeps the way
from the top level down to the last package.

## Main results

* `getLast?_path_add`: the way to the last package ends with it.
-/

namespace PackageLint.Output

open Text

/-- The branches that a drawing is recognised by. -/
def branchMarks : List String := ["├──", "└──"]

/-- The text has a branch of a drawing somewhere. -/
def isDrawing (text : String) : Bool := branchMarks.any (contains text)

/-- The indentation of one level. -/
def indentWidth : Nat := 4

/-- A line of a drawing. -/
structure DrawnPackage where
  /-- The number of levels above the package. -/
  level : Nat
  /-- The package. -/
  package : ExternalDependency
  deriving DecidableEq, Repr

namespace DrawnPackage

/-- The end of an address: a closing bracket, or a version between an at sign and the bracket. -/
def closing? : List Char → Option (Option (List Char))
  | '>' :: _ => some none
  | '@' :: rest =>
    let version := rest.takeWhile fun c => c != '@' && c != '>'
    match version, rest.drop version.length with
    | _ :: _, '>' :: _ => some (some version)
    | _, _ => none
  | _ => none

/-- The shortest address at the start of a text that has an end, and its version. -/
def address? : List Char → Option (List Char × Option (List Char))
  | [] => none
  | c :: rest =>
    match closing? rest with
    | some version => some ([c], version)
    | none => (address? rest).map fun found => (c :: found.1, found.2)

/-- The package behind a branch. -/
def package? (cs : List Char) : Option ExternalDependency :=
  let name := cs.takeWhile fun c => c != '<' && !isBlank c
  if name.isEmpty then none
  else
    let address := match cs.drop name.length with
      | '<' :: rest => address? rest
      | _ => none
    some {
      name := .ofList name
      url := address.map fun found => .ofList found.1
      version := (address.bind (·.2)).map .ofList }

/-- What stands in front of a branch. -/
def isIndent (c : Char) : Bool := c = '│' || c = ' '

/-- The package on a line of a drawing. -/
def ofLine? (line : List Char) : Option DrawnPackage :=
  let indent := line.takeWhile isIndent
  match line.drop indent.length with
  | branch :: '─' :: '─' :: ' ' :: rest =>
    if branch = '├' ∨ branch = '└' then
      (package? rest).map fun package => ⟨indent.length / indentWidth, package⟩
    else none
  | _ => none

end DrawnPackage

/-- What is known after some lines of a drawing. -/
structure Drawing where
  /-- The names on the way from the top level to the last package. -/
  path : List String := []
  /-- What the walk has found. -/
  summary : GraphSummary := {}
  deriving DecidableEq, Repr

namespace Drawing

/-- The drawing after one more package. -/
def add (drawing : Drawing) (drawn : DrawnPackage) : Drawing :=
  -- A line that skips levels stands below the last package all the same.
  let above := drawing.path.take drawn.level
  let summary := drawing.summary
  let summary := if above.contains drawn.package.name then { summary with circular := true }
    else summary
  { path := above ++ [drawn.package.name]
    summary := (summary.reach (drawn.level + 1)).note drawn.package }

/-- The drawing that lines make; lines that show no package are passed over. -/
def ofLines (lines : List (List Char)) : Drawing :=
  (lines.filterMap DrawnPackage.ofLine?).foldl add {}

/-- The drawing that a text makes. -/
def ofText (text : String) : Drawing := ofLines (linesOf text)

/-- The way to the last package ends with it. -/
@[simp] theorem getLast?_path_add (drawing : Drawing) (drawn : DrawnPackage) :
    (drawing.add drawn).path.getLast? = some drawn.package.name := by
  simp [add]

end Drawing

example :
    DrawnPackage.ofLine? "│   └── a<https://x@1.0>".toList =
      some ⟨1, { name := "a", url := some "https://x", version := some "1.0" }⟩ := by cbv

end PackageLint.Output
