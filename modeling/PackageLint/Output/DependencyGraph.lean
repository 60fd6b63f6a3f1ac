import PackageLint.Document.Written
import PackageLint.Output.Analysis

/-!
# Dependency graphs

The graph of dependencies as a tree: a package stands below every package that depends on it. A
walk through the tree notes each package once, measures the depth, and does not go below a package
that stands below itself.

## Main results

* `GraphSummary.note_of_mem`: a package that was noted is not noted again.
-/

namespace PackageLint.Output

/-- A package with the packages it depends on. -/
inductive DependencyTree
  /-- A package whose dependencies are known. -/
  | node (package : ExternalDependency) (children : List DependencyTree)
  /-- A package whose dependencies have no shape that can be gone through. -/
  | broken (package : ExternalDependency)
  deriving Repr

/-- The package at the top of a tree. -/
def DependencyTree.package : DependencyTree → ExternalDependency
  | node package _ => package
  | broken package => package

/-- The identity that a table gives to its package: its identity, else its name. -/
def packageIdentity (entries : Table) : String :=
  (((Table.get entries "identity").orElse (Table.get entries "name")).orElse (.text "")).written

/-- The package that a table describes. -/
def packageOf (entries : Table) : ExternalDependency where
  name := packageIdentity entries
  url := (Table.get entries "url").text?
  version := (Table.get entries "version").text?

/-- The tree of a package with the given dependencies, if they can be gone through. -/
def DependencyTree.ofChildren (package : ExternalDependency) :
    Option (List DependencyTree) → DependencyTree
  | some children => .node package children
  | none => .broken package

mutual

/-- The trees below a value that stands for dependencies. Only tables in a list are packages; a
value that is neither absent nor made of elements gives no list of trees. -/
def dependencyTrees? : Value → Option (List DependencyTree)
  | .list items => some (dependencyTreesOf items)
  | .table _ => some []
  | .scalar s =>
    match s with
    | .text _ => some []
    | s => if s.isPresent then none else some []

/-- The trees of the tables among some values. -/
def dependencyTreesOf : List Value → List DependencyTree
  | [] => []
  | .table entries :: rest =>
    .ofChildren (packageOf entries) (dependenciesField? entries) :: dependencyTreesOf rest
  | _ :: rest => dependencyTreesOf rest

/-- The trees below the dependencies of a table. -/
def dependenciesField? : List (Scalar × Value) → Option (List DependencyTree)
  | [] => some []
  | (key, value) :: rest =>
    if key = .text "dependencies" then dependencyTrees? value else dependenciesField? rest

end

/-- The tree that a table describes. -/
def DependencyTree.ofTable (entries : Table) : DependencyTree :=
  .ofChildren (packageOf entries) (dependenciesField? entries)

/-- What a walk through a graph has found. -/
structure GraphSummary where
  /-- Each package once, in the order of the walk. -/
  packages : List ExternalDependency := []
  /-- Some package was met below itself. -/
  circular : Bool := false
  /-- The deepest level. -/
  maxDepth : Nat := 0
  deriving DecidableEq, Repr

namespace GraphSummary

/-- A package that was met; a second package of the same name is passed over. -/
def note (summary : GraphSummary) (package : ExternalDependency) : GraphSummary :=
  if summary.packages.any (·.name = package.name) then summary
  else { summary with packages := summary.packages ++ [package] }

/-- A level that was reached. -/
def reach (summary : GraphSummary) (depth : Nat) : GraphSummary :=
  { summary with maxDepth := max summary.maxDepth depth }

/-- The dependencies that a walk has found. -/
def toDependencies (summary : GraphSummary) : Dependencies where
  external := summary.packages
  circular := summary.circular
  maxDepth := summary.maxDepth

end GraphSummary

mutual

/-- Walks through a tree at a depth, below the packages with the given names. -/
def DependencyTree.walk (ancestors : List String) (depth : Nat) (tree : DependencyTree)
    (summary : GraphSummary) : Except ShapeFault GraphSummary :=
  match tree with
  | .node package children =>
    -- Below a package that stands below itself there is nothing new.
    if ancestors.contains package.name then .ok { summary with circular := true }
    else walkAll (package.name :: ancestors) (depth + 1) children
      ((summary.reach depth).note package)
  | .broken package =>
    if ancestors.contains package.name then .ok { summary with circular := true }
    else .error .notIterable

/-- Walks through trees that stand side by side. -/
def walkAll (ancestors : List String) (depth : Nat) (trees : List DependencyTree)
    (summary : GraphSummary) : Except ShapeFault GraphSummary :=
  match trees with
  | [] => .ok summary
  | tree :: rest =>
    match tree.walk ancestors depth summary with
    | .error fault => .error fault
    | .ok summary => walkAll ancestors depth rest summary

end

/-- Walks through the packages below the root of a graph. -/
def DependencyTree.summary : DependencyTree → Except ShapeFault GraphSummary
  | .node package children => walkAll [package.name] 1 children {}
  | .broken _ => .error .notIterable

/-- The issue that a cycle raises. -/
def circularIssue : Issue where
  kind := .dependency
  severity := .error
  message := "Circular dependency detected in dependency graph"

/-- The analysis of a graph. -/
def GraphSummary.analysis (packageName : Option String) (summary : GraphSummary) : Analysis where
  command := .showDependencies
  success := !summary.circular
  packageName := packageName
  dependencies := some summary.toDependencies
  issues := if summary.circular then [circularIssue] else []

@[simp] theorem walkAll_nil (ancestors : List String) (depth : Nat) (summary : GraphSummary) :
    walkAll ancestors depth [] summary = .ok summary := by simp [walkAll]

/-- A package is noted at most once. -/
theorem GraphSummary.note_of_mem {summary : GraphSummary} {package : ExternalDependency}
    (h : package ∈ summary.packages) : summary.note package = summary := by
  have : summary.packages.any (·.name = package.name) = true :=
    List.any_eq_true.2 ⟨package, h, by simp⟩
  simp [note, this]

end PackageLint.Output
