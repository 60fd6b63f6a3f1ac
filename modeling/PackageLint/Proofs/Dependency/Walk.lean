import PackageLint.Proofs.Dependency.Path
import PackageLint.Proofs.Dependency.Sighting

/-!
# The walk through a dependency graph

The walk goes down from the root, does not go below a package that stands below itself, and fails
at a package whose dependencies cannot be gone through. It is a run over the paths below the root
in preorder: a path that is not simple raises the flag, and a simple one takes down the package it
ends with, or fails there. That the walk stops below a repeated package loses nothing, because the
paths through such a package are not simple either and only raise the flag again.

## Main results

* `summary_ofTable_eq_foldlM`: the walk is that run;
* `summary_ofTable_eq_ok_iff`: when it gives a summary, and which one.
-/

namespace PackageLint

/-- The elements of a value can be gone through one by one: it is a list, a table or a text, or it
counts as absent. -/
def Value.isIterable : Value → Bool
  | .list _ | .table _ | .text _ => true
  | .scalar s => !s.isPresent

namespace Output

/-- The dependencies of a package can be gone through. -/
def hasIterableDependencies (entries : Table) : Bool :=
  (Table.get entries "dependencies").isIterable

/-! ## The tree of a table -/

theorem dependencyTreesOf_eq_map (items : List Value) :
    dependencyTreesOf items = (items.filterMap Value.table?).map .ofTable := by
  induction items with
  | nil => simp [dependencyTreesOf]
  | cons item rest ih =>
    cases item with
    | scalar | list => simp [dependencyTreesOf, List.filterMap_cons, ih]
    | table entries => simp [dependencyTreesOf, ih, DependencyTree.ofTable]

theorem dependencyTrees?_eq_ite (v : Value) :
    dependencyTrees? v =
      if v.isIterable then some ((v.items.filterMap Value.table?).map .ofTable) else none := by
  cases v with
  | list items => simp [dependencyTrees?, Value.isIterable, dependencyTreesOf_eq_map]
  | table entries => simp [dependencyTrees?, Value.isIterable]
  | scalar s =>
    cases s with
    | text => simp [dependencyTrees?, Value.isIterable]
    | _ => simp only [dependencyTrees?, Value.isIterable]; split <;> simp_all

theorem dependenciesField?_eq (entries : Table) :
    dependenciesField? entries = dependencyTrees? (Table.get entries "dependencies") := by
  induction entries with
  | nil => simp [dependenciesField?, dependencyTrees?, Scalar.isPresent]
  | cons entry rest ih =>
    obtain ⟨key, value⟩ := entry
    rw [dependenciesField?, Table.get_cons, ih]
    split <;> rfl

/-- The tree of a package: its dependencies below it, where they can be gone through. -/
theorem ofTable_eq_ite (entries : Table) :
    DependencyTree.ofTable entries =
      if hasIterableDependencies entries then
        .node (packageOf entries) ((dependencyTables entries).map .ofTable)
      else .broken (packageOf entries) := by
  rw [DependencyTree.ofTable, dependenciesField?_eq, dependencyTrees?_eq_ite,
    hasIterableDependencies]
  split_ifs <;> rfl

/-! ## The walk as a run over paths -/

/-- What is seen at the end of a path: a path that is not simple shows a cycle, and a simple one
counts. -/
def Sighting.ofPath (path : List Table) : Sighting where
  package := packageOf (pathEnd path)
  depth := path.length - 1
  repeats := !decide (IsSimple path)
  counts := decide (IsSimple path)

/-- A walk can pass the end of a path, where it does not turn back anyway. -/
def isPassable (path : List Table) : Bool :=
  !decide (IsSimple path) || hasIterableDependencies (pathEnd path)

/-- A summary after a walk has come to the end of one more path. -/
def GraphSummary.follow (summary : GraphSummary) (path : List Table) :
    Except ShapeFault GraphSummary :=
  if isPassable path then .ok (summary.see (.ofPath path)) else .error .notIterable

/-- The paths on below a path that is not simple are not simple. -/
theorem IsSimple.of_mem_pathsFrom {above path : List Table} {entries : Table}
    (h : path ∈ pathsFrom above entries) (hsimple : IsSimple path) :
    IsSimple (entries :: above) :=
  hsimple.sublist ((isSuffix_of_mem_pathsFrom h).sublist.map _)

namespace GraphSummary

theorem follow_of_not_isSimple {summary : GraphSummary} {path : List Table}
    (h : ¬ IsSimple path) : summary.follow path = .ok { summary with circular := true } := by
  simp [follow, isPassable, see, Sighting.ofPath, h]

theorem follow_of_isSimple {summary : GraphSummary} {entries : Table} {above : List Table}
    (h : IsSimple (entries :: above)) :
    summary.follow (entries :: above) =
      if hasIterableDependencies entries then
        .ok ((summary.reach above.length).note (packageOf entries))
      else .error .notIterable := by
  simp [follow, isPassable, see, Sighting.ofPath, pathEnd, h]

/-- Paths that are not simple only raise the flag, however many they are. -/
theorem foldlM_follow_of_not_isSimple {paths : List (List Table)} {summary : GraphSummary}
    (h : ∀ path ∈ paths, ¬ IsSimple path) (hcircular : summary.circular = true) :
    paths.foldlM follow summary = .ok summary := by
  have hsame : { summary with circular := true } = summary := by rw [← hcircular]
  induction paths with
  | nil => rfl
  | cons path rest ih =>
    rw [List.foldlM_cons, follow_of_not_isSimple (h path (by simp)), hsame]
    exact ih fun path hpath => h path (by simp [hpath])

end GraphSummary

/-- Trees side by side are walked through as one run, if each of them is. -/
theorem walkAll_eq_foldlM {names : List String} {depth : Nat} {children : List Table}
    {paths : Table → List (List Table)}
    (h : ∀ child ∈ children, ∀ summary, (DependencyTree.ofTable child).walk names depth summary =
      (paths child).foldlM GraphSummary.follow summary) (summary : GraphSummary) :
    walkAll names depth (children.map .ofTable) summary =
      (children.flatMap paths).foldlM GraphSummary.follow summary := by
  induction children generalizing summary with
  | nil => exact walkAll_nil _ _ _
  | cons child rest ih =>
    rw [List.map_cons, walkAll, h child (by simp), List.flatMap_cons, List.foldlM_append]
    cases (paths child).foldlM GraphSummary.follow summary with
    | error fault => rfl
    | ok summary => exact ih (fun child hchild => h child (by simp [hchild])) summary

/-- The walk through the tree of a package is a run over the path to it and the paths below. -/
theorem walk_ofTable_eq_foldlM {above : List Table} (habove : IsSimple above) (entries : Table)
    (summary : GraphSummary) :
    (DependencyTree.ofTable entries).walk (above.map packageIdentity) above.length summary =
      ((entries :: above) :: pathsFrom above entries).foldlM GraphSummary.follow summary := by
  induction entries using dependencyTables_induction generalizing above summary with
  | step entries ih =>
    have hcons : IsSimple (entries :: above) ↔ packageIdentity entries ∉ above.map packageIdentity :=
      List.nodup_cons.trans (and_iff_left habove)
    -- The first path is the one down to the package itself, and the others go on below it.
    rw [ofTable_eq_ite, List.foldlM_cons]
    by_cases hsimple : IsSimple (entries :: above)
    · -- The package is new on the way down, so that the walk goes below it.
      have hnew : (above.map packageIdentity).contains (packageOf entries).name = false := by
        rw [Bool.eq_false_iff, Ne, List.contains_iff_mem]
        exact hcons.1 hsimple
      rw [GraphSummary.follow_of_isSimple hsimple]
      split_ifs with hiterable
      · rw [DependencyTree.walk, hnew, pathsFrom_eq_flatMap]
        exact walkAll_eq_foldlM (fun child hchild => ih child hchild hsimple) _
      · rw [DependencyTree.walk, hnew]
        rfl
    · -- The walk turns back here, and the paths on below only raise the flag again.
      have hold : (above.map packageIdentity).contains (packageOf entries).name = true := by
        rw [List.contains_iff_mem]
        exact not_not.1 fun h => hsimple (hcons.2 h)
      have hbelow : ∀ path ∈ pathsFrom above entries, ¬ IsSimple path :=
        fun path hpath h => hsimple (h.of_mem_pathsFrom hpath)
      rw [GraphSummary.follow_of_not_isSimple hsimple]
      refine Eq.trans ?_ (GraphSummary.foldlM_follow_of_not_isSimple hbelow rfl).symm
      split_ifs <;> rw [DependencyTree.walk, hold] <;> rfl

/-- The walk below the root is a run over all paths below it. -/
theorem summary_ofTable_eq_ite (root : Table) :
    (DependencyTree.ofTable root).summary =
      if hasIterableDependencies root then (pathsFrom [] root).foldlM GraphSummary.follow {}
      else .error .notIterable := by
  rw [ofTable_eq_ite]
  split_ifs
  · rw [DependencyTree.summary, pathsFrom_eq_flatMap]
    have hroot : IsSimple [root] := by simp [IsSimple]
    exact walkAll_eq_foldlM (fun child _ => walk_ofTable_eq_foldlM hroot child) _
  · rfl

/-- A run over paths gives a summary when it can pass them all: what was seen at their ends. -/
theorem foldlM_follow_eq_ok_iff {paths : List (List Table)} {summary result : GraphSummary} :
    paths.foldlM GraphSummary.follow summary = .ok result ↔
      (∀ path ∈ paths, isPassable path = true) ∧
        result = (paths.map Sighting.ofPath).foldl GraphSummary.see summary := by
  induction paths generalizing summary with
  | nil =>
    constructor
    · exact fun h => ⟨by simp, (Except.ok.inj h).symm⟩
    · rintro ⟨-, rfl⟩
      rfl
  | cons path rest ih =>
    rw [List.foldlM_cons, GraphSummary.follow]
    -- A path that cannot be passed ends the walk.
    split_ifs with hpath
    · refine ih.trans ?_
      simp [hpath]
    · constructor
      · intro h
        cases h
      · exact fun h => absurd (h.1 path (by simp)) hpath

/-- When the walk below the root gives a summary, and which one. -/
theorem summary_ofTable_eq_ok_iff {root : Table} {result : GraphSummary} :
    (DependencyTree.ofTable root).summary = .ok result ↔
      hasIterableDependencies root = true ∧ (∀ path, IsPath root path → isPassable path = true) ∧
        result = ((pathsFrom [] root).map Sighting.ofPath).foldl GraphSummary.see {} := by
  rw [summary_ofTable_eq_ite]
  split_ifs with h
  · simp [foldlM_follow_eq_ok_iff, mem_pathsFrom_nil_iff, h]
  · simp [h]

end Output

end PackageLint
