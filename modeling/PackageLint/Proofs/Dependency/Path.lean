import PackageLint.Output.DependencyGraph

/-!
# Paths through the document of a dependency graph

The document of a graph is a table whose dependencies are tables again, and the same identity may
stand at any number of places. This module fixes what a path through such a document is, without
looking at how a walk goes through it.

A path is written from its end up to the root, so that the package it ends with comes first. It is
simple when no two packages on it have the same identity.

## Main definitions

* `dependencyTables`: the packages that a package depends on;
* `IsPath` and `IsSimple`: the paths below a root, and those without a repeated identity;
* `pathsFrom`: the paths below a package, in preorder.

## Main results

* `dependencyTables_induction`: a property passes from the dependencies of a package to the package;
* `mem_pathsFrom_nil_iff`: the paths in preorder are all paths below the root.
-/

namespace PackageLint

/-- A field of a table is absent or smaller than the table. -/
theorem Table.get_eq_null_or_sizeOf_lt (entries : Table) (key : String) :
    Table.get entries key = .null ∨ sizeOf (Table.get entries key) < sizeOf entries := by
  induction entries with
  | nil => exact .inl rfl
  | cons entry rest ih =>
    obtain ⟨k, v⟩ := entry
    rw [Table.get_cons]
    split
    · right
      simp only [List.cons.sizeOf_spec, Prod.mk.sizeOf_spec]
      omega
    · refine ih.imp_right fun hlt => Nat.lt_trans hlt ?_
      simp only [List.cons.sizeOf_spec]
      omega

namespace Output

/-- The packages that a package depends on: the tables in its list of dependencies. -/
def dependencyTables (entries : Table) : List Table :=
  (Table.get entries "dependencies").items.filterMap Value.table?

/-- A dependency is smaller than the package that has it. -/
theorem sizeOf_lt_of_mem_dependencyTables {entries child : Table}
    (h : child ∈ dependencyTables entries) : sizeOf child < sizeOf entries := by
  obtain ⟨v, hv, hchild⟩ := List.mem_filterMap.1 h
  have hvalue : v = .table child := by
    cases v with
    | scalar | list => simp at hchild
    | table => simpa using hchild
  subst hvalue
  rcases Table.get_eq_null_or_sizeOf_lt entries "dependencies" with hnull | hlt
  · simp [hnull] at hv
  -- A child is an item of a list that is a value of the table.
  · cases hfield : Table.get entries "dependencies" with
    | scalar | table => simp [hfield] at hv
    | list items =>
      have hmem : Value.table child ∈ items := by simpa [hfield] using hv
      have hitem := List.sizeOf_lt_of_mem hmem
      simp only [hfield, Value.list.sizeOf_spec, Value.table.sizeOf_spec] at hlt hitem
      omega

/-- A property that passes from the dependencies of a package to the package holds everywhere. -/
theorem dependencyTables_induction {motive : Table → Prop}
    (step : ∀ entries, (∀ child ∈ dependencyTables entries, motive child) → motive entries)
    (entries : Table) : motive entries :=
  step entries fun child _ => dependencyTables_induction step child
termination_by sizeOf entries
decreasing_by exact sizeOf_lt_of_mem_dependencyTables ‹_›

/-- `path` leads from `root` down to one of the packages below it. -/
inductive IsPath (root : Table) : List Table → Prop
  | start {child : Table} (h : child ∈ dependencyTables root) : IsPath root [child, root]
  | step {parent child : Table} {above : List Table} (path : IsPath root (parent :: above))
      (h : child ∈ dependencyTables parent) : IsPath root (child :: parent :: above)

/-- No two packages on a path have the same identity. -/
def IsSimple (path : List Table) : Prop := (path.map packageIdentity).Nodup

/-- The package that a path ends with. -/
def pathEnd (path : List Table) : Table := path.headD []

instance (path : List Table) : Decidable (IsSimple path) :=
  inferInstanceAs (Decidable (List.Nodup _))

/-- The paths that go on below the path `entries :: above`, in preorder. -/
def pathsFrom (above : List Table) (entries : Table) : List (List Table) :=
  (dependencyTables entries).attach.flatMap fun child =>
    (child.1 :: entries :: above) :: pathsFrom (entries :: above) child.1
termination_by sizeOf entries
decreasing_by exact sizeOf_lt_of_mem_dependencyTables child.2

/-- The ends of the simple paths below a root, in preorder. -/
def simpleEnds (root : Table) : List Table :=
  ((pathsFrom [] root).filter (IsSimple ·)).map pathEnd

/-- The paths below a package, child by child. -/
theorem pathsFrom_eq_flatMap (above : List Table) (entries : Table) :
    pathsFrom above entries = (dependencyTables entries).flatMap fun child =>
      (child :: entries :: above) :: pathsFrom (entries :: above) child := by
  rw [pathsFrom]
  conv => rhs; rw [← List.attach_map_subtype_val (dependencyTables entries), List.flatMap_map]

theorem mem_pathsFrom_iff {above : List Table} {entries : Table} {path : List Table} :
    path ∈ pathsFrom above entries ↔ ∃ child ∈ dependencyTables entries,
      path = child :: entries :: above ∨ path ∈ pathsFrom (entries :: above) child := by
  rw [pathsFrom_eq_flatMap]
  simp only [List.mem_flatMap, List.mem_cons]

/-- A path that goes on below another one ends with it. -/
theorem isSuffix_of_mem_pathsFrom {above : List Table} {entries : Table} {path : List Table}
    (h : path ∈ pathsFrom above entries) : entries :: above <:+ path := by
  induction entries using dependencyTables_induction generalizing above with
  | step entries ih =>
    obtain ⟨child, hchild, rfl | hpath⟩ := mem_pathsFrom_iff.1 h
    · exact List.suffix_cons _ _
    · exact (List.suffix_cons _ _).trans (ih child hchild hpath)

/-- Where a path ends, it can be followed to each of the dependencies there. -/
theorem cons_mem_pathsFrom {entries parent child : Table} {base above : List Table}
    (h : parent :: above ∈ pathsFrom base entries) (hchild : child ∈ dependencyTables parent) :
    child :: parent :: above ∈ pathsFrom base entries := by
  induction entries using dependencyTables_induction generalizing base with
  | step entries ih =>
    obtain ⟨first, hfirst, hpath⟩ := mem_pathsFrom_iff.1 h
    refine mem_pathsFrom_iff.2 ⟨first, hfirst, .inr ?_⟩
    -- The path ends with the first package below this one, or goes on below it.
    rcases hpath with heq | hpath
    · obtain ⟨rfl, rfl⟩ := List.cons.inj heq
      exact mem_pathsFrom_iff.2 ⟨child, hchild, .inl rfl⟩
    · exact ih first hfirst hpath

/-- What goes on below a path of the root is a path of the root. -/
theorem IsPath.of_mem_pathsFrom {root entries : Table} {above path : List Table}
    (hstart : entries :: above = [root] ∨ IsPath root (entries :: above))
    (h : path ∈ pathsFrom above entries) : IsPath root path := by
  induction entries using dependencyTables_induction generalizing above with
  | step entries ih =>
    obtain ⟨child, hchild, hpath⟩ := mem_pathsFrom_iff.1 h
    -- One more package makes a path of the root, whether the start was the root or a path of it.
    have hnext : IsPath root (child :: entries :: above) := by
      rcases hstart with heq | hstart
      · obtain ⟨rfl, rfl⟩ := List.cons.inj heq
        exact .start hchild
      · exact .step hstart hchild
    rcases hpath with rfl | hpath
    · exact hnext
    · exact ih child hchild (.inr hnext) hpath

/-- The paths in preorder are exactly the paths that lead down from the root. -/
theorem mem_pathsFrom_nil_iff {root : Table} {path : List Table} :
    path ∈ pathsFrom [] root ↔ IsPath root path := by
  constructor
  · exact .of_mem_pathsFrom (.inl rfl)
  · intro h
    induction h with
    | start h => exact mem_pathsFrom_iff.2 ⟨_, h, .inl rfl⟩
    | step _ h ih => exact cons_mem_pathsFrom ih h

/-- The root stands on every path, above the end of it. -/
theorem IsPath.root_mem_tail {root : Table} {path : List Table} (h : IsPath root path) :
    root ∈ path.tail := by
  induction h with
  | start _ => simp
  | step _ _ ih => exact List.mem_cons_of_mem _ ih

/-- A simple path does not end with the identity of the root. -/
theorem IsPath.packageIdentity_pathEnd_ne {root : Table} {path : List Table}
    (h : IsPath root path) (hsimple : IsSimple path) :
    packageIdentity (pathEnd path) ≠ packageIdentity root := by
  have hroot := h.root_mem_tail
  cases path with
  | nil => simp at hroot
  | cons entries above =>
    intro heq
    refine (List.nodup_cons.1 hsimple).1 ?_
    exact List.mem_map.2 ⟨root, hroot, heq.symm⟩

end Output

end PackageLint
