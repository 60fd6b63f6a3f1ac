import Mathlib
import PackageLint.Output.Reading
import PackageLint.Proofs.Dependency.Walk
import PackageLint.Proofs.Json.RoundTrip

/-!
# Dependency graphs given as documents

What the analysis of a graph says, in terms of the paths through its document: the flag of cycles
looks at all paths, the depth and the list of packages only at the simple ones. The statement
holds for every document whose dependencies are lists wherever they are given, however often an
identity is shared and whether or not there are cycles.

## Main definitions

* `IsGraphDocument`: a text is the document of a package;
* `ListsDependencies`: dependencies are absent or lists, at any depth;
* `Dependencies.Describe`: what dependencies say of the paths below a root.

## Main results

* `isGraphDocument_write`: a table that can be written is the document of a graph;
* `exists_readGraph_describe`: the analysis of a graph describes its document.
-/

namespace PackageLint.Output

/-- The text is a JSON document that describes the package at the root of a graph. -/
def IsGraphDocument (text : String) (root : Table) : Prop :=
  startsWithBrace text = true ∧ Json.read (Text.trimStart text.toList) = .ok (.table root)

/-- The dependencies of a package, and those of all packages below it, are absent or a list. -/
inductive ListsDependencies : Table → Prop
  | intro {entries : Table}
      (here : Table.get entries "dependencies" = .null ∨
        ∃ items, Table.get entries "dependencies" = .list items)
      (below : ∀ child ∈ dependencyTables entries, ListsDependencies child) :
      ListsDependencies entries

/-- What dependencies say of the paths below a root. A path with `n` packages below the root is
`n + 1` packages long. -/
structure Dependencies.Describe (dependencies : Dependencies) (root : Table) : Prop where
  /-- Some path repeats an identity, that of the root included. -/
  circular_iff : dependencies.circular = true ↔ ∃ path, IsPath root path ∧ ¬ IsSimple path
  /-- No simple path is longer than the depth. -/
  length_le : ∀ path, IsPath root path → IsSimple path → path.length ≤ dependencies.maxDepth + 1
  /-- The depth is the length of a simple path, unless there is none. -/
  exists_length_eq : dependencies.maxDepth ≠ 0 →
    ∃ path, IsPath root path ∧ IsSimple path ∧ path.length = dependencies.maxDepth + 1
  /-- The names are the identities at the ends of the simple paths, without later repeats. -/
  map_name_external :
    dependencies.external.map (·.name) = distinct ((simpleEnds root).map packageIdentity)
  /-- The address and the version are those of the first occurrence. -/
  first_external : ∀ package ∈ dependencies.external, ∃ entries,
    (simpleEnds root).find? (packageIdentity · = package.name) = some entries ∧
      package.url = (Table.get entries "url").text? ∧
      package.version = (Table.get entries "version").text?
  /-- No name is listed twice. -/
  nodup_external : (dependencies.external.map (·.name)).Nodup
  /-- The root is not listed. -/
  root_not_mem : packageIdentity root ∉ dependencies.external.map (·.name)

/-- A table that can be written is the document of a graph. -/
theorem isGraphDocument_write (indent : Option Nat) {root : Table} (h : (Value.table root).IsPlain) :
    IsGraphDocument (Json.write indent (.table root)) root := by
  -- The text starts with the brace itself, so that there is nothing to trim.
  obtain ⟨rest, hrest⟩ : ∃ rest, (Json.write indent (.table root)).toList = '\x7b' :: rest := by
    rw [Json.write, Json.writeAt, Json.bracketed]
    split <;> simp only [String.toList_append, List.append_assoc] <;> exact ⟨_, rfl⟩
  have htrim : Text.trimStart (Json.write indent (.table root)).toList =
      (Json.write indent (.table root)).toList := by
    rw [hrest]
    rfl
  constructor
  · rw [startsWithBrace, htrim, hrest]
    rfl
  · rw [htrim, Json.read_write indent h]

/-- The analysis of a document is made of what the walk through it gives. -/
theorem IsGraphDocument.readGraph_eq {text : String} {root : Table}
    (h : IsGraphDocument text root) :
    readGraph text =
      (DependencyTree.ofTable root).summary.map (·.analysis (Table.get root "name").text?) := by
  rw [readGraph, if_pos h.1, readGraphDocument, h.2]

/-- Where dependencies are absent or a list they can be gone through. -/
theorem ListsDependencies.hasIterableDependencies {entries : Table}
    (h : ListsDependencies entries) : hasIterableDependencies entries = true := by
  obtain ⟨hnull | ⟨items, hitems⟩, -⟩ := h
  · simp [Output.hasIterableDependencies, hnull, Value.isIterable, Scalar.isPresent]
  · simp [Output.hasIterableDependencies, hitems, Value.isIterable]

/-- What holds at any depth holds at the end of every path. -/
theorem ListsDependencies.pathEnd {root : Table} {path : List Table}
    (h : ListsDependencies root) (hpath : IsPath root path) :
    ListsDependencies (pathEnd path) := by
  induction hpath with
  | start hchild =>
    obtain ⟨-, hbelow⟩ := h
    exact hbelow _ hchild
  | step _ hchild ih =>
    obtain ⟨-, hbelow⟩ := ih
    exact hbelow _ hchild

/-- The walk through a document whose dependencies are lists passes every path. -/
theorem ListsDependencies.summary_eq_ok {root : Table} (h : ListsDependencies root) :
    (DependencyTree.ofTable root).summary =
      .ok (((pathsFrom [] root).map Sighting.ofPath).foldl GraphSummary.see {}) := by
  refine summary_ofTable_eq_ok_iff.2 ⟨h.hasIterableDependencies, fun path hpath => ?_, rfl⟩
  simp [isPassable, (h.pathEnd hpath).hasIterableDependencies]

/-- What counts on the paths below a root are the packages at the ends of the simple ones. -/
theorem map_package_filter_counts (root : Table) :
    (((pathsFrom [] root).map Sighting.ofPath).filter (·.counts)).map (·.package) =
      (simpleEnds root).map packageOf := by
  rw [List.filter_map, List.map_map, simpleEnds, List.map_map]
  rfl

/-- What is seen at the ends of all paths, taken together, describes the document. -/
theorem describe_foldl_see (root : Table) :
    (((pathsFrom [] root).map Sighting.ofPath).foldl GraphSummary.see {}).toDependencies.Describe
      root := by
  set sightings := (pathsFrom [] root).map Sighting.ofPath with hsightings
  set summary := sightings.foldl GraphSummary.see {} with hsummary
  have hpackages : summary.packages = firstOfNames ((simpleEnds root).map packageOf) := by
    rw [hsummary, GraphSummary.packages_foldl_see, map_package_filter_counts]
  have hnames : summary.packages.map (·.name) =
      distinct ((simpleEnds root).map packageIdentity) := by
    rw [hpackages, map_name_firstOfNames, List.map_map]
    rfl
  have hdepth {n : ℕ} : summary.maxDepth ≤ n ↔
      ∀ path, IsPath root path → IsSimple path → path.length ≤ n + 1 := by
    rw [hsummary, GraphSummary.maxDepth_foldl_see_le_iff]
    simp [hsightings, Sighting.ofPath, mem_pathsFrom_nil_iff]
  refine ⟨?_, hdepth.1 (Nat.le_refl _), ?_, hnames, ?_, ?_, ?_⟩
  · change summary.circular = true ↔ _
    rw [hsummary, GraphSummary.circular_foldl_see]
    simp [hsightings, Sighting.ofPath, mem_pathsFrom_nil_iff]
  · intro hne
    by_contra hnone
    -- Without a path as long as the depth, a smaller depth would reach all simple paths.
    have hle : summary.maxDepth ≤ summary.maxDepth - 1 := by
      refine hdepth.2 fun path hpath hsimple => ?_
      have hlength := hdepth.1 (Nat.le_refl _) path hpath hsimple
      have hshort : path.length ≠ summary.maxDepth + 1 :=
        fun heq => hnone ⟨path, hpath, hsimple, heq⟩
      omega
    exact absurd hle (by change summary.maxDepth ≠ 0 at hne; omega)
  · -- The packages are those at the ends of simple paths, so that what a search among them finds
    -- is the image of what it finds among the ends.
    intro package hmem
    change package ∈ summary.packages at hmem
    rw [hpackages] at hmem
    have hfind := find?_of_mem_firstOfNames hmem
    rw [List.find?_map, Option.map_eq_some_iff] at hfind
    obtain ⟨entries, hentries, rfl⟩ := hfind
    exact ⟨entries, hentries, rfl, rfl⟩
  · change (summary.packages.map (·.name)).Nodup
    rw [hnames]
    exact nodup_distinct _
  · change packageIdentity root ∉ summary.packages.map (·.name)
    rw [hnames, mem_distinct, simpleEnds, List.map_map, List.mem_map]
    rintro ⟨path, hmem, heq⟩
    obtain ⟨hpath, hsimple⟩ := List.mem_filter.1 hmem
    exact (mem_pathsFrom_nil_iff.1 hpath).packageIdentity_pathEnd_ne (by simpa using hsimple) heq

/-- The analysis of a graph describes its document, and it is a success exactly when there is no
cycle. -/
theorem exists_readGraph_describe {text : String} {root : Table}
    (hdocument : IsGraphDocument text root) (hlists : ListsDependencies root) :
    ∃ analysis dependencies, readGraph text = .ok analysis ∧
      analysis.dependencies = some dependencies ∧ dependencies.Describe root ∧
        (analysis.success = true ↔ dependencies.circular = false) := by
  have hread := hdocument.readGraph_eq
  rw [hlists.summary_eq_ok] at hread
  refine ⟨_, _, hread, rfl, describe_foldl_see root, ?_⟩
  simp [GraphSummary.analysis, GraphSummary.toDependencies]

/-- A package that depends on `a` and `b`, where `a` depends on itself. -/
def cyclicGraph : Table := [
  (.text "identity", .text "r"),
  (.text "dependencies", .list [
    .table [
      (.text "identity", .text "a"),
      (.text "url", .text "u"),
      (.text "dependencies", .list [.table [(.text "name", .text "a")]])],
    .table [(.text "identity", .text "b"), (.text "dependencies", .null)]])]

theorem listsDependencies_cyclicGraph : ListsDependencies cyclicGraph := by
  have hnone : ∀ entries, Table.get entries "dependencies" = .null → ListsDependencies entries :=
    fun entries h => .intro (.inl h) (by simp [dependencyTables, h])
  refine .intro (.inr ⟨_, rfl⟩) (List.forall_mem_cons.2 ⟨?_, List.forall_mem_singleton.2 ?_⟩)
  · exact .intro (.inr ⟨_, rfl⟩) (List.forall_mem_singleton.2 (hnone _ rfl))
  · exact hnone _ rfl

/-- The analysis of a graph with a cycle below its root describes the graph. -/
theorem exists_readGraph_describe_cyclicGraph :
    ∃ analysis dependencies, readGraph (Json.write none (.table cyclicGraph)) = .ok analysis ∧
      analysis.dependencies = some dependencies ∧ dependencies.Describe cyclicGraph ∧
        (analysis.success = true ↔ dependencies.circular = false) :=
  exists_readGraph_describe ⟨by cbv, by cbv⟩ listsDependencies_cyclicGraph

end PackageLint.Output
