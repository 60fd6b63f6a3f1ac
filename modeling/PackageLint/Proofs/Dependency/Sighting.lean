import Mathlib.Data.List.Basic
import Mathlib.Tactic.SplitIfs
import PackageLint.Document.Distinct
import PackageLint.Output.DependencyGraph

/-!
# What a summary keeps of the packages that are met

A reader of a graph meets packages one after the other. What the summary keeps of a meeting
depends on four things only, which make up a `Sighting`, so that the readers of both formats are
runs of the same fold over different lists of sightings.

## Main results

* `circular_foldl_see` and `maxDepth_foldl_see_le_iff`: the flag and the depth after a run;
* `packages_foldl_see`: the packages after a run are the first ones of their names, where
  `map_name_firstOfNames` and `find?_of_mem_firstOfNames` say what that means;
* `foldl_see_filter_counts`: what does not count only bears on the flag.
-/

namespace PackageLint.Output

/-- A package as a reader of a graph meets it. -/
structure Sighting where
  /-- The package. -/
  package : ExternalDependency
  /-- The number of packages above it and itself, the root left aside. -/
  depth : Nat
  /-- The place shows that the graph has a cycle. -/
  repeats : Bool
  /-- The package and its depth are taken down. -/
  counts : Bool
  deriving DecidableEq, Repr

/-- A summary after one more sighting. -/
def GraphSummary.see (summary : GraphSummary) (sighting : Sighting) : GraphSummary :=
  let flagged := { summary with circular := summary.circular || sighting.repeats }
  if sighting.counts then (flagged.reach sighting.depth).note sighting.package else flagged

/-- The first package of each name. -/
def firstOfNames : List ExternalDependency → List ExternalDependency
  | [] => []
  | package :: rest => package :: (firstOfNames rest).filter (·.name ≠ package.name)

/-- The first packages of their names have each name once, in the order of first occurrences. -/
theorem map_name_firstOfNames (packages : List ExternalDependency) :
    (firstOfNames packages).map (·.name) = distinct (packages.map (·.name)) := by
  induction packages with
  | nil => rfl
  | cons package rest ih =>
    simp only [firstOfNames, List.map_cons, distinct, ← ih, List.filter_map]
    rfl

/-- What is among the first packages of their names is what a search for its name finds. -/
theorem find?_of_mem_firstOfNames {packages : List ExternalDependency}
    {package : ExternalDependency} (h : package ∈ firstOfNames packages) :
    packages.find? (·.name = package.name) = some package := by
  induction packages with
  | nil => simp [firstOfNames] at h
  | cons first rest ih =>
    rcases List.mem_cons.1 h with rfl | h
    · simp
    · obtain ⟨hrest, hname⟩ := List.mem_filter.1 h
      have hne : first.name ≠ package.name := fun heq => by simp [heq] at hname
      rw [List.find?_cons_of_neg (by simpa using hne)]
      exact ih hrest

/-! ## Runs of sightings -/

namespace GraphSummary

@[simp]
theorem circular_note (summary : GraphSummary) (package : ExternalDependency) :
    (summary.note package).circular = summary.circular := by
  unfold note
  split_ifs <;> rfl

@[simp]
theorem maxDepth_note (summary : GraphSummary) (package : ExternalDependency) :
    (summary.note package).maxDepth = summary.maxDepth := by
  unfold note
  split_ifs <;> rfl

/-- The names that a summary has noted hold the name of a package. -/
def hasName (summary : GraphSummary) (package : ExternalDependency) : Bool :=
  summary.packages.any (·.name = package.name)

/-- A package is noted unless its name is there already. -/
theorem packages_note (summary : GraphSummary) (package : ExternalDependency) :
    (summary.note package).packages =
      summary.packages ++ if summary.hasName package then [] else [package] := by
  unfold note hasName
  split_ifs <;> simp_all

@[simp]
theorem circular_see (summary : GraphSummary) (sighting : Sighting) :
    (summary.see sighting).circular = (summary.circular || sighting.repeats) := by
  unfold see
  split_ifs <;> simp [reach]

@[simp]
theorem maxDepth_see (summary : GraphSummary) (sighting : Sighting) :
    (summary.see sighting).maxDepth =
      if sighting.counts then max summary.maxDepth sighting.depth else summary.maxDepth := by
  unfold see
  split_ifs <;> simp [reach]

theorem packages_see (summary : GraphSummary) (sighting : Sighting) :
    (summary.see sighting).packages = summary.packages ++
      if sighting.counts && !summary.hasName sighting.package then [sighting.package] else [] := by
  unfold see
  cases sighting.counts with
  | false => simp
  | true => cases h : summary.hasName sighting.package <;> simp_all [packages_note, reach, hasName]

/-- The flag is raised where it was, or where some sighting shows a cycle. -/
theorem circular_foldl_see (sightings : List Sighting) (summary : GraphSummary) :
    (sightings.foldl see summary).circular =
      (summary.circular || sightings.any (·.repeats)) := by
  induction sightings generalizing summary with
  | nil => simp
  | cons sighting rest ih => simp [ih, Bool.or_assoc]

/-- The depth after a run is the least one that reaches what was there and what counts. -/
theorem maxDepth_foldl_see_le_iff {sightings : List Sighting} {summary : GraphSummary} {n : Nat} :
    (sightings.foldl see summary).maxDepth ≤ n ↔
      summary.maxDepth ≤ n ∧ ∀ sighting ∈ sightings, sighting.counts → sighting.depth ≤ n := by
  induction sightings generalizing summary with
  | nil => simp
  | cons sighting rest ih =>
    rw [List.foldl_cons, ih, maxDepth_see, List.forall_mem_cons]
    split_ifs with h
    · simp only [h, Nat.max_le, and_assoc, forall_const]
    · simp [h]

/-- A run adds the first packages of the names that were not there. -/
theorem packages_foldl_see_append (sightings : List Sighting) (summary : GraphSummary) :
    (sightings.foldl see summary).packages = summary.packages ++
      (firstOfNames ((sightings.filter (·.counts)).map (·.package))).filter
        fun package => !summary.hasName package := by
  induction sightings generalizing summary with
  | nil => simp [firstOfNames]
  | cons sighting rest ih =>
    rw [List.foldl_cons, ih]
    have hsee := packages_see summary sighting
    cases hcounts : sighting.counts with
    | false => simp [hsee, hasName, hcounts]
    | true =>
      rw [List.filter_cons_of_pos hcounts, List.map_cons, firstOfNames]
      cases hname : summary.hasName sighting.package with
      | true =>
        -- The name is there, so that later packages of this name are passed over in any case.
        have hsame : (summary.see sighting).packages = summary.packages := by
          simp [hsee, hcounts, hname]
        rw [List.filter_cons_of_neg (by simp [hname]), List.filter_filter, hsame]
        congr 1
        refine List.filter_congr fun package _ => ?_
        by_cases heq : package.name = sighting.package.name
        · simp_all [hasName]
        · simp [hasName, hsame, heq]
      | false =>
        -- The name is new, so that it is passed over from here on.
        have hadd : (summary.see sighting).packages = summary.packages ++ [sighting.package] := by
          simp [hsee, hcounts, hname]
        rw [List.filter_cons_of_pos (by simp [hname]), List.filter_filter, hadd,
          List.append_assoc, List.singleton_append]
        congr 2
        refine List.filter_congr fun package _ => ?_
        simp [hasName, hadd, eq_comm]

/-- The packages after a run are the first ones of their names among those that count. -/
theorem packages_foldl_see (sightings : List Sighting) :
    (sightings.foldl see {}).packages =
      firstOfNames ((sightings.filter (·.counts)).map (·.package)) := by
  rw [packages_foldl_see_append]
  simp [hasName]

/-- What does not count changes neither the packages nor the depth. -/
theorem foldl_see_filter_counts (sightings : List Sighting) :
    ((sightings.filter (·.counts)).foldl see {}).packages = (sightings.foldl see {}).packages ∧
      ((sightings.filter (·.counts)).foldl see {}).maxDepth =
        (sightings.foldl see {}).maxDepth := by
  constructor
  · rw [packages_foldl_see, packages_foldl_see, List.filter_filter]
    simp only [Bool.and_self]
  · -- A depth is known by the numbers that it does not exceed.
    have hiff {n : Nat} : ((sightings.filter (·.counts)).foldl see {}).maxDepth ≤ n ↔
        (sightings.foldl see {}).maxDepth ≤ n := by
      rw [maxDepth_foldl_see_le_iff, maxDepth_foldl_see_le_iff]
      simp +contextual [List.mem_filter]
    exact Nat.le_antisymm (hiff.2 (Nat.le_refl _)) (hiff.1 (Nat.le_refl _))

end GraphSummary

end PackageLint.Output
