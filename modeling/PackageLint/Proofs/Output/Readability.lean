import Mathlib
import PackageLint.Output.Reading
import PackageLint.Proofs.Dependency.Document
import PackageLint.Proofs.Outcome

/-!
# Outputs that can be read

Reading an output gives an analysis unless the output is a document that is gone through at a
place where there is nothing to go through. Lock files, descriptions and logs are never gone
through in this way. A graph is, at each package that the walk comes to, and a dump is at its
targets and its dependencies and, for a package under source control, at the place it is fetched
from.

## Main definitions

* `IsReadable`: the places where an output is gone through have the shapes that this needs.

## Main results

* `exists_analysis_iff_isReadable`: an output gives an analysis exactly if it is readable;
* `read_number_as_targets`: a number in place of the targets gives none.
-/

namespace PackageLint

/-- The tables among the items of a list; any other value holds none. -/
def Value.tables (v : Value) : List Table := v.items.filterMap Value.table?

/-- What can be gone through gives its elements, and the tables among them are those of a list. -/
theorem Value.exists_elementsIfPresent_of_isIterable {v : Value} (h : v.isIterable = true) :
    ∃ elements, v.elementsIfPresent = .ok elements ∧ elements.filterMap table? = v.tables := by
  by_cases hpresent : v.isPresent = true
  · rw [elementsIfPresent, if_pos hpresent]
    cases v with
    | list items => exact ⟨items, rfl, rfl⟩
    | table entries => exact ⟨_, rfl, by simp [tables, List.filterMap_map]⟩
    | scalar s =>
      cases s with
      | text s => exact ⟨_, rfl, by simp [tables, List.filterMap_map]⟩
      | _ =>
        -- A number or a truth value that counts as present is nothing to go through.
        rw [isPresent] at hpresent
        simp [isIterable, hpresent] at h
  · rw [elementsIfPresent, if_neg hpresent]
    refine ⟨[], rfl, ?_⟩
    cases v with
    | list items => simp_all [isPresent, tables]
    | table | scalar => rfl

/-- What cannot be gone through gives no elements. -/
theorem Value.elementsIfPresent_of_not_isIterable {v : Value} (h : v.isIterable = false) :
    v.elementsIfPresent = .error .notIterable := by
  cases v with
  | list | table => simp [isIterable] at h
  | scalar s =>
    have hpresent : (scalar s).isPresent = true := by
      cases s <;> simp_all [isIterable, isPresent]
    rw [elementsIfPresent, if_pos hpresent]
    cases s with
    | text => simp [isIterable] at h
    | _ => rfl

/-- Going through the tables of a value succeeds if it can be gone through and they are right. -/
theorem Value.exists_elementsIfPresent_iff {v : Value} {p : List Table → Prop} :
    (∃ elements, v.elementsIfPresent = .ok elements ∧ p (elements.filterMap table?)) ↔
      v.isIterable = true ∧ p v.tables := by
  cases hiterable : v.isIterable with
  | false => simp [elementsIfPresent_of_not_isIterable hiterable]
  | true =>
    obtain ⟨elements, helements, htables⟩ := exists_elementsIfPresent_of_isIterable hiterable
    simp [helements, htables]

namespace Output

/-- The place that a package under source control is fetched from can be asked for its address. -/
def HasRemote (entry : Table) : Prop :=
  (Table.get entry "location").isPresent = true →
    ∃ location, Table.get entry "location" = .table location ∧
      ((Table.get location "remote").isPresent = true →
        (∃ items, Table.get location "remote" = .list items) ∨
          ∃ s, Table.get location "remote" = .text s)

/-- A dependency of a dump can be read: in the newer layout, the entries under source control or
else those of the file system can be gone through. -/
def IsReadableDependency (entries : Table) : Prop :=
  (Table.has entries "sourceControl" || Table.has entries "fileSystem") = true →
    (Table.get entries "sourceControl").isIterable = true ∧
      match (Table.get entries "sourceControl").tables with
      | entry :: _ => HasRemote entry
      | [] => (Table.get entries "fileSystem").isIterable = true

/-- A dump can be read: its targets and its dependencies can be gone through, and so can those of
each target with a name. -/
structure IsReadableDump (entries : Table) : Prop where
  targets : (Table.get entries "targets").isIterable = true
  target : ∀ target ∈ (Table.get entries "targets").tables,
    (Table.get target "name").text?.isSome = true → hasIterableDependencies target = true
  dependencies : hasIterableDependencies entries = true
  dependency : ∀ dependency ∈ dependencyTables entries, IsReadableDependency dependency

/-- A graph can be read: the dependencies of the root and those at the end of each simple path can
be gone through. -/
structure IsReadableGraph (root : Table) : Prop where
  here : hasIterableDependencies root = true
  below : ∀ path, IsPath root path → IsSimple path → hasIterableDependencies (pathEnd path) = true

/-- An output can be read: a dump or a graph that is a document is gone through without fail. -/
def IsReadable (text : String) : Prop :=
  match detectKind text with
  | .dumpPackage => ∀ entries, Json.read text.toList = .ok (.table entries) → IsReadableDump entries
  | .showDependencies => ∀ root, IsGraphDocument text root → IsReadableGraph root
  | .describe | .resolved | .build => True

/-! ## Dumps -/

/-- The first remote can be asked for, or there is none. -/
theorem exists_first_orElse_eq_ok_iff {remotes : Value} :
    (∃ remote, (remotes.orElse (.list [.table []])).first = .ok remote) ↔
      (remotes.isPresent = true →
        (∃ items, remotes = .list items) ∨ ∃ s, remotes = .text s) := by
  by_cases hpresent : remotes.isPresent = true
  · rw [Value.orElse, if_pos hpresent]
    cases remotes with
    | list items =>
      cases items with
      | nil => cases hpresent
      | cons item rest => simp [Value.first]
    | table => simp [Value.first, hpresent]
    | scalar s =>
      cases s with
      | text s =>
        -- A text that counts as present has a first character.
        obtain ⟨c, rest, hcs⟩ := List.exists_cons_of_ne_nil (l := s.toList)
          (by simpa [Value.isPresent, Scalar.isPresent] using hpresent)
        simp [Value.first, hcs]
      | _ => simp [Value.first, hpresent]
  · rw [Value.orElse, if_neg hpresent]
    simp [Value.first, hpresent]

theorem exists_remoteUrl_eq_ok_iff {entry : Table} :
    (∃ url, remoteUrl entry = .ok url) ↔ HasRemote entry := by
  simp only [remoteUrl, exists_bind_eq_ok_iff, exists_pure_eq_ok, and_true, HasRemote,
    ← exists_first_orElse_eq_ok_iff]
  by_cases hpresent : (Table.get entry "location").isPresent = true
  · rw [Value.orElse, if_pos hpresent]
    cases hlocation : Table.get entry "location" with
    | scalar | list =>
      rw [hlocation] at hpresent
      simp [Value.field, hpresent]
    | table location =>
      rw [hlocation] at hpresent
      simp [Value.field, hpresent]
  · -- Where there is no location an empty one takes its place, and it has no remotes.
    have hremote : ∃ remote,
        ((Table.get [] "remote").orElse (.list [.table []])).first = .ok remote := ⟨_, rfl⟩
    rw [Value.orElse, if_neg hpresent]
    exact iff_of_true ⟨_, rfl, hremote⟩ fun h => absurd h hpresent

theorem PackageDependency.exists_ofTable_eq_ok_iff {entries : Table} :
    (∃ dependency, ofTable entries = .ok dependency) ↔ IsReadableDependency entries := by
  rw [ofTable, IsReadableDependency]
  split_ifs with hgrouped
  · have hfirst (elements : List Value) :
        elements.findSome? Value.table? = (elements.filterMap Value.table?).head? :=
      List.head?_filterMap.symm
    have hkept := @Value.exists_elementsIfPresent_iff (Table.get entries "fileSystem") fun _ => True
    rw [forall_prop_of_true hgrouped]
    cases hcontrolled : (Table.get entries "sourceControl").isIterable with
    | false =>
      simp [ofGrouped, exists_bind_eq_ok_iff,
        Value.elementsIfPresent_of_not_isIterable hcontrolled]
    | true =>
      obtain ⟨elements, helements, htables⟩ :=
        Value.exists_elementsIfPresent_of_isIterable hcontrolled
      simp only [ofGrouped, exists_bind_eq_ok_iff, helements, Except.ok.injEq, exists_eq_left',
        hfirst, htables, true_and]
      -- The entries of the file system count only if there is none under source control.
      cases (Table.get entries "sourceControl").tables with
      | nil =>
        simp only [List.head?_nil, exists_bind_eq_ok_iff, exists_pure_eq_ok, and_true]
        simpa only [and_true] using hkept
      | cons entry rest =>
        simp only [List.head?_cons, ofSourceControl, exists_map_eq_ok_iff]
        exact exists_remoteUrl_eq_ok_iff
  · simp [hgrouped]

theorem exists_targetOf_eq_ok_iff {entries : Table} :
    (∃ target, targetOf entries = .ok target) ↔
      ((Table.get entries "name").text?.isSome = true → hasIterableDependencies entries = true) := by
  rw [targetOf]
  cases (Table.get entries "name").text? with
  | none => simp
  | some name =>
    have h := Value.exists_elementsIfPresent_iff (v := Table.get entries "dependencies")
      (p := fun _ => True)
    simp only [exists_map_eq_ok_iff]
    simpa [hasIterableDependencies] using h

theorem PackageDump.exists_ofTable_eq_ok_iff {entries : Table} :
    (∃ dump, ofTable entries = .ok dump) ↔ IsReadableDump entries := by
  have hdependencies := @Value.exists_elementsIfPresent_iff (Table.get entries "dependencies")
    fun tables => ∀ dependency ∈ tables, ∃ read, PackageDependency.ofTable dependency = .ok read
  have htargets := @Value.exists_elementsIfPresent_iff (Table.get entries "targets")
    fun tables => ∀ target ∈ tables, ∃ read, targetOf target = .ok read
  simp only [PackageDependency.exists_ofTable_eq_ok_iff] at hdependencies
  simp only [exists_targetOf_eq_ok_iff] at htargets
  simp only [ofTable, exists_bind_eq_ok_iff, exists_pure_eq_ok, and_true, exists_and_right,
    exists_mapM_eq_ok_iff, exists_targetOf_eq_ok_iff, PackageDependency.exists_ofTable_eq_ok_iff,
    ← and_assoc]
  rw [hdependencies, htargets]
  constructor
  · rintro ⟨⟨htargets, htarget⟩, hdependencies, hdependency⟩
    exact ⟨htargets, htarget, hdependencies, hdependency⟩
  · rintro ⟨htargets, htarget, hdependencies, hdependency⟩
    exact ⟨⟨htargets, htarget⟩, hdependencies, hdependency⟩

/-! ## All outputs -/

/-- The walk through a graph comes to an end exactly if it can pass every simple path. -/
theorem exists_summary_ofTable_eq_ok_iff {root : Table} :
    (∃ summary, (DependencyTree.ofTable root).summary = .ok summary) ↔ IsReadableGraph root := by
  constructor
  · rintro ⟨summary, hsummary⟩
    obtain ⟨hroot, hpaths, -⟩ := summary_ofTable_eq_ok_iff.1 hsummary
    refine ⟨hroot, fun path hpath hsimple => ?_⟩
    simpa [isPassable, hsimple] using hpaths path hpath
  · rintro ⟨hroot, hpaths⟩
    refine ⟨_, summary_ofTable_eq_ok_iff.2 ⟨hroot, fun path hpath => ?_, rfl⟩⟩
    by_cases hsimple : IsSimple path
    · simp [isPassable, hpaths path hpath hsimple]
    · simp [isPassable, hsimple]

theorem exists_readGraph_eq_ok_iff {text : String} :
    (∃ analysis, readGraph text = .ok analysis) ↔
      ∀ root, IsGraphDocument text root → IsReadableGraph root := by
  by_cases hbrace : startsWithBrace text = true
  · by_cases hdocument : ∃ root, IsGraphDocument text root
    · obtain ⟨root, hroot⟩ := hdocument
      rw [hroot.readGraph_eq, exists_map_eq_ok_iff, exists_summary_ofTable_eq_ok_iff]
      refine ⟨fun h other hother => ?_, fun h => h root hroot⟩
      obtain rfl : root = other := by simpa [hroot.2] using hother.2
      exact h
    · -- A text that is no document, or the document of something else, has an empty analysis.
      have hread : ∃ analysis, readGraph text = .ok analysis := by
        rw [readGraph, if_pos hbrace, readGraphDocument]
        split
        · exact ⟨_, rfl⟩
        · rename_i root hroot
          exact absurd ⟨root, hbrace, hroot⟩ hdocument
        · exact ⟨_, rfl⟩
      exact iff_of_true hread fun root hroot => absurd ⟨root, hroot⟩ hdocument
  · rw [readGraph, if_neg hbrace]
    exact iff_of_true ⟨_, rfl⟩ fun root hroot => absurd hroot.1 hbrace

theorem PackageDump.exists_read_eq_ok_iff {text : String} {filter : Option String} :
    (∃ analysis, read text filter = .ok analysis) ↔
      ∀ entries, Json.read text.toList = .ok (.table entries) → IsReadableDump entries := by
  rw [read]
  split
  · rename_i failure hfailure
    exact iff_of_true ⟨_, rfl⟩ fun entries hentries => by simp [hfailure] at hentries
  · rename_i entries hentries
    rw [exists_map_eq_ok_iff, exists_ofTable_eq_ok_iff]
    refine ⟨fun h other hother => ?_, fun h => h entries hentries⟩
    obtain rfl : entries = other := by simpa [hentries] using hother
    exact h
  · rename_i v hother hread
    refine iff_of_true ⟨_, rfl⟩ fun entries hentries => ?_
    exact absurd (Except.ok.inj (hread.symm.trans hentries)) (hother entries)

/-- An output gives an analysis, whatever target is asked for, exactly if it can be read. -/
theorem exists_analysis_iff_isReadable (text : String) (filter : Option String) (keepRaw : Bool) :
    (∃ analysis, read text filter keepRaw none = .ok analysis) ↔ IsReadable text := by
  rw [read, Option.getD_none, exists_map_eq_ok_iff, IsReadable]
  cases detectKind text with
  | dumpPackage => exact PackageDump.exists_read_eq_ok_iff
  | showDependencies => exact exists_readGraph_eq_ok_iff
  | describe | resolved | build => exact iff_of_true ⟨_, rfl⟩ trivial

/-- A number in place of the targets of a dump gives no analysis. -/
theorem read_number_as_targets :
    read (Json.write none (.ofFields [("targets", .int 5)])) none false none =
      .error .notIterable := by
  cbv

end Output

end PackageLint
