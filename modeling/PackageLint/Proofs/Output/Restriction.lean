import Mathlib
import PackageLint.Json.Writer
import PackageLint.Proofs.Output.Readability

/-!
# Dumps restricted to a target

The packages from elsewhere that stay in a dump when it is restricted to a target are those that
the target names. A target names a product together with the package it comes from, and it is the
name of the product that counts: the package stays only if something else in a target of that name
goes by the name of the package, or if product and package have the same name.

## Main definitions

* `GoesBy`: the name that an entry among the dependencies of a target goes by;
* `IsNamedBy`: some target of a document goes by one name and names another.

## Main results

* `mem_externals_restricted_iff`: which packages stay;
* `restriction_drops_package_of_product`: the package of a product that is used does not stay.
-/

namespace PackageLint.Output

/-- The value is a list that begins with a text. -/
def BeginsWithText (v : Value) : Prop := ∃ s more, v = .list (.text s :: more)

/-- An entry among the dependencies of a target goes by a name: it is the name itself, or it is a
table in which the first list that begins with a text begins with the name. -/
inductive GoesBy (name : String) : Value → Prop
  | plain : GoesBy name (.text name)
  | listed {before after : Table} {key : Scalar} {more : List Value}
      (h : ∀ entry ∈ before, ¬ BeginsWithText entry.2) :
      GoesBy name (.table (before ++ (key, .list (.text name :: more)) :: after))

/-- The entries among the dependencies of a target; there are none in a shape that has none. -/
def dependencyEntries (target : Table) : List Value :=
  ((Table.get target "dependencies").elementsIfPresent).toOption.getD []

/-- A target with the first name, among those that the document lists, depends on something that
goes by the second one. -/
def IsNamedBy (document : Table) (target name : String) : Prop :=
  ∃ entries ∈ (Table.get document "targets").tables, Table.get entries "name" = .text target ∧
    ∃ entry ∈ dependencyEntries entries, GoesBy name entry

/-- The packages from elsewhere that an analysis lists. -/
def Analysis.externals (a : Analysis) : List ExternalDependency :=
  (a.dependencies.map (·.external)).getD []

/-! ## Names -/

theorem firstListedText?_cons (v : Value) (rest : List Value) :
    (∃ s more, v = .list (.text s :: more) ∧ firstListedText? (v :: rest) = some s) ∨
      ¬ BeginsWithText v ∧ firstListedText? (v :: rest) = firstListedText? rest := by
  rw [firstListedText?.eq_def]
  split
  · cases ‹_ :: _ = _›
  · cases ‹_ :: _ = _›
    exact .inl ⟨_, _, rfl, rfl⟩
  · rename_i h _
    cases ‹_ :: _ = _›
    exact .inr ⟨fun ⟨s, more, hv⟩ => h s more hv, rfl⟩

/-- The first text that begins a list stands behind values that are no such lists. -/
theorem firstListedText?_eq_some_iff {fields : Table} {name : String} :
    firstListedText? (fields.map Prod.snd) = some name ↔
      ∃ before key more after, fields = before ++ (key, .list (.text name :: more)) :: after ∧
        ∀ entry ∈ before, ¬ BeginsWithText entry.2 := by
  induction fields with
  | nil => simp [firstListedText?]
  | cons field rest ih =>
    obtain ⟨key, v⟩ := field
    rw [List.map_cons]
    -- The first field either begins with a text or is passed over.
    rcases firstListedText?_cons v (rest.map Prod.snd) with ⟨s, more, rfl, hfirst⟩ | ⟨hv, hrest⟩
    · rw [hfirst]
      constructor
      · rintro ⟨rfl⟩
        exact ⟨[], key, more, rest, rfl, by simp⟩
      · rintro ⟨before, key', more', after, heq, hbefore⟩
        cases before with
        | nil =>
          cases heq
          rfl
        | cons first before =>
          cases heq
          exact absurd ⟨s, more, rfl⟩ (hbefore _ (.head _))
    · rw [hrest, ih]
      constructor
      · rintro ⟨before, key', more, after, rfl, hbefore⟩
        exact ⟨(key, v) :: before, key', more, after, rfl, List.forall_mem_cons.2 ⟨hv, hbefore⟩⟩
      · rintro ⟨before, key', more, after, heq, hbefore⟩
        cases before with
        | nil =>
          cases heq
          exact absurd ⟨name, more, rfl⟩ hv
        | cons first before =>
          cases heq
          exact ⟨before, key', more, after, rfl, fun entry h => hbefore entry (.tail _ h)⟩

theorem goesBy_table_iff {fields : Table} {name : String} :
    GoesBy name (.table fields) ↔ firstListedText? (fields.map Prod.snd) = some name := by
  rw [firstListedText?_eq_some_iff]
  constructor
  · rintro (_ | hbefore)
    exact ⟨_, _, _, _, rfl, hbefore⟩
  · rintro ⟨before, key, more, after, rfl, hbefore⟩
    exact .listed hbefore

/-- The name of an entry is the one that it goes by. -/
theorem targetDependency?_eq_some_iff {entry : Value} {name : String} :
    targetDependency? entry = some name ↔ name ≠ "" ∧ GoesBy name entry := by
  have hempty : (!name.isEmpty) = true ↔ name ≠ "" := by simp
  -- A text goes by itself, a table by its fields, and nothing else by any name.
  cases entry with
  | table fields =>
    rw [targetDependency?, Option.filter_eq_some_iff, hempty, goesBy_table_iff, and_comm]
  | list items =>
    simp only [targetDependency?, Option.filter_none, reduceCtorEq, false_iff, not_and]
    rintro - ⟨⟩
  | scalar s =>
    cases s with
    | text s =>
      simp only [targetDependency?, Option.filter_eq_some_iff, Option.some.injEq, hempty]
      constructor
      · rintro ⟨rfl, hne⟩
        exact ⟨hne, .plain⟩
      · rintro ⟨hne, ⟨⟩⟩
        exact ⟨rfl, hne⟩
    | _ =>
      simp only [targetDependency?, Option.filter_none, reduceCtorEq, false_iff, not_and]
      rintro - ⟨⟩

/-- A product counts under its own name, not under that of its package. -/
theorem goesBy_product_iff {product package name : String} {more : List Value} :
    GoesBy name (.table [(.text "product", .list (.text product :: .text package :: more))]) ↔
      name = product := by
  simp [goesBy_table_iff, firstListedText?, eq_comm]

/-! ## Targets -/

/-- The entries of the dependencies, where reading them does not fail. -/
theorem dependencyEntries_of_eq_ok {target : Table} {entries : List Value}
    (h : (Table.get target "dependencies").elementsIfPresent = .ok entries) :
    dependencyEntries target = entries := by
  rw [dependencyEntries, h]
  rfl

/-- A target that was read has the name of its table, and depends on what the entries go by. -/
theorem targetOf_eq_ok_some_iff {entries : Table} {target : Target}
    (h : targetOf entries = .ok (some target)) :
    Table.get entries "name" = .text target.name ∧
      ∀ name, name ∈ target.dependencies ↔
        name ≠ "" ∧ ∃ entry ∈ dependencyEntries entries, GoesBy name entry := by
  rw [targetOf] at h
  cases hname : Table.get entries "name" with
  | list | table => simp [hname, Value.text?] at h
  | scalar s =>
    cases s with
    | text s =>
      simp only [hname, Value.text?] at h
      obtain ⟨found, hfound, htarget⟩ := map_eq_ok_iff.1 h
      cases htarget
      refine ⟨rfl, fun name => ?_⟩
      -- The dependencies are read from the entries one by one.
      rw [dependencyEntries_of_eq_ok hfound]
      simp only [List.mem_filterMap, targetDependency?_eq_some_iff]
      constructor
      · rintro ⟨entry, hentry, hne, hgoes⟩
        exact ⟨hne, entry, hentry, hgoes⟩
      · rintro ⟨hne, entry, hentry, hgoes⟩
        exact ⟨entry, hentry, hne, hgoes⟩
    | _ => simp [hname, Value.text?] at h

/-! ## Dumps -/

/-- Where the elements of a value can be told, the tables among them are those of a list. -/
theorem filterMap_table?_of_elementsIfPresent {v : Value} {elements : List Value}
    (h : v.elementsIfPresent = .ok elements) : elements.filterMap Value.table? = v.tables := by
  cases hiterable : v.isIterable with
  | false => simp [Value.elementsIfPresent_of_not_isIterable hiterable] at h
  | true =>
    obtain ⟨found, hfound, htables⟩ := Value.exists_elementsIfPresent_of_isIterable hiterable
    obtain rfl : found = elements := by simpa [hfound] using h
    exact htables

namespace PackageDump

/-- The targets of a dump are those that the tables among the targets of the document describe. -/
theorem mem_targets_iff_of_ofTable {document : Table} {dump : PackageDump}
    (h : ofTable document = .ok dump) {target : Target} :
    target ∈ dump.targets ↔
      ∃ entries ∈ (Table.get document "targets").tables, targetOf entries = .ok (some target) := by
  simp only [ofTable, bind_eq_ok_iff] at h
  obtain ⟨found, hfound, targets, htargets, dependencies, -, read, -, hdump⟩ := h
  cases hdump
  rw [← filterMap_table?_of_elementsIfPresent hfound]
  simp [mem_iff_of_mapM_eq_ok htargets]

/-- A dump has a target for each table with a name among the targets of the document. -/
theorem exists_targetOf_eq_ok_some {document entries : Table} {dump : PackageDump} {name : String}
    (h : ofTable document = .ok dump) (hentries : entries ∈ (Table.get document "targets").tables)
    (hname : Table.get entries "name" = .text name) :
    ∃ target, targetOf entries = .ok (some target) := by
  have hnamed : (Table.get entries "name").text? = some name := by rw [hname]; rfl
  have hreadable := (exists_ofTable_eq_ok_iff.1 ⟨dump, h⟩).target entries hentries (by simp [hnamed])
  obtain ⟨found, hfound⟩ := exists_targetOf_eq_ok_iff.2 fun _ => hreadable
  have hsome := hfound
  rw [targetOf, hnamed] at hsome
  obtain ⟨dependencies, -, rfl⟩ := map_eq_ok_iff.1 hsome
  exact ⟨_, hfound⟩

/-- The targets of one name in a dump depend on what they name in the document. -/
theorem mem_dependencies_iff_isNamedBy {document : Table} {dump : PackageDump}
    (h : ofTable document = .ok dump) {target name : String} :
    name ∈ (dump.targets.filter (·.name = target)).flatMap (·.dependencies) ↔
      name ≠ "" ∧ IsNamedBy document target name := by
  simp only [List.mem_flatMap, List.mem_filter, decide_eq_true_eq]
  constructor
  -- A target of the dump comes from an entry of the document, and back.
  · rintro ⟨t, ⟨ht, rfl⟩, hname⟩
    obtain ⟨entries, hentries, hread⟩ := (mem_targets_iff_of_ofTable h).1 ht
    obtain ⟨hcalled, hdependencies⟩ := targetOf_eq_ok_some_iff hread
    obtain ⟨hne, hentry⟩ := (hdependencies name).1 hname
    exact ⟨hne, entries, hentries, hcalled, hentry⟩
  · rintro ⟨hne, entries, hentries, hcalled, hentry⟩
    obtain ⟨t, hread⟩ := exists_targetOf_eq_ok_some h hentries hcalled
    obtain ⟨hname, hdependencies⟩ := targetOf_eq_ok_some_iff hread
    refine ⟨t, ⟨(mem_targets_iff_of_ofTable h).2 ⟨entries, hentries, hread⟩, ?_⟩, ?_⟩
    · simpa [hcalled] using hname.symm
    · exact (hdependencies name).2 ⟨hne, hentry⟩

theorem read_of_eq_ok {text : String} {document : Table} {filter : Option String}
    (h : Json.read text.toList = .ok (.table document)) :
    read text filter = (ofTable document).map (·.analysis filter) := by
  rw [read, h]

/-- The packages that stay in a restricted dump are those that the targets name. -/
theorem mem_externals_analysis_iff {document : Table} {dump : PackageDump}
    (h : ofTable document = .ok dump) {target : String} {package : ExternalDependency} :
    package ∈ (dump.analysis (some target)).externals ↔
      package ∈ (dump.analysis none).externals ∧ package.name ≠ "" ∧
        IsNamedBy document target package.name := by
  rw [← mem_dependencies_iff_isNamedBy h]
  simp [Analysis.externals, analysis, restrict]

end PackageDump

/-- A package from elsewhere stays in a dump that is restricted to a target exactly if a target of
that name depends on something that goes by its name. -/
theorem mem_externals_restricted_iff {text target : String} {document : Table} {part : Analysis}
    (hdocument : Json.read text.toList = .ok (.table document))
    (hpart : PackageDump.read text (some target) = .ok part) :
    ∃ whole, PackageDump.read text none = .ok whole ∧ ∀ package,
      package ∈ part.externals ↔ package ∈ whole.externals ∧ package.name ≠ "" ∧
        IsNamedBy document target package.name := by
  rw [PackageDump.read_of_eq_ok hdocument] at hpart
  obtain ⟨dump, hdump, rfl⟩ := map_eq_ok_iff.1 hpart
  refine ⟨dump.analysis none, ?_, fun package => PackageDump.mem_externals_analysis_iff hdump⟩
  rw [PackageDump.read_of_eq_ok hdocument, hdump]
  rfl

/-- A target that uses a product of one package and, under its own name, another package. -/
def featureTarget : Table := [
  (.text "name", .text "Feature"),
  (.text "dependencies", .list [
    .table [(.text "product", .list [.text "Sharing", .text "swift-sharing", .null])],
    .text "swift-nav"])]

/-- The dump of a package with that target alone, and with both of the packages. -/
def featureDump : Table := [
  (.text "targets", .list [.table featureTarget]),
  (.text "dependencies", .list [
    .table [(.text "sourceControl", .list [.table [(.text "identity", .text "swift-sharing")]])],
    .table [(.text "name", .text "swift-nav"), (.text "url", .text "https://nav")]])]

/-- What the dump says of the package. -/
def featurePackage : PackageDump where
  targets := [{ name := "Feature", kind := "regular", dependencies := ["Sharing", "swift-nav"] }]
  external := [{ name := "swift-sharing" }, { name := "swift-nav", url := some "https://nav" }]

theorem read_write_featureDump :
    Json.read (Json.write none (.table featureDump)).toList = .ok (.table featureDump) := by
  cbv

theorem read_featureDump (filter : Option String) :
    PackageDump.read (Json.write none (.table featureDump)) filter =
      .ok (featurePackage.analysis filter) := by
  have hdump : PackageDump.ofTable featureDump = .ok featurePackage := by cbv
  rw [PackageDump.read_of_eq_ok read_write_featureDump, hdump]
  rfl

/-- The package that the target names stays. -/
theorem mem_externals_restricted_iff_featureDump :
    ∃ part, PackageDump.read (Json.write none (.table featureDump)) (some "Feature") = .ok part ∧
      { name := "swift-nav", url := some "https://nav" } ∈ part.externals := by
  have hpart := read_featureDump (some "Feature")
  obtain ⟨whole, hwhole, hmem⟩ := mem_externals_restricted_iff read_write_featureDump hpart
  obtain rfl := Except.ok.inj (hwhole.symm.trans (read_featureDump none))
  refine ⟨_, hpart, (hmem _).2 ⟨.tail _ (.head _), by decide, ?_⟩⟩
  exact ⟨featureTarget, .head _, rfl, _, .tail _ (.head _), .plain⟩

/-- The package of a product that the target uses does not stay, as the product has another name. -/
theorem restriction_drops_package_of_product :
    featureTarget ∈ (Table.get featureDump "targets").tables ∧
    Table.get featureTarget "name" = .text "Feature" ∧
    .table [(.text "product", .list [.text "Sharing", .text "swift-sharing", .null])] ∈
      dependencyEntries featureTarget ∧
    ∃ whole part, PackageDump.read (Json.write none (.table featureDump)) none = .ok whole ∧
      PackageDump.read (Json.write none (.table featureDump)) (some "Feature") = .ok part ∧
      { name := "swift-sharing" } ∈ whole.externals ∧
      ∀ package ∈ part.externals, package.name ≠ "swift-sharing" := by
  refine ⟨.head _, rfl, .head _, _, _, read_featureDump none, read_featureDump (some "Feature"),
    .head _, ?_⟩
  decide

end PackageLint.Output
