import Mathlib
import PackageLint.Output.Reading
import PackageLint.Proofs.Output.Restriction

/-!
# Dumps with and without a target filter

A dump that can be read without a filter can be read with every filter, and each filtered analysis
is a part of the unfiltered one: nothing is added, nothing changes its place, and of the
dependencies exactly those are left out that none of the remaining targets names. The filters for
all names of targets together give each target once.

## Main definitions

* `Analysis.dependencyNames`: what the targets of an analysis name;
* `IsFiltered`: one analysis is the part of another one that belongs to a name of targets.

## Main results

* `PackageDump.isFiltered_analysis`: a filter leaves the part that belongs to its name;
* `count_eq_length_of_readAs`: an analysis gives the number of the targets that it lists;
* `sum_length_filter_name`: the targets of all names are all targets;
* `exists_isFiltered_of_read`: both for the text of a dump, and the issues of the unfiltered
  analysis.
-/

namespace PackageLint.Output

namespace Analysis

/-- The targets that an analysis lists. -/
def targetList (a : Analysis) : List Target := (a.targets.map (·.targets)).getD []

/-- The number of targets that an analysis gives. -/
def targetCount (a : Analysis) : Nat := (a.targets.map (·.count)).getD 0

/-- The packages in the same place that an analysis lists. -/
def localNames (a : Analysis) : List String := (a.dependencies.map (·.locals)).getD []

/-- The names of what the targets of an analysis depend on. -/
def dependencyNames (a : Analysis) : List String := a.targetList.flatMap (·.dependencies)

end Analysis

/-- An analysis is the part of another one that belongs to the targets of a name: these targets, in
their order, and the dependencies that they name, in theirs. It has no issues of its own. -/
structure IsFiltered (name : String) (whole part : Analysis) : Prop where
  targets_eq : part.targets = some {
    count := (whole.targetList.filter (·.name = name)).length
    filter := some name
    targets := whole.targetList.filter (·.name = name) }
  dependencies_eq : part.dependencies = some {
    external := whole.externals.filter (·.name ∈ part.dependencyNames)
    locals := whole.localNames.filter (· ∈ part.dependencyNames) }
  issues_eq_nil : part.issues = []
  success_eq : part.success = whole.success
  packageName_eq : part.packageName = whole.packageName

/-- Whatever wrote an output, the number of targets that is stored in its analysis is the number of
those that it lists. -/
theorem count_eq_length_of_readAs {kind : CommandKind} {text : String} {filter : Option String}
    {analysis : Analysis} (h : readAs kind text filter = .ok analysis) :
    ∀ t ∈ analysis.targets, t.count = t.targets.length := by
  -- Only dumps and descriptions of a single target list targets at all.
  cases kind with
  | dumpPackage =>
    change PackageDump.read text filter = .ok analysis at h
    unfold PackageDump.read at h
    split at h
    · cases h
      simp [PackageDump.unreadable]
    · obtain ⟨dump, -, rfl⟩ := map_eq_ok_iff.1 h
      simp [PackageDump.analysis]
    · cases h
      simp [PackageDump.unreadable]
  | describe =>
    cases h
    cases filter <;> simp [readDescription, undescribedTarget]
  | showDependencies =>
    change readGraph text = .ok analysis at h
    unfold readGraph readGraphDocument at h
    split_ifs at h
    · split at h
      · cases h
        simp [unreadableGraph]
      · obtain ⟨summary, -, rfl⟩ := map_eq_ok_iff.1 h
        simp [GraphSummary.analysis]
      · cases h
        simp [GraphSummary.analysis]
    · cases h
      simp [GraphSummary.analysis]
  | resolved =>
    cases h
    simp [readResolved]
  | build =>
    cases h
    simp [readBuildLog]

/-- The targets of all names together are all targets. -/
theorem sum_length_filter_name (targets : List Target) :
    ∑ name ∈ (targets.map (·.name)).toFinset, (targets.filter (·.name = name)).length =
      targets.length := by
  -- As many targets have a name as the name occurs among the names of the targets.
  have hcount : ∀ name, (targets.filter (·.name = name)).length =
      (targets.map (·.name)).count name := by
    intro name
    rw [← List.countP_eq_length_filter, List.count, List.countP_map]
    rfl
  calc ∑ name ∈ (targets.map (·.name)).toFinset, (targets.filter (·.name = name)).length
      = ∑ name ∈ (targets.map (·.name)).toFinset, (targets.map (·.name)).count name :=
        Finset.sum_congr rfl fun name _ => hcount name
    _ = (targets.map (·.name)).length := List.sum_toFinset_count_eq_length _
    _ = targets.length := List.length_map _

namespace PackageDump

variable (dump : PackageDump)

/-- A filter leaves the part of a dump that belongs to its name. -/
theorem isFiltered_analysis (name : String) :
    IsFiltered name (dump.analysis none) (dump.analysis (some name)) where
  targets_eq := rfl
  dependencies_eq := by
    have hnames : (dump.analysis (some name)).dependencyNames =
        (dump.targets.filter (·.name = name)).flatMap (·.dependencies) := rfl
    have hcontains : ∀ names : List String, names.contains = fun name => decide (name ∈ names) :=
      fun names => funext fun name => List.contains_eq_mem name names
    rw [hnames]
    simp [Analysis.externals, Analysis.localNames, analysis, restrict, hcontains]
  issues_eq_nil := rfl
  success_eq := rfl
  packageName_eq := rfl

/-- A missing target is an issue exactly if there are no targets. -/
theorem exists_missingTarget_iff :
    (∃ issue ∈ dump.issues, issue.kind = .missingTarget) ↔ dump.targets.length = 0 := by
  rw [issues, ← List.isEmpty_iff_length_eq_zero]
  split_ifs with hempty hmany <;> simp [hempty]

/-- The number of targets is an issue exactly if there are more than the limit. -/
theorem exists_performance_iff :
    (∃ issue ∈ dump.issues, issue.kind = .performance) ↔ targetLimit < dump.targets.length := by
  rw [issues]
  split_ifs with hempty hmany
  · have hnone : dump.targets.length = 0 := List.isEmpty_iff_length_eq_zero.1 hempty
    simp [hnone]
  · simp [hmany]
  · simp [hmany]

end PackageDump

/-- Where a dump can be read, with or without a filter, it can be read without one and with each. A
filtered analysis is the part of the unfiltered one that belongs to the name. The unfiltered one
complains of missing targets exactly if it counts none, and of many exactly if it counts more than
twenty. The targets that the filters for all names of targets count are as many as it counts. -/
theorem exists_isFiltered_of_read {text : String} {document : Table} {filter : Option String}
    {found : Analysis} (hdocument : Json.read text.toList = .ok (.table document))
    (hfound : PackageDump.read text filter = .ok found) :
    ∃ (whole : Analysis) (part : String → Analysis),
      PackageDump.read text none = .ok whole ∧
      (∀ name, PackageDump.read text (some name) = .ok (part name)) ∧
      (∀ name, IsFiltered name whole (part name)) ∧
      whole.targets = some { count := whole.targetList.length, targets := whole.targetList } ∧
      whole.dependencies = some { external := whole.externals, locals := whole.localNames } ∧
      whole.targetCount = whole.targetList.length ∧
      (∀ name, (part name).targetCount = (part name).targetList.length) ∧
      ((∃ issue ∈ whole.issues, issue.kind = .missingTarget) ↔ whole.targetCount = 0) ∧
      ((∃ issue ∈ whole.issues, issue.kind = .performance) ↔ 20 < whole.targetCount) ∧
      ∑ name ∈ (whole.targetList.map (·.name)).toFinset, (part name).targetCount =
        whole.targetCount := by
  -- What the dump says of the package does not depend on the filter.
  rw [PackageDump.read_of_eq_ok hdocument] at hfound
  obtain ⟨dump, hdump, -⟩ := map_eq_ok_iff.1 hfound
  have hread : ∀ filter, PackageDump.read text filter = .ok (dump.analysis filter) := by
    intro filter
    rw [PackageDump.read_of_eq_ok hdocument, hdump]
    rfl
  refine ⟨dump.analysis none, fun name => dump.analysis (some name), hread none,
    fun name => hread (some name), dump.isFiltered_analysis, rfl, rfl, rfl, fun _ => rfl,
    dump.exists_missingTarget_iff, dump.exists_performance_iff, ?_⟩
  exact sum_length_filter_name dump.targets

/-- The dump of a package with two targets of one name, one of another name and one without a name,
of whose dependencies a target names one. -/
def twinDump : Table := [
  (.text "targets", .list [
    .table [(.text "name", .text "A")],
    .table [],
    .table [(.text "name", .text "B")],
    .table [(.text "name", .text "A"), (.text "dependencies", .list [.text "N"])]]),
  (.text "dependencies", .list [
    .table [(.text "name", .text "M")],
    .table [(.text "name", .text "N")]])]

/-- What the dump says of the package. -/
def twinPackage : PackageDump where
  targets := [
    { name := "A", kind := "regular" },
    { name := "B", kind := "regular" },
    { name := "A", kind := "regular", dependencies := ["N"] }]
  external := [{ name := "M" }, { name := "N" }]

/-- Two of the three targets with a name belong to one of the names. -/
theorem exists_isFiltered_of_read_twinDump :
    Json.read (Json.write none (.table twinDump)).toList = .ok (.table twinDump) ∧
    ∃ whole part, PackageDump.read (Json.write none (.table twinDump)) none = .ok whole ∧
      PackageDump.read (Json.write none (.table twinDump)) (some "A") = .ok part ∧
      IsFiltered "A" whole part ∧ whole.targetCount = 3 ∧ part.targetCount = 2 ∧
      part.externals.map (·.name) = ["N"] := by
  have hdocument : Json.read (Json.write none (.table twinDump)).toList = .ok (.table twinDump) := by
    cbv
  have hdump : PackageDump.ofTable twinDump = .ok twinPackage := by rfl
  have hread : ∀ filter, PackageDump.read (Json.write none (.table twinDump)) filter =
      .ok (twinPackage.analysis filter) := by
    intro filter
    rw [PackageDump.read_of_eq_ok hdocument, hdump]
    rfl
  obtain ⟨whole, part, hwhole, hpart, hfiltered, -⟩ :=
    exists_isFiltered_of_read hdocument (hread none)
  refine ⟨hdocument, whole, part "A", hwhole, hpart "A", hfiltered "A", ?_⟩
  obtain rfl := Except.ok.inj ((hread none).symm.trans hwhole)
  rw [← Except.ok.inj ((hread (some "A")).symm.trans (hpart "A"))]
  decide

end PackageLint.Output
