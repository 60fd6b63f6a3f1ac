import Mathlib
import PackageLint.Output.Reading
import PackageLint.Proofs.Outcome
import PackageLint.Proofs.Text.Trim

/-!
# When an output is a success

An output of any kind but one is a success exactly if its analysis has no errors: a dump and a
lock file if they are documents, whose issues are warnings at most, a graph if nothing in it
depends on itself, a log if it holds no error. Descriptions are judged by something else. A
description is a success if it names the package, and the lines of it that speak of an error are
counted apart from that.

## Main definitions

* `Analysis.IsConsistent`: an analysis is a success exactly if it has no errors;
* `NamesPackage` and `mentionsError`: what is looked for on a line of a description.

## Main results

* `success_iff_of_read`: when an output is a success, for outputs of all kinds;
* `read_description_without_name`: a description without a name fails without an error.
-/

namespace PackageLint.Output

open Text

/-- An analysis is a success exactly if it has no errors. -/
def Analysis.IsConsistent (a : Analysis) : Prop := a.success = true ↔ a.errorCount = 0

/-- A label begins the line, in any case, and more than blanks follow it. -/
def NamesPackage (line : List Char) : Prop :=
  ∃ label ∈ nameLabels, label.toList <+: lower line ∧
    ∃ c ∈ line.drop label.length, isBlank c = false

/-- The line speaks of an error, in any case. -/
def mentionsError (line : List Char) : Bool := occursIn "error".toList (lower line)

namespace Analysis

/-- There are no errors if no issue is as bad as one. -/
theorem errorCount_eq_zero_iff {a : Analysis} :
    a.errorCount = 0 ↔ ∀ issue ∈ a.issues, issue.severity.atLeast .error = false := by
  simp [errorCount, List.countP_eq_zero]

/-- A success without errors is consistent. -/
theorem IsConsistent.of_success {a : Analysis} (hsuccess : a.success = true)
    (h : ∀ issue ∈ a.issues, issue.severity.atLeast .error = false) : a.IsConsistent :=
  iff_of_true hsuccess (errorCount_eq_zero_iff.2 h)

/-- A failure with an error is consistent. -/
theorem IsConsistent.of_failure {a : Analysis} {issue : Issue} (hsuccess : a.success = false)
    (hissue : issue ∈ a.issues) (h : issue.severity.atLeast .error = true) : a.IsConsistent := by
  refine iff_of_false (by simp [hsuccess]) fun hcount => ?_
  simp [errorCount_eq_zero_iff.1 hcount issue hissue] at h

end Analysis

/-! ## Dumps -/

namespace PackageDump

/-- A dump that is no document is a failure, and that is an error. -/
theorem isConsistent_unreadable (message : String) : (unreadable message).IsConsistent :=
  .of_failure rfl (.head _) rfl

/-- Nothing in the structure of a package is worse than a warning. -/
theorem severity_of_mem_issues {dump : PackageDump} {issue : Issue} (h : issue ∈ dump.issues) :
    issue.severity = .warning := by
  rw [issues] at h
  split_ifs at h <;> simp_all

/-- A dump that was read is a success, whatever its structure is warned of. -/
theorem isConsistent_analysis (dump : PackageDump) (filter : Option String) :
    (dump.analysis filter).IsConsistent := by
  refine .of_success rfl fun issue hissue => ?_
  cases filter with
  | none =>
    rw [severity_of_mem_issues hissue]
    rfl
  | some target => cases hissue

/-- A dump is a success exactly if it has no errors. -/
theorem isConsistent_of_read {text : String} {filter : Option String} {analysis : Analysis}
    (h : read text filter = .ok analysis) : analysis.IsConsistent := by
  rw [read] at h
  split at h
  · cases h
    exact isConsistent_unreadable _
  · obtain ⟨dump, -, rfl⟩ := map_eq_ok_iff.1 h
    exact dump.isConsistent_analysis filter
  · cases h
    exact isConsistent_unreadable _

end PackageDump

/-! ## Graphs, lock files and logs -/

/-- A graph fails exactly by the error that a cycle raises. -/
theorem GraphSummary.isConsistent_analysis (summary : GraphSummary) (name : Option String) :
    (summary.analysis name).IsConsistent := by
  cases hcircular : summary.circular with
  | true =>
    have hissue : circularIssue ∈ (summary.analysis name).issues := by simp [analysis, hcircular]
    exact .of_failure (by simp [analysis, hcircular]) hissue rfl
  | false => exact .of_success (by simp [analysis, hcircular]) (by simp [analysis, hcircular])

/-- A graph is a success exactly if it has no errors: a cycle is an error. -/
theorem isConsistent_of_readGraph {text : String} {analysis : Analysis}
    (h : readGraph text = .ok analysis) : analysis.IsConsistent := by
  rw [readGraph, readGraphDocument] at h
  split at h
  · split at h
    · cases h
      exact .of_failure rfl (.head _) rfl
    · obtain ⟨summary, -, rfl⟩ := map_eq_ok_iff.1 h
      exact summary.isConsistent_analysis _
    · cases h
      exact GraphSummary.isConsistent_analysis _ _
  · cases h
    exact GraphSummary.isConsistent_analysis _ _

/-- What is taken for a lock file is a document. -/
theorem exists_bracedDocument?_of_detectKind {text : String} (h : detectKind text = .resolved) :
    ∃ entries, bracedDocument? text = some (.table entries) := by
  rw [detectKind] at h
  split at h
  · exact ⟨_, ‹_›⟩
  · split_ifs at h

/-- A lock file that is detected as one is a success without errors: its pins give warnings at
worst. -/
theorem isConsistent_readResolved {text : String} (h : detectKind text = .resolved) :
    (readResolved text).IsConsistent := by
  obtain ⟨entries, hentries⟩ := exists_bracedDocument?_of_detectKind h
  refine .of_success (by simp [readResolved, hentries]) fun issue hissue => ?_
  rw [readResolved, PinListing.issues_ofItems] at hissue
  obtain ⟨pin, -, hpin⟩ := List.mem_filterMap.1 hissue
  rw [pinIssue?] at hpin
  split_ifs at hpin
  cases hpin
  rfl

/-- A build is a success exactly if its log has no errors. -/
theorem isConsistent_readBuildLog (text : String) (filter : Option String) :
    (readBuildLog text filter).IsConsistent := by
  simp [Analysis.IsConsistent, Analysis.errorCount_eq_zero_iff, readBuildLog]

/-! ## Descriptions -/

/-- A description that is asked for a target is a success with a note. -/
theorem isConsistent_undescribedTarget (target : String) :
    (undescribedTarget target).IsConsistent :=
  .of_success rfl (by simp [undescribedTarget, Severity.atLeast, Severity.rank])

/-- At most one label begins a line. -/
theorem find?_nameLabels_eq_some_iff {line : List Char} {label : String} :
    nameLabels.find? (fun label => label.toList.isPrefixOf line) = some label ↔
      label ∈ nameLabels ∧ label.toList <+: line := by
  refine ⟨fun h => ⟨List.mem_of_find?_eq_some h, by simpa using List.find?_some h⟩, ?_⟩
  rintro ⟨hlabel, hprefix⟩
  have hbegins : label.toList.isPrefixOf line = true := List.isPrefixOf_iff_prefix.2 hprefix
  simp only [nameLabels, List.mem_cons, List.not_mem_nil, or_false] at hlabel
  rcases hlabel with rfl | rfl
  · exact List.find?_cons_of_pos hbegins
  · -- The labels differ in their first letters.
    obtain ⟨rest, rfl⟩ := hprefix
    rfl

/-- A line gives the name of a package if it has something behind one of the labels. -/
theorem isSome_packageName?_iff {line : List Char} :
    (packageName? line).isSome = true ↔ NamesPackage line := by
  have hvalue (label : String) : (trim (line.drop label.length)).isEmpty = false ↔
      ∃ c ∈ line.drop label.length, isBlank c = false := by
    rw [List.isEmpty_eq_false_iff, Ne, trim_eq_nil_iff]
    simp
  rw [packageName?, NamesPackage]
  simp only [Option.isSome_map]
  constructor
  · intro h
    cases hlabel : nameLabels.find? fun label => label.toList.isPrefixOf (lower line) with
    | none => simp [hlabel] at h
    | some label =>
      obtain ⟨hmem, hprefix⟩ := find?_nameLabels_eq_some_iff.1 hlabel
      refine ⟨label, hmem, hprefix, (hvalue label).1 ?_⟩
      simpa [hlabel, Option.filter] using h
  · rintro ⟨label, hmem, hprefix, hrest⟩
    rw [find?_nameLabels_eq_some_iff.2 ⟨hmem, hprefix⟩]
    simp [Option.filter, (hvalue label).2 hrest]

/-- A description is a success exactly if one of its lines names the package. -/
theorem success_readDescription_iff {text : String} :
    (readDescription text none).success = true ↔
      ∃ line ∈ (linesOf text).map trim, NamesPackage line := by
  simp only [readDescription, List.findSome?_isSome_iff, isSome_packageName?_iff]

/-- A description has an error for each line that speaks of one. -/
theorem errorCount_readDescription (text : String) :
    (readDescription text none).errorCount =
      ((linesOf text).map trim).countP mentionsError := by
  rw [Analysis.errorCount, readDescription, List.countP_filterMap]
  refine List.countP_congr fun line _ => ?_
  rw [descriptionIssue?, mentionsError]
  split_ifs with hmentions
  · simpa using hmentions
  · simpa using hmentions

/-! ## All outputs -/

/-- The analysis of an output of the kind it is taken for is consistent, unless it is a description
that is read as a whole. -/
theorem isConsistent_of_readAs {text : String} {filter : Option String} {analysis : Analysis}
    (h : readAs (detectKind text) text filter = .ok analysis)
    (hkind : ¬ (detectKind text = .describe ∧ filter = none)) : analysis.IsConsistent := by
  cases hdetect : detectKind text <;> rw [hdetect] at h
  case dumpPackage => exact PackageDump.isConsistent_of_read h
  case showDependencies => exact isConsistent_of_readGraph h
  case resolved =>
    cases h
    exact isConsistent_readResolved hdetect
  case build =>
    cases h
    exact isConsistent_readBuildLog text filter
  case describe =>
    cases h
    cases filter with
    | none => exact absurd ⟨hdetect, rfl⟩ hkind
    | some target => exact isConsistent_undescribedTarget target

/-- An output is a success exactly if its analysis has no errors, unless it is a description that
is read as a whole. Such a description is a success exactly if one of its lines names the package,
and it has an error for each line that speaks of one. -/
theorem success_iff_of_read {text : String} {filter : Option String} {keepRaw : Bool}
    {analysis : Analysis} (h : read text filter keepRaw none = .ok analysis) :
    (¬ (detectKind text = .describe ∧ filter = none) →
      (analysis.success = true ↔ analysis.errorCount = 0)) ∧
    (detectKind text = .describe ∧ filter = none →
      (analysis.success = true ↔ ∃ line ∈ (linesOf text).map trim, NamesPackage line) ∧
      analysis.errorCount = ((linesOf text).map trim).countP mentionsError) := by
  obtain ⟨found, hfound, rfl⟩ := map_eq_ok_iff.1 h
  rw [Option.getD_none] at hfound
  -- Keeping the text changes neither the issues nor the success.
  have hsuccess : (if keepRaw then { found with raw := some text } else found).success =
      found.success := by cases keepRaw <;> rfl
  have hcount : (if keepRaw then { found with raw := some text } else found).errorCount =
      found.errorCount := by cases keepRaw <;> rfl
  rw [hsuccess, hcount]
  refine ⟨isConsistent_of_readAs hfound, ?_⟩
  rintro ⟨hkind, rfl⟩
  rw [hkind] at hfound
  cases hfound
  exact ⟨success_readDescription_iff, errorCount_readDescription text⟩

/-- An output without an explicit kind that is detected as a description is read as one. -/
theorem read_of_detectKind_describe {text : String} (h : detectKind text = .describe)
    (filter : Option String) : read text filter false none = .ok (readDescription text filter) := by
  rw [read, Option.getD_none, h]
  rfl

/-- A description with a name is a success, and its error is counted all the same. -/
theorem success_iff_of_read_stale :
    ∃ analysis, read "Name: App\nTools version: 5.9\nerror: stale" none false none = .ok analysis ∧
      detectKind "Name: App\nTools version: 5.9\nerror: stale" = .describe ∧
      analysis.success = true ∧ analysis.errorCount = 1 := by
  have hkind : detectKind "Name: App\nTools version: 5.9\nerror: stale" = .describe := by
    decide +kernel
  have hread := read_of_detectKind_describe hkind none
  obtain ⟨hsuccess, hcount⟩ := (success_iff_of_read hread).2 ⟨hkind, rfl⟩
  refine ⟨_, hread, hkind, hsuccess.2 ⟨"Name: App".toList, ?_, ?_⟩, hcount.trans ?_⟩
  · decide +kernel
  · exact ⟨"name:", .tail _ (.head _), by decide +kernel, 'A', by decide +kernel, rfl⟩
  · decide +kernel

/-- A description without a name fails, and there is no error in it. -/
theorem read_description_without_name :
    ∃ analysis, read "Tools version: 5.9" none false none = .ok analysis ∧
      ¬ (analysis.success = true ↔ analysis.errorCount = 0) := by
  have hkind : detectKind "Tools version: 5.9" = .describe := by decide +kernel
  refine ⟨_, read_of_detectKind_describe hkind none, ?_⟩
  decide +kernel

end PackageLint.Output
