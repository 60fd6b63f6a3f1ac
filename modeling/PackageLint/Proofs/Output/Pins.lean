import Mathlib
import PackageLint.Json.Writer
import PackageLint.Output.Reading
import PackageLint.Proofs.Resolved.Summary
import PackageLint.Proofs.Text.Trim

/-!
# The two readers of lock files

A lock file is read by two readers: one counts its pins and names the flagged ones, the other
lists its pins as dependencies and raises an issue for each flagged one. Each has its own way to the
pins of a document. They take the same pins from every document, whichever of the two layouts it has
and whatever stands in place of a pin, so the counts are those of the lists.

## Main results

* `items_listedPins`: both readers take the same pins from a document;
* `bracedDocument?_eq_some`: both read the same document from a text between braces;
* `readers_agree`: what the two readers say of a document belongs together.
-/

namespace PackageLint

namespace Json

theorem table?_numberFrom (negative : Bool) (whole rest : List Char) :
    (numberFrom negative whole rest).1.table? = none := by
  rw [numberFrom]
  split_ifs <;> rfl

/-- What is read without opening a bracket is no table. -/
theorem table?_of_readAtom {cs rest : List Char} {v : Value} (h : readAtom cs = .ok (v, rest)) :
    v.table? = none := by
  -- A text, the value of a name or a number, and none of them is a table.
  by_cases hquote : ∃ body, cs = '"' :: body
  · obtain ⟨body, rfl⟩ := hquote
    rw [readAtom] at h
    cases hbody : readText ('"' :: body).length body <;> rw [hbody] at h <;> cases h
    rfl
  rw [not_exists] at hquote
  rw [readAtom.eq_2 _ hquote] at h
  cases hname : namedValues.find? (·.1.isPrefixOf cs) with
  | some p =>
    have hvalues : ∀ p ∈ namedValues, p.2.table? = none := by simp [namedValues, Value.table?]
    rw [hname] at h
    cases h
    exact hvalues p (List.mem_of_find?_eq_some hname)
  | none =>
    rw [hname] at h
    cases hnumber : readNumber cs with
    | none =>
      rw [hnumber] at h
      cases h
    | some p =>
      rw [hnumber] at h
      cases h
      obtain ⟨parts, -, heq⟩ := Option.map_eq_some_iff.1 hnumber
      have hvalue := table?_numberFrom (takeMinus cs).1 parts.1 parts.2
      rwa [show numberFrom (takeMinus cs).1 parts.1 parts.2 = (v, rest) from heq] at hvalue

/-- Only an opening brace starts a table. -/
theorem exists_eq_brace_cons_of_readValue {fuel : Nat} {cs rest : List Char} {entries : Table}
    (h : readValue fuel cs = .ok (.table entries, rest)) : ∃ tail, cs = '\x7b' :: tail := by
  revert h
  fun_cases readValue fuel cs with
  | case1 => nofun
  | case2 => nofun
  | case3 fuel body =>
    intro h
    cases hitems : readItems fuel (skipSpaces body) <;> rw [hitems] at h <;> cases h
  | case4 fuel body => exact fun _ => ⟨body, rfl⟩
  | case5 fuel body => exact fun _ => ⟨body, rfl⟩
  | case6 => exact fun h => absurd (table?_of_readAtom h) nofun

/-- Nothing is skipped in front of a text that has no blanks around it. -/
theorem skipSpaces_of_trim_eq {cs : List Char} (h : Text.trim cs = cs) : skipSpaces cs = cs := by
  cases cs with
  | nil => rfl
  | cons c cs =>
    have hblank : Text.isBlank c = false := by
      have hleading := Text.leadingBlanks_trim (c :: cs)
      rw [h, Text.leadingBlanks, List.takeWhile_eq_nil_iff] at hleading
      simpa using hleading
    have hspace : isSpace c = false := by
      rw [isSpace, Bool.or_eq_false_iff, Bool.or_eq_false_iff, Bool.or_eq_false_iff]
      refine ⟨⟨⟨?_, ?_⟩, ?_⟩, ?_⟩ <;>
        exact decide_eq_false (by rintro rfl; exact absurd hblank (by decide))
    exact List.dropWhile_cons_of_neg (by simp [hspace])

/-- A table that is written without blanks around it starts with a brace. -/
theorem exists_eq_brace_cons {cs : List Char} {entries : Table}
    (hread : read? cs = some (.table entries)) (htrim : Text.trim cs = cs) :
    ∃ tail, cs = '\x7b' :: tail := by
  rw [read?, readWhole, skipSpaces_of_trim_eq htrim] at hread
  split_ifs at hread
  · cases hread
  cases hvalue : readValue (2 * cs.length + 2) cs with
  | error stop =>
    rw [hvalue] at hread
    cases hread
  | ok p =>
    obtain ⟨v, rest⟩ := p
    rw [hvalue] at hread
    simp only at hread
    -- Nothing may follow the value, which is therefore the table.
    split at hread
    · cases hread
      exact exists_eq_brace_cons_of_readValue hvalue
    · cases hread

end Json

namespace Output

open Resolved

/-- Both readers find the same document in a text without blanks around it. -/
theorem bracedDocument?_eq_some {text : String} {entries : Table}
    (hread : Json.read? text.toList = some (.table entries))
    (htrim : Text.trim text.toList = text.toList) :
    bracedDocument? text = some (.table entries) := by
  obtain ⟨tail, htail⟩ := Json.exists_eq_brace_cons hread htrim
  rw [bracedDocument?, htrim, htail]
  rwa [htail] at hread

/-- Both readers find the same pins in a document. -/
theorem items_listedPins (document : Value) :
    (listedPins (some document)).items = pinItems document := by
  cases document with
  | scalar | list => rfl
  | table entries =>
    rw [listedPins, pinItems]
    generalize Table.get entries "pins" = pins
    generalize Table.get entries "object" = object
    cases pins with
    | list | table => cases object <;> rfl
    | scalar s => cases s <;> cases object <;> rfl

/-- The issues of pins are about the flagged ones. -/
theorem filterMap_pinIssue? (pins : List Pin) :
    pins.filterMap pinIssue? = (pins.filter Pin.flagged).map fun pin =>
      { kind := .dependency
        severity := .warning
        message := s!"Branch dependency: {pin.displayName}" } := by
  induction pins with
  | nil => rfl
  | cons pin pins ih =>
    rw [List.filterMap_cons, List.filter_cons, ih, pinIssue?]
    split_ifs <;> rfl

/-- The analysis of a lock file is made of the pins that the summary counts. -/
theorem readResolved_of_table {text : String} {entries : Table}
    (hread : Json.read? text.toList = some (.table entries))
    (htrim : Text.trim text.toList = text.toList) :
    readResolved text = {
      command := .resolved
      success := true
      dependencies := some { external := (pinTables (.table entries)).map pinnedPackage }
      issues := ((pinTables (.table entries)).map Pin.ofTable).filterMap pinIssue? } := by
  rw [readResolved, bracedDocument?_eq_some hread htrim, PinListing.external_ofItems,
    PinListing.issues_ofItems, items_listedPins]
  rfl

/-- The two readers of lock files agree. For every document, whatever it holds, and its text without
blanks around it, both come to an end: the number of pins is the number of dependencies, the number
of flagged pins is the number of issues, all of which are warnings, the issues name the flagged pins
in their order, and the dependencies are the pins in their order. -/
theorem readers_agree {text : String} {entries : Table}
    (hread : Json.read? text.toList = some (.table entries))
    (htrim : Text.trim text.toList = text.toList) (filter : Option String) :
    let summary := Summary.ofText text.toList
    ∃ analysis found, readAs .resolved text filter = .ok analysis ∧
      analysis.dependencies = some found ∧
      summary.total = found.external.length ∧
      summary.flagged = analysis.issues.length ∧
      summary.flagged = analysis.warningCount ∧
      analysis.issues.map (·.message) =
        summary.flaggedNames.map ("Branch dependency: " ++ ·) ∧
      found.external.map (·.name) =
        (pinTables (.table entries)).map fun pin => (Pin.ofTable pin).identity := by
  intro summary
  -- Both sides are worked out from the pins that the readers have in common.
  set pins := (pinTables (.table entries)).map Pin.ofTable with hpins
  have hsummary : summary = .ofPins pins := by
    show Summary.ofText _ = _
    rw [Summary.ofText, hread]
    rfl
  have hissues := filterMap_pinIssue? pins
  have hflagged : summary.flagged = (pins.filterMap pinIssue?).length := by
    rw [hsummary, (Summary.isConsistent_ofPins pins).flagged_eq, Summary.flaggedNames_ofPins,
      hissues, List.length_map, List.length_map]
  refine ⟨_, _, congrArg Except.ok (readResolved_of_table hread htrim), rfl, ?_, hflagged, ?_, ?_,
    ?_⟩
  · rw [hsummary, Summary.total_ofPins, hpins, List.length_map, List.length_map]
  · refine hflagged.trans (List.countP_eq_length.2 fun issue hissue => ?_).symm
    rw [hissues] at hissue
    obtain ⟨pin, -, rfl⟩ := List.mem_map.1 hissue
    rfl
  · rw [hsummary, Summary.flaggedNames_ofPins, hissues, List.map_map, List.map_map]
    rfl
  · rw [List.map_map]
    rfl

/-- A lock file of the older layout with a branch, a pin that is none, and a bare revision. -/
def olderLock : Table := [
  (.text "object", .ofFields [("pins", .list [
    .ofFields [("package", .text "Nav"), ("state", .ofFields [("branch", .text "main")])],
    .text "stray",
    .ofFields [("identity", .text "sharing"),
      ("state", .ofFields [("revision", .text "c0ffee")])]])])]

/-- In a lock file of the older layout both readers pass over what is no pin. -/
theorem readers_agree_olderLock :
    ∃ analysis found,
      readAs .resolved (Json.write none (.table olderLock)) none = .ok analysis ∧
      analysis.dependencies = some found ∧ found.external.map (·.name) = ["Nav", "sharing"] ∧
      analysis.issues.map (·.message) =
        ["Branch dependency: Nav", "Branch dependency: sharing (revision-only)"] := by
  have hread : Json.read? (Json.write none (.table olderLock)).toList =
      some (.table olderLock) := by cbv
  have htrim : Text.trim (Json.write none (.table olderLock)).toList =
      (Json.write none (.table olderLock)).toList := by decide +kernel
  have hnames : (Summary.ofDocument (.table olderLock)).flaggedNames =
      ["Nav", "sharing (revision-only)"] := by decide +kernel
  obtain ⟨analysis, found, hread', hfound, -, -, -, hmessages, hexternal⟩ :=
    readers_agree hread htrim none
  rw [Summary.ofText, hread, Option.elim_some, hnames] at hmessages
  exact ⟨analysis, found, hread', hfound, hexternal.trans (by decide +kernel), hmessages⟩

end Output

end PackageLint
