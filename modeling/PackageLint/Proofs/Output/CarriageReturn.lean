import Mathlib
import PackageLint.Checks.Manifest
import PackageLint.Output.Reading
import PackageLint.Proofs.Json.CarriageReturn
import PackageLint.Source.Check

/-!
# Outputs and sources with either line end

A service gets its texts as they were sent, with carriage returns before their line feeds or
without them. Every reader of an output gives the same analysis for both, and what is said of a
source file or a manifest is the same too.

## Main definitions

* `Analysis.withoutRaw`: what is left of an analysis without the output itself.

## Main results

* `read_crlfText`: outputs of every kind;
* `line_ends_do_not_matter`: outputs, source files and manifests.
-/

namespace PackageLint.Output

open Text

/-! ## What a text is recognised by -/

/-- The brace that a document starts with is no part of a line end. -/
theorem startsWithBrace_crlfText (text : String) :
    startsWithBrace (crlfText text) = startsWithBrace text := by
  have hhead : (crlf (trimStart text.toList)).head? = some '\x7b' ↔
      (trimStart text.toList).head? = some '\x7b' :=
    head?_crlf_eq_some_iff (by decide) (by decide)
  rw [startsWithBrace, startsWithBrace, toList_crlfText, trimStart_crlf, decide_eq_decide]
  exact hhead

/-- A document between braces is the same one with either line end. -/
theorem bracedDocument?_crlfText (text : String) :
    bracedDocument? (crlfText text) = bracedDocument? text := by
  rw [bracedDocument?, bracedDocument?, toList_crlfText, trim_crlf]
  generalize trim text.toList = body
  by_cases hbrace : ∃ rest, body = '\x7b' :: rest
  · obtain ⟨rest, rfl⟩ := hbrace
    have hread := Json.read?_crlf ('\x7b' :: rest)
    rw [crlf_cons (by decide)] at hread ⊢
    exact hread
  · rw [not_exists] at hbrace
    have hbrace' := crlf_ne_cons (by decide) (by decide) hbrace
    simp only

/-- The marks of branches stand within a line, so a drawing keeps them. -/
theorem isDrawing_crlfText (text : String) : isDrawing (crlfText text) = isDrawing text := by
  have honeLine : ∀ mark ∈ branchMarks, '\r' ∉ mark.toList ∧ '\n' ∉ mark.toList := by decide +kernel
  rw [isDrawing, isDrawing, Bool.eq_iff_iff, List.any_eq_true, List.any_eq_true]
  refine exists_congr fun mark => and_congr_right fun hmark => ?_
  rw [contains, contains, toList_crlfText,
    occursIn_crlf (honeLine mark hmark).1 (honeLine mark hmark).2]

section NoReturn

variable {text : String}

/-- A text with carriage returns only before line feeds has the same lines. -/
theorem linesOf_crlfText (h : '\r' ∉ text.toList) : linesOf (crlfText text) = linesOf text := by
  rw [linesOf, linesOf, toList_crlfText, splitLines_crlf h]

/-- The lines that a description is known by are looked for in small letters, which have the same
line ends. -/
theorem isDescription_crlfText (h : '\r' ∉ text.toList) :
    isDescription (crlfText text) = isDescription text := by
  have hlower : '\r' ∉ lower text.toList := return_notMem_lowerAfter h []
  rw [isDescription, isDescription, toList_crlfText, lower_crlf, splitLines_crlf hlower]

/-- An output is of the same kind with either line end. -/
theorem detectKind_crlfText (h : '\r' ∉ text.toList) :
    detectKind (crlfText text) = detectKind text := by
  rw [detectKind, detectKind, bracedDocument?_crlfText, startsWithBrace_crlfText,
    isDrawing_crlfText, isDescription_crlfText h]

/-! ## Readers of outputs -/

/-- The message about a dump that is no document names the flaw and not its place. -/
theorem readDump_crlfText (text : String) (filter : Option String) :
    PackageDump.read (crlfText text) filter = PackageDump.read text filter := by
  rw [PackageDump.read, PackageDump.read, toList_crlfText]
  obtain ⟨v, hcrlf, hread⟩ | ⟨failure, failure', hcrlf, hread, hflaw⟩ := Json.read_crlf text.toList
  · rw [hcrlf, hread]
  · rw [hcrlf, hread]
    simp only [hflaw]

/-- The message about a graph that is no document names the flaw and not its place. -/
theorem readGraphDocument_crlf (cs : List Char) :
    readGraphDocument (crlf cs) = readGraphDocument cs := by
  rw [readGraphDocument, readGraphDocument]
  obtain ⟨v, hcrlf, hread⟩ | ⟨failure, failure', hcrlf, hread, hflaw⟩ := Json.read_crlf cs
  · rw [hcrlf, hread]
  · rw [hcrlf, hread]
    simp only [hflaw]

/-- A graph is read alike as a document, and as a drawing line by line. -/
theorem readGraph_crlfText (h : '\r' ∉ text.toList) :
    readGraph (crlfText text) = readGraph text := by
  rw [readGraph, readGraph, startsWithBrace_crlfText, toList_crlfText, trimStart_crlf,
    readGraphDocument_crlf, Drawing.ofText, Drawing.ofText, linesOf_crlfText h]

/-- A description is read line by line. -/
theorem readDescription_crlfText (h : '\r' ∉ text.toList) (filter : Option String) :
    readDescription (crlfText text) filter = readDescription text filter := by
  cases filter with
  | some target => rfl
  | none => rw [readDescription, readDescription, linesOf_crlfText h]

/-- A build log is read line by line. -/
theorem readBuildLog_crlfText (h : '\r' ∉ text.toList) (filter : Option String) :
    readBuildLog (crlfText text) filter = readBuildLog text filter := by
  rw [readBuildLog, readBuildLog, logMessages, logMessages, linesOf_crlfText h]

/-- A lock file that is no document has no pins, whatever its flaw is. -/
theorem readResolved_crlfText (text : String) :
    readResolved (crlfText text) = readResolved text := by
  rw [readResolved, readResolved, bracedDocument?_crlfText]

/-- Every reader reads an output alike with either line end. -/
theorem readAs_crlfText (h : '\r' ∉ text.toList) (kind : CommandKind) (filter : Option String) :
    readAs kind (crlfText text) filter = readAs kind text filter := by
  cases kind with
  | dumpPackage => exact readDump_crlfText text filter
  | describe => exact congrArg Except.ok (readDescription_crlfText h filter)
  | showDependencies => exact readGraph_crlfText h
  | resolved => exact congrArg Except.ok (readResolved_crlfText text)
  | build => exact congrArg Except.ok (readBuildLog_crlfText h filter)

/-- An analysis without the output itself. -/
def Analysis.withoutRaw (a : Analysis) : Analysis := { a with raw := none }

/-- Only the output that is kept with its analysis shows the line ends. -/
theorem read_crlfText (h : '\r' ∉ text.toList) (filter : Option String) (keepRaw : Bool)
    (kind : Option CommandKind) :
    (read (crlfText text) filter keepRaw kind).map Analysis.withoutRaw =
      (read text filter keepRaw kind).map Analysis.withoutRaw := by
  rw [read, read, detectKind_crlfText h, readAs_crlfText h]
  cases readAs (kind.getD (detectKind text)) text filter with
  | error fault => rfl
  | ok analysis => cases keepRaw <;> rfl

/-- Line ends do not matter. With carriage returns before its line feeds a text is an output of the
same kind and has the same analysis, whatever target is asked for; the same is said of it as a
source file, and it declares a package if it did so before. -/
theorem line_ends_do_not_matter (h : '\r' ∉ text.toList) :
    detectKind (crlfText text) = detectKind text ∧
    (∀ filter keepRaw kind analysis, read text filter keepRaw kind = .ok analysis →
      ∃ analysis', read (crlfText text) filter keepRaw kind = .ok analysis' ∧
        analysis'.withoutRaw = analysis.withoutRaw) ∧
    (∀ vocabulary file, Source.check vocabulary file (crlfText text).toList =
      Source.check vocabulary file text.toList) ∧
    declaresPackage (crlfText text).toList = declaresPackage text.toList := by
  refine ⟨detectKind_crlfText h, fun filter keepRaw kind analysis hread => ?_,
    fun vocabulary file => ?_, ?_⟩
  · have hsame := read_crlfText h filter keepRaw kind
    rw [hread] at hsame
    cases hcrlf : read (crlfText text) filter keepRaw kind with
    | error fault =>
      rw [hcrlf] at hsame
      cases hsame
    | ok analysis' =>
      rw [hcrlf] at hsame
      exact ⟨analysis', rfl, Except.ok.inj hsame⟩
  · rw [Source.check, Source.check, toList_crlfText, splitLines_crlf h]
  · rw [declaresPackage, declaresPackage, toList_crlfText, splitLines_crlf h]

end NoReturn

/-- The messages of a log are the same with carriage returns, where no message ends in one. -/
theorem line_ends_do_not_matter_buildLog :
    let log := "error: no such module\nApp.swift:3:7: warning: unused\n"
    ∃ analysis, read (crlfText log) none true none = .ok analysis ∧
      analysis.issues.map (·.message) = ["no such module", "unused"] := by
  intro log
  have hreturn : '\r' ∉ log.toList := by decide +kernel
  have hkind : detectKind log = .build := by decide +kernel
  have hissues : (readBuildLog log none).issues.map (·.message) = ["no such module", "unused"] := by
    decide +kernel
  have hread : read log none true none = .ok { readBuildLog log none with raw := some log } := by
    rw [read, Option.getD_none, hkind]
    rfl
  obtain ⟨analysis, hcrlf, hsame⟩ :=
    (line_ends_do_not_matter hreturn).2.1 none true none _ hread
  exact ⟨analysis, hcrlf, (congrArg (fun a => a.issues.map (·.message)) hsame).trans hissues⟩

end PackageLint.Output
