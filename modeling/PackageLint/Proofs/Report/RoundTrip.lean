import PackageLint.Diagnostic.Report
import PackageLint.Proofs.Json.RoundTrip
import PackageLint.Proofs.Outcome

/-!
# Reading back a report

A report is read back except for its places. A place is written as one text and cut again at the
last colon, so it is lost where the written form is empty or ends like a line number that is not
there, and a negative line number is taken for a part of the file name.

## Main definitions

* `EndsWithLine`: a text ends with a colon and digits;
* `Location.IsRecoverable`: the places that are read back from their written form.

## Main results

* `Location.read_written_eq_ok_iff`: when a place is read back;
* `Report.read_write_eq_ok_iff`: when a report is read back.
-/

namespace PackageLint

/-- The text ends with a colon and at least one digit of any kind. -/
def EndsWithLine (s : String) : Prop :=
  ∃ file digits : String, s = file ++ ":" ++ digits ∧ digits ≠ "" ∧
    ∀ c ∈ digits.toList, Text.isDigit c = true

namespace Location

/-- The place can be told from its written form: its line is not negative, or it has no line and
a file name that is not empty and does not look as if it had one. -/
def IsRecoverable (l : Location) : Prop :=
  match l.line with
  | some n => 0 ≤ n
  | none => l.file ≠ "" ∧ ¬ EndsWithLine l.file

/-- Behind the last colon there are digits, or there is no line. -/
theorem read_append_digits {file digits : String} (hne : digits ≠ "")
    (hdigits : ∀ c ∈ digits.toList, Text.isDigit c = true) :
    read (file ++ ":" ++ digits) =
      match Text.natural? digits.toList with
      | some n => .ok { file, line := some n }
      | none => .error ⟨digits⟩ := by
  -- A digit is no colon, so the last colon is the one in front of the digits.
  have hcolon : ':' ∉ digits.toList := fun h => absurd (hdigits _ h) (by decide)
  have hcut : Text.cutAtLast ':' (file ++ ":" ++ digits).toList =
      some (file.toList, digits.toList) := by
    refine Text.cutAtLast_eq_some_iff.2 ⟨?_, hcolon⟩
    simp
  have hall : (!digits.toList.isEmpty && digits.toList.all Text.isDigit) = true := by
    simpa using ⟨hne, hdigits⟩
  rw [read, hcut]
  simp only [hall, String.ofList_toList]
  rfl

/-- A text that does not end like a line number is a file name. -/
theorem read_of_not_endsWithLine {s : String} (h : ¬ EndsWithLine s) :
    read s = .ok { file := s } := by
  rw [read]
  cases hcut : Text.cutAtLast ':' s.toList with
  | none => rfl
  | some p =>
    obtain ⟨before, after⟩ := p
    -- What follows the last colon is no number, or else the text would end like one.
    obtain ⟨heq, -⟩ := Text.cutAtLast_eq_some_iff.1 hcut
    have hno : ¬ (!after.isEmpty && after.all Text.isDigit) = true := by
      rw [Bool.and_eq_true, List.all_eq_true, Bool.not_eq_true', List.isEmpty_eq_false_iff]
      rintro ⟨hne, hdigits⟩
      refine h ⟨.ofList before, .ofList after, ?_, ?_, ?_⟩
      · rw [← String.toList_inj]
        simpa using heq
      · rw [Ne, ← String.toList_inj]
        simpa using hne
      · simpa using hdigits
    simp only [if_neg hno]

theorem written_of_line (file : String) (n : Int) :
    written { file, line := some n } = file ++ ":" ++ toString n := rfl

/-- A line that is not negative is read back, whatever the file name is. -/
theorem read_written_of_nonneg (file : String) {n : Int} (h : 0 ≤ n) :
    read (written { file, line := some n }) = .ok { file, line := some n } := by
  obtain ⟨k, rfl⟩ := Int.eq_ofNat_of_zero_le h
  have hchars : (toString (k : Int)).toList = Nat.toDigits 10 k := Nat.toList_repr
  have hne : toString (k : Int) ≠ "" := by
    rw [Ne, ← String.toList_inj, hchars]
    exact Nat.toDigits_ne_nil
  have hdigits : ∀ c ∈ (toString (k : Int)).toList, Text.isDigit c = true := by
    intro c hc
    rw [hchars] at hc
    have hdigit : c.isDigit = true := Nat.isDigit_of_mem_toDigits (by decide) (by decide) hc
    exact Text.isDigit_of_isDecimal (by rw [Text.isDecimal, Text.decimal?_of_isDigit hdigit]; rfl)
  rw [written_of_line, read_append_digits hne hdigits, hchars, Text.natural?_toDigits]

/-- A place that is read has no negative line. -/
theorem nonneg_of_read_eq_ok {s : String} {l : Location} {n : Int} (h : read s = .ok l)
    (hline : l.line = some n) : 0 ≤ n := by
  by_cases hend : EndsWithLine s
  · obtain ⟨file, digits, rfl, hne, hdigits⟩ := hend
    rw [read_append_digits hne hdigits] at h
    cases hnumber : Text.natural? digits.toList with
    | none => simp [hnumber] at h
    | some k =>
      simp only [hnumber, Except.ok.injEq] at h
      subst h
      obtain rfl := Option.some.inj hline
      exact Int.natCast_nonneg k
  · rw [read_of_not_endsWithLine hend, Except.ok.injEq] at h
    subst h
    cases hline

/-- What looks as if it had a line is not read as a file name. -/
theorem read_ne_ok_of_endsWithLine {s : String} (h : EndsWithLine s) :
    read s ≠ .ok { file := s } := by
  obtain ⟨file, digits, rfl, hne, hdigits⟩ := h
  rw [read_append_digits hne hdigits]
  cases Text.natural? digits.toList <;> simp

/-- A place is read back from a written form exactly if it can be told from it. -/
theorem read_written_eq_ok_iff {l : Location} :
    (l.written ≠ "" ∧ read l.written = .ok l) ↔ l.IsRecoverable := by
  obtain ⟨file, line⟩ := l
  cases line with
  | none =>
    refine and_congr_right fun _ => ⟨fun h hend => ?_, fun h => read_of_not_endsWithLine h⟩
    exact read_ne_ok_of_endsWithLine hend h
  | some n =>
    refine ⟨fun h => nonneg_of_read_eq_ok h.2 rfl, fun h => ⟨?_, read_written_of_nonneg file h⟩⟩
    rw [written_of_line, Ne, ← String.toList_inj]
    simp

end Location

namespace Diagnostic

/-- The place that a report gives a diagnostic when it is read back. -/
def rereadLocation (d : Diagnostic) : Except NotANumber (Option Location) :=
  match (Value.ofText? (d.location.map (·.written))).nonemptyText? with
  | some s => (Location.read s).map some
  | none => .ok none

/-- A diagnostic is a table of a report, from which all but its place is read back. -/
theorem exists_toDocument_eq_table (d : Diagnostic) :
    ∃ entries, d.toDocument = .table entries ∧
      ofTable entries = d.rereadLocation.map fun location => { d with location } := by
  refine ⟨_, rfl, ?_⟩
  have hsuggestion : (Value.ofText? d.suggestion).text? = d.suggestion := by
    cases d.suggestion <;> rfl
  simp only [ofTable, List.map_cons, List.map_nil, Table.get_cons, Table.find?_cons, rereadLocation,
    Scalar.text.injEq, String.reduceEq, reduceIte, Severity.ofValue, Severity.ofName_name,
    Category.ofValue, Category.ofName_name, Option.getD_some, Value.written_text, hsuggestion,
    bind_pure_comp, map_pure]
  cases (Value.ofText? (d.location.map (·.written))).nonemptyText? with
  | none => rfl
  | some s => cases Location.read s <;> rfl

/-- The place is read back if there is none, or if it can be told from its written form. -/
theorem rereadLocation_eq_ok_iff {d : Diagnostic} :
    d.rereadLocation = .ok d.location ↔ ∀ l, d.location = some l → l.IsRecoverable := by
  obtain ⟨severity, category, message, location, suggestion⟩ := d
  cases location with
  | none => simp [rereadLocation, Value.ofText?, Value.nonemptyText?]
  | some l =>
    -- A place whose written form is empty is written like no place at all.
    simp only [rereadLocation, Option.map_some, Value.ofText?, Value.nonemptyText?,
      Option.some.injEq, forall_eq', ← Location.read_written_eq_ok_iff]
    by_cases hempty : l.written = ""
    · simp [hempty]
    · rw [if_neg (by simpa using hempty)]
      change (Location.read l.written).map some = .ok (some l) ↔ _
      cases Location.read l.written <;> simp [hempty, Except.map]

theorem isPlain_ofText? (text : Option String) : (Value.ofText? text).IsPlain := by
  cases text with
  | none => exact .null
  | some s => exact .text s

theorem isPlain_toDocument (d : Diagnostic) : d.toDocument.IsPlain := by
  refine .ofFields (by simp) fun field hfield => ?_
  simp only [List.mem_cons, List.not_mem_nil, or_false] at hfield
  rcases hfield with rfl | rfl | rfl | rfl | rfl
  · exact .text _
  · exact .text _
  · exact .text _
  · exact isPlain_ofText? _
  · exact isPlain_ofText? _

end Diagnostic

namespace Report

/-- The document of a report gives its diagnostics, if their places can be told from their written
forms. -/
theorem mapM_ofTable_toDocument_eq_ok_iff {ds : List Diagnostic} :
    ((ds.map (·.toDocument)).filterMap Value.table?).mapM Diagnostic.ofTable = .ok ds ↔
      ∀ d ∈ ds, ∀ l, d.location = some l → l.IsRecoverable := by
  rw [mapM_eq_ok_iff]
  induction ds with
  | nil => simp
  | cons d ds ih =>
    obtain ⟨entries, hdocument, hread⟩ := d.exists_toDocument_eq_table
    have hlocation : Diagnostic.ofTable entries = .ok d ↔ d.rereadLocation = .ok d.location := by
      rw [hread, map_eq_ok_iff]
      constructor
      · rintro ⟨location, hlocation, hd⟩
        rw [hlocation, ← hd]
      · intro h
        exact ⟨_, h, rfl⟩
    rw [List.map_cons, hdocument, List.filterMap_cons, Value.table?_table, List.forall_mem_cons,
      List.forall₂_cons, ih, hlocation, Diagnostic.rereadLocation_eq_ok_iff]

/-- A report is read back, bare or under its field, exactly if each place in it can be told from
its written form. -/
theorem read_write_eq_ok_iff (indent : Option Nat) (ds : List Diagnostic) :
    (read (write indent ds) = .ok ds ↔
      ∀ d ∈ ds, ∀ l, d.location = some l → l.IsRecoverable) ∧
    (read (Json.write indent (.ofFields [("diagnostics", toDocument ds)])) = .ok ds ↔
      ∀ d ∈ ds, ∀ l, d.location = some l → l.IsRecoverable) := by
  -- Both documents are written in full, so reading gives them back and only places can be lost.
  have hplain : (toDocument ds).IsPlain := by
    refine .list fun v hv => ?_
    obtain ⟨d, -, rfl⟩ := List.mem_map.1 hv
    exact d.isPlain_toDocument
  have hfield : (Value.ofFields [("diagnostics", toDocument ds)]).IsPlain :=
    .ofFields (by simp) (by simpa using hplain)
  have hdocument : ofDocument (toDocument ds) = .ok ds ↔
      ∀ d ∈ ds, ∀ l, d.location = some l → l.IsRecoverable := by
    exact mapError_eq_ok_iff.trans mapM_ofTable_toDocument_eq_ok_iff
  refine ⟨?_, ?_⟩
  · rw [read, write, Json.read_write indent hplain]
    exact hdocument
  · rw [read, Json.read_write indent hfield]
    exact hdocument

/-- A diagnostic at a place. -/
def placedDiagnostic (location : Location) : Diagnostic :=
  { severity := .warning, category := .compilation, message := "Two lines\nand \"quotes\"", location }

/-- A colon in the name of a file is no matter next to a line, but without one its end is taken for
the line. -/
theorem read_write_eq_ok_iff_placedDiagnostic :
    let kept := [placedDiagnostic { file := "a:1", line := some 12 }]
    let lost := [placedDiagnostic { file := "a:1" }]
    read (write (some 2) kept) = .ok kept ∧
    read (Json.write none (.ofFields [("diagnostics", toDocument kept)])) = .ok kept ∧
    read (write (some 2) lost) ≠ .ok lost := by
  intro kept lost
  have hkept : ∀ d ∈ kept, ∀ l, d.location = some l → l.IsRecoverable := by
    intro d hd l hl
    rw [List.mem_singleton.1 hd] at hl
    obtain rfl := Option.some.inj hl
    exact Int.natCast_nonneg 12
  have hdigit : Text.isDigit '1' = true :=
    Text.isDigit_of_isDecimal (by rw [Text.isDecimal, Text.decimal?_of_isDigit rfl]; rfl)
  have hlost : EndsWithLine "a:1" := ⟨"a", "1", rfl, by decide, List.forall_mem_singleton.2 hdigit⟩
  refine ⟨(read_write_eq_ok_iff _ kept).1.2 hkept, (read_write_eq_ok_iff _ kept).2.2 hkept,
    fun h => ?_⟩
  have hrecoverable := (read_write_eq_ok_iff _ lost).1.1 h _ List.mem_cons_self _ rfl
  exact hrecoverable.2 hlost

end Report

end PackageLint
